/-! Numerals: numbers as text writes them, in ASCII digits. `finite` and `vanishes` say where a
decimal number leaves the range of the doubles. -/

namespace SnippetCheck.Numeral

def wordMax : Nat := 0xFFFFFFFFFFFFFFFF

def hexDigit? (c : Char) : Option Nat :=
  if c.isDigit then some (c.toNat - '0'.toNat)
  else if 'a' ≤ c ∧ c ≤ 'f' then some (c.toNat - 'a'.toNat + 10)
  else if 'A' ≤ c ∧ c ≤ 'F' then some (c.toNat - 'A'.toNat + 10)
  else none

def ofDigits (ds : List Char) : Nat := ds.foldl (fun n c => 10 * n + (c.toNat - '0'.toNat)) 0

/-- The digits that a text starts with, at least one, and the text after them. -/
def digits? (s : List Char) : Option (List Char × List Char) :=
  match s.takeWhile Char.isDigit with
  | [] => none
  | ds => some (ds, s.dropWhile Char.isDigit)

/-- How many decimal digits a number has, for a bound on its size: `n < 10 ^ digitCount n`. -/
def digitCount (n : Nat) : Nat := (Nat.toDigits 10 n).length

/-- Whether `significand * 10 ^ exponent` rounds to a double that is finite: it lies below the
middle between the largest double and `2 ^ 1024`. -/
def finite (significand : Nat) (exponent : Int) : Bool :=
  let size := exponent + digitCount significand
  if significand = 0 ∨ size ≤ 308 then true
  else if 310 < size then false
  else
    let bound := Nat.pow 2 1024 - Nat.pow 2 970
    if 0 ≤ exponent then significand * Nat.pow 10 exponent.toNat < bound
    else significand < bound * Nat.pow 10 (-exponent).toNat

/-- Whether `significand * 10 ^ exponent` rounds to the double zero: it is at most half the least
positive double, `2 ^ (-1074)`. -/
def vanishes (significand : Nat) (exponent : Int) : Bool :=
  let size := exponent + digitCount significand
  if significand = 0 ∨ size < -324 then true
  else if -322 < size then false
  else significand * Nat.pow 2 1075 ≤ Nat.pow 10 (-exponent).toNat

theorem digits?_length {s rest ds : List Char} (h : digits? s = some (ds, rest)) :
    rest.length < s.length := by
  unfold digits? at h
  split at h
  · simp at h
  next hds =>
    simp only [Option.some.injEq, Prod.mk.injEq] at h
    have := congrArg List.length (List.takeWhile_append_dropWhile (p := Char.isDigit) (l := s))
    rw [List.length_append, h.1, h.2] at this
    have : 0 < ds.length := List.length_pos_iff.2 (h.1 ▸ hds)
    omega

end SnippetCheck.Numeral
