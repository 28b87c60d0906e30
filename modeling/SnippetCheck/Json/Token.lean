import SnippetCheck.Json.Basic
import SnippetCheck.Text.Start

/-! The tokens of JSON text. White space between tokens is dropped; text that no token starts
becomes one token `junk`, which no value contains, so that scanning never fails. -/

namespace SnippetCheck.Json

open Text Numeral

/-- A token. A number or string is `none` if it is well formed but denotes nothing. -/
inductive Token where
  | openArray
  | closeArray
  | openObject
  | closeObject
  | comma
  | colon
  | null
  | bool (b : Bool)
  | number (n : Option Number)
  | string (s : Option String)
  | junk
deriving DecidableEq, Repr

def isSpace (c : Char) : Bool := c == ' ' || c == '\t' || c == '\n' || c == '\r'

/-- A unit of a string: a character, or one half of a surrogate pair. -/
inductive Piece where
  | char (c : Char)
  | half (n : Nat)
deriving DecidableEq, Repr

def hex4? (a b c d : Char) : Option Nat := do
  let a ← hexDigit? a
  let b ← hexDigit? b
  let c ← hexDigit? c
  let d ← hexDigit? d
  return ((a * 16 + b) * 16 + c) * 16 + d

/-- What an escape of a code unit stands for. -/
def Piece.ofUnit (n : Nat) : Piece :=
  if 0xD800 ≤ n ∧ n ≤ 0xDFFF then .half n else .char (Char.ofNat n)

/-- What a backslash before a character stands for. -/
def escaped? (c : Char) : Option Char :=
  if c = '"' ∨ c = '\\' ∨ c = '/' then some c
  else if c = 'b' then some '\x08'
  else if c = 'f' then some '\x0c'
  else if c = 'n' then some '\n'
  else if c = 'r' then some '\r'
  else if c = 't' then some '\t'
  else none

/-- The pieces of a string after its opening quote, and the text after its closing quote. -/
def stringBody? : List Char → Option (List Piece × List Char)
  | [] => none
  | '"' :: rest => some ([], rest)
  | '\\' :: 'u' :: a :: b :: c :: d :: rest => do
    let n ← hex4? a b c d
    let (ps, rest) ← stringBody? rest
    return (.ofUnit n :: ps, rest)
  | '\\' :: e :: rest => do
    let c ← escaped? e
    let (ps, rest) ← stringBody? rest
    return (.char c :: ps, rest)
  | c :: rest =>
    if c.toNat < 0x20 then none
    else do
      let (ps, rest) ← stringBody? rest
      return (.char c :: ps, rest)

/-- The text that pieces denote: each first half of a pair must meet a second one. -/
def Piece.text? : List Piece → Option (List Char)
  | [] => some []
  | .char c :: ps => (text? ps).map (c :: ·)
  | .half h :: .half l :: ps =>
    if h < 0xDC00 ∧ 0xDC00 ≤ l then
      (text? ps).map (Char.ofNat (0x10000 + (h - 0xD800) * 0x400 + (l - 0xDC00)) :: ·)
    else none
  | .half _ :: _ => none

/-- The integer part of a number: a zero, or digits that do not start with one. -/
def integerPart? : List Char → Option (List Char × List Char)
  | '0' :: rest => some (['0'], rest)
  | s => digits? s

def fractionPart? : List Char → Option (Option (List Char) × List Char)
  | '.' :: rest => (digits? rest).map fun (ds, rest) => (some ds, rest)
  | s => some (none, s)

def exponentPart? : List Char → Option (Option Int × List Char)
  | [] => some (none, [])
  | c :: rest =>
    if c = 'e' ∨ c = 'E' then
      match rest with
      | '-' :: rest => (digits? rest).map fun (ds, rest) => (some (-(ofDigits ds : Int)), rest)
      | '+' :: rest => (digits? rest).map fun (ds, rest) => (some (ofDigits ds : Int), rest)
      | _ => (digits? rest).map fun (ds, rest) => (some (ofDigits ds : Int), rest)
    else some (none, c :: rest)

/-- The number that a literal writes, by its sign and parts, if a double can hold it. -/
def Number.ofParts? (negative : Bool) (whole : List Char) (fraction : Option (List Char))
    (exponent : Option Int) : Option Number :=
  let n := ofDigits whole
  let real (significand : Nat) (exponent : Int) : Option Number :=
    if finite significand exponent then some (.real negative significand exponent) else none
  match fraction, exponent with
  | none, none =>
    if negative then
      if 1 ≤ n ∧ n ≤ 0x8000000000000000 then some (.negative n) else real n 0
    else
      if n ≤ wordMax then some (.natural n) else real n 0
  | _, _ =>
    let places := fraction.getD []
    real (ofDigits (whole ++ places)) (exponent.getD 0 - places.length)

def number? (s : List Char) : Option (Option Number × List Char) := do
  let (negative, s) := match s with
    | '-' :: rest => (true, rest)
    | s => (false, s)
  let (whole, s) ← integerPart? s
  let (fraction, s) ← fractionPart? s
  let (exponent, s) ← exponentPart? s
  return (Number.ofParts? negative whole fraction exponent, s)

/-- The token that a text starts with, and the text after it. The text is not empty and does not
start with white space. -/
def Token.first (s : List Char) : Token × List Char :=
  match s with
  | '[' :: rest => (.openArray, rest)
  | ']' :: rest => (.closeArray, rest)
  | '{' :: rest => (.openObject, rest)
  | '}' :: rest => (.closeObject, rest)
  | ',' :: rest => (.comma, rest)
  | ':' :: rest => (.colon, rest)
  | 'n' :: 'u' :: 'l' :: 'l' :: rest => (.null, rest)
  | 't' :: 'r' :: 'u' :: 'e' :: rest => (.bool true, rest)
  | 'f' :: 'a' :: 'l' :: 's' :: 'e' :: rest => (.bool false, rest)
  | '"' :: rest =>
    match stringBody? rest with
    | some (ps, rest) => (.string ((Piece.text? ps).map String.ofList), rest)
    | none => (.junk, [])
  | s =>
    match number? s with
    | some (n, rest) => (.number n, rest)
    | none => (.junk, [])

theorem stringBody?_length {s rest : List Char} {ps : List Piece}
    (h : stringBody? s = some (ps, rest)) : rest.length < s.length := by
  fun_induction stringBody? s generalizing ps <;> simp_all [bind, Option.bind_eq_some_iff] <;>
    grind

theorem integerPart?_length {s rest ds : List Char} (h : integerPart? s = some (ds, rest)) :
    rest.length < s.length := by
  unfold integerPart? at h
  split at h
  · simp_all
  · exact digits?_length h

theorem fractionPart?_length {s rest : List Char} {ds : Option (List Char)}
    (h : fractionPart? s = some (ds, rest)) : rest.length ≤ s.length := by
  unfold fractionPart? at h
  split at h
  · obtain ⟨⟨_, _⟩, hd, heq⟩ := Option.map_eq_some_iff.1 h
    have := digits?_length hd
    simp_all
    omega
  · simp_all

theorem exponentPart?_length {s rest : List Char} {e : Option Int}
    (h : exponentPart? s = some (e, rest)) : rest.length ≤ s.length := by
  unfold exponentPart? at h
  split at h
  · simp_all
  · split at h
    · split at h <;>
      · obtain ⟨⟨_, _⟩, hd, heq⟩ := Option.map_eq_some_iff.1 h
        have := digits?_length hd
        simp_all
        omega
    · simp_all

theorem number?_length {s rest : List Char} {n : Option Number}
    (h : number? s = some (n, rest)) : rest.length < s.length := by
  unfold number? at h
  split at h
  next negative t hsign =>
    have ht : t.length ≤ s.length := by
      split at hsign <;> simp_all
    simp only [bind, Option.bind_eq_some_iff, pure, Option.some.injEq, Prod.mk.injEq] at h
    obtain ⟨⟨_, s1⟩, h1, ⟨_, s2⟩, h2, ⟨_, s3⟩, h3, _, rfl⟩ := h
    have := integerPart?_length h1
    have := fractionPart?_length h2
    have := exponentPart?_length h3
    simp only at *
    omega

theorem Token.first_length {s : List Char} (h : s ≠ []) : (first s).2.length < s.length := by
  unfold first
  split <;> try (simp; done)
  · simp; omega
  · simp; omega
  · simp; omega
  · split
    next hb => have := stringBody?_length hb; simp; omega
    next => simp
  · split
    next hn => exact number?_length hn
    next => exact List.length_pos_iff.2 h

def Token.scan (s : List Char) : List Token :=
  match _rest : s.dropWhile isSpace with
  | [] => []
  | c :: rest => (first (c :: rest)).1 :: scan (first (c :: rest)).2
termination_by s.length
decreasing_by
  have := Token.first_length (List.cons_ne_nil c rest)
  have := (List.dropWhile_sublist (p := isSpace) (l := s)).length_le
  rw [_rest] at this
  omega

end SnippetCheck.Json
