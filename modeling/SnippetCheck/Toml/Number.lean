import SnippetCheck.Numeral
import SnippetCheck.Text.Lines
import SnippetCheck.Text.Start
import SnippetCheck.Toml.Basic

/-! Numbers in TOML text. Underscores may stand between digits, one at a time. An integer is one of
64 bits; a real number that is greater than every double is none. -/

namespace SnippetCheck.Toml

open Text Numeral

/-- The digits that a text starts with, at least one, without the underscores between them, and
the text after them. -/
def digitGroups? (isDigit : Char → Bool) (s : List Char) : Option (List Char × List Char) :=
  let inRun (c : Char) : Bool := isDigit c || c == '_'
  let groups := pieces '_' (s.takeWhile inRun)
  if groups.any List.isEmpty then none else some (groups.flatten, s.dropWhile inRun)

/-- The decimal digits that a text starts with; a zero that is not the only one may not lead. -/
def wholePart? (s : List Char) : Option (List Char × List Char) := do
  let (ds, rest) ← digitGroups? Char.isDigit s
  guard (ds.head? ≠ some '0' ∨ ds = ['0'])
  return (ds, rest)

/-- Whether a text starts with a minus, and the text after its sign. -/
def sign : List Char → Bool × List Char
  | '-' :: s => (true, s)
  | '+' :: s => (false, s)
  | s => (false, s)

def ofBase (base : Nat) (ds : List Char) : Nat :=
  ds.foldl (fun n c => base * n + (hexDigit? c).getD 0) 0

def isDigitOf (base : Nat) (c : Char) : Bool := (hexDigit? c).any (· < base)

/-- The number written to a base that its first characters name, or else in decimal digits. -/
def unlimited? : List Char → Option (Int × List Char)
  | '0' :: 'x' :: s => (digitGroups? (isDigitOf 16) s).map fun (ds, s) => (ofBase 16 ds, s)
  | '0' :: 'o' :: s => (digitGroups? (isDigitOf 8) s).map fun (ds, s) => (ofBase 8 ds, s)
  | '0' :: 'b' :: s => (digitGroups? (isDigitOf 2) s).map fun (ds, s) => (ofBase 2 ds, s)
  | s =>
    (wholePart? (sign s).2).map fun (ds, rest) =>
      (if (sign s).1 then -(ofDigits ds : Int) else ofDigits ds, rest)

/-- The integer that a text starts with, and the text after it. -/
def integer? (s : List Char) : Option (Int × List Char) := do
  let (n, rest) ← unlimited? s
  guard (-0x8000000000000000 ≤ n ∧ n < 0x8000000000000000)
  return (n, rest)

def fraction? : List Char → Option (Option (List Char) × List Char)
  | '.' :: s => (digitGroups? Char.isDigit s).map fun (ds, rest) => (some ds, rest)
  | s => some (none, s)

def exponent? (s : List Char) : Option (Option Int × List Char) :=
  match after? ['e'] s <|> after? ['E'] s with
  | some s =>
    (digitGroups? Char.isDigit (sign s).2).map fun (ds, rest) =>
      (some (if (sign s).1 then -(ofDigits ds : Int) else ofDigits ds), rest)
  | none => some (none, s)

/-- The text after the real number that it starts with: infinity or no number by name, or a number
with a fraction, an exponent or both. -/
def afterFloat? (s : List Char) : Option (List Char) :=
  let (minus, s) := sign s
  after? "inf".toList s <|> after? "nan".toList s <|> do
    let (whole, s) ← wholePart? s
    let (fraction, s) ← fraction? s
    let (exponent, s) ← exponent? s
    guard (fraction.isSome ∨ exponent.isSome)
    let places := fraction.getD []
    guard (minus ∨ finite (ofDigits (whole ++ places)) (exponent.getD 0 - places.length))
    return s

end SnippetCheck.Toml
