import SnippetCheck.Numeral
import SnippetCheck.Text.Start

/-! Points in time in TOML text: a date, a time, or both with perhaps the distance from universal
time. -/

namespace SnippetCheck.Toml

open Text

def isLeap (year : Nat) : Bool := year % 4 = 0 && (year % 100 != 0 || year % 400 = 0)

def monthLength (year month : Nat) : Nat :=
  if month = 2 then if isLeap year then 29 else 28
  else if month = 4 ∨ month = 6 ∨ month = 9 ∨ month = 11 then 30
  else 31

/-- The number between bounds that two digits write, and the text after them. -/
def twoDigits? (low high : Nat) : List Char → Option (Nat × List Char)
  | a :: b :: s => do
    guard (a.isDigit ∧ b.isDigit)
    let n := Numeral.ofDigits [a, b]
    guard (low ≤ n ∧ n ≤ high)
    return (n, s)
  | _ => none

def afterDate? (s : List Char) : Option (List Char) := do
  let year := s.take 4
  guard (year.length = 4 ∧ year.all Char.isDigit)
  let s ← after? ['-'] (s.drop 4)
  let (month, s) ← twoDigits? 1 12 s
  let s ← after? ['-'] s
  let (_, s) ← twoDigits? 1 (monthLength (Numeral.ofDigits year) month) s
  return s

/-- The text after the fraction of a second, if the text starts with one. -/
def afterFraction (s : List Char) : List Char :=
  match s with
  | '.' :: t => ((Numeral.digits? t).map (·.2)).getD s
  | _ => s

/-- The text after the time of day that it starts with. A minute may have a leap second. -/
def afterTime? (s : List Char) : Option (List Char) := do
  let (_, s) ← twoDigits? 0 23 s
  let s ← after? [':'] s
  let (_, s) ← twoDigits? 0 59 s
  let s ← after? [':'] s
  let (_, s) ← twoDigits? 0 60 s
  return afterFraction s

/-- The text after the distance from universal time, if the text starts with one. -/
def afterOffset (s : List Char) : List Char :=
  let hours? (t : List Char) : Option (List Char) := do
    let (_, t) ← twoDigits? 0 23 t
    let t ← after? [':'] t
    let (_, t) ← twoDigits? 0 59 t
    return t
  match s with
  | c :: t =>
    if c = 'Z' ∨ c = 'z' then t
    else if c = '+' ∨ c = '-' then (hours? t).getD s
    else s
  | [] => []

/-- The text after the point in time that it starts with. -/
def afterDateTime? (s : List Char) : Option (List Char) :=
  match afterDate? s with
  | some (c :: t) =>
    if c = 'T' ∨ c = 't' ∨ c = ' ' then some (((afterTime? t).map afterOffset).getD (c :: t))
    else some (c :: t)
  | some [] => some []
  | none => afterTime? s

end SnippetCheck.Toml
