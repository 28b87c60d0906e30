import SnippetCheck.Text.Lines

/-! Labels of host names in ASCII. A label with characters beyond ASCII is written as its ASCII
characters and then one number for each of the others, which says which character comes next and
where it is put. A number is written in digits of which each but the last is at least a threshold,
so that no marks are needed between numbers. -/

namespace SnippetCheck.Url.Punycode

/-- The digit for a number below 36: letters, and then decimal digits. -/
def digit (n : Nat) : Char :=
  if n < 26 then Char.ofNat ('a'.toNat + n) else Char.ofNat ('0'.toNat + (n - 26))

/-- The least value of a digit that is not the last one of its number. It grows from digit to
digit, between 1 and 26. -/
def threshold (bias position : Nat) : Nat := max 1 (min 26 (36 * position - bias))

/-- The digits of a number from a position on, where the first digit has position one. -/
def digits (bias position n : Nat) : List Char :=
  let t := threshold bias position
  if n < t then [digit n]
  else digit (t + (n - t) % (36 - t)) :: digits bias (position + 1) ((n - t) / (36 - t))
termination_by n
decreasing_by
  have : ¬ n < threshold bias position := by assumption
  have : 1 ≤ threshold bias position := Nat.le_max_left ..
  have := Nat.div_le_self (n - threshold bias position) (36 - threshold bias position)
  omega

/-- How many digits a number of the size of `n` is expected to have, and what is left of it. -/
def scale (n : Nat) : Nat × Nat :=
  if n ≤ 455 then (0, n)
  else
    let (count, rest) := scale (n / 35)
    (count + 1, rest)
termination_by n

/-- The bias for the next number after the number `n`, when `handled` characters are in place. -/
def adapt (n handled : Nat) (isFirst : Bool) : Nat :=
  let n := if isFirst then n / 700 else n / 2
  let (count, rest) := scale (n + n / handled)
  36 * count + 36 * rest / (rest + 38)

/-- What has been written of a label: its numbers, and what the next number is at least. -/
structure Progress where
  written : List Char := []
  next : Nat := 0
  bias : Nat := 72
  /-- How many characters are in place. -/
  handled : Nat

/-- Goes past one character of the label, when the characters of the code point `code` are put in
place: smaller ones are in place already and larger ones are not. -/
def Progress.pass (basic code : Nat) (p : Progress) (c : Char) : Progress :=
  if c.toNat < code then { p with next := p.next + 1 }
  else if c.toNat = code then
    { written := p.written ++ digits p.bias 1 p.next, next := 0
      bias := adapt p.next (p.handled + 1) (p.handled == basic)
      handled := p.handled + 1 }
  else p

/-- Puts the characters of each code point in place, from the smallest to the largest. All below
`floor` are in place. -/
def Progress.placeAll (label : List Char) (basic floor : Nat) (p : Progress) :
    List Nat → Progress
  | [] => p
  | code :: codes =>
    let p := { p with next := p.next + (code - floor) * (p.handled + 1) }
    let p := label.foldl (pass basic code) p
    placeAll label basic (code + 1) { p with next := p.next + 1 } codes

/-- A label in ASCII; one that is in ASCII stays as it is. -/
def label (s : List Char) : List Char :=
  let basic := s.filter (·.toNat < 0x80)
  let others := (s.map Char.toNat).filter (0x80 ≤ ·)
  if others = [] then s
  else
    let codes := (others.mergeSort (· ≤ ·)).eraseDups
    let start : Progress := { handled := basic.length }
    "xn--".toList ++ basic ++ (if basic = [] then [] else ['-']) ++
      (start.placeAll s basic.length 0x80 codes).written

def name (s : List Char) : List Char := Text.join ['.'] ((Text.pieces '.' s).map label)

end SnippetCheck.Url.Punycode
