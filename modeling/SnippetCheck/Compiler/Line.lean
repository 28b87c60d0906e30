import SnippetCheck.Diagnostic
import SnippetCheck.Numeral
import SnippetCheck.Text.Character
import SnippetCheck.Text.Start

/-! What a line of a compiler's error text is. A line that opens a diagnostic names a level and
perhaps a code; an arrow gives the place of the diagnostic; any other line that is not blank
continues its message. `isTotal` knows the lines in which a compiler counts what it reported. -/

namespace SnippetCheck.Compiler

open Text

inductive Line where
  /-- The line opens this diagnostic. -/
  | opening (d : Diagnostic)
  /-- The line is an arrow to a place. -/
  | arrow (file : String) (line column : Nat)
  | blank
  /-- The line is part of a message, here without the blanks at its end. -/
  | text (t : String)
deriving DecidableEq, Repr

def leadingLevel? (s : List Char) : Option (Level × List Char) :=
  match after? Level.error.name.toList s with
  | some rest => some (.error, rest)
  | none => (after? Level.warning.name.toList s).map fun rest => (.warning, rest)

/-- The code in brackets that a text starts with, if any, and the text after it. A code has at
least one character, and its first `]` ends it. -/
def leadingCode (s : List Char) : Option (List Char) × List Char :=
  match s with
  | '[' :: rest =>
    match rest.takeWhile (· != ']'), rest.dropWhile (· != ']') with
    | c :: code, ']' :: rest => (some (c :: code), rest)
    | _, _ => (none, s)
  | _ => (none, s)

/-- The diagnostic that a line without blanks at its end opens: a level, perhaps a code, a colon
and a message that lies on one line. -/
def opening? (line : List Char) : Option Diagnostic :=
  match leadingLevel? (trimStart line) with
  | none => none
  | some (level, rest) =>
    match leadingCode rest with
    | (code, ':' :: rest) =>
      let message := trimStart rest
      if '\n' ∈ message then none
      else some { level, message := String.ofList message, code := code.map String.ofList }
    | _ => none

/-- The number written by ASCII digits, if there is at least one, all are digits, and the number has
at most 64 bits. -/
def number? (s : List Char) : Option Nat :=
  if s = [] ∨ ¬ s.all Char.isDigit then none
  else
    let n := Numeral.ofDigits s
    if n ≤ Numeral.wordMax then some n else none

def splitLastColon? (s : List Char) : Option (List Char × List Char) :=
  match (s.reverse.dropWhile (· != ':')) with
  | _ :: before => some (before.reverse, (s.reverse.takeWhile (· != ':')).reverse)
  | [] => none

/-- The file that an arrow names by the text between the arrow and the numbers: the text without
its leading blanks or, if it is blank, its last character. A file's name lies on one line. -/
def arrowFile? (s : List Char) : Option (List Char) :=
  let file := match trimStart s with
    | [] => s.getLast?.toList
    | file => file
  if file = [] ∨ '\n' ∈ file then none else some file

/-- The place that a line without blanks at its end points to: an arrow, a file, and two
numbers, each after a colon. -/
def arrow? (line : List Char) : Option (String × Nat × Nat) := do
  let rest ← after? "-->".toList (trimStart line)
  let (rest, column) ← splitLastColon? rest
  let (rest, row) ← splitLastColon? rest
  let file ← arrowFile? rest
  return (String.ofList file, ← number? row, ← number? column)

/-- What a line says. The blanks at its end never matter. -/
def Line.ofText (line : List Char) : Line :=
  let t := trimEnd line
  if t = [] then .blank
  else
    match opening? t with
    | some d => .opening d
    | none =>
      match arrow? t with
      | some (file, row, column) => .arrow file row column
      | none => .text (String.ofList t)

/-- The text after the blanks that a text starts with, if there is at least one. -/
def afterBlanks? (s : List Char) : Option (List Char) :=
  match s with
  | c :: _ => if isBlank c then some (trimStart s) else none
  | [] => none

/-- The text after the decimal digits that a text starts with, if there is at least one. -/
def afterDigits? (s : List Char) : Option (List Char) :=
  match s with
  | c :: _ => if isDecimalDigit c then some (s.dropWhile isDecimalDigit) else none
  | [] => none

/-- Whether a text goes on with blanks, a count, blanks and the word `warning`. -/
def countsWarnings (s : List Char) : Bool :=
  (do
    let rest ← afterDigits? (← afterBlanks? s)
    after? "warning".toList (← afterBlanks? rest)).isSome

/-- Whether some `generated` on the first line of a text is followed by a count of warnings. -/
def generatesWarnings : List Char → Bool
  | [] => false
  | c :: s =>
    ((after? "generated".toList (c :: s)).any countsWarnings) ||
      (c != '\n' && generatesWarnings s)

/-- Whether a line is a total: a line in which a compiler sums up what it reported. -/
def isTotal (line : List Char) : Bool :=
  let s := trimStart line
  (after? "error: aborting due to".toList s).isSome ||
  (after? "error: could not compile".toList s).isSome ||
  (after? "warning: build failed".toList s).isSome ||
  ((after? "warning: ".toList s).any generatesWarnings)

end SnippetCheck.Compiler
