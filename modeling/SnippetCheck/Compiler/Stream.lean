import SnippetCheck.Compiler.Line
import SnippetCheck.Report

/-! The diagnostics in a compiler's error text. A diagnostic is open from the line that names its
level to the next such line or the end; the first arrow in between gives its place and every line of
text goes on with its message. `next` takes no more lines than it needs to finish one diagnostic;
`diagnostics` takes them all. -/

namespace SnippetCheck

/-- The diagnostic after an arrow: the first arrow gives the place, a later one belongs to a
note. -/
def Diagnostic.locate (d : Diagnostic) (file : String) (line column : Nat) : Diagnostic :=
  if d.file.isNone then d.withLocation file line column else d

/-- The diagnostic after a line of text, which goes on with the message. -/
def Diagnostic.extend (d : Diagnostic) (text : String) : Diagnostic :=
  { d with message := if d.message = "" then text else d.message ++ "\n" ++ text }

namespace Compiler

open Text

/-- What is open after a line, and what the line finished. With `dropTotals` a total finishes the
open diagnostic and opens none. -/
def advance (dropTotals : Bool) (current : Option Diagnostic) (line : List Char) :
    Option Diagnostic × Option Diagnostic :=
  if dropTotals && isTotal line then (current, none)
  else
    match Line.ofText line with
    | .opening d => (current, some d)
    | .arrow file row column => (none, current.map (·.locate file row column))
    | .text t => (none, current.map (·.extend t))
    | .blank => (none, current)

/-- The diagnostics of lines that follow the open diagnostic `current`. -/
def diagnosticsFrom (dropTotals : Bool) (current : Option Diagnostic) :
    List (List Char) → List Diagnostic
  | [] => current.toList
  | line :: lines =>
    let (finished, current) := advance dropTotals current line
    finished.toList ++ diagnosticsFrom dropTotals current lines

/-- A reader of diagnostics: the lines that it has not taken, and the open diagnostic. -/
structure Stream where
  dropTotals : Bool := false
  lines : List (List Char)
  current : Option Diagnostic := none

namespace Stream

/-- The next diagnostic and the reader after it, from an open diagnostic and lines to take. -/
def nextFrom (dropTotals : Bool) (current : Option Diagnostic) :
    List (List Char) → Option Diagnostic × Stream
  | [] => (current, { dropTotals, lines := [] })
  | line :: lines =>
    match advance dropTotals current line with
    | (some d, current) => (some d, { dropTotals, lines, current })
    | (none, current) => nextFrom dropTotals current lines

def next (s : Stream) : Option Diagnostic × Stream := nextFrom s.dropTotals s.current s.lines

def toList (s : Stream) : List Diagnostic := diagnosticsFrom s.dropTotals s.current s.lines

end Stream

def stream (text : String) (dropTotals : Bool := false) : Stream :=
  { dropTotals, lines := lines text.toList }

/-- The diagnostics of a text, in order. -/
def diagnostics (text : String) (dropTotals : Bool := false) : List Diagnostic :=
  (stream text dropTotals).toList

/-- The report on what a compiler wrote, with its own verdict `success`. -/
def report (success : Bool) (stdout stderr : String) (dropTotals : Bool := false) : Report :=
  .ofDiagnostics success (diagnostics stderr dropTotals) stdout stderr

end Compiler

end SnippetCheck
