import SnippetCheck.Text.Lines

/-! A diagnostic: one error or warning that a compiler reported, with what is known of its place. -/

namespace SnippetCheck

/-- How severe a diagnostic is. Notes and help belong to the diagnostic that they explain. -/
inductive Level where
  | error
  | warning
deriving DecidableEq, Repr

namespace Level

def name : Level → String
  | .error => "error"
  | .warning => "warning"

def ofName? (s : String) : Option Level :=
  if s = "error" then some .error else if s = "warning" then some .warning else none

@[simp] theorem ofName?_name (l : Level) : ofName? l.name = some l := by cases l <;> rfl

end Level

/-- One reported error or warning. Lines and columns count from one; a reader accepts them up to
`2 ^ 64 - 1`. -/
@[ext]
structure Diagnostic where
  level : Level
  message : String
  code : Option String := none
  file : Option String := none
  line : Option Nat := none
  column : Option Nat := none
  suggestion : Option String := none
deriving DecidableEq, Repr

namespace Diagnostic

def withCode (d : Diagnostic) (code : String) : Diagnostic := { d with code := some code }

def withLocation (d : Diagnostic) (file : String) (line column : Nat) : Diagnostic :=
  { d with file := some file, line := some line, column := some column }

def isError (d : Diagnostic) : Bool := d.level == .error

/-- The place as text: the file, the line and the column as far as they are known. Without a line
there is no place. -/
def location (d : Diagnostic) : Option String :=
  match d.file, d.line, d.column with
  | some f, some l, some c => some (f ++ ":" ++ l.repr ++ ":" ++ c.repr)
  | some f, some l, none => some (f ++ ":" ++ l.repr)
  | none, some l, some c => some ("line " ++ l.repr ++ ":" ++ c.repr)
  | none, some l, none => some ("line " ++ l.repr)
  | _, none, _ => none

/-- What stands before the lines of a message but the first. -/
def indent : String := "     "

def indented (message : String) : String :=
  String.ofList
    (Text.join ("\n" ++ indent).toList (Text.pieces '\n' message.toList))

/-- The diagnostic as text: its place, its code in brackets, its message, and on a line of its own
its suggestion, which stands as it was given. -/
def text (d : Diagnostic) : String :=
  (match d.location with | some l => l ++ ": " | none => "") ++
  (match d.code with | some c => "[" ++ c ++ "] " | none => "") ++
  indented d.message ++
  (match d.suggestion with | some s => "\n" ++ indent ++ "help: " ++ s | none => "")

end Diagnostic

end SnippetCheck
