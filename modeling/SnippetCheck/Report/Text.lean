import SnippetCheck.Report
import SnippetCheck.Text.Character

/-! A report as text for a reader: one line if there is nothing to say, else the verdict and the
diagnostics in numbered sections, errors before warnings. -/

namespace SnippetCheck.Report

def successLine : String := "Compilation successful: no errors."

/-- One numbered entry of a section. -/
def entry (number : Nat) (d : Diagnostic) : String :=
  "  " ++ number.repr ++ ". " ++ d.text ++ "\n"

def entries (number : Nat) : List Diagnostic → String
  | [] => ""
  | d :: ds => entry number d ++ entries (number + 1) ds

/-- A section: a heading that counts the diagnostics, their entries, and an empty line. There is
no section without a diagnostic. -/
def sectionText (noun : String) (ds : List Diagnostic) : String :=
  if ds = [] then ""
  else
    ds.length.repr ++ " " ++ noun ++ (if ds.length = 1 then "" else "s") ++ ":\n" ++
      entries 1 ds ++ "\n"

/-- What stands for the sections where there are none: what the compiler wrote to its error
stream, unless that is blank. -/
def failureText (r : Report) : String :=
  "Compilation failed.\n" ++
    (if Text.trimmed r.stderr = "" then "" else Text.trimmedEnd r.stderr ++ "\n")

def text (r : Report) : String :=
  if r.success ∧ r.diagnostics = [] then successLine
  else
    Text.trimmedEnd <|
      (if r.success then "Compilation successful.\n" else "") ++
      sectionText "error" r.errors ++ sectionText "warning" r.warnings ++
      (if r.diagnostics = [] then r.failureText else "")

end SnippetCheck.Report
