import SnippetCheck.Directory
import SnippetCheck.Report
import SnippetCheck.Text.Start
import SnippetCheck.Text.Word

/-! Compute shaders. A shader's entry point needs two attributes; nothing else of it is checked, and
what stands behind `//` on a line does not count. -/

namespace SnippetCheck.Shader

open Text

/-- The part of a line before the first `//`. -/
def codeOf : List Char → List Char
  | '/' :: '/' :: _ => []
  | [] => []
  | c :: s => c :: codeOf s

/-- The place of the first occurrence of a word in a text, from zero: it ends where the text does
or before a character that is no word character. -/
def wordAt? (word : List Char) : List Char → Option Nat
  | [] => none
  | c :: s =>
    match after? word (c :: s) with
    | some rest =>
      match rest with
      | [] => some 0
      | d :: _ => if isWord d then (wordAt? word s).map (· + 1) else some 0
    | none => (wordAt? word s).map (· + 1)

/-- The line and the column of the first occurrence of an attribute in lines that are counted from
`row` on. -/
def locateFrom? (word : List Char) (row : Nat) : List (List Char) → Option (Nat × Nat)
  | [] => none
  | line :: lines =>
    match wordAt? word (codeOf line) with
    | some column => some (row, column + 1)
    | none => locateFrom? word (row + 1) lines

def locate? (name : String) (source : String) : Option (Nat × Nat) :=
  locateFrom? ('@' :: name.toList) 1 (lines source.toList)

def missing (name : String) : Diagnostic :=
  { level := .error, message := "missing @" ++ name ++ " attribute" }

/-- The errors of a shader: without an entry point there is no place to report, without a size the
entry point is the place. -/
def errors (source : String) : List Diagnostic :=
  match locate? "compute" source with
  | none => [missing "compute"]
  | some (row, column) =>
    match locate? "workgroup_size" source with
    | none => [{ missing "workgroup_size" with line := some row, column := some column }]
    | some _ => []

def report (source : String) : Report :=
  { success := (errors source).isEmpty, errors := errors source }

/-- The report on a shader that was read from a file, which its located errors name. -/
def reportFile (path : String) (source : String) : Report :=
  let r := report source
  { r with errors := r.errors.map fun d =>
      if d.line.isSome then { d with file := some path } else d }

/-- The report on the shader in a file. -/
def checkFile (files : Files) (path : String) : Except Failure Report :=
  match files.text path with
  | .ok source => .ok (reportFile path source)
  | .error fault => .error (.ofFile fault)

end SnippetCheck.Shader
