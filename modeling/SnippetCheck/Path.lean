import SnippetCheck.Text.Lines

/-! Paths, compared by their steps. A path starts at the root, at the place that a leading `.`
names, or nowhere in particular; empty steps and the steps `.` lead nowhere. -/

namespace SnippetCheck.Path

open Text

/-- Where a path starts. -/
inductive Start where
  | root
  /-- The path starts with the step `.`. -/
  | here
  | relative
deriving DecidableEq, Repr

/-- Where a path starts, and its steps from there. -/
def split (path : List Char) : Start × List (List Char) :=
  match pieces '/' path with
  | [] :: s :: steps => (.root, s :: steps)
  | ['.'] :: steps => (.here, steps)
  | steps => (.relative, steps)

def isIdle (step : List Char) : Bool := step == [] || step == ['.']

/-- The steps without idle ones at the end. -/
def trimSteps (steps : List (List Char)) : List (List Char) :=
  (steps.reverse.dropWhile isIdle).reverse

/-- The steps behind those of a prefix. -/
def afterSteps? : List (List Char) → List (List Char) → Option (List (List Char))
  | [], steps => some steps
  | p :: ps, steps =>
    match steps.dropWhile isIdle with
    | step :: steps => if p = step then afterSteps? ps steps else none
    | [] => none

/-- The text of a path that starts like `path` and goes on with these steps. -/
def unsplit : Start → List (List Char) → List Char
  | .root, steps => '/' :: join ['/'] steps
  | .here, [] => ['.']
  | .here, steps => '.' :: '/' :: join ['/'] steps
  | .relative, steps => join ['/'] steps

/-- What leads from the place of a prefix to the place of a path, if the path starts with all that
the prefix consists of. -/
def stripPrefix? (before path : List Char) : Option (List Char) :=
  let (start, steps) := split path
  match split before with
  | (.relative, ps) =>
    match ps.filter (!isIdle ·) with
    | [] => some (unsplit start (trimSteps steps))
    | ps =>
      if start = .relative then
        (afterSteps? ps steps).map fun rest => join ['/'] (trimSteps (rest.dropWhile isIdle))
      else none
  | (s, ps) =>
    if start = s then
      (afterSteps? (ps.filter (!isIdle ·)) steps).map fun rest =>
        join ['/'] (trimSteps (rest.dropWhile isIdle))
    else none

/-- A path as it is seen from a directory: relative to it if it leads into it, else unchanged. -/
def relativeTo (directory path : String) : String :=
  match stripPrefix? directory.toList path.toList with
  | some rest => String.ofList rest
  | none => path

end SnippetCheck.Path
