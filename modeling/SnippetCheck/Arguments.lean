import SnippetCheck.Numeral
import SnippetCheck.Service

/-! The arguments of a command line. Each argument is an option, a cluster of one-letter options,
the value of the option before it, or the file to check; after `--` there are only files. A value
that stands apart from its option is looked at when the next option or file comes or at the end, so
that an option that there is not wins over a bad value right before it. -/

namespace SnippetCheck

structure Arguments where
  /-- The file to check; `-` and no file stand for the standard input. -/
  file : Option String := none
  configFile : Option String := none
  url : Option String := none
  noFallback : Bool := false
  quick : Bool := false
  dependencies : List Dependency := []
  /-- Whether the local toolchain is the primary service. -/
  useToolchain : Bool := false
  /-- Whether the primary service is asked for its health only. -/
  probe : Bool := false
  /-- Whether the file is a shader. -/
  wgsl : Bool := false
  /-- The only line whose diagnostics are of interest. -/
  line : Option Nat := none
  json : Bool := false
  verbose : Bool := false
deriving DecidableEq, Repr

namespace Arguments

/-- Why the arguments are not taken, or not acted upon. -/
inductive Halt where
  /-- There is no such option, or no place for one more file. -/
  | unknown
  /-- An option has no value, or a path is empty. -/
  | missingValue
  | badValue
  /-- An option is given twice. -/
  | repeated
  /-- An option that takes no value is given one. -/
  | unwantedValue
  | help
  | version
deriving DecidableEq, Repr

inductive Switch where
  | noFallback | quick | useToolchain | probe | wgsl | json | verbose
deriving DecidableEq, Repr

inductive Setting where
  | file | configFile | url | dependency | line
deriving DecidableEq, Repr

inductive Meaning where
  | switch (s : Switch)
  | setting (s : Setting)
  | halt (h : Halt)
deriving DecidableEq, Repr

def longNames : List (String × Meaning) := [
  ("config", .setting .configFile), ("url", .setting .url), ("no-fallback", .switch .noFallback),
  ("quick", .switch .quick), ("dep", .setting .dependency), ("local", .switch .useToolchain),
  ("probe", .switch .probe), ("wgsl", .switch .wgsl), ("line", .setting .line),
  ("json", .switch .json), ("verbose", .switch .verbose), ("help", .halt .help),
  ("version", .halt .version)]

def letters : List (Char × Meaning) := [
  ('c', .setting .configFile), ('u', .setting .url), ('q', .switch .quick),
  ('d', .setting .dependency), ('l', .switch .useToolchain), ('w', .switch .wgsl),
  ('j', .switch .json), ('v', .switch .verbose), ('h', .halt .help), ('V', .halt .version)]

def isOn (a : Arguments) : Switch → Bool
  | .noFallback => a.noFallback
  | .quick => a.quick
  | .useToolchain => a.useToolchain
  | .probe => a.probe
  | .wgsl => a.wgsl
  | .json => a.json
  | .verbose => a.verbose

def turnOn (a : Arguments) : Switch → Arguments
  | .noFallback => { a with noFallback := true }
  | .quick => { a with quick := true }
  | .useToolchain => { a with useToolchain := true }
  | .probe => { a with probe := true }
  | .wgsl => { a with wgsl := true }
  | .json => { a with json := true }
  | .verbose => { a with verbose := true }

/-- The number of a line: decimal digits, perhaps after a plus. -/
def lineNumber? (s : List Char) : Option Nat :=
  let ds := match s with
    | '+' :: ds => ds
    | ds => ds
  let n := Numeral.ofDigits ds
  if ds ≠ [] ∧ ds.all Char.isDigit ∧ n ≤ Numeral.wordMax then some n else none

/-- A path, which is never empty. -/
def path (s : String) : Except Halt String := if s = "" then .error .missingValue else .ok s

/-- The arguments with a setting, which only a dependency may have been before. -/
def set (a : Arguments) (s : Setting) (value : String) : Except Halt Arguments :=
  match s with
  | .file => do
    if a.file.isSome then throw .repeated
    return { a with file := ← path value }
  | .configFile => do
    if a.configFile.isSome then throw .repeated
    return { a with configFile := ← path value }
  | .url => do
    if a.url.isSome then throw .repeated
    return { a with url := value }
  | .dependency =>
    match Dependency.ofText? value with
    | some d => .ok { a with dependencies := a.dependencies ++ [d] }
    | none => .error .badValue
  | .line => do
    if a.line.isSome then throw .repeated
    match lineNumber? value.toList with
    | some n => return { a with line := n }
    | none => throw .badValue

/-- What has been read of the arguments: what is settled, and the setting that came last, with its
value if that has come. -/
structure Reading where
  settled : Arguments := {}
  pending : Option (Setting × Option String) := none

namespace Reading

def settle (r : Reading) : Except Halt Arguments :=
  match r.pending with
  | none => .ok r.settled
  | some (_, none) => .error .missingValue
  | some (s, some value) => r.settled.set s value

/-- Whether a file has come, so that there is no place for another. -/
def hasFile (r : Reading) : Bool :=
  r.settled.file.isSome || r.pending.any (·.1 == .file)

def act (r : Reading) (switch : Switch) : Except Halt Reading := do
  let a ← r.settle
  if a.isOn switch then throw .repeated
  return { settled := a.turnOn switch }

/-- What has been read after a setting with its value, or without it. -/
def start (r : Reading) (s : Setting) (value : Option String) : Except Halt Reading := do
  let a ← r.settle
  match value with
  | some value => return { settled := ← a.set s value }
  | none => return { settled := a, pending := some (s, none) }

/-- What has been read after an option with a long name, given without its two dashes. A value may
stand after an equals sign. -/
def long (r : Reading) (option : List Char) : Except Halt Reading :=
  let name := option.takeWhile (· != '=')
  let value := match option.dropWhile (· != '=') with
    | _ :: value => some (String.ofList value)
    | [] => none
  match longNames.lookup (String.ofList name), value with
  | none, _ => .error .unknown
  | some (.setting s), value => r.start s value
  | some _, some _ => .error .unwantedValue
  | some (.switch s), none => r.act s
  | some (.halt h), none => do
    let _ ← r.settle
    throw h

/-- What has been read after one-letter options. What follows the letter of a setting is its value,
perhaps after an equals sign. -/
def cluster (r : Reading) : List Char → Except Halt Reading
  | [] => .ok r
  | c :: rest =>
    match letters.lookup c with
    | none => .error .unknown
    | some (.switch s) => do
      let r ← r.act s
      r.cluster rest
    | some (.halt h) => do
      let _ ← r.settle
      throw h
    | some (.setting s) =>
      match rest with
      | [] => r.start s none
      | '=' :: value => r.start s (some (String.ofList value))
      | value => r.start s (some (String.ofList value))

def file (r : Reading) (name : String) : Except Halt Reading :=
  if r.hasFile then .error .unknown
  else do
    let a ← r.settle
    return { settled := a, pending := some (.file, some name) }

/-- The arguments after what has been read, where there may be only files. -/
def finish (r : Reading) (onlyFiles : Bool) : List String → Except Halt Arguments
  | [] => r.settle
  | arg :: args =>
    if onlyFiles then r.file arg >>= (·.finish true args)
    else
      match arg.toList, r.pending with
      | ['-', '-'], _ => r.finish true args
      | '-' :: '-' :: option, _ => r.long option >>= (·.finish false args)
      | '-' :: c :: rest, _ => r.cluster (c :: rest) >>= (·.finish false args)
      | _, some (s, none) =>
        finish { r with pending := some (s, some arg) } false args
      | _, _ => r.file arg >>= (·.finish false args)

end Reading

def read (args : List String) : Except Halt Arguments := Reading.finish {} false args

def readsStdin (a : Arguments) : Bool := a.file.all (· == "-")

def applyTo (a : Arguments) (c : Config) : Config :=
  { c with
    primaryUrl := a.url.getD c.primaryUrl
    fallbackEnabled := !a.noFallback && c.fallbackEnabled
    quickCheck := a.quick || c.quickCheck }

def options (a : Arguments) : CheckOptions :=
  { dependencies := a.dependencies, quickCheck := if a.quick then some true else none }

end Arguments

end SnippetCheck
