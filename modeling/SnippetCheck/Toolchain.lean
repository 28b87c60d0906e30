import SnippetCheck.Service
import SnippetCheck.Toml.Printer
import SnippetCheck.Toolchain.Message

/-! The toolchain on this machine as the primary service. A check makes a directory with a project
for the snippet, whose manifest names its dependencies, and runs the build tool there, or, if it is
quick, the compiler on the snippet alone; the directory is gone afterwards. What the tools do is
given as functions of how they are run. -/

namespace SnippetCheck

open Toolchain

/-- How a tool is run, with the files that are in the directory made for it. -/
structure Run where
  tool : String
  arguments : List String
  files : List (String × String)
  /-- What the tool is told of colours, if anything. -/
  color : Option String := none
deriving DecidableEq, Repr

structure Output where
  success : Bool := true
  stdout : List UInt8 := []
  stderr : List UInt8 := []

/-- The report on the output of a run, with the diagnostics found in it. -/
def Output.report (o : Output) (diagnostics : String → String → List Diagnostic) : Report :=
  let stdout := Text.Utf8.decodeLossy o.stdout
  let stderr := Text.Utf8.decodeLossy o.stderr
  .ofDiagnostics o.success (diagnostics stdout stderr) stdout stderr

/-- A tool that is installed. -/
structure Tool where
  /-- Whether the tool can say its version. -/
  works : Bool := true
  run : Run → Output

structure Toolchain where
  edition : String
  builder : Option Tool
  compiler : Option Tool
  /-- The path of the directory that is made for a run, or why none can be made. -/
  directory : Except FileFault String

namespace Toolchain

/-! ### The manifest -/

def packageName : String := "blockly_check_snippet"

/-- The entries, in the order of their keys, with another value for `key`. -/
def put (key value : String) : List (String × String) → List (String × String)
  | [] => [(key, value)]
  | (k, v) :: es =>
    if key = k then (key, value) :: es
    else if key < k then (key, value) :: (k, v) :: es
    else (k, v) :: put key value es

/-- The dependencies by name; of one name the last counts. -/
def dependencyTable (ds : List Dependency) : List (String × String) :=
  ds.foldl (fun es d => put d.name d.version es) []

def manifestTables (edition : String) (ds : List Dependency) :
    List (String × List (String × String)) :=
  [("dependencies", dependencyTable ds),
    ("package", [("edition", edition), ("name", packageName), ("version", "0.1.0")])]

def manifest (edition : String) (ds : List Dependency) : String :=
  String.ofList (Toml.printTables (manifestTables edition ds))

/-! ### Runs -/

def buildRun (edition code : String) (ds : List Dependency) : Run :=
  { tool := "cargo", arguments := ["check", "--message-format=json", "--quiet"]
    files := [("Cargo.toml", manifest edition ds),
      (if isProgram code then "src/main.rs" else "src/lib.rs", code)]
    color := some "never" }

def compileRun (edition code directory : String) : Run :=
  { tool := "rustc"
    arguments := ["--crate-type=lib", "--error-format=json", "--emit=metadata",
      "--edition=" ++ edition, "--crate-name", packageName, "--out-dir", directory,
      directory ++ "/snippet.rs"]
    files := [("snippet.rs", code)] }

/-- What a run of a tool gives, and the run if it takes place. No argument can hold a NUL. -/
def execute (tool : Option Tool) (r : Run) : Except Failure Output × List Run :=
  if r.arguments.any (·.contains '\x00') then
    (.error (.io "nul byte found in provided data"), [])
  else
    match tool with
    | some t => (.ok (t.run r), [r])
    | none => (.error (.ofFile .notFound), [])

def checkProject (t : Toolchain) (code : String) (ds : List Dependency) :
    Except Failure Report × List Run :=
  match t.directory with
  | .error fault => (.error (.ofFile fault), [])
  | .ok _ =>
    let (output, runs) := execute t.builder (buildRun t.edition code ds)
    (output.map (Output.report · fun stdout _ => buildDiagnostics stdout), runs)

def checkQuickly (t : Toolchain) (code : String) : Except Failure Report × List Run :=
  match t.directory with
  | .error fault => (.error (.ofFile fault), [])
  | .ok directory =>
    let (output, runs) := execute t.compiler (compileRun t.edition code directory)
    (output.map (Output.report · fun _ stderr => compilerDiagnostics stderr directory), runs)

def check (t : Toolchain) (r : CheckRequest) : Except Failure Report × List Run :=
  if r.quickCheck then t.checkQuickly r.code else t.checkProject r.code r.dependencies

def canBuild (t : Toolchain) : Bool := t.builder.any (·.works)

def canCompile (t : Toolchain) : Bool := t.compiler.any (·.works)

def health (t : Toolchain) : Json :=
  .object [("status", .string "ok"), ("rust_available", .bool (t.canCompile && t.canBuild)),
    ("cargo_available", .bool t.canBuild)]

def name : String := "local toolchain"

/-- The toolchain's answer to a request, which is never without a toolchain. -/
def reply (t : Toolchain) (r : CheckRequest) : Except Failure CheckReply :=
  (t.check r).1.map fun report => { result := report.toPartial, rustAvailable := some true }

def runs (t : Toolchain) (calls : List Call) : List Run :=
  calls.flatMap fun
    | .check r => (t.check r).2
    | _ => []

/-- The same services with the toolchain as the primary one. -/
def asPrimary (t : Toolchain) (b : Backends) : Backends :=
  { b with health := .ok t.health, check := t.reply }

end Toolchain

end SnippetCheck
