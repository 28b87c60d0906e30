import SnippetCheck.Arguments
import SnippetCheck.Config.Layers
import SnippetCheck.Http.Client
import SnippetCheck.Report.Json
import SnippetCheck.Report.Text
import SnippetCheck.Shader
import SnippetCheck.Toolchain

/-! The command line program: what it prints, and the status that it ends with, in a world of files,
variables, services and tools. The status is 0 for success, 1 for errors in the checked code and for
what cannot be read, and 2 if no service answers and for arguments that are not taken. -/

namespace SnippetCheck

/-- What surrounds a run of the program. -/
structure World where
  files : Files
  environment : Environment
  stdin : List UInt8
  transport : Http.Transport
  /-- The toolchain for an edition. -/
  toolchain : String → Toolchain
  /-- Why no HTTP client can be made, where none can. -/
  clientFault : Option Http.Fault := none

/-- What a run of the program leaves behind: its status and its output, and how it ran tools and
asked services over HTTP. -/
structure Outcome where
  status : Nat := 0
  stdout : String := ""
  stderr : String := ""
  runs : List Run := []
  requests : List Http.Request := []

namespace Command

def success : Nat := 0

def failed : Nat := 1

/-- The status if no service answers, and for arguments that are not taken. -/
def unserved : Nat := 2

def versionText : String := "blockly-check 0.1.0\n"

def usage : String := "Usage: blockly-check [OPTIONS] [FILE]\n"

def complaint : Arguments.Halt → String
  | .unknown => "unexpected argument"
  | .missingValue => "a value is required"
  | .badValue => "invalid value"
  | .repeated => "an option cannot be used multiple times"
  | .unwantedValue => "unexpected value"
  | .help | .version => ""

def halted : Arguments.Halt → Outcome
  | .help => { stdout := usage }
  | .version => { stdout := versionText }
  | h => { status := unserved, stderr := "error: " ++ complaint h ++ "\n\n" ++ usage }

/-- A cause of a failure, with its lines indented: by its number, if there are several. -/
def indentCause (number : Option Nat) (cause : String) : String :=
  let (first, next) := match number with
    | some n => ("    " ++ n.repr ++ ": ", "       ")
    | none => ("    ", "    ")
  first ++ String.ofList (Text.join ('\n' :: next.toList) (Text.pieces '\n' cause.toList))

/-- A failure as it is reported: what was being done, and the causes, each behind the one that it
led to. -/
def explain (doing : String) (causes : List String) : String :=
  let cause (i : Nat) (c : String) : String :=
    "\n" ++ indentCause (if causes.length = 1 then none else some i) c
  let because := if causes = [] then "" else "\n\nCaused by:" ++ String.join (causes.mapIdx cause)
  "Error: " ++ doing ++ because ++ "\n"

def failure (doing : String) (causes : List String) : Outcome :=
  { status := failed, stderr := explain doing causes }

/-- A text on a line of its own, or nothing. -/
def printed (text : String) : String := if text = "" then "" else text ++ "\n"

def display (a : Arguments) (r : Report) : String :=
  match a.json, a.line with
  | true, some line => r.prettyAtLine line ++ "\n"
  | true, none => r.pretty ++ "\n"
  | false, some line =>
    printed (String.intercalate "\n" ((r.atLine line).map Diagnostic.text))
  | false, none => printed r.text

def reported (a : Arguments) (r : Report) : Outcome :=
  { status := if r.success then success else failed, stdout := display a r }

/-- The source to check, from the file or else from the standard input; if it cannot be read, where
from and why. -/
def source (w : World) (a : Arguments) : Except (String × FileFault) String :=
  if a.readsStdin then (Files.decode w.stdin).mapError ("stdin", ·)
  else
    let path := a.file.getD ""
    (w.files.text path).mapError (path, ·)

def checkShader (w : World) (a : Arguments) : Outcome :=
  match source w a with
  | .ok text =>
    reported a <|
      if a.readsStdin then Shader.report text else Shader.reportFile (a.file.getD "") text
  | .error (place, fault) =>
    failure ("reading " ++ place) <|
      if a.readsStdin then [fault.message] else [(Failure.ofFile fault).message, fault.message]

/-- The service that the arguments choose: over HTTP, or with the local toolchain as the primary. -/
def service (a : Arguments) (c : Config) : Service :=
  if a.useToolchain then .new c Toolchain.name (some c.playgroundUrl) else .overHttp c

def backends (w : World) (a : Arguments) (c : Config) : Backends :=
  let b := Backends.overHttp c w.transport
  if a.useToolchain then (w.toolchain c.edition).asPrimary b else b

/-- Whether the service that the arguments choose asks anyone over HTTP. -/
def needsClient (a : Arguments) (c : Config) : Bool := !a.useToolchain || c.fallbackEnabled

/-- The service that the arguments choose, unless it needs a client and none can be made. -/
def build (w : World) (a : Arguments) (c : Config) : Except Failure Service :=
  match w.clientFault with
  | some fault => if needsClient a c then .error (.ofFault fault) else .ok (service a c)
  | none => .ok (service a c)

def unbuilt (a : Arguments) (e : Failure) : Outcome :=
  if a.useToolchain then failure e.message [] else failure "creating HTTP clients" [e.message]

def isExecute : Call → Bool
  | .execute _ => true
  | _ => false

/-- An outcome with what calls led to: with the local toolchain only those to the secondary service
go over HTTP. -/
def withCalls (w : World) (a : Arguments) (c : Config) (calls : List Call) (o : Outcome) :
    Outcome :=
  if a.useToolchain then
    { o with
      runs := (w.toolchain c.edition).runs calls
      requests := Call.arrivals c w.transport (calls.filter isExecute) }
  else { o with requests := Call.arrivals c w.transport calls }

def probe (w : World) (a : Arguments) (c : Config) : Outcome :=
  match build w a c with
  | .error e => unbuilt a e
  | .ok s =>
    let (ready, s) := s.probe (backends w a c)
    withCalls w a c [.health]
      { status := if ready then success else unserved
        stdout := "primary backend " ++ c.primaryUrl ++ ": " ++ s.availability.name ++ "\n" }

/-- What is said if no service answers, in red. -/
def unservedText (reasons : String) : String :=
  "\x1b[1;31mno backend available\x1b[0m\n" ++ reasons ++ "\n"

def check (w : World) (a : Arguments) (c : Config) : Outcome :=
  match build w a c with
  | .error e => unbuilt a e
  | .ok s =>
    match source w a with
    | .error (place, fault) => failure ("reading " ++ place) [fault.message]
    | .ok text =>
      let (answer, _, calls) := s.check (backends w a c) text a.options
      withCalls w a c calls <|
        match answer with
        | .ok r => reported a r
        | .error (.noService reasons) => { status := unserved, stderr := unservedText reasons }
        | .error e => failure "checking code" [e.message]

def perform (w : World) (a : Arguments) : Outcome :=
  match Config.load w.files w.environment a.configFile with
  | .error fault => failure "loading configuration" [(Failure.ofConfig fault).message]
  | .ok c =>
    let c := a.applyTo c
    if a.probe then probe w a c
    else if a.wgsl then checkShader w a
    else check w a c

def run (w : World) (args : List String) : Outcome :=
  match Arguments.read args with
  | .error h => halted h
  | .ok a => perform w a

end Command

end SnippetCheck
