import SnippetCheck.Availability
import SnippetCheck.Compiler.Stream
import SnippetCheck.Failure
import SnippetCheck.Reply
import SnippetCheck.Request
import SnippetCheck.Text.Quote

/-! The check service. A check asks the primary service, unless the last attempt on it failed, and
then the secondary one, if there is one. What the two would answer is given as functions of what
they are asked; every operation says whom it asked for what. -/

namespace SnippetCheck

structure CheckOptions where
  dependencies : List Dependency := []
  /-- Whether the check is quick; if the caller does not say, the settings decide. -/
  quickCheck : Option Bool := none
deriving DecidableEq, Repr

/-- What a service is asked: the primary one for its health or a check, the secondary one to
build a snippet. -/
inductive Call where
  | health
  | check (request : CheckRequest)
  | execute (request : ExecuteRequest)
deriving DecidableEq, Repr

/-- What the services would answer at one moment. -/
structure Backends where
  health : Except Failure Json
  check : CheckRequest → Except Failure CheckReply
  execute : ExecuteRequest → Except Failure ExecuteReply

def CheckRequest.ofOptions (config : Config) (source : String) (options : CheckOptions) :
    CheckRequest :=
  { code := source, dependencies := options.dependencies
    quickCheck := options.quickCheck.getD config.quickCheck }

def ExecuteReply.report (config : Config) (r : ExecuteReply) : Report :=
  Compiler.report r.success r.stdout r.stderr config.dropSummaryLines

/-- A check service: its settings, what its services are called, and what it knows of the primary
one. -/
structure Service where
  config : Config
  primary : String
  secondary : Option String
  availability : Availability := .unknown
deriving DecidableEq, Repr

namespace Service

/-- A service that knows nothing of the primary yet. The settings may do without the secondary. -/
def new (config : Config) (primary : String) (secondary : Option String) : Service :=
  { config, primary, secondary := if config.fallbackEnabled then secondary else none }

def reset (s : Service) : Service := { s with availability := .unknown }

def record (s : Service) (success : Bool) : Service :=
  { s with availability := .ofOutcome success }

/-- Whether the primary is ready, by what it says of its health, and the service that knows. -/
def probe (s : Service) (b : Backends) : Bool × Service :=
  let ready := match b.health with
    | .ok body => Health.isReady body
    | .error _ => false
  (ready, s.record ready)

def noService (primary secondary : String) : Failure :=
  .noService ("primary: " ++ primary ++ "; secondary: " ++ secondary)

/-- A check by the secondary service, after the primary was of no use for the reason `why`. -/
def fallBack (s : Service) (b : Backends) (source : String) (why : String) :
    Except Failure Report × List Call :=
  match s.secondary with
  | none => (.error (noService why "disabled"), [])
  | some _ =>
    let request := ExecuteRequest.ofCode source s.config
    match b.execute request with
    | .ok reply => (.ok (reply.report s.config), [.execute request])
    | .error e => (.error (noService why e.message), [.execute request])

/-- A check: its report or failure, the service after it, and what was asked. -/
def check (s : Service) (b : Backends) (source : String) (options : CheckOptions) :
    Except Failure Report × Service × List Call :=
  if s.availability.worthTrying then
    let request := CheckRequest.ofOptions s.config source options
    match b.check request with
    | .ok reply => (.ok reply.result.complete, s.record true, [.check request])
    | .error e =>
      let (answer, calls) := s.fallBack b source e.message
      (answer, s.record false, .check request :: calls)
  else
    let (answer, calls) := s.fallBack b source "marked unavailable"
    (answer, s, calls)

def describe (s : Service) : String :=
  "CompilationCheckService \x7b primary: " ++ Text.quoted s.primary ++ ", secondary: " ++
    (match s.secondary with
      | some name => "Some(" ++ Text.quoted name ++ ")"
      | none => "None") ++
    ", availability: " ++ s.availability.title ++ " \x7d"

end Service

end SnippetCheck
