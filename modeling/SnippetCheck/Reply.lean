import SnippetCheck.Report.Partial
import SnippetCheck.Text.Character

/-! What services answer. -/

namespace SnippetCheck

open Json

structure CheckReply where
  result : PartialReport
  rustAvailable : Option Bool := none
deriving DecidableEq, Repr

/-- Reads an answer, of which only the result must be there. -/
def CheckReply.decoder : Decoder CheckReply :=
  .record ["result", "rust_available"] fun n field => do
    let result ← (field "result").required PartialReport.decoder n
    let rustAvailable ← (field "rust_available").orElse none (.optional .flag) n
    return { result, rustAvailable }

structure ExecuteReply where
  success : Bool
  stdout : String := ""
  stderr : String := ""
deriving DecidableEq, Repr

/-- Reads an answer, of which only the verdict must be there. -/
def ExecuteReply.decoder : Decoder ExecuteReply :=
  .record ["success", "stdout", "stderr"] fun n field => do
    let success ← (field "success").required .flag n
    let stdout ← (field "stdout").orElse "" .text n
    let stderr ← (field "stderr").orElse "" .text n
    return { success, stdout, stderr }

namespace Health

def affirmations : List String := ["true", "ok", "yes", "1"]

/-- Whether a value says yes: it is true, a number other than zero, or a word for yes. -/
def affirms : Json → Bool
  | .bool b => b
  | .number n => !n.isZero
  | .string s => affirmations.contains (Text.lowerAscii s)
  | _ => false

/-- Whether a service that reports this of its health can check snippets. What it says of the
toolchain decides; if it says nothing, its status must be `ok`. -/
def isReady (body : Json) : Bool :=
  match body.get? "rust_available" with
  | some flag => affirms flag
  | none =>
    match body.get? "status" with
    | some (.string s) => Text.sameIgnoringCase s "ok"
    | _ => false

end Health

end SnippetCheck
