import SnippetCheck.Config
import SnippetCheck.Dependency
import SnippetCheck.Json.Printer

/-! What services are asked: the primary service to check a snippet, the playground to run one. -/

namespace SnippetCheck

open Json

/-- Whether a snippet is a program of its own and not a library. -/
def isProgram (code : String) : Bool := Text.contains "fn main".toList code.toList

structure CheckRequest where
  code : String
  dependencies : List Dependency := []
  quickCheck : Bool := false
deriving DecidableEq, Repr

namespace CheckRequest

def toJson (r : CheckRequest) : Json :=
  .object [("code", .string r.code), ("dependencies", .array (r.dependencies.map (·.toJson))),
    ("quick_check", .bool r.quickCheck)]

def decoder : Decoder CheckRequest :=
  .record ["code", "dependencies", "quick_check"] fun n field => do
    let code ← (field "code").required .text n
    let dependencies ← (field "dependencies").orElse [] (.list Dependency.decoder) n
    let quickCheck ← (field "quick_check").orElse false .flag n
    return { code, dependencies, quickCheck }

end CheckRequest

structure ExecuteRequest where
  channel : String
  mode : String
  edition : String
  crateType : String
  tests : Bool
  code : String
  backtrace : Bool
deriving DecidableEq, Repr

namespace ExecuteRequest

/-- The request to build a snippet, as a program if it is one and else as a library. -/
def ofCode (code : String) (config : Config) : ExecuteRequest :=
  { channel := config.channel, mode := "debug", edition := config.edition
    crateType := if isProgram code then "bin" else "lib"
    tests := false, code, backtrace := false }

def toJson (r : ExecuteRequest) : Json :=
  .object [("channel", .string r.channel), ("mode", .string r.mode),
    ("edition", .string r.edition), ("crateType", .string r.crateType), ("tests", .bool r.tests),
    ("code", .string r.code), ("backtrace", .bool r.backtrace)]

def decoder : Decoder ExecuteRequest :=
  .record ["channel", "mode", "edition", "crateType", "tests", "code", "backtrace"]
    fun n field => do
      let channel ← (field "channel").required .text n
      let mode ← (field "mode").required .text n
      let edition ← (field "edition").required .text n
      let crateType ← (field "crateType").required .text n
      let tests ← (field "tests").required .flag n
      let code ← (field "code").required .text n
      let backtrace ← (field "backtrace").required .flag n
      return { channel, mode, edition, crateType, tests, code, backtrace }

end ExecuteRequest

end SnippetCheck
