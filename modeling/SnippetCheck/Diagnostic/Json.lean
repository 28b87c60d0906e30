import SnippetCheck.Diagnostic
import SnippetCheck.Json.Decoder

/-! Diagnostics as JSON. A suggestion is written only where there is one; every other field is
written, absent ones as `null`. -/

namespace SnippetCheck

namespace Json

/-- A text or `null`. -/
def ofTextOrNone (s : Option String) : Json := (s.map Json.string).getD .null

/-- A count or `null`. -/
def ofCountOrNone (n : Option Nat) : Json := (n.map fun n => Json.number (.natural n)).getD .null

end Json

namespace Diagnostic

open Json

/-- The diagnostic as a JSON object. -/
def toJson (d : Diagnostic) : Json :=
  .object <|
    [("level", .string d.level.name), ("message", .string d.message),
      ("code", ofTextOrNone d.code), ("file", ofTextOrNone d.file),
      ("line", ofCountOrNone d.line), ("column", ofCountOrNone d.column)] ++
    (d.suggestion.map fun s => ("suggestion", Json.string s)).toList

/-- Reads a diagnostic. -/
def decoder : Decoder Diagnostic :=
  .record ["level", "message", "code", "file", "line", "column", "suggestion"] fun n field => do
    let level ← (field "level").required (.choice Level.ofName?) n
    let message ← (field "message").required .text n
    let code ← (field "code").optional .text n
    let file ← (field "file").optional .text n
    let line ← (field "line").optional .word n
    let column ← (field "column").optional .word n
    let suggestion ← (field "suggestion").orElse none (.optional .text) n
    return { level, message, code, file, line, column, suggestion }

end Diagnostic

end SnippetCheck
