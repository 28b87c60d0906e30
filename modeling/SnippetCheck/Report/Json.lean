import SnippetCheck.Diagnostic.Json
import SnippetCheck.Json.Printer
import SnippetCheck.Report

/-! Reports as JSON. -/

namespace SnippetCheck.Report

open Json

/-- The report as a JSON object. -/
def toJson (r : Report) : Json :=
  .object [("success", .bool r.success), ("errors", .array (r.errors.map Diagnostic.toJson)),
    ("warnings", .array (r.warnings.map Diagnostic.toJson)), ("stdout", .string r.stdout),
    ("stderr", .string r.stderr)]

/-- Reads a report, of which every field must be there. -/
def decoder : Decoder Report :=
  .record ["success", "errors", "warnings", "stdout", "stderr"] fun n field => do
    let success ← (field "success").required .flag n
    let errors ← (field "errors").required (.list Diagnostic.decoder) n
    let warnings ← (field "warnings").required (.list Diagnostic.decoder) n
    let stdout ← (field "stdout").required .text n
    let stderr ← (field "stderr").required .text n
    return { success, errors, warnings, stdout, stderr }

/-- The report as indented JSON text. -/
def pretty (r : Report) : String := String.ofList (Json.pretty 0 r.toJson)

/-- The diagnostics on a line as indented JSON text. -/
def prettyAtLine (r : Report) (line : Nat) : String :=
  String.ofList (Json.pretty 0 (.array ((r.atLine line).map Diagnostic.toJson)))

end SnippetCheck.Report
