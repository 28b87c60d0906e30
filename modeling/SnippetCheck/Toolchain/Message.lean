import SnippetCheck.Diagnostic
import SnippetCheck.Json.Decoder
import SnippetCheck.Path
import SnippetCheck.Text.Character
import SnippetCheck.Text.Start
import SnippetCheck.Text.Utf8

/-! Messages of the compiler and the build tool, one JSON value a line. A message has more levels
than a diagnostic; those that explain another message are left out, and so are totals. A line that
is no message says nothing, whatever else it is. -/

namespace SnippetCheck.Toolchain

open Json

inductive Severity where
  | error
  | warning
  | note
  | help
  | failureNote
  /-- The compiler itself is at fault. -/
  | bug
deriving DecidableEq, Repr

namespace Severity

def ofName? (s : String) : Option Severity :=
  [("error", error), ("warning", warning), ("note", note), ("help", help),
    ("failure-note", failureNote), ("error: internal compiler error", bug)].lookup s

/-- The level of a diagnostic, if a message of this severity is one. -/
def level? : Severity → Option Level
  | error | bug => some .error
  | warning => some .warning
  | note | help | failureNote => none

end Severity

/-- A place in a source file that a message is about. -/
structure Span where
  file : String
  line : Nat
  column : Nat
  /-- Whether the message is about this place first of all. -/
  isPrimary : Bool
deriving DecidableEq, Repr

structure Message where
  text : String
  code : Option String
  severity : Severity
  spans : List Span
  children : List Message
deriving Repr

/-- Reads a line of source text, of which nothing is kept. -/
def sourceLineDecoder : Decoder Unit :=
  .record ["text", "highlight_start", "highlight_end"] fun n field => do
    let _ ← (field "text").required .text n
    let _ ← (field "highlight_start").required .word n
    let _ ← (field "highlight_end").required .word n

/-- The word for how surely a suggestion is right. -/
def applicability? (s : String) : Option Unit :=
  if ["MachineApplicable", "HasPlaceholders", "MaybeIncorrect", "Unspecified"].contains s
  then some () else none

/-- Reads a span. Its macro expansion holds spans again, two levels further in. -/
def Span.decoder : Decoder Span
  | n + 2, j =>
    Decoder.record
      ["file_name", "byte_start", "byte_end", "line_start", "line_end", "column_start",
        "column_end", "is_primary", "text", "label", "suggested_replacement",
        "suggestion_applicability", "expansion"]
      (fun m field => do
        let file ← (field "file_name").required .text m
        let _ ← (field "byte_start").required .halfWord m
        let _ ← (field "byte_end").required .halfWord m
        let line ← (field "line_start").required .word m
        let _ ← (field "line_end").required .word m
        let column ← (field "column_start").required .word m
        let _ ← (field "column_end").required .word m
        let isPrimary ← (field "is_primary").required .flag m
        let _ ← (field "text").required (.list sourceLineDecoder) m
        let _ ← (field "label").optional .text m
        let _ ← (field "suggested_replacement").optional .text m
        let _ ← (field "suggestion_applicability").optional (.choice applicability?) m
        let _ ← (field "expansion").optional
          (.record ["span", "macro_decl_name", "def_site_span"] fun m field => do
            let _ ← (field "span").required (fun _ => Span.decoder n) m
            let _ ← (field "macro_decl_name").required .text m
            let _ ← (field "def_site_span").optional (fun _ => Span.decoder n) m) m
        return { file, line, column, isPrimary }) (n + 2) j
  | _, _ => none

def codeDecoder : Decoder String :=
  .record ["code", "explanation"] fun n field => do
    let code ← (field "code").required .text n
    let _ ← (field "explanation").optional .text n
    return code

/-- Reads a message. Its children are in an array, two levels further in. -/
def Message.decoder : Decoder Message
  | n + 2, j =>
    Decoder.record ["message", "code", "level", "spans", "children", "rendered"]
      (fun m field => do
        let text ← (field "message").required .text m
        let code ← (field "code").optional codeDecoder m
        let severity ← (field "level").required (.choice Severity.ofName?) m
        let spans ← (field "spans").required (.list Span.decoder) m
        let children ← (field "children").required (.list fun _ => Message.decoder n) m
        let _ ← (field "rendered").optional .text m
        return { text, code, severity, spans, children }) (n + 2) j
  | _, _ => none

namespace Message

/-- Whether a message only sums up others. -/
def isTotal (m : Message) : Bool :=
  m.spans.isEmpty && m.code.isNone && (Text.after? "aborting due to".toList m.text.toList).isSome

/-- The place of a message: the first that it is about first of all, or else the first. -/
def place? (m : Message) : Option Span := (m.spans.find? (·.isPrimary)).or m.spans.head?

def suggestion (m : Message) : Option String :=
  (m.children.find? (·.severity == .help)).map (·.text)

/-- The diagnostic that a message is, if it is one, with files named as `name` says. -/
def toDiagnostic? (name : String → String) (m : Message) : Option Diagnostic := do
  let level ← m.severity.level?
  guard (!m.isTotal)
  let d : Diagnostic := { level, message := m.text, code := m.code, suggestion := m.suggestion }
  return match m.place? with
    | some s => d.withLocation (name s.file) s.line s.column
    | none => d

end Message

def diagnosticOfCompilerLine? (name : String → String) (line : List Char) : Option Diagnostic := do
  guard ((Text.trimStart line).head? = some '{')
  let m ← (read? line).bind (Message.decoder maxDepth)
  m.toDiagnostic? name

/-- The diagnostics in the compiler's error text, with files in a directory named relative to it. -/
def compilerDiagnostics (stderr : String) (directory : String) : List Diagnostic :=
  (Text.lines stderr.toList).filterMap
    (diagnosticOfCompilerLine? (Path.relativeTo directory))

def editions : List String := ["2015", "2018", "2021", "2024", "2027", "2030"]

/-- Reads what the build tool says of what it builds, of which nothing is kept. -/
def targetDecoder : Decoder Unit :=
  .record
    ["name", "kind", "crate_types", "required-features", "src_path", "edition", "doctest", "test",
      "doc"]
    fun n field => do
      let _ ← (field "name").required .text n
      let _ ← (field "kind").required (.list .text) n
      let _ ← (field "crate_types").orElse [] (.list .text) n
      let _ ← (field "required-features").orElse [] (.list .text) n
      let _ ← (field "src_path").required .text n
      let _ ← (field "edition").orElse ()
        (.choice fun s => if editions.contains s then some () else none) n
      let _ ← (field "doctest").orElse true .flag n
      let _ ← (field "test").orElse true .flag n
      let _ ← (field "doc").orElse true .flag n

/-- Reads the compiler's message that the build tool passes on. -/
def passedOnDecoder : Decoder Message :=
  .record ["reason", "package_id", "target", "message"] fun n field => do
    let reason ← (field "reason").required .text n
    guard (reason = "compiler-message")
    let _ ← (field "package_id").required .text n
    let _ ← (field "target").required targetDecoder n
    (field "message").required Message.decoder n

/-- The message on a line of the build tool. The first value on the line counts, all of it must be
readable, and it may be nested as deep as it likes: deeper than the line is long it cannot be. -/
def messageOfBuildLine? (line : List Char) : Option Message := do
  let j ← readFirst? line
  let levels := line.length + 1
  guard (j.readable levels)
  passedOnDecoder levels j

def diagnosticsOfBuildLines (lines : List (List Char)) : List Diagnostic :=
  lines.filterMap fun line => (messageOfBuildLine? line).bind (·.toDiagnostic? id)

def buildDiagnostics (stdout : String) : List Diagnostic :=
  diagnosticsOfBuildLines (Text.pieces '\n' stdout.toList)

def byteLines : List UInt8 → List (List UInt8)
  | [] => [[]]
  | b :: bs =>
    match byteLines bs with
    | [] => [[b]]
    | l :: ls => if b = 0x0A then [] :: l :: ls else (b :: l) :: ls

/-- The diagnostics in the build tool's output, where lines that are not UTF-8 say nothing. -/
def buildDiagnosticsOfBytes (stdout : List UInt8) : List Diagnostic :=
  diagnosticsOfBuildLines
    ((byteLines stdout).filterMap fun l => (Text.Utf8.decode? l).map String.toList)

end SnippetCheck.Toolchain
