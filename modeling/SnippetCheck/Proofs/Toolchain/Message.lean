import Mathlib.Data.Option.Basic
import SnippetCheck.Proofs.Json.Decoder
import SnippetCheck.Proofs.Json.Grammar
import SnippetCheck.Proofs.Request
import SnippetCheck.Proofs.Path
import SnippetCheck.Proofs.Text.Layout
import SnippetCheck.Proofs.Text.Utf8
import SnippetCheck.Toolchain.Message

/-! Messages, line by line. A line gives one diagnostic, if it is a message that is more than a
total and more than an explanation of another, and otherwise none; no line has a say in what another
one gives. -/

namespace SnippetCheck.Toolchain

open Json Text

/-! ### What a message tells -/

/-- Which messages are diagnostics, and of which level. -/
inductive Severity.Grave : Severity → Level → Prop
  | error : Grave .error .error
  | bug : Grave .bug .error
  | warning : Grave .warning .warning

theorem Severity.level?_eq_some_iff {s : Severity} {l : Level} : s.level? = some l ↔ s.Grave l := by
  constructor
  · intro h
    cases s <;> cases h <;> constructor
  · rintro (_ | _ | _) <;> rfl

namespace Message

/-- A message that only sums up others. -/
structure Total (m : Message) : Prop where
  spans : m.spans = []
  code : m.code = none
  text : "aborting due to".toList <+: m.text.toList

/-- The place of a message: the first that it is about first of all, or the first if it is about
none of them first of all, or none if it has none. -/
inductive Placed (m : Message) : Option Span → Prop
  | first {before after : List Span} {s : Span} : m.spans = before ++ s :: after →
    (∀ t ∈ before, t.isPrimary = false) → s.isPrimary = true → Placed m (some s)
  | other {s : Span} {rest : List Span} : m.spans = s :: rest →
    (∀ t ∈ m.spans, t.isPrimary = false) → Placed m (some s)
  | nowhere : m.spans = [] → Placed m none

/-- The text of the first help among the messages right below a message. -/
inductive Helped (m : Message) : Option String → Prop
  | help {before after : List Message} {c : Message} : m.children = before ++ c :: after →
    (∀ b ∈ before, b.severity ≠ .help) → c.severity = .help → Helped m (some c.text)
  | alone : (∀ c ∈ m.children, c.severity ≠ .help) → Helped m none

/-- The diagnostic is the one that the message is, with files named as `name` says. -/
structure Tells (name : String → String) (m : Message) (d : Diagnostic) : Prop where
  level : m.severity.Grave d.level
  notTotal : ¬ m.Total
  message : d.message = m.text
  code : d.code = m.code
  place : ∃ s, m.Placed s ∧ d.file = s.map (name ·.file) ∧ d.line = s.map (·.line) ∧
    d.column = s.map (·.column)
  suggestion : m.Helped d.suggestion

theorem isTotal_iff (m : Message) : m.isTotal = true ↔ m.Total := by
  rw [isTotal, Bool.and_eq_true, Bool.and_eq_true, isSome_after?_iff, List.isEmpty_iff,
    Option.isNone_iff_eq_none]
  exact ⟨fun ⟨⟨hspans, hcode⟩, htext⟩ => ⟨hspans, hcode, htext⟩,
    fun ⟨hspans, hcode, htext⟩ => ⟨⟨hspans, hcode⟩, htext⟩⟩

theorem placed_iff {m : Message} {s : Option Span} : m.Placed s ↔ m.place? = s := by
  have hnone : (∀ t ∈ m.spans, t.isPrimary = false) ↔ m.spans.find? (·.isPrimary) = none := by
    simp [List.find?_eq_none]
  unfold place?
  constructor
  · rintro (@⟨before, after, s, hspans, hbefore, hs⟩ | ⟨hspans, hall⟩ | hspans)
    · have hfind : m.spans.find? (·.isPrimary) = some s :=
        List.find?_eq_some_iff_append.2 ⟨hs, before, after, hspans, by simpa using hbefore⟩
      rw [hfind, Option.some_or]
    · rw [hnone.1 hall, Option.none_or, hspans, List.head?_cons]
    · rw [hspans]
      rfl
  · rintro rfl
    cases hfind : m.spans.find? (·.isPrimary) with
    | some s =>
      obtain ⟨hs, before, after, hspans, hbefore⟩ := List.find?_eq_some_iff_append.1 hfind
      exact .first hspans (by simpa using hbefore) hs
    | none =>
      rw [Option.none_or]
      cases hspans : m.spans with
      | nil => exact .nowhere hspans
      | cons s rest => exact .other hspans (hnone.2 hfind)

theorem helped_iff {m : Message} {s : Option String} : m.Helped s ↔ m.suggestion = s := by
  unfold suggestion
  constructor
  · rintro (@⟨before, after, c, hchildren, hbefore, hc⟩ | hnone)
    · have hfind : m.children.find? (·.severity == .help) = some c :=
        List.find?_eq_some_iff_append.2
          ⟨by simp [hc], before, after, hchildren, by simpa using hbefore⟩
      rw [hfind, Option.map_some]
    · have hfind : m.children.find? (·.severity == .help) = none := by
        simpa [List.find?_eq_none] using hnone
      rw [hfind, Option.map_none]
  · rintro rfl
    cases hfind : m.children.find? (·.severity == .help) with
    | some c =>
      obtain ⟨hc, before, after, hchildren, hbefore⟩ := List.find?_eq_some_iff_append.1 hfind
      exact .help hchildren (by simpa using hbefore) (by simpa using hc)
    | none => exact .alone (by simpa [List.find?_eq_none] using hfind)

theorem toDiagnostic?_eq_some_iff {name : String → String} {m : Message} {d : Diagnostic} :
    m.toDiagnostic? name = some d ↔ m.Tells name d := by
  have hbuilt : m.toDiagnostic? name = some d ↔ m.severity.level? = some d.level ∧
      m.isTotal = false ∧ d = { d with
        message := m.text, code := m.code, suggestion := m.suggestion
        file := m.place?.map (name ·.file), line := m.place?.map (·.line)
        column := m.place?.map (·.column) } := by
    cases hplace : m.place? <;>
      simp only [toDiagnostic?, hplace, Option.bind_eq_bind, Option.bind_eq_some_iff,
        Option.guard_eq_some', Bool.not_eq_true', Option.pure_def, Option.some.injEq,
        Option.map_none, Option.map_some, Diagnostic.withLocation]
    all_goals
      constructor
      · rintro ⟨level, hlevel, -, htotal, rfl⟩
        exact ⟨hlevel, htotal, rfl⟩
      · rintro ⟨hlevel, htotal, hd⟩
        exact ⟨_, hlevel, (), htotal, hd.symm⟩
  rw [hbuilt, Severity.level?_eq_some_iff, Bool.eq_false_iff, Ne, isTotal_iff]
  constructor
  · rintro ⟨hlevel, htotal, hd⟩
    have hfields := Diagnostic.ext_iff.1 hd
    obtain ⟨-, hmessage, hcode, hfile, hline, hcolumn, hsuggestion⟩ := hfields
    exact ⟨hlevel, htotal, hmessage, hcode, ⟨_, placed_iff.2 rfl, hfile, hline, hcolumn⟩,
      helped_iff.2 hsuggestion.symm⟩
  · rintro ⟨hlevel, htotal, hmessage, hcode, ⟨s, hs, hfile, hline, hcolumn⟩, hsuggestion⟩
    obtain rfl := placed_iff.1 hs
    exact ⟨hlevel, htotal, Diagnostic.ext rfl hmessage hcode hfile hline hcolumn
      (helped_iff.1 hsuggestion).symm⟩

end Message

/-! ### What is kept of a message -/

def Span.fieldNames : List String :=
  ["file_name", "byte_start", "byte_end", "line_start", "line_end", "column_start", "column_end",
    "is_primary", "text", "label", "suggested_replacement", "suggestion_applicability",
    "expansion"]

def Message.fieldNames : List String :=
  ["message", "code", "level", "spans", "children", "rendered"]

/-- A span has the file, the place where it starts and the mark that the value has. -/
def Span.Keeps (j : Json) (s : Span) : Prop :=
  ∃ field, fields? fieldNames j = some field ∧ field "file_name" = .given (.string s.file) ∧
    field "line_start" = .given (.number (.natural s.line)) ∧
    field "column_start" = .given (.number (.natural s.column)) ∧
    field "is_primary" = .given (.bool s.isPrimary)

/-- The name of a code that a value has, if it has any. -/
inductive CodeKept : Slot → Option String → Prop
  | missing : CodeKept .missing none
  | null : CodeKept (.given .null) none
  | code {j : Json} {field : String → Slot} {code : String} :
    fields? ["code", "explanation"] j = some field → field "code" = .given (.string code) →
    CodeKept (.given j) (some code)

/-- A message has the short text, the code, the severity, the spans and the children that the value
has, where the children are read in the same way. -/
def Message.Keeps (read : Json → Option Message) (j : Json) (m : Message) : Prop :=
  ∃ field, fields? fieldNames j = some field ∧ field "message" = .given (.string m.text) ∧
    CodeKept (field "code") m.code ∧
    (∃ v levels, field "level" = .given v ∧
      Decoder.choice Severity.ofName? levels v = some m.severity) ∧
    (∃ items, field "spans" = .given (.array items) ∧ List.Forall₂ Span.Keeps items m.spans) ∧
    ∃ items, field "children" = .given (.array items) ∧ items.mapM read = some m.children

theorem required_eq_some {d : Decoder α} {n : Nat} {s : Slot} {a : α}
    (h : s.required d n = some a) : ∃ v, s = .given v ∧ d n v = some a := by
  cases s with
  | given v => exact ⟨v, rfl, h⟩
  | missing => cases h
  | cut => cases h

theorem eq_of_list {d : Decoder α} {n : Nat} {s : Slot} {as : List α}
    (h : s.required (.list d) (n + 1) = some as) :
    ∃ items, s = .given (.array items) ∧ items.mapM (d n) = some as := by
  obtain ⟨v, rfl, hv⟩ := required_eq_some h
  cases v with
  | array items => exact ⟨items, rfl, hv⟩
  | _ => cases hv

theorem forall₂_of_mapM {f : α → Option β} {as : List α} {bs : List β}
    (h : as.mapM f = some bs) : List.Forall₂ (fun a b => f a = some b) as bs := by
  induction as generalizing bs with
  | nil =>
    obtain rfl := Option.some.inj h
    exact .nil
  | cons a as ih =>
    rw [List.mapM_cons] at h
    simp only [Option.bind_eq_bind, Option.bind_eq_some_iff, Option.pure_def,
      Option.some.injEq] at h
    obtain ⟨b, hb, cs, hcs, rfl⟩ := h
    exact .cons hb (ih hcs)

theorem eq_of_text {n : Nat} {s : Slot} {t : String} (h : s.required .text n = some t) :
    s = .given (.string t) := by
  obtain ⟨v, rfl, hv⟩ := required_eq_some h
  cases v <;> cases hv
  rfl

theorem eq_of_flag {n : Nat} {s : Slot} {b : Bool} (h : s.required .flag n = some b) :
    s = .given (.bool b) := by
  obtain ⟨v, rfl, hv⟩ := required_eq_some h
  cases v <;> cases hv
  rfl

theorem eq_of_word {n : Nat} {s : Slot} {k : Nat} (h : s.required .word n = some k) :
    s = .given (.number (.natural k)) := by
  obtain ⟨v, rfl, hv⟩ := required_eq_some h
  rw [Decoder.word, Decoder.natural.eq_def] at hv
  split at hv
  next m =>
    split at hv
    · cases hv
      rfl
    · cases hv
  next => cases hv

theorem Span.keeps_of_decoder {n : Nat} {j : Json} {s : Span} (h : Span.decoder n j = some s) :
    s.Keeps j := by
  rcases n with _ | _ | n
  · cases h
  · cases h
  · rw [Span.decoder, record_succ, Option.bind_eq_some_iff] at h
    obtain ⟨field, hfield, h⟩ := h
    simp only [Option.bind_eq_bind, Option.bind_eq_some_iff, Option.pure_def,
      Option.some.injEq] at h
    obtain ⟨file, hfile, -, -, -, -, line, hline, -, -, column, hcolumn, -, -, isPrimary, hprimary,
      -, -, -, -, -, -, -, -, -, -, rfl⟩ := h
    exact ⟨field, hfield, eq_of_text hfile, eq_of_word hline, eq_of_word hcolumn,
      eq_of_flag hprimary⟩

theorem codeKept_of_optional {n : Nat} {s : Slot} {code : Option String}
    (h : s.optional codeDecoder (n + 1) = some code) : CodeKept s code := by
  cases s with
  | given v =>
    rw [Slot.optional] at h
    unfold Decoder.optional at h
    split at h
    next =>
      obtain rfl := Option.some.inj h
      exact .null
    next =>
      obtain ⟨c, hc, rfl⟩ := Option.map_eq_some_iff.1 h
      rw [codeDecoder, record_succ, Option.bind_eq_some_iff] at hc
      obtain ⟨field, hfield, hc⟩ := hc
      simp only [Option.bind_eq_bind, Option.bind_eq_some_iff, Option.pure_def,
        Option.some.injEq] at hc
      obtain ⟨c', hcode, -, -, rfl⟩ := hc
      exact .code hfield (eq_of_text hcode)
  | missing =>
    obtain rfl := Option.some.inj h
    exact .missing
  | cut => cases h

theorem Message.keeps_of_decoder {n : Nat} {j : Json} {m : Message}
    (h : Message.decoder n j = some m) : m.Keeps (Message.decoder (n - 2)) j := by
  rcases n with _ | _ | n
  · cases h
  · cases h
  · rw [Message.decoder, record_succ, Option.bind_eq_some_iff] at h
    obtain ⟨field, hfield, h⟩ := h
    simp only [Option.bind_eq_bind, Option.bind_eq_some_iff, Option.pure_def,
      Option.some.injEq] at h
    obtain ⟨text, htext, code, hcode, severity, hseverity, spans, hspans, children, hchildren, -, -,
      rfl⟩ := h
    obtain ⟨level, hlevel, hchoice⟩ := required_eq_some hseverity
    obtain ⟨items, hitems, hmapM⟩ := eq_of_list hspans
    obtain ⟨below, hbelow, hread⟩ := eq_of_list hchildren
    refine ⟨field, hfield, eq_of_text htext, codeKept_of_optional hcode,
      ⟨level, _, hlevel, hchoice⟩, ⟨items, hitems, ?_⟩, below, hbelow, hread⟩
    exact (forall₂_of_mapM hmapM).imp fun _ _ hspan => Span.keeps_of_decoder hspan

/-- A value of the build tool's that passes on a value of the compiler's. -/
def PassesOn (j v : Json) : Prop :=
  ∃ field, fields? ["reason", "package_id", "target", "message"] j = some field ∧
    field "reason" = .given (.string "compiler-message") ∧ field "message" = .given v

theorem passesOn_of_decoder {n : Nat} {j : Json} {m : Message}
    (h : passedOnDecoder n j = some m) :
    ∃ v, PassesOn j v ∧ Message.decoder (n - 1) v = some m := by
  rcases n with _ | n
  · cases h
  · rw [passedOnDecoder, record_succ, Option.bind_eq_some_iff] at h
    obtain ⟨field, hfield, h⟩ := h
    simp only [Option.bind_eq_bind, Option.bind_eq_some_iff] at h
    obtain ⟨reason, hreason, u, hguard, -, -, -, -, hmessage⟩ := h
    have heq : reason = "compiler-message" := (Option.guard_eq_some' u).1 hguard
    obtain ⟨v, hv, hm⟩ := required_eq_some hmessage
    exact ⟨v, ⟨field, hfield, heq ▸ eq_of_text hreason, hv⟩, hm⟩

/-! ### Lines and what they give -/

section Lines

variable {Line : Type} (Says : Line → Message → Prop) (name : String → String)

/-- The diagnostics of lines, where `Says` tells which line is which message. -/
inductive Reports : List Line → List Diagnostic → Prop
  | nil : Reports [] []
  | told {l : Line} {m : Message} {d : Diagnostic} {ls : List Line} {ds : List Diagnostic} :
    Says l m → m.Tells name d → Reports ls ds → Reports (l :: ls) (d :: ds)
  | silent {l : Line} {ls : List Line} {ds : List Diagnostic} :
    (∀ m d, Says l m → ¬ m.Tells name d) → Reports ls ds → Reports (l :: ls) ds

variable {Says name}

/-- Lines of which each gives the diagnostic that it tells of, if any. -/
theorem reports_iff {give : Line → Option Diagnostic}
    (hgive : ∀ l d, give l = some d ↔ ∃ m, Says l m ∧ m.Tells name d) {ls : List Line}
    {ds : List Diagnostic} : Reports Says name ls ds ↔ ds = ls.filterMap give := by
  constructor
  · intro h
    induction h with
    | nil => rfl
    | told hsays htells _ ih =>
      rw [List.filterMap_cons_some ((hgive _ _).2 ⟨_, hsays, htells⟩), ih]
    | @silent l ls ds hsilent _ ih =>
      have hnone : give l = none := by
        refine Option.eq_none_iff_forall_ne_some.2 fun d hd => ?_
        obtain ⟨m, hsays, htells⟩ := (hgive l d).1 hd
        exact hsilent m d hsays htells
      rw [List.filterMap_cons_none hnone, ih]
  · rintro rfl
    induction ls with
    | nil => exact .nil
    | cons l ls ih =>
      cases h : give l with
      | none =>
        rw [List.filterMap_cons_none h]
        refine .silent (fun m d hsays htells => ?_) ih
        rw [(hgive l d).2 ⟨m, hsays, htells⟩] at h
        cases h
      | some d =>
        obtain ⟨m, hsays, htells⟩ := (hgive l d).1 h
        rw [List.filterMap_cons_some h]
        exact .told hsays htells ih

end Lines

/-- A line of the compiler's error text that is a message: an object, alone on the line. -/
def CompilerLine (line : List Char) (m : Message) : Prop :=
  (trimStart line).head? = some '{' ∧
    ∃ j, Spells (Token.scan line) j ∧ Message.decoder maxDepth j = some m

/-- A line of the build tool's output that is a message of the compiler, as the first value on the
line. -/
def BuildLine (line : List Char) (m : Message) : Prop :=
  ∃ ts rest j, Token.scan line = ts ++ rest ∧ Spells ts j ∧
    j.readable (line.length + 1) = true ∧ passedOnDecoder (line.length + 1) j = some m

/-- The bytes of such a line. -/
def BuildBytes (bytes : List UInt8) (m : Message) : Prop :=
  ∃ line, bytes = Utf8.encode line ∧ BuildLine line m

theorem diagnosticOfCompilerLine?_eq_some_iff {name : String → String} {line : List Char}
    {d : Diagnostic} :
    diagnosticOfCompilerLine? name line = some d ↔
      ∃ m, CompilerLine line m ∧ m.Tells name d := by
  unfold diagnosticOfCompilerLine? CompilerLine
  simp only [Option.bind_eq_bind, Option.bind_eq_some_iff, Option.guard_eq_some',
    read?_eq_some_iff, Message.toDiagnostic?_eq_some_iff]
  constructor
  · rintro ⟨-, hbrace, m, ⟨j, hspells, hm⟩, htells⟩
    exact ⟨m, ⟨hbrace, j, hspells, hm⟩, htells⟩
  · rintro ⟨m, ⟨hbrace, j, hspells, hm⟩, htells⟩
    exact ⟨(), hbrace, m, ⟨j, hspells, hm⟩, htells⟩

theorem messageOfBuildLine?_eq_some_iff {line : List Char} {m : Message} :
    messageOfBuildLine? line = some m ↔ BuildLine line m := by
  unfold messageOfBuildLine? BuildLine
  simp only [Option.bind_eq_bind, Option.bind_eq_some_iff, readFirst?_eq_some_iff]
  constructor
  · rintro ⟨j, ⟨ts, rest, hscan, hspells⟩, u, hguard, hm⟩
    exact ⟨ts, rest, j, hscan, hspells, (Option.guard_eq_some' u).1 hguard, hm⟩
  · rintro ⟨ts, rest, j, hscan, hspells, hreadable, hm⟩
    exact ⟨j, ⟨ts, rest, hscan, hspells⟩, (), (Option.guard_eq_some' ()).2 hreadable, hm⟩

theorem diagnosticOfBytes?_eq_some_iff {bytes : List UInt8} {d : Diagnostic} :
    ((Utf8.decode? bytes).bind fun s =>
      (messageOfBuildLine? s.toList).bind (Message.toDiagnostic? id)) = some d ↔
      ∃ m, BuildBytes bytes m ∧ m.Tells id d := by
  simp only [Option.bind_eq_some_iff, Utf8.decode?_eq_some_iff, messageOfBuildLine?_eq_some_iff,
    Message.toDiagnostic?_eq_some_iff, BuildBytes]
  constructor
  · rintro ⟨s, hs, m, hm, htells⟩
    exact ⟨m, ⟨s.toList, hs, hm⟩, htells⟩
  · rintro ⟨m, ⟨line, hline, hm⟩, htells⟩
    rw [← String.toList_ofList (l := line)] at hline hm
    exact ⟨_, hline, m, hm, htells⟩

theorem buildDiagnosticsOfBytes_eq (stdout : List UInt8) :
    buildDiagnosticsOfBytes stdout = (byteLines stdout).filterMap fun l =>
      (Utf8.decode? l).bind fun s =>
        (messageOfBuildLine? s.toList).bind (Message.toDiagnostic? id) := by
  rw [buildDiagnosticsOfBytes, diagnosticsOfBuildLines, List.filterMap_filterMap]
  congr 1
  funext l
  cases Utf8.decode? l <;> rfl

/-! ### Lines of bytes -/

theorem byteLines_ne_nil (bytes : List UInt8) : byteLines bytes ≠ [] := by
  cases bytes with
  | nil => simp [byteLines]
  | cons b bs =>
    unfold byteLines
    split
    · simp
    · split <;> simp

theorem byteLines_feed (bs : List UInt8) : byteLines (0x0A :: bs) = [] :: byteLines bs := by
  obtain ⟨l, ls, hl⟩ := List.exists_cons_of_ne_nil (byteLines_ne_nil bs)
  rw [byteLines, hl]
  rfl

theorem byteLines_append_of_not_mem {bs bs' l : List UInt8} {ls : List (List UInt8)}
    (h : 0x0A ∉ bs) (hl : byteLines bs' = l :: ls) : byteLines (bs ++ bs') = (bs ++ l) :: ls := by
  induction bs with
  | nil => exact hl
  | cons b bs ih =>
    obtain ⟨hb, hbs⟩ := not_or.1 (fun hmem => h (List.mem_cons.2 hmem))
    rw [List.cons_append, byteLines, ih hbs]
    exact if_neg (Ne.symm hb)

/-- The lines of the bytes of a text are the bytes of its lines. -/
theorem byteLines_encode (s : List Char) :
    byteLines (Utf8.encode s) = (pieces '\n' s).map Utf8.encode := by
  induction s with
  | nil => rfl
  | cons c s ih =>
    obtain ⟨p, ps, hp⟩ := List.exists_cons_of_ne_nil (pieces_ne_nil '\n' s)
    rw [hp, List.map_cons] at ih
    rw [Utf8.encode_cons]
    by_cases hc : c = '\n'
    · subst hc
      have hbytes : String.utf8EncodeChar '\n' = [0x0A] := rfl
      rw [hbytes, List.singleton_append, byteLines_feed, ih, pieces, if_pos rfl, hp]
      rfl
    · rw [byteLines_append_of_not_mem (Utf8.newline_not_mem_utf8EncodeChar hc) ih,
        pieces_cons hc hp, List.map_cons, Utf8.encode_cons]

theorem buildDiagnostics_eq (stdout : String) :
    buildDiagnostics stdout = buildDiagnosticsOfBytes (Utf8.encode stdout.toList) := by
  have hdecode : ((fun l => (Utf8.decode? l).map String.toList) ∘ Utf8.encode) = some := by
    funext l
    have hl : Utf8.decode? (Utf8.encode l) = some (String.ofList l) :=
      Utf8.decode?_eq_some_iff.2 (by rw [String.toList_ofList])
    rw [Function.comp_apply, hl, Option.map_some, String.toList_ofList]
  rw [buildDiagnostics, buildDiagnosticsOfBytes, byteLines_encode, List.filterMap_map, hdecode,
    List.filterMap_some]

/-- The diagnostics in what the toolchain writes are those that its lines tell of, in order, line by
line: the compiler's lines are text, the build tool's lines are bytes. The compiler's files are
named relative to the directory exactly where their components start with its components. -/
theorem reports_of_lines (stderr directory stdout : String) (bytes : List UInt8) :
    (∀ ds, Reports CompilerLine (Path.relativeTo directory) (lines stderr.toList) ds ↔
      ds = compilerDiagnostics stderr directory) ∧
    (∀ ds, Reports BuildBytes id (byteLines bytes) ds ↔ ds = buildDiagnosticsOfBytes bytes) ∧
    buildDiagnostics stdout = buildDiagnosticsOfBytes (Utf8.encode stdout.toList) ∧
    (∀ n j m, Message.decoder n j = some m → m.Keeps (Message.decoder (n - 2)) j) ∧
    (∀ n j m, passedOnDecoder n j = some m →
      ∃ v, PassesOn j v ∧ Message.decoder (n - 1) v = some m) ∧
    ∀ file, let name := Path.relativeTo directory file
      (Path.components directory.toList <+: Path.components file.toList ∧
        Path.components file.toList =
          Path.components directory.toList ++ Path.components name.toList ∧
        name.toList <:+: file.toList) ∨
      (¬ Path.components directory.toList <+: Path.components file.toList ∧ name = file) := by
  refine ⟨fun ds => ?_, fun ds => ?_, buildDiagnostics_eq stdout,
    fun _ _ _ => Message.keeps_of_decoder, fun _ _ _ => passesOn_of_decoder, fun file => ?_⟩
  · exact reports_iff fun _ _ => diagnosticOfCompilerLine?_eq_some_iff
  · rw [buildDiagnosticsOfBytes_eq]
    exact reports_iff fun _ _ => diagnosticOfBytes?_eq_some_iff
  · exact Path.relativeTo_cases directory file

/-- An error in a file in the directory, a line that is no message, and a warning in a file whose
path only starts with the same letters. -/
theorem reports_of_lines_beside :
    let number (n : Nat) : Json := .number (.natural n)
    let message (level file : String) : Json := .object [("message", .string "m"),
      ("level", .string level), ("spans", .array [.object [("file_name", .string file),
        ("byte_start", number 0), ("byte_end", number 1), ("line_start", number 3),
        ("line_end", number 3), ("column_start", number 5), ("column_end", number 6),
        ("is_primary", .bool true), ("text", .array [])]]), ("children", .array [])]
    let ls := [compact (message "error" "/tmp/work/a.rs"), "not json".toList,
      compact (message "warning" "/tmp/work2/a.rs")]
    compilerDiagnostics (String.ofList (join ['\n'] ls)) "/tmp/work" =
      [{ level := .error, message := "m", file := "a.rs", line := some 3, column := some 5 },
        { level := .warning, message := "m", file := "/tmp/work2/a.rs", line := some 3,
          column := some 5 }] := by
  intro number message ls
  have hplain (level file : String) : (message level file).Plain := by
    have hnumber (n : Nat) (hn : n ≤ 6) : (number n).Plain :=
      .number (Nat.le_trans hn (by decide))
    have hspan : Json.Plain (.object [("file_name", .string file), ("byte_start", number 0),
        ("byte_end", number 1), ("line_start", number 3), ("line_end", number 3),
        ("column_start", number 5), ("column_end", number 6), ("is_primary", .bool true),
        ("text", .array [])]) := by
      apply Plain.object
      simp only [List.forall_mem_cons]
      exact ⟨.string file, hnumber 0 (by omega), hnumber 1 (by omega), hnumber 3 (by omega),
        hnumber 3 (by omega), hnumber 5 (by omega), hnumber 6 (by omega), .bool true,
        .array nofun, nofun⟩
    apply Plain.object
    simp only [List.forall_mem_cons]
    exact ⟨.string "m", .string level, .array (by simpa using hspan), .array nofun, nofun⟩
  let span (file : String) : Span := { file, line := 3, column := 5, isPrimary := true }
  have hgiven (text file : String) {severity : Severity} {level : Level} {name : String}
      (hread : Message.decoder maxDepth (message text file) =
        some ⟨"m", none, severity, [span file], []⟩)
      (hgrave : severity.Grave level) (hname : Path.relativeTo "/tmp/work" file = name) :
      ∃ m, CompilerLine (compact (message text file)) m ∧ m.Tells (Path.relativeTo "/tmp/work")
        { level, message := "m", file := name, line := some 3, column := some 5 } := by
    refine ⟨_, ⟨rfl, _, read?_eq_some_iff.1 (read?_compact (hplain text file)), hread⟩, hgrave,
      ?_, rfl, rfl, ⟨some (span file), .first (List.nil_append _).symm nofun rfl, ?_, rfl, rfl⟩,
      .alone nofun⟩
    · rintro ⟨hspans, -, -⟩
      cases hspans
    · rw [Option.map_some, hname]
  have hwithin : Path.relativeTo "/tmp/work" "/tmp/work/a.rs" = "a.rs" := by decide +kernel
  have hbeside : Path.relativeTo "/tmp/work" "/tmp/work2/a.rs" = "/tmp/work2/a.rs" := by
    decide +kernel
  obtain ⟨m, hm, htells⟩ := hgiven "error" "/tmp/work/a.rs" rfl .error hwithin
  obtain ⟨m', hm', htells'⟩ := hgiven "warning" "/tmp/work2/a.rs" rfl .warning hbeside
  have hlines : lines (String.ofList (join ['\n'] ls)).toList = ls := by
    rw [String.toList_ofList]
    decide +kernel
  symm
  refine ((reports_of_lines _ "/tmp/work" "" []).1 _).1 ?_
  rw [hlines]
  refine .told hm htells (.silent ?_ (.told hm' htells' .nil))
  rintro _ _ ⟨hstart, -⟩
  exact absurd hstart (by decide +kernel)

end SnippetCheck.Toolchain
