import SnippetCheck.Proofs.Compiler.Blocks
import SnippetCheck.Proofs.Http
import SnippetCheck.Proofs.Report.Json
import SnippetCheck.Proofs.Report.Verdict

/-! Completion projects partial reports onto the well-formed ones. It keeps what a partial report
says, but for the levels and for a success that its errors forbid, and a report that went through a
partial one comes back unchanged if it is well formed. The reports of both services are, which is
why a caller cannot tell from a report which of them was asked. -/

namespace SnippetCheck

open Json

/-- A diagnostic that says what a partial one does, at a level of its own. -/
structure PartialDiagnostic.KeptAt (level : Level) (p : PartialDiagnostic) (d : Diagnostic) :
    Prop where
  level : d.level = level
  message : d.message = p.message.getD ""
  code : d.code = p.code
  file : d.file = p.file
  line : d.line = p.line
  column : d.column = p.column
  suggestion : d.suggestion = p.suggestion

/-- A report that says what a partial one does, diagnostic by diagnostic and in the same order. -/
structure PartialReport.KeptBy (p : PartialReport) (r : Report) : Prop where
  errors : List.Forall₂ (PartialDiagnostic.KeptAt .error) (p.errors.getD []) r.errors
  warnings : List.Forall₂ (PartialDiagnostic.KeptAt .warning) (p.warnings.getD []) r.warnings
  stdout : r.stdout = p.stdout.getD ""
  stderr : r.stderr = p.stderr.getD ""
  success : r.success = true ↔ p.success = some true ∧ p.errors.getD [] = []

theorem PartialDiagnostic.forall₂_complete (level : Level) (ps : List PartialDiagnostic) :
    List.Forall₂ (KeptAt level) ps (ps.map (·.complete level)) := by
  induction ps with
  | nil => exact .nil
  | cons p ps ih => exact .cons ⟨rfl, rfl, rfl, rfl, rfl, rfl, rfl⟩ ih

theorem PartialReport.keptBy_complete (p : PartialReport) : p.KeptBy p.complete where
  errors := PartialDiagnostic.forall₂_complete .error _
  warnings := PartialDiagnostic.forall₂_complete .warning _
  stdout := rfl
  stderr := rfl
  success := by
    rw [p.judged_complete.success_iff]
    cases p.success <;> simp [complete]

/-! ### The toolchain behind a service -/

/-- The toolchain answers a check exactly if it is asked and has a report, and then the answer is
this report. -/
theorem Service.check_asPrimary_iff (s : Service) (t : Toolchain) (b : Backends) (source : String)
    (options : CheckOptions) (r : Report) :
    (s.check (t.asPrimary b) source options).1 = .ok r ∧
        (s.check (t.asPrimary b) source options).2.2 =
          [.check (.ofOptions s.config source options)] ↔
      s.availability.worthTrying = true ∧
        (t.check (.ofOptions s.config source options)).1 = .ok r := by
  constructor
  · rintro ⟨hok, hcalls⟩
    refine ⟨?_, Toolchain.report_of_check_asPrimary hok (by rw [hcalls]; rfl)⟩
    obtain ⟨hw, -⟩ | ⟨hw, -⟩ | ⟨-, heq⟩ := s.check_cases (t.asPrimary b) source options
    · exact hw
    · exact hw
    · -- a primary that is not worth trying is not asked
      have hnone := filterMap_checkRequest?_fallBack s (t.asPrimary b) source "marked unavailable"
      rw [heq] at hcalls
      rw [hcalls] at hnone
      exact absurd hnone (by simp)
  · rintro ⟨hw, hr⟩
    have hreply : (t.asPrimary b).check (.ofOptions s.config source options) =
        .ok { result := r.toPartial, rustAvailable := some true } := by
      show (t.check _).1.map _ = _
      rw [hr]
      rfl
    rw [check_of_check_ok hw hreply, (Toolchain.wellFormed_of_check_eq_ok hr).complete_toPartial]
    exact ⟨rfl, rfl⟩

/-! ### The playground and an echo of it -/

/-- A check that cannot use the primary service gives the report on what the secondary one
answers. -/
theorem Service.check_of_execute {s : Service} {b : Backends} {source : String}
    {options : CheckOptions} {reply : ExecuteReply} (hs : s.secondary.isSome = true)
    (hfail : s.availability.worthTrying = true →
      ∃ e, b.check (.ofOptions s.config source options) = .error e)
    (hreply : b.execute (.ofCode source s.config) = .ok reply) :
    (s.check b source options).1 = .ok (reply.report s.config) := by
  have hfall (why : String) : (s.fallBack b source why).1 = .ok (reply.report s.config) := by
    obtain ⟨name, hname⟩ := Option.isSome_iff_exists.1 hs
    rw [fallBack_eq, hname, Option.map_some, hreply]
  obtain ⟨hw, _, hc, -⟩ | ⟨-, e, -, heq⟩ | ⟨-, heq⟩ := s.check_cases b source options
  · obtain ⟨e, he⟩ := hfail hw
    exact absurd (hc.symm.trans he) (by simp)
  · rw [heq, hfall]
  · rw [heq, hfall]

/-- A check that uses the primary service gives a well-formed report as it was sent. -/
theorem Service.check_of_check_toPartial {s : Service} {b : Backends} {source : String}
    {options : CheckOptions} {r : Report} {flag : Option Bool} (hr : r.WellFormed)
    (hw : s.availability.worthTrying = true)
    (hc : b.check (.ofOptions s.config source options) =
      .ok { result := r.toPartial, rustAvailable := flag }) :
    (s.check b source options).1 = .ok r := by
  rw [check_of_check_ok hw hc, hr.complete_toPartial]

/-! ### Reports on the wire -/

/-- The answer of a primary service that sends a report. -/
def Report.answer (r : Report) (rustAvailable : Option Bool) : Json :=
  .object <| ("result", r.toJson) ::
    (rustAvailable.map fun flag => ("rust_available", Json.bool flag)).toList

/-- The bytes of that answer. -/
def Report.answerBody (r : Report) (rustAvailable : Option Bool) : List UInt8 :=
  Text.Utf8.encode (r.answer rustAvailable).compact

theorem Diagnostic.Fits.partialDecoder_toJson {d : Diagnostic} (h : d.Fits) (n : Nat) :
    PartialDiagnostic.decoder (n + 1) d.toJson = some d.toPartial := by
  have hline := optional_ofCountOrNone n h.line
  have hcolumn := optional_ofCountOrNone n h.column
  have hsome (s : String) : Decoder.text.optional n (.string s) = some (some s) := rfl
  rw [PartialDiagnostic.decoder, toJson_eq, record_object n (nodup_members d)]
  obtain ⟨level, message, code, file, line, column, suggestion⟩ := d
  cases suggestion <;>
    simp [field, members, List.lookup_cons, Slot.optional, optional_ofTextOrNone, hsome, hline,
      hcolumn, toPartial]

namespace Report.Fits

variable {r : Report}

theorem partialDecoder_list {ds : List Diagnostic} (h : ∀ d ∈ ds, d.Fits) (n : Nat) :
    (Decoder.list PartialDiagnostic.decoder).optional (n + 2) (.array (ds.map (·.toJson))) =
      some (some (ds.map (·.toPartial))) :=
  congrArg (Option.map some)
    (list_map_eq_map (n + 1) fun d hd => (h d hd).partialDecoder_toJson n)

theorem partialDecoder_toJson (h : r.Fits) (n : Nat) :
    PartialReport.decoder (n + 3) r.toJson = some r.toPartial := by
  have herrors := partialDecoder_list (fun d hd => h d (List.mem_append_left r.warnings hd)) n
  have hwarnings := partialDecoder_list (fun d hd => h d (List.mem_append_right r.errors hd)) n
  have hflag : Decoder.flag.optional (n + 2) (.bool r.success) = some (some r.success) := rfl
  have htext (s : String) : Decoder.text.optional (n + 2) (.string s) = some (some s) := rfl
  rw [PartialReport.decoder, toJson, record_object (n + 2) (by simp)]
  simp [field, List.lookup_cons, Slot.optional, herrors, hwarnings, hflag, htext, toPartial]

/-- A report that is sent as an answer is read as its own partial form. -/
theorem replyDecoder_answer (h : r.Fits) (flag : Option Bool) (n : Nat) :
    CheckReply.decoder (n + 4) (r.answer flag) =
      some { result := r.toPartial, rustAvailable := flag } := by
  have hresult := h.partialDecoder_toJson n
  have hflag (b : Bool) : Decoder.flag.optional (n + 3) (.bool b) = some (some b) := rfl
  cases flag with
  | none =>
    rw [CheckReply.decoder, answer, record_object (n + 3) (by simp)]
    simp [field, List.lookup_cons, Slot.required, Slot.orElse, hresult]
  | some b =>
    rw [CheckReply.decoder, answer, record_object (n + 3) (by simp)]
    simp [field, List.lookup_cons, Slot.required, Slot.orElse, hresult, hflag]

theorem plain_answer (h : r.Fits) (flag : Option Bool) : (r.answer flag).Plain := by
  apply Plain.object
  intro m hm
  rcases List.mem_cons.1 hm with rfl | hm
  · exact h.plain_toJson
  · obtain ⟨b, -, rfl⟩ := Option.map_eq_some_iff.1 (Option.mem_toList.1 hm)
    exact .bool b

end Report.Fits

namespace Compiler

theorem le_of_number?_eq_some {s : List Char} {n : Nat} (h : number? s = some n) :
    n ≤ Numeral.wordMax := by
  unfold number? at h
  split at h
  · cases h
  · dsimp only at h
    split at h
    · next hle => exact Option.some.inj h ▸ hle
    · cases h

theorem le_of_arrow?_eq_some {line : List Char} {file : String} {row column : Nat}
    (h : arrow? line = some (file, row, column)) :
    row ≤ Numeral.wordMax ∧ column ≤ Numeral.wordMax := by
  simp only [arrow?, Option.bind_eq_bind, Option.bind_eq_some_iff] at h
  obtain ⟨_, -, _, -, _, -, _, -, _, hrow, _, hcolumn, heq⟩ := h
  simp only [Option.pure_def, Option.some.injEq, Prod.mk.injEq] at heq
  obtain ⟨-, rfl, rfl⟩ := heq
  exact ⟨le_of_number?_eq_some hrow, le_of_number?_eq_some hcolumn⟩

/-- The places in a text have at most 64 bits. -/
theorem le_of_firstPlace?_eq_some {block : List (List Char)} {file : String} {row column : Nat}
    (h : firstPlace? block = some (file, row, column)) :
    row ≤ Numeral.wordMax ∧ column ≤ Numeral.wordMax := by
  obtain ⟨line, -, hline⟩ := List.mem_filterMap.1 (List.mem_of_head? h)
  obtain ⟨_, hl⟩ | ⟨_, _, hl⟩ | ⟨_, _, _, -, harrow, hl⟩ | ⟨_, _, _, hl⟩ := Line.ofText_cases line
  · simp [hl, Line.place?] at hline
  · simp [hl, Line.place?] at hline
  · obtain ⟨rfl, rfl, rfl⟩ : _ ∧ _ ∧ _ := by simpa [hl, Line.place?] using hline
    exact le_of_arrow?_eq_some harrow
  · simp [hl, Line.place?] at hline

theorem fits_ofBlock (d : Diagnostic) (block : List (List Char)) : (ofBlock d block).Fits := by
  constructor
  · intro n hn
    obtain ⟨⟨file, row, column⟩, hplace, rfl⟩ := Option.map_eq_some_iff.1 hn
    exact (le_of_firstPlace?_eq_some hplace).1
  · intro n hn
    obtain ⟨⟨file, row, column⟩, hplace, rfl⟩ := Option.map_eq_some_iff.1 hn
    exact (le_of_firstPlace?_eq_some hplace).2

theorem fits_of_mem_diagnostics {text : String} {dropTotals : Bool} {d : Diagnostic}
    (h : d ∈ diagnostics text dropTotals) : d.Fits := by
  have heq : diagnostics text dropTotals = ofBlocks dropTotals (Text.lines text.toList) :=
    diagnosticsFrom_none ..
  rw [heq] at h
  obtain ⟨tail, -, htail⟩ := List.mem_filterMap.1 h
  cases tail with
  | nil => cases htail
  | cons line lines =>
    obtain ⟨e, -, rfl⟩ := Option.map_eq_some_iff.1 htail
    exact fits_ofBlock ..

theorem fits_report (success : Bool) (stdout stderr : String) (dropTotals : Bool) :
    (report success stdout stderr dropTotals).Fits := by
  intro d hd
  rw [report, Report.ofDiagnostics_eq, Report.diagnostics, List.mem_append] at hd
  rcases hd with hd | hd
  · exact fits_of_mem_diagnostics (List.mem_filter.1 hd).1
  · exact fits_of_mem_diagnostics (List.mem_filter.1 hd).1

end Compiler

/-- An answer that sends a report and has a good status is read as the report's own partial
form. -/
theorem Report.Fits.read_answer {r : Report} (h : r.Fits) (flag : Option Bool) (url : String)
    {status : Nat} (hstatus : Http.isSuccess status = true) :
    (Http.Answer.response { status, url, body := r.answerBody flag }).read CheckReply.decoder =
      .ok { result := r.toPartial, rustAvailable := flag } := by
  have hdecode : decode? CheckReply.decoder (String.ofList (r.answer flag).compact) =
      some { result := r.toPartial, rustAvailable := flag } :=
    decode?_compact (h.plain_answer flag) (h.replyDecoder_answer flag 123)
  have htext : (Http.Answer.response { status, url, body := r.answerBody flag }).text =
      .ok (String.ofList (r.answer flag).compact) :=
    congrArg Except.ok (Http.ofMarked_object _)
  rw [Http.read_of_text_eq_ok hstatus htext, hdecode]
  rfl

/-- Completion is a projection of the partial reports onto the well-formed ones. A completed report
keeps what the partial one says, is completed from its own partial form, and so is a report exactly
if it is well formed. So a check that the toolchain answers gives the toolchain's own report, and a
primary service that sends the report on what the playground answered, be it as a value or as text,
gives the report that the check would have got by falling back. -/
theorem completion_is_projection :
    (∀ p : PartialReport, p.KeptBy p.complete) ∧
    (∀ p : PartialReport, p.complete.toPartial.complete = p.complete) ∧
    (∀ r : Report, r.toPartial.complete = r ↔
      (∀ d ∈ r.errors, d.level = .error) ∧ (∀ d ∈ r.warnings, d.level = .warning) ∧
        (r.success = true → r.errors = [])) ∧
    (∀ (s : Service) (t : Toolchain) b source options r,
      (s.check (t.asPrimary b) source options).1 = .ok r ∧
          (s.check (t.asPrimary b) source options).2.2 =
            [.check (.ofOptions s.config source options)] ↔
        s.availability.worthTrying = true ∧
          (if options.quickCheck.getD s.config.quickCheck then t.checkQuickly source
            else t.checkProject source options.dependencies).1 = .ok r) ∧
    (∀ (s s' : Service) (b b' : Backends) source options reply flag,
      s.secondary.isSome = true →
      (s.availability.worthTrying = true →
        ∃ e, b.check (.ofOptions s.config source options) = .error e) →
      b.execute (.ofCode source s.config) = .ok reply →
      s'.availability.worthTrying = true →
      b'.check (.ofOptions s'.config source options) =
        .ok { result := (reply.report s.config).toPartial, rustAvailable := flag } →
      (s.check b source options).1 = .ok (reply.report s.config) ∧
        (s'.check b' source options).1 = .ok (reply.report s.config)) ∧
    ∀ (config : Config) (reply : ExecuteReply) flag url status, Http.isSuccess status = true →
      (Http.Answer.response { status, url, body := (reply.report config).answerBody flag }).read
          CheckReply.decoder =
        .ok { result := (reply.report config).toPartial, rustAvailable := flag } := by
  refine ⟨?_, ?_, ?_, ?_, ?_, ?_⟩
  · exact PartialReport.keptBy_complete
  · exact PartialReport.complete_toPartial_complete
  · intro r
    rw [r.complete_toPartial_eq_iff]
    exact ⟨fun h => ⟨h.errors, h.warnings, h.success⟩, fun ⟨he, hw, hs⟩ => ⟨he, hw, hs⟩⟩
  · intro s t b source options r
    exact s.check_asPrimary_iff t b source options r
  · intro s s' b b' source options reply flag hsecondary hfail hreply hw hecho
    have hparsed : (reply.report s.config).WellFormed :=
      (Compiler.judged_report ..).wellFormed
    exact ⟨Service.check_of_execute hsecondary hfail hreply,
      Service.check_of_check_toPartial hparsed hw hecho⟩
  · intro config reply flag url status hstatus
    have hfits : (reply.report config).Fits := Compiler.fits_report _ _ _ _
    exact hfits.read_answer flag url hstatus

/-- The playground calls a snippet good and warns of it. A check that falls back, and one whose
primary service sends the same report back, both give it. -/
theorem completion_is_projection_echo :
    let s := Service.new {} "first" (some "second")
    let reply : ExecuteReply :=
      { success := true, stderr := "warning[E1]: unused\n --> a.rs:3:5" }
    let r : Report :=
      { success := true
        warnings := [{ level := .warning, message := "unused", code := some "E1"
                       file := some "a.rs", line := some 3, column := some 5 }]
        stderr := "warning[E1]: unused\n --> a.rs:3:5" }
    let b : Backends :=
      { health := .error (.timeout "first"), check := fun _ => .error (.timeout "first")
        execute := fun _ => .ok reply }
    let b' : Backends :=
      { b with check := fun _ => .ok { result := r.toPartial, rustAvailable := none } }
    (s.check b "" {}).1 = .ok r ∧ (s.check b' "" {}).1 = .ok r ∧
      (Http.Answer.response { status := 200, url := "first", body := r.answerBody none }).read
          CheckReply.decoder =
        .ok { result := r.toPartial, rustAvailable := none } := by
  intro s reply r b b'
  have hr : reply.report s.config = r := by decide +kernel
  obtain ⟨-, -, -, -, hecho, hwire⟩ := completion_is_projection
  have h := hecho s s b b' "" {} reply none rfl (fun _ => ⟨_, rfl⟩) rfl rfl (by rw [hr])
  rw [hr] at h
  refine ⟨h.1, h.2, ?_⟩
  have h' := hwire s.config reply none "first" 200 rfl
  rwa [hr] at h'

end SnippetCheck
