import SnippetCheck.Json.Decoder
import SnippetCheck.Report

/-! Partial reports: what a compile service may leave out of a report, and how it is completed. The
main statements say that a completed report is well formed, that completing a report's own partial
form changes nothing that is well formed, and that completing twice is completing once. -/

namespace SnippetCheck

/-- A diagnostic of which every field may be missing. What it says of its level is ignored: the
list that holds it decides. -/
structure PartialDiagnostic where
  level : Option String := none
  message : Option String := none
  code : Option String := none
  file : Option String := none
  line : Option Nat := none
  column : Option Nat := none
  suggestion : Option String := none
deriving DecidableEq, Repr

structure PartialReport where
  success : Option Bool := none
  errors : Option (List PartialDiagnostic) := none
  warnings : Option (List PartialDiagnostic) := none
  stdout : Option String := none
  stderr : Option String := none
deriving DecidableEq, Repr

namespace PartialDiagnostic

open Json

/-- The diagnostic at a level, with an empty message for a missing one. -/
def complete (d : PartialDiagnostic) (level : Level) : Diagnostic :=
  { level, message := d.message.getD "", code := d.code, file := d.file, line := d.line,
    column := d.column, suggestion := d.suggestion }

def decoder : Decoder PartialDiagnostic :=
  .record ["level", "message", "code", "file", "line", "column", "suggestion"] fun n field => do
    let level ← (field "level").optional .text n
    let message ← (field "message").optional .text n
    let code ← (field "code").optional .text n
    let file ← (field "file").optional .text n
    let line ← (field "line").optional .word n
    let column ← (field "column").optional .word n
    let suggestion ← (field "suggestion").optional .text n
    return { level, message, code, file, line, column, suggestion }

end PartialDiagnostic

def Diagnostic.toPartial (d : Diagnostic) : PartialDiagnostic :=
  { level := some d.level.name, message := some d.message, code := d.code, file := d.file,
    line := d.line, column := d.column, suggestion := d.suggestion }

def Report.toPartial (r : Report) : PartialReport :=
  { success := some r.success, errors := some (r.errors.map Diagnostic.toPartial),
    warnings := some (r.warnings.map Diagnostic.toPartial), stdout := some r.stdout,
    stderr := some r.stderr }

namespace PartialReport

open Json

/-- The report with empty values for what is missing. It succeeds if it says so and has no
errors. -/
def complete (r : PartialReport) : Report :=
  let errors := (r.errors.getD []).map (·.complete .error)
  { success := r.success.getD false && errors.isEmpty
    errors
    warnings := (r.warnings.getD []).map (·.complete .warning)
    stdout := r.stdout.getD ""
    stderr := r.stderr.getD "" }

/-- Reads a partial report. -/
def decoder : Decoder PartialReport :=
  .record ["success", "errors", "warnings", "stdout", "stderr"] fun n field => do
    let success ← (field "success").optional .flag n
    let errors ← (field "errors").optional (.list PartialDiagnostic.decoder) n
    let warnings ← (field "warnings").optional (.list PartialDiagnostic.decoder) n
    let stdout ← (field "stdout").optional .text n
    let stderr ← (field "stderr").optional .text n
    return { success, errors, warnings, stdout, stderr }

theorem wellFormed_complete (r : PartialReport) : r.complete.WellFormed := by
  refine ⟨?_, ?_, ?_⟩
  · simp +contextual [complete, PartialDiagnostic.complete]
  · simp +contextual [complete, PartialDiagnostic.complete]
  · simp [complete]

end PartialReport

theorem Diagnostic.complete_toPartial (d : Diagnostic) (level : Level) :
    d.toPartial.complete level = { d with level } := rfl

/-- Completing a report's own partial form changes nothing exactly if the report is well formed. -/
theorem Report.complete_toPartial_eq_iff (r : Report) :
    r.toPartial.complete = r ↔ r.WellFormed := by
  constructor
  · intro h
    exact h ▸ r.toPartial.wellFormed_complete
  · rintro ⟨he, hw, hs⟩
    have key : ∀ (level : Level) (ds : List Diagnostic), (∀ d ∈ ds, d.level = level) →
        (ds.map Diagnostic.toPartial).map (·.complete level) = ds := by
      intro level ds h
      rw [List.map_map]
      refine (List.map_congr_left fun d hd => ?_).trans (List.map_id ds)
      rw [Function.comp_apply, Diagnostic.complete_toPartial, ← h d hd]
      rfl
    simp only [PartialReport.complete, toPartial, Option.getD_some, key _ _ he, key _ _ hw]
    cases r with
    | mk success errors warnings stdout stderr =>
      cases success with
      | false => rfl
      | true => simp_all

/-- Completing twice is completing once. -/
theorem PartialReport.complete_toPartial_complete (r : PartialReport) :
    r.complete.toPartial.complete = r.complete :=
  r.complete.complete_toPartial_eq_iff.2 r.wellFormed_complete

end SnippetCheck
