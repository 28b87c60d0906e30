import SnippetCheck.Proofs.Report.Text

/-! The indentation of diagnostics in a report. The lines of a message are indented, those of a
suggestion are not, so a diagnostic keeps to itself exactly if its suggestion comes with its further
lines indented. A report of such diagnostics has an entry for each and a heading for each section,
and no line that looks like another one. -/

namespace SnippetCheck.Report

open Diagnostic Text

variable {r : Report}

theorem map_trimEnd_filter_isEntry (h : r.diagnostics ≠ [])
    (hhanging : ∀ d ∈ r.diagnostics, Hanging d.textLines) :
    ((pieces '\n' r.text.toList).filter isEntry).map trimEnd =
      (heads 1 r.errors ++ heads 1 r.warnings).map trimEnd := by
  rw [← (filter_bodyLines_of_hanging hhanging).1]
  obtain hsame | ⟨init, last, hbody, htext, -⟩ := filter_isEntry_text h
  · rw [hsame]
  · rw [hbody, htext]
    simp [trimEnd_trimEnd]

/-- The lines of a diagnostic but the first are indented if and only if those of its suggestion are,
whatever its message is. Where this holds of all diagnostics, the lines of a report that look like
entries are the numbered first lines of its diagnostics, but for blanks at the end, and the lines
that look like headings are its headings. -/
theorem hanging_iff_and_lines_told_apart (d : Diagnostic) (hfile : ∀ s ∈ d.file, '\n' ∉ s.toList)
    (hcode : ∀ s ∈ d.code, '\n' ∉ s.toList) :
    (Hanging d.textLines ↔ ∀ s ∈ d.suggestion, Hanging (pieces '\n' s.toList)) ∧
    ∀ r : Report, d ∈ r.diagnostics → (∀ e ∈ r.diagnostics, Hanging e.textLines) →
      ((pieces '\n' r.text.toList).filter isEntry).map trimEnd =
        (heads 1 r.errors ++ heads 1 r.warnings).map trimEnd ∧
      (pieces '\n' r.text.toList).filter isHeading = r.headings := by
  refine ⟨hanging_textLines_iff hfile hcode, fun r hd hhanging => ?_⟩
  have hne : r.diagnostics ≠ [] := List.ne_nil_of_mem hd
  exact ⟨map_trimEnd_filter_isEntry hne hhanging, filter_isHeading_text_of_hanging hne hhanging⟩

/-- A message with a line that looks like an entry, and a suggestion whose second line is
indented. -/
theorem hanging_iff_and_lines_told_apart_hinted :
    let d : Diagnostic :=
      { level := .error, message := "a\n  2. b", file := some "f", line := some 7,
        suggestion := some "c\n      d" }
    let r : Report := { errors := [d, { level := .error, message := " " }] }
    (∀ s ∈ d.file, '\n' ∉ s.toList) ∧ (∀ s ∈ d.code, '\n' ∉ s.toList) ∧
      (∀ s ∈ d.suggestion, Hanging (pieces '\n' s.toList)) ∧ Hanging d.textLines ∧
      d.textLines = ["f:7: a", "       2. b", "     help: c", "      d"].map String.toList ∧
      ((pieces '\n' r.text.toList).filter isEntry).map trimEnd =
        ["  1. f:7: a", "  2."].map String.toList ∧
      (pieces '\n' r.text.toList).filter isHeading = ["2 errors:"].map String.toList := by
  intro d r
  have hfile : ∀ s ∈ d.file, '\n' ∉ s.toList := by
    rintro _ ⟨rfl⟩
    decide +kernel
  have hcode : ∀ s ∈ d.code, '\n' ∉ s.toList := by simp [d]
  have hsuggestion : ∀ s ∈ d.suggestion, Hanging (pieces '\n' s.toList) := by
    rintro _ ⟨rfl⟩
    decide +kernel
  have hlines : d.textLines =
      ["f:7: a", "       2. b", "     help: c", "      d"].map String.toList := by
    decide +kernel
  obtain ⟨hiff, hreport⟩ := hanging_iff_and_lines_told_apart d hfile hcode
  have hhanging := hiff.2 hsuggestion
  have hblank : Hanging ({ level := .error, message := " " } : Diagnostic).textLines := by
    decide +kernel
  have hboth : ∀ e ∈ r.diagnostics, Hanging e.textLines := by
    simp only [r, diagnostics, List.append_nil, List.forall_mem_cons]
    exact ⟨hhanging, hblank, List.forall_mem_nil _⟩
  obtain ⟨hentries, hheadings⟩ := hreport r (by simp [r, diagnostics]) hboth
  refine ⟨hfile, hcode, hsuggestion, hhanging, hlines, ?_, ?_⟩
  · rw [hentries]
    decide +kernel
  · rw [hheadings]
    decide +kernel

/-- A suggestion with lines that look like an entry and a heading. -/
theorem not_hanging_of_suggestion :
    let d : Diagnostic :=
      { level := .error, message := "m", suggestion := some "a\n  2. b\n3 errors:" }
    let r : Report := { errors := [d] }
    d.file = none ∧ d.code = none ∧ ¬ Hanging d.textLines ∧
      (pieces '\n' r.text.toList).filter isEntry = ["  1. m", "  2. b"].map String.toList ∧
      (pieces '\n' r.text.toList).filter isHeading =
        ["1 error:", "3 errors:"].map String.toList := by
  intro d r
  refine ⟨rfl, rfl, ?_, ?_, ?_⟩
  · decide +kernel
  · decide +kernel
  · decide +kernel

end SnippetCheck.Report
