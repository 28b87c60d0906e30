import SnippetCheck.Compiler.Stream
import SnippetCheck.Proofs.Compiler.Total
import SnippetCheck.Proofs.Text.Layout

/-! The layout of a compiler's error text does not matter. A line says the same without the blanks
at its end, and a blank line says nothing, whatever is open and whether totals are dropped or not.
So the diagnostics of a text are those of its bare lines. -/

namespace SnippetCheck.Compiler

open Text

theorem Line.ofText_trimEnd (line : List Char) : Line.ofText (trimEnd line) = Line.ofText line := by
  rw [Line.ofText, Line.ofText, trimEnd_trimEnd]

theorem advance_trimEnd (dropTotals : Bool) (current : Option Diagnostic) (line : List Char) :
    advance dropTotals current (trimEnd line) = advance dropTotals current line := by
  rw [advance, advance, isTotal_trimEnd, Line.ofText_trimEnd]

theorem advance_of_blank {line : List Char} (h : trimEnd line = []) (dropTotals : Bool)
    (current : Option Diagnostic) : advance dropTotals current line = (none, current) := by
  have hblank : advance dropTotals current [] = (none, current) := by cases dropTotals <;> rfl
  rw [← advance_trimEnd, h, hblank]

/-- What lines say is said by their bare lines. -/
theorem diagnosticsFrom_bare (dropTotals : Bool) (current : Option Diagnostic)
    (ls : List (List Char)) :
    diagnosticsFrom dropTotals current (bare ls) = diagnosticsFrom dropTotals current ls := by
  induction ls generalizing current with
  | nil => rfl
  | cons line ls ih =>
    by_cases h : trimEnd line = []
    · rw [bare_cons_of_blank h, ih, diagnosticsFrom, advance_of_blank h]
      rfl
    · simp only [bare_cons h, diagnosticsFrom, advance_trimEnd, ih]

theorem diagnostics_eq_bare (text : String) (dropTotals : Bool) :
    diagnostics text dropTotals =
      diagnosticsFrom dropTotals none (bare (pieces '\n' text.toList)) := by
  rw [← bare_linesOfPieces, diagnosticsFrom_bare]
  rfl

/-- A text that is laid out anew, any number of times and in any ways, or whose layout is undone,
gives the same verdict, errors and warnings. -/
theorem report_of_relaid {text text' : String}
    (h : Relation.EqvGen Relaid text.toList text'.toList) (success dropTotals : Bool)
    (stdout : String) :
    let r := report success stdout text dropTotals
    let r' := report success stdout text' dropTotals
    r'.success = r.success ∧ r'.errors = r.errors ∧ r'.warnings = r.warnings := by
  intro r r'
  have hbare := bare_of_eqvGen h
  have hdiagnostics : diagnostics text' dropTotals = diagnostics text dropTotals := by
    rw [diagnostics_eq_bare, diagnostics_eq_bare, hbare]
  simp only [r, r', report, hdiagnostics, Report.ofDiagnostics_eq, and_self]

/-- A blank line in a block, a blank behind a total that is dropped, carriage returns, and a line
feed at the end. -/
theorem report_of_relaid_returns :
    let text := "warning: a\nnote\nerror: aborting due to b\nlost"
    let text' := "warning: a\r\n\u2003\r\nnote\r\nerror: aborting due to b\t\r\nlost\n"
    Relation.EqvGen Relaid text.toList text'.toList ∧
      (report true "" text' true).success = true ∧ (report true "" text' true).errors = [] ∧
      (report true "" text' true).warnings = [{ level := .warning, message := "a\nnote" }] := by
  intro text text'
  let spaced := "warning: a\n\u2003\nnote\nerror: aborting due to b\nlost"
  let padded := "warning: a\n\u2003\nnote\nerror: aborting due to b\t\nlost"
  have hpieces : pieces '\n' text.toList =
      ["warning: a", "note", "error: aborting due to b", "lost"].map String.toList := by
    decide +kernel
  have hpieces₁ : pieces '\n' spaced.toList =
      ["warning: a", "\u2003", "note", "error: aborting due to b", "lost"].map String.toList := by
    decide +kernel
  have hpieces₂ : pieces '\n' padded.toList =
      ["warning: a", "\u2003", "note", "error: aborting due to b\t", "lost"].map
        String.toList := by
    decide +kernel
  have hspaced : Relaid text.toList spaced.toList := by
    refine .spaced ?_
    rw [hpieces, hpieces₁]
    exact .line (.blank (by simp [isBlank]) (.line (.line (.line .nil))))
  have hpadded : Relaid spaced.toList padded.toList := by
    have hrefl (l : List Char) : Padded l l := ⟨[], by simp, by simp⟩
    have htab : Padded "error: aborting due to b".toList "error: aborting due to b\t".toList :=
      ⟨['\t'], by decide +kernel, by simp [isBlank]⟩
    refine .padded ?_
    rw [hpieces₁, hpieces₂]
    exact .cons (hrefl _) (.cons (hrefl _) (.cons (hrefl _) (.cons htab (.cons (hrefl _) .nil))))
  have hended : text'.toList = withReturns padded.toList ++ ['\n'] := by decide +kernel
  have h : Relation.EqvGen Relaid text.toList text'.toList := by
    rw [hended]
    exact .trans _ _ _ (.rel _ _ hspaced) <| .trans _ _ _ (.rel _ _ hpadded) <|
      .trans _ _ _ (.rel _ _ .returns) (.rel _ _ .ended)
  obtain ⟨hsuccess, herrors, hwarnings⟩ := report_of_relaid h true true ""
  refine ⟨h, ?_, ?_, ?_⟩
  · rw [hsuccess]
    decide +kernel
  · rw [herrors]
    decide +kernel
  · rw [hwarnings]
    decide +kernel

end SnippetCheck.Compiler
