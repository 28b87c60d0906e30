import SnippetCheck.Proofs.Compiler.Blocks
import SnippetCheck.Proofs.Compiler.Line

/-! Opening lines and totals. The diagnostics of a text belong to its opening lines, one to each and
in order, and a reader that drops totals gives the same diagnostics but for those that a total
opens. The second rests on one fact: a total is an opening line, so the blocks of a text end at the
same lines whether totals are dropped or not. -/

namespace SnippetCheck.Compiler

open Text

/-- The level of the diagnostic that a line opens. -/
def level? (line : List Char) : Option Level := (Line.ofText line).opened?.map (·.level)

def openings (lines : List (List Char)) : List (List Char) :=
  lines.filter fun line => (Line.ofText line).opened?.isSome

/-- The diagnostics of a text whose opening lines are not totals, as they are when totals count. -/
def untotalled (text : String) : List Diagnostic :=
  (((openings (lines text.toList)).zip (diagnostics text)).filter (!isTotal ·.1)).map (·.2)

/-! ### Opening lines -/

theorem openings_cons_of_opening {line : List Char} {d : Diagnostic}
    (h : Line.ofText line = .opening d) (lines : List (List Char)) :
    openings (line :: lines) = line :: openings lines := by
  simp [openings, h, Line.opened?]

theorem openings_cons_of_not {line : List Char} (h : (Line.ofText line).opened? = none)
    (lines : List (List Char)) : openings (line :: lines) = openings lines := by
  simp [openings, h]

theorem Line.eq_opening_of_opened? {line : Line} {d : Diagnostic} (h : line.opened? = some d) :
    line = .opening d := by
  cases line with
  | opening e => exact congrArg _ (Option.some.inj h)
  | _ => exact absurd h (by simp [Line.opened?])

theorem ofBlocks_cons (dropTotals : Bool) (line : List Char) (lines : List (List Char)) :
    ofBlocks dropTotals (line :: lines) =
      ((opened? dropTotals line).map (ofBlock · (block dropTotals lines))).toList ++
        ofBlocks dropTotals lines := by
  rw [ofBlocks, List.tails_cons, List.filterMap_cons, firstBlock?]
  cases opened? dropTotals line <;> rfl

theorem ofBlocks_cons_of_opening {line : List Char} {d : Diagnostic}
    (h : Line.ofText line = .opening d) (lines : List (List Char)) :
    ofBlocks false (line :: lines) = ofBlock d (block false lines) :: ofBlocks false lines := by
  have hopened : opened? false line = some d := by simp [opened?, h, Line.opened?]
  rw [ofBlocks_cons, hopened]
  rfl

theorem ofBlocks_cons_of_not {dropTotals : Bool} {line : List Char}
    (h : (Line.ofText line).opened? = none) (lines : List (List Char)) :
    ofBlocks dropTotals (line :: lines) = ofBlocks dropTotals lines := by
  have hopened : opened? dropTotals line = none := by simp [opened?, h]
  rw [ofBlocks_cons, hopened]
  rfl

/-- The levels of the diagnostics are those that the lines open, in order. -/
theorem map_level_ofBlocks (lines : List (List Char)) :
    (ofBlocks false lines).map (·.level) = lines.filterMap level? := by
  induction lines with
  | nil => rfl
  | cons line lines ih =>
    rw [List.filterMap_cons, level?, ← ih]
    cases h : (Line.ofText line).opened? with
    | none => rw [ofBlocks_cons_of_not h, Option.map_none]
    | some d =>
      rw [ofBlocks_cons_of_opening (Line.eq_opening_of_opened? h), List.map_cons, Option.map_some]
      rfl

theorem length_ofBlocks (lines : List (List Char)) :
    (ofBlocks false lines).length = (openings lines).length := by
  have hsome (line : List Char) : (level? line).isSome = (Line.ofText line).opened?.isSome :=
    Option.isSome_map
  rw [← List.length_map (·.level), map_level_ofBlocks, List.length_filterMap_eq_countP, openings,
    ← List.countP_eq_length_filter]
  simp only [hsome]

theorem countP_ofBlocks (lines : List (List Char)) (level : Level) :
    ((ofBlocks false lines).filter (·.level = level)).length =
      lines.countP (level? · = some level) := by
  have hcount : (ofBlocks false lines).countP (·.level = level) =
      ((ofBlocks false lines).map (·.level)).countP (· = level) := by
    rw [List.countP_map]
    rfl
  rw [← List.countP_eq_length_filter, hcount, map_level_ofBlocks, List.countP_filterMap]
  refine List.countP_congr fun line _ => ?_
  cases level? line <;> simp

/-- As many diagnostics come before that of an opening line as opening lines before the line. -/
theorem getElem?_ofBlocks (before : List (List Char)) {line : List Char} {d : Diagnostic}
    (h : Line.ofText line = .opening d) (after : List (List Char)) :
    (openings (before ++ line :: after))[(openings before).length]? = some line ∧
      (ofBlocks false (before ++ line :: after))[(openings before).length]? =
        some (ofBlock d (block false after)) := by
  induction before with
  | nil =>
    rw [List.nil_append, openings_cons_of_opening h, ofBlocks_cons_of_opening h]
    exact ⟨rfl, rfl⟩
  | cons first before ih =>
    rw [List.cons_append]
    cases hfirst : (Line.ofText first).opened? with
    | none =>
      simp only [openings_cons_of_not hfirst, ofBlocks_cons_of_not hfirst]
      exact ih
    | some e =>
      have hopening := Line.eq_opening_of_opened? hfirst
      simp only [openings_cons_of_opening hopening, ofBlocks_cons_of_opening hopening,
        List.length_cons, List.getElem?_cons_succ]
      exact ih

/-! ### Dropped totals -/

theorem closes_true {line : List Char} (hline : '\n' ∉ line) :
    closes true line = closes false line := by
  unfold closes
  cases htotal : isTotal line with
  | false => rfl
  | true =>
    obtain ⟨d, hd⟩ := Line.exists_opening_of_isTotal hline htotal
    rw [hd]
    rfl

theorem block_true {lines : List (List Char)} (h : ∀ line ∈ lines, '\n' ∉ line) :
    block true lines = block false lines := by
  induction lines with
  | nil => rfl
  | cons line lines ih =>
    have hlines := ih fun l hl => h l (List.mem_cons_of_mem line hl)
    unfold block at hlines ⊢
    rw [List.takeWhile_cons, List.takeWhile_cons, closes_true (h line List.mem_cons_self), hlines]

/-- On lines of a text, dropped totals take their own diagnostics away and change no other. -/
theorem ofBlocks_true {lines : List (List Char)} (h : ∀ line ∈ lines, '\n' ∉ line) :
    ofBlocks true lines =
      (((openings lines).zip (ofBlocks false lines)).filter (!isTotal ·.1)).map (·.2) := by
  induction lines with
  | nil => rfl
  | cons line lines ih =>
    have hlines : ∀ l ∈ lines, '\n' ∉ l := fun l hl => h l (List.mem_cons_of_mem line hl)
    cases hopened : (Line.ofText line).opened? with
    | none =>
      rw [ofBlocks_cons_of_not hopened, ofBlocks_cons_of_not hopened, openings_cons_of_not hopened,
        ih hlines]
    | some d =>
      have hopening := Line.eq_opening_of_opened? hopened
      -- the block ends at the same line, so the two differ at most in what this line opens
      rw [ofBlocks_cons, ofBlocks_cons_of_opening hopening, openings_cons_of_opening hopening,
        List.zip_cons_cons, List.filter_cons, block_true hlines, ih hlines]
      cases htotal : isTotal line with
      | false => simp [opened?, htotal, hopened]
      | true => simp [opened?, htotal]

/-! ### Texts -/

theorem diagnostics_eq_ofBlocks (text : String) (dropTotals : Bool) :
    diagnostics text dropTotals = ofBlocks dropTotals (lines text.toList) :=
  diagnosticsFrom_none dropTotals (lines text.toList)

/-- The diagnostics of a text are those of its opening lines, in order, so a report counts them by
level; dropped totals take away the diagnostics that a total opens and nothing else; and every total
among the lines opens one. -/
theorem diagnostics_of_openings (text : String) :
    let ls := lines text.toList
    (diagnostics text).length = (openings ls).length ∧
    (∀ before line after d, ls = before ++ line :: after → Line.ofText line = .opening d →
      (openings ls)[(openings before).length]? = some line ∧
        (diagnostics text)[(openings before).length]? = some (ofBlock d (block false after))) ∧
    (∀ success stdout,
      (report success stdout text).errors.length = ls.countP (level? · = some .error) ∧
        (report success stdout text).warnings.length = ls.countP (level? · = some .warning)) ∧
    diagnostics text true = untotalled text ∧
    (∀ success stdout,
      (report success stdout text true).errors = (untotalled text).filter (·.level = .error) ∧
        (report success stdout text true).warnings =
          (untotalled text).filter (·.level = .warning)) ∧
    ∀ line ∈ ls, isTotal line = true → ∃ d, Line.ofText line = .opening d := by
  intro ls
  have hnewline : ∀ line ∈ ls, '\n' ∉ line := fun _ => newline_not_mem_of_mem_lines
  have hread : diagnostics text = ofBlocks false ls := diagnostics_eq_ofBlocks text false
  have hdropped : diagnostics text true = untotalled text := by
    rw [diagnostics_eq_ofBlocks, ofBlocks_true hnewline, untotalled, hread]
  refine ⟨?_, ?_, fun success stdout => ?_, hdropped, fun success stdout => ?_, fun line hline =>
    Line.exists_opening_of_isTotal (hnewline line hline)⟩
  · rw [hread, length_ofBlocks]
  · intro before line after d hls hline
    rw [hread, hls]
    exact getElem?_ofBlocks before hline after
  · rw [report, hread, Report.ofDiagnostics_eq]
    exact ⟨countP_ofBlocks ls .error, countP_ofBlocks ls .warning⟩
  · rw [report, hdropped, Report.ofDiagnostics_eq]
    exact ⟨rfl, rfl⟩

/-- A total in the middle takes the text after it along. -/
theorem diagnostics_of_openings_note :
    let text := "warning: a\n --> x:1:2\nerror: aborting due to b\nnote\nerror: c"
    let total : Diagnostic := { level := .error, message := "aborting due to b\nnote" }
    let w : Diagnostic := ({ level := .warning, message := "a" } : Diagnostic).withLocation "x" 1 2
    (lines text.toList = ["warning: a", " --> x:1:2"].map String.toList ++
        "error: aborting due to b".toList :: ["note", "error: c"].map String.toList ∧
      isTotal "error: aborting due to b".toList = true) ∧
      (diagnostics text)[1]? = some total ∧
      diagnostics text true = [w, { level := .error, message := "c" }] := by
  intro text total w
  have hlines : lines text.toList = ["warning: a", " --> x:1:2"].map String.toList ++
      "error: aborting due to b".toList :: ["note", "error: c"].map String.toList := by
    decide +kernel
  have hline : Line.ofText "error: aborting due to b".toList =
      .opening { level := .error, message := "aborting due to b" } := by
    decide +kernel
  obtain ⟨-, hplace, -, hdropped, -⟩ := diagnostics_of_openings text
  obtain ⟨-, hread⟩ := hplace _ _ _ _ hlines hline
  have hindex : (openings (["warning: a", " --> x:1:2"].map String.toList)).length = 1 := by
    decide +kernel
  have hblock : ofBlock { level := .error, message := "aborting due to b" }
      (block false (["note", "error: c"].map String.toList)) = total := by
    decide +kernel
  rw [hindex, hblock] at hread
  refine ⟨⟨hlines, by decide +kernel⟩, hread, ?_⟩
  rw [hdropped]
  decide +kernel

end SnippetCheck.Compiler
