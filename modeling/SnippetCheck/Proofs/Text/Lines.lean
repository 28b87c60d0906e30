import SnippetCheck.Text.Character
import SnippetCheck.Text.Lines

/-! Lines and the text that they are joined to. The lines of that text are the same lines again, but
for the blank ones: a line end takes a carriage return with it, and an empty last line is none. So
what is read of lines without regard to blank ones can be read of the text. -/

namespace SnippetCheck.Text

/-! ### Blanks -/

theorem trimStart_cons {c : Char} (s : List Char) (h : isBlank c = false) :
    trimStart (c :: s) = c :: s :=
  List.dropWhile_cons_of_neg (by simp [h])

theorem trimStart_of_head? {s : List Char} (h : ∀ c ∈ s.head?, isBlank c = false) :
    trimStart s = s := by
  cases s with
  | nil => rfl
  | cons c s => exact trimStart_cons s (h c rfl)

theorem trimEnd_of_getLast? {s : List Char} (h : ∀ c ∈ s.getLast?, isBlank c = false) :
    trimEnd s = s := by
  induction s with
  | nil => rfl
  | cons c s ih =>
    unfold trimEnd
    cases s with
    | nil => simp [h c rfl]
    | cons d s =>
      rw [ih (by simpa using h)]

theorem trimEnd_eq_nil {s : List Char} (h : ∀ c ∈ s, isBlank c = true) : trimEnd s = [] := by
  induction s with
  | nil => rfl
  | cons c s ih =>
    rw [trimEnd, ih fun d hd => h d (List.mem_cons_of_mem c hd)]
    simp [h c List.mem_cons_self]

theorem trimEnd_cons {c : Char} (s : List Char) (h : isBlank c = false) :
    trimEnd (c :: s) = c :: trimEnd s := by
  rw [trimEnd]
  split
  · next hnil => rw [hnil, if_neg (by simp [h])]
  · rfl

theorem trimEnd_append_cons (s : List Char) {c : Char} (t : List Char) (h : isBlank c = false) :
    trimEnd (s ++ c :: t) = s ++ c :: trimEnd t := by
  induction s with
  | nil => exact trimEnd_cons t h
  | cons d s ih =>
    rw [List.cons_append, trimEnd, ih]
    cases s <;> rfl

theorem trimStart_trimEnd (s : List Char) : trimStart (trimEnd s) = trimEnd (trimStart s) := by
  induction s with
  | nil => rfl
  | cons c s ih =>
    cases hc : isBlank c with
    | false => rw [trimStart_cons s hc, trimEnd_cons s hc, trimStart_cons _ hc]
    | true =>
      have hstart (t : List Char) : trimStart (c :: t) = trimStart t :=
        List.dropWhile_cons_of_pos hc
      rw [hstart, ← ih, trimEnd]
      split
      · next hnil => simp [hnil, hc]
      · exact hstart _

theorem trimStart_append_of_blanks {s : List Char} (h : ∀ c ∈ s, isBlank c = true)
    (t : List Char) : trimStart (s ++ t) = trimStart t :=
  List.dropWhile_append_of_pos h

/-- What `trimStart` removes is blank. -/
theorem blanks_append_trimStart (s : List Char) :
    ∃ t, s = t ++ trimStart s ∧ ∀ c ∈ t, isBlank c = true :=
  ⟨s.takeWhile isBlank, List.takeWhile_append_dropWhile.symm,
    List.all_eq_true.1 List.all_takeWhile⟩

theorem head?_trimStart (s : List Char) : ∀ c ∈ (trimStart s).head?, isBlank c = false := by
  intro c hc
  have hhead := List.head?_dropWhile_not isBlank s
  rw [trimStart, Option.mem_def] at hc
  simpa [hc] using hhead

theorem getLast?_trimEnd (s : List Char) : ∀ c ∈ (trimEnd s).getLast?, isBlank c = false := by
  induction s with
  | nil => simp
  | cons d s ih =>
    rw [trimEnd]
    split
    next =>
      split
      · simp
      next hd => simpa using hd
    next t =>
      intro c hc
      obtain ⟨e, u, hu⟩ := List.exists_cons_of_ne_nil t
      rw [hu, List.getLast?_cons_cons, ← hu] at hc
      exact ih c hc

theorem mem_of_mem_trimStart {c : Char} {s : List Char} (h : c ∈ trimStart s) : c ∈ s :=
  (List.dropWhile_sublist isBlank).mem h

theorem mem_of_mem_trimEnd {c : Char} {s : List Char} (h : c ∈ trimEnd s) : c ∈ s := by
  obtain ⟨t, hs, -⟩ := trimEnd_append_blanks s
  rw [hs]
  exact List.mem_append_left t h

theorem isBlank_of_isDecimalDigit {c : Char} (h : isDecimalDigit c = true) : isBlank c = false := by
  -- the digits of a script lie between two neighbouring ranges of blanks
  have hgaps : ∀ z ∈ digitZeros, 0x20 < z ∧ z + 9 < 0x85 ∨ 0xA0 < z ∧ z + 9 < 0x1680 ∨
      0x1680 < z ∧ z + 9 < 0x2000 ∨ 0x3000 < z := by
    decide
  obtain ⟨z, hz, hc⟩ := List.any_eq_true.1 h
  have hgap := hgaps z hz
  simp only [Bool.and_eq_true, decide_eq_true_eq] at hc
  simp only [isBlank, Bool.or_eq_false_iff, Bool.and_eq_false_iff, decide_eq_false_iff_not,
    beq_eq_false_iff_ne]
  omega

theorem isBlank_of_isDigit {c : Char} (h : c.isDigit = true) : isBlank c = false :=
  isBlank_of_isDecimalDigit (isDecimalDigit_of_isDigit h)

/-! ### Joined lines -/

theorem pieces_of_not_mem {sep : Char} {p : List Char} (h : sep ∉ p) : pieces sep p = [p] := by
  induction p with
  | nil => rfl
  | cons c p ih =>
    obtain ⟨hc, hp⟩ := not_or.1 (fun hmem => h (List.mem_cons.2 hmem))
    rw [pieces, if_neg (Ne.symm hc), ih hp]

theorem pieces_append {sep : Char} {p : List Char} (h : sep ∉ p) (s : List Char) :
    pieces sep (p ++ sep :: s) = p :: pieces sep s := by
  induction p with
  | nil => simp [pieces]
  | cons c p ih =>
    obtain ⟨hc, hp⟩ := not_or.1 (fun hmem => h (List.mem_cons.2 hmem))
    rw [List.cons_append, pieces, if_neg (Ne.symm hc), ih hp]

theorem pieces_join {sep : Char} {ps : List (List Char)} (hne : ps ≠ [])
    (h : ∀ p ∈ ps, sep ∉ p) : pieces sep (join [sep] ps) = ps := by
  induction ps with
  | nil => exact absurd rfl hne
  | cons p ps ih =>
    have hp := h p List.mem_cons_self
    cases ps with
    | nil => exact pieces_of_not_mem hp
    | cons q qs =>
      have hqs := ih (List.cons_ne_nil q qs) fun r hr => h r (List.mem_cons_of_mem p hr)
      rw [join, List.append_assoc, List.singleton_append, pieces_append hp, hqs]
      simp

theorem lines_join {ls : List (List Char)} (h : ∀ l ∈ ls, '\n' ∉ l) :
    lines (join ['\n'] ls) = linesOfPieces ls := by
  cases ls with
  | nil => rfl
  | cons l ls => rw [lines, pieces_join (List.cons_ne_nil l ls) h]

theorem mem_of_mem_dropReturn {c : Char} {l : List Char} (h : c ∈ dropReturn l) : c ∈ l := by
  unfold dropReturn at h
  split at h
  · exact (List.dropLast_sublist l).mem h
  · exact h

theorem exists_mem_of_mem_linesOfPieces {ps : List (List Char)} {l : List Char}
    (h : l ∈ linesOfPieces ps) : ∃ p ∈ ps, ∀ c ∈ l, c ∈ p := by
  induction ps with
  | nil => simp [linesOfPieces] at h
  | cons p ps ih =>
    cases ps with
    | nil =>
      rw [linesOfPieces] at h
      split at h
      · simp at h
      · exact ⟨l, h, fun _ hc => hc⟩
    | cons q qs =>
      rcases List.mem_cons.1 h with rfl | h
      · exact ⟨p, List.mem_cons_self, fun _ hc => mem_of_mem_dropReturn hc⟩
      · obtain ⟨r, hr, hl⟩ := ih h
        exact ⟨r, List.mem_cons_of_mem p hr, hl⟩

theorem newline_not_mem_of_mem_lines {s l : List Char} (h : l ∈ lines s) : '\n' ∉ l := by
  obtain ⟨p, hp, hl⟩ := exists_mem_of_mem_linesOfPieces h
  exact fun hmem => not_mem_of_mem_pieces hp (hl _ hmem)

/-! ### Blank lines -/

/-- The second lines are the first ones with blank lines inserted anywhere. -/
inductive Spaced : List (List Char) → List (List Char) → Prop
  | nil : Spaced [] []
  | blank {l : List Char} {ls ms : List (List Char)} :
      (∀ c ∈ l, isBlank c = true ∧ c ≠ '\n') → Spaced ls ms → Spaced ls (l :: ms)
  | line {l : List Char} {ls ms : List (List Char)} : Spaced ls ms → Spaced (l :: ls) (l :: ms)

theorem Spaced.newline_not_mem {ls ms : List (List Char)} (h : Spaced ls ms)
    (hls : ∀ l ∈ ls, '\n' ∉ l) : ∀ m ∈ ms, '\n' ∉ m := by
  induction h with
  | nil => exact hls
  | blank hblank _ ih =>
    intro m hm
    rcases List.mem_cons.1 hm with rfl | hm
    · exact fun hmem => (hblank '\n' hmem).2 rfl
    · exact ih hls m hm
  | line _ ih =>
    intro m hm
    rcases List.mem_cons.1 hm with rfl | hm
    · exact hls m List.mem_cons_self
    · exact ih (fun l hl => hls l (List.mem_cons_of_mem _ hl)) m hm

theorem linesOfPieces_cons (p : List Char) {ps : List (List Char)} (h : ps ≠ []) :
    linesOfPieces (p :: ps) = dropReturn p :: linesOfPieces ps := by
  rw [linesOfPieces]
  exact h

theorem dropReturn_of_getLast? {l : List Char} (h : ∀ c ∈ l.getLast?, isBlank c = false) :
    dropReturn l = l := by
  rw [dropReturn, if_neg]
  intro hreturn
  exact absurd (h '\r' hreturn) (by decide)

/-- The lines of joined lines are the same but for blank lines, if none of those that count ends in
a blank. -/
theorem Spaced.linesOfPieces {ls ms : List (List Char)} (h : Spaced ls ms)
    (hls : ∀ l ∈ ls, l ≠ [] ∧ ∀ c ∈ l.getLast?, isBlank c = false) :
    Spaced ls (linesOfPieces ms) := by
  induction h with
  | nil => exact .nil
  | @blank l ls ms hblank h ih =>
    cases ms with
    | nil =>
      cases h
      rw [Text.linesOfPieces]
      -- an empty last piece is no line
      split
      · exact .nil
      · exact .blank hblank .nil
    | cons m ms =>
      rw [linesOfPieces_cons l (List.cons_ne_nil m ms)]
      exact .blank (fun c hc => hblank c (mem_of_mem_dropReturn hc)) (ih hls)
  | @line l ls ms h ih =>
    obtain ⟨hne, hlast⟩ := hls l List.mem_cons_self
    have hrest := ih fun m hm => hls m (List.mem_cons_of_mem l hm)
    cases ms with
    | nil =>
      rw [Text.linesOfPieces, if_neg hne]
      exact .line h
    | cons m ms =>
      rw [linesOfPieces_cons l (List.cons_ne_nil m ms), dropReturn_of_getLast? hlast]
      exact .line hrest

end SnippetCheck.Text
