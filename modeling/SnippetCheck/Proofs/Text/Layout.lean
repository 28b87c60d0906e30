import Mathlib.Data.List.Forall2
import Mathlib.Data.List.Infix
import Mathlib.Logic.Relation
import SnippetCheck.Proofs.Text.Lines

/-! The layout of a text: how its lines end, which blanks stand at their ends, and where blank lines
stand. `bare` is what remains of lines when all this is taken away, and texts that differ in nothing
else have the same bare lines. -/

namespace SnippetCheck.Text

/-! ### Pieces of longer texts -/

theorem pieces_cons {sep c : Char} (hc : c ≠ sep) {s p : List Char} {ps : List (List Char)}
    (h : pieces sep s = p :: ps) : pieces sep (c :: s) = (c :: p) :: ps := by
  rw [pieces, if_neg hc, h]

theorem pieces_append_of_not_mem {sep : Char} {p t q : List Char} {qs : List (List Char)}
    (hp : sep ∉ p) (ht : pieces sep t = q :: qs) : pieces sep (p ++ t) = (p ++ q) :: qs := by
  induction p with
  | nil => exact ht
  | cons c p ih =>
    obtain ⟨hc, hp⟩ := not_or.1 (fun hmem => hp (List.mem_cons.2 hmem))
    exact pieces_cons (Ne.symm hc) (ih hp)

/-- Where one text ends and another begins, the last piece of the one goes on as the first piece of
the other. -/
theorem pieces_append_pieces {sep : Char} {s t p q : List Char} {ps qs : List (List Char)}
    (hs : pieces sep s = ps ++ [p]) (ht : pieces sep t = q :: qs) :
    pieces sep (s ++ t) = ps ++ (p ++ q) :: qs := by
  have hsep : ∀ r ∈ ps ++ [p], sep ∉ r := fun r hr => not_mem_of_mem_pieces (hs ▸ hr)
  rw [← join_pieces sep s, hs]
  clear hs
  induction ps with
  | nil => exact pieces_append_of_not_mem (hsep p List.mem_cons_self) ht
  | cons r ps ih =>
    have hjoin : join [sep] (r :: ps ++ [p]) = r ++ sep :: join [sep] (ps ++ [p]) := by
      cases ps <;> simp [join]
    rw [hjoin, List.append_assoc, List.cons_append, pieces_append (hsep r List.mem_cons_self),
      ih fun u hu => hsep u (List.mem_cons_of_mem r hu), List.cons_append]

/-! ### Lines without their layout -/

/-- Lines without the blanks at their ends, and without the blank lines among them. -/
def bare (ls : List (List Char)) : List (List Char) := (ls.map trimEnd).filter (· ≠ [])

theorem bare_cons_of_blank {l : List Char} (h : trimEnd l = []) (ls : List (List Char)) :
    bare (l :: ls) = bare ls := by
  rw [bare, List.map_cons, List.filter_cons_of_neg (by simp [h]), bare]

theorem bare_cons {l : List Char} (h : trimEnd l ≠ []) (ls : List (List Char)) :
    bare (l :: ls) = trimEnd l :: bare ls := by
  rw [bare, List.map_cons, List.filter_cons_of_pos (by simp [h]), bare]

theorem bare_cons_congr {l m : List Char} (h : trimEnd l = trimEnd m) {ls ms : List (List Char)}
    (hls : bare ls = bare ms) : bare (l :: ls) = bare (m :: ms) := by
  by_cases hm : trimEnd m = []
  · rw [bare_cons_of_blank (h.trans hm), bare_cons_of_blank hm, hls]
  · rw [bare_cons (h ▸ hm), bare_cons hm, h, hls]

theorem trimEnd_trimEnd (s : List Char) : trimEnd (trimEnd s) = trimEnd s :=
  trimEnd_of_getLast? (getLast?_trimEnd s)

theorem trimEnd_append_of_blanks (s : List Char) {t : List Char}
    (h : ∀ c ∈ t, isBlank c = true) : trimEnd (s ++ t) = trimEnd s := by
  induction s with
  | nil => exact trimEnd_eq_nil h
  | cons c s ih => simp only [List.cons_append, trimEnd, ih]

theorem trimEnd_dropReturn (l : List Char) : trimEnd (dropReturn l) = trimEnd l := by
  unfold dropReturn
  split
  next hlast =>
    have hblank := trimEnd_append_of_blanks l.dropLast (t := ['\r']) (by simp [isBlank])
    rwa [List.dropLast_append_getLast? '\r' hlast, eq_comm] at hblank
  next => rfl

/-- The lines of a text are as bare as the pieces between its line feeds. -/
theorem bare_linesOfPieces (ps : List (List Char)) : bare (linesOfPieces ps) = bare ps := by
  induction ps with
  | nil => rfl
  | cons p ps ih =>
    cases ps with
    | nil =>
      rw [linesOfPieces]
      split
      next hp => rw [hp, bare_cons_of_blank trimEnd_nil]
      next => rfl
    | cons q qs =>
      rw [linesOfPieces_cons p (List.cons_ne_nil q qs)]
      exact bare_cons_congr (trimEnd_dropReturn p) ih

/-! ### Trimmed texts -/

theorem isPrefix_trimEnd_iff {start s : List Char} (h : ∀ c ∈ start.getLast?, isBlank c = false) :
    start <+: trimEnd s ↔ start <+: s := by
  constructor
  · intro hstart
    obtain ⟨t, hs, -⟩ := trimEnd_append_blanks s
    exact hstart.trans ⟨t, hs.symm⟩
  · rintro ⟨t, rfl⟩
    rcases List.eq_nil_or_concat' start with rfl | ⟨init, c, rfl⟩
    · exact List.nil_prefix
    · have hc : isBlank c = false := h c (by simp)
      rw [List.append_assoc, List.singleton_append, trimEnd_append_cons init t hc]
      exact ⟨trimEnd t, by simp⟩

/-- Whether a text ends in a blank shows at its last character. -/
theorem not_isBlank_of_all_getLast? {s : List Char} (h : s.getLast?.all (!isBlank ·) = true) :
    ∀ c ∈ s.getLast?, isBlank c = false := by
  intro c hc
  rw [Option.mem_def.1 hc] at h
  exact Bool.not_eq_true' _ ▸ h

/-- Trimming a text that ends in more than blanks reaches into its last part only. -/
theorem trimEnd_append (s : List Char) {t : List Char} (h : trimEnd t ≠ []) :
    trimEnd (s ++ t) = s ++ trimEnd t := by
  induction s with
  | nil => rfl
  | cons c s ih =>
    rw [List.cons_append, trimEnd, ih]
    split
    next hnil => exact absurd (List.append_eq_nil_iff.1 hnil).2 h
    next => rfl

theorem isBlank_of_trimEnd_eq_nil {s : List Char} (h : trimEnd s = []) :
    ∀ c ∈ s, isBlank c = true := by
  obtain ⟨t, hs, ht⟩ := trimEnd_append_blanks s
  rw [h, List.nil_append] at hs
  exact hs ▸ ht

theorem exists_last_not_blank {ls : List (List Char)} (h : ∃ l ∈ ls, trimEnd l ≠ []) :
    ∃ qs q rs, ls = qs ++ q :: rs ∧ trimEnd q ≠ [] ∧ ∀ l ∈ rs, trimEnd l = [] := by
  induction ls with
  | nil => simp at h
  | cons l ls ih =>
    by_cases hls : ∃ m ∈ ls, trimEnd m ≠ []
    · obtain ⟨qs, q, rs, rfl, hq, hrs⟩ := ih hls
      exact ⟨l :: qs, q, rs, rfl, hq, hrs⟩
    · obtain ⟨m, hm, hne⟩ := h
      rcases List.mem_cons.1 hm with rfl | hm
      · exact ⟨[], m, ls, rfl, hne, fun k hk => not_not.1 fun hk' => hls ⟨k, hk, hk'⟩⟩
      · exact absurd ⟨m, hm, hne⟩ hls

/-! ### Texts of ended lines -/

/-- The text of lines that each end in a line feed. -/
def ended (ls : List (List Char)) : List Char := ls.flatMap (· ++ ['\n'])

@[simp] theorem ended_cons (l : List Char) (ls : List (List Char)) :
    ended (l :: ls) = l ++ '\n' :: ended ls := by
  simp [ended]

@[simp] theorem ended_append (ls ms : List (List Char)) :
    ended (ls ++ ms) = ended ls ++ ended ms :=
  List.flatMap_append

theorem ended_pieces (s : List Char) : ended (pieces '\n' s) = s ++ ['\n'] := by
  induction s with
  | nil => rfl
  | cons c s ih =>
    by_cases hc : c = '\n'
    · rw [pieces, if_pos hc, ended_cons, ih, hc]
      rfl
    · obtain ⟨p, ps, hp⟩ := List.exists_cons_of_ne_nil (pieces_ne_nil '\n' s)
      rw [hp, ended_cons] at ih
      rw [pieces_cons hc hp, ended_cons, List.cons_append, ih, List.cons_append]

theorem pieces_ended_append {ls : List (List Char)} (h : ∀ l ∈ ls, '\n' ∉ l) (s : List Char) :
    pieces '\n' (ended ls ++ s) = ls ++ pieces '\n' s := by
  induction ls with
  | nil => rfl
  | cons l ls ih =>
    rw [ended_cons, List.append_assoc, List.cons_append, pieces_append (h l List.mem_cons_self),
      ih fun m hm => h m (List.mem_cons_of_mem l hm), List.cons_append]

/-- The lines of a text are told by what the text is with one more line feed. -/
theorem pieces_eq_of_ended {ls : List (List Char)} (h : ∀ l ∈ ls, '\n' ∉ l) {s : List Char}
    (hs : s ++ ['\n'] = ended ls) : pieces '\n' s = ls := by
  have hls := pieces_ended_append h []
  have hpieces := pieces_ended_append (fun _ hl => not_mem_of_mem_pieces hl : ∀ l ∈ pieces '\n' s,
    '\n' ∉ l) []
  rw [ended_pieces, hs, hls] at hpieces
  exact (List.append_cancel_right hpieces).symm

/-- A text of ended lines, trimmed, keeps its lines up to the last that is not blank, and that one
is trimmed. -/
theorem pieces_trimEnd_ended {qs rs : List (List Char)} {q : List Char}
    (h : ∀ l ∈ qs ++ q :: rs, '\n' ∉ l) (hq : trimEnd q ≠ []) (hrs : ∀ l ∈ rs, trimEnd l = []) :
    pieces '\n' (trimEnd (ended (qs ++ q :: rs))) = qs ++ [trimEnd q] := by
  have hblank : ∀ c ∈ '\n' :: ended rs, isBlank c = true := by
    simp only [ended, List.mem_cons, List.mem_flatMap, List.mem_append]
    rintro c (rfl | ⟨l, hl, hc | rfl | hc⟩)
    · rfl
    · exact isBlank_of_trimEnd_eq_nil (hrs l hl) c hc
    · rfl
    · exact absurd hc List.not_mem_nil
  have hlast : trimEnd (ended (q :: rs)) = trimEnd q := by
    rw [ended_cons, trimEnd_append_of_blanks q hblank]
  have hnewline : '\n' ∉ trimEnd q := fun hmem => h q (by simp) (mem_of_mem_trimEnd hmem)
  rw [ended_append, trimEnd_append _ (hlast ▸ hq), hlast,
    pieces_ended_append fun l hl => h l (List.mem_append_left _ hl), pieces_of_not_mem hnewline]

/-! ### Texts laid out anew -/

/-- Every line feed with a carriage return before it. -/
def withReturns (s : List Char) : List Char :=
  s.flatMap fun c => if c = '\n' then ['\r', '\n'] else [c]

/-- The second line is the first one with blanks at its end. -/
def Padded (l m : List Char) : Prop :=
  ∃ blanks, m = l ++ blanks ∧ ∀ c ∈ blanks, isBlank c = true ∧ c ≠ '\n'

/-- The second text is the first one with carriage returns before its line feeds, with blanks at the
ends of any lines, with blank lines anywhere, or with one more line feed at its end. -/
inductive Relaid (s : List Char) : List Char → Prop
  | returns : Relaid s (withReturns s)
  | padded {t : List Char} : List.Forall₂ Padded (pieces '\n' s) (pieces '\n' t) → Relaid s t
  | spaced {t : List Char} : Spaced (pieces '\n' s) (pieces '\n' t) → Relaid s t
  | ended : Relaid s (s ++ ['\n'])

theorem bare_of_padded {ls ms : List (List Char)} (h : List.Forall₂ Padded ls ms) :
    bare ms = bare ls := by
  induction h with
  | nil => rfl
  | cons h _ ih =>
    obtain ⟨blanks, rfl, hblanks⟩ := h
    exact bare_cons_congr (trimEnd_append_of_blanks _ fun c hc => (hblanks c hc).1) ih

theorem Spaced.bare {ls ms : List (List Char)} (h : Spaced ls ms) :
    Text.bare ms = Text.bare ls := by
  induction h with
  | nil => rfl
  | blank hblank _ ih => rw [bare_cons_of_blank (trimEnd_eq_nil fun c hc => (hblank c hc).1), ih]
  | line _ ih => exact bare_cons_congr rfl ih

theorem padded_withReturns (s : List Char) :
    List.Forall₂ Padded (pieces '\n' s) (pieces '\n' (withReturns s)) := by
  induction s with
  | nil => exact .cons ⟨[], rfl, by simp⟩ .nil
  | cons c s ih =>
    by_cases hc : c = '\n'
    · subst hc
      exact .cons ⟨['\r'], rfl, by simp [isBlank]⟩ ih
    · obtain ⟨p, ps, hp⟩ := List.exists_cons_of_ne_nil (pieces_ne_nil '\n' s)
      obtain ⟨q, qs, hq⟩ := List.exists_cons_of_ne_nil (pieces_ne_nil '\n' (withReturns s))
      have hreturns : withReturns (c :: s) = c :: withReturns s := by simp [withReturns, hc]
      rw [hp, hq, List.forall₂_cons] at ih
      obtain ⟨⟨blanks, rfl, hblanks⟩, hrest⟩ := ih
      rw [hreturns, pieces_cons hc hp, pieces_cons hc hq]
      exact .cons ⟨blanks, rfl, hblanks⟩ hrest

theorem bare_pieces_ended (s : List Char) :
    bare (pieces '\n' (s ++ ['\n'])) = bare (pieces '\n' s) := by
  obtain ⟨ps, p, hp⟩ := (List.eq_nil_or_concat' _).resolve_left (pieces_ne_nil '\n' s)
  have hfeed : pieces '\n' ['\n'] = [] :: [[]] := rfl
  have hend : pieces '\n' (s ++ ['\n']) = pieces '\n' s ++ [[]] := by
    rw [pieces_append_pieces hp hfeed, hp, List.append_nil, List.append_assoc]
    rfl
  rw [hend, bare, List.map_append, List.filter_append]
  exact List.append_nil _

theorem Relaid.bare {s t : List Char} (h : Relaid s t) :
    Text.bare (pieces '\n' t) = Text.bare (pieces '\n' s) := by
  cases h with
  | returns => exact bare_of_padded (padded_withReturns s)
  | padded h => exact bare_of_padded h
  | spaced h => exact h.bare
  | ended => exact bare_pieces_ended s

theorem bare_of_eqvGen {s t : List Char} (h : Relation.EqvGen Relaid s t) :
    Text.bare (pieces '\n' t) = Text.bare (pieces '\n' s) :=
  congrArg (Quot.lift (fun s => Text.bare (pieces '\n' s)) fun _ _ h => h.bare.symm)
    (Quot.eqvGen_sound h).symm

end SnippetCheck.Text
