import SnippetCheck.Proofs.Compiler.Line
import SnippetCheck.Proofs.Text.Layout

/-! Totals, by their form. A total begins with fixed words, or with `warning: ` and a text that
counts the warnings that were generated; `Counts` spells out such a text, and `SumsUp` all of them.
Whatever a total begins with ends in a letter, so blanks at the end of a line neither make a total
nor hide one. -/

namespace SnippetCheck.Compiler

open Text

/-! ### Runs of blanks and digits -/

/-- A text of at least one character, all of one kind. -/
def IsRun (kind : Char → Bool) (s : List Char) : Prop := s ≠ [] ∧ ∀ c ∈ s, kind c = true

theorem IsRun.head?_append {kind : Char → Bool} {s : List Char} (h : IsRun kind s)
    (t : List Char) : ∀ c ∈ (s ++ t).head?, kind c = true := by
  obtain ⟨c, s, rfl⟩ := List.exists_cons_of_ne_nil h.1
  rintro _ ⟨rfl⟩
  exact h.2 c List.mem_cons_self

/-- A text that starts with one character of a kind starts with a run of them. -/
theorem dropWhile_eq_iff_isRun {kind : Char → Bool} {s rest : List Char} :
    (∃ c ∈ s.head?, kind c = true) ∧ s.dropWhile kind = rest ↔
      ∃ run, s = run ++ rest ∧ IsRun kind run ∧ ∀ c ∈ rest.head?, kind c = false := by
  constructor
  · rintro ⟨⟨c, hc, hkind⟩, rfl⟩
    refine ⟨s.takeWhile kind, List.takeWhile_append_dropWhile.symm, ⟨?_, ?_⟩, ?_⟩
    · cases s with
      | nil => cases hc
      | cons d s =>
        obtain rfl := Option.some.inj hc
        simp [hkind]
    · exact List.all_eq_true.1 List.all_takeWhile
    · intro d hd
      have hhead := List.head?_dropWhile_not kind s
      rw [Option.mem_def.1 hd] at hhead
      exact hhead
  · rintro ⟨run, rfl, hrun, hrest⟩
    obtain ⟨c, run', rfl⟩ := List.exists_cons_of_ne_nil hrun.1
    exact ⟨⟨c, rfl, hrun.2 c List.mem_cons_self⟩, (span_append hrun.2 hrest).2⟩

theorem afterBlanks?_eq_some_iff {s rest : List Char} :
    afterBlanks? s = some rest ↔
      ∃ gap, s = gap ++ rest ∧ IsRun isBlank gap ∧ ∀ c ∈ rest.head?, isBlank c = false := by
  rw [← dropWhile_eq_iff_isRun]
  cases s <;> simp [afterBlanks?, trimStart]

theorem afterDigits?_eq_some_iff {s rest : List Char} :
    afterDigits? s = some rest ↔
      ∃ digits, s = digits ++ rest ∧ IsRun isDecimalDigit digits ∧
        ∀ c ∈ rest.head?, isDecimalDigit c = false := by
  rw [← dropWhile_eq_iff_isRun]
  cases s <;> simp [afterDigits?]

/-! ### Counts of warnings -/

/-- The texts that go on, on their first line, to `generated` and a number of warnings, and end with
the word `warning`. -/
inductive Counts : List Char → Prop
  | mk {before gap digits gap' : List Char} (hbefore : '\n' ∉ before) (hgap : IsRun isBlank gap)
    (hdigits : IsRun isDecimalDigit digits) (hgap' : IsRun isBlank gap') :
    Counts (before ++ "generated".toList ++ gap ++ digits ++ gap' ++ "warning".toList)

theorem countsWarnings_iff {s : List Char} :
    countsWarnings s = true ↔ ∃ gap digits gap' rest,
      s = gap ++ (digits ++ (gap' ++ ("warning".toList ++ rest))) ∧
        IsRun isBlank gap ∧ IsRun isDecimalDigit digits ∧ IsRun isBlank gap' := by
  simp only [countsWarnings, Option.isSome_iff_exists, Option.bind_eq_bind,
    Option.bind_eq_some_iff]
  constructor
  · rintro ⟨rest, s₁, h₁, s₂, h₂, s₃, h₃, hword⟩
    obtain ⟨gap, rfl, hgap, -⟩ := afterBlanks?_eq_some_iff.1 h₁
    obtain ⟨digits, rfl, hdigits, -⟩ := afterDigits?_eq_some_iff.1 h₂
    obtain ⟨gap', rfl, hgap', -⟩ := afterBlanks?_eq_some_iff.1 h₃
    obtain rfl := after?_eq_some_iff.1 hword
    exact ⟨gap, digits, gap', rest, rfl, hgap, hdigits, hgap'⟩
  · rintro ⟨gap, digits, gap', rest, rfl, hgap, hdigits, hgap'⟩
    have hword : ∀ c ∈ ("warning".toList ++ rest).head?, isBlank c = false := by
      rintro _ ⟨rfl⟩
      decide
    have hcount : ∀ c ∈ (gap' ++ ("warning".toList ++ rest)).head?, isDecimalDigit c = false := by
      intro c hc
      have hblank := hgap'.head?_append _ c hc
      by_contra hdigit
      exact absurd (isBlank_of_isDecimalDigit (Bool.not_eq_false _ ▸ hdigit)) (by simp [hblank])
    have hnumber : ∀ c ∈ (digits ++ (gap' ++ ("warning".toList ++ rest))).head?,
        isBlank c = false :=
      fun c hc => isBlank_of_isDecimalDigit (hdigits.head?_append _ c hc)
    exact ⟨rest, _, afterBlanks?_eq_some_iff.2 ⟨gap, rfl, hgap, hnumber⟩,
      _, afterDigits?_eq_some_iff.2 ⟨digits, rfl, hdigits, hcount⟩,
      _, afterBlanks?_eq_some_iff.2 ⟨gap', rfl, hgap', hword⟩, after?_eq_some_iff.2 rfl⟩

/-- The search finds every count on the first line, whichever `generated` it stands behind. -/
theorem generatesWarnings_iff {s : List Char} :
    generatesWarnings s = true ↔ ∃ m, Counts m ∧ m <+: s := by
  induction s with
  | nil =>
    simp only [generatesWarnings, Bool.false_eq_true, false_iff]
    rintro ⟨_, ⟨_, _, _, _⟩, hm⟩
    simp at hm
  | cons c s ih =>
    rw [generatesWarnings, Bool.or_eq_true, Bool.and_eq_true, ih, Option.any_eq_true]
    constructor
    · rintro (⟨rest, hrest, hcount⟩ | ⟨hc, _, @⟨before, gap, digits, gap', hbefore, h⟩, tail, rfl⟩)
      · obtain ⟨gap, digits, gap', tail, rfl, hgap, hdigits, hgap'⟩ := countsWarnings_iff.1 hcount
        refine ⟨_, @Counts.mk [] gap digits gap' (by simp) hgap hdigits hgap', tail, ?_⟩
        rw [after?_eq_some_iff.1 hrest]
        simp
      · have hnewline : '\n' ∉ c :: before := by
          rw [List.mem_cons, not_or]
          exact ⟨fun heq => by simp [← heq] at hc, hbefore⟩
        exact ⟨_, .mk hnewline h ‹_› ‹_›, tail, rfl⟩
    · rintro ⟨_, @⟨before, gap, digits, gap', hbefore, hgap, hdigits, hgap'⟩, tail, heq⟩
      cases before with
      | nil =>
        refine .inl ⟨_, after?_eq_some_iff.2 ?_,
          countsWarnings_iff.2 ⟨gap, digits, gap', tail, rfl, hgap, hdigits, hgap'⟩⟩
        rw [← heq]
        simp
      | cons d before =>
        obtain ⟨hd, hbefore⟩ := not_or.1 (fun hmem => hbefore (List.mem_cons.2 hmem))
        simp only [List.cons_append, List.cons.injEq] at heq
        obtain ⟨rfl, rfl⟩ := heq
        exact .inr ⟨by simpa using Ne.symm hd, _, .mk hbefore hgap hdigits hgap', tail, rfl⟩

/-! ### Blanks at the end -/

theorem any_generatesWarnings_iff {start s : List Char} :
    (after? start s).any generatesWarnings = true ↔ ∃ m, Counts m ∧ start ++ m <+: s := by
  rw [Option.any_eq_true]
  constructor
  · rintro ⟨rest, hrest, hcount⟩
    obtain ⟨m, hm, hprefix⟩ := generatesWarnings_iff.1 hcount
    rw [after?_eq_some_iff.1 hrest]
    exact ⟨m, hm, (List.prefix_append_right_inj start).2 hprefix⟩
  · rintro ⟨m, hm, tail, rfl⟩
    exact ⟨m ++ tail, after?_eq_some_iff.2 (List.append_assoc ..),
      generatesWarnings_iff.2 ⟨m, hm, tail, rfl⟩⟩

theorem Counts.getLast? {m : List Char} (h : Counts m) (start : List Char) :
    ∀ c ∈ (start ++ m).getLast?, isBlank c = false := by
  have hlast : (start ++ m).getLast? = some 'g' := by
    cases h
    rw [List.getLast?_append, List.getLast?_append]
    rfl
  rw [hlast]
  rintro _ ⟨rfl⟩
  decide

theorem isTotal_trimEnd (line : List Char) : isTotal (trimEnd line) = isTotal line := by
  have hwords {start : List Char} (h : start.getLast?.all (!isBlank ·) = true) :
      (after? start (trimEnd (trimStart line))).isSome =
        (after? start (trimStart line)).isSome := by
    have hlast := not_isBlank_of_all_getLast? h
    rw [Bool.eq_iff_iff, isSome_after?_iff, isSome_after?_iff, isPrefix_trimEnd_iff hlast]
  have hcount (start : List Char) :
      (after? start (trimEnd (trimStart line))).any generatesWarnings =
        (after? start (trimStart line)).any generatesWarnings := by
    rw [Bool.eq_iff_iff, any_generatesWarnings_iff, any_generatesWarnings_iff]
    refine exists_congr fun m => and_congr_right fun hm => ?_
    exact isPrefix_trimEnd_iff (hm.getLast? start)
  simp only [isTotal, trimStart_trimEnd, hcount]
  rw [hwords (by decide +kernel), hwords (by decide +kernel), hwords (by decide +kernel)]

/-! ### The form of a total -/

/-- The texts that sum up: those that begin with one of three fixed phrases, and those that begin
with `warning: ` and go on, on the same line, to `generated`, which blanks, a number, blanks and
`warning` follow. -/
inductive SumsUp : List Char → Prop
  | aborting (rest : List Char) : SumsUp ("error: aborting due to".toList ++ rest)
  | uncompiled (rest : List Char) : SumsUp ("error: could not compile".toList ++ rest)
  | failed (rest : List Char) : SumsUp ("warning: build failed".toList ++ rest)
  | generated {before gap digits gap' : List Char} (rest : List Char) (hbefore : '\n' ∉ before)
    (hgap : IsRun isBlank gap) (hdigits : IsRun isDecimalDigit digits)
    (hgap' : IsRun isBlank gap') :
    SumsUp ("warning: ".toList ++ before ++ "generated".toList ++ gap ++ digits ++ gap' ++
      "warning".toList ++ rest)

theorem sumsUp_iff {s : List Char} :
    SumsUp s ↔ "error: aborting due to".toList <+: s ∨ "error: could not compile".toList <+: s ∨
      "warning: build failed".toList <+: s ∨ ∃ m, Counts m ∧ "warning: ".toList ++ m <+: s := by
  constructor
  · rintro (rest | rest | rest | ⟨rest, hbefore, hgap, hdigits, hgap'⟩)
    · exact .inl (List.prefix_append ..)
    · exact .inr (.inl (List.prefix_append ..))
    · exact .inr (.inr (.inl (List.prefix_append ..)))
    · refine .inr (.inr (.inr ⟨_, .mk hbefore hgap hdigits hgap', rest, ?_⟩))
      simp only [List.append_assoc]
  · rintro (⟨rest, rfl⟩ | ⟨rest, rfl⟩ | ⟨rest, rfl⟩ | ⟨_, hm, rest, rfl⟩)
    · exact .aborting rest
    · exact .uncompiled rest
    · exact .failed rest
    · obtain ⟨hbefore, hgap, hdigits, hgap'⟩ := hm
      have hform := SumsUp.generated rest hbefore hgap hdigits hgap'
      simpa only [List.append_assoc] using hform

/-- A line is a total if and only if the text behind all its leading blanks sums up. -/
theorem isTotal_iff_sumsUp (line : List Char) :
    isTotal line = true ↔ ∃ blanks s, line = blanks ++ s ∧ (∀ c ∈ blanks, isBlank c = true) ∧
      (∀ c ∈ s.head?, isBlank c = false) ∧ SumsUp s := by
  have hread : isTotal line = true ↔ SumsUp (trimStart line) := by
    simp only [isTotal, sumsUp_iff, Bool.or_eq_true, isSome_after?_iff, any_generatesWarnings_iff,
      or_assoc]
  rw [hread]
  constructor
  · intro h
    obtain ⟨blanks, hline, hblanks⟩ := blanks_append_trimStart line
    exact ⟨blanks, _, hline, hblanks, head?_trimStart line, h⟩
  · rintro ⟨blanks, s, rfl, hblanks, hhead, h⟩
    rwa [trimStart_append_of_blanks hblanks, trimStart_of_head? hhead]

example : isTotal "warning: generated 2 files, generated\n13 warnings".toList = true := by
  decide +kernel

example : isTotal "warning: 2 files\ngenerated 13 warnings".toList = false := by decide +kernel

end SnippetCheck.Compiler
