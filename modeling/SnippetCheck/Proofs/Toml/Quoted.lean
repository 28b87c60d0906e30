import SnippetCheck.Proofs.Numeral
import SnippetCheck.Toml.Printer
import SnippetCheck.Toml.Reader

/-! Strings and keys in TOML text read back from what is printed of them, whatever they hold. Each
of the five forms in which a text can stand has its own lemma, with the condition under which the
text can stand in it; the printer picks a form whose condition holds. -/

namespace SnippetCheck.Toml

/-- What follows a string must not go on with the mark that closes it. -/
def NotMark (mark : Char) (rest : List Char) : Prop := ∀ c ∈ rest.head?, c ≠ mark

theorem NotMark.cons {mark c : Char} (rest : List Char) (h : c ≠ mark) :
    NotMark mark (c :: rest) := by
  intro d hd
  obtain rfl := Option.some.inj hd
  exact h

/-! ### Escapes -/

theorem hexDigit?_hexDigit : ∀ n < 16, Numeral.hexDigit? (hexDigit n) = some n := by decide

theorem ofHex?_hexDigit {c : Char} (h : c.toNat < 128) :
    ofHex? ['0', '0', hexDigit (c.toNat / 16), hexDigit (c.toNat % 16)] = some c := by
  have hzero : Numeral.hexDigit? '0' = some 0 := by decide
  have hhigh := hexDigit?_hexDigit (c.toNat / 16) (by omega)
  have hlow := hexDigit?_hexDigit (c.toNat % 16) (by omega)
  have hsum : 16 * (c.toNat / 16) + c.toNat % 16 = c.toNat := by omega
  have hvalid : c.toNat.isValidChar := .inl (by omega)
  simp [ofHex?, hzero, hhigh, hlow, hsum, ofCodePoint?, hvalid, Char.ofNat_toNat]

theorem isPlain_of_not_isControl {c : Char} (h : isControl c = false) (hn : c ≠ '\n') :
    isPlain c = true := by
  simp only [isControl, Bool.or_eq_false_iff, Bool.and_eq_false_iff, decide_eq_false_iff_not,
    bne_eq_false_iff_eq, beq_eq_false_iff_ne] at h
  obtain ⟨(hlow | rfl) | rfl, hdel⟩ := h
  · simp only [isPlain, Bool.or_eq_true, Bool.and_eq_true, decide_eq_true_eq, bne_iff_ne]
    exact .inr ⟨by omega, hdel⟩
  · rfl
  · exact absurd rfl hn

/-- A character inside quotes stands as itself or behind a backslash. -/
theorem escapeChar_cases (c : Char) :
    (escapeChar c = [c] ∧ c ≠ '"' ∧ c ≠ '\\' ∧ c ≠ '\t' ∧ c ≠ '\n' ∧ c ≠ '\r' ∧
      isPlain c = true) ∨
    ∃ e, escapeChar c = '\\' :: e ∧ ∀ rest, escape? (e ++ rest) = some (c, rest) := by
  fun_cases escapeChar c
  case case8 hcontrol =>
    have hlow : c.toNat < 128 := by
      simp only [isControl, Bool.or_eq_true, Bool.and_eq_true, decide_eq_true_eq, beq_iff_eq]
        at hcontrol
      omega
    refine .inr ⟨_, rfl, fun rest => ?_⟩
    simp only [List.cons_append, List.nil_append, escape?, ofHex?_hexDigit hlow, Option.map_some]
  case case9 hquote hslash _ htab hnewline _ hreturn hcontrol =>
    exact .inl ⟨rfl, hquote, hslash, htab, hnewline, hreturn,
      isPlain_of_not_isControl (Bool.not_eq_true _ ▸ hcontrol) hnewline⟩
  all_goals
    subst_vars
    exact .inr ⟨_, rfl, fun _ => rfl⟩

theorem head?_escapeChar (c : Char) (rest : List Char) : NotMark '"' (escapeChar c ++ rest) := by
  obtain ⟨hc, hquote, -⟩ | ⟨e, he, -⟩ := escapeChar_cases c
  · rw [hc]
    exact .cons _ hquote
  · rw [he]
    exact .cons _ (by decide)

/-! ### Strings on one line -/

theorem basic?_cons {c : Char} (rest : List Char) (hquote : c ≠ '"') (hslash : c ≠ '\\')
    (hplain : isPlain c = true) :
    basic? (c :: rest) = (basic? rest).map fun (body, rest) => (c :: body, rest) := by
  rw [basic?, if_pos hplain]
  · exact hquote
  · exact hslash

theorem basic?_escape {s rest : List Char} {c : Char} (h : escape? s = some (c, rest)) :
    basic? ('\\' :: s) = (basic? rest).map fun (body, rest) => (c :: body, rest) := by
  rw [basic?]
  split
  · next h' =>
    obtain ⟨rfl, rfl⟩ := Prod.mk.inj (Option.some.inj (h.symm.trans h'))
    rfl
  · next h' => exact absurd (h.symm.trans h') (by simp)

theorem basic?_flatMap (s rest : List Char) :
    basic? (s.flatMap escapeChar ++ '"' :: rest) = some (s, rest) := by
  induction s with
  | nil =>
    rw [List.flatMap_nil, List.nil_append, basic?]
  | cons c s ih =>
    rw [List.flatMap_cons, List.append_assoc]
    obtain ⟨hc, hquote, hslash, -, -, -, hplain⟩ | ⟨e, he, hread⟩ := escapeChar_cases c
    · rw [hc, List.singleton_append, basic?_cons _ hquote hslash hplain, ih]
      rfl
    · rw [he, List.cons_append, basic?_escape (hread _), ih]
      rfl

theorem literal?_append {s : List Char} (hmark : '\'' ∉ s) (hplain : ∀ c ∈ s, isPlain c = true)
    (rest : List Char) : literal? (s ++ '\'' :: rest) = some (s, rest) := by
  induction s with
  | nil => rfl
  | cons c s ih =>
    have hc : c ≠ '\'' := fun h => hmark (h ▸ List.mem_cons_self)
    have hs := ih (fun h => hmark (List.mem_cons_of_mem c h))
      fun d hd => hplain d (List.mem_cons_of_mem c hd)
    rw [List.cons_append, literal?, if_pos (hplain c List.mem_cons_self), hs]
    · rfl
    · exact hc

theorem quotedLine?_basic (s rest : List Char) :
    quotedLine? (basic s ++ rest) = some (s, rest) := by
  have h := basic?_flatMap s rest
  simp only [basic, List.cons_append, List.append_assoc, List.nil_append, quotedLine?, h]

theorem quotedLine?_literal {s : List Char} (hmark : '\'' ∉ s)
    (hplain : ∀ c ∈ s, isPlain c = true) (rest : List Char) :
    quotedLine? (literal s ++ rest) = some (s, rest) := by
  have h := literal?_append hmark hplain rest
  simp only [literal, List.cons_append, List.append_assoc, List.nil_append, quotedLine?, h]

/-- A text that does not start with three equal marks is read as a string on one line. -/
theorem quoted?_eq_quotedLine? {a b : Char} {s : List Char}
    (h : b ≠ a ∨ NotMark a s) : quoted? (a :: b :: s) = quotedLine? (a :: b :: s) := by
  unfold quoted?
  split
  · next heq =>
    simp only [List.cons.injEq] at heq
    obtain ⟨rfl, rfl, rfl⟩ := heq
    exact (h.resolve_left (· rfl) _ rfl rfl).elim
  · next heq =>
    simp only [List.cons.injEq] at heq
    obtain ⟨rfl, rfl, rfl⟩ := heq
    exact (h.resolve_left (· rfl) _ rfl rfl).elim
  · rfl

theorem quoted?_basic (s : List Char) {rest : List Char} (hrest : NotMark '"' rest) :
    quoted? (basic s ++ rest) = some (s, rest) := by
  rw [← quotedLine?_basic s rest]
  cases s with
  | nil => exact quoted?_eq_quotedLine? (.inr hrest)
  | cons c s =>
    have hhead := head?_escapeChar c (s.flatMap escapeChar ++ '"' :: rest)
    simp only [basic, List.flatMap_cons, List.cons_append, List.append_assoc, List.nil_append]
    cases h : escapeChar c ++ (s.flatMap escapeChar ++ '"' :: rest) with
    | nil => simp at h
    | cons d t =>
      rw [h] at hhead
      exact quoted?_eq_quotedLine? (.inl (hhead d rfl))

theorem quoted?_literal {s : List Char} (hne : s ≠ []) (hmark : '\'' ∉ s)
    (hplain : ∀ c ∈ s, isPlain c = true) (rest : List Char) :
    quoted? (literal s ++ rest) = some (s, rest) := by
  rw [← quotedLine?_literal hmark hplain rest]
  obtain ⟨c, t, rfl⟩ := List.exists_cons_of_ne_nil hne
  exact quoted?_eq_quotedLine? (.inl fun h => hmark (h ▸ List.mem_cons_self))

/-! ### Strings of several lines -/

theorem extraMarks_replicate {mark : Char} {n : Nat} (hn : n ≤ 2) {rest : List Char}
    (hrest : NotMark mark rest) :
    extraMarks mark (List.replicate n mark ++ rest) = (List.replicate n mark, rest) := by
  have hzero : rest.takeWhile (· == mark) = [] := by
    cases rest with
    | nil => rfl
    | cons c rest => simp [hrest c rfl]
  have htake : (List.replicate n mark ++ rest).takeWhile (· == mark) = List.replicate n mark := by
    rw [List.takeWhile_append_of_pos (by simp), hzero, List.append_nil]
  have htwo : (List.replicate n mark).take 2 = List.replicate n mark :=
    List.take_of_length_le (by simpa using hn)
  simp only [extraMarks, htake, htwo, List.length_replicate]
  rw [List.drop_left' List.length_replicate]

theorem replicate_append_marks (mark : Char) (n : Nat) (rest : List Char) :
    List.replicate n mark ++ mark :: mark :: mark :: rest =
      mark :: mark :: mark :: (List.replicate n mark ++ rest) := by
  induction n with
  | zero => rfl
  | succ n ih => rw [List.replicate_succ, List.cons_append, ih]; rfl

theorem endsLine_of_escape? {s : List Char} {p : Char × List Char} (h : escape? s = some p) :
    endsLine s = false := by
  unfold escape? at h
  split at h
  all_goals first
    | rfl
    | exact absurd h (by simp)

theorem multilineBasic?_escape {s rest : List Char} {c : Char} (h : escape? s = some (c, rest)) :
    multilineBasic? false ('\\' :: s) =
      (multilineBasic? false rest).map fun (body, rest) => (c :: body, rest) := by
  rw [multilineBasic?, if_neg (by simp [endsLine_of_escape? h])]
  split
  · next h' =>
    obtain ⟨rfl, rfl⟩ := Prod.mk.inj (Option.some.inj (h.symm.trans h'))
    rfl
  · next h' => exact absurd (h.symm.trans h') (by simp)

/-- A character that may stand between marks reads as itself, and so does a mark that is not
followed by two others. -/
theorem multilineBasic?_cons {c : Char} (s : List Char) (hslash : c ≠ '\\')
    (hplain : isPlain c = true ∨ c = '\n') (hclose : c = '"' → ¬ ['"', '"'] <+: s) :
    multilineBasic? false (c :: s) =
      (multilineBasic? false s).map fun (body, rest) => (c :: body, rest) := by
  rw [multilineBasic?.eq_def]
  split
  · next heq => exact absurd heq (by simp)
  · next heq =>
    obtain ⟨rfl, rfl⟩ := List.cons.inj heq
    exact absurd ⟨_, rfl⟩ (hclose rfl)
  · next heq =>
    obtain ⟨rfl, rfl⟩ := List.cons.inj heq
    rfl
  · next heq =>
    obtain ⟨rfl, -⟩ := List.cons.inj heq
    exact absurd hplain (by decide)
  · next heq =>
    obtain ⟨rfl, rfl⟩ := List.cons.inj heq
    rfl
  · next heq =>
    obtain ⟨rfl, rfl⟩ := List.cons.inj heq
    rfl
  · next heq => exact absurd (List.cons.inj heq).1 hslash
  · next hnewline _ _ _ _ heq =>
    obtain ⟨rfl, rfl⟩ := List.cons.inj heq
    rw [if_pos (hplain.resolve_right hnewline)]
    rfl

theorem multilineBasic?_close {n : Nat} (hn : n ≤ 2) {rest : List Char}
    (hrest : NotMark '"' rest) :
    multilineBasic? false (List.replicate n '"' ++ '"' :: '"' :: '"' :: rest) =
      some (List.replicate n '"', rest) := by
  rw [replicate_append_marks, multilineBasic?, extraMarks_replicate hn hrest]

theorem escapeLines_quote (marks : Nat) (s : List Char) :
    escapeLines marks ('"' :: s) =
      if marks = 2 then '\\' :: '"' :: escapeLines 0 s else '"' :: escapeLines (marks + 1) s := by
  rw [escapeLines]

theorem escapeLines_cons {c : Char} (marks : Nat) (s : List Char) (hquote : c ≠ '"')
    (hnewline : c ≠ '\n') : escapeLines marks (c :: s) = escapeChar c ++ escapeLines 0 s := by
  rw [escapeLines]
  · exact hquote
  · exact hnewline

theorem notMark_escapeLines {marks : Nat} {c : Char} {s : List Char} (h : c = '"' → marks = 2)
    (rest : List Char) : NotMark '"' (escapeLines marks (c :: s) ++ rest) := by
  by_cases hquote : c = '"'
  · subst hquote
    rw [escapeLines_quote, if_pos (h rfl)]
    exact .cons _ (by decide)
  by_cases hnewline : c = '\n'
  · subst hnewline
    exact .cons _ (by decide)
  rw [escapeLines_cons marks s hquote hnewline, List.append_assoc]
  exact head?_escapeChar c _

theorem NotMark.not_isPrefix {mark : Char} {s t : List Char} (h : NotMark mark s) :
    ¬ mark :: t <+: s := by
  rintro ⟨u, rfl⟩
  exact h mark rfl rfl

/-- After a mark, what is left is at most one mark more, or it does not complete the closing
ones. -/
theorem escapeLines_marks_or {marks : Nat} (hlow : 1 ≤ marks) (hhigh : marks ≤ 2)
    (s rest : List Char) :
    (∃ n, marks + n ≤ 2 ∧ s = List.replicate n '"' ∧ escapeLines marks s = s) ∨
      ¬ ['"', '"'] <+: escapeLines marks s ++ '"' :: '"' :: '"' :: rest := by
  match s with
  | [] => exact .inl ⟨0, hhigh, rfl, rfl⟩
  | c :: s =>
    by_cases hc : c = '"' → marks = 2
    · exact .inr (notMark_escapeLines hc _).not_isPrefix
    obtain ⟨rfl, hmarks⟩ := Classical.not_imp.1 hc
    obtain rfl : marks = 1 := by omega
    rw [escapeLines_quote, if_neg hmarks]
    match s with
    | [] => exact .inl ⟨1, by omega, rfl, rfl⟩
    | d :: s =>
      right
      rw [List.cons_append, List.cons_prefix_cons]
      exact fun h => (notMark_escapeLines (fun _ => rfl) _).not_isPrefix h.2

theorem multilineBasic?_escapeLines (s : List Char) {marks : Nat} (hmarks : marks ≤ 2)
    {rest : List Char} (hrest : NotMark '"' rest) :
    multilineBasic? false (escapeLines marks s ++ '"' :: '"' :: '"' :: rest) =
      some (s, rest) := by
  -- `marks` varies: it counts the marks that stand right before the text
  induction s generalizing marks with
  | nil => exact multilineBasic?_close (Nat.zero_le 2) hrest
  | cons c s ih =>
    by_cases hquote : c = '"'
    · subst hquote
      rw [escapeLines_quote]
      split
      · rw [List.cons_append, List.cons_append, multilineBasic?_escape (c := '"') rfl,
          ih (Nat.zero_le 2)]
        rfl
      · have hlow : 1 ≤ marks + 1 := by omega
        have hhigh : marks + 1 ≤ 2 := by omega
        obtain ⟨n, hn, hs, hesc⟩ | hclose := escapeLines_marks_or hlow hhigh s rest
        · -- the text ends in marks, which the closing ones follow
          rw [hesc, hs]
          exact multilineBasic?_close (n := n + 1) (by omega) hrest
        · rw [List.cons_append, multilineBasic?_cons _ (by decide) (.inl rfl) fun _ => hclose,
            ih (by omega)]
          rfl
    by_cases hnewline : c = '\n'
    · subst hnewline
      rw [escapeLines, List.cons_append, multilineBasic?_cons _ (by decide) (.inr rfl) (by simp),
        ih (Nat.zero_le 2)]
      rfl
    rw [escapeLines_cons marks s hquote hnewline, List.append_assoc]
    obtain ⟨hc, -, hslash, -, -, -, hplain⟩ | ⟨e, he, hread⟩ := escapeChar_cases c
    · rw [hc, List.singleton_append,
        multilineBasic?_cons _ hslash (.inl hplain) (absurd · hquote), ih (Nat.zero_le 2)]
      rfl
    · rw [he, List.cons_append, multilineBasic?_escape (hread _), ih (Nat.zero_le 2)]
      rfl

/-- A character that may stand between apostrophes reads as itself, and so does an apostrophe that
is not followed by two others. -/
theorem multilineLiteral?_cons {c : Char} (s : List Char) (hplain : isPlain c = true ∨ c = '\n')
    (hclose : c = '\'' → ¬ ['\'', '\''] <+: s) :
    multilineLiteral? (c :: s) =
      (multilineLiteral? s).map fun (body, rest) => (c :: body, rest) := by
  rw [multilineLiteral?.eq_def]
  split
  · next heq => exact absurd heq (by simp)
  · next heq =>
    obtain ⟨rfl, rfl⟩ := List.cons.inj heq
    exact absurd ⟨_, rfl⟩ (hclose rfl)
  · next heq =>
    obtain ⟨rfl, rfl⟩ := List.cons.inj heq
    rfl
  · next heq =>
    obtain ⟨rfl, -⟩ := List.cons.inj heq
    exact absurd hplain (by decide)
  · next hnewline _ heq =>
    obtain ⟨rfl, rfl⟩ := List.cons.inj heq
    rw [if_pos (hplain.resolve_right hnewline)]

theorem multilineLiteral?_close {n : Nat} (hn : n ≤ 2) {rest : List Char}
    (hrest : NotMark '\'' rest) :
    multilineLiteral? (List.replicate n '\'' ++ '\'' :: '\'' :: '\'' :: rest) =
      some (List.replicate n '\'', rest) := by
  rw [replicate_append_marks, multilineLiteral?, extraMarks_replicate hn hrest]

theorem hasTriple_tail {mark c : Char} {s : List Char} (h : hasTriple mark (c :: s) = false) :
    hasTriple mark s = false := by
  match s with
  | [] => rfl
  | [_] => rfl
  | _ :: _ :: _ => exact (Bool.or_eq_false_iff.1 h).2

/-- After a mark that does not begin three, what is left is at most one mark more, or it does not
complete the closing ones. -/
theorem marks_or_of_hasTriple {mark : Char} {s : List Char}
    (h : hasTriple mark (mark :: s) = false) (rest : List Char) :
    (∃ n ≤ 1, s = List.replicate n mark) ∨
      ¬ [mark, mark] <+: s ++ mark :: mark :: mark :: rest := by
  match s with
  | [] => exact .inl ⟨0, by omega, rfl⟩
  | [c] =>
    by_cases hc : c = mark
    · exact .inl ⟨1, by omega, by rw [hc]; rfl⟩
    · exact .inr (NotMark.cons _ hc).not_isPrefix
  | c :: d :: s =>
    right
    simp only [List.cons_append, List.cons_prefix_cons, List.nil_prefix, and_true]
    rintro ⟨rfl, rfl⟩
    simp [hasTriple] at h

theorem multilineLiteral?_append {s : List Char} (htriple : hasTriple '\'' s = false)
    (hplain : ∀ c ∈ s, isPlain c = true ∨ c = '\n') {rest : List Char}
    (hrest : NotMark '\'' rest) :
    multilineLiteral? (s ++ '\'' :: '\'' :: '\'' :: rest) = some (s, rest) := by
  induction s with
  | nil => exact multilineLiteral?_close (Nat.zero_le 2) hrest
  | cons c s ih =>
    have hs := ih (hasTriple_tail htriple) fun d hd => hplain d (List.mem_cons_of_mem c hd)
    have hc := hplain c List.mem_cons_self
    by_cases hmark : c = '\''
    · subst hmark
      obtain ⟨n, hn, rfl⟩ | hclose := marks_or_of_hasTriple htriple rest
      · exact multilineLiteral?_close (n := n + 1) (by omega) hrest
      · rw [List.cons_append, multilineLiteral?_cons _ hc fun _ => hclose, hs]
        rfl
    · rw [List.cons_append, multilineLiteral?_cons _ hc (absurd · hmark), hs]
      rfl

theorem afterNewline?_cons {c : Char} (s : List Char) (hnewline : c ≠ '\n') (hreturn : c ≠ '\r') :
    afterNewline? (c :: s) = none := by
  unfold afterNewline?
  split
  · next heq => exact absurd (List.cons.inj heq).1 hnewline
  · next heq => exact absurd (List.cons.inj heq).1 hreturn
  · rfl

theorem afterNewline?_escapeLines {s : List Char} (h : '\n' ∉ s) (rest : List Char) :
    afterNewline? (escapeLines 0 s ++ '"' :: '"' :: '"' :: rest) = none := by
  cases s with
  | nil => rfl
  | cons c s =>
    by_cases hquote : c = '"'
    · subst hquote
      rfl
    have hnewline : c ≠ '\n' := fun hc => h (hc ▸ List.mem_cons_self)
    rw [escapeLines_cons 0 s hquote hnewline, List.append_assoc]
    obtain ⟨hc, -, -, -, -, hreturn, -⟩ | ⟨e, he, -⟩ := escapeChar_cases c
    · rw [hc]
      exact afterNewline?_cons _ hnewline hreturn
    · rw [he]
      rfl

/-- The line end after the opening marks is there if the text has one, which then stays. -/
theorem dropNewline_opening (s : List Char) {t : List Char}
    (h : '\n' ∉ s → afterNewline? t = none) : dropNewline (opening s ++ t) = t := by
  by_cases hs : '\n' ∈ s
  · simp [opening, hs, dropNewline, afterNewline?]
  · simp [opening, hs, dropNewline, h hs]

theorem quoted?_multilineBasic (s : List Char) {rest : List Char} (hrest : NotMark '"' rest) :
    quoted? (multilineBasic s ++ rest) = some (s, rest) := by
  have hmarks : "\"\"\"".toList = ['"', '"', '"'] := by decide
  have hread := multilineBasic?_escapeLines s (Nat.zero_le 2) hrest
  rw [multilineBasic, hmarks]
  simp only [List.cons_append, List.nil_append, List.append_assoc, quoted?]
  rw [dropNewline_opening s fun hs => afterNewline?_escapeLines hs rest, hread]

theorem quoted?_multilineLiteral {s : List Char} (htriple : hasTriple '\'' s = false)
    (hplain : ∀ c ∈ s, isPlain c = true ∨ c = '\n') {rest : List Char}
    (hrest : NotMark '\'' rest) : quoted? (multilineLiteral s ++ rest) = some (s, rest) := by
  have hmarks : "'''".toList = ['\'', '\'', '\''] := by decide
  have hread := multilineLiteral?_append htriple hplain hrest
  have hfirst (hs : '\n' ∉ s) : afterNewline? (s ++ '\'' :: '\'' :: '\'' :: rest) = none := by
    cases s with
    | nil => rfl
    | cons c s =>
      have hnewline : c ≠ '\n' := fun hc => hs (hc ▸ List.mem_cons_self)
      have hreturn : c ≠ '\r' := by
        rintro rfl
        exact absurd (hplain '\r' List.mem_cons_self) (by decide)
      exact afterNewline?_cons _ hnewline hreturn
  rw [multilineLiteral, hmarks]
  simp only [List.cons_append, List.nil_append, List.append_assoc, quoted?]
  rw [dropNewline_opening s hfirst, hread]

/-! ### What is printed -/

theorem isPlain_or_eq_newline {c : Char} (h : isControl c = false) :
    isPlain c = true ∨ c = '\n' := by
  by_cases hnewline : c = '\n'
  · exact .inr hnewline
  · exact .inl (isPlain_of_not_isControl h hnewline)

/-- A string reads as the text that it was printed for. -/
theorem quoted?_printString (s : List Char) {rest : List Char} (hquote : NotMark '"' rest)
    (hmark : NotMark '\'' rest) : quoted? (printString s ++ rest) = some (s, rest) := by
  have hcontrol (h : s.any isControl = false) : ∀ c ∈ s, isControl c = false := by
    simpa using h
  fun_cases printString s
  case case1 => exact quoted?_basic s hquote
  case case2 hbasic h =>
    replace h : (!s.any isControl && !s.contains '\n' && !s.contains '\'') = true := h
    obtain ⟨⟨hany, hnewline⟩, happ⟩ :
        (s.any isControl = false ∧ '\n' ∉ s) ∧ '\'' ∉ s := by simpa using h
    have hne : s ≠ [] := by
      rintro rfl
      exact hbasic rfl
    refine quoted?_literal hne happ (fun c hc => ?_) rest
    exact isPlain_of_not_isControl (hcontrol hany c hc) fun h => hnewline (h ▸ hc)
  case case3 => exact quoted?_multilineBasic s hquote
  case case4 h =>
    obtain ⟨hany, htriple⟩ : s.any isControl = false ∧ hasTriple '\'' s = false := by
      rwa [Bool.and_eq_true, Bool.not_eq_true', Bool.not_eq_true'] at h
    have hplain : ∀ c ∈ s, isPlain c = true ∨ c = '\n' :=
      fun c hc => isPlain_or_eq_newline (hcontrol hany c hc)
    exact quoted?_multilineLiteral htriple hplain hmark
  case case5 => exact quoted?_multilineBasic s hquote
  case case6 => exact quoted?_basic s hquote

theorem simpleKey?_of_not_isBare {c : Char} (s : List Char) (hc : isBare c = false) :
    simpleKey? (c :: s) = quotedLine? (c :: s) := by
  simp [simpleKey?, hc]

theorem simpleKey?_bare {s rest : List Char} (hne : s ≠ []) (hs : ∀ c ∈ s, isBare c = true)
    (hrest : ∀ c ∈ rest.head?, isBare c = false) : simpleKey? (s ++ rest) = some (s, rest) := by
  obtain ⟨htake, hdrop⟩ := Text.span_append hs hrest
  rw [simpleKey?, htake, hdrop]
  cases s with
  | nil => exact absurd rfl hne
  | cons c s => rfl

/-- A key reads as the name that it was printed for, where no bare character follows it. -/
theorem simpleKey?_printKey (s : List Char) {rest : List Char}
    (hrest : ∀ c ∈ rest.head?, isBare c = false) :
    simpleKey? (printKey s ++ rest) = some (s, rest) := by
  have hbasic : simpleKey? (basic s ++ rest) = some (s, rest) := by
    rw [← quotedLine?_basic s rest]
    exact simpleKey?_of_not_isBare _ (by decide)
  fun_cases printKey s
  case case1 h => exact simpleKey?_bare h.1 (by simpa using h.2) hrest
  case case2 => exact hbasic
  case case3 h =>
    replace h : (!s.any (fun c => isControl c || c == '\n') && !s.contains '\'') = true := h
    obtain ⟨hany, happ⟩ : (∀ c ∈ s, isControl c = false ∧ c ≠ '\n') ∧ '\'' ∉ s := by
      simpa using h
    have hplain : ∀ c ∈ s, isPlain c = true :=
      fun c hc => isPlain_of_not_isControl (hany c hc).1 (hany c hc).2
    rw [← quotedLine?_literal happ hplain rest]
    exact simpleKey?_of_not_isBare _ (by decide)
  case case4 => exact hbasic

/-- What a key starts with is no white space, ends no line and opens no table. -/
theorem printKey_eq_cons (s : List Char) :
    ∃ c t, printKey s = c :: t ∧ (isBare c = true ∨ c = '"' ∨ c = '\'') := by
  fun_cases printKey s
  case case1 h =>
    obtain ⟨c, t, rfl⟩ := List.exists_cons_of_ne_nil h.1
    exact ⟨c, t, rfl, .inl (List.all_eq_true.1 h.2 c List.mem_cons_self)⟩
  case case2 => exact ⟨'"', _, rfl, .inr (.inl rfl)⟩
  case case3 => exact ⟨'\'', _, rfl, .inr (.inr rfl)⟩
  case case4 => exact ⟨'"', _, rfl, .inr (.inl rfl)⟩

/-- What a string starts with begins neither an array nor an inline table. -/
theorem printString_eq_cons (s : List Char) :
    ∃ c t, printString s = c :: t ∧ (c = '"' ∨ c = '\'') := by
  fun_cases printString s
  case case2 => exact ⟨'\'', _, rfl, .inr rfl⟩
  case case4 => exact ⟨'\'', _, rfl, .inr rfl⟩
  all_goals exact ⟨'"', _, rfl, .inl rfl⟩

end SnippetCheck.Toml
