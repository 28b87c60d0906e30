import SnippetCheck.Numeral

/-! Numerals and other runs of characters of one kind. A run that no character of its kind follows
is read as a whole, and the numeral of a number reads as the number. -/

namespace SnippetCheck

/-- A text all of one kind and the text after it, which starts with no character of that kind. -/
theorem Text.span_append {p : Char → Bool} {s rest : List Char} (hs : ∀ c ∈ s, p c = true)
    (hrest : ∀ c ∈ rest.head?, p c = false) :
    (s ++ rest).takeWhile p = s ∧ (s ++ rest).dropWhile p = rest := by
  rw [List.takeWhile_append_of_pos hs, List.dropWhile_append_of_pos hs]
  cases rest with
  | nil => exact ⟨List.append_nil s, rfl⟩
  | cons c rest => simp [hrest c rfl]

/-- The text before the first occurrence of a separator, and the text from there on. -/
theorem Text.span_separator {sep : Char} {s : List Char} (h : sep ∉ s) (rest : List Char) :
    (s ++ sep :: rest).takeWhile (· != sep) = s ∧
      (s ++ sep :: rest).dropWhile (· != sep) = sep :: rest := by
  refine span_append (fun c hc => bne_iff_ne.2 fun heq => h (heq ▸ hc)) ?_
  rintro _ ⟨rfl⟩
  exact bne_self_eq_false sep

/-! ### Digits -/

namespace Numeral

theorem ofDigits_repr (n : Nat) : ofDigits n.repr.toList = n := by
  rw [Nat.toList_repr, ofDigits, ← Nat.ofDigitChars_eq_foldl]
  exact Nat.ofDigitChars_ten_toDigits

theorem isDigit_of_mem_repr {n : Nat} {c : Char} (h : c ∈ n.repr.toList) : c.isDigit = true :=
  Nat.isDigit_of_mem_toDigits (by decide) (by decide) (Nat.toList_repr ▸ h)

theorem repr_ne_nil (n : Nat) : n.repr.toList ≠ [] := Nat.toList_repr ▸ Nat.toDigits_ne_nil

theorem repr_of_append {n : Nat} {rest t : List Char} {c : Char}
    (h : n.repr.toList ++ rest = c :: t) :
    ∃ ds, n.repr.toList = c :: ds ∧ t = ds ++ rest ∧ c.isDigit = true := by
  obtain ⟨ds, hds, ht⟩ := (List.append_eq_cons_iff.1 h).resolve_left fun h => repr_ne_nil n h.1
  exact ⟨ds, hds, ht, isDigit_of_mem_repr (hds ▸ List.mem_cons_self)⟩

/-- Digits that are followed by no digit are read as a whole. -/
theorem digits?_append {ds rest : List Char} (hne : ds ≠ []) (hds : ∀ c ∈ ds, c.isDigit = true)
    (hrest : ∀ c ∈ rest.head?, c.isDigit = false) : digits? (ds ++ rest) = some (ds, rest) := by
  obtain ⟨htake, hdrop⟩ := Text.span_append hds hrest
  unfold digits?
  rw [htake, hdrop]
  cases ds with
  | nil => exact absurd rfl hne
  | cons d ds => rfl

/-- Only zero is written with a zero in front. -/
theorem eq_zero_of_head?_repr {n : Nat} (h : n.repr.toList.head? = some '0') : n = 0 := by
  rw [Nat.toList_repr] at h
  induction n using Nat.base_induction 10 (by decide) with
  | single m hm =>
    rw [Nat.toDigits_of_lt_base hm] at h
    have key : ∀ d < 10, [Nat.digitChar d].head? = some '0' → d = 0 := by decide
    exact key m hm h
  | digit m k hk hm ih =>
    obtain ⟨d, ds, hd⟩ := List.exists_cons_of_ne_nil (Nat.toDigits_ne_nil (n := m) (b := 10))
    rw [← Nat.toDigits_append_toDigits (by decide) hm hk, hd] at h
    have := ih (hd ▸ h)
    omega

end Numeral

end SnippetCheck
