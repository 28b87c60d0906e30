import Mathlib.Data.List.TakeWhile
import SnippetCheck.Json.Reader
import SnippetCheck.Proofs.Json.Scan

/-! White space between tokens. A text may be spread: white space may go in wherever a token ends or
starts. What the scanner takes for the first token depends on the text after it only through the
character that comes next, and white space goes on with no token; so a spread text has the same
tokens. -/

namespace SnippetCheck.Json

open Text Numeral

/-- The second text starts with the character that the first one starts with, or with white space,
if it starts at all. -/
def Follows (rest rest' : List Char) : Prop :=
  ∀ c ∈ rest'.head?, rest.head? = some c ∨ isSpace c = true

theorem Follows.refl (rest : List Char) : Follows rest rest := fun _ h => .inl h

theorem Follows.of_cons (c : Char) (s s' : List Char) : Follows (c :: s) (c :: s') :=
  fun _ h => .inl h

theorem Follows.append {rest rest' : List Char} (h : Follows rest rest') (s : List Char) :
    Follows (s ++ rest) (s ++ rest') := by
  cases s with
  | nil => exact h
  | cons c s => exact .of_cons c _ _

/-- A property of characters that white space has holds of what follows where it held before. -/
theorem Follows.head {rest rest' : List Char} (h : Follows rest rest') {p : Char → Prop}
    (hspace : ∀ c, isSpace c = true → p c) (hrest : ∀ c ∈ rest.head?, p c) :
    ∀ c ∈ rest'.head?, p c := by
  intro c hc
  rcases h c hc with heq | hs
  · exact hrest c heq
  · exact hspace c hs

/-- A reader takes the same part of a text whatever follows that part, as long as it starts as what
followed it before or with white space. -/
def Stable (f : List Char → Option (α × List Char)) : Prop :=
  ∀ s a rest, f s = some (a, rest) →
    ∃ part, s = part ++ rest ∧ ∀ rest', Follows rest rest' → f (part ++ rest') = some (a, rest')

theorem Stable.bind {f : List Char → Option (α × List Char)}
    {g : α → List Char → Option (β × List Char)} (hf : Stable f) (hg : ∀ a, Stable (g a)) :
    Stable fun s => f s >>= fun p => g p.1 p.2 := by
  intro s b rest h
  obtain ⟨⟨a, middle⟩, ha, hb⟩ := Option.bind_eq_some_iff.1 h
  obtain ⟨part, rfl, hpart⟩ := hf s a middle ha
  obtain ⟨part', rfl, hpart'⟩ := hg a middle b rest hb
  refine ⟨part ++ part', (List.append_assoc ..).symm, ?_⟩
  intro rest' hrest
  rw [List.append_assoc]
  show (f (part ++ (part' ++ rest')) >>= _) = _
  rw [hpart _ (hrest.append part')]
  exact hpart' rest' hrest

theorem Stable.pure (a : α) : Stable fun s => some (a, s) := by
  intro s b rest h
  obtain ⟨rfl, rfl⟩ := Prod.mk.inj (Option.some.inj h)
  exact ⟨[], rfl, fun _ _ => rfl⟩

/-! ### Numbers -/

theorem not_isDigit_of_isSpace (c : Char) (h : isSpace c = true) : c.isDigit = false := by
  simp only [isSpace, Bool.or_eq_true, beq_iff_eq] at h
  rcases h with ((rfl | rfl) | rfl) | rfl <;> rfl

theorem ne_of_isSpace {d : Char} (hd : isSpace d = false) (c : Char) (h : isSpace c = true) :
    c ≠ d := by
  rintro rfl
  exact absurd h (Bool.not_eq_true _ ▸ hd)

theorem not_isDigit_of_head?_dropWhile {s : List Char} :
    ∀ c ∈ (s.dropWhile Char.isDigit).head?, c.isDigit = false := by
  intro c hc
  have hnot := List.head?_dropWhile_not Char.isDigit s
  rw [hc] at hnot
  exact hnot

theorem stable_digits? : Stable digits? := by
  intro s ds rest h
  unfold digits? at h
  split at h
  · cases h
  next hne =>
    obtain ⟨rfl, rfl⟩ := Prod.mk.inj (Option.some.inj h)
    refine ⟨_, List.takeWhile_append_dropWhile.symm, fun rest' hrest => ?_⟩
    exact digits?_append hne (fun _ => List.mem_takeWhile_imp)
      (hrest.head not_isDigit_of_isSpace not_isDigit_of_head?_dropWhile)

theorem integerPart?_of_head {s : List Char} (h : ∀ c ∈ s.head?, c ≠ '0') :
    integerPart? s = digits? s := by
  unfold integerPart?
  split
  · exact absurd rfl (h '0' rfl)
  · rfl

theorem eq_cons_or_head_ne (d : Char) (s : List Char) :
    (∃ t, s = d :: t) ∨ ∀ c ∈ s.head?, c ≠ d := by
  cases s with
  | nil => exact .inr fun _ h => nomatch h
  | cons c t =>
    by_cases hc : c = d
    · exact .inl ⟨t, by rw [hc]⟩
    · exact .inr fun e he => Option.some.inj he ▸ hc

theorem stable_integerPart? : Stable integerPart? := by
  intro s ds rest h
  rcases eq_cons_or_head_ne '0' s with ⟨t, rfl⟩ | hzero
  · obtain ⟨rfl, rfl⟩ := Prod.mk.inj (Option.some.inj h)
    exact ⟨['0'], rfl, fun _ _ => rfl⟩
  · rw [integerPart?_of_head hzero] at h
    obtain ⟨part, rfl, hpart⟩ := stable_digits? s ds rest h
    refine ⟨part, rfl, fun rest' hrest => ?_⟩
    have hzero' := (hrest.append part).head (ne_of_isSpace rfl) hzero
    rw [integerPart?_of_head hzero', hpart rest' hrest]

/-- Digits behind a character are read wherever that character and they stand. -/
theorem stable_behind {f : List Char → Option (β × List Char)} {c : Char} {g : List Char → β}
    (hf : ∀ s, f (c :: s) = (digits? s).map fun p => (g p.1, p.2)) {s rest : List Char} {b : β}
    (h : f (c :: s) = some (b, rest)) :
    ∃ part, c :: s = part ++ rest ∧
      ∀ rest', Follows rest rest' → f (part ++ rest') = some (b, rest') := by
  rw [hf] at h
  obtain ⟨⟨ds, rest⟩, hds, heq⟩ := Option.map_eq_some_iff.1 h
  obtain ⟨rfl, rfl⟩ := Prod.mk.inj heq
  obtain ⟨part, rfl, hpart⟩ := stable_digits? s ds _ hds
  refine ⟨c :: part, rfl, fun rest' hrest => ?_⟩
  rw [List.cons_append, hf, hpart rest' hrest]
  rfl

theorem stable_fractionPart? : Stable fractionPart? := by
  intro s places rest h
  rcases eq_cons_or_head_ne '.' s with ⟨t, rfl⟩ | hpoint
  · exact stable_behind (g := some) (fun _ => rfl) h
  · rw [fractionPart?_of_head hpoint] at h
    obtain ⟨rfl, rfl⟩ := Prod.mk.inj (Option.some.inj h)
    exact ⟨[], rfl, fun rest' hrest =>
      fractionPart?_of_head (hrest.head (ne_of_isSpace rfl) hpoint)⟩

/-- What an exponent is after its letter. -/
def exponentDigits? (s : List Char) : Option (Option Int × List Char) :=
  match s with
  | '-' :: rest => (digits? rest).map fun p => (some (-(ofDigits p.1 : Int)), p.2)
  | '+' :: rest => (digits? rest).map fun p => (some (ofDigits p.1 : Int), p.2)
  | rest => (digits? rest).map fun p => (some (ofDigits p.1 : Int), p.2)

theorem exponentDigits?_of_head {s : List Char} (hminus : ∀ c ∈ s.head?, c ≠ '-')
    (hplus : ∀ c ∈ s.head?, c ≠ '+') :
    exponentDigits? s = (digits? s).map fun p => (some (ofDigits p.1 : Int), p.2) := by
  unfold exponentDigits?
  split
  · exact absurd rfl (hminus '-' rfl)
  · exact absurd rfl (hplus '+' rfl)
  · rfl

theorem exponentPart?_cons {c : Char} (hc : c = 'e' ∨ c = 'E') (s : List Char) :
    exponentPart? (c :: s) = exponentDigits? s := by
  simp only [exponentPart?, if_pos hc]
  split
  · rfl
  · rfl
  · next hminus hplus =>
    unfold exponentDigits?
    split
    · exact absurd rfl (hminus _)
    · exact absurd rfl (hplus _)
    · rfl

theorem stable_exponentDigits? : Stable exponentDigits? := by
  intro s exponent rest h
  rcases eq_cons_or_head_ne '-' s with ⟨t, rfl⟩ | hminus
  · exact stable_behind (g := fun ds => some (-(ofDigits ds : Int))) (fun _ => rfl) h
  rcases eq_cons_or_head_ne '+' s with ⟨t, rfl⟩ | hplus
  · exact stable_behind (g := fun ds => some (ofDigits ds : Int)) (fun _ => rfl) h
  rw [exponentDigits?_of_head hminus hplus] at h
  obtain ⟨⟨ds, _⟩, hds, heq⟩ := Option.map_eq_some_iff.1 h
  obtain ⟨rfl, rfl⟩ := Prod.mk.inj heq
  obtain ⟨part, rfl, hpart⟩ := stable_digits? s ds _ hds
  refine ⟨part, rfl, fun rest' hrest => ?_⟩
  have hfollows := hrest.append part
  rw [exponentDigits?_of_head (hfollows.head (ne_of_isSpace rfl) hminus)
    (hfollows.head (ne_of_isSpace rfl) hplus), hpart rest' hrest]
  rfl

theorem stable_exponentPart? : Stable exponentPart? := by
  intro s exponent rest h
  by_cases hletter : ∀ c ∈ s.head?, c ≠ 'e' ∧ c ≠ 'E'
  · rw [exponentPart?_of_head hletter] at h
    obtain ⟨rfl, rfl⟩ := Prod.mk.inj (Option.some.inj h)
    refine ⟨[], rfl, fun rest' hrest => exponentPart?_of_head (hrest.head ?_ hletter)⟩
    exact fun c hc => ⟨ne_of_isSpace rfl c hc, ne_of_isSpace rfl c hc⟩
  · obtain ⟨c, t, rfl, hc⟩ : ∃ c t, s = c :: t ∧ (c = 'e' ∨ c = 'E') := by
      cases s with
      | nil => exact absurd (fun _ h => nomatch h) hletter
      | cons c t => exact ⟨c, t, rfl, by simpa [or_iff_not_imp_left] using hletter⟩
    rw [exponentPart?_cons hc] at h
    obtain ⟨part, rfl, hpart⟩ := stable_exponentDigits? t exponent rest h
    refine ⟨c :: part, rfl, fun rest' hrest => ?_⟩
    rw [List.cons_append, exponentPart?_cons hc, hpart rest' hrest]

/-- The number that follows a sign, or that has none. -/
def unsigned? (negative : Bool) (s : List Char) : Option (Option Number × List Char) := do
  let (whole, s) ← integerPart? s
  let (fraction, s) ← fractionPart? s
  let (exponent, s) ← exponentPart? s
  return (Number.ofParts? negative whole fraction exponent, s)

theorem stable_unsigned? (negative : Bool) : Stable (unsigned? negative) :=
  stable_integerPart?.bind fun whole => stable_fractionPart?.bind fun fraction =>
    stable_exponentPart?.bind fun exponent =>
      .pure (Number.ofParts? negative whole fraction exponent)

theorem number?_minus (s : List Char) : number? ('-' :: s) = unsigned? true s := rfl

theorem number?_of_head {s : List Char} (h : ∀ c ∈ s.head?, c ≠ '-') :
    number? s = unsigned? false s := by
  unfold number?
  split
  next hsign =>
    split at hsign
    · exact absurd rfl (h '-' rfl)
    · obtain ⟨rfl, rfl⟩ := Prod.mk.inj hsign
      rfl

theorem stable_number? : Stable number? := by
  intro s n rest h
  rcases eq_cons_or_head_ne '-' s with ⟨t, rfl⟩ | hminus
  · obtain ⟨part, rfl, hpart⟩ := stable_unsigned? true t n rest h
    exact ⟨'-' :: part, rfl, hpart⟩
  · rw [number?_of_head hminus] at h
    obtain ⟨part, rfl, hpart⟩ := stable_unsigned? false s n rest h
    refine ⟨part, rfl, fun rest' hrest => ?_⟩
    rw [number?_of_head ((hrest.append part).head (ne_of_isSpace rfl) hminus), hpart rest' hrest]

/-! ### Strings -/

/-- A string ends with its closing quote, whatever follows. -/
theorem stringBody?_eq_some {s rest : List Char} {ps : List Piece}
    (h : stringBody? s = some (ps, rest)) :
    ∃ part, s = part ++ rest ∧ ∀ rest', stringBody? (part ++ rest') = some (ps, rest') := by
  fun_induction stringBody? s generalizing ps with
  | case1 => cases h
  | case2 t =>
    obtain ⟨rfl, rfl⟩ := Prod.mk.inj (Option.some.inj h)
    exact ⟨['"'], rfl, fun _ => rfl⟩
  | case3 a b c d t ih =>
    obtain ⟨n, hn, h⟩ := Option.bind_eq_some_iff.1 h
    obtain ⟨⟨qs, _⟩, hqs, h⟩ := Option.bind_eq_some_iff.1 h
    obtain ⟨rfl, rfl⟩ := Prod.mk.inj (Option.some.inj h)
    obtain ⟨part, rfl, hpart⟩ := ih hqs
    refine ⟨'\\' :: 'u' :: a :: b :: c :: d :: part, rfl, fun rest' => ?_⟩
    have hunit := stringBody?_unit (part ++ rest') hn
    rw [hpart] at hunit
    exact hunit
  | case4 e t hu ih =>
    obtain ⟨c, hc, h⟩ := Option.bind_eq_some_iff.1 h
    obtain ⟨⟨qs, _⟩, hqs, h⟩ := Option.bind_eq_some_iff.1 h
    obtain ⟨rfl, rfl⟩ := Prod.mk.inj (Option.some.inj h)
    obtain ⟨part, rfl, hpart⟩ := ih hqs
    refine ⟨'\\' :: e :: part, rfl, fun rest' => ?_⟩
    have hescape := stringBody?_escape (part ++ rest') hc
    rw [hpart] at hescape
    exact hescape
  | case5 => cases h
  | case6 c t hquote hu hslash hcontrol ih =>
    obtain ⟨⟨qs, u⟩, hqs, h⟩ := Option.bind_eq_some_iff.1 h
    obtain ⟨rfl, rfl⟩ := Prod.mk.inj (Option.some.inj h)
    obtain ⟨part, rfl, hpart⟩ := ih hqs
    have hne : c ≠ '\\' := by
      intro hc
      -- a backslash at the end of the text escapes nothing, and no string ends there
      cases hs : part ++ u with
      | nil =>
        rw [hs] at hqs
        cases hqs
      | cons e t => exact hslash e t hc hs
    refine ⟨c :: part, rfl, fun rest' => ?_⟩
    have hcons := stringBody?_cons (part ++ rest') hquote hne hcontrol
    rw [hpart] at hcons
    exact hcons

/-! ### Tokens -/

theorem isDigit_of_digits? {c : Char} {s ds rest : List Char}
    (h : digits? (c :: s) = some (ds, rest)) : c.isDigit = true := by
  cases hc : c.isDigit with
  | true => rfl
  | false =>
    rw [digits?, List.takeWhile_cons_of_neg (Bool.not_eq_true _ ▸ hc)] at h
    cases h

/-- A number starts with a digit or a minus. -/
theorem head_of_number? {c : Char} {s rest : List Char} {n : Option Number}
    (h : number? (c :: s) = some (n, rest)) : c.isDigit = true ∨ c = '-' := by
  rcases eq_cons_or_head_ne '-' (c :: s) with ⟨t, hs⟩ | hminus
  · exact .inr (List.cons.inj hs).1
  · rw [number?_of_head hminus] at h
    obtain ⟨⟨ds, t⟩, hds, -⟩ := Option.bind_eq_some_iff.1 h
    rcases eq_cons_or_head_ne '0' (c :: s) with ⟨u, hs⟩ | hzero
    · exact .inl (by rw [(List.cons.inj hs).1]; rfl)
    · rw [integerPart?_of_head hzero] at hds
      exact .inl (isDigit_of_digits? hds)

namespace Token

/-- A token that is spelled in one way only is the first token wherever it stands. -/
theorem first_eq_of_word {c d : Char} {s rest tail : List Char} {t u : Token} (part : List Char)
    (hu : ∀ rest, first (d :: (part ++ rest)) = (u, rest)) (hs : c :: s = d :: (part ++ tail))
    (h : (u, tail) = (t, rest)) :
    ∃ part, s = part ++ rest ∧
      ∀ rest', Follows rest rest' → first (c :: (part ++ rest')) = (t, rest') := by
  obtain ⟨rfl, rfl⟩ := List.cons.inj hs
  obtain ⟨rfl, rfl⟩ := Prod.mk.inj h
  exact ⟨part, rfl, fun rest' _ => hu rest'⟩

/-- The first token of a text is the same whatever follows it, as long as it starts as what followed
it before or with white space. -/
theorem first_eq {c : Char} {s rest : List Char} {t : Token} (ht : t ≠ .junk)
    (h : first (c :: s) = (t, rest)) :
    ∃ part, s = part ++ rest ∧
      ∀ rest', Follows rest rest' → first (c :: (part ++ rest')) = (t, rest') := by
  unfold first at h
  split at h
  case h_1 heq => exact first_eq_of_word [] (fun _ => rfl) heq h
  case h_2 heq => exact first_eq_of_word [] (fun _ => rfl) heq h
  case h_3 heq => exact first_eq_of_word [] (fun _ => rfl) heq h
  case h_4 heq => exact first_eq_of_word [] (fun _ => rfl) heq h
  case h_5 heq => exact first_eq_of_word [] (fun _ => rfl) heq h
  case h_6 heq => exact first_eq_of_word [] (fun _ => rfl) heq h
  case h_7 heq => exact first_eq_of_word ['u', 'l', 'l'] (fun _ => rfl) heq h
  case h_8 heq => exact first_eq_of_word ['r', 'u', 'e'] (fun _ => rfl) heq h
  case h_9 heq => exact first_eq_of_word ['a', 'l', 's', 'e'] (fun _ => rfl) heq h
  case h_10 heq =>
    obtain ⟨rfl, rfl⟩ := List.cons.inj heq
    split at h
    · next ps tail hbody =>
      obtain ⟨rfl, rfl⟩ := Prod.mk.inj h
      obtain ⟨part, hs, hpart⟩ := stringBody?_eq_some hbody
      refine ⟨part, hs, fun rest' _ => ?_⟩
      simp only [first, hpart]
    · exact absurd (Prod.mk.inj h).1.symm ht
  case h_11 =>
    split at h
    · next n tail hnumber =>
      obtain ⟨rfl, rfl⟩ := Prod.mk.inj h
      obtain ⟨part, hs, hpart⟩ := stable_number? _ _ _ hnumber
      have hhead := head_of_number? hnumber
      cases part with
      | nil => exact absurd (number?_length hnumber) (by simp [hs])
      | cons d part =>
        obtain ⟨rfl, rfl⟩ := List.cons.inj hs
        exact ⟨part, rfl, fun rest' hrest => first_number hhead (hpart rest' hrest)⟩
    · exact absurd (Prod.mk.inj h).1.symm ht

end Token

/-! ### Spread texts -/

/-- The second text is the first one with white space put in where a token starts or ends. -/
inductive Spread : List Char → List Char → Prop
  | nil : Spread [] []
  /-- White space goes in. -/
  | insert {c : Char} {s s' : List Char} (hc : isSpace c = true) (h : Spread s s') :
    Spread s (c :: s')
  /-- White space stays. -/
  | space {c : Char} {s s' : List Char} (hc : isSpace c = true) (h : Spread s s') :
    Spread (c :: s) (c :: s')
  /-- A token stays, character by character. -/
  | token {c : Char} {part s s' : List Char} {t : Token} (hc : isSpace c = false)
    (ht : t ≠ .junk) (hfirst : Token.first (c :: (part ++ s)) = (t, s)) (h : Spread s s') :
    Spread (c :: (part ++ s)) (c :: (part ++ s'))

/-- A text that is all tokens and white space is spread out of itself. -/
theorem Spread.refl {s : List Char} (h : Token.junk ∉ Token.scan s) : Spread s s := by
  -- on the length, since a step takes as much of the text as its first token has
  induction hn : s.length using Nat.strong_induction_on generalizing s with
  | _ n ih =>
    cases s with
    | nil => exact .nil
    | cons c s =>
      cases hc : isSpace c with
      | true =>
        rw [Token.scan_space s hc] at h
        exact .space hc (ih _ (by simp [← hn]) h rfl)
      | false =>
        obtain ⟨⟨t, rest⟩, hfirst⟩ : ∃ p, Token.first (c :: s) = p := ⟨_, rfl⟩
        rw [Token.scan_of_first hc hfirst, List.mem_cons, not_or] at h
        obtain ⟨ht, hrest⟩ := h
        have hlength := Token.first_length (List.cons_ne_nil c s)
        obtain ⟨part, rfl, -⟩ := Token.first_eq (Ne.symm ht) hfirst
        rw [hfirst, hn] at hlength
        exact .token hc (Ne.symm ht) hfirst (ih _ hlength hrest rfl)

theorem Spread.follows {s s' : List Char} (h : Spread s s') : Follows s s' := by
  cases h with
  | nil => exact .refl []
  | insert hc h =>
    intro d hd
    exact .inr (Option.some.inj hd ▸ hc)
  | space hc h => exact .of_cons _ _ _
  | token hc ht hfirst h => exact .of_cons _ _ _

/-- A spread text has the same tokens. -/
theorem Spread.scan_eq {s s' : List Char} (h : Spread s s') : Token.scan s' = Token.scan s := by
  induction h with
  | nil => rfl
  | insert hc h ih => rw [Token.scan_space _ hc, ih]
  | space hc h ih => rw [Token.scan_space _ hc, Token.scan_space _ hc, ih]
  | @token c part s s' t hc ht hfirst h ih =>
    obtain ⟨part', hpart, hkeep⟩ := Token.first_eq ht hfirst
    obtain rfl : part = part' := List.append_cancel_right hpart
    rw [Token.scan_of_first hc hfirst, Token.scan_of_first hc (hkeep s' h.follows), ih]

theorem Spread.read?_eq {s s' : List Char} (h : Spread s s') : read? s' = read? s := by
  rw [read?, read?, h.scan_eq]

end SnippetCheck.Json
