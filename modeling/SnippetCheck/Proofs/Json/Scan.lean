import SnippetCheck.Json.Printer
import SnippetCheck.Json.Token
import SnippetCheck.Proofs.Numeral

/-! The tokens of written JSON. `Writes` says that a text is scanned as some tokens wherever it
stands, provided that what follows it does not go on with a number. Strings, numbers, white space
and punctuation write their tokens, and texts that follow each other write their tokens in order.
-/

namespace SnippetCheck

open Json Numeral

namespace Json

/-! ### Strings -/

theorem hexDigit?_hexDigit : ∀ n < 16, Numeral.hexDigit? (hexDigit n) = some n := by decide

/-- Two zeros and two digits write a number below 256. -/
theorem hex4?_hexDigit {n : Nat} (h : n < 256) :
    hex4? '0' '0' (hexDigit (n / 16)) (hexDigit (n % 16)) = some n := by
  have hzero : Numeral.hexDigit? '0' = some 0 := by decide
  simp only [hex4?, hzero, hexDigit?_hexDigit (n / 16) (by omega),
    hexDigit?_hexDigit (n % 16) (by omega), Option.bind_eq_bind, Option.bind_some]
  exact congrArg some (by omega)

/-- A character inside a string stands as itself, behind a backslash, or as its number. -/
theorem escapeChar_cases (c : Char) :
    (escapeChar c = [c] ∧ c ≠ '"' ∧ c ≠ '\\' ∧ ¬ c.toNat < 0x20) ∨
      (∃ e, escapeChar c = ['\\', e] ∧ escaped? e = some c) ∨
      (escapeChar c = ['\\', 'u', '0', '0', hexDigit (c.toNat / 16), hexDigit (c.toNat % 16)] ∧
        c.toNat < 0x20) := by
  fun_cases escapeChar c
  case case8 h => exact .inr (.inr ⟨rfl, h⟩)
  case case9 hquote hslash _ _ _ _ _ hcontrol => exact .inl ⟨rfl, hquote, hslash, hcontrol⟩
  all_goals
    subst_vars
    exact .inr (.inl ⟨_, rfl, rfl⟩)

/-- A character that needs no escape reads as itself. -/
theorem stringBody?_cons {c : Char} (rest : List Char) (hquote : c ≠ '"') (hslash : c ≠ '\\')
    (hcontrol : ¬ c.toNat < 0x20) :
    stringBody? (c :: rest) = (stringBody? rest).map fun (ps, rest) => (.char c :: ps, rest) := by
  rw [stringBody?, if_neg hcontrol]
  · cases stringBody? rest <;> rfl
  · exact hquote
  · exact fun _ _ _ _ _ h _ => hslash h
  · exact fun _ _ h _ => hslash h

/-- A character behind a backslash reads as what the two stand for. -/
theorem stringBody?_escape {e c : Char} (rest : List Char) (h : escaped? e = some c) :
    stringBody? ('\\' :: e :: rest) =
      (stringBody? rest).map fun (ps, rest) => (.char c :: ps, rest) := by
  have hu : e ≠ 'u' := by
    rintro rfl
    exact absurd h (by simp [escaped?])
  rw [stringBody?, h]
  · cases stringBody? rest <;> rfl
  · exact fun _ _ _ _ _ h _ => hu h

/-- An escaped code unit reads as what the unit stands for. -/
theorem stringBody?_unit {a b c d : Char} {n : Nat} (rest : List Char)
    (h : hex4? a b c d = some n) :
    stringBody? ('\\' :: 'u' :: a :: b :: c :: d :: rest) =
      (stringBody? rest).map fun (ps, rest) => (.ofUnit n :: ps, rest) := by
  rw [stringBody?, h]
  cases stringBody? rest <;> rfl

/-- An escaped character reads as the character. -/
theorem stringBody?_escapeChar (c : Char) (rest : List Char) :
    stringBody? (escapeChar c ++ rest) =
      (stringBody? rest).map fun (ps, rest) => (.char c :: ps, rest) := by
  obtain ⟨hc, hquote, hslash, hcontrol⟩ | ⟨e, hc, he⟩ | ⟨hc, hcontrol⟩ := escapeChar_cases c
  · rw [hc]
    exact stringBody?_cons rest hquote hslash hcontrol
  · rw [hc]
    exact stringBody?_escape rest he
  · have hunit : Piece.ofUnit c.toNat = .char c := by
      rw [Piece.ofUnit, if_neg (by omega), Char.ofNat_toNat]
    rw [hc, ← hunit]
    exact stringBody?_unit rest (hex4?_hexDigit (by omega))

theorem stringBody?_flatMap (s rest : List Char) :
    stringBody? (s.flatMap escapeChar ++ '"' :: rest) = some (s.map .char, rest) := by
  induction s with
  | nil => rfl
  | cons c s ih =>
    rw [List.flatMap_cons, List.append_assoc, stringBody?_escapeChar, ih]
    rfl

theorem text?_map_char (s : List Char) : Piece.text? (s.map .char) = some s := by
  induction s with
  | nil => rfl
  | cons c s ih =>
    rw [List.map_cons, Piece.text?, ih]
    rfl

/-! ### Numbers -/

namespace Number

/-- A number that a text can write and a reader takes. -/
def InRange : Number → Prop
  | .natural n => n ≤ wordMax
  | .negative n => 1 ≤ n ∧ n ≤ 0x8000000000000000
  | .real _ significand exponent => finite significand exponent = true

/-- What a number that stands before it does not go on with. -/
def Stops (s : List Char) : Prop :=
  ∀ c ∈ s.head?, c.isDigit = false ∧ c ≠ '.' ∧ c ≠ 'e' ∧ c ≠ 'E'

theorem stops_cons {c : Char} {s : List Char}
    (h : c.isDigit = false ∧ c ≠ '.' ∧ c ≠ 'e' ∧ c ≠ 'E') : Stops (c :: s) := by
  intro d hd
  obtain rfl := Option.some.inj hd
  exact h

theorem Stops.append {s t : List Char} (hs : Stops s) (ht : Stops t) : Stops (s ++ t) := by
  cases s with
  | nil => exact ht
  | cons c s => exact hs

theorem stops_of_isSpace {s : List Char} (h : ∀ c ∈ s, isSpace c = true) : Stops s := by
  intro c hc
  have hspace := h c (List.mem_of_mem_head? hc)
  simp only [isSpace, Bool.or_eq_true, beq_iff_eq] at hspace
  obtain ((rfl | rfl) | rfl) | rfl := hspace <;> decide

end Number

theorem integerPart?_repr (n : Nat) {rest : List Char}
    (hrest : ∀ c ∈ rest.head?, c.isDigit = false) :
    integerPart? (n.repr.toList ++ rest) = some (n.repr.toList, rest) := by
  unfold integerPart?
  split
  next t ht =>
    -- a numeral that starts with a zero is the numeral of zero
    obtain ⟨ds, hds, rfl, -⟩ := repr_of_append ht
    have hzero : n = 0 := eq_zero_of_head?_repr (by rw [hds, List.head?_cons])
    subst hzero
    rw [← (List.cons.inj hds).2]
    rfl
  · exact digits?_append (repr_ne_nil n) (fun _ => isDigit_of_mem_repr) hrest

theorem fractionPart?_of_head {s : List Char} (h : ∀ c ∈ s.head?, c ≠ '.') :
    fractionPart? s = some (none, s) := by
  unfold fractionPart?
  split
  · exact absurd rfl (h '.' rfl)
  · rfl

theorem exponentPart?_of_head {s : List Char} (h : ∀ c ∈ s.head?, c ≠ 'e' ∧ c ≠ 'E') :
    exponentPart? s = some (none, s) := by
  cases s with
  | nil => rfl
  | cons c s => exact if_neg (not_or.2 (h c rfl))

theorem exponentPart?_print (exponent : Int) {rest : List Char}
    (hrest : ∀ c ∈ rest.head?, c.isDigit = false) :
    exponentPart? ('e' :: ((if exponent < 0 then ['-'] else []) ++
      exponent.natAbs.repr.toList ++ rest)) = some (some exponent, rest) := by
  have hdigits := digits?_append (repr_ne_nil exponent.natAbs) (fun _ => isDigit_of_mem_repr) hrest
  by_cases hneg : exponent < 0
  · simp only [exponentPart?, if_pos hneg, if_pos, true_or, List.cons_append, List.nil_append,
      hdigits, Option.map_some, ofDigits_repr]
    exact congrArg some (congrArg (Prod.mk · rest) (congrArg some (by omega)))
  · have hnat : (exponent.natAbs : Int) = exponent := by omega
    simp only [exponentPart?, if_neg hneg, true_or, if_pos, List.nil_append]
    split
    next t ht =>
      obtain ⟨_, _, _, hdigit⟩ := repr_of_append ht
      exact absurd hdigit (by decide)
    next t ht =>
      obtain ⟨_, _, _, hdigit⟩ := repr_of_append ht
      exact absurd hdigit (by decide)
    next => rw [hdigits, Option.map_some, ofDigits_repr, hnat]

theorem ofParts?_natural {n : Nat} (h : (Number.natural n).InRange) :
    Number.ofParts? false n.repr.toList none none = some (.natural n) := by
  rw [Number.ofParts?, ofDigits_repr]
  exact if_pos h

theorem ofParts?_negative {n : Nat} (h : (Number.negative n).InRange) :
    Number.ofParts? true n.repr.toList none none = some (.negative n) := by
  rw [Number.ofParts?, ofDigits_repr]
  exact if_pos h

theorem ofParts?_real {minus : Bool} {significand : Nat} {exponent : Int}
    (h : (Number.real minus significand exponent).InRange) :
    Number.ofParts? minus significand.repr.toList none (some exponent) =
      some (.real minus significand exponent) := by
  simp only [Number.ofParts?, Option.getD_none, Option.getD_some, List.append_nil, ofDigits_repr,
    List.length_nil, Int.ofNat_zero, Int.sub_zero]
  exact if_pos h

/-- A sign, digits and an exponent are read as the parts of a number. -/
theorem number?_append (minus : Bool) (n : Nat) {exponent : Option Int} {tail rest : List Char}
    (hdigit : ∀ c ∈ tail.head?, c.isDigit = false) (hpoint : ∀ c ∈ tail.head?, c ≠ '.')
    (hexponent : exponentPart? tail = some (exponent, rest)) :
    number? ((if minus then ['-'] else []) ++ (n.repr.toList ++ tail)) =
      some (Number.ofParts? minus n.repr.toList none exponent, rest) := by
  cases minus with
  | false =>
    rw [if_neg Bool.false_ne_true, List.nil_append, number?]
    · simp only [integerPart?_repr n hdigit, fractionPart?_of_head hpoint, hexponent,
        Option.bind_eq_bind, Option.bind_some, Option.pure_def]
    · intro t ht
      obtain ⟨_, _, _, hc⟩ := repr_of_append ht
      exact absurd hc (by decide)
  | true =>
    simp only [number?, if_pos, List.cons_append, List.nil_append, integerPart?_repr n hdigit,
      fractionPart?_of_head hpoint, hexponent, Option.bind_eq_bind, Option.bind_some,
      Option.pure_def]

/-- A number that is in range reads as itself. -/
theorem number?_print {n : Number} {rest : List Char} (h : n.InRange) (hrest : Number.Stops rest) :
    number? (n.print ++ rest) = some (some n, rest) := by
  have hdigit : ∀ c ∈ rest.head?, c.isDigit = false := fun c hc => (hrest c hc).1
  have hpoint : ∀ c ∈ rest.head?, c ≠ '.' := fun c hc => (hrest c hc).2.1
  have hnone : exponentPart? rest = some (none, rest) :=
    exponentPart?_of_head fun c hc => (hrest c hc).2.2
  cases n with
  | natural n =>
    rw [← ofParts?_natural h]
    exact number?_append false n hdigit hpoint hnone
  | negative n =>
    rw [← ofParts?_negative h]
    exact number?_append true n hdigit hpoint hnone
  | real minus significand exponent =>
    have hsome := exponentPart?_print exponent hdigit
    rw [List.append_assoc] at hsome
    simp only [Number.print, List.append_assoc, List.cons_append]
    rw [number?_append minus significand (by simp) (by simp) hsome, ofParts?_real h]

theorem isSpace_of_isDigit {c : Char} (hc : c.isDigit = true ∨ c = '-') : isSpace c = false := by
  rw [Bool.eq_false_iff]
  intro h
  simp only [isSpace, Bool.or_eq_true, beq_iff_eq] at h
  obtain ((rfl | rfl) | rfl) | rfl := h <;> revert hc <;> decide

theorem print_eq_cons (n : Number) :
    ∃ c s, n.print = c :: s ∧ (c.isDigit = true ∨ c = '-') := by
  have hrepr (n : Nat) (rest : List Char) :
      ∃ c s, n.repr.toList ++ rest = c :: s ∧ (c.isDigit = true ∨ c = '-') := by
    obtain ⟨c, s, hs⟩ := List.exists_cons_of_ne_nil (repr_ne_nil n)
    have hc : c ∈ n.repr.toList := hs ▸ List.mem_cons_self
    exact ⟨c, s ++ rest, by rw [hs, List.cons_append], .inl (isDigit_of_mem_repr hc)⟩
  cases n with
  | natural n =>
    simpa [Number.print] using hrepr n []
  | negative n => exact ⟨'-', _, rfl, .inr rfl⟩
  | real minus significand exponent =>
    cases minus with
    | false => simpa [Number.print] using hrepr significand _
    | true => exact ⟨'-', _, rfl, .inr rfl⟩

/-! ### Tokens -/

namespace Token

theorem first_quote (s : String) (rest : List Char) :
    first (quote s ++ rest) = (.string (some s), rest) := by
  have hbody := stringBody?_flatMap s.toList rest
  simp only [quote, List.cons_append, List.append_assoc, List.nil_append, first, hbody,
    text?_map_char, Option.map_some, String.ofList_toList]

theorem first_number {c : Char} {s rest : List Char} {n : Option Number}
    (hc : c.isDigit = true ∨ c = '-') (h : number? (c :: s) = some (n, rest)) :
    first (c :: s) = (.number n, rest) := by
  unfold first
  split <;> simp_all

theorem scan_eq (s : List Char) :
    scan s = match s.dropWhile isSpace with
      | [] => []
      | c :: rest => (first (c :: rest)).1 :: scan (first (c :: rest)).2 := by
  rw [scan]
  split
  · next h => rw [h]
  · next h => rw [h]

theorem scan_space {c : Char} (s : List Char) (hc : isSpace c = true) : scan (c :: s) = scan s := by
  rw [scan_eq, List.dropWhile_cons_of_pos hc, ← scan_eq]

theorem scan_blanks {s : List Char} (h : ∀ c ∈ s, isSpace c = true) : scan s = [] := by
  induction s with
  | nil => exact scan_eq []
  | cons c s ih =>
    have hs := ih fun d hd => h d (List.mem_cons_of_mem c hd)
    rw [scan_space s (h c List.mem_cons_self), hs]

theorem scan_of_first {c : Char} {s rest : List Char} {t : Token} (hc : isSpace c = false)
    (h : first (c :: s) = (t, rest)) : scan (c :: s) = t :: scan rest := by
  rw [scan_eq, List.dropWhile_cons_of_neg (Bool.not_eq_true _ ▸ hc)]
  simp only [h]

end Token

/-- A text is scanned as these tokens, wherever it stands before what no number goes on with. -/
def Writes (s : List Char) (ts : List Token) : Prop :=
  ∀ rest, Number.Stops rest → Token.scan (s ++ rest) = ts ++ Token.scan rest

theorem Writes.nil : Writes [] [] := fun _ _ => rfl

theorem Writes.append {s s' : List Char} {ts ts' : List Token} (hs : Writes s ts)
    (hs' : Writes s' ts') (h : Number.Stops s') : Writes (s ++ s') (ts ++ ts') := by
  intro rest hrest
  rw [List.append_assoc, List.append_assoc, hs _ (h.append hrest), hs' rest hrest]

theorem Writes.space {c : Char} {s : List Char} {ts : List Token} (hc : isSpace c = true)
    (hs : Writes s ts) : Writes (c :: s) ts := by
  intro rest hrest
  rw [List.cons_append, Token.scan_space _ hc, hs rest hrest]

theorem Writes.newLine (level : Nat) {s : List Char} {ts : List Token} (hs : Writes s ts) :
    Writes (newLine level ++ s) ts := by
  refine .space rfl ?_
  induction 2 * level with
  | zero => exact hs
  | succ n ih => exact .space rfl ih

/-- A character that is a token of its own. -/
theorem Writes.cons {c : Char} {t : Token} {s : List Char} {ts : List Token}
    (hc : isSpace c = false) (ht : ∀ rest, Token.first (c :: rest) = (t, rest))
    (hs : Writes s ts) : Writes (c :: s) (t :: ts) := by
  intro rest hrest
  rw [List.cons_append, Token.scan_of_first hc (ht _), hs rest hrest, List.cons_append]

/-- A text that is one token. -/
theorem Writes.singleton {c : Char} {s : List Char} {t : Token} (hc : isSpace c = false)
    (ht : ∀ rest, Number.Stops rest → Token.first (c :: s ++ rest) = (t, rest)) :
    Writes (c :: s) [t] :=
  fun rest hrest => Token.scan_of_first hc (ht rest hrest)

theorem writes_quote (s : String) : Writes (quote s) [.string (some s)] :=
  .singleton rfl fun rest _ => Token.first_quote s rest

theorem writes_print {n : Number} (h : n.InRange) : Writes n.print [.number (some n)] := by
  obtain ⟨c, s, hs, hc⟩ := print_eq_cons n
  rw [hs]
  refine .singleton (isSpace_of_isDigit hc) fun rest hrest => Token.first_number hc ?_
  have hnumber := number?_print h hrest
  rwa [hs] at hnumber

end Json

end SnippetCheck
