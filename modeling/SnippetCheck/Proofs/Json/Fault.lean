import SnippetCheck.Proofs.Json.Grammar
import SnippetCheck.Proofs.Json.Record
import SnippetCheck.Proofs.Json.Spread

/-! What makes a record unreadable: a declared name that an object gives twice, or a value of a kind
that its field cannot take. A word is the one kind for which it matters how a number is written. -/

namespace SnippetCheck.Json

open Numeral

/-! ### Kinds of values -/

/-- What the field of a record can take. -/
inductive Kind where
  | flag
  | text
  /-- A number that is written in digits only and has at most 64 bits. -/
  | word
  | list
  | record
deriving DecidableEq, Repr

def Kind.takes : Kind → Json → Bool
  | .flag, .bool _ => true
  | .text, .string _ => true
  | .word, .number (.natural n) => n ≤ wordMax
  | .list, .array _ => true
  | .record, .object _ => true
  | .record, .array _ => true
  | _, _ => false

/-- A decoder takes no values but those of a kind. -/
def Decoder.Only (kind : Kind) (d : Decoder α) : Prop :=
  ∀ n v, kind.takes v = false → d n v = none

namespace Decoder

theorem only_flag : Only .flag flag := by
  intro n v h
  cases v with
  | bool b => cases h
  | _ => rfl

theorem only_text : Only .text text := by
  intro n v h
  cases v with
  | string s => cases h
  | _ => rfl

theorem only_word : Only .word word := by
  intro n v h
  cases v with
  | number m =>
    cases m with
    | natural k => exact if_neg (by simpa [Kind.takes] using h)
    | _ => rfl
  | _ => rfl

theorem only_list (d : Decoder α) : Only .list (list d) := by
  intro n v h
  cases v with
  | array items => cases h
  | _ => cases n <;> rfl

theorem only_record (names : List String) (build : Nat → (String → Slot) → Option α) :
    Only .record (record names build) := by
  intro n v h
  cases v with
  | array items => cases h
  | object members => cases h
  | _ => cases n <;> rfl

theorem Only.optional {kind : Kind} {d : Decoder α} (hd : Only kind d) {v : Json} (hv : v ≠ .null)
    (h : kind.takes v = false) (n : Nat) : d.optional n v = none := by
  have hnone : (d n v).map some = none := by rw [hd n v h, Option.map_none]
  cases v with
  | null => exact absurd rfl hv
  | _ => exact hnone

end Decoder

/-! ### Words -/

theorem takes_word_ofNumber? {value : Option Number} :
    Kind.word.takes (ofNumber? value) = true ↔
      ∃ n, value = some (.natural n) ∧ n ≤ wordMax := by
  cases value with
  | none => simp [ofNumber?, Kind.takes]
  | some m => cases m <;> simp [ofNumber?, Kind.takes]

theorem not_takes_word_ofParts? {negative : Bool} {whole : List Char}
    {fraction : Option (List Char)} {exponent : Option Int}
    (h : negative = true ∨ fraction.isSome = true ∨ exponent.isSome = true) :
    Kind.word.takes (ofNumber? (Number.ofParts? negative whole fraction exponent)) = false := by
  rw [Bool.eq_false_iff]
  intro htakes
  obtain ⟨n, hn, -⟩ := takes_word_ofNumber?.1 htakes
  unfold Number.ofParts? at hn
  dsimp only at hn
  split at hn
  · rcases h with rfl | h | h
    · rw [if_pos rfl] at hn
      split at hn
      · cases hn
      · split at hn <;> cases hn
    · cases h
    · cases h
  · split at hn <;> cases hn

theorem digits?_eq_some {s ds rest : List Char} (h : digits? s = some (ds, rest)) :
    s = ds ++ rest ∧ ds.all Char.isDigit = true := by
  unfold digits? at h
  split at h
  · cases h
  · obtain ⟨rfl, rfl⟩ := Prod.mk.inj (Option.some.inj h)
    refine ⟨List.takeWhile_append_dropWhile.symm, List.all_eq_true.2 fun c => ?_⟩
    exact List.mem_takeWhile_imp

theorem integerPart?_eq_some {s ds rest : List Char} (h : integerPart? s = some (ds, rest)) :
    s = ds ++ rest ∧ ds.all Char.isDigit = true := by
  unfold integerPart? at h
  split at h
  · obtain ⟨rfl, rfl⟩ := Prod.mk.inj (Option.some.inj h)
    exact ⟨rfl, rfl⟩
  · exact digits?_eq_some h

theorem isSome_of_exponentPart? {c : Char} (hc : c = 'e' ∨ c = 'E') {s rest : List Char}
    {exponent : Option Int} (h : exponentPart? (c :: s) = some (exponent, rest)) :
    exponent.isSome = true := by
  rw [exponentPart?_cons hc] at h
  unfold exponentDigits? at h
  split at h
  all_goals
    obtain ⟨_, -, heq⟩ := Option.map_eq_some_iff.1 h
    obtain ⟨rfl, rfl⟩ := Prod.mk.inj heq
    rfl

/-- What goes on after the digits of a number starts with a point or the letter of an exponent. -/
theorem isSome_of_parts {c : Char} {s s' : List Char} {fraction : Option (List Char)}
    {exponent : Option Int} (hfraction : fractionPart? (c :: s) = some (fraction, s'))
    (hexponent : exponentPart? s' = some (exponent, [])) :
    c.isDigit = false ∧ (fraction.isSome = true ∨ exponent.isSome = true) := by
  rcases eq_cons_or_head_ne '.' (c :: s) with ⟨t, hs⟩ | hpoint
  · obtain ⟨rfl, rfl⟩ := List.cons.inj hs
    obtain ⟨_, -, heq⟩ := Option.map_eq_some_iff.1 hfraction
    obtain ⟨rfl, rfl⟩ := Prod.mk.inj heq
    exact ⟨rfl, .inl rfl⟩
  · rw [fractionPart?_of_head hpoint] at hfraction
    obtain ⟨rfl, rfl⟩ := Prod.mk.inj (Option.some.inj hfraction)
    by_cases hc : c = 'e' ∨ c = 'E'
    · refine ⟨?_, .inr (isSome_of_exponentPart? hc hexponent)⟩
      rcases hc with rfl | rfl <;> rfl
    · have hnone := exponentPart?_of_head (s := c :: s) fun d hd => by
        obtain rfl := Option.some.inj hd
        exact not_or.1 hc
      rw [hnone] at hexponent
      cases hexponent

theorem takes_word_ofParts?_whole {whole : List Char} :
    Kind.word.takes (ofNumber? (Number.ofParts? false whole none none)) = true ↔
      ofDigits whole ≤ wordMax := by
  rw [takes_word_ofNumber?]
  simp only [Number.ofParts?, Bool.false_eq_true, if_false]
  split
  · next hle => simp [hle]
  · next hlt =>
    refine iff_of_false ?_ hlt
    rintro ⟨n, hn, -⟩
    split at hn <;> cases hn

/-- A number is a word exactly if it is written in digits only and is not too large: a sign, a point
and an exponent each make it something else. -/
theorem takes_word_iff {literal : List Char} {value : Option Number}
    (h : number? literal = some (value, [])) :
    Kind.word.takes (ofNumber? value) = true ↔
      literal.all Char.isDigit = true ∧ ofDigits literal ≤ wordMax := by
  rcases eq_cons_or_head_ne '-' literal with ⟨t, rfl⟩ | hminus
  · rw [number?_minus] at h
    simp only [unsigned?, bind, Option.bind_eq_some_iff, pure, Option.some.injEq,
      Prod.mk.injEq] at h
    obtain ⟨_, -, _, -, _, -, rfl, -⟩ := h
    rw [not_takes_word_ofParts? (.inl rfl)]
    simp
  · rw [number?_of_head hminus] at h
    simp only [unsigned?, bind, Option.bind_eq_some_iff, pure, Option.some.injEq,
      Prod.mk.injEq] at h
    obtain ⟨⟨whole, s⟩, hwhole, ⟨fraction, s'⟩, hfraction, ⟨exponent, _⟩, hexponent, rfl, rfl⟩ := h
    obtain ⟨rfl, hdigits⟩ := integerPart?_eq_some hwhole
    cases s with
    | nil =>
      obtain ⟨rfl, rfl⟩ := Prod.mk.inj (Option.some.inj hfraction)
      obtain ⟨rfl, -⟩ := Prod.mk.inj (Option.some.inj hexponent)
      rw [List.append_nil, takes_word_ofParts?_whole, and_iff_right hdigits]
    | cons c s =>
      obtain ⟨hc, hsome⟩ := isSome_of_parts hfraction hexponent
      rw [not_takes_word_ofParts? (.inr hsome)]
      simp [hc]

/-! ### Faulty records -/

/-- What is given for a field with a name: a member of that name of an object, or the item in that
place of an array. -/
inductive Gives (names : List String) (k : String) (v : Json) : Json → Prop
  | member {members : List (String × Json)} (h : (k, v) ∈ members) :
    Gives names k v (.object members)
  | item {items : List Json} {i : Nat} (hk : names[i]? = some k) (hv : items[i]? = some v) :
    Gives names k v (.array items)

/-- One of the fields makes the record unreadable: an object gives it twice, or its value is of the
wrong kind. A value that is `null` counts as none. -/
inductive Faulty (kinds : List (String × Kind)) : Json → Prop
  | twice {before between after : List (String × Json)} {k : String} {v v' : Json}
    (hk : k ∈ kinds.map Prod.fst) :
    Faulty kinds (.object (before ++ (k, v) :: between ++ (k, v') :: after))
  | kind {j v : Json} {k : String} {kind : Kind} (hk : (k, kind) ∈ kinds)
    (h : Gives (kinds.map Prod.fst) k v j) (hv : v ≠ .null) (hkind : kind.takes v = false) :
    Faulty kinds j

section Faulty

variable {names : List String} {k : String} {v j : Json} {f : String → Slot}

theorem fields?_object_eq_some {members : List (String × Json)}
    (h : fields? names (.object members) = some f) :
    (∀ k ∈ names, (given members k).length ≤ 1) ∧
      ∀ k, f k = if k ∈ names then .ofValues (given members k) else .missing := by
  rw [fields?_object] at h
  split at h
  · cases h
  · next hone =>
    refine ⟨fun k hk => ?_, fun k => by rw [← Option.some.inj h]⟩
    refine Nat.not_lt.1 fun hlt => hone ?_
    exact List.any_eq_true.2 ⟨k, hk, by simpa using hlt⟩

theorem fields?_array_eq_some {items : List Json} (h : fields? names (.array items) = some f)
    (k : String) :
    f k = ((names.zip (items.map .given ++
      List.replicate (names.length - items.length) .cut)).lookup k).getD .missing := by
  rw [fields?_array] at h
  split at h
  · cases h
  · rw [← Option.some.inj h]

theorem lookup_zip_of_nodup {α : Type} {names : List String} {as : List α} (h : names.Nodup)
    {i : Nat} {k : String} {a : α} (hk : names[i]? = some k) (ha : as[i]? = some a) :
    (names.zip as).lookup k = some a := by
  induction names generalizing as i with
  | nil => cases hk
  | cons name names ih =>
    obtain ⟨hname, hnames⟩ := List.nodup_cons.1 h
    cases as with
    | nil => cases ha
    | cons b as =>
      cases i with
      | zero =>
        obtain rfl : name = k := by simpa using hk
        obtain rfl : b = a := by simpa using ha
        simp
      | succ i =>
        have hne : (k == name) = false := by
          have hmem : k ∈ names := List.mem_of_getElem? (by simpa using hk)
          simpa using ne_of_mem_of_not_mem hmem hname
        rw [List.zip_cons_cons, List.lookup_cons, hne]
        exact ih hnames (by simpa using hk) (by simpa using ha)

theorem exists_of_lookup_zip {α : Type} {names : List String} {as : List α} {k : String} {a : α}
    (h : (names.zip as).lookup k = some a) : ∃ i : Nat, names[i]? = some k ∧ as[i]? = some a := by
  obtain ⟨before, after, hzip, -⟩ := List.lookup_eq_some_iff.1 h
  have hget : (names.zip as)[before.length]? = some (k, a) := by
    rw [hzip, List.getElem?_append_right (Nat.le_refl _), Nat.sub_self, List.getElem?_cons_zero]
  exact ⟨before.length, List.getElem?_zip_eq_some.1 hget⟩

/-- The values in the fields of an array are its items. -/
theorem getElem?_slots {items : List Json} {count i : Nat} :
    (items.map Slot.given ++ List.replicate count .cut)[i]? = some (.given v) ↔
      items[i]? = some v := by
  rcases Nat.lt_or_ge i items.length with hlt | hge
  · rw [List.getElem?_append_left (by simpa using hlt), List.getElem?_map]
    simp
  · rw [List.getElem?_append_right (by simpa using hge), List.getElem?_eq_none hge]
    refine iff_of_false (fun hv => ?_) nofun
    cases List.eq_of_mem_replicate (List.mem_of_getElem? hv)

/-- A record that can be read at all has what is given for a field in that field. -/
theorem Gives.eq_given (h : Gives names k v j) (hnodup : names.Nodup) (hk : k ∈ names)
    (hf : fields? names j = some f) : f k = .given v := by
  cases h with
  | @member members h =>
    obtain ⟨hone, heq⟩ := fields?_object_eq_some hf
    have hmem := mem_given.2 h
    rw [heq, if_pos hk]
    have hlength := hone k hk
    match hvs : given members k with
    | [] =>
      rw [hvs] at hmem
      cases hmem
    | [w] =>
      rw [hvs] at hmem
      rw [List.mem_singleton.1 hmem]
      rfl
    | _ :: _ :: _ =>
      rw [hvs] at hlength
      simp at hlength
  | @item items i hi hv =>
    rw [fields?_array_eq_some hf, lookup_zip_of_nodup hnodup hi (getElem?_slots.2 hv)]
    rfl

theorem gives_of_eq_given (hf : fields? names j = some f) (h : f k = .given v) :
    Gives names k v j := by
  cases j with
  | object members =>
    rw [(fields?_object_eq_some hf).2] at h
    split at h
    · refine .member (mem_given.1 ?_)
      cases hvs : given members k with
      | nil =>
        rw [hvs] at h
        cases h
      | cons w vs =>
        rw [hvs] at h
        obtain rfl := Slot.given.inj h
        exact List.mem_cons_self
    · cases h
  | array items =>
    rw [fields?_array_eq_some hf] at h
    generalize hl : List.lookup k _ = slot at h
    cases slot with
    | none => cases h
    | some s =>
      obtain rfl : s = .given v := h
      obtain ⟨i, hk, hv⟩ := exists_of_lookup_zip hl
      exact .item hk (getElem?_slots.1 hv)
  | _ => cases hf

theorem record_eq_none_of_twice {build : Nat → (String → Slot) → Option α}
    {before between after : List (String × Json)} {v' : Json} (hk : k ∈ names) (n : Nat) :
    Decoder.record names build n (.object (before ++ (k, v) :: between ++ (k, v') :: after)) =
      none := by
  cases n with
  | zero => rfl
  | succ n =>
    have hmany : 1 < (given (before ++ (k, v) :: between ++ (k, v') :: after) k).length := by
      simp only [given_append, given_cons_self, List.length_append, List.length_cons]
      omega
    rw [record_succ, fields?_object, if_pos]
    · rfl
    · exact List.any_eq_true.2 ⟨k, hk, decide_eq_true hmany⟩

/-- A record is not read if its value for some field makes it unreadable. -/
theorem record_eq_none_of_gives {build : Nat → (String → Slot) → Option α}
    (h : Gives names k v j) (hnodup : names.Nodup) (hk : k ∈ names)
    (hbuild : ∀ n f, f k = .given v → build n f = none) (n : Nat) :
    Decoder.record names build n j = none := by
  cases n with
  | zero => rfl
  | succ n =>
    rw [record_succ]
    cases hf : fields? names j with
    | none => rfl
    | some f => exact hbuild n f (h.eq_given hnodup hk hf)

/-- A record is not read if it cannot do without a field that is not given. -/
theorem record_eq_none_of_missing {build : Nat → (String → Slot) → Option α}
    (h : ∀ v, ¬ Gives names k v j)
    (hbuild : ∀ n f, (∀ v, f k ≠ .given v) → build n f = none) (n : Nat) :
    Decoder.record names build n j = none := by
  cases n with
  | zero => rfl
  | succ n =>
    rw [record_succ]
    cases hf : fields? names j with
    | none => rfl
    | some f => exact hbuild n f fun v hv => h v (gives_of_eq_given hf hv)

/-- A faulty record is not read, if each of its fields takes values of its kind only. -/
theorem Faulty.record_eq_none {kinds : List (String × Kind)}
    {build : Nat → (String → Slot) → Option α} (h : Faulty kinds j)
    (hnodup : (kinds.map Prod.fst).Nodup)
    (hbuild : ∀ k kind v, (k, kind) ∈ kinds → v ≠ .null → kind.takes v = false →
      ∀ n f, f k = .given v → build n f = none) (n : Nat) :
    Decoder.record (kinds.map Prod.fst) build n j = none := by
  cases h with
  | twice hk => exact record_eq_none_of_twice hk n
  | @kind j v k kind hk hgives hv hkind =>
    exact record_eq_none_of_gives hgives hnodup (List.mem_map_of_mem hk)
      (hbuild k kind v hk hv hkind) n

end Faulty

end SnippetCheck.Json
