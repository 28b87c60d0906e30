import Mathlib.Data.List.TakeWhile
import Mathlib.Data.Option.Basic
import SnippetCheck.Dependency
import SnippetCheck.Proofs.Numeral
import SnippetCheck.Proofs.Text.Layout

/-! Dependencies as they are written. `Separated` tells where a text falls apart into a name and a
version, and the reader takes the words that stand there between blanks. So `name=version` is read
as it is meant whatever the version holds, while `name@version` is so only if the version holds no
`=`: the first `=` of a text separates, even behind an `@`. -/

namespace SnippetCheck

/-! ### Words between blanks -/

namespace Text

/-- A word: it is not empty and has blanks at neither end. -/
structure Tight (s : List Char) : Prop where
  ne_nil : s ≠ []
  head : ∀ c ∈ s.head?, isBlank c = false
  last : ∀ c ∈ s.getLast?, isBlank c = false

theorem tight_iff {s : List Char} :
    Tight s ↔ s ≠ [] ∧ s.head?.all (!isBlank ·) = true ∧ s.getLast?.all (!isBlank ·) = true := by
  simp only [Option.all_eq_true, Bool.not_eq_true']
  exact ⟨fun h => ⟨h.ne_nil, h.head, h.last⟩, fun ⟨hne, hhead, hlast⟩ => ⟨hne, hhead, hlast⟩⟩

instance (s : List Char) : Decidable (Tight s) := decidable_of_iff' _ tight_iff

/-- The second text is the first one with blanks around it. -/
def Within (word s : List Char) : Prop :=
  ∃ before after, s = before ++ word ++ after ∧ (∀ c ∈ before, isBlank c = true) ∧
    ∀ c ∈ after, isBlank c = true

theorem Within.mem_iff {word s : List Char} (h : Within word s) {c : Char}
    (hc : isBlank c = false) : c ∈ s ↔ c ∈ word := by
  obtain ⟨before, after, rfl, hbefore, hafter⟩ := h
  have hbefore : c ∉ before := fun hmem => absurd (hbefore c hmem) (by simp [hc])
  have hafter : c ∉ after := fun hmem => absurd (hafter c hmem) (by simp [hc])
  simp [hbefore, hafter]

theorem within_trim (s : List Char) : Within (trim s) s := by
  obtain ⟨after, hs, hafter⟩ := trimEnd_append_blanks s
  obtain ⟨before, ht, hbefore⟩ := blanks_append_trimStart (trimEnd s)
  exact ⟨before, after, by rw [trim, ← ht, ← hs], hbefore, hafter⟩

theorem tight_trim {s : List Char} (h : trim s ≠ []) : Tight (trim s) := by
  refine ⟨h, head?_trimStart _, ?_⟩
  rw [trim, trimStart_trimEnd]
  exact getLast?_trimEnd _

/-- What trimming leaves is the word that stands in a text, if there is one. -/
theorem trim_eq_iff {word s : List Char} :
    trim s = word ∧ word ≠ [] ↔ Tight word ∧ Within word s := by
  constructor
  · rintro ⟨rfl, hne⟩
    exact ⟨tight_trim hne, within_trim s⟩
  · rintro ⟨hword, before, after, rfl, hbefore, hafter⟩
    refine ⟨?_, hword.ne_nil⟩
    rw [trim, trimEnd_append_of_blanks _ hafter, trimStart_trimEnd,
      trimStart_append_of_blanks hbefore, trimStart_of_head? hword.head,
      trimEnd_of_getLast? hword.last]

theorem trim_eq_nil_iff {s : List Char} : trim s = [] ↔ ∀ c ∈ s, isBlank c = true := by
  constructor
  · intro h
    obtain ⟨before, after, hs, hbefore, hafter⟩ := within_trim s
    rw [h, List.append_nil] at hs
    rw [hs]
    exact List.forall_mem_append.2 ⟨hbefore, hafter⟩
  · intro h
    rw [trim, trimEnd_eq_nil h, trimStart_nil]

end Text

namespace Dependency

open Text

/-! ### Separators -/

theorem splitAt?_append {sep : Char} {before : List Char} (h : sep ∉ before) (after : List Char) :
    splitAt? sep (before ++ sep :: after) = some (before, after) := by
  obtain ⟨htake, hdrop⟩ := span_separator h after
  rw [splitAt?, hdrop, htake]

theorem splitAt?_of_not_mem {sep : Char} {s : List Char} (h : sep ∉ s) : splitAt? sep s = none := by
  have hdrop : s.dropWhile (· != sep) = [] :=
    List.dropWhile_eq_nil_iff.2 fun c hc => bne_iff_ne.2 fun heq => h (heq ▸ hc)
  rw [splitAt?, hdrop]

/-- Where a text falls apart: at its first `=`, or at its first `@` if it holds no `=`. -/
inductive Separated : List Char → List Char → List Char → Prop
  | equals {n v : List Char} : '=' ∉ n → Separated (n ++ '=' :: v) n v
  | atSign {n v : List Char} : '@' ∉ n → '=' ∉ n → '=' ∉ v → Separated (n ++ '@' :: v) n v

theorem Separated.split_eq {s n v : List Char} (h : Separated s n v) :
    (splitAt? '=' s).or (splitAt? '@' s) = some (n, v) := by
  cases h with
  | equals hn => rw [splitAt?_append hn, Option.some_or]
  | atSign hat hn hv =>
    have hequals : '=' ∉ n ++ '@' :: v := by simp [hn, hv]
    rw [splitAt?_of_not_mem hequals, Option.none_or, splitAt?_append hat]

/-- Behind an `@`, too, the first `=` separates. -/
theorem separated_behind {n a : List Char} (hn : '=' ∉ n) (ha : '=' ∉ a) (b : List Char) :
    Separated (n ++ '@' :: (a ++ '=' :: b)) (n ++ '@' :: a) b := by
  have hbehind : '=' ∉ n ++ '@' :: a := by simp [hn, ha]
  simpa using Separated.equals (v := b) hbehind

/-! ### The reader -/

variable {text : String} {n v : List Char}

/-- The reader takes the two words that stand where the text falls apart. -/
theorem ofText?_eq_some_iff (h : Separated text.toList n v) {d : Dependency} :
    ofText? text = some d ↔ (Tight d.name.toList ∧ Within d.name.toList n) ∧
      Tight d.version.toList ∧ Within d.version.toList v := by
  have hread : ofText? text = some d ↔ (trim n ≠ [] ∧ trim v ≠ []) ∧
      ⟨String.ofList (trim n), String.ofList (trim v)⟩ = d := by
    simp only [ofText?, h.split_eq, Option.bind_eq_bind, Option.bind_some, Option.bind_eq_some_iff,
      Option.guard_eq_some', Option.pure_def, Option.some.injEq, exists_const]
  rw [hread, ← trim_eq_iff, ← trim_eq_iff]
  constructor
  · rintro ⟨⟨hn, hv⟩, rfl⟩
    exact ⟨⟨String.toList_ofList.symm, by rwa [String.toList_ofList]⟩,
      String.toList_ofList.symm, by rwa [String.toList_ofList]⟩
  · rintro ⟨⟨hn, hname⟩, hv, hversion⟩
    rw [hn, hv, String.ofList_toList, String.ofList_toList]
    exact ⟨⟨hname, hversion⟩, rfl⟩

theorem ofText?_eq_none_iff (h : Separated text.toList n v) :
    ofText? text = none ↔ (∀ c ∈ n, isBlank c = true) ∨ ∀ c ∈ v, isBlank c = true := by
  rw [← trim_eq_nil_iff, ← trim_eq_nil_iff, Option.eq_none_iff_forall_ne_some]
  constructor
  · intro hnone
    by_contra hwords
    obtain ⟨hn, hv⟩ := not_or.1 hwords
    refine hnone ⟨String.ofList (trim n), String.ofList (trim v)⟩ ((ofText?_eq_some_iff h).2 ?_)
    simp only [String.toList_ofList]
    exact ⟨⟨tight_trim hn, within_trim n⟩, tight_trim hv, within_trim v⟩
  · intro hblank d hd
    obtain ⟨hname, hversion⟩ := (ofText?_eq_some_iff h).1 hd
    obtain ⟨hn, hname⟩ := trim_eq_iff.2 hname
    obtain ⟨hv, hversion⟩ := trim_eq_iff.2 hversion
    exact hblank.elim (fun h => hname (hn ▸ h)) (fun h => hversion (hv ▸ h))

theorem ofText?_of_no_separator (hequals : '=' ∉ text.toList) (hat : '@' ∉ text.toList) :
    ofText? text = none := by
  simp only [ofText?, splitAt?_of_not_mem hequals, splitAt?_of_not_mem hat, Option.or_none,
    Option.bind_eq_bind, Option.bind_none]

/-! ### Both spellings -/

/-- A dependency whose name holds no sign that separates, and texts that hold its name and its
version between blanks. -/
structure Parts (d : Dependency) (n v : List Char) : Prop where
  name : Tight d.name.toList
  equals_not_mem : '=' ∉ d.name.toList
  at_not_mem : '@' ∉ d.name.toList
  version : Tight d.version.toList
  name_within : Within d.name.toList n
  version_within : Within d.version.toList v

variable {d : Dependency}

theorem isBlank_equals : isBlank '=' = false := by decide

theorem isBlank_at : isBlank '@' = false := by decide

theorem Parts.equals_not_mem_left (h : Parts d n v) : '=' ∉ n :=
  (h.name_within.mem_iff isBlank_equals).not.2 h.equals_not_mem

theorem Parts.ofText?_equals (h : Parts d n v) (htext : text.toList = n ++ '=' :: v) :
    ofText? text = some d := by
  have hsep : Separated text.toList n v := htext ▸ .equals h.equals_not_mem_left
  exact (ofText?_eq_some_iff hsep).2 ⟨⟨h.name, h.name_within⟩, h.version, h.version_within⟩

theorem Parts.ofText?_atSign_iff (h : Parts d n v) (htext : text.toList = n ++ '@' :: v) :
    ofText? text = some d ↔ '=' ∉ d.version.toList := by
  rw [← h.version_within.mem_iff isBlank_equals]
  constructor
  · intro hread hmem
    -- the name that is read holds the `@`
    obtain ⟨a, b, rfl, ha⟩ := List.eq_append_cons_of_mem hmem
    have hsep : Separated text.toList (n ++ '@' :: a) b :=
      htext ▸ separated_behind h.equals_not_mem_left ha b
    obtain ⟨⟨-, hname⟩, -⟩ := (ofText?_eq_some_iff hsep).1 hread
    exact h.at_not_mem ((hname.mem_iff isBlank_at).1 (by simp))
  · intro hv
    have hat : '@' ∉ n := (h.name_within.mem_iff isBlank_at).not.2 h.at_not_mem
    have hsep : Separated text.toList n v := htext ▸ .atSign hat h.equals_not_mem_left hv
    exact (ofText?_eq_some_iff hsep).2 ⟨⟨h.name, h.name_within⟩, h.version, h.version_within⟩

/-- A text with an `@` and a blank part is refused, unless the version, as it is, holds an `=` and
more than blanks behind the first one. -/
theorem ofText?_atSign_eq_none_iff (hn : '=' ∉ n) (hat : '@' ∉ n)
    (hblank : (∀ c ∈ n, isBlank c = true) ∨ ∀ c ∈ v, isBlank c = true)
    (htext : text.toList = n ++ '@' :: v) :
    ofText? text = none ↔
      ∀ a b, v = a ++ '=' :: b → '=' ∉ a → ∀ c ∈ b, isBlank c = true := by
  constructor
  · rintro hnone a b rfl ha
    have hsep : Separated text.toList (n ++ '@' :: a) b := htext ▸ separated_behind hn ha b
    refine ((ofText?_eq_none_iff hsep).1 hnone).resolve_left fun hname => ?_
    exact absurd (hname '@' (by simp)) (by simp [isBlank_at])
  · intro hbehind
    by_cases hv : '=' ∈ v
    · obtain ⟨a, b, rfl, ha⟩ := List.eq_append_cons_of_mem hv
      have hsep : Separated text.toList (n ++ '@' :: a) b := htext ▸ separated_behind hn ha b
      exact (ofText?_eq_none_iff hsep).2 (.inr (hbehind a b rfl ha))
    · exact (ofText?_eq_none_iff (htext ▸ .atSign hat hn hv)).2 hblank

/-- `name=version` is read as it is meant, and `name@version` is so if and only if the version holds
no `=`. A text is refused if one of its parts is blank, unless an `=` behind its `@` makes other
parts, and if nothing separates parts in it. -/
theorem spellings_agree (text : String) :
    (∀ d n v, Parts d n v →
      (text.toList = n ++ '=' :: v → ofText? text = some d) ∧
      (text.toList = n ++ '@' :: v → (ofText? text = some d ↔ '=' ∉ d.version.toList))) ∧
    (∀ n v, '=' ∉ n → (∀ c ∈ n, isBlank c = true) ∨ (∀ c ∈ v, isBlank c = true) →
      (text.toList = n ++ '=' :: v → ofText? text = none) ∧
      (text.toList = n ++ '@' :: v → '@' ∉ n → (ofText? text = none ↔
        ∀ a b, v = a ++ '=' :: b → '=' ∉ a → ∀ c ∈ b, isBlank c = true))) ∧
    ('=' ∉ text.toList → '@' ∉ text.toList → ofText? text = none) := by
  refine ⟨fun d n v h => ⟨h.ofText?_equals, h.ofText?_atSign_iff⟩, ?_, ofText?_of_no_separator⟩
  intro n v hn hblank
  refine ⟨fun htext => ?_, fun htext hat => ofText?_atSign_eq_none_iff hn hat hblank htext⟩
  exact (ofText?_eq_none_iff (htext ▸ .equals hn)).2 hblank

/-- A version with an `=` in the first spelling, one with an `@` in the second, and none. -/
theorem spellings_agree_spaced :
    Parts ⟨"serde", ">=0.8, <0.9"⟩ "\u00a0serde ".toList "\t>=0.8, <0.9 ".toList ∧
      Parts ⟨"serde", "1.2@beta"⟩ "\u00a0serde ".toList "\t1.2@beta ".toList ∧
      ofText? "\u00a0serde =\t>=0.8, <0.9 " = some ⟨"serde", ">=0.8, <0.9"⟩ ∧
      ofText? "\u00a0serde @\t1.2@beta " = some ⟨"serde", "1.2@beta"⟩ ∧
      ofText? "\u00a0serde =\t " = none := by
  have hname : Within "serde".toList "\u00a0serde ".toList :=
    ⟨['\u00a0'], [' '], by decide +kernel, by simp [isBlank], by simp [isBlank]⟩
  have hversion (word : List Char) : Within word ('\t' :: word ++ [' ']) :=
    ⟨['\t'], [' '], rfl, by simp [isBlank], by simp [isBlank]⟩
  have hequals : Parts ⟨"serde", ">=0.8, <0.9"⟩ "\u00a0serde ".toList "\t>=0.8, <0.9 ".toList :=
    ⟨by decide +kernel, by decide +kernel, by decide +kernel, by decide +kernel, hname,
      hversion _⟩
  have hat : Parts ⟨"serde", "1.2@beta"⟩ "\u00a0serde ".toList "\t1.2@beta ".toList :=
    ⟨by decide +kernel, by decide +kernel, by decide +kernel, by decide +kernel, hname,
      hversion _⟩
  obtain ⟨hread, -⟩ := spellings_agree "\u00a0serde =\t>=0.8, <0.9 "
  obtain ⟨hread', -⟩ := spellings_agree "\u00a0serde @\t1.2@beta "
  obtain ⟨-, hrefused, -⟩ := spellings_agree "\u00a0serde =\t "
  refine ⟨hequals, hat, (hread _ _ _ hequals).1 (by decide +kernel),
    ((hread' _ _ _ hat).2 (by decide +kernel)).2 (by decide +kernel), ?_⟩
  refine (hrefused "\u00a0serde ".toList ['\t', ' '] (by decide +kernel) (.inr ?_)).1 ?_
  · simp [isBlank]
  · decide +kernel

/-- An `=` in the version behind an `@` separates: what is read is a name that was not meant and a
version that means something else, and a blank name is not refused. -/
theorem ofText?_splits_behind_atSign :
    Parts ⟨"serde", ">=0.8, <0.9"⟩ "serde".toList ">=0.8, <0.9".toList ∧
      ofText? "serde@>=0.8, <0.9" ≠ some ⟨"serde", ">=0.8, <0.9"⟩ ∧
      ofText? "serde@>=0.8, <0.9" = some ⟨"serde@>", "0.8, <0.9"⟩ ∧
      ofText? "@=1.0" = some ⟨"@", "1.0"⟩ := by
  have hwithin (word : List Char) : Within word word := ⟨[], [], by simp, nofun, nofun⟩
  refine ⟨⟨?_, ?_, ?_, ?_, hwithin _, hwithin _⟩, ?_⟩ <;> decide +kernel

end Dependency

end SnippetCheck
