import Mathlib.Data.List.Perm.Basic
import SnippetCheck.Proofs.Json.Decoder

/-! Altered objects. What a decoder makes of an object depends only on the values that the object
gives for each declared name, so it does not see the order of the members and members of other
names, and a missing member may be like one that is `null`. -/

namespace SnippetCheck.Json

/-- What is there for a field after an object was altered, by what was there before: the same, a
`null` for nothing, or an altered value. -/
inductive Slot.Altered (optional : List String) (inner : String → Json → Json → Prop)
    (name : String) : Slot → Slot → Prop
  | same (s : Slot) : Altered optional inner name s s
  | null (h : name ∈ optional) : Altered optional inner name .missing (.given .null)
  | inner {v v' : Json} (h : inner name v v') : Altered optional inner name (.given v) (.given v')

/-- The second value is the first one after one alteration of the record in it, whose fields have
these names: an object's members change their order, a member of another name comes in, one of the
optional fields that are missing is given as `null`, or the value of a field is altered in turn. -/
inductive Altered (names optional : List String) (inner : String → Json → Json → Prop) :
    Json → Json → Prop
  | reorder {members members' : List (String × Json)} (h : members.Perm members') :
    Altered names optional inner (.object members) (.object members')
  | insert {members members' : List (String × Json)} {k : String} (v : Json) (hk : k ∉ names) :
    Altered names optional inner (.object (members ++ members'))
      (.object (members ++ (k, v) :: members'))
  | null {members members' : List (String × Json)} {k : String} (hk : k ∈ optional)
    (h : k ∉ (members ++ members').map Prod.fst) :
    Altered names optional inner (.object (members ++ members'))
      (.object (members ++ (k, .null) :: members'))
  | inner {members members' : List (String × Json)} {k : String} {v v' : Json}
    (h : inner k v v') :
    Altered names optional inner (.object (members ++ (k, v) :: members'))
      (.object (members ++ (k, v') :: members'))
  | item {items items' : List Json} {k : String} {v v' : Json}
    (hk : names[items.length]? = some k) (h : inner k v v') :
    Altered names optional inner (.array (items ++ v :: items')) (.array (items ++ v' :: items'))

/-- The values for a name before and after: both lists are too long, or what is there for the field
is altered. -/
structure ValuesAltered (optional : List String) (inner : String → Json → Json → Prop)
    (name : String) (vs vs' : List Json) : Prop where
  many : 1 < vs.length ↔ 1 < vs'.length
  slot : ¬ 1 < vs.length →
    Slot.Altered optional inner name (.ofValues vs) (.ofValues vs')

section Altered

variable {names optional : List String} {inner : String → Json → Json → Prop} {name : String}

theorem ValuesAltered.refl (vs : List Json) : ValuesAltered optional inner name vs vs :=
  ⟨Iff.rfl, fun _ => .same _⟩

theorem ValuesAltered.of_perm {vs vs' : List Json} (h : vs.Perm vs') :
    ValuesAltered optional inner name vs vs' := by
  refine ⟨by rw [h.length_eq], fun hone => ?_⟩
  obtain rfl : vs = vs' := by
    match vs with
    | [] => exact (List.nil_perm.1 h).symm
    | [v] => exact (List.singleton_perm.1 h)
    | _ :: _ :: _ => exact absurd hone (by simp)
  exact .same _

theorem ValuesAltered.of_inner {v v' : Json} (h : inner name v v') (vs vs' : List Json) :
    ValuesAltered optional inner name (vs ++ v :: vs') (vs ++ v' :: vs') := by
  refine ⟨by simp, fun hone => ?_⟩
  obtain rfl : vs = [] := List.length_eq_zero_iff.1 (by simp at hone; omega)
  exact .inner h

theorem valuesAltered_given {members members' : List (String × Json)}
    (h : Altered names optional inner (.object members) (.object members'))
    (hname : name ∈ names) :
    ValuesAltered optional inner name (given members name) (given members' name) := by
  cases h with
  | reorder h => exact .of_perm (perm_given h name)
  | insert v hk =>
    rw [given_append, given_append, given_cons_of_ne (ne_of_mem_of_not_mem hname hk).symm]
    exact .refl _
  | @null before after k hk h =>
    by_cases heq : k = name
    · subst heq
      have hnil := given_eq_nil h
      rw [given_append] at hnil ⊢
      obtain ⟨hb, ha⟩ := List.append_eq_nil_iff.1 hnil
      rw [given_append, given_cons_self, hb, ha]
      exact ⟨by simp, fun _ => .null hk⟩
    · rw [given_append, given_append, given_cons_of_ne heq]
      exact .refl _
  | @inner before after k v v' h =>
    by_cases heq : k = name
    · subst heq
      rw [given_append, given_append, given_cons_self, given_cons_self]
      exact .of_inner h _ _
    · rw [given_append, given_append, given_cons_of_ne heq, given_cons_of_ne heq]
      exact .refl _

/-- Fields that are altered one by one, or that are there neither before nor after. -/
abbrev FieldsAltered (optional : List String) (inner : String → Json → Json → Prop) :
    Option (String → Slot) → Option (String → Slot) → Prop :=
  Option.Rel fun f f' => ∀ k, Slot.Altered optional inner k (f k) (f' k)

theorem fieldsAltered_object {members members' : List (String × Json)}
    (h : Altered names optional inner (.object members) (.object members')) :
    FieldsAltered optional inner (fields? names (.object members))
      (fields? names (.object members')) := by
  have hany : (names.any fun k => 1 < (given members k).length) =
      names.any fun k => 1 < (given members' k).length := by
    rw [Bool.eq_iff_iff]
    simp only [List.any_eq_true, decide_eq_true_eq]
    exact exists_congr fun k => and_congr_right fun hk => (valuesAltered_given h hk).many
  rw [fields?_object, fields?_object, hany]
  split
  · exact .none
  · next hone =>
    rw [← hany] at hone
    refine .some fun k => ?_
    split
    · next hk =>
      refine (valuesAltered_given h hk).slot fun hmany => hone ?_
      exact List.any_eq_true.2 ⟨k, hk, by simpa using hmany⟩
    · exact .same _

theorem fieldsAltered_array {items items' : List Json} {k : String} {v v' : Json}
    (hk : names[items.length]? = some k) (h : inner k v v') :
    FieldsAltered optional inner (fields? names (.array (items ++ v :: items')))
      (fields? names (.array (items ++ v' :: items'))) := by
  have hlength : (items ++ v' :: items').length = (items ++ v :: items').length := by simp
  rw [fields?_array, fields?_array, hlength]
  split
  · exact .none
  · -- the names before the altered item, its name, and the names after it
    obtain ⟨before, after, rfl, hbefore⟩ : ∃ before after,
        names = before ++ k :: after ∧ before.length = items.length := by
      obtain ⟨hlt, hget⟩ := List.getElem?_eq_some_iff.1 hk
      refine ⟨names.take items.length, names.drop (items.length + 1), ?_, by simp; omega⟩
      rw [← hget, ← List.drop_eq_getElem_cons hlt, List.take_append_drop]
    refine .some fun name => ?_
    simp only [List.map_append, List.map_cons, List.append_assoc, List.cons_append]
    rw [List.zip_append (by simpa using hbefore), List.zip_append (by simpa using hbefore)]
    simp only [List.zip_cons_cons, List.lookup_append, List.lookup_cons]
    cases (before.zip (items.map Slot.given)).lookup name with
    | some s => exact .same _
    | none =>
      by_cases hname : name = k
      · subst hname
        simpa using .inner h
      · have hne : (name == k) = false := by simpa using hname
        rw [hne]
        exact .same _

theorem fieldsAltered {j j' : Json} (h : Altered names optional inner j j') :
    FieldsAltered optional inner (fields? names j) (fields? names j') := by
  cases h with
  | reorder h => exact fieldsAltered_object (.reorder h)
  | insert v hk => exact fieldsAltered_object (.insert v hk)
  | null hk h => exact fieldsAltered_object (.null hk h)
  | inner h => exact fieldsAltered_object (.inner h)
  | item hk h => exact fieldsAltered_array hk h

/-- A part of a record that no alteration of one field changes is not changed by an alteration of
the object that the record is read from. -/
theorem record_altered {build : Nat → (String → Slot) → Option α} {g : α → β}
    (hbuild : ∀ n f f', (∀ k, Slot.Altered optional inner k (f k) (f' k)) →
      (build n f).map g = (build n f').map g)
    {j j' : Json} (h : Altered names optional inner j j') (n : Nat) :
    (Decoder.record names build n j).map g = (Decoder.record names build n j').map g := by
  cases n with
  | zero => rfl
  | succ n =>
    have hfields := fieldsAltered h
    rw [record_succ, record_succ]
    generalize fields? names j = fields at hfields ⊢
    generalize fields? names j' = fields' at hfields ⊢
    cases hfields with
    | none => rfl
    | some hf => exact hbuild n _ _ hf

end Altered

end SnippetCheck.Json
