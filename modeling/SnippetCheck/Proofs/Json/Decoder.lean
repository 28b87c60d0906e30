import SnippetCheck.Json.Decoder
import SnippetCheck.Proofs.Json.RoundTrip

/-! Decoding. A record is read from what is given for each of its fields, and the fields of an
object whose names are all different are looked up by name. So what was encoded is decoded again: an
object by its members, an array item by item, and a value from its text. -/

namespace SnippetCheck.Json

/-! ### What is there for a field -/

/-- The values that members give for a name. -/
def given (members : List (String × Json)) (name : String) : List Json :=
  (members.filter (·.1 == name)).map Prod.snd

/-- What is there for a field with these values. -/
def Slot.ofValues : List Json → Slot
  | [] => .missing
  | v :: _ => .given v

/-- What a record's fields are read from, by their names. -/
def fields? (names : List String) (j : Json) : Option (String → Slot) :=
  (slots? names j).map fun slots name => ((names.zip slots).lookup name).getD .missing

section Given

variable {members members' : List (String × Json)} {name : String}

theorem given_append (name : String) :
    given (members ++ members') name = given members name ++ given members' name := by
  rw [given, List.filter_append, List.map_append, given, given]

theorem given_cons_self (v : Json) :
    given ((name, v) :: members) name = v :: given members name := by
  rw [given, List.filter_cons_of_pos (by simp), List.map_cons, given]

theorem given_cons_of_ne {k : String} (hk : k ≠ name) (v : Json) :
    given ((k, v) :: members) name = given members name := by
  rw [given, List.filter_cons_of_neg (by simpa using hk), given]

theorem given_eq_nil (h : name ∉ members.map Prod.fst) : given members name = [] := by
  rw [given, List.map_eq_nil_iff, List.filter_eq_nil_iff]
  intro m hm heq
  exact h (List.mem_map.2 ⟨m, hm, by simpa using heq⟩)

theorem mem_given {v : Json} : v ∈ given members name ↔ (name, v) ∈ members := by
  simp [given]

theorem perm_given (h : members.Perm members') (name : String) :
    (given members name).Perm (given members' name) :=
  (h.filter _).map _

theorem lookup_eq (members : List (String × Json)) (name : String) :
    members.lookup name = (given members name).head? := by
  induction members with
  | nil => rfl
  | cons m members ih =>
    obtain ⟨k, v⟩ := m
    by_cases hk : k = name
    · subst hk
      simp [given_cons_self]
    · have hne : (name == k) = false := by simpa using Ne.symm hk
      rw [given_cons_of_ne hk, List.lookup_cons, hne, ih]

theorem ofValues_given (members : List (String × Json)) (name : String) :
    ((members.lookup name).map Slot.given).getD .missing = .ofValues (given members name) := by
  rw [lookup_eq]
  cases given members name <;> rfl

end Given

theorem record_succ (names : List String) (build : Nat → (String → Slot) → Option α) (n : Nat)
    (j : Json) : Decoder.record names build (n + 1) j = (fields? names j).bind (build n) := by
  rw [Decoder.record, fields?]
  cases slots? names j <;> rfl

theorem lookup_zip_map (f : String → Slot) (names : List String) (name : String) :
    (names.zip (names.map f)).lookup name = if name ∈ names then some (f name) else none := by
  induction names with
  | nil => rfl
  | cons k names ih =>
    by_cases hk : name = k
    · subst hk
      simp
    · have hne : (name == k) = false := by simpa using hk
      simp only [List.map_cons, List.zip_cons_cons, List.lookup_cons, hne, ih, List.mem_cons, hk,
        false_or]

/-- The fields of an object are there unless a name is given twice. -/
theorem fields?_object (names : List String) (members : List (String × Json)) :
    fields? names (.object members) =
      if names.any fun k => 1 < (given members k).length then none
      else some fun k => if k ∈ names then .ofValues (given members k) else .missing := by
  have hcount (k : String) : members.countP (·.1 == k) = (given members k).length := by
    rw [given, List.length_map, List.countP_eq_length_filter]
  simp only [fields?, slots?, hcount]
  split
  · rfl
  · refine congrArg some (funext fun k => ?_)
    simp only [lookup_zip_map]
    split
    · exact ofValues_given members k
    · rfl

theorem fields?_array (names : List String) (items : List Json) :
    fields? names (.array items) =
      if names.length < items.length then none
      else some fun k => ((names.zip (items.map .given ++
        List.replicate (names.length - items.length) .cut)).lookup k).getD .missing := by
  simp only [fields?, slots?]
  split <;> rfl

/-- What an object has for a field of a record with the fields `names`. -/
def field (names : List String) (members : List (String × Json)) (name : String) : Slot :=
  if name ∈ names then ((members.lookup name).map .given).getD .missing else .missing

theorem fields?_of_nodup {names : List String} {members : List (String × Json)}
    (h : (members.map Prod.fst).Nodup) :
    fields? names (.object members) = some (field names members) := by
  have hone (k : String) : ¬ 1 < (given members k).length := by
    have hcount := List.nodup_iff_count.1 h k
    rw [List.count, List.countP_map, List.countP_eq_length_filter] at hcount
    rw [given, List.length_map]
    exact Nat.not_lt.2 hcount
  rw [fields?_object, if_neg (by simp [hone])]
  refine congrArg some (funext fun k => ?_)
  rw [field, ofValues_given]

theorem record_object {names : List String} {build : Nat → (String → Slot) → Option α}
    {members : List (String × Json)} (n : Nat) (h : (members.map Prod.fst).Nodup) :
    Decoder.record names build (n + 1) (.object members) = build n (field names members) := by
  rw [record_succ, fields?_of_nodup h, Option.bind_some]

/-! ### What was encoded -/

theorem list_map_eq_map {d : Decoder β} {f : α → Json} {g : α → β} {as : List α} (n : Nat)
    (h : ∀ a ∈ as, d n (f a) = some (g a)) :
    Decoder.list d (n + 1) (.array (as.map f)) = some (as.map g) :=
  mapM_map_eq_map h

theorem list_map {d : Decoder α} {f : α → Json} {as : List α} (n : Nat)
    (h : ∀ a ∈ as, d n (f a) = some a) : Decoder.list d (n + 1) (.array (as.map f)) = some as :=
  mapM_map_eq_some h

/-- A text that holds an indented value is decoded as the value, whatever blanks follow it. -/
theorem decode?_pretty {d : Decoder α} {j : Json} {a : α} (hj : j.Plain)
    (ha : d maxDepth j = some a) {blanks : String}
    (hblanks : ∀ c ∈ blanks.toList, isSpace c = true) :
    decode? d (String.ofList (pretty 0 j) ++ blanks) = some a := by
  rw [decode?, String.toList_append, String.toList_ofList, read?_pretty hj hblanks]
  exact ha

/-- A text that holds a value on one line is decoded as the value. -/
theorem decode?_compact {d : Decoder α} {j : Json} {a : α} (hj : j.Plain)
    (ha : d maxDepth j = some a) : decode? d (String.ofList (compact j)) = some a := by
  rw [decode?, String.toList_ofList, read?_compact hj]
  exact ha

end SnippetCheck.Json
