import SnippetCheck.Json.Reader

/-! What the reader of JSON takes. `Spells` is the grammar: which tokens spell which value, without
a state or a stack. The main statement says that the reader takes the tokens that spell a value, as
that value, and no others. -/

namespace SnippetCheck.Json

/-- The value of a number, which is unreadable where no double can hold the number. -/
def ofNumber? (n : Option Number) : Json := (n.map .number).getD .unreadable

/-- The value of a string, which is unreadable where the string denotes no text. -/
def ofText? (s : Option String) : Json := (s.map .string).getD .unreadable

/-- Runs of tokens with a comma between neighbours. -/
def separated : List (List Token) → List Token
  | [] => []
  | ts :: tss => ts ++ tss.flatMap (.comma :: ·)

/-- An array's item and its tokens. -/
abbrev SpelledItem := List Token × Json

/-- An object's member: its name, the tokens of its value and the value. -/
abbrev SpelledMember := Option String × List Token × Json

def SpelledMember.tokens (m : SpelledMember) : List Token := .string m.1 :: .colon :: m.2.1

def SpelledMember.toMember (m : SpelledMember) : Option String × Json := (m.1, m.2.2)

/-- These tokens are those of this value. -/
inductive Spells : List Token → Json → Prop
  | null : Spells [.null] .null
  | bool (b : Bool) : Spells [.bool b] (.bool b)
  | number (n : Option Number) : Spells [.number n] (ofNumber? n)
  | string (s : Option String) : Spells [.string s] (ofText? s)
  | array {items : List SpelledItem} (h : ∀ i ∈ items, Spells i.1 i.2) :
    Spells (.openArray :: (separated (items.map Prod.fst) ++ [.closeArray]))
      (.array (items.map Prod.snd))
  | object {members : List SpelledMember} (h : ∀ m ∈ members, Spells m.2.1 m.2.2) :
    Spells (.openObject :: (separated (members.map SpelledMember.tokens) ++ [.closeObject]))
      (ofMembers (members.map SpelledMember.toMember))

/-! ### Every value is taken -/

/-- A first item is read like any other value. -/
theorem Spells.foldlM_firstItem {ts : List Token} {j : Json} (h : Spells ts j) (fs : List Frame)
    (rest : List Token) :
    (ts ++ rest).foldlM Reader.step (.firstItem fs) =
      (ts ++ rest).foldlM Reader.step (.value (.array [] :: fs)) := by
  -- the two differ only in that no value may follow, and no value starts with that token
  cases h <;> rfl

theorem foldlM_items {items : List SpelledItem}
    (h : ∀ i ∈ items, ∀ fs rest,
      (i.1 ++ rest).foldlM Reader.step (.value fs) = rest.foldlM Reader.step (.done i.2 fs))
    (v : Json) (done : List Json) (fs : List Frame) (rest : List Token) :
    ((items.map Prod.fst).flatMap (.comma :: ·) ++ .closeArray :: rest).foldlM Reader.step
        (.done v (.array done :: fs)) =
      rest.foldlM Reader.step (.done (.array (done.reverse ++ v :: items.map Prod.snd)) fs) := by
  induction items generalizing v done with
  | nil => simp [Reader.step]
  | cons item items ih =>
    have hitem := h item List.mem_cons_self
    have hitems := ih fun i hi => h i (List.mem_cons_of_mem item hi)
    simp only [List.map_cons, List.flatMap_cons, List.cons_append, List.append_assoc,
      List.foldlM_cons, Reader.step, Option.bind_eq_bind, Option.bind_some]
    rw [hitem, hitems, List.reverse_cons, List.append_assoc, List.singleton_append]

theorem foldlM_members {members : List SpelledMember}
    (h : ∀ m ∈ members, ∀ fs rest,
      (m.2.1 ++ rest).foldlM Reader.step (.value fs) = rest.foldlM Reader.step (.done m.2.2 fs))
    (k : Option String) (v : Json) (done : List (Option String × Json)) (fs : List Frame)
    (rest : List Token) :
    ((members.map SpelledMember.tokens).flatMap (.comma :: ·) ++ .closeObject :: rest).foldlM
        Reader.step (.done v (.object done k :: fs)) =
      rest.foldlM Reader.step (.done (ofMembers (done.reverse ++
        (k, v) :: members.map SpelledMember.toMember)) fs) := by
  induction members generalizing k v done with
  | nil => simp [Reader.step]
  | cons m members ih =>
    have hvalue := h m List.mem_cons_self
    have hmembers := ih fun m' hm => h m' (List.mem_cons_of_mem m hm)
    simp only [List.map_cons, List.flatMap_cons, SpelledMember.tokens, List.cons_append,
      List.append_assoc, List.foldlM_cons, Reader.step, Option.bind_eq_bind, Option.bind_some]
    rw [hvalue, hmembers, List.reverse_cons, List.append_assoc, List.singleton_append]
    rfl

/-- The reader takes the tokens of a value where a value must follow. -/
theorem Spells.foldlM {ts : List Token} {j : Json} (h : Spells ts j) (fs : List Frame)
    (rest : List Token) :
    (ts ++ rest).foldlM Reader.step (.value fs) = rest.foldlM Reader.step (.done j fs) := by
  induction h generalizing fs rest with
  | null => rfl
  | bool b => rfl
  | number n => rfl
  | string s => rfl
  | @array items h ih =>
    cases items with
    | nil => rfl
    | cons item items =>
      have hfirst := h item List.mem_cons_self
      have hitem := ih item List.mem_cons_self
      have hitems := foldlM_items fun i hi => ih i (List.mem_cons_of_mem item hi)
      simp only [separated, List.map_cons, List.cons_append, List.append_assoc,
        List.foldlM_cons, Reader.step, Reader.begin, Option.bind_eq_bind, Option.bind_some]
      rw [hfirst.foldlM_firstItem, hitem, List.nil_append, hitems]
      rfl
  | @object members h ih =>
    cases members with
    | nil => rfl
    | cons m members =>
      have hvalue := ih m List.mem_cons_self
      have hmembers := foldlM_members fun m' hm => ih m' (List.mem_cons_of_mem m hm)
      simp only [separated, List.map_cons, SpelledMember.tokens, List.cons_append,
        List.append_assoc, List.foldlM_cons, Reader.step, Reader.begin, Option.bind_eq_bind,
        Option.bind_some]
      rw [hvalue, List.nil_append, hmembers]
      rfl

theorem Spells.ofTokens? {ts : List Token} {j : Json} (h : Spells ts j) :
    ofTokens? ts = some j := by
  have hread := h.foldlM [] []
  rw [List.append_nil] at hread
  rw [Json.ofTokens?, hread]
  rfl

/-! ### Nothing else is taken -/

/-- The tokens that open these arrays and objects, up to where a value must follow. -/
inductive Opens : List Token → List Frame → Prop
  | nil : Opens [] []
  | array {ts : List Token} {fs : List Frame} {items : List SpelledItem} (h : Opens ts fs)
    (hitems : ∀ i ∈ items, Spells i.1 i.2) :
    Opens (ts ++ .openArray :: (items.map Prod.fst).flatMap (· ++ [.comma]))
      (.array (items.map Prod.snd).reverse :: fs)
  | object {ts : List Token} {fs : List Frame} {members : List SpelledMember}
    {k : Option String} (h : Opens ts fs) (hmembers : ∀ m ∈ members, Spells m.2.1 m.2.2) :
    Opens (ts ++ .openObject :: (members.map SpelledMember.tokens).flatMap (· ++ [.comma]) ++
        [.string k, .colon])
      (.object (members.map SpelledMember.toMember).reverse k :: fs)

/-- The tokens that open an object and have given these members, the last first. -/
def OpensObject (ts : List Token) (ms : List (Option String × Json)) (fs : List Frame) : Prop :=
  ∃ us, ∃ members : List SpelledMember, Opens us fs ∧ (∀ m ∈ members, Spells m.2.1 m.2.2) ∧
    ms = (members.map SpelledMember.toMember).reverse ∧
    ts = us ++ .openObject :: (members.map SpelledMember.tokens).flatMap (· ++ [.comma])

/-- What the tokens are that brought the reader to a state. -/
def Reader.ReachedBy : Reader → List Token → Prop
  | .value fs, ts => Opens ts fs
  | .firstItem fs, ts => ∃ us, Opens us fs ∧ ts = us ++ [.openArray]
  | .firstName fs, ts => OpensObject ts [] fs
  | .nextName ms fs, ts => OpensObject ts ms fs
  | .colon ms k fs, ts => ∃ us, OpensObject us ms fs ∧ ts = us ++ [.string k]
  | .done v fs, ts => ∃ us vs, Opens us fs ∧ Spells vs v ∧ ts = us ++ vs

theorem flatMap_comma_append (tss : List (List Token)) (ts : List Token) :
    tss.flatMap (· ++ [.comma]) ++ ts = separated (tss ++ [ts]) := by
  induction tss with
  | nil => simp [separated]
  | cons us tss ih =>
    rw [List.flatMap_cons, List.append_assoc, ih]
    cases tss <;> simp [separated]

theorem Reader.reachedBy_begin {fs : List Frame} {ts : List Token} {t : Token} {r : Reader}
    (h : Opens ts fs) (hbegin : begin fs t = some r) : r.ReachedBy (ts ++ [t]) := by
  unfold begin at hbegin
  split at hbegin
  · obtain rfl := Option.some.inj hbegin
    exact ⟨ts, h, rfl⟩
  · obtain rfl := Option.some.inj hbegin
    exact ⟨ts, [], h, List.forall_mem_nil _, rfl, rfl⟩
  · obtain rfl := Option.some.inj hbegin
    exact ⟨ts, _, h, .null, rfl⟩
  · obtain rfl := Option.some.inj hbegin
    exact ⟨ts, _, h, .bool _, rfl⟩
  · obtain rfl := Option.some.inj hbegin
    exact ⟨ts, _, h, .number _, rfl⟩
  · obtain rfl := Option.some.inj hbegin
    exact ⟨ts, _, h, .string _, rfl⟩
  · cases hbegin

/-- A value in an array ends one more item. -/
theorem Opens.item {us vs : List Token} {v : Json} {items : List Json} {fs : List Frame}
    (h : Opens us (.array items :: fs)) (hv : Spells vs v) :
    ∃ ts, ∃ spelled : List SpelledItem, Opens ts fs ∧ (∀ i ∈ spelled, Spells i.1 i.2) ∧
      v :: items = (spelled.map Prod.snd).reverse ∧
      us ++ vs = ts ++ .openArray :: separated (spelled.map Prod.fst) ∧
      us ++ vs ++ [.comma] =
        ts ++ .openArray :: (spelled.map Prod.fst).flatMap (· ++ [.comma]) := by
  cases h with
  | @array ts fs before h hbefore =>
    refine ⟨ts, before ++ [(vs, v)], h, ?_, by simp, ?_, by simp⟩
    · intro i hi
      rcases List.mem_append.1 hi with hi | hi
      · exact hbefore i hi
      · obtain rfl := List.mem_singleton.1 hi
        exact hv
    · rw [List.map_append, List.map_singleton, ← flatMap_comma_append]
      simp

/-- A value in an object ends one more member. -/
theorem Opens.member {us vs : List Token} {v : Json} {ms : List (Option String × Json)}
    {k : Option String} {fs : List Frame} (h : Opens us (.object ms k :: fs)) (hv : Spells vs v) :
    ∃ ts, ∃ members : List SpelledMember, Opens ts fs ∧ (∀ m ∈ members, Spells m.2.1 m.2.2) ∧
      (k, v) :: ms = (members.map SpelledMember.toMember).reverse ∧
      us ++ vs = ts ++ .openObject :: separated (members.map SpelledMember.tokens) ∧
      us ++ vs ++ [.comma] =
        ts ++ .openObject :: (members.map SpelledMember.tokens).flatMap (· ++ [.comma]) := by
  cases h with
  | @object ts fs before k h hbefore =>
    refine ⟨ts, before ++ [(k, vs, v)], h, ?_, by simp [SpelledMember.toMember], ?_,
      by simp [SpelledMember.tokens]⟩
    · intro m hm
      rcases List.mem_append.1 hm with hm | hm
      · exact hbefore m hm
      · obtain rfl := List.mem_singleton.1 hm
        exact hv
    · rw [List.map_append, List.map_singleton, ← flatMap_comma_append]
      simp [SpelledMember.tokens]

/-- One more token that the reader takes keeps what the tokens before it are. -/
theorem Reader.ReachedBy.step {r r' : Reader} {ts : List Token} {t : Token} (h : r.ReachedBy ts)
    (hstep : r.step t = some r') : r'.ReachedBy (ts ++ [t]) := by
  unfold Reader.step at hstep
  split at hstep
  case h_1 => exact reachedBy_begin h hstep
  case h_2 =>
    obtain rfl := Option.some.inj hstep
    obtain ⟨us, hopens, rfl⟩ := h
    exact ⟨us, _, hopens, .array (List.forall_mem_nil _), List.append_assoc ..⟩
  case h_3 =>
    obtain ⟨us, hopens, rfl⟩ := h
    exact reachedBy_begin (.array hopens (List.forall_mem_nil _)) hstep
  case h_4 =>
    obtain rfl := Option.some.inj hstep
    obtain ⟨us, members, hopens, -, hnil, rfl⟩ := h
    obtain rfl : members = [] := by simpa using hnil
    exact ⟨us, _, hopens, .object (List.forall_mem_nil _), List.append_assoc ..⟩
  case h_5 =>
    obtain rfl := Option.some.inj hstep
    exact ⟨ts, h, rfl⟩
  case h_6 =>
    obtain rfl := Option.some.inj hstep
    exact ⟨ts, h, rfl⟩
  case h_7 =>
    obtain rfl := Option.some.inj hstep
    obtain ⟨_, ⟨us, members, hopens, hmembers, rfl, rfl⟩, rfl⟩ := h
    rw [List.append_assoc]
    exact .object hopens hmembers
  case h_8 =>
    obtain rfl := Option.some.inj hstep
    obtain ⟨us, vs, hopens, hv, rfl⟩ := h
    obtain ⟨us', spelled, hopens', hspelled, hitems, -, hcomma⟩ := hopens.item hv
    rw [hcomma, hitems]
    exact .array hopens' hspelled
  case h_9 =>
    obtain rfl := Option.some.inj hstep
    obtain ⟨us, vs, hopens, hv, rfl⟩ := h
    obtain ⟨us', spelled, hopens', hspelled, hitems, hclosed, -⟩ := hopens.item hv
    rw [hclosed, hitems, List.reverse_reverse]
    exact ⟨us', _, hopens', .array hspelled, List.append_assoc ..⟩
  case h_10 =>
    obtain rfl := Option.some.inj hstep
    obtain ⟨us, vs, hopens, hv, rfl⟩ := h
    obtain ⟨us', members, hopens', hmembers, hms, -, hcomma⟩ := hopens.member hv
    exact ⟨us', members, hopens', hmembers, hms, hcomma⟩
  case h_11 =>
    obtain rfl := Option.some.inj hstep
    obtain ⟨us, vs, hopens, hv, rfl⟩ := h
    obtain ⟨us', members, hopens', hmembers, hms, hclosed, -⟩ := hopens.member hv
    rw [hclosed, hms, List.reverse_reverse]
    exact ⟨us', _, hopens', .object hmembers, List.append_assoc ..⟩
  case h_12 => cases hstep

theorem Reader.ReachedBy.foldlM {r r' : Reader} {ts us : List Token} (h : r.ReachedBy ts)
    (hrun : us.foldlM Reader.step r = some r') : r'.ReachedBy (ts ++ us) := by
  induction us generalizing r ts with
  | nil =>
    obtain rfl := Option.some.inj hrun
    rwa [List.append_nil]
  | cons u us ih =>
    rw [List.foldlM_cons, Option.bind_eq_bind, Option.bind_eq_some_iff] at hrun
    obtain ⟨r₁, hstep, hrun⟩ := hrun
    have h₁ := ih (h.step hstep) hrun
    rwa [List.append_assoc] at h₁

/-- The reader takes exactly the tokens that spell a value, as that value. -/
theorem ofTokens?_eq_some_iff {ts : List Token} {j : Json} :
    ofTokens? ts = some j ↔ Spells ts j := by
  refine ⟨fun h => ?_, Spells.ofTokens?⟩
  unfold ofTokens? at h
  split at h
  · next v hrun =>
    obtain rfl := Option.some.inj h
    have hstart : (Reader.value []).ReachedBy [] := Opens.nil
    obtain ⟨us, vs, hopens, hv, heq⟩ := hstart.foldlM hrun
    cases hopens
    obtain rfl : ts = vs := heq
    exact hv
  · cases h

theorem read?_eq_some_iff {s : List Char} {j : Json} :
    read? s = some j ↔ Spells (Token.scan s) j :=
  ofTokens?_eq_some_iff

/-- Tokens spell one value at most. -/
theorem Spells.unique {ts : List Token} {j j' : Json} (h : Spells ts j) (h' : Spells ts j') :
    j = j' :=
  Option.some.inj (h.ofTokens?.symm.trans h'.ofTokens?)

/-! ### Values that something follows -/

theorem Reader.first?_of_not_done {r : Reader} (h : ∀ v, r ≠ .done v []) (ts : List Token) :
    r.first? ts = ts.head?.bind fun t => (r.step t).bind (first? · ts.tail) := by
  cases ts with
  | nil =>
    unfold first?
    split
    next v => exact absurd rfl (h v)
    next => rfl
    next heq => cases heq
  | cons t ts =>
    rw [first?]
    · rfl
    · exact h

theorem Reader.first?_done (v : Json) (ts : List Token) :
    (Reader.done v []).first? ts = some v := by
  cases ts <;> rfl

/-- The value that is complete first is complete after some tokens at the front. -/
theorem Reader.first?_eq_some_iff {r : Reader} {ts : List Token} {v : Json} :
    r.first? ts = some v ↔
      ∃ us rest, ts = us ++ rest ∧ us.foldlM Reader.step r = some (.done v []) := by
  constructor
  · intro h
    induction ts generalizing r with
    | nil =>
      by_cases hdone : ∃ w, r = .done w []
      · obtain ⟨w, rfl⟩ := hdone
        rw [first?_done] at h
        obtain rfl := Option.some.inj h
        exact ⟨[], [], rfl, rfl⟩
      · rw [first?_of_not_done fun w hw => hdone ⟨w, hw⟩] at h
        cases h
    | cons t ts ih =>
      by_cases hdone : ∃ w, r = .done w []
      · obtain ⟨w, rfl⟩ := hdone
        rw [first?_done] at h
        obtain rfl := Option.some.inj h
        exact ⟨[], t :: ts, rfl, rfl⟩
      · rw [first?_of_not_done fun w hw => hdone ⟨w, hw⟩, List.head?_cons, List.tail_cons,
          Option.bind_some, Option.bind_eq_some_iff] at h
        obtain ⟨r', hstep, h⟩ := h
        obtain ⟨us, rest, rfl, hus⟩ := ih h
        refine ⟨t :: us, rest, rfl, ?_⟩
        rw [List.foldlM_cons, hstep]
        exact hus
  · rintro ⟨us, rest, rfl, hus⟩
    induction us generalizing r with
    | nil =>
      obtain rfl := Option.some.inj hus
      exact first?_done v rest
    | cons u us ih =>
      rw [List.foldlM_cons, Option.bind_eq_bind, Option.bind_eq_some_iff] at hus
      obtain ⟨r', hstep, hus⟩ := hus
      have hdone : ∀ w, r ≠ .done w [] := by
        rintro w rfl
        cases hstep
      rw [first?_of_not_done hdone, List.cons_append, List.head?_cons, List.tail_cons,
        Option.bind_some, hstep, Option.bind_some]
      exact ih hus

theorem readFirst?_eq_some_iff {s : List Char} {j : Json} :
    readFirst? s = some j ↔ ∃ ts rest, Token.scan s = ts ++ rest ∧ Spells ts j := by
  have hspells (ts : List Token) :
      ts.foldlM Reader.step (.value []) = some (.done j []) ↔ Spells ts j := by
    rw [← ofTokens?_eq_some_iff, ofTokens?]
    split
    next v hv => simp [hv]
    next hnone => exact iff_of_false (fun hj => hnone j hj) nofun
  simp only [readFirst?, Reader.first?_eq_some_iff, hspells]

end SnippetCheck.Json
