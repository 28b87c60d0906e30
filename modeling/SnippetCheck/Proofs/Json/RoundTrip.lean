import SnippetCheck.Proofs.Json.Grammar
import SnippetCheck.Proofs.Json.Scan

/-! Reading what was printed. A value has a list of tokens; the printer writes these tokens,
whatever the layout, and the reader takes them back to the value. So a value that is `Plain` reads
back from its text, on one line or indented. -/

namespace SnippetCheck.Json

mutual

/-- The tokens that write a value. -/
def tokens : Json → List Token
  | .null => [.null]
  | .bool b => [.bool b]
  | .number n => [.number (some n)]
  | .string s => [.string (some s)]
  | .array [] => [.openArray, .closeArray]
  | .array (item :: items) => .openArray :: tokens item ++ itemTokens items ++ [.closeArray]
  | .object [] => [.openObject, .closeObject]
  | .object ((k, v) :: members) =>
    .openObject :: .string (some k) :: .colon :: tokens v ++ memberTokens members ++ [.closeObject]
  | .unreadable => [.null]

/-- The tokens that write items that follow another. -/
def itemTokens : List Json → List Token
  | [] => []
  | item :: items => .comma :: tokens item ++ itemTokens items

/-- The tokens that write members that follow another. -/
def memberTokens : List (String × Json) → List Token
  | [] => []
  | (k, v) :: members =>
    .comma :: .string (some k) :: .colon :: tokens v ++ memberTokens members

end

/-- A value that has a text of its own: its numbers are in range and it is nowhere unreadable. -/
inductive Plain : Json → Prop where
  | null : Plain .null
  | bool (b : Bool) : Plain (.bool b)
  | number {n : Number} (h : n.InRange) : Plain (.number n)
  | string (s : String) : Plain (.string s)
  | array {items : List Json} (h : ∀ j ∈ items, Plain j) : Plain (.array items)
  | object {members : List (String × Json)} (h : ∀ m ∈ members, Plain m.2) :
    Plain (.object members)

/-! ### Printing -/

theorem stops_prettyItems (level : Nat) (items : List Json) {s : List Char}
    (hs : Number.Stops s) : Number.Stops (prettyItems level items ++ s) := by
  cases items with
  | nil => exact hs
  | cons item items => exact Number.stops_cons (by decide)

theorem stops_prettyMembers (level : Nat) (members : List (String × Json)) {s : List Char}
    (hs : Number.Stops s) : Number.Stops (prettyMembers level members ++ s) := by
  cases members with
  | nil => exact hs
  | cons m members => exact Number.stops_cons (by decide)

theorem stops_newLine (level : Nat) (s : List Char) : Number.Stops (newLine level ++ s) :=
  Number.stops_cons (by decide)

theorem writes_prettyItems (level : Nat) {items : List Json}
    (h : ∀ j ∈ items, Writes (pretty (level + 1) j) (tokens j)) {s : List Char} {ts : List Token}
    (hs : Writes s ts) (hstops : Number.Stops s) :
    Writes (prettyItems level items ++ s) (itemTokens items ++ ts) := by
  induction items with
  | nil => exact hs
  | cons item items ih =>
    have hitem := h item List.mem_cons_self
    have hitems := ih fun j hj => h j (List.mem_cons_of_mem item hj)
    simp only [prettyItems, itemTokens, List.cons_append, List.append_assoc]
    exact .cons rfl (fun _ => rfl) <| .newLine (level + 1) <|
      hitem.append hitems (stops_prettyItems level items hstops)

/-- A member on a line of its own. -/
theorem writes_member (level : Nat) (k : String) {v : Json} {s : List Char} {ts : List Token}
    (hv : Writes (pretty level v) (tokens v)) (hs : Writes s ts) (hstops : Number.Stops s) :
    Writes (quote k ++ ':' :: ' ' :: (pretty level v ++ s))
      (.string (some k) :: .colon :: (tokens v ++ ts)) := by
  have hvalue : Writes (':' :: ' ' :: (pretty level v ++ s)) (.colon :: (tokens v ++ ts)) :=
    .cons rfl (fun _ => rfl) <| .space rfl <| hv.append hs hstops
  exact (writes_quote k).append hvalue (Number.stops_cons (by decide))

theorem writes_prettyMembers (level : Nat) {members : List (String × Json)}
    (h : ∀ m ∈ members, Writes (pretty (level + 1) m.2) (tokens m.2)) {s : List Char}
    {ts : List Token} (hs : Writes s ts) (hstops : Number.Stops s) :
    Writes (prettyMembers level members ++ s) (memberTokens members ++ ts) := by
  induction members with
  | nil => exact hs
  | cons m members ih =>
    have hvalue := h m List.mem_cons_self
    have hmembers := ih fun m' hm => h m' (List.mem_cons_of_mem m hm)
    simp only [prettyMembers, memberTokens, List.cons_append, List.append_assoc]
    exact .cons rfl (fun _ => rfl) <| .newLine (level + 1) <|
      writes_member (level + 1) m.1 hvalue hmembers (stops_prettyMembers level members hstops)

/-- The indented text of a value is scanned as the tokens of the value. -/
theorem writes_pretty {j : Json} (h : j.Plain) (level : Nat) :
    Writes (pretty level j) (tokens j) := by
  induction h generalizing level with
  | null => exact .singleton rfl fun _ _ => rfl
  | bool b => cases b <;> exact .singleton rfl fun _ _ => rfl
  | number h => exact writes_print h
  | string s => exact writes_quote s
  | @array items h ih =>
    cases items with
    | nil => exact .cons rfl (fun _ => rfl) (.cons rfl (fun _ => rfl) .nil)
    | cons item items =>
      -- from the end to the front, since a text must be known to stop the number before it
      have hend : Writes (newLine level ++ [']']) [.closeArray] :=
        .newLine level (.cons rfl (fun _ => rfl) .nil)
      have hitem := ih item List.mem_cons_self (level + 1)
      have hitems := writes_prettyItems level
        (fun j hj => ih j (List.mem_cons_of_mem item hj) (level + 1)) hend (stops_newLine level _)
      simp only [pretty, tokens, List.cons_append, List.append_assoc]
      apply Writes.cons rfl (fun _ => rfl)
      apply Writes.newLine
      exact hitem.append hitems (stops_prettyItems level items (stops_newLine level _))
  | @object members h ih =>
    cases members with
    | nil => exact .cons rfl (fun _ => rfl) (.cons rfl (fun _ => rfl) .nil)
    | cons m members =>
      have hend : Writes (newLine level ++ ['}']) [.closeObject] :=
        .newLine level (.cons rfl (fun _ => rfl) .nil)
      have hvalue := ih m List.mem_cons_self (level + 1)
      have hmembers := writes_prettyMembers level
        (fun m' hm => ih m' (List.mem_cons_of_mem m hm) (level + 1)) hend (stops_newLine level _)
      simp only [pretty, tokens, List.cons_append, List.append_assoc]
      apply Writes.cons rfl (fun _ => rfl)
      apply Writes.newLine
      exact writes_member (level + 1) m.1 hvalue hmembers
        (stops_prettyMembers level members (stops_newLine level _))

theorem stops_compactItems (items : List Json) {s : List Char} (hs : Number.Stops s) :
    Number.Stops (compactItems items ++ s) := by
  cases items with
  | nil => exact hs
  | cons item items => exact Number.stops_cons (by decide)

theorem stops_compactMembers (members : List (String × Json)) {s : List Char}
    (hs : Number.Stops s) : Number.Stops (compactMembers members ++ s) := by
  cases members with
  | nil => exact hs
  | cons m members => exact Number.stops_cons (by decide)

theorem writes_compactItems {items : List Json} (h : ∀ j ∈ items, Writes (compact j) (tokens j))
    {s : List Char} {ts : List Token} (hs : Writes s ts) (hstops : Number.Stops s) :
    Writes (compactItems items ++ s) (itemTokens items ++ ts) := by
  induction items with
  | nil => exact hs
  | cons item items ih =>
    have hitem := h item List.mem_cons_self
    have hitems := ih fun j hj => h j (List.mem_cons_of_mem item hj)
    simp only [compactItems, itemTokens, List.cons_append, List.append_assoc]
    apply Writes.cons rfl (fun _ => rfl)
    exact hitem.append hitems (stops_compactItems items hstops)

theorem writes_compactMember (k : String) {v : Json} {s : List Char} {ts : List Token}
    (hv : Writes (compact v) (tokens v)) (hs : Writes s ts) (hstops : Number.Stops s) :
    Writes (quote k ++ ':' :: (compact v ++ s))
      (.string (some k) :: .colon :: (tokens v ++ ts)) := by
  have hvalue : Writes (':' :: (compact v ++ s)) (.colon :: (tokens v ++ ts)) :=
    .cons rfl (fun _ => rfl) (hv.append hs hstops)
  exact (writes_quote k).append hvalue (Number.stops_cons (by decide))

theorem writes_compactMembers {members : List (String × Json)}
    (h : ∀ m ∈ members, Writes (compact m.2) (tokens m.2)) {s : List Char} {ts : List Token}
    (hs : Writes s ts) (hstops : Number.Stops s) :
    Writes (compactMembers members ++ s) (memberTokens members ++ ts) := by
  induction members with
  | nil => exact hs
  | cons m members ih =>
    have hvalue := h m List.mem_cons_self
    have hmembers := ih fun m' hm => h m' (List.mem_cons_of_mem m hm)
    simp only [compactMembers, memberTokens, List.cons_append, List.append_assoc]
    apply Writes.cons rfl (fun _ => rfl)
    exact writes_compactMember m.1 hvalue hmembers (stops_compactMembers members hstops)

theorem writes_compact {j : Json} (h : j.Plain) : Writes (compact j) (tokens j) := by
  induction h with
  | null => exact .singleton rfl fun _ _ => rfl
  | bool b => cases b <;> exact .singleton rfl fun _ _ => rfl
  | number h => exact writes_print h
  | string s => exact writes_quote s
  | @array items h ih =>
    have hend : Writes [']'] [.closeArray] := .cons rfl (fun _ => rfl) .nil
    have hstops : Number.Stops [']'] := Number.stops_cons (by decide)
    cases items with
    | nil => exact .cons rfl (fun _ => rfl) hend
    | cons item items =>
      have hitem := ih item List.mem_cons_self
      have hitems := writes_compactItems (fun j hj => ih j (List.mem_cons_of_mem item hj)) hend
        hstops
      simp only [compact, tokens, List.cons_append, List.append_assoc]
      apply Writes.cons rfl (fun _ => rfl)
      exact hitem.append hitems (stops_compactItems items hstops)
  | @object members h ih =>
    have hend : Writes ['}'] [.closeObject] := .cons rfl (fun _ => rfl) .nil
    have hstops : Number.Stops ['}'] := Number.stops_cons (by decide)
    cases members with
    | nil => exact .cons rfl (fun _ => rfl) hend
    | cons m members =>
      have hvalue := ih m List.mem_cons_self
      have hmembers := writes_compactMembers
        (fun m' hm => ih m' (List.mem_cons_of_mem m hm)) hend hstops
      simp only [compact, tokens, List.cons_append, List.append_assoc]
      apply Writes.cons rfl (fun _ => rfl)
      exact writes_compactMember m.1 hvalue hmembers (stops_compactMembers members hstops)

/-! ### Reading -/

theorem mapM_map_eq_map {f : α → β} {g : β → Option γ} {h : α → γ} {as : List α}
    (heq : ∀ a ∈ as, g (f a) = some (h a)) : (as.map f).mapM g = some (as.map h) := by
  induction as with
  | nil => rfl
  | cons a as ih =>
    have htail := ih fun b hb => heq b (List.mem_cons_of_mem a hb)
    rw [List.map_cons, List.mapM_cons, heq a List.mem_cons_self, htail]
    rfl

theorem mapM_map_eq_some {f : α → β} {g : β → Option α} {as : List α}
    (h : ∀ a ∈ as, g (f a) = some a) : (as.map f).mapM g = some as := by
  rw [mapM_map_eq_map h, List.map_id']

theorem ofMembers_map_some (members : List (String × Json)) :
    ofMembers (members.map fun m => (some m.1, m.2)) = .object members := by
  have hnames : (members.map fun m => (some m.1, m.2)).mapM
      (fun m : Option String × Json => m.1.map (·, m.2)) = some members :=
    mapM_map_eq_some fun _ _ => rfl
  rw [ofMembers, hnames]

theorem itemTokens_eq (items : List Json) :
    itemTokens items = (items.map tokens).flatMap (.comma :: ·) := by
  induction items with
  | nil => rfl
  | cons item items ih => simp [itemTokens, ih]

theorem memberTokens_eq (members : List (String × Json)) :
    memberTokens members =
      (members.map fun m => .string (some m.1) :: .colon :: tokens m.2).flatMap (.comma :: ·) := by
  induction members with
  | nil => rfl
  | cons m members ih =>
    obtain ⟨k, v⟩ := m
    simp [memberTokens, ih]

theorem tokens_array (items : List Json) :
    tokens (.array items) = .openArray :: (separated (items.map tokens) ++ [.closeArray]) := by
  cases items with
  | nil => rfl
  | cons item items => simp [tokens, separated, itemTokens_eq]

theorem tokens_object (members : List (String × Json)) :
    tokens (.object members) = .openObject ::
      (separated (members.map fun m => .string (some m.1) :: .colon :: tokens m.2) ++
        [.closeObject]) := by
  cases members with
  | nil => rfl
  | cons m members =>
    obtain ⟨k, v⟩ := m
    simp [tokens, separated, memberTokens_eq]

/-- A value is spelled by its tokens. -/
theorem Plain.spells {j : Json} (h : j.Plain) : Spells (tokens j) j := by
  induction h with
  | null => exact .null
  | bool b => exact .bool b
  | @number n h => exact .number (some n)
  | string s => exact .string (some s)
  | @array items h ih =>
    have hitems : ∀ i ∈ items.map fun j => (tokens j, j), Spells i.1 i.2 := by
      intro i hi
      obtain ⟨j, hj, rfl⟩ := List.mem_map.1 hi
      exact ih j hj
    have hspells := Spells.array hitems
    rw [tokens_array]
    simpa [Function.comp_def] using hspells
  | @object members h ih =>
    have hmembers : ∀ m ∈ members.map fun m => (some m.1, tokens m.2, m.2),
        Spells m.2.1 m.2.2 := by
      intro m hm
      obtain ⟨m', hm', rfl⟩ := List.mem_map.1 hm
      exact ih m' hm'
    have hspells := Spells.object hmembers
    rw [List.map_map, List.map_map] at hspells
    have hobject : ofMembers (members.map
        (SpelledMember.toMember ∘ fun m => (some m.1, tokens m.2, m.2))) = .object members :=
      ofMembers_map_some members
    rw [hobject] at hspells
    rw [tokens_object]
    exact hspells

/-- A value reads back from a text that writes its tokens, whatever blanks follow it. -/
theorem read?_of_writes {j : Json} (h : j.Plain) {s blanks : List Char}
    (hs : Writes s (tokens j)) (hblanks : ∀ c ∈ blanks, isSpace c = true) :
    read? (s ++ blanks) = some j := by
  have htokens : Token.scan (s ++ blanks) = tokens j ++ [] := by
    rw [hs blanks (Number.stops_of_isSpace hblanks), Token.scan_blanks hblanks]
  rw [read?, htokens, List.append_nil]
  exact h.spells.ofTokens?

/-- A value reads back from its indented text, whatever blanks follow it. -/
theorem read?_pretty {j : Json} (h : j.Plain) {blanks : List Char}
    (hblanks : ∀ c ∈ blanks, isSpace c = true) : read? (pretty 0 j ++ blanks) = some j :=
  read?_of_writes h (writes_pretty h 0) hblanks

theorem read?_compact {j : Json} (h : j.Plain) : read? (compact j) = some j := by
  have hread := read?_of_writes h (writes_compact h) (List.forall_mem_nil _)
  rwa [List.append_nil] at hread

end SnippetCheck.Json
