import SnippetCheck.Arguments

/-! Options that only choose how a result is shown. Without such an option, wherever it stands, the
arguments are still taken, and nothing else of them changes. The proof runs the reader with the
option beside the reader without it: from the option on the first has one choice more, laid over
what the second has. -/

namespace SnippetCheck.Arguments

/-- The arguments without any choice of how a result is shown. -/
def bare (a : Arguments) : Arguments := { a with json := false, line := none }

/-- Options that only choose how a result is shown: as JSON, or one line of it. -/
inductive Shows : List String → Prop
  | json : Shows ["--json"]
  | letter : Shows ["-j"]
  | line {value : String} {n : Nat} : lineNumber? value.toList = some n → Shows ["--line", value]
  | lineValue {value : String} {n : Nat} : lineNumber? value.toList = some n →
    Shows ["--line=" ++ value]

/-- The arguments with choices of how a result is shown where they have none. -/
def overlay (json : Bool) (line : Option Nat) (a : Arguments) : Arguments :=
  { a with json := a.json || json, line := a.line.or line }

/-! ### One argument -/

inductive Shape where
  | separator
  | long (option : List Char)
  | cluster (letters : List Char)
  | plain

def shape : List Char → Shape
  | ['-', '-'] => .separator
  | '-' :: '-' :: option => .long option
  | '-' :: c :: rest => .cluster (c :: rest)
  | _ => .plain

theorem shape_eq_plain {s : List Char} (hseparator : s = ['-', '-'] → False)
    (hlong : ∀ option, s = '-' :: '-' :: option → False)
    (hcluster : ∀ c rest, s = '-' :: c :: rest → False) : shape s = .plain := by
  rw [shape]
  · exact hseparator
  · exact hlong
  · exact hcluster

theorem shape_of_head {s : List Char} (h : ∀ c ∈ s.head?, c ≠ '-') : shape s = .plain := by
  have hne (rest : List Char) : s ≠ '-' :: rest := by
    rintro rfl
    exact h '-' rfl rfl
  exact shape_eq_plain (hne _) (fun _ => hne _) fun _ _ => hne _

theorem eq_of_shape_separator {s : List Char} (h : shape s = .separator) : s = ['-', '-'] := by
  unfold shape at h
  split at h
  · rfl
  all_goals cases h

namespace Reading

/-- What has been read after one more argument, and whether only files may follow. -/
def next (r : Reading) (onlyFiles : Bool) (arg : String) : Except Halt (Reading × Bool) :=
  if onlyFiles then (r.file arg).map (·, true)
  else
    match shape arg.toList with
    | .separator => .ok (r, true)
    | .long option => (r.long option).map (·, false)
    | .cluster letters => (r.cluster letters).map (·, false)
    | .plain =>
      match r.pending with
      | some (s, none) => .ok ({ r with pending := some (s, some arg) }, false)
      | _ => (r.file arg).map (·, false)

theorem finish_cons (r : Reading) (onlyFiles : Bool) (arg : String) (args : List String) :
    r.finish onlyFiles (arg :: args) =
      (r.next onlyFiles arg).bind fun after => after.1.finish after.2 args := by
  have hmap (e : Except Halt Reading) (b : Bool) :
      (e >>= fun r => r.finish b args) =
        (e.map (·, b)).bind fun after => after.1.finish after.2 args := by
    cases e <;> rfl
  rw [finish, next]
  cases onlyFiles with
  | true => exact hmap _ true
  | false =>
    rw [if_neg Bool.false_ne_true, if_neg Bool.false_ne_true]
    split
    · next h =>
      rw [h]
      rfl
    · next hne h =>
      rw [h, shape]
      · exact hmap _ false
      · exact hne
    · next hsep hlong h =>
      rw [h, shape]
      · exact hmap _ false
      · exact hsep
      · exact hlong
    · next hpending hsep hlong hcluster =>
      rw [shape_eq_plain hsep hlong hcluster, hpending]
      rfl
    · next hsep hlong hcluster hpending =>
      simp only [shape_eq_plain hsep hlong hcluster]
      exact hmap _ false

theorem finish_cons_eq_ok {r : Reading} {onlyFiles : Bool} {arg : String} {args : List String}
    {a : Arguments} (h : r.finish onlyFiles (arg :: args) = .ok a) :
    ∃ r' b, r.next onlyFiles arg = .ok (r', b) ∧ r'.finish b args = .ok a := by
  rw [finish_cons] at h
  cases hnext : r.next onlyFiles arg with
  | error e =>
    rw [hnext] at h
    cases h
  | ok after =>
    rw [hnext] at h
    exact ⟨after.1, after.2, rfl, h⟩

theorem finish_cons_of_next {r r' : Reading} {b onlyFiles : Bool} {arg : String}
    (h : r.next onlyFiles arg = .ok (r', b)) (args : List String) :
    r.finish onlyFiles (arg :: args) = r'.finish b args := by
  rw [finish_cons, h]
  rfl

/-! ### Two readings that differ in what is shown -/

variable {json : Bool} {line : Option Nat}

/-- The reading `q` is the reading `r` with choices of how a result is shown laid over it. -/
structure Overlaid (json : Bool) (line : Option Nat) (r q : Reading) : Prop where
  settle : ∀ b, q.settle = .ok b → ∃ a, r.settle = .ok a ∧ b = a.overlay json line
  waits : ∀ s, r.pending = some (s, none) ↔ q.pending = some (s, none)
  settled : ∀ s, q.pending = some (s, none) → q.settled = r.settled.overlay json line
  hasFile : r.hasFile = q.hasFile

/-- What a setting does: it sets what was not set, or adds a dependency, and its value must do. -/
theorem set_eq_ok_iff {a b : Arguments} {s : Setting} {value : String} :
    a.set s value = .ok b ↔
      (s = .file ∧ a.file = none ∧ value ≠ "" ∧ b = { a with file := some value }) ∨
      (s = .configFile ∧ a.configFile = none ∧ value ≠ "" ∧
        b = { a with configFile := some value }) ∨
      (s = .url ∧ a.url = none ∧ b = { a with url := some value }) ∨
      (s = .dependency ∧ ∃ d, Dependency.ofText? value = some d ∧
        b = { a with dependencies := a.dependencies ++ [d] }) ∨
      (s = .line ∧ a.line = none ∧ ∃ n, lineNumber? value.toList = some n ∧
        b = { a with line := some n }) := by
  cases s with
  | file =>
    cases hfile : a.file <;> by_cases hv : value = "" <;>
      simp [set, path, hfile, hv, bind, Except.bind, pure, Except.pure, eq_comm, throw,
        throwThe, MonadExceptOf.throw]
  | configFile =>
    cases hfile : a.configFile <;> by_cases hv : value = "" <;>
      simp [set, path, hfile, hv, bind, Except.bind, pure, Except.pure, eq_comm, throw,
        throwThe, MonadExceptOf.throw]
  | url =>
    cases hurl : a.url <;>
      simp [set, hurl, bind, Except.bind, pure, Except.pure, eq_comm, throw,
        throwThe, MonadExceptOf.throw]
  | dependency =>
    cases hd : Dependency.ofText? value <;> simp [set, hd, eq_comm]
  | line =>
    cases hline : a.line <;> cases hn : lineNumber? value.toList <;>
      simp [set, hline, hn, bind, Except.bind, pure, Except.pure, eq_comm, throw,
        throwThe, MonadExceptOf.throw]

theorem set_overlay {a b : Arguments} {s : Setting} {value : String}
    (h : (a.overlay json line).set s value = .ok b) :
    ∃ a', a.set s value = .ok a' ∧ b = a'.overlay json line := by
  obtain ⟨rfl, hfree, hv, rfl⟩ | ⟨rfl, hfree, hv, rfl⟩ | ⟨rfl, hfree, rfl⟩ | ⟨rfl, d, hd, rfl⟩ |
    ⟨rfl, hfree, n, hn, rfl⟩ := set_eq_ok_iff.1 h
  · exact ⟨_, set_eq_ok_iff.2 (.inl ⟨rfl, hfree, hv, rfl⟩), rfl⟩
  · exact ⟨_, set_eq_ok_iff.2 (.inr (.inl ⟨rfl, hfree, hv, rfl⟩)), rfl⟩
  · exact ⟨_, set_eq_ok_iff.2 (.inr (.inr (.inl ⟨rfl, hfree, rfl⟩))), rfl⟩
  · exact ⟨_, set_eq_ok_iff.2 (.inr (.inr (.inr (.inl ⟨rfl, d, hd, rfl⟩)))), rfl⟩
  · -- the line is set here only if no choice of a line was laid over the arguments
    obtain ⟨hnone, hline⟩ := Option.or_eq_none_iff.1 hfree
    refine ⟨_, set_eq_ok_iff.2 (.inr (.inr (.inr (.inr ⟨rfl, hnone, n, hn, rfl⟩)))), ?_⟩
    simp [overlay]

/-- Readings with the same value still to settle. -/
theorem overlaid_pending (json : Bool) (line : Option Nat) (a : Arguments)
    (pending : Option (Setting × Option String)) :
    Overlaid json line { settled := a, pending } { settled := a.overlay json line, pending } where
  settle b h := by
    match pending with
    | none => exact ⟨a, rfl, (Except.ok.inj h).symm⟩
    | some (_, none) => cases h
    | some (s, some value) => exact set_overlay h
  waits _ := Iff.rfl
  settled _ _ := rfl
  hasFile := rfl

variable {r q q' : Reading}

theorem turnOn_overlay {a : Arguments} {s : Switch} (h : (a.overlay json line).isOn s = false) :
    a.isOn s = false ∧ (a.overlay json line).turnOn s = (a.turnOn s).overlay json line := by
  cases s with
  | json =>
    obtain ⟨ha, hjson⟩ := Bool.or_eq_false_iff.1 h
    exact ⟨ha, by simp [overlay, turnOn]⟩
  | _ => exact ⟨h, rfl⟩

theorem act_eq_ok_iff {r r' : Reading} {s : Switch} :
    r.act s = .ok r' ↔
      ∃ a, r.settle = .ok a ∧ a.isOn s = false ∧ r' = { settled := a.turnOn s } := by
  constructor
  · intro h
    obtain ⟨a, ha, h⟩ := exists_of_bind_eq_ok h
    cases hon : a.isOn s with
    | true =>
      rw [hon] at h
      cases h
    | false =>
      rw [hon] at h
      exact ⟨a, ha, hon, (Except.ok.inj h).symm⟩
  · rintro ⟨a, ha, hoff, rfl⟩
    unfold act
    rw [ha]
    simp only [bind, Except.bind, hoff]
    rfl

theorem Overlaid.act (h : Overlaid json line r q) {s : Switch} (hq : q.act s = .ok q') :
    ∃ r', r.act s = .ok r' ∧ Overlaid json line r' q' := by
  obtain ⟨b, hb, hoff, rfl⟩ := act_eq_ok_iff.1 hq
  obtain ⟨a, ha, rfl⟩ := h.settle b hb
  obtain ⟨hoff, hon⟩ := turnOn_overlay hoff
  rw [hon]
  exact ⟨_, act_eq_ok_iff.2 ⟨a, ha, hoff, rfl⟩, overlaid_pending json line _ none⟩

theorem Overlaid.start (h : Overlaid json line r q) {s : Setting} {value : Option String}
    (hq : q.start s value = .ok q') :
    ∃ r', r.start s value = .ok r' ∧ Overlaid json line r' q' := by
  obtain ⟨b, hb, hq⟩ := exists_of_bind_eq_ok hq
  obtain ⟨a, ha, rfl⟩ := h.settle b hb
  unfold Reading.start
  rw [ha]
  cases value with
  | none =>
    obtain rfl := Except.ok.inj hq
    exact ⟨_, rfl, overlaid_pending json line a _⟩
  | some value =>
    obtain ⟨b', hb', hq⟩ := exists_of_bind_eq_ok hq
    obtain ⟨a', ha', rfl⟩ := set_overlay hb'
    obtain rfl := Except.ok.inj hq
    exact ⟨{ settled := a' }, by simp [ha', bind, Except.bind, pure, Except.pure],
      overlaid_pending json line a' none⟩

theorem Overlaid.file (h : Overlaid json line r q) {name : String} (hq : q.file name = .ok q') :
    ∃ r', r.file name = .ok r' ∧ Overlaid json line r' q' := by
  unfold Reading.file at hq ⊢
  rw [h.hasFile]
  split at hq
  · cases hq
  · next hfile =>
    obtain ⟨b, hb, hq⟩ := exists_of_bind_eq_ok hq
    obtain ⟨a, ha, rfl⟩ := h.settle b hb
    obtain rfl := Except.ok.inj hq
    rw [if_neg hfile, ha]
    exact ⟨_, rfl, overlaid_pending json line a _⟩

theorem Overlaid.long (h : Overlaid json line r q) {option : List Char}
    (hq : q.long option = .ok q') :
    ∃ r', r.long option = .ok r' ∧ Overlaid json line r' q' := by
  unfold Reading.long at hq ⊢
  simp only at hq ⊢
  split at hq
  · cases hq
  · exact h.start hq
  · cases hq
  · exact h.act hq
  · obtain ⟨b, hb, hq⟩ := exists_of_bind_eq_ok hq
    cases hq

theorem Overlaid.cluster (h : Overlaid json line r q) {letters : List Char}
    (hq : q.cluster letters = .ok q') :
    ∃ r', r.cluster letters = .ok r' ∧ Overlaid json line r' q' := by
  induction letters generalizing r q with
  | nil =>
    obtain rfl := Except.ok.inj hq
    exact ⟨r, rfl, h⟩
  | cons c rest ih =>
    unfold Reading.cluster at hq ⊢
    split at hq
    · cases hq
    · obtain ⟨q₁, hact, hq⟩ := exists_of_bind_eq_ok hq
      obtain ⟨r₁, hr₁, h₁⟩ := h.act hact
      rw [hr₁]
      exact ih h₁ hq
    · obtain ⟨b, hb, hq⟩ := exists_of_bind_eq_ok hq
      cases hq
    · split at hq
      · exact h.start hq
      · exact h.start hq
      · exact h.start hq

theorem exists_overlaid_of_map {x y : Except Halt Reading} {b b' : Bool}
    (h : ∀ q, y = .ok q → ∃ r, x = .ok r ∧ Overlaid json line r q)
    (hq : y.map (·, b') = .ok (q', b)) :
    ∃ r', x.map (·, b') = .ok (r', b) ∧ Overlaid json line r' q' := by
  obtain ⟨q₁, hq₁, heq⟩ := exists_of_map_eq_ok hq
  obtain ⟨rfl, rfl⟩ := Prod.mk.inj heq
  obtain ⟨r₁, rfl, h₁⟩ := h q₁ hq₁
  exact ⟨r₁, rfl, h₁⟩

theorem Overlaid.next (h : Overlaid json line r q) {onlyFiles b : Bool} {arg : String}
    (hq : q.next onlyFiles arg = .ok (q', b)) :
    ∃ r', r.next onlyFiles arg = .ok (r', b) ∧ Overlaid json line r' q' := by
  unfold Reading.next at hq ⊢
  split at hq
  · next hfiles =>
    rw [if_pos hfiles]
    exact exists_overlaid_of_map (fun _ => h.file) hq
  · next hfiles =>
    rw [if_neg hfiles]
    split at hq
    · next hshape =>
      obtain ⟨rfl, rfl⟩ := Prod.mk.inj (Except.ok.inj hq)
      exact ⟨r, rfl, h⟩
    · exact exists_overlaid_of_map (fun _ => h.long) hq
    · exact exists_overlaid_of_map (fun _ => h.cluster) hq
    · split at hq
      · next s hs =>
        obtain ⟨rfl, rfl⟩ := Prod.mk.inj (Except.ok.inj hq)
        rw [(h.waits s).2 hs, h.settled s hs]
        exact ⟨_, rfl, overlaid_pending json line _ _⟩
      · next hs =>
        split
        · next s hr => exact absurd ((h.waits s).1 hr) (hs s)
        · exact exists_overlaid_of_map (fun _ => h.file) hq

theorem Overlaid.finish (h : Overlaid json line r q) {onlyFiles : Bool} {args : List String}
    {b : Arguments} (hq : q.finish onlyFiles args = .ok b) :
    ∃ a, r.finish onlyFiles args = .ok a ∧ b = a.overlay json line := by
  induction args generalizing r q onlyFiles with
  | nil => exact h.settle b hq
  | cons arg args ih =>
    obtain ⟨q₁, b₁, hnext, hq⟩ := finish_cons_eq_ok hq
    obtain ⟨r₁, hr₁, h₁⟩ := h.next hnext
    rw [finish_cons_of_next hr₁]
    exact ih h₁ hq

/-! ### The option taken away -/

theorem hasFile_of_settle {a : Arguments} (h : r.settle = .ok a) : r.hasFile = a.file.isSome := by
  obtain ⟨settled, pending⟩ := r
  match pending with
  | none =>
    obtain rfl := Except.ok.inj h
    exact Bool.or_false _
  | some (_, none) => cases h
  | some (s, some value) =>
    obtain ⟨rfl, -, -, rfl⟩ | ⟨rfl, -, -, rfl⟩ | ⟨rfl, -, rfl⟩ | ⟨rfl, d, -, rfl⟩ |
      ⟨rfl, -, n, -, rfl⟩ := set_eq_ok_iff.1 h
    · exact Bool.or_true _
    all_goals exact Bool.or_false _

/-- A reading with a value that nothing more can change, and one that will settle the same but for
choices of how a result is shown. -/
theorem overlaid_of_settle {a : Arguments} (hr : r.settle = .ok a)
    (hq : ∀ b, q.settle = .ok b → b = a.overlay json line)
    (hwaits : ∀ s, q.pending ≠ some (s, none)) (hfile : q.hasFile = a.file.isSome) :
    Overlaid json line r q where
  settle b hb := ⟨a, hr, hq b hb⟩
  waits s := by
    refine iff_of_false (fun hs => ?_) (hwaits s)
    rw [Reading.settle, hs] at hr
    cases hr
  settled s hs := absurd hs (hwaits s)
  hasFile := (hasFile_of_settle hr).trans hfile.symm

theorem overlaid_settled {a : Arguments} (hr : r.settle = .ok a) :
    Overlaid json line r { settled := a.overlay json line } := by
  refine overlaid_of_settle hr (fun b hb => (Except.ok.inj hb).symm) ?_ (Bool.or_false _)
  intro s hs
  cases hs

theorem turnOn_json (a : Arguments) : a.turnOn .json = a.overlay true none := by
  simp [turnOn, overlay]

theorem eq_overlay_of_line {a b : Arguments} {value : String} {n : Nat}
    (hn : lineNumber? value.toList = some n) (h : a.set .line value = .ok b) :
    b = a.overlay false (some n) := by
  obtain ⟨⟨⟩, -⟩ | ⟨⟨⟩, -⟩ | ⟨⟨⟩, -⟩ | ⟨⟨⟩, -⟩ | ⟨-, hfree, m, hm, rfl⟩ := set_eq_ok_iff.1 h
  obtain rfl := Option.some.inj (hm.symm.trans hn)
  simp [overlay, hfree]

theorem next_json (r : Reading) : r.next false "--json" = (r.act .json).map (·, false) := rfl

theorem next_letter (r : Reading) : r.next false "-j" = (r.act .json).map (·, false) := by
  have : r.next false "-j" = (r.act .json >>= (·.cluster [])).map (·, false) := rfl
  rw [this]
  cases r.act .json <;> rfl

theorem next_line (r : Reading) : r.next false "--line" = (r.start .line none).map (·, false) := rfl

theorem next_lineValue (r : Reading) (value : String) :
    r.next false ("--line=" ++ value) = (r.start .line (some value)).map (·, false) := by
  unfold next
  rw [String.toList_append]
  show (r.long ("line=".toList ++ value.toList)).map (·, false) = _
  have hname : ("line=".toList ++ value.toList).takeWhile (· != '=') = "line".toList := rfl
  have hvalue : ("line=".toList ++ value.toList).dropWhile (· != '=') = '=' :: value.toList := rfl
  unfold long
  rw [hname, hvalue]
  simp only [String.ofList_toList]
  rfl

theorem shape_of_lineNumber? {value : List Char} {n : Nat} (h : lineNumber? value = some n) :
    shape value = .plain := by
  apply shape_of_head
  rintro c hc rfl
  cases value with
  | nil => cases hc
  | cons d rest =>
    obtain rfl := Option.some.inj hc
    have hnone : lineNumber? ('-' :: rest) = none := by
      simp [lineNumber?]
    rw [hnone] at h
    cases h

theorem exists_overlaid_of_act {arg : String} {after : List String} {b : Arguments}
    (harg : r.next false arg = (r.act .json).map (·, false))
    (hq : r.finish false (arg :: after) = .ok b) :
    ∃ q, Overlaid true none r q ∧ q.finish false after = .ok b := by
  obtain ⟨q, b₁, hnext, hq⟩ := finish_cons_eq_ok hq
  rw [harg] at hnext
  obtain ⟨q, hact, heq⟩ := exists_of_map_eq_ok hnext
  obtain ⟨rfl, rfl⟩ := Prod.mk.inj heq
  obtain ⟨a, ha, -, rfl⟩ := act_eq_ok_iff.1 hact
  rw [turnOn_json] at hq
  exact ⟨_, overlaid_settled ha, hq⟩

/-- An option that only chooses how a result is shown leads to a reading with one choice more. -/
theorem exists_overlaid_of_shows {shown after : List String} {b : Arguments} (h : Shows shown)
    (hq : r.finish false (shown ++ after) = .ok b) :
    ∃ json line q, Overlaid json line r q ∧ q.finish false after = .ok b := by
  cases h with
  | json => exact ⟨true, none, exists_overlaid_of_act (next_json r) hq⟩
  | letter => exact ⟨true, none, exists_overlaid_of_act (next_letter r) hq⟩
  | @line value n hn =>
    -- the value is still to settle, and the next thing read settles it
    obtain ⟨q, b₁, hnext, hq⟩ := finish_cons_eq_ok hq
    rw [next_line] at hnext
    obtain ⟨q, hstart, heq⟩ := exists_of_map_eq_ok hnext
    obtain ⟨rfl, rfl⟩ := Prod.mk.inj heq
    obtain ⟨a, ha, hstart⟩ := exists_of_bind_eq_ok hstart
    obtain rfl := Except.ok.inj hstart
    obtain ⟨q, b₁, hnext, hq⟩ := finish_cons_eq_ok hq
    simp only [next, Bool.false_eq_true, if_false, shape_of_lineNumber? hn] at hnext
    obtain ⟨rfl, rfl⟩ := Prod.mk.inj (Except.ok.inj hnext)
    have hover : Overlaid false (some n) r
        { settled := a, pending := some (.line, some value) } := by
      refine overlaid_of_settle ha ?_ ?_ (Bool.or_false _)
      · intro b hb
        exact eq_overlay_of_line hn hb
      · intro s hs
        cases hs
    exact ⟨false, some n, _, hover, hq⟩
  | @lineValue value n hn =>
    obtain ⟨q, b₁, hnext, hq⟩ := finish_cons_eq_ok hq
    rw [next_lineValue] at hnext
    obtain ⟨q, hstart, heq⟩ := exists_of_map_eq_ok hnext
    obtain ⟨rfl, rfl⟩ := Prod.mk.inj heq
    obtain ⟨a, ha, hstart⟩ := exists_of_bind_eq_ok hstart
    obtain ⟨a', ha', hstart⟩ := exists_of_bind_eq_ok hstart
    obtain rfl := Except.ok.inj hstart
    obtain rfl := eq_overlay_of_line hn ha'
    exact ⟨false, some n, _, overlaid_settled ha, hq⟩

theorem eq_false_of_next {r' : Reading} {b : Bool} {arg : String}
    (h : r.next false arg = .ok (r', b)) (harg : "--" ≠ arg) : b = false := by
  have hmap {e : Except Halt Reading} (h : e.map (·, false) = .ok (r', b)) : b = false := by
    obtain ⟨_, -, heq⟩ := exists_of_map_eq_ok h
    exact (Prod.mk.inj heq).2.symm
  simp only [next, Bool.false_eq_true, if_false] at h
  split at h
  · next hshape => exact absurd (String.toList_inj.1 (eq_of_shape_separator hshape)).symm harg
  · exact hmap h
  · exact hmap h
  · split at h
    · exact (Prod.mk.inj (Except.ok.inj h)).2.symm
    · exact hmap h

/-- What is read before the option is read without it too. -/
theorem finish_of_shows {before shown after : List String} {b : Arguments} (h : Shows shown)
    (hbefore : "--" ∉ before) (hq : r.finish false (before ++ shown ++ after) = .ok b) :
    ∃ a json line, r.finish false (before ++ after) = .ok a ∧ b = a.overlay json line := by
  induction before generalizing r with
  | nil =>
    obtain ⟨json, line, q, hover, hq⟩ := exists_overlaid_of_shows h hq
    obtain ⟨a, ha, hb⟩ := hover.finish hq
    exact ⟨a, json, line, ha, hb⟩
  | cons arg before ih =>
    rw [List.mem_cons, not_or] at hbefore
    obtain ⟨r', b₁, hnext, hq⟩ := finish_cons_eq_ok hq
    obtain rfl := eq_false_of_next hnext hbefore.1
    rw [List.cons_append, finish_cons_of_next hnext]
    exact ih hbefore.2 hq

end Reading

/-- Without an option that only chooses how a result is shown, the arguments are still taken, and
nothing else of them changes. -/
theorem read_of_shows {before shown after : List String} {b : Arguments} (h : Shows shown)
    (hbefore : "--" ∉ before) (hread : read (before ++ shown ++ after) = .ok b) :
    ∃ a, read (before ++ after) = .ok a ∧ a.bare = b.bare := by
  obtain ⟨a, json, line, ha, rfl⟩ := Reading.finish_of_shows h hbefore hread
  exact ⟨a, ha, rfl⟩

end SnippetCheck.Arguments
