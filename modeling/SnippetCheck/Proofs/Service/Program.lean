import SnippetCheck.Proofs.Service.Runs

/-! Operations in single steps. Where operations on one service run at the same time, others can
come between any two steps of one: a load or a store of the flag, a request, and giving the result.
A program is what an operation has still to do. Its steps taken without a break add up to the
operation as `Service.take` has it, and what it has done at any time is settled by what its own
steps brought. -/

namespace SnippetCheck.Service

/-- What is asked of a service. -/
inductive Operation where
  | check (source : String) (options : CheckOptions)
  | probe
  | backgroundProbe
  | reset

def Operation.step (b : Backends) : Operation → Step
  | check source options => .check b source options
  | probe => .probe b
  | backgroundProbe => .backgroundProbe b
  | reset => .reset

inductive Program where
  | load (next : Availability → Program)
  | store (a : Availability) (next : Program)
  | health (next : Except Failure Json → Program)
  | check (request : CheckRequest) (next : Except Failure CheckReply → Program)
  | execute (request : ExecuteRequest) (next : Except Failure ExecuteReply → Program)
  | give (answer : Answer)
  | ended

/-! ### Programs -/

def fallBackProgram (s : Service) (source why : String) : Program :=
  match s.secondary with
  | none => .give (.outcome (.error (noService why "disabled")))
  | some _ => .execute (.ofCode source s.config) fun
    | .ok reply => .give (.outcome (.ok (reply.report s.config)))
    | .error e => .give (.outcome (.error (noService why e.message)))

/-- What a check does after the primary service answered it. -/
def repliedProgram (s : Service) (source : String) : Except Failure CheckReply → Program
  | .ok reply => .store (.ofOutcome true) (.give (.outcome (.ok reply.result.complete)))
  | .error e => .store (.ofOutcome false) (s.fallBackProgram source e.message)

def checkProgram (s : Service) (source : String) (options : CheckOptions) : Program :=
  .load fun a =>
    if a.worthTrying then .check (.ofOptions s.config source options) (s.repliedProgram source)
    else s.fallBackProgram source "marked unavailable"

def probeProgram : Program :=
  .health fun reply =>
    let ready := match reply with
      | .ok body => Health.isReady body
      | .error _ => false
    .store (.ofOutcome ready) (.give (.ready ready))

/-- What an operation does, with the settings and the services of `s`. -/
def program (s : Service) : Operation → Program
  | .check source options => s.checkProgram source options
  | .probe | .backgroundProbe => probeProgram
  | .reset => .store .unknown (.give .nothing)

/-! ### Steps -/

/-- A step that was taken, with what it brought. -/
inductive Action where
  | load (seen : Availability)
  | store (a : Availability)
  | health (reply : Except Failure Json)
  | check (request : CheckRequest) (reply : Except Failure CheckReply)
  | execute (request : ExecuteRequest) (reply : Except Failure ExecuteReply)
  | give (answer : Answer)

namespace Action

def seen? : Action → Option Availability
  | load a => some a
  | _ => none

def stored? : Action → Option Availability
  | store a => some a
  | _ => none

def call? : Action → Option Call
  | health _ => some .health
  | check request _ => some (.check request)
  | execute request _ => some (.execute request)
  | load _ | store _ | give _ => none

def given? : Action → Option Answer
  | give answer => some answer
  | _ => none

/-- The flag read `a`, or a service answered as `b` says, if that is what the step asked for. -/
def Agrees (b : Backends) (a : Availability) : Action → Prop
  | load seen => seen = a
  | health reply => b.health = reply
  | check request reply => b.check request = reply
  | execute request reply => b.execute request = reply
  | store _ | give _ => True

end Action

namespace Program

/-- A step and what is to do after it. -/
inductive Takes : Program → Action → Program → Prop
  | load (next : Availability → Program) (a : Availability) : Takes (.load next) (.load a) (next a)
  | store (a : Availability) (next : Program) : Takes (.store a next) (.store a) next
  | health (next : Except Failure Json → Program) (reply : Except Failure Json) :
    Takes (.health next) (.health reply) (next reply)
  | check (request : CheckRequest) (next : Except Failure CheckReply → Program)
      (reply : Except Failure CheckReply) :
    Takes (.check request next) (.check request reply) (next reply)
  | execute (request : ExecuteRequest) (next : Except Failure ExecuteReply → Program)
      (reply : Except Failure ExecuteReply) :
    Takes (.execute request next) (.execute request reply) (next reply)
  | give (answer : Answer) : Takes (.give answer) (.give answer) .ended

/-- Steps that a program takes one after another. -/
inductive Path : Program → List Action → Program → Prop
  | nil (p : Program) : Path p [] p
  | cons {p q r : Program} {action : Action} {actions : List Action} :
    Takes p action q → Path q actions r → Path p (action :: actions) r

/-- The steps of a program where the flag reads `a` and the services answer as `b` says. -/
def actions (b : Backends) (a : Availability) : Program → List Action
  | load next => .load a :: (next a).actions b a
  | store a' next => .store a' :: next.actions b a
  | health next => .health b.health :: (next b.health).actions b a
  | check request next => .check request (b.check request) :: (next (b.check request)).actions b a
  | execute request next =>
    .execute request (b.execute request) :: (next (b.execute request)).actions b a
  | give answer => [.give answer]
  | ended => []

variable {p q : Program} {b : Backends} {a : Availability} {l : List Action}

theorem Takes.actions_eq {action : Action} (h : Takes p action q) (hb : action.Agrees b a) :
    p.actions b a = action :: q.actions b a := by
  cases h with
  | load next seen =>
    obtain rfl : seen = a := hb
    rfl
  | store a next => rfl
  | health next reply =>
    obtain rfl : b.health = reply := hb
    rfl
  | check request next reply =>
    obtain rfl : b.check request = reply := hb
    rfl
  | execute request next reply =>
    obtain rfl : b.execute request = reply := hb
    rfl
  | give answer => rfl

theorem Path.append {r : Program} {l' : List Action} (h : Path p l q) (h' : Path q l' r) :
    Path p (l ++ l') r := by
  induction h with
  | nil => exact h'
  | cons hstep _ ih => exact .cons hstep (ih h')

/-- What a program has done is settled by what its steps brought. -/
theorem Path.actions_eq (h : Path p l q) (hb : ∀ action ∈ l, action.Agrees b a) :
    p.actions b a = l ++ q.actions b a := by
  induction h with
  | nil p => rfl
  | cons hstep _ ih =>
    obtain ⟨hfirst, hrest⟩ := List.forall_mem_cons.1 hb
    rw [hstep.actions_eq hfirst, ih hrest, List.cons_append]

theorem Path.begins (h : Path p l q) (hb : ∀ action ∈ l, action.Agrees b a) :
    l <+: p.actions b a :=
  ⟨q.actions b a, (h.actions_eq hb).symm⟩

/-- A program that is not at its end has a step, whatever the flag reads. -/
theorem exists_takes (a : Availability) (h : p ≠ .ended) :
    ∃ action q, p.Takes action q ∧ ∀ seen, action = .load seen → seen = a := by
  cases p with
  | load next => exact ⟨_, _, .load next a, fun _ hload => (Action.load.inj hload).symm⟩
  | store a' next => exact ⟨_, _, .store a' next, nofun⟩
  | health next => exact ⟨_, _, .health next (.error .notJson), nofun⟩
  | check request next => exact ⟨_, _, .check request next (.error .notJson), nofun⟩
  | execute request next => exact ⟨_, _, .execute request next (.error .notJson), nofun⟩
  | give answer => exact ⟨_, _, .give answer, nofun⟩
  | ended => exact absurd rfl h

end Program

/-! ### Operations alone -/

theorem actions_fallBackProgram (s : Service) (b : Backends) (a : Availability)
    (source why : String) :
    let request := ExecuteRequest.ofCode source s.config
    (s.fallBackProgram source why).actions b a =
      (s.secondary.toList.map fun _ => .execute request (b.execute request)) ++
        [.give (.outcome (s.fallBack b source why).1)] := by
  intro request
  unfold fallBackProgram fallBack
  cases s.secondary with
  | none => rfl
  | some name => cases h : b.execute request <;> simp [Program.actions, request, h]

/-- The steps of falling back ask and give what falling back does, and leave the flag alone. -/
theorem filterMap_fallBackProgram (s : Service) (b : Backends) (a : Availability)
    (source why : String) :
    let actions := (s.fallBackProgram source why).actions b a
    actions.filterMap Action.call? = (s.fallBack b source why).2 ∧
      actions.filterMap Action.given? = [.outcome (s.fallBack b source why).1] ∧
      actions.filterMap Action.stored? = [] ∧ actions.filterMap Action.seen? = [] := by
  intro actions
  have hactions : actions = _ := actions_fallBackProgram s b a source why
  rw [hactions, fallBack_eq]
  cases s.secondary <;> exact ⟨rfl, rfl, rfl, rfl⟩

/-- The steps of a check where the flag reads `a`. -/
theorem actions_checkProgram (s : Service) (b : Backends) (a : Availability) (source : String)
    (options : CheckOptions) :
    let request := CheckRequest.ofOptions s.config source options
    let actions := (s.checkProgram source options).actions b a
    (a.worthTrying = true ∧ ∃ reply, b.check request = .ok reply ∧
      actions = [.load a, .check request (.ok reply), .store .available,
        .give (.outcome (.ok reply.result.complete))]) ∨
    (a.worthTrying = true ∧ ∃ e, b.check request = .error e ∧
      actions = [.load a, .check request (.error e), .store .unavailable] ++
        (s.fallBackProgram source e.message).actions b a) ∨
    (a.worthTrying = false ∧
      actions = [.load a] ++ (s.fallBackProgram source "marked unavailable").actions b a) := by
  intro request actions
  cases hw : a.worthTrying with
  | false =>
    refine .inr (.inr ⟨rfl, ?_⟩)
    simp [actions, checkProgram, Program.actions, hw]
  | true =>
    cases hc : b.check request with
    | ok reply =>
      refine .inl ⟨rfl, reply, rfl, ?_⟩
      simp [actions, checkProgram, repliedProgram, Program.actions, hw, request, hc,
        Availability.ofOutcome]
    | error e =>
      refine .inr (.inl ⟨rfl, e, rfl, ?_⟩)
      simp [actions, checkProgram, repliedProgram, Program.actions, hw, request, hc,
        Availability.ofOutcome]

/-- Without a break the steps of an operation add up to it: they ask what it asks, give what it
gives, and leave the flag as it does. -/
theorem actions_program (s : Service) (b : Backends) (operation : Operation) :
    let actions := (s.program operation).actions b s.availability
    let taken := s.take (operation.step b)
    actions.filterMap Action.call? = taken.1.calls ∧
      actions.filterMap Action.given? = [taken.1.answer] ∧
      (actions.filterMap Action.stored?).getLast?.getD s.availability = taken.2.availability := by
  cases operation with
  | probe => exact ⟨rfl, rfl, rfl⟩
  | backgroundProbe => exact ⟨rfl, rfl, rfl⟩
  | reset => exact ⟨rfl, rfl, rfl⟩
  | check source options =>
    intro actions taken
    have htaken : taken = ({ step := .check b source options
                             calls := (s.check b source options).2.2
                             answer := .outcome (s.check b source options).1 },
      (s.check b source options).2.1) := rfl
    obtain ⟨hw, reply, hc, hactions⟩ | ⟨hw, e, hc, hactions⟩ | ⟨hw, hactions⟩ :=
      actions_checkProgram s b s.availability source options
    · have hactions : actions = _ := hactions
      rw [htaken, check_of_check_ok hw hc, hactions]
      exact ⟨rfl, rfl, rfl⟩
    · have hactions : actions = _ := hactions
      obtain ⟨hcalls, hgiven, hstored, -⟩ :=
        filterMap_fallBackProgram s b s.availability source e.message
      rw [htaken, check_of_check_error hw hc, hactions]
      simp only [List.filterMap_append, hcalls, hgiven, hstored]
      exact ⟨rfl, rfl, rfl⟩
    · have hactions : actions = _ := hactions
      obtain ⟨hcalls, hgiven, hstored, -⟩ :=
        filterMap_fallBackProgram s b s.availability source "marked unavailable"
      rw [htaken, check_of_not_worthTrying hw, hactions]
      simp only [List.filterMap_append, hcalls, hgiven, hstored]
      exact ⟨rfl, rfl, rfl⟩

/-! ### Checks among others -/

/-- What holds of the steps that a check has taken so far: each service was asked at most once, the
secondary one only for a reason, and the result is that of the check alone, where the flag holds
what the check loaded and the services answer as they did. -/
structure CheckRule (s : Service) (source : String) (options : CheckOptions) (l : List Action) :
    Prop where
  atMost : l.length ≤ 5
  loadOnce : (l.filterMap Action.seen?).length ≤ 1
  primaryOnce : ((l.filterMap Action.call?).filterMap Call.checkRequest?).length ≤ 1
  secondaryOnce : ((l.filterMap Action.call?).filterMap Call.executeRequest?).length ≤ 1
  secondaryWhy : ∀ request reply, .execute request reply ∈ l →
    .load .unavailable ∈ l ∨ ∃ request e, .check request (.error e) ∈ l
  leavesFlag : .load .unavailable ∈ l → ∀ a, .store a ∉ l
  result : ∀ answer, .give answer ∈ l → ∃ a, .load a ∈ l ∧
    (∃ b, ∀ action ∈ l, action.Agrees b a) ∧
    ∀ b, (∀ action ∈ l, action.Agrees b a) →
      answer = .outcome ({ s with availability := a }.check b source options).1

section Checks

variable {s : Service} {source : String} {options : CheckOptions} {l : List Action} {q : Program}

theorem eq_give_of_path {answer : Answer} (h : (Program.give answer).Path l q) :
    ∀ action ∈ l, action = .give answer := by
  cases h with
  | nil => simp
  | cons hstep h =>
    cases hstep
    cases h with
    | nil => simp
    | cons hstep => cases hstep

/-- A path of falling back asks the secondary service at most once and then gives a result. -/
theorem exists_reply_of_path {why : String} (h : (s.fallBackProgram source why).Path l q) :
    ∃ reply, ∀ action ∈ l, (∃ request, action = .execute request reply) ∨
      ∃ answer, action = .give answer := by
  unfold fallBackProgram at h
  cases hs : s.secondary with
  | none =>
    rw [hs] at h
    exact ⟨.error .notJson, fun action hmem => .inr ⟨_, eq_give_of_path h action hmem⟩⟩
  | some name =>
    rw [hs] at h
    cases h with
    | nil => exact ⟨.error .notJson, by simp⟩
    | cons hstep h =>
      cases hstep with
      | execute request next reply =>
        refine ⟨reply, List.forall_mem_cons.2 ⟨.inl ⟨_, rfl⟩, fun action hmem => .inr ?_⟩⟩
        cases reply <;> exact ⟨_, eq_give_of_path h action hmem⟩

/-- Services that have one answer each to whatever they are asked. -/
def alike (reply : Except Failure CheckReply) (output : Except Failure ExecuteReply) : Backends :=
  { health := .error .notJson, check := fun _ => reply, execute := fun _ => output }

theorem agrees_alike_of_path {why : String} (h : (s.fallBackProgram source why).Path l q) :
    ∃ output, ∀ reply a, ∀ action ∈ l, action.Agrees (alike reply output) a := by
  obtain ⟨output, hl⟩ := exists_reply_of_path h
  refine ⟨output, fun reply a action hmem => ?_⟩
  obtain ⟨request, rfl⟩ | ⟨answer, rfl⟩ := hl action hmem
  · rfl
  · trivial

theorem agrees_alike_of_path_replied {reply : Except Failure CheckReply}
    (h : (s.repliedProgram source reply).Path l q) :
    ∃ output, ∀ a, ∀ action ∈ l, action.Agrees (alike reply output) a := by
  cases reply with
  | ok reply =>
    refine ⟨.error .notJson, fun a => ?_⟩
    cases h with
    | nil => simp
    | cons hstep h =>
      cases hstep
      refine List.forall_mem_cons.2 ⟨trivial, fun action hmem => ?_⟩
      rw [eq_give_of_path h action hmem]
      trivial
  | error e =>
    cases h with
    | nil => exact ⟨.error .notJson, by simp⟩
    | cons hstep h =>
      cases hstep
      obtain ⟨output, hl⟩ := agrees_alike_of_path h
      exact ⟨output, fun a => List.forall_mem_cons.2 ⟨trivial, hl _ a⟩⟩

/-- The steps of a check agree with one value of the flag and with some services: a check loads
once, and asks no service twice. -/
theorem exists_agrees_of_path (h : (s.checkProgram source options).Path l q) :
    ∃ b a, ∀ action ∈ l, action.Agrees b a := by
  let nobody := alike (.error .notJson) (.error .notJson)
  cases h with
  | nil => exact ⟨nobody, .unknown, by simp⟩
  | cons hstep h =>
    cases hstep with
    | load next a =>
      simp only at h
      split at h
      · cases h with
        | nil => exact ⟨nobody, a, List.forall_mem_cons.2 ⟨rfl, by simp⟩⟩
        | cons hstep h =>
          cases hstep with
          | check request next reply =>
            obtain ⟨output, hl⟩ := agrees_alike_of_path_replied h
            exact ⟨alike reply output, a,
              List.forall_mem_cons.2 ⟨rfl, List.forall_mem_cons.2 ⟨rfl, hl a⟩⟩⟩
      · obtain ⟨output, hl⟩ := agrees_alike_of_path h
        exact ⟨_, a, List.forall_mem_cons.2 ⟨rfl, hl (.error .notJson) a⟩⟩

theorem filterMap_seen?_checkProgram (s : Service) (b : Backends) (a : Availability)
    (source : String) (options : CheckOptions) :
    ((s.checkProgram source options).actions b a).filterMap Action.seen? = [a] := by
  have hfallBack (why : String) := (filterMap_fallBackProgram s b a source why).2.2.2
  obtain ⟨-, reply, -, h⟩ | ⟨-, e, -, h⟩ | ⟨-, h⟩ := actions_checkProgram s b a source options
  · rw [h]
    rfl
  · rw [h, List.filterMap_append, hfallBack]
    rfl
  · rw [h, List.filterMap_append, hfallBack]
    rfl

theorem length_actions_checkProgram_le (s : Service) (b : Backends) (a : Availability)
    (source : String) (options : CheckOptions) :
    ((s.checkProgram source options).actions b a).length ≤ 5 := by
  have hfallBack (why : String) : ((s.fallBackProgram source why).actions b a).length ≤ 2 := by
    rw [actions_fallBackProgram]
    cases s.secondary <;> simp
  obtain ⟨-, reply, -, h⟩ | ⟨-, e, -, h⟩ | ⟨-, h⟩ := actions_checkProgram s b a source options
  · rw [h]
    exact Nat.le_succ 4
  · rw [h, List.length_append]
    exact Nat.add_le_add_left (hfallBack e.message) 3
  · rw [h, List.length_append]
    exact Nat.le_trans (Nat.add_le_add_left (hfallBack _) 1) (by decide)

theorem front_of_mem {α : Type} {front back l : List α} {x : α} (h : l <+: front ++ back)
    (hx : x ∈ l) (hfront : x ∉ front) : front <+: l := by
  obtain hle | hle := List.prefix_or_prefix_of_prefix (List.prefix_append front back) h
  · exact hle
  · exact absurd (hle.subset hx) hfront

/-- Before the secondary service is asked, the primary one failed or the flag spoke against it. -/
theorem why_of_mem {b : Backends} {a : Availability}
    (h : l <+: (s.checkProgram source options).actions b a) {request : ExecuteRequest}
    {reply : Except Failure ExecuteReply} (hmem : .execute request reply ∈ l) :
    .load .unavailable ∈ l ∨ ∃ request e, .check request (.error e) ∈ l := by
  obtain ⟨-, _, -, hactions⟩ | ⟨-, e, -, hactions⟩ | ⟨hw, hactions⟩ :=
    actions_checkProgram s b a source options
  · rw [hactions] at h
    exact absurd (h.subset hmem) (by simp)
  · rw [hactions] at h
    exact .inr ⟨.ofOptions s.config source options, e,
      (front_of_mem h hmem (by simp)).subset (by simp)⟩
  · obtain rfl : a = .unavailable := by
      cases a with
      | unavailable => rfl
      | unknown | available => cases hw
    rw [hactions] at h
    exact .inl ((front_of_mem h hmem (by simp)).subset (by simp))

/-- A check that left the primary service alone has nothing to record. -/
theorem store_not_mem (s : Service) (b : Backends) (source : String) (options : CheckOptions)
    (a : Availability) : .store a ∉ (s.checkProgram source options).actions b .unavailable := by
  obtain ⟨hw, -⟩ | ⟨hw, -⟩ | ⟨-, hactions⟩ :=
    actions_checkProgram s b .unavailable source options
  · cases hw
  · cases hw
  · rw [hactions, actions_fallBackProgram]
    simp

/-- A check keeps to its rule wherever it has come to. -/
theorem checkRule_of_path (h : (s.checkProgram source options).Path l q) :
    CheckRule s source options l := by
  obtain ⟨b, a, hb⟩ := exists_agrees_of_path h
  have hbegins := h.begins hb
  have halone (b : Backends) :=
    actions_program { s with availability := a } b (.check source options)
  obtain ⟨hprimary, hsecondary, -⟩ := take_check { s with availability := a } b source options
  refine
    { atMost := Nat.le_trans hbegins.length_le (length_actions_checkProgram_le ..)
      loadOnce := ?_
      primaryOnce := ?_
      secondaryOnce := ?_
      secondaryWhy := fun _ _ => why_of_mem hbegins
      leavesFlag := ?_
      result := ?_ }
  · refine Nat.le_trans (hbegins.sublist.filterMap _).length_le ?_
    rw [filterMap_seen?_checkProgram]
    exact Nat.le_refl 1
  · refine Nat.le_trans ((hbegins.sublist.filterMap _).filterMap _).length_le ?_
    have hcalls := congrArg (List.filterMap Call.checkRequest?) (halone b).1
    refine Nat.le_trans (Nat.le_of_eq (congrArg List.length (hcalls.trans hprimary))) ?_
    split <;> simp
  · refine Nat.le_trans ((hbegins.sublist.filterMap _).filterMap _).length_le ?_
    have hcalls := congrArg (List.filterMap Call.executeRequest?) (halone b).1
    refine Nat.le_trans (Nat.le_of_eq (congrArg List.length (hcalls.trans hsecondary))) ?_
    split
    · exact Nat.zero_le 1
    · cases s.secondary <;> simp
  · intro hload a' hstore
    obtain rfl : .unavailable = a := hb _ hload
    exact store_not_mem s b source options a' (hbegins.subset hstore)
  · intro answer hmem
    obtain ⟨rest, hrest⟩ : ∃ rest,
        (s.checkProgram source options).actions b a = [.load a] ++ rest := ⟨_, rfl⟩
    have hload : [Action.load a] <+: l := front_of_mem (hrest ▸ hbegins) hmem (by simp)
    refine ⟨a, hload.subset (List.mem_singleton_self _), ⟨b, hb⟩, fun b' hb' => ?_⟩
    have hgiven : answer ∈ ((s.checkProgram source options).actions b' a).filterMap Action.given? :=
      List.mem_filterMap.2 ⟨_, (h.begins hb').subset hmem, rfl⟩
    exact List.mem_singleton.1 ((halone b').2.1 ▸ hgiven)

/-- A check that has come to its end has given its result. -/
theorem exists_give_of_path (h : (s.checkProgram source options).Path l .ended) :
    ∃ answer, .give answer ∈ l := by
  obtain ⟨b, a, hb⟩ := exists_agrees_of_path h
  have hgiven := (actions_program { s with availability := a } b (.check source options)).2.1
  have hactions : (s.checkProgram source options).actions b a = l := by
    rw [h.actions_eq hb, Program.actions, List.append_nil]
  have hanswer := List.mem_singleton_self
    ({ s with availability := a }.take (.check b source options)).1.answer
  obtain ⟨action, hmem, haction⟩ := List.mem_filterMap.1 (hgiven ▸ hanswer)
  cases action with
  | give answer => exact ⟨answer, hactions ▸ hmem⟩
  | load _ | store _ | health _ | check _ _ | execute _ _ => cases haction

end Checks

end SnippetCheck.Service
