import SnippetCheck.Proofs.Service.Check

/-! Runs of a check service. A run is a list of steps, each with what the services would answer at
that moment, and its history records what each step asked and answered. The flag of the service is
what the last event of the history wrote, so the history alone decides which checks ask the primary
service. A check is then described by its record and the history before it, and not by the flag. -/

namespace SnippetCheck

/-- Whether the primary service says that it is ready. -/
def Backends.ready (b : Backends) : Bool :=
  match b.health with
  | .ok body => Health.isReady body
  | .error _ => false

namespace Service

/-- One thing asked of a check service, with what its services would answer then. -/
inductive Step where
  | probe (b : Backends)
  /-- A probe by a worker, which is waited for. -/
  | backgroundProbe (b : Backends)
  | reset
  | check (b : Backends) (source : String) (options : CheckOptions)

inductive Answer where
  | ready (yes : Bool)
  | nothing
  | outcome (result : Except Failure Report)

/-- A step that was taken: what it asked its services, and what it gave. -/
structure Record where
  step : Step
  calls : List Call
  answer : Answer

/-- The record of a step, and the service after it. -/
def take (s : Service) (step : Step) : Record × Service :=
  match step with
  | .probe b | .backgroundProbe b =>
    let (yes, after) := s.probe b
    ({ step, calls := [.health], answer := .ready yes }, after)
  | .reset => ({ step, calls := [], answer := .nothing }, s.reset)
  | .check b source options =>
    let (result, after, calls) := s.check b source options
    ({ step, calls, answer := .outcome result }, after)

def run (s : Service) : List Step → Service
  | [] => s
  | step :: steps => (s.take step).2.run steps

def history (s : Service) : List Step → List Record
  | [] => []
  | step :: steps => (s.take step).1 :: (s.take step).2.history steps

theorem run_append (s : Service) (before after : List Step) :
    s.run (before ++ after) = (s.run before).run after := by
  induction before generalizing s with
  | nil => rfl
  | cons step before ih => exact ih _

theorem history_append (s : Service) (before after : List Step) :
    s.history (before ++ after) = s.history before ++ (s.run before).history after := by
  induction before generalizing s with
  | nil => rfl
  | cons step before ih => exact congrArg _ (ih _)

/-! ### What a history says -/

/-- What writes the flag of a service. -/
inductive Event where
  | reset
  | probed (ready : Bool)
  | primaryChecked (success : Bool)
deriving DecidableEq, Repr

namespace Event

def isFailure : Event → Bool
  | reset => false
  | probed ready => !ready
  | primaryChecked success => !success

def written : Event → Availability
  | reset => .unknown
  | probed ready => .ofOutcome ready
  | primaryChecked success => .ofOutcome success

theorem worthTrying_written (e : Event) : e.written.worthTrying = !e.isFailure := by
  cases e with
  | reset => rfl
  | probed ready => cases ready <;> rfl
  | primaryChecked success => cases success <;> rfl

end Event

namespace Record

def primaryRequests (r : Record) : List CheckRequest := r.calls.filterMap Call.checkRequest?

def secondaryRequests (r : Record) : List ExecuteRequest := r.calls.filterMap Call.executeRequest?

/-- What the primary service answered, if the step asked it for a check. -/
def primaryReply? (r : Record) (b : Backends) : Option (Except Failure CheckReply) :=
  r.primaryRequests.head?.map b.check

/-- What the secondary service answered, if the step asked it. -/
def secondaryReply? (r : Record) (b : Backends) : Option (Except Failure ExecuteReply) :=
  r.secondaryRequests.head?.map b.execute

/-- The event that a step was for the flag. A check is one only if it asked the primary service. -/
def event? (r : Record) : Option Event :=
  match r.step with
  | .probe b | .backgroundProbe b => some (.probed b.ready)
  | .reset => some .reset
  | .check b _ _ => (r.primaryReply? b).map fun reply => .primaryChecked reply.isOk

end Record

/-- The last event of a history. -/
def lastEvent? (history : List Record) : Option Event := (history.filterMap Record.event?).getLast?

def flagAfter (history : List Record) : Availability :=
  ((lastEvent? history).map Event.written).getD .unknown

theorem worthTrying_flagAfter (history : List Record) :
    (flagAfter history).worthTrying = true ↔
      ∀ e, lastEvent? history = some e → e.isFailure = false := by
  unfold flagAfter
  cases lastEvent? history with
  | none => simp [Availability.worthTrying]
  | some e => simp [e.worthTrying_written]

theorem flagAfter_concat (history : List Record) (r : Record) :
    flagAfter (history ++ [r]) = (r.event?.map Event.written).getD (flagAfter history) := by
  unfold flagAfter lastEvent?
  cases h : r.event? <;> simp [h]

/-! ### What a check does -/

/-- The result of a check, by what the two services answered as far as they were asked. -/
def resultOf (config : Config) (primary : Option (Except Failure CheckReply))
    (secondary : Option (Except Failure ExecuteReply)) : Except Failure Report :=
  match primary, secondary with
  | some (.ok reply), _ => .ok reply.result.complete
  | _, some (.ok reply) =>
    .ok (Compiler.report reply.success reply.stdout reply.stderr config.dropSummaryLines)
  | p, q => .error (noService (faultOf "marked unavailable" p) (faultOf "disabled" q))

/-- A check that is recorded as `r` keeps to the rules, after a history and with what the services
would answer: it asks the primary service unless the last event was a failure, and the secondary one
if the primary was of no use and there is a secondary to fall back on; it asks each at most once,
and its result is that of the first that answered. -/
structure CheckLaw (config : Config) (secondary : Option String) (history : List Record)
    (b : Backends) (r : Record) : Prop where
  asksPrimary : r.primaryRequests ≠ [] ↔
    ∀ e, lastEvent? history = some e → e.isFailure = false
  primaryOnce : r.primaryRequests.length ≤ 1
  asksSecondary : r.secondaryRequests ≠ [] ↔
    (∀ reply, r.primaryReply? b ≠ some (.ok reply)) ∧ secondary.isSome = true ∧
      config.fallbackEnabled = true
  secondaryOnce : r.secondaryRequests.length ≤ 1
  answer : r.answer = .outcome (resultOf config (r.primaryReply? b) (r.secondaryReply? b))

theorem resultOf_of_not_ok {config : Config} {p : Option (Except Failure CheckReply)}
    (hp : ∀ reply, p ≠ some (.ok reply)) (q : Option (Except Failure ExecuteReply)) :
    resultOf config p q =
      match q with
      | some (.ok reply) => .ok (reply.report config)
      | q => .error (noService (faultOf "marked unavailable" p) (faultOf "disabled" q)) := by
  rcases p with _ | (e | reply)
  · rcases q with _ | (_ | _) <;> rfl
  · rcases q with _ | (_ | _) <;> rfl
  · exact absurd rfl (hp reply)

/-- A check that falls back gives the result that its record tells. -/
theorem answer_of_fallBack {s : Service} {b : Backends} {source : String} {r : Record}
    (hp : ∀ reply, r.primaryReply? b ≠ some (.ok reply))
    (hs : r.secondaryRequests = s.secondary.toList.map fun _ => .ofCode source s.config)
    (hr : r.answer = .outcome
      (s.fallBack b source (faultOf "marked unavailable" (r.primaryReply? b))).1) :
    r.answer = .outcome (resultOf s.config (r.primaryReply? b) (r.secondaryReply? b)) := by
  have hsecond : r.secondaryReply? b =
      s.secondary.map fun _ => b.execute (.ofCode source s.config) := by
    cases h : s.secondary <;> simp [Record.secondaryReply?, hs, h]
  rw [hr, fallBack_eq, hsecond]
  exact congrArg Answer.outcome (resultOf_of_not_ok hp _).symm

/-- The record of a check: whom it asked, and what for, and its result. -/
theorem take_check (s : Service) (b : Backends) (source : String) (options : CheckOptions) :
    let r := (s.take (.check b source options)).1
    r.primaryRequests =
      (if s.availability.worthTrying then [.ofOptions s.config source options] else []) ∧
    r.secondaryRequests =
      (if (r.primaryReply? b).any (·.isOk) then []
        else s.secondary.toList.map fun _ => .ofCode source s.config) ∧
    r.answer = .outcome (resultOf s.config (r.primaryReply? b) (r.secondaryReply? b)) := by
  intro r
  obtain ⟨hw, reply, hc, heq⟩ | ⟨hw, e, hc, heq⟩ | ⟨hw, heq⟩ := check_cases s b source options
  · -- the primary service answered
    have hp : r.primaryRequests = [.ofOptions s.config source options] := by
      simp [r, take, heq, Record.primaryRequests]
    have hs : r.secondaryRequests = [] := by
      simp [r, take, heq, Record.secondaryRequests, List.filterMap_cons]
    have hreply : r.primaryReply? b = some (.ok reply) := by simp [Record.primaryReply?, hp, hc]
    refine ⟨by simp [hp, hw], by simp [hs, hreply, Except.isOk, Except.toBool], ?_⟩
    rw [hreply]
    simp [r, take, heq, resultOf]
  · -- the primary service failed
    have hp : r.primaryRequests = [.ofOptions s.config source options] := by
      simp [r, take, heq, Record.primaryRequests]
    have hs : r.secondaryRequests = s.secondary.toList.map fun _ => .ofCode source s.config := by
      simp [r, take, heq, Record.secondaryRequests, List.filterMap_cons]
    have hreply : r.primaryReply? b = some (.error e) := by simp [Record.primaryReply?, hp, hc]
    refine ⟨by simp [hp, hw], by simp [hs, hreply, Except.isOk, Except.toBool], ?_⟩
    refine answer_of_fallBack (by simp [hreply]) hs ?_
    rw [hreply]
    simp [r, take, heq, faultOf]
  · -- the primary service was left alone
    have hp : r.primaryRequests = [] := by
      simp [r, take, heq, Record.primaryRequests]
    have hs : r.secondaryRequests = s.secondary.toList.map fun _ => .ofCode source s.config := by
      simp [r, take, heq, Record.secondaryRequests]
    have hreply : r.primaryReply? b = none := by simp [Record.primaryReply?, hp]
    refine ⟨by simp [hp, hw], by simp [hs, hreply], ?_⟩
    refine answer_of_fallBack (by simp [hreply]) hs ?_
    rw [hreply]
    simp [r, take, heq, faultOf]

/-! ### The history and the service -/

/-- The service `s` was made with these settings and has this history. -/
structure Follows (config : Config) (secondary : Option String) (history : List Record)
    (s : Service) : Prop where
  config_eq : s.config = config
  secondary_eq : s.secondary = if config.fallbackEnabled then secondary else none
  availability_eq : s.availability = flagAfter history

variable {config : Config} {secondary : Option String} {history : List Record} {s : Service}

theorem follows_new (config : Config) (primary : String) (secondary : Option String) :
    Follows config secondary [] (new config primary secondary) := ⟨rfl, rfl, rfl⟩

theorem Follows.secondary_isSome (h : Follows config secondary history s) :
    s.secondary.isSome = true ↔ secondary.isSome = true ∧ config.fallbackEnabled = true := by
  rw [h.secondary_eq]
  cases config.fallbackEnabled <;> simp

/-- A step changes nothing of a service but its flag, and the flag as its record says. -/
theorem take_eq (s : Service) (step : Step) :
    (s.take step).2 = { s with
      availability := ((s.take step).1.event?.map Event.written).getD s.availability } := by
  cases step with
  | probe b => rfl
  | backgroundProbe b => rfl
  | reset => rfl
  | check b source options =>
    obtain ⟨_, reply, hc, heq⟩ | ⟨_, e, hc, heq⟩ | ⟨_, heq⟩ := check_cases s b source options
    all_goals simp only [Service.take, heq, Record.event?, Record.primaryReply?,
      Record.primaryRequests, List.filterMap_cons, Call.checkRequest?,
      filterMap_checkRequest?_fallBack]
    · simp [hc, Event.written, Except.isOk, Except.toBool, record]
    · simp [hc, Event.written, Except.isOk, Except.toBool, record]
    · simp

theorem Follows.take (h : Follows config secondary history s) (step : Step) :
    Follows config secondary (history ++ [(s.take step).1]) (s.take step).2 := by
  rw [take_eq]
  exact ⟨h.config_eq, h.secondary_eq, by rw [flagAfter_concat, ← h.availability_eq]⟩

theorem Follows.run (h : Follows config secondary history s) (steps : List Step) :
    Follows config secondary (history ++ s.history steps) (s.run steps) := by
  induction steps generalizing history s with
  | nil => simpa [Service.history, Service.run] using h
  | cons step steps ih => simpa [Service.history, Service.run] using ih (h.take step)

theorem Follows.checkLaw (h : Follows config secondary history s) (b : Backends) (source : String)
    (options : CheckOptions) :
    CheckLaw config secondary history b (s.take (.check b source options)).1 := by
  obtain ⟨hp, hs, hanswer⟩ := take_check s b source options
  have hflag := worthTrying_flagAfter history
  rw [← h.availability_eq] at hflag
  generalize (s.take (.check b source options)).1 = r at *
  have hok : (r.primaryReply? b).any (·.isOk) = true ↔
      ∃ reply, r.primaryReply? b = some (.ok reply) := by
    rcases r.primaryReply? b with _ | (_ | _) <;> simp [Except.isOk, Except.toBool]
  refine
    { asksPrimary := ?_
      primaryOnce := ?_
      asksSecondary := ?_
      secondaryOnce := ?_
      answer := by rw [hanswer, h.config_eq] }
  · rw [hp, ← hflag]
    split <;> simp [*]
  · rw [hp]
    split <;> simp
  · rw [hs, ← h.secondary_isSome, ← not_exists, ← hok]
    cases s.secondary <;> split <;> simp [*]
  · rw [hs]
    cases s.secondary <;> split <;> simp

/-! ### Runs -/

/-- Whether a step can end the time in which the primary service is left alone. -/
def Step.revives : Step → Bool
  | .probe b | .backgroundProbe b => b.ready
  | .reset => true
  | .check .. => false

theorem take_of_unavailable (h : s.availability = .unavailable) {step : Step}
    (hstep : step.revives = false) :
    (s.take step).2.availability = .unavailable ∧ (s.take step).1.primaryRequests = [] := by
  cases step with
  | probe b | backgroundProbe b =>
    have hready : b.ready = false := hstep
    refine ⟨?_, rfl⟩
    show Availability.ofOutcome b.ready = .unavailable
    rw [hready]
    rfl
  | reset => exact absurd hstep (by simp [Step.revives])
  | check b source options =>
    have hp := (take_check s b source options).1
    rw [h] at hp
    have hevent : (s.take (.check b source options)).1.event? = none := by
      show ((s.take (.check b source options)).1.primaryReply? b).map _ = none
      rw [Record.primaryReply?, hp]
      rfl
    rw [take_eq, hevent]
    exact ⟨h, hp⟩

theorem run_of_unavailable (h : s.availability = .unavailable) {steps : List Step}
    (hsteps : ∀ step ∈ steps, step.revives = false) :
    (s.run steps).availability = .unavailable ∧
      ∀ r ∈ s.history steps, r.primaryRequests = [] := by
  induction steps generalizing s with
  | nil => exact ⟨h, by simp [Service.history]⟩
  | cons step steps ih =>
    obtain ⟨hflag, hasks⟩ := take_of_unavailable h (hsteps step (List.mem_cons_self ..))
    obtain ⟨hrun, hall⟩ := ih hflag fun step hs => hsteps step (List.mem_cons_of_mem _ hs)
    exact ⟨hrun, List.forall_mem_cons.2 ⟨hasks, hall⟩⟩

/-- Every run of a new service: the flag is what the last event wrote, every check keeps to the
rules, and from the time when the primary service is unavailable until a reset or a probe that finds
it ready no step asks it for a check. -/
theorem runs_of_new (config : Config) (primary : String) (secondary : Option String) :
    let s := new config primary secondary
    (∀ steps, (s.run steps).availability = flagAfter (s.history steps)) ∧
    (∀ before b source options after, ∃ r,
      s.history (before ++ .check b source options :: after) =
        s.history before ++ r :: (s.run (before ++ [.check b source options])).history after ∧
      CheckLaw config secondary (s.history before) b r) ∧
    ∀ before later, (s.run before).availability = .unavailable →
      (∀ step ∈ later, step.revives = false) →
      (s.run (before ++ later)).availability = .unavailable ∧
        ∀ r ∈ (s.run before).history later, r.primaryRequests = [] := by
  intro s
  have follows (steps : List Step) : Follows config secondary (s.history steps) (s.run steps) :=
    (follows_new config primary secondary).run steps
  refine ⟨fun steps => (follows steps).availability_eq, ?_, ?_⟩
  · intro before b source options after
    refine ⟨_, ?_, (follows before).checkLaw b source options⟩
    rw [history_append, run_append]
    rfl
  · intro before later h hlater
    rw [run_append]
    exact run_of_unavailable h hlater

/-- After a check that the primary service refuses, a probe that fails and two more checks leave it
alone. -/
theorem runs_of_new_refused :
    let b : Backends :=
      { health := .error (.network "refused"), check := fun _ => .error (.network "refused")
        execute := fun _ => .ok { success := true } }
    let s := new {} "http://127.0.0.1:3030" (some "https://play.rust-lang.org/execute")
    let later : List Step := [.check b "" {}, .probe b, .check b "fn main() {}" {}]
    ((s.run [.check b "" {}]).availability = .unavailable ∧
      ∀ step ∈ later, step.revives = false) ∧
    (s.run ([.check b "" {}] ++ later)).availability = .unavailable ∧
      ∀ r ∈ (s.run [.check b "" {}]).history later, r.primaryRequests = [] := by
  intro b s later
  have hlater : ∀ step ∈ later, step.revives = false := by
    simp [later, Step.revives, Backends.ready, b]
  exact ⟨⟨rfl, hlater⟩, (runs_of_new _ _ _).2.2 [.check b "" {}] later rfl hlater⟩

end Service

end SnippetCheck
