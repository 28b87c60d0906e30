import Mathlib.Logic.Function.Basic
import SnippetCheck.Proofs.Service.Program

/-! Operations on one service at the same time. Each takes the steps of its program, in any order
among each other; all that they share is the byte that holds the flag. What an operation did is a
path of its own program whatever the others do, since a step of one leaves the rest of the others
as it was. So another operation can change which way a check goes when it loads the flag, and
nothing of a check that has loaded it. -/

namespace SnippetCheck.Service

/-- A service in use: the byte that holds its flag, and what each operation has still to do. -/
structure Shared (ι : Type) where
  flag : UInt8
  rest : ι → Program

/-- The byte after a step. -/
def Action.write (flag : UInt8) : Action → UInt8
  | store a => a.toByte
  | load _ | health _ | check .. | execute .. | give _ => flag

section Interleaving

variable {ι : Type} [DecidableEq ι]

/-- The operations at the start, on a service with the flag that it has. -/
def Shared.start (s : Service) (operations : ι → Operation) : Shared ι :=
  { flag := s.availability.toByte, rest := fun i => s.program (operations i) }

namespace Shared

/-- One operation takes a step: a load sees the flag, and a store writes it. -/
inductive Moves (m : Shared ι) : ι × Action → Shared ι → Prop
  | mk {i : ι} {action : Action} {p : Program} : (m.rest i).Takes action p →
    (∀ a, action = .load a → a = .ofByte m.flag) →
    Moves m (i, action) { flag := action.write m.flag, rest := Function.update m.rest i p }

/-- Steps that the operations take one after another. -/
inductive Reaches : Shared ι → List (ι × Action) → Shared ι → Prop
  | nil (m : Shared ι) : Reaches m [] m
  | cons {m m₁ m₂ : Shared ι} {event : ι × Action} {trace : List (ι × Action)} :
    Moves m event m₁ → Reaches m₁ trace m₂ → Reaches m (event :: trace) m₂

end Shared

/-- The steps of one operation. -/
def own (i : ι) (trace : List (ι × Action)) : List Action :=
  (trace.filter (·.1 = i)).map (·.2)

/-- What was stored last, if anything was, or else `a`. -/
def lastStored (a : Availability) (trace : List (ι × Action)) : Availability :=
  (trace.filterMap (·.2.stored?)).getLast?.getD a

namespace Shared

variable {m m' : Shared ι} {i : ι} {event : ι × Action} {trace before after : List (ι × Action)}

theorem Moves.path (h : Moves m event m') (i : ι) :
    (m.rest i).Path (own i [event]) (m'.rest i) := by
  obtain @⟨j, action, p, htakes, -⟩ := h
  by_cases hj : j = i
  · subst hj
    simpa [own] using .cons htakes (.nil _)
  · simpa [own, hj, Ne.symm hj] using .nil _

theorem Reaches.path (h : Reaches m trace m') (i : ι) :
    (m.rest i).Path (own i trace) (m'.rest i) := by
  induction h with
  | nil m => exact .nil _
  | @cons m m₁ m₂ event trace hmove _ ih =>
    have hown : own i (event :: trace) = own i [event] ++ own i trace := by
      rw [own, ← List.singleton_append, List.filter_append, List.map_append]
      rfl
    rw [hown]
    exact (hmove.path i).append ih

theorem Reaches.flag_eq (h : Reaches m trace m') {a : Availability} (ha : m.flag = a.toByte) :
    m'.flag = (lastStored a trace).toByte := by
  induction h generalizing a with
  | nil m => exact ha
  | @cons m m₁ m₂ event trace hmove _ ih =>
    obtain @⟨i, action, p, -, -⟩ := hmove
    cases action with
    | store a' =>
      rw [ih rfl]
      simp [lastStored, Action.stored?, List.getLast?_cons]
    | load _ | health _ | check _ _ | execute _ _ | give _ => exact ih ha

/-- What was reached was reached by way of a state between any two steps. -/
theorem Reaches.exists_between (h : Reaches m (before ++ after) m') :
    ∃ m₁, Reaches m before m₁ ∧ Reaches m₁ after m' := by
  induction before generalizing m with
  | nil => exact ⟨m, .nil m, h⟩
  | cons event before ih =>
    cases h with
    | cons hmove h =>
      obtain ⟨m₁, hbefore, hafter⟩ := ih h
      exact ⟨m₁, .cons hmove hbefore, hafter⟩

/-- An operation that is not at its end is not held up by the others. -/
theorem exists_moves (h : m.rest i ≠ .ended) : ∃ action m', m.Moves (i, action) m' := by
  obtain ⟨action, p, htakes, hsees⟩ := Program.exists_takes (.ofByte m.flag) h
  exact ⟨action, _, .mk htakes hsees⟩

end Shared

/-- Operations on a new service, in any number and with their steps in any order, and with whatever
the services answer. At every moment the flag is what was stored last, which is what a load sees;
every check keeps to its rule, and one that has given no result can go on. -/
theorem checks_interleaved (config : Config) (primary : String) (secondary : Option String)
    (operations : ι → Operation) {trace : List (ι × Action)} {m : Shared ι}
    (h : (Shared.start (new config primary secondary) operations).Reaches trace m) :
    m.flag = (lastStored .unknown trace).toByte ∧
    Availability.ofByte m.flag = lastStored .unknown trace ∧
    (∀ before i a after, trace = before ++ (i, .load a) :: after →
      a = lastStored .unknown before) ∧
    ∀ i source options, operations i = .check source options →
      CheckRule (new config primary secondary) source options (own i trace) ∧
      ((∃ answer, .give answer ∈ own i trace) ∨ ∃ action m', m.Moves (i, action) m') := by
  have hflag := h.flag_eq (a := .unknown) rfl
  refine ⟨hflag, by rw [hflag, Availability.ofByte_toByte], ?_, ?_⟩
  · rintro before i a after rfl
    obtain ⟨m₁, hbefore, hafter⟩ := h.exists_between
    cases hafter with
    | cons hmove _ =>
      obtain ⟨-, hsees⟩ := hmove
      rw [hsees a rfl, hbefore.flag_eq (a := .unknown) rfl, Availability.ofByte_toByte]
  · intro i source options hi
    have hpath := h.path i
    simp only [Shared.start, hi] at hpath
    refine ⟨checkRule_of_path hpath, ?_⟩
    by_cases hrest : m.rest i = .ended
    · exact .inl (exists_give_of_path (hrest ▸ hpath))
    · exact .inr (Shared.exists_moves hrest)

end Interleaving

/-- The primary service refuses a check, then comes a reset, and only then the check stores what it
learned: the next check leaves the primary service alone, and the first goes on as it would without
the others. -/
theorem checks_interleaved_stale :
    let s := new {} "http://127.0.0.1:3030" (some "https://play.rust-lang.org/execute")
    let operations : Fin 3 → Operation := fun
      | 0 | 2 => .check "fn main() {}" {}
      | 1 => .reset
    let request : CheckRequest := .ofOptions {} "fn main() {}" {}
    let snippet := ExecuteRequest.ofCode "fn main() {}" {}
    let reply : ExecuteReply := { success := true }
    let trace : List (Fin 3 × Action) :=
      [(0, .load .unknown), (0, .check request (.error (.network "refused"))),
        (1, .store .unknown), (1, .give .nothing), (0, .store .unavailable),
        (2, .load .unavailable), (0, .execute snippet (.ok reply)),
        (0, .give (.outcome (.ok (reply.report {}))))]
    ∃ m, (Shared.start s operations).Reaches trace m ∧ m.flag = 2 ∧
      CheckRule s "fn main() {}" {} (own 0 trace) := by
  intro s operations request snippet reply trace
  have htrace : ∃ m, (Shared.start s operations).Reaches trace m := by
    refine ⟨_, .cons (.mk (.load _ _) ?_) <| .cons (.mk (.check _ _ _) nofun) <|
      .cons (.mk (.store _ _) nofun) <| .cons (.mk (.give _) nofun) <|
      .cons (.mk (.store _ _) nofun) <| .cons (.mk (.load _ _) ?_) <|
      .cons (.mk (.execute _ _ _) nofun) <| .cons (.mk (.give _) nofun) <| .nil _⟩
    · rintro a ⟨⟩
      rfl
    · rintro a ⟨⟩
      rfl
  obtain ⟨m, hm⟩ := htrace
  obtain ⟨hflag, -, -, hchecks⟩ := checks_interleaved {} _ _ operations hm
  exact ⟨m, hm, hflag, (hchecks 0 _ _ rfl).1⟩

end SnippetCheck.Service
