import SnippetCheck.Service

/-! What one check does: whom it asks for what, in which order, and whose answer it gives.
Everything about checks follows from `check_cases` and the statements on falling back, and not from
the definitions behind them. -/

namespace SnippetCheck

/-- What the primary service is asked to check by a call. -/
@[simp]
def Call.checkRequest? : Call → Option CheckRequest
  | check request => some request
  | health | execute _ => none

/-- What the secondary service is asked to run by a call. -/
@[simp]
def Call.executeRequest? : Call → Option ExecuteRequest
  | execute request => some request
  | health | check _ => none

namespace Service

/-- What is said of a service that gave no result: why it failed, or `unasked` if it was not
asked. -/
def faultOf (unasked : String) : Option (Except Failure α) → String
  | some (.error e) => e.message
  | _ => unasked

/-- Falling back asks the secondary service once, if there is one, and nobody else, and gives what
that one answered. -/
theorem fallBack_eq (s : Service) (b : Backends) (source why : String) :
    let request := ExecuteRequest.ofCode source s.config
    s.fallBack b source why =
      (match s.secondary.map fun _ => b.execute request with
        | some (.ok reply) => .ok (reply.report s.config)
        | q => .error (noService why (faultOf "disabled" q)),
      s.secondary.toList.map fun _ => .execute request) := by
  intro request
  unfold fallBack
  cases s.secondary with
  | none => rfl
  | some name => cases h : b.execute request <;> simp [request, h, faultOf]

@[simp] theorem filterMap_checkRequest?_fallBack (s : Service) (b : Backends)
    (source why : String) : (s.fallBack b source why).2.filterMap Call.checkRequest? = [] := by
  rw [fallBack_eq]
  cases s.secondary <;> rfl

@[simp] theorem filterMap_executeRequest?_fallBack (s : Service) (b : Backends)
    (source why : String) :
    (s.fallBack b source why).2.filterMap Call.executeRequest? =
      s.secondary.toList.map fun _ => .ofCode source s.config := by
  rw [fallBack_eq]
  cases s.secondary <;> rfl

theorem fallBack_eq_ok {s : Service} {b : Backends} {source why : String} {r : Report}
    (h : (s.fallBack b source why).1 = .ok r) :
    ∃ reply, b.execute (.ofCode source s.config) = .ok reply ∧ r = reply.report s.config ∧
      (s.fallBack b source why).2 = [.execute (.ofCode source s.config)] := by
  rw [fallBack_eq] at h ⊢
  cases hs : s.secondary with
  | none => simp [hs] at h
  | some name =>
    cases he : b.execute (.ofCode source s.config) with
    | error e => simp [hs, he] at h
    | ok reply =>
      refine ⟨reply, rfl, ?_, rfl⟩
      simpa [hs, he] using h.symm

/-- What a check does, by whether it asks the primary service and what that one answers. -/
theorem check_cases (s : Service) (b : Backends) (source : String) (options : CheckOptions) :
    let request := CheckRequest.ofOptions s.config source options
    (s.availability.worthTrying = true ∧ ∃ reply, b.check request = .ok reply ∧
      s.check b source options = (.ok reply.result.complete, s.record true, [.check request])) ∨
    (s.availability.worthTrying = true ∧ ∃ e, b.check request = .error e ∧
      s.check b source options = ((s.fallBack b source e.message).1, s.record false,
        .check request :: (s.fallBack b source e.message).2)) ∨
    (s.availability.worthTrying = false ∧
      s.check b source options = ((s.fallBack b source "marked unavailable").1, s,
        (s.fallBack b source "marked unavailable").2)) := by
  intro request
  unfold check
  cases hw : s.availability.worthTrying with
  | false => exact .inr (.inr ⟨rfl, rfl⟩)
  | true =>
    cases hc : b.check request with
    | ok reply => exact .inl ⟨rfl, reply, rfl, by simp only [if_true, request, hc]⟩
    | error e => exact .inr (.inl ⟨rfl, e, rfl, by simp only [if_true, request, hc]⟩)

theorem check_of_check_ok {s : Service} {b : Backends} {source : String} {options : CheckOptions}
    {reply : CheckReply} (hw : s.availability.worthTrying = true)
    (h : b.check (.ofOptions s.config source options) = .ok reply) :
    s.check b source options =
      (.ok reply.result.complete, s.record true,
        [.check (.ofOptions s.config source options)]) := by
  obtain ⟨-, reply', h', heq⟩ | ⟨-, _, he, -⟩ | ⟨hw', -⟩ := s.check_cases b source options
  · obtain rfl := Except.ok.inj (h'.symm.trans h)
    exact heq
  · exact absurd (he.symm.trans h) (by simp)
  · exact absurd (hw'.symm.trans hw) (by simp)

theorem check_of_check_error {s : Service} {b : Backends} {source : String}
    {options : CheckOptions} {e : Failure} (hw : s.availability.worthTrying = true)
    (h : b.check (.ofOptions s.config source options) = .error e) :
    s.check b source options =
      ((s.fallBack b source e.message).1, s.record false,
        .check (.ofOptions s.config source options) :: (s.fallBack b source e.message).2) := by
  obtain ⟨-, _, hok, -⟩ | ⟨-, e', he, heq⟩ | ⟨hw', -⟩ := s.check_cases b source options
  · exact absurd (hok.symm.trans h) (by simp)
  · obtain rfl := Except.error.inj (he.symm.trans h)
    exact heq
  · exact absurd (hw'.symm.trans hw) (by simp)

theorem check_of_not_worthTrying {s : Service} {b : Backends} {source : String}
    {options : CheckOptions} (hw : s.availability.worthTrying = false) :
    s.check b source options =
      ((s.fallBack b source "marked unavailable").1, s,
        (s.fallBack b source "marked unavailable").2) := by
  obtain ⟨hw', -⟩ | ⟨hw', -⟩ | ⟨-, heq⟩ := s.check_cases b source options
  · exact absurd (hw'.symm.trans hw) (by simp)
  · exact absurd (hw'.symm.trans hw) (by simp)
  · exact heq

theorem eq_ofOptions_of_mem_check {s : Service} {b : Backends} {source : String}
    {options : CheckOptions} {r : CheckRequest}
    (h : r ∈ (s.check b source options).2.2.filterMap Call.checkRequest?) :
    r = .ofOptions s.config source options := by
  obtain ⟨-, reply, -, hcheck⟩ | ⟨-, e, -, hcheck⟩ | ⟨-, hcheck⟩ := check_cases s b source options
  · simpa [hcheck] using h
  · simpa [hcheck] using h
  · simp [hcheck] at h

theorem filterMap_executeRequest?_check {s : Service} (h : s.secondary = none) (b : Backends)
    (source : String) (options : CheckOptions) :
    (s.check b source options).2.2.filterMap Call.executeRequest? = [] := by
  have hnone (why : String) : (s.fallBack b source why).2.filterMap Call.executeRequest? = [] := by
    rw [filterMap_executeRequest?_fallBack, h]
    rfl
  obtain ⟨-, reply, -, hcheck⟩ | ⟨-, e, -, hcheck⟩ | ⟨-, hcheck⟩ := check_cases s b source options
  · rw [hcheck]
    rfl
  · rw [hcheck, List.filterMap_cons_none rfl, hnone]
  · rw [hcheck, hnone]

end Service

end SnippetCheck
