import SnippetCheck.Command
import SnippetCheck.Http.Net
import SnippetCheck.Proofs.Arguments
import SnippetCheck.Proofs.Service.Check

/-! The status of a run of the program. A run loads its settings first; then it makes a service and
probes or checks with it, or checks a shader by itself. Each way to end has a status of its own, and
the choice of how a result is shown has no part in it: it changes what is printed and nothing
else. -/

namespace SnippetCheck.Command

/-- The settings that a run goes by. -/
def settings (w : World) (a : Arguments) : Except ConfigFault Config :=
  (Config.load w.files w.environment a.configFile).map a.applyTo

/-- A run comes to a service. -/
structure Serves (w : World) (a : Arguments) (c : Config) (s : Service) : Prop where
  settings : settings w a = .ok c
  build : build w a c = .ok s

/-- A run has no settings or no service. -/
inductive Stops (w : World) (a : Arguments) : Prop
  | settings {fault : ConfigFault} : settings w a = .error fault → Stops w a
  | service {c : Config} {e : Failure} : settings w a = .ok c → build w a c = .error e → Stops w a

/-- A run comes to a check, which ends with `answer`. -/
def Checks (w : World) (a : Arguments) (answer : Except Failure Report) : Prop :=
  ∃ c s text, Serves w a c s ∧ source w a = .ok text ∧
    (s.check (backends w a c) text a.options).1 = answer

/-- A run comes to a probe, which finds the primary service ready or not. -/
def Probes (w : World) (a : Arguments) (ready : Bool) : Prop :=
  ∃ c s, Serves w a c s ∧ (s.probe (backends w a c)).1 = ready

variable {w : World} {a : Arguments} {c : Config} {s : Service}

/-! ### Up to the service -/

theorem Serves.unique {c' : Config} {s' : Service} (h : Serves w a c s) (h' : Serves w a c' s') :
    c' = c ∧ s' = s := by
  obtain rfl := Except.ok.inj (h'.settings.symm.trans h.settings)
  exact ⟨rfl, Except.ok.inj (h'.build.symm.trans h.build)⟩

theorem Serves.not_stops (h : Serves w a c s) : ¬ Stops w a := by
  rintro (hset | ⟨hset, hbuild⟩)
  · cases h.settings.symm.trans hset
  · obtain rfl := Except.ok.inj (h.settings.symm.trans hset)
    cases h.build.symm.trans hbuild

theorem stops_or_serves (w : World) (a : Arguments) : Stops w a ∨ ∃ c s, Serves w a c s := by
  cases hset : settings w a with
  | error fault => exact .inl (.settings hset)
  | ok c =>
    cases hbuild : build w a c with
    | error e => exact .inl (.service hset hbuild)
    | ok s => exact .inr ⟨c, s, hset, hbuild⟩

theorem perform_eq (w : World) (a : Arguments) :
    perform w a =
      match settings w a with
      | .error fault => failure "loading configuration" [(Failure.ofConfig fault).message]
      | .ok c =>
        if a.probe then probe w a c else if a.wgsl then checkShader w a else check w a c := by
  unfold perform settings
  cases Config.load w.files w.environment a.configFile <;> rfl

theorem status_unbuilt (a : Arguments) (e : Failure) : (unbuilt a e).status = failed := by
  unfold unbuilt
  split <;> rfl

theorem status_of_stops (h : Stops w a) (hmode : a.probe = true ∨ a.wgsl = false) :
    (perform w a).status = failed := by
  rw [perform_eq]
  rcases h with hset | ⟨hset, hbuild⟩
  · rw [hset]
    rfl
  · rw [hset]
    simp only
    split
    · rw [probe, hbuild]
      exact status_unbuilt a _
    · next hprobe =>
      rw [if_neg (by simpa using hmode.resolve_left hprobe), check, hbuild]
      exact status_unbuilt a _

theorem status_withCalls (w : World) (a : Arguments) (c : Config) (calls : List Call)
    (o : Outcome) : (withCalls w a c calls o).status = o.status := by
  unfold withCalls
  split <;> rfl

/-! ### Checks -/

/-- A check fails for want of a service only. -/
theorem noService_of_check {b : Backends} {text : String} {options : CheckOptions} {e : Failure}
    (h : (s.check b text options).1 = .error e) : ∃ reasons, e = .noService reasons := by
  have hfall {why : String} (h : (s.fallBack b text why).1 = .error e) :
      ∃ reasons, e = .noService reasons := by
    rw [Service.fallBack_eq] at h
    simp only at h
    split at h
    · cases h
    · exact ⟨_, (Except.error.inj h).symm⟩
  rcases s.check_cases b text options with ⟨-, reply, -, heq⟩ | ⟨-, e', -, heq⟩ | ⟨-, heq⟩
  · rw [heq] at h
    cases h
  · rw [heq] at h
    exact hfall h
  · rw [heq] at h
    exact hfall h

/-- The outcome that an answer to a check leads to. -/
def answered (a : Arguments) : Except Failure Report → Outcome
  | .ok r => reported a r
  | .error (.noService reasons) => { status := unserved, stderr := unservedText reasons }
  | .error e => failure "checking code" [e.message]

theorem check_eq {text : String} (hbuild : build w a c = .ok s) (hsource : source w a = .ok text) :
    check w a c =
      let (answer, _, calls) := s.check (backends w a c) text a.options
      withCalls w a c calls (answered a answer) := by
  rw [check, hbuild, hsource]
  rfl

theorem checks_iff {text : String} {answer : Except Failure Report} (h : Serves w a c s)
    (hsource : source w a = .ok text) :
    Checks w a answer ↔ (s.check (backends w a c) text a.options).1 = answer := by
  constructor
  · rintro ⟨c', s', text', h', ht, rfl⟩
    obtain ⟨rfl, rfl⟩ := h.unique h'
    obtain rfl := Except.ok.inj (ht.symm.trans hsource)
    rfl
  · exact fun hanswer => ⟨c, s, text, h, hsource, hanswer⟩

/-- The status of a run that is to check: whether the check succeeds, fails or is not served, and
the status of a failed one if the run does not come to it. -/
structure CheckStatus (w : World) (a : Arguments) (status : Nat) : Prop where
  success : status = 0 ↔ ∃ r, Checks w a (.ok r) ∧ r.success = true
  failed : status = 1 ↔ (∃ r, Checks w a (.ok r) ∧ r.success = false) ∨ Stops w a ∨
    ∃ fault, source w a = .error fault
  unserved : status = 2 ↔ ∃ reasons, Checks w a (.error (.noService reasons))

theorem CheckStatus.of_setback (hback : Stops w a ∨ ∃ fault, source w a = .error fault) :
    CheckStatus w a Command.failed := by
  have hnone (answer : Except Failure Report) : ¬ Checks w a answer := by
    rintro ⟨c, s, text, h, hsource, -⟩
    rcases hback with hstop | ⟨fault, hfault⟩
    · exact h.not_stops hstop
    · cases hsource.symm.trans hfault
  refine ⟨iff_of_false (by decide) ?_, iff_of_true rfl (.inr hback), iff_of_false (by decide) ?_⟩
  · rintro ⟨r, hr, -⟩
    exact hnone _ hr
  · rintro ⟨reasons, hr⟩
    exact hnone _ hr

theorem CheckStatus.of_checks {text : String} {answer : Except Failure Report}
    (hanswer : ∀ x, Checks w a x ↔ answer = x)
    (hservice : ∀ e, answer = .error e → ∃ reasons, e = .noService reasons)
    (hstop : ¬ Stops w a) (hsource : source w a = .ok text) :
    CheckStatus w a (answered a answer).status := by
  cases answer with
  | ok r =>
    cases hr : r.success <;> constructor <;>
      simp [hanswer, hstop, hsource, answered, reported, hr, Command.success, Command.failed]
  | error e =>
    obtain ⟨reasons, rfl⟩ := hservice e rfl
    constructor <;> simp [hanswer, hstop, hsource, answered, Command.unserved]

theorem checkStatus_perform (hprobe : a.probe = false) (hwgsl : a.wgsl = false) :
    CheckStatus w a (perform w a).status := by
  rcases stops_or_serves w a with hstop | ⟨c, s, h⟩
  · rw [status_of_stops hstop (.inr hwgsl)]
    exact .of_setback (.inl hstop)
  · have hperform : perform w a = check w a c := by
      rw [perform_eq, h.settings, hprobe, hwgsl]
      rfl
    rw [hperform]
    cases hsource : source w a with
    | error fault =>
      have hstatus : (check w a c).status = failed := by
        rw [check, h.build, hsource]
        rfl
      rw [hstatus]
      exact .of_setback (.inr ⟨fault, hsource⟩)
    | ok text =>
      rw [check_eq h.build hsource, status_withCalls]
      exact .of_checks (fun x => checks_iff h hsource) (fun e => noService_of_check) h.not_stops
        hsource

/-! ### Probes -/

/-- The status of a run that is to probe. -/
structure ProbeStatus (w : World) (a : Arguments) (status : Nat) : Prop where
  success : status = 0 ↔ Probes w a true
  failed : status = 1 ↔ Stops w a
  unserved : status = 2 ↔ Probes w a false

theorem probes_iff {ready : Bool} (h : Serves w a c s) :
    Probes w a ready ↔ (s.probe (backends w a c)).1 = ready := by
  constructor
  · rintro ⟨c', s', h', rfl⟩
    obtain ⟨rfl, rfl⟩ := h.unique h'
    rfl
  · exact fun hready => ⟨c, s, h, hready⟩

theorem probeStatus_perform (hprobe : a.probe = true) : ProbeStatus w a (perform w a).status := by
  rcases stops_or_serves w a with hstop | ⟨c, s, h⟩
  · have hnone (ready : Bool) : ¬ Probes w a ready := by
      rintro ⟨c, s, h, -⟩
      exact h.not_stops hstop
    rw [status_of_stops hstop (.inl hprobe)]
    exact ⟨iff_of_false (by decide) (hnone true), iff_of_true rfl hstop,
      iff_of_false (by decide) (hnone false)⟩
  · have hstatus : (perform w a).status =
        if (s.probe (backends w a c)).1 then success else unserved := by
      rw [perform_eq, h.settings]
      simp only [hprobe, if_true, probe, h.build, status_withCalls]
    rw [hstatus]
    cases hready : (s.probe (backends w a c)).1 <;> constructor <;>
      simp [probes_iff h, hready, h.not_stops, Command.success, Command.unserved]

/-! ### Shaders -/

/-- The status of a run that is to check a shader. -/
structure ShaderStatus (w : World) (a : Arguments) (status : Nat) : Prop where
  success : status = 0 ↔ (∃ c, settings w a = .ok c) ∧
    ∃ text, source w a = .ok text ∧ (Shader.report text).success = true
  failed : status ≠ 0 → status = 1

theorem status_checkShader (w : World) (a : Arguments) :
    (checkShader w a).status =
      match source w a with
      | .ok text => if (Shader.report text).success then success else failed
      | .error _ => failed := by
  unfold checkShader
  cases source w a with
  | error fault => rfl
  | ok text =>
    simp only [reported]
    split <;> rfl

theorem shaderStatus_perform (hprobe : a.probe = false) (hwgsl : a.wgsl = true) :
    ShaderStatus w a (perform w a).status := by
  rw [perform_eq]
  cases hset : settings w a with
  | error fault => constructor <;> simp [hset, failure, Command.failed]
  | ok c =>
    simp only [hprobe, hwgsl, Bool.false_eq_true, if_false, if_true, status_checkShader]
    cases hsource : source w a with
    | error fault => constructor <;> simp [hset, hsource, Command.failed]
    | ok text =>
      cases hr : (Shader.report text).success <;> constructor <;>
        simp [hset, hsource, hr, Command.failed, Command.success]

/-! ### Calls -/

/-- What a run asks its services, whether or not it arrives there. -/
def calls (w : World) (a : Arguments) : List Call :=
  match settings w a with
  | .error _ => []
  | .ok c =>
    if a.probe then
      match build w a c with
      | .error _ => []
      | .ok _ => [.health]
    else if a.wgsl then []
    else
      match build w a c, source w a with
      | .ok s, .ok text => (s.check (backends w a c) text a.options).2.2
      | _, _ => []

theorem withCalls_nil (w : World) (a : Arguments) (c : Config) {o : Outcome} (hruns : o.runs = [])
    (hrequests : o.requests = []) : withCalls w a c [] o = o := by
  obtain ⟨status, stdout, stderr, runs, requests⟩ := o
  obtain rfl : runs = [] := hruns
  obtain rfl : requests = [] := hrequests
  unfold withCalls
  split <;> rfl

theorem withCalls_withCalls (w : World) (a : Arguments) (c : Config) (calls : List Call)
    (o : Outcome) : withCalls w a c calls (withCalls w a c calls o) = withCalls w a c calls o := by
  unfold withCalls
  split <;> rfl

theorem silent_unbuilt (a : Arguments) (e : Failure) :
    (unbuilt a e).runs = [] ∧ (unbuilt a e).requests = [] := by
  unfold unbuilt
  split <;> exact ⟨rfl, rfl⟩

theorem silent_checkShader (w : World) (a : Arguments) :
    (checkShader w a).runs = [] ∧ (checkShader w a).requests = [] := by
  unfold checkShader
  split <;> exact ⟨rfl, rfl⟩

/-- The requests and the runs of tools of an outcome are those that its calls lead to. -/
theorem withCalls_perform (hset : settings w a = .ok c) :
    withCalls w a c (calls w a) (perform w a) = perform w a := by
  rw [perform_eq]
  simp only [calls, hset]
  cases a.probe with
  | true =>
    simp only [if_true, probe]
    cases build w a c with
    | error e => exact withCalls_nil w a c (silent_unbuilt a e).1 (silent_unbuilt a e).2
    | ok s => exact withCalls_withCalls ..
  | false =>
    cases a.wgsl with
    | true => exact withCalls_nil w a c (silent_checkShader w a).1 (silent_checkShader w a).2
    | false =>
      simp only [Bool.false_eq_true, if_false, check]
      cases build w a c with
      | error e => exact withCalls_nil w a c (silent_unbuilt a e).1 (silent_unbuilt a e).2
      | ok s =>
        cases source w a with
        | error fault => exact withCalls_nil w a c rfl rfl
        | ok text => exact withCalls_withCalls ..

theorem calls_of_wgsl (hprobe : a.probe = false) (hwgsl : a.wgsl = true) : calls w a = [] := by
  unfold calls
  rw [hprobe, hwgsl]
  split <;> rfl

/-! ### How a result is shown -/

theorem eq_of_bare {a a' : Arguments} (h : a'.bare = a.bare) :
    a' = { a with json := a'.json, line := a'.line } := by
  cases a
  cases a'
  simp only [Arguments.bare, Arguments.mk.injEq] at h ⊢
  simp [h]

/-- Outcomes that differ in what is printed at most. -/
def Alike (o o' : Outcome) : Prop := o' = { o with stdout := o'.stdout }

theorem alike_withCalls {a' : Arguments} (htool : a'.useToolchain = a.useToolchain) {o o' : Outcome}
    (h : Alike o o') (w : World) (c : Config) (calls : List Call) :
    Alike (withCalls w a c calls o) (withCalls w a' c calls o') := by
  unfold Alike at h ⊢
  unfold withCalls
  rw [htool, h]
  split <;> rfl

theorem alike_answered (a : Arguments) (json : Bool) (line : Option Nat)
    (answer : Except Failure Report) :
    Alike (answered a answer) (answered { a with json, line } answer) := by
  match answer with
  | .ok r => rfl
  | .error e => cases e <;> rfl

theorem alike_checkShader (w : World) (a : Arguments) (json : Bool) (line : Option Nat) :
    Alike (checkShader w a) (checkShader w { a with json, line }) := by
  have hsource : source w { a with json, line } = source w a := rfl
  unfold checkShader
  rw [hsource]
  cases source w a <;> rfl

theorem alike_check (w : World) (a : Arguments) (c : Config) (json : Bool) (line : Option Nat) :
    Alike (check w a c) (check w { a with json, line } c) := by
  have hsource : source w { a with json, line } = source w a := rfl
  have hbuild : build w { a with json, line } c = build w a c := rfl
  cases hb : build w a c with
  | error e =>
    rw [check, check, hbuild, hb]
    rfl
  | ok s =>
    cases ht : source w a with
    | error fault =>
      rw [check, check, hbuild, hb, hsource, ht]
      rfl
    | ok text =>
      rw [check_eq hb ht, check_eq (hbuild.trans hb) (hsource.trans ht)]
      exact alike_withCalls rfl (alike_answered a json line _) w c _

theorem alike_perform {a' : Arguments} (w : World) (h : a'.bare = a.bare) :
    Alike (perform w a) (perform w a') := by
  rw [eq_of_bare h]
  generalize a'.json = json
  generalize a'.line = line
  have hset : settings w { a with json, line } = settings w a := rfl
  rw [perform_eq, perform_eq, hset]
  cases settings w a with
  | error fault => rfl
  | ok c =>
    simp only
    split
    · rfl
    split
    · exact alike_checkShader w a json line
    · exact alike_check w a c json line

theorem calls_of_bare {a' : Arguments} (w : World) (h : a'.bare = a.bare) :
    calls w a' = calls w a := by
  rw [eq_of_bare h]
  rfl

/-! ### Runs -/

theorem run_of_read {args : List String} (w : World) (h : Arguments.read args = .ok a) :
    run w args = perform w a := by
  rw [run, h]

theorem perform_of_probe (hprobe : a.probe = true) (file : Option String) (stdin : List UInt8)
    (wgsl : Bool) : perform { w with stdin } { a with file, wgsl } = perform w a := by
  rw [perform_eq, perform_eq, hprobe]
  rfl

theorem perform_of_wgsl (hprobe : a.probe = false) (hwgsl : a.wgsl = true)
    (transport : Http.Transport) (toolchain : String → Toolchain)
    (clientFault : Option Http.Fault) :
    perform { w with transport, toolchain, clientFault } a = perform w a := by
  rw [perform_eq, perform_eq, hprobe, hwgsl]
  rfl

theorem silent_of_wgsl (hprobe : a.probe = false) (hwgsl : a.wgsl = true) :
    (perform w a).requests = [] ∧ (perform w a).runs = [] := by
  rw [perform_eq, hprobe, hwgsl]
  cases settings w a with
  | error fault => exact ⟨rfl, rfl⟩
  | ok c => exact (silent_checkShader w a).symm

/-- The status of a run in each of its three modes, with whom it asks and runs. A probe does not
look at the source, and a shader is checked without any service or tool. How a result is shown,
wherever the options for it stand, changes what is printed and nothing else. -/
theorem status_of_run {w : World} {args : List String} {a : Arguments}
    (hread : Arguments.read args = .ok a) :
    let o := run w args
    (∀ c, settings w a = .ok c → withCalls w a c (calls w a) o = o) ∧
    (a.probe = false → a.wgsl = false → CheckStatus w a o.status) ∧
    (a.probe = true → ProbeStatus w a o.status ∧
      ∀ file stdin wgsl, perform { w with stdin } { a with file, wgsl } = o) ∧
    (a.probe = false → a.wgsl = true → ShaderStatus w a o.status ∧
      calls w a = [] ∧ o.requests = [] ∧ o.runs = [] ∧
      ∀ transport toolchain clientFault,
        run { w with transport, toolchain, clientFault } args = o) ∧
    (∀ args' a', Arguments.read args' = .ok a' → a'.bare = a.bare →
      run w args' = { o with stdout := (run w args').stdout } ∧ calls w a' = calls w a) ∧
    ∀ before shown after, args = before ++ shown ++ after → Arguments.Shows shown →
      "--" ∉ before → ∃ a', Arguments.read (before ++ after) = .ok a' ∧ a'.bare = a.bare := by
  intro o
  have ho : o = perform w a := run_of_read w hread
  rw [ho]
  refine ⟨fun c => withCalls_perform, checkStatus_perform, fun hprobe => ?_,
    fun hprobe hwgsl => ?_, fun args' a' hread' hbare => ?_, ?_⟩
  · exact ⟨probeStatus_perform hprobe, perform_of_probe hprobe⟩
  · obtain ⟨hrequests, hruns⟩ := silent_of_wgsl (w := w) hprobe hwgsl
    refine ⟨shaderStatus_perform hprobe hwgsl, calls_of_wgsl hprobe hwgsl, hrequests, hruns, ?_⟩
    intro transport toolchain clientFault
    rw [run_of_read _ hread]
    exact perform_of_wgsl hprobe hwgsl transport toolchain clientFault
  · rw [run_of_read w hread']
    exact ⟨alike_perform w hbare, calls_of_bare w hbare⟩
  · rintro before shown after rfl hshows hbefore
    exact Arguments.read_of_shows hshows hbefore hread

/-- An error that the choice of a line hides still fails the run. The same service is not ready when
it is probed, and the source is no shader. -/
theorem status_of_run_hidden :
    let w : World := {
      files := fun _ => .error .notFound
      environment := fun _ => none
      stdin := "fn main() {}".toUTF8.toList
      transport := .through fun _ r => .answered {
        status := 200
        url := r.url
        body := (String.toUTF8 <| "\x7b\"result\": \x7b\"errors\": " ++
          "[\x7b\"message\": \"bad\", \"line\": 3\x7d]\x7d\x7d").toList }
      toolchain := fun edition =>
        { edition, builder := none, compiler := none, directory := .ok "." } }
    let args := ["-q"] ++ ["--line", "7"] ++ ["--json"]
    let a : Arguments := { quick := true, line := some 7, json := true }
    Arguments.read args = .ok a ∧ (run w args).stdout = "[]\n" ∧ (run w args).status = 1 ∧
      CheckStatus w a 1 ∧ (run w ["-q", "--json"]).status = 1 ∧
      (run w ["-q", "--json"]).requests = (run w args).requests ∧
      (run w ["--probe"]).status = 2 ∧ Probes w { probe := true } false ∧
      (run w ["-w"]).status = 1 ∧ (run w ["-w"]).requests = [] := by
  intro w args a
  have hread : Arguments.read args = .ok a := rfl
  have hout : (run w args).stdout = "[]\n" ∧ (run w args).status = 1 := by decide +kernel
  obtain ⟨-, hcheck, -, -, hshown, hshows⟩ := status_of_run (w := w) hread
  obtain ⟨a', hread', hbare⟩ :=
    hshows ["-q"] ["--line", "7"] ["--json"] rfl (.line (n := 7) rfl) (by simp)
  obtain ⟨heq, -⟩ := hshown _ a' hread' hbare
  have hprobe : (run w ["--probe"]).status = 2 := by decide +kernel
  have hwgsl : (run w ["-w"]).status = 1 := by decide +kernel
  have hreadProbe : Arguments.read ["--probe"] = .ok { probe := true } := rfl
  have hreadShader : Arguments.read ["-w"] = .ok { wgsl := true } := rfl
  have hready := ((status_of_run (w := w) hreadProbe).2.2.1 rfl).1
  have hshader := (status_of_run (w := w) hreadShader).2.2.2.1 rfl rfl
  refine ⟨hread, hout.1, hout.2, hout.2 ▸ hcheck rfl rfl, ?_, ?_, hprobe,
    hready.unserved.1 hprobe, hwgsl, hshader.2.2.1⟩
  · rw [show ["-q", "--json"] = ["-q"] ++ ["--json"] from rfl, heq]
    exact hout.2
  · rw [show ["-q", "--json"] = ["-q"] ++ ["--json"] from rfl, heq]

end SnippetCheck.Command
