import SnippetCheck.Http.Client
import SnippetCheck.Proofs.Http
import SnippetCheck.Proofs.Request
import SnippetCheck.Proofs.Service.Runs
import SnippetCheck.Toolchain

/-! What the checks of a run send. A check passes the snippet on as it was given: what it sends to
either service reads back as a request with the same text, and the local toolchain is given the same
text in a file. Whether the snippet holds `fn main` decides both how the playground is to build it
and what that file is called. -/

namespace SnippetCheck

open Json

/-- A snippet with a function `main` is a program of its own. -/
def HoldsMain (source : String) : Prop := "fn main".toList <:+: source.toList

/-- A request to build a snippet, as the settings and the snippet have it. -/
structure ExecuteRequest.Builds (config : Config) (source : String) (e : ExecuteRequest) :
    Prop where
  code : e.code = source
  channel : e.channel = config.channel
  edition : e.edition = config.edition
  mode : e.mode = "debug"
  tests : e.tests = false
  backtrace : e.backtrace = false
  program : e.crateType = "bin" ↔ HoldsMain source
  library : e.crateType = "lib" ↔ ¬ HoldsMain source

/-- The text that a call sends for a check reads back as what the caller asked for. -/
inductive Call.Sends (config : Config) (source : String) (options : CheckOptions) (text : String) :
    Call → Prop
  | check {request : CheckRequest} :
    decode? CheckRequest.decoder text =
      some { code := source, dependencies := options.dependencies
             quickCheck := options.quickCheck.getD config.quickCheck } →
    Sends config source options text (.check request)
  | execute {request e : ExecuteRequest} : decode? ExecuteRequest.decoder text = some e →
    e.Builds config source → Sends config source options text (.execute request)

theorem ExecuteRequest.builds_ofCode (source : String) (config : Config) :
    (ofCode source config).Builds config source := by
  have hmain : isProgram source = true ↔ HoldsMain source := isProgram_iff
  refine ⟨rfl, rfl, rfl, rfl, rfl, rfl, ?_, ?_⟩
  · rw [← hmain]
    cases h : isProgram source <;> simp [ofCode, h]
  · rw [← hmain]
    cases h : isProgram source <;> simp [ofCode, h]

/-- What arrives is what was sent. -/
theorem Http.content_of_arrival? {t : Transport} {seconds : Nat} {r q : Request}
    (h : arrival? t seconds r = some q) : q.content = r.content := by
  obtain ⟨u, -, rfl, -⟩ := arrival?_eq_some_iff.1 h
  rfl

namespace Service

/-- Every record of a history is that of a step, taken after the steps before it. -/
theorem exists_take_of_mem_history {s : Service} {steps : List Step} {r : Record}
    (h : r ∈ s.history steps) : ∃ before, r = ((s.run before).take r.step).1 := by
  induction steps generalizing s with
  | nil => cases h
  | cons step steps ih =>
    rcases List.mem_cons.1 h with rfl | h
    · refine ⟨[], ?_⟩
      cases step <;> rfl
    · obtain ⟨before, hr⟩ := ih h
      exact ⟨step :: before, hr⟩

/-- A check makes no calls but for its own snippet. -/
theorem mem_calls_of_check {s : Service} {b : Backends} {source : String} {options : CheckOptions}
    {call : Call} (h : call ∈ (s.check b source options).2.2) :
    call = .check (.ofOptions s.config source options) ∨
      call = .execute (.ofCode source s.config) := by
  have hfall {why : String} (h : call ∈ (s.fallBack b source why).2) :
      call = .execute (.ofCode source s.config) := by
    rw [fallBack_eq] at h
    obtain ⟨_, -, rfl⟩ := List.mem_map.1 h
    rfl
  rcases s.check_cases b source options with ⟨-, reply, -, heq⟩ | ⟨-, e, -, heq⟩ | ⟨-, heq⟩
  · rw [heq] at h
    exact .inl (List.mem_singleton.1 h)
  · rw [heq] at h
    rcases List.mem_cons.1 h with h | h
    · exact .inl h
    · exact .inr (hfall h)
  · rw [heq] at h
    exact .inr (hfall h)

/-- A call of a check sends what the caller asked for. -/
theorem sends_of_mem_calls {s : Service} {b : Backends} {source : String} {options : CheckOptions}
    {call : Call} (h : call ∈ (s.check b source options).2.2) :
    ∃ text, (call.request s.config).content = some text ∧
      call.Sends s.config source options text := by
  rcases mem_calls_of_check h with rfl | rfl
  · exact ⟨_, rfl, .check (CheckRequest.decode?_content _)⟩
  · exact ⟨_, rfl, .execute (ExecuteRequest.decode?_content _) (ExecuteRequest.builds_ofCode ..)⟩

end Service

namespace Toolchain

theorem mem_runs_execute {tool : Option Tool} {run r : Run} (h : r ∈ (execute tool run).2) :
    r = run := by
  unfold execute at h
  split at h
  · cases h
  · split at h
    · exact List.mem_singleton.1 h
    · cases h

/-- The build tool finds the snippet, and nothing but its manifest beside it, in the file that goes
by whether the snippet is a program. -/
theorem files_of_mem_checkProject {t : Toolchain} {source : String} {ds : List Dependency} {r : Run}
    (h : r ∈ (t.checkProject source ds).2) :
    (("src/main.rs", source) ∈ r.files ↔ HoldsMain source) ∧
      (("src/lib.rs", source) ∈ r.files ↔ ¬ HoldsMain source) ∧
      ∀ file ∈ r.files, file.1 = "Cargo.toml" ∨ file.2 = source := by
  have hmain : isProgram source = true ↔ HoldsMain source := isProgram_iff
  unfold checkProject at h
  split at h
  · cases h
  · obtain rfl := mem_runs_execute h
    rw [← hmain]
    cases hp : isProgram source <;> simp [buildRun, hp]

end Toolchain

/-- In every run of a new service, every check sends what its caller gave: the text to either
service reads back as the request with the same snippet, and nothing else arrives. The toolchain
builds the same snippet, and as a program exactly if the playground does. -/
theorem snippet_unchanged (config : Config) (primary : String) (secondary : Option String) :
    (∀ steps, ∀ r ∈ (Service.new config primary secondary).history steps,
      ∀ b source options, r.step = .check b source options → ∀ call ∈ r.calls,
        ∃ text, (call.request config).content = some text ∧
          call.Sends config source options text ∧
          ∀ t q, Http.arrival? t (call.allowance config) (call.request config) = some q →
            q.content = some text) ∧
    ∀ (t : Toolchain) source ds, ∀ r ∈ (t.checkProject source ds).2,
      (("src/main.rs", source) ∈ r.files ↔ HoldsMain source) ∧
        (("src/lib.rs", source) ∈ r.files ↔ ¬ HoldsMain source) ∧
        ∀ file ∈ r.files, file.1 = "Cargo.toml" ∨ file.2 = source := by
  refine ⟨?_, fun t source ds r => Toolchain.files_of_mem_checkProject⟩
  intro steps r hr b source options hstep call hcall
  obtain ⟨before, heq⟩ := Service.exists_take_of_mem_history hr
  have hconfig : ((Service.new config primary secondary).run before).config = config :=
    ((Service.follows_new config primary secondary).run before).config_eq
  rw [heq, hstep] at hcall
  obtain ⟨text, htext, hsends⟩ := Service.sends_of_mem_calls hcall
  rw [hconfig] at htext hsends
  refine ⟨text, htext, hsends, ?_⟩
  intro t q hq
  rw [Http.content_of_arrival? hq, htext]

/-- A check behind a failed probe and a reset asks both services for a snippet that is awkward to
write down, with one dependency twice. -/
theorem snippet_unchanged_thorny :
    let config : Config := { channel := "beta", quickCheck := true }
    let b : Backends :=
      { health := .error (.timeout "p"), check := fun _ => .error (.timeout "p")
        execute := fun _ => .ok { success := true } }
    let source := "// \"\\\x00😀\r\nfn main() {}"
    let options : CheckOptions := {
      dependencies := [⟨"rand", "0.8"⟩, ⟨"rand", "0.8"⟩]
      quickCheck := some false }
    let s := Service.new config "p" (some "s")
    let r := ((s.run [.probe b, .reset]).take (.check b source options)).1
    r ∈ s.history [.probe b, .reset, .check b source options] ∧
      r.calls = [.check { code := source, dependencies := options.dependencies },
        .execute { channel := "beta", mode := "debug", edition := "2021", crateType := "bin"
                   tests := false, code := source, backtrace := false }] ∧
      ∀ call ∈ r.calls, ∃ text, (call.request config).content = some text ∧
        call.Sends config source options text := by
  intro config b source options s r
  have hr : r ∈ s.history [.probe b, .reset, .check b source options] :=
    .tail _ (.tail _ (.head _))
  have hmain : isProgram source = true := by decide +kernel
  refine ⟨hr, ?_, ?_⟩
  · show [Call.check _, .execute (.ofCode source config)] = _
    rw [ExecuteRequest.ofCode, hmain]
    rfl
  · intro call hcall
    obtain ⟨text, htext, hsends, -⟩ :=
      (snippet_unchanged config "p" (some "s")).1 _ r hr b source options rfl call hcall
    exact ⟨text, htext, hsends⟩

end SnippetCheck
