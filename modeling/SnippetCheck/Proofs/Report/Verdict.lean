import SnippetCheck.Http.Client
import SnippetCheck.Proofs.Service.Check
import SnippetCheck.Shader
import SnippetCheck.Toolchain

/-! Verdicts. Reports come from five places: the diagnostics of a text, a partial report that a
service sent, the output of a tool, a shader, and a check, which passes on what it was answered.
Each of them keeps a report well formed, and where a compiler was asked the report succeeds exactly
if the compiler said so and there is no error; warnings play no part. -/

namespace SnippetCheck

/-- A report is well formed and succeeds exactly if the compiler said so, which is `said`, and there
is no error. -/
structure Report.Judged (said : Bool) (r : Report) : Prop where
  wellFormed : r.WellFormed
  success_iff : r.success = true ↔ said = true ∧ r.errors = []

theorem Report.judged_ofDiagnostics (success : Bool) (ds : List Diagnostic)
    (stdout stderr : String) : (ofDiagnostics success ds stdout stderr).Judged success where
  wellFormed := wellFormed_ofDiagnostics success ds stdout stderr
  success_iff := by simp [ofDiagnostics]

/-- A well-formed report is not changed by its way to a service and back. -/
theorem Report.WellFormed.complete_toPartial {r : Report} (h : r.WellFormed) :
    r.toPartial.complete = r :=
  r.complete_toPartial_eq_iff.2 h

theorem PartialReport.judged_complete (p : PartialReport) :
    p.complete.Judged (p.success.getD false) where
  wellFormed := p.wellFormed_complete
  success_iff := by simp [complete]

theorem Compiler.judged_report (success : Bool) (stdout stderr : String) (dropTotals : Bool) :
    (Compiler.report success stdout stderr dropTotals).Judged success :=
  Report.judged_ofDiagnostics ..

/-! ### Checks -/

/-- What the service that a call goes to says of the outcome: a missing verdict is a bad one. -/
def Backends.verdict? (b : Backends) : Call → Option Bool
  | .health => none
  | .check request => (b.check request).toOption.map fun reply => reply.result.success.getD false
  | .execute request => (b.execute request).toOption.map fun reply => reply.success

namespace Service

theorem judged_of_fallBack_eq_ok {s : Service} {b : Backends} {source why : String} {r : Report}
    (h : (s.fallBack b source why).1 = .ok r) :
    ∃ call said, (s.fallBack b source why).2 = [call] ∧ b.verdict? call = some said ∧
      r.Judged said := by
  obtain ⟨reply, he, rfl, hcalls⟩ := fallBack_eq_ok h
  exact ⟨_, reply.success, hcalls, by simp [Backends.verdict?, he, Except.toOption],
    Compiler.judged_report ..⟩

/-- The report of a check is judged by the service that was asked last. -/
theorem judged_of_check_eq_ok {s : Service} {b : Backends} {source : String}
    {options : CheckOptions} {r : Report} (h : (s.check b source options).1 = .ok r) :
    ∃ call said, (s.check b source options).2.2.getLast? = some call ∧
      b.verdict? call = some said ∧ r.Judged said := by
  obtain ⟨_, reply, hc, heq⟩ | ⟨_, e, _, heq⟩ | ⟨_, heq⟩ := check_cases s b source options
  all_goals rw [heq] at h ⊢
  · obtain rfl : reply.result.complete = r := by simpa using h
    exact ⟨_, _, rfl, by simp [Backends.verdict?, hc, Except.toOption],
      reply.result.judged_complete⟩
  · obtain ⟨call, said, hcalls, hsaid, hr⟩ := judged_of_fallBack_eq_ok h
    exact ⟨call, said, by simp [hcalls], hsaid, hr⟩
  · obtain ⟨call, said, hcalls, hsaid, hr⟩ := judged_of_fallBack_eq_ok h
    exact ⟨call, said, by simp [hcalls], hsaid, hr⟩

end Service

/-! ### The toolchain -/

theorem Output.judged_report (o : Output) (diagnostics : String → String → List Diagnostic) :
    (o.report diagnostics).Judged o.success :=
  Report.judged_ofDiagnostics ..

namespace Toolchain

/-- A tool that gives an output is installed and was run once. -/
theorem execute_eq_ok {tool : Option Tool} {run : Run} {o : Output}
    (h : (execute tool run).1 = .ok o) :
    ∃ t, tool = some t ∧ o = t.run run ∧ (execute tool run).2 = [run] := by
  unfold execute at h ⊢
  by_cases hnul : run.arguments.any (·.contains '\x00') = true
  · rw [if_pos hnul] at h
    exact absurd h (by simp)
  · rw [if_neg hnul] at h ⊢
    cases tool with
    | none => exact absurd h (by simp)
    | some t => exact ⟨t, rfl, by simpa using h.symm, rfl⟩

variable {t : Toolchain} {code : String} {r : Report}

/-- A report on what a tool wrote is judged by how the one run of the tool ended. -/
theorem judged_of_execute {tool : Option Tool} {run : Run}
    {diagnostics : String → String → List Diagnostic}
    (h : (execute tool run).1.map (Output.report · diagnostics) = .ok r) :
    ∃ t, tool = some t ∧ (execute tool run).2 = [run] ∧ r.Judged (t.run run).success := by
  obtain ⟨o, ho, rfl⟩ := exists_of_map_eq_ok h
  obtain ⟨t, htool, rfl, hrun⟩ := execute_eq_ok ho
  exact ⟨t, htool, hrun, Output.judged_report ..⟩

theorem judged_of_checkProject_eq_ok {ds : List Dependency}
    (h : (t.checkProject code ds).1 = .ok r) :
    ∃ tool run, t.builder = some tool ∧ (t.checkProject code ds).2 = [run] ∧
      r.Judged (tool.run run).success := by
  unfold checkProject at h ⊢
  cases hd : t.directory with
  | error fault => simp [hd] at h
  | ok directory =>
    rw [hd] at h
    obtain ⟨tool, htool, hrun, hr⟩ := judged_of_execute h
    exact ⟨tool, _, htool, hrun, hr⟩

theorem judged_of_checkQuickly_eq_ok (h : (t.checkQuickly code).1 = .ok r) :
    ∃ tool run, t.compiler = some tool ∧ (t.checkQuickly code).2 = [run] ∧
      r.Judged (tool.run run).success := by
  unfold checkQuickly at h ⊢
  cases hd : t.directory with
  | error fault => simp [hd] at h
  | ok directory =>
    rw [hd] at h
    obtain ⟨tool, htool, hrun, hr⟩ := judged_of_execute h
    exact ⟨tool, _, htool, hrun, hr⟩

theorem wellFormed_of_check_eq_ok {request : CheckRequest} (h : (t.check request).1 = .ok r) :
    r.WellFormed := by
  unfold check at h
  split at h
  · obtain ⟨_, _, _, _, hr⟩ := judged_of_checkQuickly_eq_ok h
    exact hr.wellFormed
  · obtain ⟨_, _, _, _, hr⟩ := judged_of_checkProject_eq_ok h
    exact hr.wellFormed

/-- A check that the toolchain answers gives the toolchain's own report. -/
theorem report_of_check_asPrimary {s : Service} {b : Backends} {source : String}
    {options : CheckOptions} {request : CheckRequest}
    (h : (s.check (t.asPrimary b) source options).1 = .ok r)
    (hlast : (s.check (t.asPrimary b) source options).2.2.getLast? = some (.check request)) :
    (t.check request).1 = .ok r := by
  obtain ⟨_, reply, hc, heq⟩ | ⟨_, e, _, heq⟩ | ⟨_, heq⟩ :=
    s.check_cases (t.asPrimary b) source options
  all_goals rw [heq] at h hlast
  · obtain rfl : CheckRequest.ofOptions s.config source options = request := by
      simpa using hlast
    obtain ⟨report, hreport, rfl⟩ := exists_of_map_eq_ok hc
    obtain rfl : report.toPartial.complete = r := by simpa using h
    rw [(wellFormed_of_check_eq_ok hreport).complete_toPartial, hreport]
  · obtain ⟨_, _, _, hcalls⟩ := Service.fallBack_eq_ok h
    exact absurd hlast (by simp [hcalls])
  · obtain ⟨_, _, _, hcalls⟩ := Service.fallBack_eq_ok h
    exact absurd hlast (by simp [hcalls])

end Toolchain

/-! ### Shaders -/

namespace Shader

theorem level_of_mem_errors {source : String} {d : Diagnostic} (h : d ∈ errors source) :
    d.level = .error := by
  unfold errors at h
  split at h
  · obtain rfl : d = missing "compute" := by simpa using h
    rfl
  · split at h
    · obtain rfl := List.mem_singleton.1 h
      rfl
    · exact absurd h (by simp)

theorem wellFormed_report (source : String) : (report source).WellFormed where
  errors _ hd := level_of_mem_errors hd
  warnings _ hd := absurd hd (by simp [report])
  success h := by simpa [report] using h

theorem wellFormed_reportFile (path source : String) : (reportFile path source).WellFormed where
  errors d hd := by
    obtain ⟨e, he, rfl⟩ := List.mem_map.1 hd
    have hlevel : e.level = .error := level_of_mem_errors he
    split <;> exact hlevel
  warnings _ hd := absurd hd (by simp [reportFile, report])
  success h := by simpa [reportFile, report] using h

end Shader

/-- Every report that reaches a caller is well formed, and where a compiler was asked it succeeds
exactly if the compiler said so and there is no error: the report of a check, by the service that
was asked last, also if that is the toolchain, the report on a text, the report of the toolchain, by
how the tool ended, a completed partial report, and the report on a shader. -/
theorem judged_reports :
    (∀ (s : Service) b source options r, (s.check b source options).1 = .ok r →
      ∃ call said, (s.check b source options).2.2.getLast? = some call ∧
        b.verdict? call = some said ∧ r.Judged said) ∧
    (∀ (s : Service) (t : Toolchain) b source options r request,
      (s.check (t.asPrimary b) source options).1 = .ok r →
      (s.check (t.asPrimary b) source options).2.2.getLast? = some (.check request) →
      (t.check request).1 = .ok r) ∧
    (∀ success stdout stderr dropTotals,
      (Compiler.report success stdout stderr dropTotals).Judged success) ∧
    (∀ (t : Toolchain) code ds r, (t.checkProject code ds).1 = .ok r →
      ∃ tool run, t.builder = some tool ∧ (t.checkProject code ds).2 = [run] ∧
        r.Judged (tool.run run).success) ∧
    (∀ (t : Toolchain) code r, (t.checkQuickly code).1 = .ok r →
      ∃ tool run, t.compiler = some tool ∧ (t.checkQuickly code).2 = [run] ∧
        r.Judged (tool.run run).success) ∧
    (∀ p : PartialReport, p.complete.Judged (p.success.getD false)) ∧
    ∀ path source, (Shader.report source).WellFormed ∧ (Shader.reportFile path source).WellFormed :=
  ⟨fun _ _ _ _ _ => Service.judged_of_check_eq_ok,
    fun _ _ _ _ _ _ _ => Toolchain.report_of_check_asPrimary,
    Compiler.judged_report,
    fun _ _ _ _ => Toolchain.judged_of_checkProject_eq_ok,
    fun _ _ _ => Toolchain.judged_of_checkQuickly_eq_ok,
    PartialReport.judged_complete,
    fun path source => ⟨Shader.wellFormed_report source, Shader.wellFormed_reportFile path source⟩⟩

/-- A warning in the text that the secondary service answers does not turn its success into a
failure. -/
theorem judged_reports_warning :
    let s := Service.new {} "first" (some "second")
    let b : Backends :=
      { health := .error (.timeout "first"), check := fun _ => .error (.timeout "first")
        execute := fun _ => .ok { success := true, stderr := "warning: unused" } }
    let r : Report :=
      { success := true, warnings := [{ level := .warning, message := "unused" }]
        stderr := "warning: unused" }
    (s.check b "" {}).1 = .ok r ∧
      ∃ call said, (s.check b "" {}).2.2.getLast? = some call ∧ b.verdict? call = some said ∧
        r.Judged said := by
  intro s b r
  have hreport : Compiler.report true "" "warning: unused" = r := by decide +kernel
  have h : (s.check b "" {}).1 = .ok r := congrArg Except.ok hreport
  exact ⟨h, judged_reports.1 s b "" {} r h⟩

end SnippetCheck
