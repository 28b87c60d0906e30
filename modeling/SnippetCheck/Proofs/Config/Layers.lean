import SnippetCheck.Command
import SnippetCheck.Http.Net
import SnippetCheck.Proofs.Service.Check

/-! The layers of the settings. Each source says something of some settings and nothing of the rest,
and a setting is what the first source that says something of it makes it: the arguments, then the
environment, then a file, then what is built in. The sources are read one after another, the lowest
first; `Layer.onto` is what one of them does, and `Layer.settle` is what all of them come to. -/

namespace SnippetCheck

/-- What a source says of the settings. -/
structure Layer where
  primaryUrl : Option String := none
  fallbackEnabled : Option Bool := none
  quickCheck : Option Bool := none
  requestTimeoutSecs : Option Nat := none
  healthTimeoutSecs : Option Nat := none
  playgroundUrl : Option String := none
  channel : Option String := none
  edition : Option String := none
  dropSummaryLines : Option Bool := none

namespace Layer

/-- The settings with each of them from the first layer that says something of it. -/
def settle (layers : List Layer) : Config :=
  let builtIn : Config := {}
  { primaryUrl := (layers.findSome? (·.primaryUrl)).getD builtIn.primaryUrl
    fallbackEnabled := (layers.findSome? (·.fallbackEnabled)).getD builtIn.fallbackEnabled
    quickCheck := (layers.findSome? (·.quickCheck)).getD builtIn.quickCheck
    requestTimeoutSecs := (layers.findSome? (·.requestTimeoutSecs)).getD builtIn.requestTimeoutSecs
    healthTimeoutSecs := (layers.findSome? (·.healthTimeoutSecs)).getD builtIn.healthTimeoutSecs
    playgroundUrl := (layers.findSome? (·.playgroundUrl)).getD builtIn.playgroundUrl
    channel := (layers.findSome? (·.channel)).getD builtIn.channel
    edition := (layers.findSome? (·.edition)).getD builtIn.edition
    dropSummaryLines := (layers.findSome? (·.dropSummaryLines)).getD builtIn.dropSummaryLines }

/-- The settings with what a layer says in the place of what was there. -/
def onto (l : Layer) (c : Config) : Config :=
  { primaryUrl := l.primaryUrl.getD c.primaryUrl
    fallbackEnabled := l.fallbackEnabled.getD c.fallbackEnabled
    quickCheck := l.quickCheck.getD c.quickCheck
    requestTimeoutSecs := l.requestTimeoutSecs.getD c.requestTimeoutSecs
    healthTimeoutSecs := l.healthTimeoutSecs.getD c.healthTimeoutSecs
    playgroundUrl := l.playgroundUrl.getD c.playgroundUrl
    channel := l.channel.getD c.channel
    edition := l.edition.getD c.edition
    dropSummaryLines := l.dropSummaryLines.getD c.dropSummaryLines }

/-! ### Sources -/

def ofArguments (a : Arguments) : Layer :=
  { primaryUrl := a.url
    fallbackEnabled := if a.noFallback then some false else none
    quickCheck := if a.quick then some true else none }

/-- A variable's value as it is compared with words. -/
def word (value : String) : String := Text.lowerAscii (Text.trimmed value)

def flag? (value : String) : Option Bool := Config.flagOfWord? (word value)

/-- What the environment says, unless a variable for a yes or no says neither. -/
def ofEnvironment? (env : Environment) : Option Layer := do
  return {
    primaryUrl := env Config.urlVariable
    fallbackEnabled := ← (env Config.fallbackVariable).mapM flag?
    quickCheck := ← (env Config.quickVariable).mapM flag? }

open Toml in
/-- What a document says, unless it gives a setting a value of the wrong type. -/
def ofDocument? (document : List (String × Toml)) : Option Layer := do
  return {
    primaryUrl := ← (document.lookup "primary_url").mapM text?
    fallbackEnabled := ← (document.lookup "fallback_enabled").mapM Toml.flag?
    quickCheck := ← (document.lookup "quick_check").mapM Toml.flag?
    requestTimeoutSecs := ← (document.lookup "request_timeout_secs").mapM natural?
    healthTimeoutSecs := ← (document.lookup "health_timeout_secs").mapM natural?
    playgroundUrl := ← (document.lookup "playground_url").mapM text?
    channel := ← (document.lookup "channel").mapM text?
    edition := ← (document.lookup "edition").mapM text?
    dropSummaryLines := ← (document.lookup "drop_summary_lines").mapM Toml.flag? }

/-- What the file at a path says, if a path is chosen. -/
def ofFile? (files : Files) : Option String → Option Layer
  | none => some {}
  | some path => do
    let text ← (files.text path).toOption
    ofDocument? (← Toml.read? text)

/-! ### One layer over others -/

theorem getD_findSome?_cons (l : Layer) (layers : List Layer) (field : Layer → Option α)
    (builtIn : α) : ((l :: layers).findSome? field).getD builtIn =
      (field l).getD ((layers.findSome? field).getD builtIn) := by
  rw [List.findSome?_cons]
  cases field l <;> rfl

theorem settle_cons (l : Layer) (layers : List Layer) :
    settle (l :: layers) = l.onto (settle layers) := by
  simp only [settle, onto, getD_findSome?_cons]

example : settle [{ fallbackEnabled := some false },
    { fallbackEnabled := some true, primaryUrl := some "a" },
    { primaryUrl := some "b", edition := some "2018" }] =
      { primaryUrl := "a", fallbackEnabled := false, edition := "2018" } := rfl

theorem onto_onto (l : Layer) (c : Config) : l.onto (l.onto c) = l.onto c := by
  have hgetD {α : Type} (o : Option α) (x : α) : o.getD (o.getD x) = o.getD x := by
    cases o <;> rfl
  simp only [onto, hgetD]

theorem applyTo_eq (a : Arguments) (c : Config) : a.applyTo c = (ofArguments a).onto c := by
  cases hfallback : a.noFallback <;> cases hquick : a.quick <;>
    simp [Arguments.applyTo, ofArguments, onto, hfallback, hquick]

/-! ### Files -/

theorem setting?_eq (document : List (String × Toml)) (read? : Toml → Option α) (name : String)
    (builtIn : α) : Toml.setting? document read? name builtIn =
      ((document.lookup name).mapM read?).map (·.getD builtIn) := by
  unfold Toml.setting?
  cases document.lookup name with
  | none => rfl
  | some v => cases h : read? v <;> simp [h]

theorem ofToml?_eq (text : String) : Config.ofToml? text =
    ((Toml.read? text).bind ofDocument?).map (settle [·]) := by
  simp only [Config.ofToml?, ofDocument?, setting?_eq, settle_cons, Option.bind_eq_bind,
    Option.pure_def, Option.bind_map, Option.map_bind, Option.map_some, Function.comp_def]
  rfl

/-- The settings from the file at a path, if a path is chosen. -/
def chosen (files : Files) : Option String → Except ConfigFault Config
  | none => .ok {}
  | some path => Config.ofFile files path

theorem chosen_cases (files : Files) (path : Option String) :
    (∃ l, ofFile? files path = some l ∧ chosen files path = .ok (settle [l])) ∨
    (ofFile? files path = none ∧ ∃ fault, chosen files path = .error fault) := by
  cases path with
  | none => exact .inl ⟨{}, rfl, rfl⟩
  | some path =>
    cases htext : files.text path with
    | error fault => exact .inr (by simp [chosen, Config.ofFile, ofFile?, htext, Except.toOption])
    | ok text =>
      have hfile : ofFile? files (some path) = (Toml.read? text).bind ofDocument? := by
        simp [ofFile?, htext, Except.toOption]
      have hsettings := ofToml?_eq text
      rw [← hfile] at hsettings
      cases hl : ofFile? files (some path) with
      | none => exact .inr (by simp [chosen, Config.ofFile, htext, hsettings, hl])
      | some l => exact .inl (by simp [chosen, Config.ofFile, htext, hsettings, hl])

/-- Every setting that a document names has a value of the right type. -/
def Typed (document : List (String × Toml)) : Prop :=
  (∀ name ∈ ["primary_url", "playground_url", "channel", "edition"],
    ∀ v ∈ document.lookup name, ∃ s, v = .string s) ∧
  (∀ name ∈ ["fallback_enabled", "quick_check", "drop_summary_lines"],
    ∀ v ∈ document.lookup name, ∃ b, v = .boolean b) ∧
  ∀ name ∈ ["request_timeout_secs", "health_timeout_secs"],
    ∀ v ∈ document.lookup name, ∃ n : Nat, v = .integer n

theorem any_const (o : Option α) (b : Bool) : (o.any fun _ => b) = (o.isSome && b) := by
  cases o <;> rfl

theorem isSome_mapM (o : Option α) (read? : α → Option β) :
    (o.mapM read?).isSome ↔ ∀ v ∈ o, (read? v).isSome := by
  cases o with
  | none => simp
  | some v => cases h : read? v <;> simp [h]

theorem isSome_text?_iff {v : Toml} : v.text?.isSome ↔ ∃ s, v = .string s := by
  cases v <;> simp [Toml.text?]

theorem isSome_flag?_iff {v : Toml} : v.flag?.isSome ↔ ∃ b, v = .boolean b := by
  cases v <;> simp [Toml.flag?]

theorem isSome_natural?_iff {v : Toml} : v.natural?.isSome ↔ ∃ n : Nat, v = .integer n := by
  cases v with
  | integer n =>
    simp only [Toml.natural?, Toml.integer.injEq]
    split
    · next h => simp [Int.eq_ofNat_of_zero_le h]
    · next h =>
      refine iff_of_false (by simp) ?_
      rintro ⟨m, rfl⟩
      exact h (Int.natCast_nonneg m)
  | _ => simp [Toml.natural?]

theorem isSome_ofDocument?_iff {document : List (String × Toml)} :
    (ofDocument? document).isSome ↔ Typed document := by
  simp only [ofDocument?, Option.bind_eq_bind, Option.isSome_bind, Option.pure_def,
    Option.isSome_some, any_const, Bool.and_true, Bool.and_eq_true, isSome_mapM, isSome_text?_iff,
    isSome_flag?_iff, isSome_natural?_iff, Typed, List.forall_mem_cons, List.not_mem_nil]
  constructor
  · rintro ⟨hurl, hfallback, hquick, hrequest, hhealth, hplayground, hchannel, hedition, hdrop⟩
    exact ⟨⟨hurl, hplayground, hchannel, hedition, by simp⟩, ⟨hfallback, hquick, hdrop, by simp⟩,
      hrequest, hhealth, by simp⟩
  · rintro ⟨⟨hurl, hplayground, hchannel, hedition, -⟩, ⟨hfallback, hquick, hdrop, -⟩, hrequest,
      hhealth, -⟩
    exact ⟨hurl, hfallback, hquick, hrequest, hhealth, hplayground, hchannel, hedition, hdrop⟩

/-- The file at a path cannot be read, or its text writes no settings. -/
inductive Unusable (files : Files) (path : String) : Prop
  | unreadable {fault : FileFault} : files.text path = .error fault → Unusable files path
  | notToml {text : String} : files.text path = .ok text → Toml.read? text = none →
      Unusable files path
  | mistyped {text : String} {document : List (String × Toml)} : files.text path = .ok text →
      Toml.read? text = some document → ¬ Typed document → Unusable files path

theorem ofFile?_eq_none_iff {files : Files} {path : Option String} :
    ofFile? files path = none ↔ ∃ p ∈ path, Unusable files p := by
  cases path with
  | none => simp [ofFile?]
  | some p =>
    have hnone {document : List (String × Toml)} :
        ofDocument? document = none ↔ ¬ Typed document := by
      rw [← isSome_ofDocument?_iff, Option.not_isSome_iff_eq_none]
    simp only [Option.mem_some_iff, exists_eq_left']
    constructor
    · intro h
      cases htext : files.text p with
      | error fault => exact .unreadable htext
      | ok text =>
        simp only [ofFile?, htext, Except.toOption, Option.bind_eq_bind, Option.bind_some] at h
        cases hread : Toml.read? text with
        | none => exact .notToml htext hread
        | some document =>
          rw [hread, Option.bind_some] at h
          exact .mistyped htext hread (hnone.1 h)
    · rintro (htext | ⟨htext, hread⟩ | ⟨htext, hread, htyped⟩)
      · simp [ofFile?, htext, Except.toOption]
      · simp [ofFile?, htext, hread, Except.toOption]
      · simp [ofFile?, htext, hread, hnone.2 htyped, Except.toOption]

/-! ### The environment -/

theorem flag?_eq_none_iff {value : String} : flag? value = none ↔
    word value ∉ ["1", "true", "yes", "on", "0", "false", "no", "off"] := by
  change Config.flagOfWord? (word value) = none ↔
    word value ∉ ["1", "true", "yes", "on"] ++ ["0", "false", "no", "off"]
  rw [Config.flagOfWord?, List.mem_append]
  simp only [List.contains_iff_mem]
  by_cases hyes : word value ∈ ["1", "true", "yes", "on"]
  · rw [if_pos hyes]
    exact iff_of_false (by simp) fun h => h (.inl hyes)
  by_cases hno : word value ∈ ["0", "false", "no", "off"]
  · rw [if_neg hyes, if_pos hno]
    exact iff_of_false (by simp) fun h => h (.inr hno)
  · rw [if_neg hyes, if_neg hno]
    exact iff_of_true rfl fun h => h.elim hyes hno

theorem flag_cases (name value : String) :
    (flag? value = none ∧ Config.flag name value = .error (.notFlag name (word value))) ∨
    ∃ b, flag? value = some b ∧ Config.flag name value = .ok b := by
  rw [Config.flag, flag?, word]
  cases Config.flagOfWord? (Text.lowerAscii (Text.trimmed value)) with
  | none => exact .inl ⟨rfl, rfl⟩
  | some b => exact .inr ⟨b, rfl, rfl⟩

/-- A variable that may not be there says neither yes nor no, or it says nothing or one of them. -/
theorem mapM_flag_cases (name : String) (held : Option String) :
    (∃ value, held = some value ∧ flag? value = none ∧
      held.mapM (Config.flag name) = .error (.notFlag name (word value))) ∨
    ∃ o, held.mapM flag? = some o ∧ held.mapM (Config.flag name) = .ok o := by
  cases held with
  | none => exact .inr ⟨none, rfl, rfl⟩
  | some value =>
    obtain ⟨hnone, hflag⟩ | ⟨b, hsome, hflag⟩ := flag_cases name value
    · exact .inl ⟨value, rfl, hnone, by rw [Option.mapM_some, hflag]; rfl⟩
    · exact .inr ⟨some b, by simp [hsome], by rw [Option.mapM_some, hflag]; rfl⟩

/-- What the environment does to any settings: it puts a layer over them. Without a fault the layer
is all that it says, and at a fault what it says before. -/
theorem override_cases (env : Environment) :
    ∃ fallback quick fault, (∀ c : Config, c.override env =
      (({ primaryUrl := env Config.urlVariable, fallbackEnabled := fallback
          quickCheck := quick } : Layer).onto c, fault)) ∧
      ((fault = none ∧ (env Config.fallbackVariable).mapM flag? = some fallback ∧
          (env Config.quickVariable).mapM flag? = some quick) ∨
        (∃ value, fault = some (.notFlag Config.fallbackVariable (word value)) ∧
          env Config.fallbackVariable = some value ∧ flag? value = none ∧ fallback = none ∧
          quick = none) ∨
        ∃ value, fault = some (.notFlag Config.quickVariable (word value)) ∧
          (env Config.fallbackVariable).mapM flag? = some fallback ∧
          env Config.quickVariable = some value ∧ flag? value = none ∧ quick = none) := by
  obtain ⟨value, henv, hnone, hfallback⟩ | ⟨fallback, hsaid, hfallback⟩ :=
    mapM_flag_cases Config.fallbackVariable (env Config.fallbackVariable)
  · -- the variable for quick checks is not looked at any more
    refine ⟨none, none, _, fun c => ?_, .inr (.inl ⟨value, rfl, henv, hnone, rfl, rfl⟩)⟩
    rw [Config.override, hfallback]
    rfl
  obtain ⟨value, henv, hnone, hquick⟩ | ⟨quick, hsaid', hquick⟩ :=
    mapM_flag_cases Config.quickVariable (env Config.quickVariable)
  · refine ⟨fallback, none, _, fun c => ?_, .inr (.inr ⟨value, rfl, hsaid, henv, hnone, rfl⟩)⟩
    rw [Config.override, hfallback, hquick]
    rfl
  · refine ⟨fallback, quick, none, fun c => ?_, .inl ⟨rfl, hsaid, hsaid'⟩⟩
    rw [Config.override, hfallback, hquick]
    rfl

theorem mapM_flag?_eq_none_iff {held : Option String} : held.mapM flag? = none ↔
    ∃ value ∈ held, word value ∉ ["1", "true", "yes", "on", "0", "false", "no", "off"] := by
  simp only [← flag?_eq_none_iff]
  cases held with
  | none => simp
  | some value => cases h : flag? value <;> simp [h]

theorem ofEnvironment?_eq_none_iff {env : Environment} : ofEnvironment? env = none ↔
    ∃ name ∈ [Config.fallbackVariable, Config.quickVariable], ∃ value ∈ env name,
      word value ∉ ["1", "true", "yes", "on", "0", "false", "no", "off"] := by
  have hparts : ofEnvironment? env = none ↔ (env Config.fallbackVariable).mapM flag? = none ∨
      (env Config.quickVariable).mapM flag? = none := by
    rw [ofEnvironment?]
    cases (env Config.fallbackVariable).mapM flag? <;>
      cases (env Config.quickVariable).mapM flag? <;> simp
  rw [hparts, mapM_flag?_eq_none_iff, mapM_flag?_eq_none_iff]
  simp only [List.mem_cons, List.not_mem_nil, or_false, exists_eq_or_imp, exists_eq_left]

/-! ### All layers -/

theorem load_eq (files : Files) (env : Environment) (path : Option String) :
    Config.load files env path =
      chosen files (path.or (env Config.fileVariable)) >>= fun c =>
        match c.override env with
        | (_, some fault) => .error fault
        | (c, none) => .ok c := by
  unfold Config.load
  cases path.or (env Config.fileVariable) <;> rfl

/-- Loading settles what the file and the environment say, if each of them says what it may. -/
theorem load_cases (files : Files) (env : Environment) (path : Option String) :
    let file? := ofFile? files (path.or (env Config.fileVariable))
    (∃ file said, file? = some file ∧ ofEnvironment? env = some said ∧
      Config.load files env path = .ok (settle [said, file])) ∨
    ((file? = none ∨ ofEnvironment? env = none) ∧
      ∃ fault, Config.load files env path = .error fault) := by
  rw [load_eq]
  obtain ⟨file, hsome, hread⟩ | ⟨hnone, fault, hread⟩ :=
    chosen_cases files (path.or (env Config.fileVariable))
  · have hbind {f : Config → Except ConfigFault Config} :
        chosen files (path.or (env Config.fileVariable)) >>= f = f (settle [file]) := by
      rw [hread]
      rfl
    have hnone {name value : String}
        (hname : name ∈ [Config.fallbackVariable, Config.quickVariable])
        (henv : env name = some value) (hflag : flag? value = none) : ofEnvironment? env = none :=
      ofEnvironment?_eq_none_iff.2 ⟨name, hname, value, henv, flag?_eq_none_iff.1 hflag⟩
    obtain ⟨fallback, quick, fault, hover, ⟨rfl, hfallback, hquick⟩ | ⟨value, rfl, henv, hflag, -⟩ |
      ⟨value, rfl, -, henv, hflag, -⟩⟩ := override_cases env
    · have hsaid : ofEnvironment? env = some {
          primaryUrl := env Config.urlVariable
          fallbackEnabled := fallback
          quickCheck := quick } := by
        simp only [ofEnvironment?, hfallback, hquick]
        rfl
      exact .inl ⟨file, _, hsome, hsaid, by rw [hbind, hover, settle_cons _ [file]]⟩
    · exact .inr ⟨.inr (hnone (by simp) henv hflag), _, by rw [hbind, hover]⟩
    · exact .inr ⟨.inr (hnone (by simp) henv hflag), _, by rw [hbind, hover]⟩
  · rw [hread]
    exact .inr ⟨.inl hnone, fault, rfl⟩

/-- What settings become under the variables of an environment. The same variables change nothing
more, and no other settings are touched. Behind a variable that says neither yes nor no, what comes
before it is set and what comes after it is not. -/
structure Overridden (c : Config) (env : Environment) (after : Config × Option ConfigFault) :
    Prop where
  again : after.1.override env = after
  others : after.1 = { c with
    primaryUrl := after.1.primaryUrl
    fallbackEnabled := after.1.fallbackEnabled
    quickCheck := after.1.quickCheck }
  fault : ∀ fault, after.2 = some fault →
    (∃ value, env Config.fallbackVariable = some value ∧
      fault = .notFlag Config.fallbackVariable (word value) ∧
      after.1 = { c with primaryUrl := (env Config.urlVariable).getD c.primaryUrl }) ∨
    ∃ fallback value, (env Config.fallbackVariable).mapM flag? = some fallback ∧
      env Config.quickVariable = some value ∧
      fault = .notFlag Config.quickVariable (word value) ∧
      after.1 = { c with
        primaryUrl := (env Config.urlVariable).getD c.primaryUrl
        fallbackEnabled := fallback.getD c.fallbackEnabled }

theorem overridden_override (c : Config) (env : Environment) :
    Overridden c env (c.override env) := by
  obtain ⟨fallback, quick, fault, hover, hfault⟩ := override_cases env
  refine ⟨by rw [hover, hover, onto_onto], by rw [hover]; rfl, fun said hsaid => ?_⟩
  obtain rfl : fault = some said := by rw [← hsaid, hover]
  obtain ⟨hnone, -⟩ | ⟨value, hvalue, henv, -, rfl, rfl⟩ |
    ⟨value, hvalue, hfallback, henv, -, rfl⟩ := hfault
  · exact absurd hnone (by simp)
  · exact .inl ⟨value, henv, Option.some.inj hvalue, by rw [hover]; rfl⟩
  · exact .inr ⟨fallback, value, hfallback, henv, Option.some.inj hvalue, by rw [hover]; rfl⟩

end Layer

/-! ### The program -/

namespace Command

theorem service_config (a : Arguments) (c : Config) : (service a c).config = c := by
  unfold service
  split <;> rfl

theorem isSome_secondary_service (a : Arguments) (c : Config) :
    (service a c).secondary.isSome = c.fallbackEnabled := by
  unfold service
  split <;> cases h : c.fallbackEnabled <;> simp [Service.overHttp, Service.new, h]

theorem quickCheck_ofOptions (a : Arguments) (c : Config) (source : String) :
    (CheckRequest.ofOptions (a.applyTo c) source a.options).quickCheck =
      (a.applyTo c).quickCheck := by
  cases h : a.quick <;> simp [CheckRequest.ofOptions, Arguments.options, Arguments.applyTo, h]

/-- The service of a run goes by these settings, and so does what a check asks: quick or not, and
nothing of a secondary service if the settings do without one. -/
structure GoesBy (a : Arguments) (c : Config) : Prop where
  config : (service a c).config = c
  secondary : (service a c).secondary.isSome = c.fallbackEnabled
  quick : ∀ b source, ∀ r ∈ ((service a c).check b source a.options).2.2.filterMap
    Call.checkRequest?, r.quickCheck = c.quickCheck
  alone : c.fallbackEnabled = false → ∀ b source,
    ((service a c).check b source a.options).2.2.filterMap Call.executeRequest? = []

theorem goesBy_applyTo (a : Arguments) (c : Config) : GoesBy a (a.applyTo c) where
  config := service_config a _
  secondary := isSome_secondary_service a _
  quick b source r hr := by
    rw [Service.eq_ofOptions_of_mem_check hr, service_config, quickCheck_ofOptions]
  alone hoff b source := by
    apply Service.filterMap_executeRequest?_check
    rw [← Option.not_isSome_iff_eq_none, isSome_secondary_service, hoff]
    decide

end Command

/-- The settings of a run are settled by the arguments, the environment and the chosen file, in this
order, and the service and what it is asked go by them. A run fails for its settings where the file
or a variable cannot be taken, whatever the arguments say, and nowhere else. -/
theorem settings_layered (w : World) (a : Arguments) :
    let path := a.configFile.or (w.environment Config.fileVariable)
    let loaded := Config.load w.files w.environment a.configFile
    (∀ c, loaded = .ok c → ∃ file said, Layer.ofFile? w.files path = some file ∧
      Layer.ofEnvironment? w.environment = some said ∧
      let settled := Layer.settle [.ofArguments a, said, file]
      a.applyTo c = settled ∧ Command.GoesBy a settled ∧
      Command.perform w a =
        if a.probe then Command.probe w a settled
        else if a.wgsl then Command.checkShader w a
        else Command.check w a settled) ∧
    ((∃ fault, loaded = .error fault) ↔
      (∃ p ∈ path, Layer.Unusable w.files p) ∨
      ∃ name ∈ [Config.fallbackVariable, Config.quickVariable], ∃ value ∈ w.environment name,
        Layer.word value ∉ ["1", "true", "yes", "on", "0", "false", "no", "off"]) ∧
    (∀ fault, loaded = .error fault → ∃ detail, Failure.ofConfig fault = .config detail ∧
      Command.perform w a =
        Command.failure "loading configuration" [(Failure.config detail).message]) ∧
    ∀ c env, Layer.Overridden c env (c.override env) := by
  intro path loaded
  refine ⟨fun c hload => ?_, ?_, fun fault hload => ⟨fault.message, rfl, ?_⟩,
    Layer.overridden_override⟩
  · obtain ⟨file, said, hfile, hsaid, hok⟩ | ⟨-, fault, herror⟩ :=
      Layer.load_cases w.files w.environment a.configFile
    · obtain rfl : Layer.settle [said, file] = c := Except.ok.inj (hok.symm.trans hload)
      have hsettled : a.applyTo (Layer.settle [said, file]) =
          Layer.settle [.ofArguments a, said, file] := by
        rw [Layer.applyTo_eq, Layer.settle_cons (.ofArguments a)]
      refine ⟨file, said, hfile, hsaid, hsettled, ?_, ?_⟩
      · rw [← hsettled]
        exact Command.goesBy_applyTo a _
      · rw [Command.perform, hok, ← hsettled]
    · exact absurd (herror.symm.trans hload) (by simp)
  · rw [← Layer.ofFile?_eq_none_iff, ← Layer.ofEnvironment?_eq_none_iff]
    obtain ⟨file, said, hfile, hsaid, hok⟩ | ⟨hnone, herror⟩ :=
      Layer.load_cases w.files w.environment a.configFile
    · refine iff_of_false ?_ ?_
      · rintro ⟨fault, herror⟩
        exact absurd (hok.symm.trans herror) (by simp)
      · rintro (hnone | hnone)
        · exact absurd (hfile.symm.trans hnone) (by simp)
        · exact absurd (hsaid.symm.trans hnone) (by simp)
    · exact iff_of_true herror hnone
  · have herror : Config.load w.files w.environment a.configFile = .error fault := hload
    rw [Command.perform, herror]
    rfl

/-- The arguments win over a variable, and the file over what is built in. -/
theorem settings_layered_no_fallback :
    let w : World := {
      files := fun path =>
        if path = "c.toml" then .ok "quick_check = true\nchannel = \"beta\"\n".toUTF8.toList
        else .error .notFound
      environment := fun name =>
        if name = Config.fileVariable then some "c.toml"
        else if name = Config.fallbackVariable then some " YES\n"
        else none
      stdin := []
      transport := .through .deserted
      toolchain := fun edition =>
        { edition, builder := none, compiler := none, directory := .ok "." } }
    let a : Arguments := { noFallback := true }
    let c : Config := { quickCheck := true, channel := "beta" }
    Config.load w.files w.environment a.configFile = .ok c ∧
      a.applyTo c = { c with fallbackEnabled := false } ∧
      Command.GoesBy a { c with fallbackEnabled := false } := by
  intro w a c
  have hload : Config.load w.files w.environment a.configFile = .ok c := by
    have hsome : (Config.load w.files w.environment a.configFile).toOption = some c := by
      decide +kernel
    generalize Config.load w.files w.environment a.configFile = loaded at hsome ⊢
    cases loaded with
    | error fault => exact absurd hsome (by simp [Except.toOption])
    | ok c' => exact congrArg _ (Option.some.inj hsome)
  obtain ⟨file, said, -, -, hsettled, hgoes, -⟩ := (settings_layered w a).1 c hload
  rw [← hsettled] at hgoes
  exact ⟨hload, rfl, hgoes⟩

end SnippetCheck
