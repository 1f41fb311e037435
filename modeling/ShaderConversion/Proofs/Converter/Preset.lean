import ShaderConversion.Compiler.Scripted
import ShaderConversion.Proofs.Configuration.Keys
import ShaderConversion.Proofs.Converter.Reachable

namespace ShaderConversion

structure Configuration.Gives (config : Configuration) (p : Converter.Preset) : Prop where
  inputVersion : config.chosen .inputVersion = .text p.inputVersion
  target : config.chosen .outputVersion = .text p.target
  debugLevel : config.chosen .debugLevel = .text p.debugLevel
  limits : Configuration.Key.limits.map config.chosen =
    p.limits.toList.map fun limit => .integer limit.toNat
  warningsAsErrors : config.chosen .warningsAsErrors = .bool p.warningsAsErrors

namespace Converter

open ShaderConversion.Configuration (Key)

def Preset.setters (p : Preset) (compiler : Compiler) : Converter :=
  let versioned := ((new compiler).setInputFormat .unspecified p.inputVersion).converter
  let targeted := (versioned.setOutputFormat .unspecified p.target).converter
  (targeted.setDebugLevel p.debugLevel).converter

-- What setting up a converter comes to: the first key that is mistyped, or the error of the first
-- setter that fails, or what the setters make. No setter is there for limits and warnings.
inductive SetsUp (compiler : Compiler) (config : Configuration) : Except SetupError Converter → Prop where
  | mistyped {key : Key} (first : Key.all.find? config.isMistyped = some key) :
      SetsUp compiler config (.error (.wrongValueType key.name key.kind))
  | version {p : Preset} {e : SetupError} (gives : config.Gives p)
      (refused : ((new compiler).setInputFormat .unspecified p.inputVersion).answer = .error e) :
      SetsUp compiler config (.error e)
  | target {p : Preset} {e : SetupError} (gives : config.Gives p)
      (accepted : ((new compiler).setInputFormat .unspecified p.inputVersion).answer = .ok ())
      (refused : ((new compiler).setOutputFormat .unspecified p.target).answer = .error e) :
      SetsUp compiler config (.error e)
  | ready {p : Preset} (gives : config.Gives p)
      (version : ((new compiler).setInputFormat .unspecified p.inputVersion).answer = .ok ())
      (target : ((new compiler).setOutputFormat .unspecified p.target).answer = .ok ()) :
      SetsUp compiler config (.ok {
        p.setters compiler with
        settings := {
          (p.setters compiler).settings with
          limits := p.limits
          warningsAsErrors := p.warningsAsErrors } })

section Reading

variable {config : Configuration} {p : Preset}

theorem checks_preset : config.Checks (Preset.ofConfiguration config) Key.all :=
  .cons (Configuration.checks_text _ _) fun _ => .cons (Configuration.checks_text _ _) fun _ =>
    .cons (Configuration.checks_text _ _) fun _ => Configuration.checks_limits.bind fun _ =>
      .cons (Configuration.checks_flag _ _) fun _ => Configuration.checks_pure _

theorem preset_gives : Preset.ofConfiguration config = .ok p ↔ config.Gives p := by
  simp only [Preset.ofConfiguration, bind_ok, Configuration.text_ok, Configuration.limits_ok,
    Configuration.flag_ok]
  constructor
  · rintro ⟨_, version, _, target, _, level, _, limits, _, warnings, same⟩
    cases same
    exact ⟨version, target, level, limits, warnings⟩
  · rintro ⟨version, target, level, limits, warnings⟩
    exact ⟨_, version, _, target, _, level, _, limits, _, warnings, rfl⟩

theorem gives_iff : (∃ p, config.Gives p) ↔ ∀ key ∈ Key.all, config.isMistyped key = false := by
  simp only [← preset_gives]
  rw [checks_preset.ok_iff, List.find?_eq_none]
  simp only [Bool.not_eq_true]

theorem preset_congr {config' : Configuration}
    (same : ∀ key ∈ Configuration.knownKeys, config'.get? key = config.get? key) :
    Preset.ofConfiguration config' = Preset.ofConfiguration config := by
  simp only [Configuration.knownKeys, List.forall_mem_cons, List.not_mem_nil, false_imp_iff,
    implies_true, and_true] at same
  simp only [Preset.ofConfiguration, Configuration.limits, Configuration.text, Configuration.flag,
    Configuration.count, same]

end Reading

section Setters

variable {compiler : Compiler} {p : Preset}

theorem setInputFormat_answer (version : Text) :
    ((new compiler).setInputFormat .unspecified version).answer =
      (Settings.readInputVersion version).map fun _ => () := by
  rw [setInputFormat, configure_answer, Settings.withInputFormat_eq _ (.inl rfl)]
  cases Settings.readInputVersion version <;> rfl

theorem setOutputFormat_answer (target : Text) :
    ((new compiler).setOutputFormat .unspecified target).answer =
      (Target.negotiate (some target)).map fun _ => () := by
  rw [setOutputFormat, configure_answer, Settings.withOutputFormat_eq _ (.inl rfl)]
  cases Target.negotiate (some target) <;> rfl

theorem setters_eq {version? : Option Glsl.Version} {target : Target}
    (version : Settings.readInputVersion p.inputVersion = .ok version?)
    (negotiated : Target.negotiate (some p.target) = .ok target) :
    p.setters compiler = ⟨compiler,
      { Settings.default with
        inputVersion? := version?
        target := target
        debugLevel := .ofText p.debugLevel }, .ready⟩ := by
  have versioned : ((new compiler).setInputFormat .unspecified p.inputVersion).converter =
      ⟨compiler, { Settings.default with inputVersion? := version? }, .ready⟩ := by
    refine configure_converter ?_ []
    rw [Settings.withInputFormat_eq _ (.inl rfl), version]
    rfl
  unfold Preset.setters
  rw [versioned]
  dsimp only
  rw [setOutputFormat, configure_converter (s := { Settings.default with
    inputVersion? := version?
    target := target }) ?_ []]
  · rfl
  · rw [Settings.withOutputFormat_eq _ (.inl rfl), negotiated]
    rfl

end Setters

section Setup

variable {compiler : Compiler} {config : Configuration}

theorem result_gives {p : Preset} (gives : config.Gives p) : (ofConfiguration compiler config).result =
    (p.apply .default).map fun s => ⟨compiler, s, .ready⟩ := by
  rw [ofConfiguration_result, preset_gives.mpr gives]
  rfl

theorem SetsUp.result {result : Except SetupError Converter} (setsUp : SetsUp compiler config result) :
    (ofConfiguration compiler config).result = result := by
  cases setsUp with
  | @mistyped key first =>
    rw [ofConfiguration_result, (checks_preset key.error).mpr (congrArg _ first)]
    rfl
  | version gives refused =>
    rw [setInputFormat_answer] at refused
    rw [result_gives gives, Preset.apply, map_error.mp refused]
    rfl
  | target gives accepted refused =>
    rw [setInputFormat_answer] at accepted
    rw [setOutputFormat_answer] at refused
    obtain ⟨_, version, _⟩ := map_ok.mp accepted
    rw [result_gives gives, Preset.apply, version, map_error.mp refused]
    rfl
  | ready gives version target =>
    rw [setInputFormat_answer] at version
    rw [setOutputFormat_answer] at target
    obtain ⟨_, version, _⟩ := map_ok.mp version
    obtain ⟨_, negotiated, _⟩ := map_ok.mp target
    rw [result_gives gives, Preset.apply, version, negotiated, setters_eq version negotiated]
    rfl

theorem exists_setsUp (compiler : Compiler) (config : Configuration) :
    ∃ result, SetsUp compiler config result := by
  cases read : Preset.ofConfiguration config with
  | error e =>
    obtain ⟨key, first, _⟩ := Option.map_eq_some_iff.mp ((checks_preset e).mp read)
    exact ⟨_, .mistyped first⟩
  | ok p =>
    have gives := preset_gives.mp read
    cases version : ((new compiler).setInputFormat .unspecified p.inputVersion).answer with
    | error e => exact ⟨_, .version gives version⟩
    | ok =>
      cases target : ((new compiler).setOutputFormat .unspecified p.target).answer with
      | error e => exact ⟨_, .target gives version target⟩
      | ok => exact ⟨_, .ready gives version target⟩

theorem result_iff {result : Except SetupError Converter} :
    (ofConfiguration compiler config).result = result ↔ SetsUp compiler config result :=
  eq_iff_of_total (fun _ => SetsUp.result) (exists_setsUp compiler config)

end Setup

-- A configuration sets up what the setters do with its values, and what it holds besides them has
-- no effect.
theorem ofConfiguration_setters (compiler : Compiler) (config : Configuration) :
    (∀ result, (ofConfiguration compiler config).result = result ↔ SetsUp compiler config result) ∧
    ((∃ p, config.Gives p) ↔ ∀ key ∈ Key.all, config.isMistyped key = false) ∧
    ∀ config' : Configuration,
      (∀ key ∈ Configuration.knownKeys, config'.get? key = config.get? key) →
      ofConfiguration compiler config' = ofConfiguration compiler config := by
  refine ⟨fun _ => result_iff, gives_iff, fun config' same => ?_⟩
  rw [ofConfiguration, ofConfiguration, preset_congr same]

theorem ofConfiguration_mistyped :
    (ofConfiguration .accepting ⟨[("max_draw_buffers".toList, .integer (-1)),
      ("warnings_as_errors".toList, .text [])]⟩).result =
        .error (.wrongValueType "max_draw_buffers".toList .count) ∧
    ofConfiguration .accepting ⟨[("max_draw_buffers".toList, .integer 8),
      ("shadows".toList, .text [])]⟩ =
        ofConfiguration .accepting ⟨[("max_draw_buffers".toList, .integer 8)]⟩ := by
  constructor
  · exact ((ofConfiguration_setters _ _).1 _).mpr
      (.mistyped (show _ = some (Key.limit "max_draw_buffers".toList 32) from rfl))
  · exact (ofConfiguration_setters _ _).2.2 _ (by decide)

end Converter

end ShaderConversion
