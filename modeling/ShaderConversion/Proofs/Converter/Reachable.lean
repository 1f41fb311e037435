import ShaderConversion.Converter.Call
import ShaderConversion.Proofs.Except
import ShaderConversion.Proofs.Glsl.Version

namespace ShaderConversion

variable {F : Type} [FileAccess F]

def Call.change (s : Settings) : Call → Except SetupError Settings
  | .setInputFormat format version => s.withInputFormat format version
  | .setOutputFormat format target => s.withOutputFormat format target
  | .setDefinitions pairs => s.withDefinitions pairs
  | .setDebugLevel level => .ok (s.withDebugLevel level)
  | _ => .ok s

def Settings.after (s : Settings) (changed : Except SetupError Settings) : Settings :=
  match changed with
  | .ok settings => settings
  | .error _ => s

namespace Converter

theorem configure_settings (c : Converter) (change : Settings → Except SetupError Settings)
    (noticed : List Event) :
    (c.configure change noticed).converter.settings = c.settings.after (change c.settings) := by
  unfold configure
  cases change c.settings <;> rfl

theorem configure_answer (c : Converter) (change : Settings → Except SetupError Settings)
    (noticed : List Event) :
    (c.configure change noticed).answer = (change c.settings).map fun _ => () := by
  unfold configure
  cases change c.settings <;> rfl

theorem configure_converter {c : Converter} {change : Settings → Except SetupError Settings} {s : Settings}
    (changed : change c.settings = .ok s) (noticed : List Event) :
    (c.configure change noticed).converter = ⟨c.compiler, s, .ready⟩ := by
  unfold configure
  rw [changed]

theorem validateSource_settings (c : Converter) (live : Bool) (stage : Stage) (data : List UInt8)
    (fileName? : Option Path) :
    (c.validateSource live stage data fileName?).converter.settings = c.settings := by
  unfold validateSource
  split
  · rfl
  · split <;> rfl

theorem compileSource_settings (c : Converter) (live : Bool) (stage : Stage) (data : List UInt8)
    (fileName? : Option Path) :
    (c.compileSource live stage data fileName?).converter.settings = c.settings := by
  unfold compileSource
  split <;> rfl

theorem validateFile_settings (c : Converter) (w : World) (stage : Stage) (path : Path) :
    (c.validateFile w stage path).converter.settings = c.settings := by
  unfold validateFile
  split
  · rfl
  · exact validateSource_settings c _ _ _ _

theorem compileFile_settings (c : Converter) (w : World) (stage : Stage) (path : Path) :
    (c.compileFile w stage path).converter.settings = c.settings := by
  unfold compileFile
  split
  · rfl
  · exact compileSource_settings c _ _ _ _

theorem writeModule_converter (files : F) (destination : Path)
    (o : Outcome (Except ConversionError Spirv.Module)) :
    (writeModule files destination o).1.converter = o.converter := by
  unfold writeModule
  split
  · rfl
  · split <;> rfl

theorem perform_settings (c : Converter) (live : Bool) (files : F) (call : Call) :
    (c.perform live files call).1.converter.settings = c.settings.after (call.change c.settings) := by
  cases call with
  | setInputFormat format version => exact configure_settings c _ _
  | setOutputFormat format target => exact configure_settings c _ _
  | setDefinitions pairs => exact configure_settings c _ _
  | setDebugLevel level => exact configure_settings c _ _
  | validateData stage data => exact validateSource_settings c _ _ _ _
  | validateFile stage path => exact validateFile_settings c _ _ _
  | compileData stage data => exact compileSource_settings c _ _ _ _
  | compileFile stage path => exact compileFile_settings c _ _ _
  | convertDataToData stage data => exact compileSource_settings c _ _ _ _
  | convertFileToData stage path => exact compileFile_settings c _ _ _
  | convertDataToFile stage data destination =>
    exact (congrArg settings (writeModule_converter _ _ _)).trans (compileSource_settings c _ _ _ _)
  | convertFileToFile stage path destination =>
    exact (congrArg settings (writeModule_converter _ _ _)).trans (compileFile_settings c _ _ _)

end Converter

namespace Settings

def IsSound (s : Settings) : Prop := ∀ v, s.inputVersion? = some v → v.IsOverride

theorem default_sound : default.IsSound := by
  intro v forced
  cases forced

theorem readInputVersion_sound {token : Text} {version? : Option Glsl.Version}
    (read : readInputVersion token = .ok version?) : ∀ v, version? = some v → v.IsOverride := by
  unfold readInputVersion at read
  split at read
  · cases read
    intro v forced
    cases forced
  · intro v forced
    obtain ⟨found, read, same⟩ := map_ok.mp read
    cases same.trans forced
    exact ⟨token, SetupError.orError_ok.mp read⟩

theorem withInputFormat_eq (s : Settings) {format : Format}
    (read : format = .unspecified ∨ format = .glsl) (version : Text) :
    s.withInputFormat format version =
      (readInputVersion version).map fun version? => { s with inputVersion? := version? } := by
  have allowed : ¬ (format ≠ .unspecified ∧ format ≠ .glsl) := by
    rcases read with rfl | rfl <;> simp
  rw [withInputFormat, if_neg allowed]
  cases readInputVersion version <;> rfl

theorem withOutputFormat_eq (s : Settings) {format : Format}
    (written : format = .unspecified ∨ format = .spirv) (target : Text) :
    s.withOutputFormat format target = (Target.negotiate (some target)).map fun negotiated =>
      { s with target := negotiated, outputFormat := format } := by
  have allowed : ¬ (format ≠ .unspecified ∧ format ≠ .spirv) := by
    rcases written with rfl | rfl <;> simp
  rw [withOutputFormat, if_neg allowed]
  cases Target.negotiate (some target) <;> rfl

theorem withInputFormat_ok {s s' : Settings} {format : Format} {version : Text}
    (changed : s.withInputFormat format version = .ok s') :
    ∃ version?, readInputVersion version = .ok version? ∧ s' = { s with inputVersion? := version? } := by
  unfold withInputFormat at changed
  split at changed
  · cases changed
  · obtain ⟨version?, read, changed⟩ := bind_ok.mp changed
    cases changed
    exact ⟨version?, read, rfl⟩

theorem withOutputFormat_ok {s s' : Settings} {format : Format} {target : Text}
    (changed : s.withOutputFormat format target = .ok s') :
    ∃ negotiated, Target.negotiate (some target) = .ok negotiated ∧
      s' = { s with target := negotiated, outputFormat := format } := by
  unfold withOutputFormat at changed
  split at changed
  · cases changed
  · obtain ⟨negotiated, read, changed⟩ := bind_ok.mp changed
    cases changed
    exact ⟨negotiated, read, rfl⟩

theorem withDefinitions_ok {s s' : Settings} {pairs : List (Text × Text)}
    (changed : s.withDefinitions pairs = .ok s') :
    ∃ definitions, Definitions.ofPairs pairs = .ok definitions ∧
      s' = { s with definitions := definitions } := by
  obtain ⟨definitions, read, same⟩ := map_ok.mp changed
  exact ⟨definitions, read, same.symm⟩

theorem IsSound.change {s s' : Settings} (sound : s.IsSound) {call : Call}
    (changed : call.change s = .ok s') : s'.IsSound := by
  cases call with
  | setInputFormat format version =>
    obtain ⟨version?, read, rfl⟩ := withInputFormat_ok changed
    exact readInputVersion_sound read
  | setOutputFormat format target =>
    obtain ⟨_, _, rfl⟩ := withOutputFormat_ok changed
    exact sound
  | setDefinitions pairs =>
    obtain ⟨_, _, rfl⟩ := withDefinitions_ok changed
    exact sound
  | _ =>
    cases changed
    exact sound

theorem preset_ok {p : Converter.Preset} {s s' : Settings} : p.apply s = .ok s' ↔
    ∃ version? target, readInputVersion p.inputVersion = .ok version? ∧
      Target.negotiate (some p.target) = .ok target ∧ s' = {
        s with
        inputVersion? := version?
        target := target
        debugLevel := .ofText p.debugLevel
        limits := p.limits
        warningsAsErrors := p.warningsAsErrors } := by
  constructor
  · intro applied
    obtain ⟨version?, read, applied⟩ := bind_ok.mp applied
    obtain ⟨target, negotiated, applied⟩ := bind_ok.mp applied
    cases applied
    exact ⟨version?, target, read, negotiated, rfl⟩
  · rintro ⟨version?, target, read, negotiated, rfl⟩
    exact bind_ok.mpr ⟨version?, read, bind_ok.mpr ⟨target, negotiated, rfl⟩⟩

theorem preset_sound {p : Converter.Preset} {s s' : Settings} (applied : p.apply s = .ok s') :
    s'.IsSound := by
  obtain ⟨version?, _, read, _, rfl⟩ := preset_ok.mp applied
  exact readInputVersion_sound read

end Settings

namespace Converter

theorem configure_ok {c : Converter} {change : Settings → Except SetupError Settings}
    {noticed : List Event} (accepted : (c.configure change noticed).answer = .ok ()) :
    ∃ settings, change c.settings = .ok settings ∧ c.configure change noticed =
      ⟨.ok (), { c with settings := settings, phase := .ready },
        .moved c.phase .configuring :: noticed ++ [.moved .configuring .ready], []⟩ := by
  unfold configure at accepted ⊢
  cases changed : change c.settings with
  | error error =>
    rw [changed] at accepted
    cases accepted
  | ok settings => exact ⟨settings, rfl, rfl⟩

theorem configure_result (c : Converter) (change : Settings → Except SetupError Settings)
    (noticed : List Event) :
    ((c.configure change noticed).answer.map fun _ => (c.configure change noticed).converter) =
      (change c.settings).map fun s => ⟨c.compiler, s, .ready⟩ := by
  unfold configure
  cases change c.settings <;> rfl

theorem ofConfiguration_result (compiler : Compiler) (config : Configuration) :
    (ofConfiguration compiler config).result =
      (Preset.ofConfiguration config >>= fun preset => preset.apply .default).map
        fun s => ⟨compiler, s, .ready⟩ := by
  unfold ofConfiguration
  cases Preset.ofConfiguration config with
  | error error => rfl
  | ok preset => exact configure_result _ _ _

theorem ofConfiguration_ok {compiler : Compiler} {config : Configuration} {c : Converter}
    (created : (ofConfiguration compiler config).result = .ok c) :
    ∃ (preset : Preset) (settings : Settings), preset.apply .default = .ok settings ∧
      c = ⟨compiler, settings, .ready⟩ ∧
      (ofConfiguration compiler config).events = .moved .idle .configuring ::
        Settings.debugLevelEvents preset.debugLevel ++ [.moved .configuring .ready] := by
  unfold ofConfiguration at created ⊢
  cases read : Preset.ofConfiguration config with
  | error error =>
    rw [read] at created
    cases created
  | ok preset =>
    rw [read] at created
    obtain ⟨_, accepted, rfl⟩ := map_ok.mp created
    obtain ⟨settings, applied, configured⟩ := configure_ok accepted
    dsimp only
    rw [configured]
    exact ⟨preset, settings, applied, rfl, rfl⟩

theorem Reachable.settings {P : Settings → Prop} (new : P .default)
    (change : ∀ {s s' : Settings} {call : Call}, P s → call.change s = .ok s' → P s')
    (preset : ∀ {p : Preset} {s s' : Settings}, P s → p.apply s = .ok s' → P s')
    {c : Converter} (reached : Reachable c) : P c.settings := by
  -- Induction on the calls: settings begin with what new ones have, and every change keeps it.
  induction reached with
  | new compiler => exact new
  | configured created =>
    obtain ⟨p, s, applied, rfl, _⟩ := ofConfiguration_ok created
    exact preset new applied
  | @call c _ _ F _ files call before =>
    rw [perform_settings]
    cases changed : call.change c.settings with
    | ok s' => exact change before changed
    | error error => exact before

theorem Reachable.sound {c : Converter} (reached : Reachable c) : c.settings.IsSound :=
  reached.settings Settings.default_sound (fun sound => sound.change) fun _ => Settings.preset_sound

end Converter

end ShaderConversion
