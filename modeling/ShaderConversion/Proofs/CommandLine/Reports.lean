import ShaderConversion.Proofs.CommandLine.Effects

namespace ShaderConversion.CommandLine

-- What is wrong with each value of a configuration, in the order in which they are read.
def readVerdicts (config : Configuration) : List (Option SetupError) := [
  failure? (config.text "input_version".toList),
  failure? (config.text "output_version".toList),
  failure? (config.text "debug_info_level".toList),
  failure? config.limits,
  failure? (config.flag "warnings_as_errors".toList)]

namespace Options

def verdicts (o : Options) (preset : Converter.Preset) : List (Option SetupError) := [
  failure? (Settings.readInputVersion preset.inputVersion),
  failure? (Target.negotiate (some preset.target)),
  failure? (Settings.readInputVersion (o.inputVersion?.getD preset.inputVersion)),
  failure? (Definitions.ofPairs (o.definitions.map definitionOf)),
  failure? (Target.negotiate (some (o.outputVersion?.getD preset.target)))]

variable (o : Options) (b : Build) (read : Path → Except FileError (List UInt8))

inductive Reports : RunError → Prop where
  | unloaded {error : RunError}
      (failed : (readConfig b.readDocument o.config? read).1 = .error error) : Reports error
  | absent {config : Configuration} {why : Absence}
      (loaded : (readConfig b.readDocument o.config? read).1 = .ok config)
      (absent : b.compiler o.compiler = .error why) : Reports (.compilerAbsent why)
  | unread {config : Configuration} {compiler : Compiler} {error : SetupError}
      (loaded : (readConfig b.readDocument o.config? read).1 = .ok config)
      (present : b.compiler o.compiler = .ok compiler)
      (first : (readVerdicts config).findSome? id = some error) : Reports (.setup error)
  | invalid {config : Configuration} {compiler : Compiler} {preset : Converter.Preset} {error : SetupError}
      (loaded : (readConfig b.readDocument o.config? read).1 = .ok config)
      (present : b.compiler o.compiler = .ok compiler)
      (configured : Converter.Preset.ofConfiguration config = .ok preset)
      (first : (o.verdicts preset).findSome? id = some error) : Reports (.setup error)

def Mistakes (level : Text) : Prop :=
  DebugLevel.isKnown level = false ∧ (o.debugInfo? = some level ∨
    ∃ config, (readConfig b.readDocument o.config? read).1 = .ok config ∧
      config.text "debug_info_level".toList = .ok level)

end Options

def SameConfig (o : Options) (read read' : Path → Except FileError (List UInt8)) : Prop :=
  ∀ path, o.config? = some path → read' path = read path

theorem preset_values {config : Configuration} {preset : Converter.Preset}
    (configured : Converter.Preset.ofConfiguration config = .ok preset) :
    config.text "input_version".toList = .ok preset.inputVersion ∧
      config.text "output_version".toList = .ok preset.target ∧
      config.text "debug_info_level".toList = .ok preset.debugLevel ∧
      config.limits = .ok preset.limits := by
  obtain ⟨_, inputVersion, configured⟩ := bind_ok.mp configured
  obtain ⟨_, target, configured⟩ := bind_ok.mp configured
  obtain ⟨_, debugLevel, configured⟩ := bind_ok.mp configured
  obtain ⟨_, limits, configured⟩ := bind_ok.mp configured
  obtain ⟨_, _, configured⟩ := bind_ok.mp configured
  cases configured
  exact ⟨inputVersion, target, debugLevel, limits⟩

section Reports

theorem bind_first {ε α β : Type} {first : Except ε α} {next : α → Except ε β}
    {verdicts : List (Option ε)} {error : ε}
    (later : ∀ a, first = .ok a → (next a = .error error ↔ verdicts.findSome? id = some error)) :
    (first >>= next) = .error error ↔ (failure? first :: verdicts).findSome? id = some error := by
  cases first with
  | error other => simp [failure?, bind, Except.bind]
  | ok a => exact later a rfl

theorem last_first {ε α β : Type} {last : Except ε α} {f : α → β} {error : ε} :
    (last >>= fun a => pure (f a)) = .error error ↔ [failure? last].findSome? id = some error :=
  bind_first fun _ _ => by simp [pure, Except.pure]

theorem ofConfiguration_error {config : Configuration} {error : SetupError} :
    Converter.Preset.ofConfiguration config = .error error ↔
      (readVerdicts config).findSome? id = some error :=
  bind_first fun _ _ => bind_first fun _ _ => bind_first fun _ _ => bind_first fun _ _ => last_first

variable {o : Options} {b : Build} {read read' : Path → Except FileError (List UInt8)}

theorem gather_error {preset : Converter.Preset} {error : SetupError} :
    o.gather preset = .error error ↔ (o.verdicts preset).findSome? id = some error :=
  bind_first fun _ _ => bind_first fun _ _ => bind_first fun _ _ => bind_first fun _ _ => last_first

theorem settings_error {error : RunError} :
    o.settings b read = .error error ↔ o.Reports b read error := by
  constructor
  · intro failed
    rcases bind_error.mp failed with unloaded | ⟨config, loaded, failed⟩
    · exact .unloaded unloaded
    rcases bind_error.mp failed with absent | ⟨compiler, present, failed⟩
    · obtain ⟨why, missing, rfl⟩ := mapError_error.mp absent
      exact .absent loaded missing
    obtain ⟨error, unsettled, rfl⟩ := mapError_error.mp failed
    rw [settle_eq] at unsettled
    rcases bind_error.mp unsettled with unread | ⟨preset, configured, invalid⟩
    · exact .unread loaded (mapError_ok.mp present) (ofConfiguration_error.mp unread)
    · exact .invalid loaded (mapError_ok.mp present) configured (gather_error.mp invalid)
  · intro reports
    cases reports with
    | unloaded failed => exact bind_error.mpr (.inl failed)
    | absent loaded absent =>
      exact bind_error.mpr (.inr ⟨_, loaded, bind_error.mpr
        (.inl (mapError_error.mpr ⟨_, absent, rfl⟩))⟩)
    | unread loaded present first =>
      refine bind_error.mpr (.inr ⟨_, loaded, bind_error.mpr
        (.inr ⟨_, mapError_ok.mpr present, ?_⟩)⟩)
      rw [settle_eq, ofConfiguration_error.mpr first]
      rfl
    | invalid loaded present configured first =>
      refine bind_error.mpr (.inr ⟨_, loaded, bind_error.mpr
        (.inr ⟨_, mapError_ok.mpr present, ?_⟩)⟩)
      rw [settle_eq, configured]
      exact congrArg (Except.mapError RunError.setup) (gather_error.mpr first)

theorem settles_iff : (∃ s, o.Settles b read s) ↔ ∀ error, ¬ o.Reports b read error := by
  simp only [← Options.settings_ok, ← settings_error]
  cases o.settings b read <;> simp

theorem readConfig_same (readDocument : Text → Except Json.Fault Json) (same : SameConfig o read read') :
    readConfig readDocument o.config? read' = readConfig readDocument o.config? read := by
  unfold readConfig
  cases named : o.config? with
  | none => rfl
  | some path =>
    dsimp only
    rw [same path named]

theorem settings_same (same : SameConfig o read read') : o.settings b read' = o.settings b read := by
  rw [Options.settings, readConfig_same b.readDocument same]
  rfl

theorem settles_same {s : Settings} (same : SameConfig o read read') :
    o.Settles b read' s ↔ o.Settles b read s := by
  rw [← Options.settings_ok, ← Options.settings_ok, settings_same same]

theorem mistakes_same {level : Text} (same : SameConfig o read read') :
    o.Mistakes b read' level ↔ o.Mistakes b read level := by
  unfold Options.Mistakes
  rw [readConfig_same b.readDocument same]

theorem plan_reported {error : RunError} (reports : o.Reports b read error)
    (same : SameConfig o read read') : (plan b o read').action = .fail error :=
  plan_follows.failed error ((settings_same same).trans (settings_error.mpr reports))

end Reports

section Noted

variable {o : Options} {event : Event} {calls : List (Converter → Outcome (Except SetupError Unit))}
  {call : Converter → Outcome (Except SetupError Unit)}

theorem applyAll_noticed (member : call ∈ calls) (noticed : ∀ c, event ∈ (call c).events)
    {c c' : Converter} (made : (applyAll c calls).1 = .ok c') : event ∈ (applyAll c calls).2 := by
  -- Induction on the calls: all of them are made if none fails.
  induction calls generalizing c with
  | nil => cases member
  | cons first later made_later =>
    rw [applyAll] at made ⊢
    dsimp only at made ⊢
    split at made
    · cases made
    · rcases List.mem_cons.mp member with rfl | member
      · exact List.mem_append_left _ (noticed c)
      · exact List.mem_append_right _ (made_later member made)

theorem debugLevelEvents_unknown {level : Text} (unknown : DebugLevel.isKnown level = false) :
    .unknownDebugLevel level ∈ Settings.debugLevelEvents level := by
  rw [Settings.debugLevelEvents, if_neg (by simp [unknown])]
  exact List.mem_singleton_self _

variable {b : Build} {level : Text} {read : Path → Except FileError (List UInt8)} {s : Settings}

theorem proceed_noted {c c' : Converter} (unknown : DebugLevel.isKnown level = false)
    (given : o.debugInfo? = some level) (made : (applyAll c (settingsCalls o)).1 = .ok c') :
    .unknownDebugLevel level ∈ (proceed c o read).events := by
  have member : (fun c => c.setDebugLevel level) ∈ settingsCalls o := by
    rw [settingsCalls, given]
    exact List.mem_append_right _ (List.mem_singleton_self _)
  have noticed := applyAll_noticed member
    (fun _ => List.mem_append_left _ (debugLevelEvents_unknown unknown)) made
  unfold proceed
  generalize applyAll c (settingsCalls o) = result at made noticed
  obtain ⟨_, events⟩ := result
  cases made
  exact List.mem_append_left _ noticed

theorem ofConfiguration_noted {config : Configuration} {preset : Converter.Preset}
    (configured : Converter.Preset.ofConfiguration config = .ok preset)
    (applied : preset.apply .default = .ok s) (unknown : DebugLevel.isKnown preset.debugLevel = false)
    (compiler : Compiler) : .unknownDebugLevel preset.debugLevel ∈
      (Converter.ofConfiguration compiler config).events := by
  have noticed := debugLevelEvents_unknown unknown
  have changed : preset.apply (Converter.new compiler).settings = .ok s := applied
  rw [Converter.ofConfiguration, configured]
  dsimp only
  rw [Converter.configure, changed]
  exact List.mem_append_left _ (List.mem_cons_of_mem _ noticed)

-- What is noticed of the settings comes in turn, whatever the command comes to.
theorem plan_events {config : Configuration} {preset : Converter.Preset} {compiler : Compiler}
    (present : b.compiler o.compiler = .ok compiler)
    (loaded : (readConfig b.readDocument o.config? read).1 = .ok config)
    (configured : Converter.Preset.ofConfiguration config = .ok preset) {first second : Settings}
    (applied : preset.apply .default = .ok first) (adjusted : o.adjust first = .ok second) :
    (applyAll ⟨compiler, first, .ready⟩ (settingsCalls o)).1 = .ok ⟨compiler, second, .ready⟩ ∧
      (plan b o read).events = (readConfig b.readDocument o.config? read).2 ++
        (Converter.ofConfiguration compiler config).events ++
          (proceed ⟨compiler, first, .ready⟩ o read).events := by
  have created := Converter.ofConfiguration_result compiler config
  have made := (settingsCalls_adjust o).result compiler first
  rw [configured] at created
  rw [adjusted] at made
  refine ⟨made, ?_⟩
  unfold plan
  generalize readConfig b.readDocument o.config? read = loading at loaded
  obtain ⟨_, loadEvents⟩ := loading
  cases loaded
  dsimp only
  rw [present]
  dsimp only
  generalize Converter.ofConfiguration compiler config = creation at created
  obtain ⟨_, createEvents⟩ := creation
  cases created.trans (congrArg _ applied)
  rfl

theorem plan_noted (settles : o.Settles b read s) (mistakes : o.Mistakes b read level) :
    .unknownDebugLevel level ∈ (plan b o read).events := by
  obtain ⟨⟨compiler, present⟩, config, preset, loaded, configured, asks⟩ := settles
  obtain ⟨_, configured', settled⟩ := bind_ok.mp (settle_ok.mpr ⟨preset, configured, asks⟩)
  cases configured.symm.trans configured'
  obtain ⟨first, applied, settled⟩ := bind_ok.mp settled
  obtain ⟨second, adjusted, _⟩ := bind_ok.mp settled
  obtain ⟨made, events⟩ := plan_events present loaded configured applied adjusted
  obtain ⟨unknown, given | ⟨config', loaded', debugLevel⟩⟩ := mistakes
  · rw [events]
    exact List.mem_append_right _ (proceed_noted unknown given made)
  · cases loaded.symm.trans loaded'
    cases debugLevel.symm.trans (preset_values configured).2.2.1
    rw [events]
    exact List.mem_append_left _ (List.mem_append_right _
      (ofConfiguration_noted configured applied unknown compiler))

end Noted

end ShaderConversion.CommandLine
