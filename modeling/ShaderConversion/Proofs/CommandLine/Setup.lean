import ShaderConversion.CommandLine.Run
import ShaderConversion.Proofs.Converter.Reachable
import ShaderConversion.Proofs.Journal
import ShaderConversion.Proofs.Target

namespace ShaderConversion.CommandLine

def perhaps {α : Type} (change : Settings → α → Except SetupError Settings) (value? : Option α)
    (s : Settings) : Except SetupError Settings :=
  match value? with
  | none => .ok s
  | some value => change s value

def Command.format : Command → Format
  | validate _ => .unspecified
  | convert _ _ => .spirv

namespace Options

def pairs? (o : Options) : Option (List (Text × Text)) :=
  if o.definitions.isEmpty then none else some (o.definitions.map definitionOf)

def adjust (o : Options) (s : Settings) : Except SetupError Settings := do
  let s ← perhaps (fun s version => s.withInputFormat .glsl version) o.inputVersion? s
  let s ← perhaps Settings.withDefinitions o.pairs? s
  perhaps (fun s level => .ok (s.withDebugLevel level)) o.debugInfo? s

def aim (o : Options) (s : Settings) : Except SetupError Settings :=
  match o.command with
  | .validate _ => perhaps (fun s target => s.withOutputFormat .unspecified target) o.outputVersion? s
  | .convert _ _ => s.withOutputFormat .spirv (o.outputVersion?.getD s.target.text)

def settle (o : Options) (config : Configuration) : Except SetupError Settings := do
  let preset ← Converter.Preset.ofConfiguration config
  let s ← preset.apply .default
  let s ← o.adjust s
  o.aim s

-- The settings that options ask for: each one is what an option gives, and what the
-- configuration has where none does. The configuration has to be valid in any case.
structure Asks (o : Options) (preset : Converter.Preset) (s : Settings) : Prop where
  inputVersion : Settings.readInputVersion (o.inputVersion?.getD preset.inputVersion) =
    .ok s.inputVersion?
  target : Target.negotiate (some (o.outputVersion?.getD preset.target)) = .ok s.target
  definitions : Definitions.ofPairs (o.definitions.map definitionOf) = .ok s.definitions
  debugLevel : s.debugLevel = .ofText (o.debugInfo?.getD preset.debugLevel)
  outputFormat : s.outputFormat = o.command.format
  limits : s.limits = preset.limits
  warningsAsErrors : s.warningsAsErrors = preset.warningsAsErrors
  presetVersion : ∃ version?, Settings.readInputVersion preset.inputVersion = .ok version?
  presetTarget : ∃ target, Target.negotiate (some preset.target) = .ok target

end Options

-- The values of a run in the order in which they are looked at. Those of the configuration have
-- to be valid even where an option stands in for them.
def Options.gather (o : Options) (preset : Converter.Preset) : Except SetupError Settings := do
  let _ ← Settings.readInputVersion preset.inputVersion
  let _ ← Target.negotiate (some preset.target)
  let inputVersion? ← Settings.readInputVersion (o.inputVersion?.getD preset.inputVersion)
  let definitions ← Definitions.ofPairs (o.definitions.map definitionOf)
  let target ← Target.negotiate (some (o.outputVersion?.getD preset.target))
  return {
    inputVersion? := inputVersion?
    outputFormat := o.command.format
    target := target
    definitions := definitions
    debugLevel := .ofText (o.debugInfo?.getD preset.debugLevel)
    limits := preset.limits
    warningsAsErrors := preset.warningsAsErrors }

section Steps

variable {s : Settings} {token : Text}

-- A change that is not made leaves what `value` was read from, and reading it again makes no
-- difference.
theorem perhaps_eq {α β : Type} (change : Settings → α → Except SetupError Settings)
    (read : α → Except SetupError β) (put : β → Settings) {before : α} {value : β}
    (reads : read before = .ok value) (same : put value = s)
    (changes : ∀ given, change s given = (read given).map put) (given? : Option α) :
    perhaps change given? s = (read (given?.getD before)).map put := by
  cases given? with
  | none =>
    rw [perhaps, Option.getD_none, reads, ← same]
    rfl
  | some given => exact changes given

theorem getD_pairs (o : Options) : o.pairs?.getD [] = o.definitions.map definitionOf := by
  unfold Options.pairs?
  cases o.definitions <;> rfl

theorem perhaps_definitions (o : Options) (before : s.definitions = .empty) :
    perhaps Settings.withDefinitions o.pairs? s =
      (Definitions.ofPairs (o.definitions.map definitionOf)).map fun definitions =>
        { s with definitions := definitions } := by
  have none : Definitions.ofPairs [] = .ok s.definitions := before ▸ rfl
  rw [← getD_pairs]
  exact perhaps_eq _ _ (fun definitions => { s with definitions := definitions }) none rfl
    (fun _ => rfl) o.pairs?

theorem perhaps_debugLevel (given? : Option Text) (before : s.debugLevel = .ofText token) :
    perhaps (fun s level => .ok (s.withDebugLevel level)) given? s =
      .ok { s with debugLevel := .ofText (given?.getD token) } := by
  cases given? with
  | none =>
    rw [Option.getD_none, ← before]
    rfl
  | some level => rfl

theorem adjust_eq {level : Text} (o : Options)
    (version : Settings.readInputVersion token = .ok s.inputVersion?)
    (definitions : s.definitions = .empty) (debugLevel : s.debugLevel = .ofText level) :
    o.adjust s = do
      let version? ← Settings.readInputVersion (o.inputVersion?.getD token)
      let definitions ← Definitions.ofPairs (o.definitions.map definitionOf)
      return {
        s with
        inputVersion? := version?
        definitions := definitions
        debugLevel := .ofText (o.debugInfo?.getD level) } := by
  have versioned : perhaps (fun s version => s.withInputFormat .glsl version) o.inputVersion? s =
      (Settings.readInputVersion (o.inputVersion?.getD token)).map fun version? =>
        { s with inputVersion? := version? } :=
    perhaps_eq (s := s) _ _ _ version rfl (Settings.withInputFormat_eq s (.inr rfl)) o.inputVersion?
  rw [Options.adjust, versioned]
  cases Settings.readInputVersion (o.inputVersion?.getD token) with
  | error error => rfl
  | ok version? =>
    change perhaps _ o.pairs? { s with inputVersion? := version? } >>= _ = _
    rw [perhaps_definitions (s := { s with inputVersion? := version? }) o definitions]
    cases Definitions.ofPairs (o.definitions.map definitionOf) with
    | error error => rfl
    | ok given => exact perhaps_debugLevel o.debugInfo? debugLevel

-- The text of the target that is set stands for that target again, so that a module is
-- written for it where no other is given.
theorem aim_eq (o : Options) (before : Target.negotiate (some token) = .ok s.target)
    (format : s.outputFormat = .unspecified) : o.aim s =
      (Target.negotiate (some (o.outputVersion?.getD token))).map fun target =>
        { s with target := target, outputFormat := o.command.format } := by
  unfold Options.aim
  cases o.command with
  | validate input =>
    have same : ({ s with target := s.target, outputFormat := .unspecified } : Settings) = s := by
      rw [← format]
    exact perhaps_eq _ (fun target => Target.negotiate (some target)) _ before same
      (Settings.withOutputFormat_eq s (.inl rfl)) o.outputVersion?
  | convert input output =>
    cases o.outputVersion? with
    | none =>
      have again := Target.negotiate_text (Target.negotiate_offered before)
      rw [Option.getD_none, Option.getD_none, before, ← again]
      exact Settings.withOutputFormat_eq s (.inr rfl) s.target.text
    | some target => exact Settings.withOutputFormat_eq s (.inr rfl) target

theorem settle_eq (o : Options) (config : Configuration) :
    o.settle config = Converter.Preset.ofConfiguration config >>= o.gather := by
  rw [Options.settle]
  refine congrArg _ (funext fun preset => ?_)
  rw [Converter.Preset.apply, Options.gather]
  cases read : Settings.readInputVersion preset.inputVersion with
  | error error => rfl
  | ok version? =>
    cases negotiated : Target.negotiate (some preset.target) with
    | error error => rfl
    | ok target =>
      change (o.adjust _ >>= _) = _
      rw [adjust_eq o read rfl rfl]
      cases Settings.readInputVersion (o.inputVersion?.getD preset.inputVersion) with
      | error error => rfl
      | ok version? =>
        cases Definitions.ofPairs (o.definitions.map definitionOf) with
        | error error => rfl
        | ok given =>
          refine (aim_eq o negotiated rfl).trans ?_
          cases Target.negotiate (some (o.outputVersion?.getD preset.target)) <;> rfl

end Steps

theorem gather_ok {o : Options} {preset : Converter.Preset} {s : Settings} :
    o.gather preset = .ok s ↔ o.Asks preset s := by
  constructor
  · intro gathered
    obtain ⟨version?, presetVersion, gathered⟩ := bind_ok.mp gathered
    obtain ⟨target, presetTarget, gathered⟩ := bind_ok.mp gathered
    obtain ⟨_, inputVersion, gathered⟩ := bind_ok.mp gathered
    obtain ⟨_, definitions, gathered⟩ := bind_ok.mp gathered
    obtain ⟨_, negotiated, gathered⟩ := bind_ok.mp gathered
    cases gathered
    exact ⟨inputVersion, negotiated, definitions, rfl, rfl, rfl, rfl, ⟨_, presetVersion⟩,
      ⟨_, presetTarget⟩⟩
  · intro asks
    obtain ⟨_, presetVersion⟩ := asks.presetVersion
    obtain ⟨_, presetTarget⟩ := asks.presetTarget
    rw [Options.gather, presetVersion, presetTarget, asks.inputVersion, asks.definitions, asks.target,
      ← asks.debugLevel, ← asks.outputFormat, ← asks.limits, ← asks.warningsAsErrors]
    rfl

theorem settle_ok {o : Options} {config : Configuration} {s : Settings} :
    o.settle config = .ok s ↔
      ∃ preset, Converter.Preset.ofConfiguration config = .ok preset ∧ o.Asks preset s := by
  rw [settle_eq, bind_ok]
  exact exists_congr fun preset => and_congr_right fun _ => gather_ok

theorem settle_format {o : Options} {config : Configuration} {s : Settings}
    (settled : o.settle config = .ok s) : s.outputFormat = o.command.format := by
  obtain ⟨_, _, asks⟩ := settle_ok.mp settled
  exact asks.outputFormat

-- A converter is set up by what a configuration has before it is by what options give.
theorem settle_configured (o : Options) (config : Configuration) : o.settle config =
    (Converter.Preset.ofConfiguration config >>= fun preset => preset.apply .default) >>= fun s =>
      o.adjust s >>= o.aim :=
  (bind_assoc _ _ _).symm

structure Makes (call : Converter → Outcome (Except SetupError Unit))
    (change : Settings → Except SetupError Settings) : Prop where
  result : ∀ c, ((call c).answer.map fun _ => (call c).converter) =
    (change c.settings).map fun s => ⟨c.compiler, s, .ready⟩
  admitted : ∀ c, Admitted (call c).events

structure MakesAll (calls : List (Converter → Outcome (Except SetupError Unit)))
    (change : Settings → Except SetupError Settings) : Prop where
  result : ∀ compiler s, (applyAll ⟨compiler, s, .ready⟩ calls).1 =
    (change s).map fun s => ⟨compiler, s, .ready⟩
  admitted : ∀ call ∈ calls, ∀ c, Admitted (call c).events

section Calls

theorem configure_admitted (c : Converter) (change : Settings → Except SetupError Settings)
    {noticed : List Event} (routine : Routine noticed) :
    Admitted (c.configure change noticed).events := by
  unfold Converter.configure
  cases change c.settings with
  | error error => exact throughout_cons.mpr ⟨rfl, throughout_cons.mpr ⟨rfl, throughout_nil⟩⟩
  | ok s =>
    have ended : Admitted [.moved .configuring .ready] := throughout_cons.mpr ⟨rfl, throughout_nil⟩
    exact throughout_cons.mpr ⟨rfl, throughout_append.mpr ⟨routine.admitted, ended⟩⟩

theorem setInputFormat_makes (format : Format) (version : Text) :
    Makes (fun c => c.setInputFormat format version) fun s => s.withInputFormat format version :=
  ⟨fun c => Converter.configure_result c _ _, fun c => configure_admitted c _ throughout_nil⟩

theorem setDefinitions_makes (pairs : List (Text × Text)) :
    Makes (fun c => c.setDefinitions pairs) fun s => s.withDefinitions pairs :=
  ⟨fun c => Converter.configure_result c _ _, fun c => configure_admitted c _ throughout_nil⟩

theorem setDebugLevel_makes (level : Text) :
    Makes (fun c => c.setDebugLevel level) fun s => .ok (s.withDebugLevel level) :=
  ⟨fun c => Converter.configure_result c _ _, fun c => throughout_append.mpr
    ⟨(debugLevel_routine level).admitted, configure_admitted c _ throughout_nil⟩⟩

theorem setOutputFormat_makes (format : Format) (target : Settings → Text) :
    Makes (fun c => c.setOutputFormat format (target c.settings))
      fun s => s.withOutputFormat format (target s) :=
  ⟨fun c => Converter.configure_result c _ _, fun c => configure_admitted c _ throughout_nil⟩

variable {call : Converter → Outcome (Except SetupError Unit)}
  {calls later : List (Converter → Outcome (Except SetupError Unit))}
  {change next : Settings → Except SetupError Settings}

theorem applyAll_cons (c : Converter) : (applyAll c (call :: calls)).1 =
    ((call c).answer.map fun _ => (call c).converter) >>= fun c => (applyAll c calls).1 := by
  rw [applyAll]
  dsimp only
  split
  · rename_i failed
    rw [failed]
    rfl
  · rename_i accepted
    rw [accepted]
    rfl

theorem applyAll_append (first later : List (Converter → Outcome (Except SetupError Unit)))
    (c : Converter) :
    (applyAll c (first ++ later)).1 = (applyAll c first).1 >>= fun c => (applyAll c later).1 := by
  -- Induction on the first calls: the later ones are made if none of these fails.
  induction first generalizing c with
  | nil => rfl
  | cons call first same =>
    rw [List.cons_append, applyAll_cons, applyAll_cons, bind_assoc]
    exact congrArg _ (funext same)

theorem applyAll_admitted (admitted : ∀ call ∈ calls, ∀ c, Admitted (call c).events)
    (c : Converter) : Admitted (applyAll c calls).2 := by
  induction calls generalizing c with
  | nil => exact throughout_nil
  | cons call calls later =>
    obtain ⟨first, rest⟩ := List.forall_mem_cons.mp admitted
    rw [applyAll]
    dsimp only
    split
    · exact first c
    · exact throughout_append.mpr ⟨first c, later rest _⟩

theorem MakesAll.none : MakesAll [] .ok := ⟨fun _ _ => rfl, List.forall_mem_nil _⟩

theorem Makes.alone (makes : Makes call change) : MakesAll [call] change := by
  refine ⟨fun compiler s => ?_, List.forall_mem_singleton.mpr makes.admitted⟩
  rw [applyAll_cons, makes.result]
  cases change s <;> rfl

theorem MakesAll.append (first : MakesAll calls change) (second : MakesAll later next) :
    MakesAll (calls ++ later) fun s => change s >>= next := by
  refine ⟨fun compiler s => ?_, List.forall_mem_append.mpr ⟨first.admitted, second.admitted⟩⟩
  rw [applyAll_append, first.result]
  cases change s with
  | error error => rfl
  | ok s => exact second.result compiler s

theorem MakesAll.perhaps {α : Type} {call : α → Converter → Outcome (Except SetupError Unit)}
    {change : Settings → α → Except SetupError Settings} (value? : Option α)
    (makes : ∀ value, Makes (call value) fun s => change s value) :
    MakesAll (value?.toList.map call) (perhaps change value?) := by
  cases value? with
  | none => exact MakesAll.none
  | some value => exact (makes value).alone

theorem settingsCalls_adjust (o : Options) : MakesAll (settingsCalls o) o.adjust := by
  have pairs : (if o.definitions.isEmpty then []
      else [fun c : Converter => c.setDefinitions (o.definitions.map definitionOf)]) =
        o.pairs?.toList.map fun pairs c => c.setDefinitions pairs := by
    unfold Options.pairs?
    split <;> rfl
  have version : MakesAll _ _ := .perhaps o.inputVersion? (setInputFormat_makes .glsl)
  have definitions : MakesAll _ _ := .perhaps o.pairs? setDefinitions_makes
  have debugLevel : MakesAll _ _ := .perhaps o.debugInfo? setDebugLevel_makes
  rw [settingsCalls, pairs, List.append_assoc]
  exact version.append (definitions.append debugLevel)

theorem targetCalls_aim (o : Options) : MakesAll (targetCalls o) o.aim := by
  unfold targetCalls Options.aim
  cases o.command with
  | validate input =>
    exact .perhaps o.outputVersion? fun target => setOutputFormat_makes .unspecified fun _ => target
  | convert input output =>
    exact (setOutputFormat_makes .spirv fun s => o.outputVersion?.getD s.target.text).alone

end Calls

theorem ofConfiguration_admitted (compiler : Compiler) (config : Configuration) :
    Admitted (Converter.ofConfiguration compiler config).events := by
  unfold Converter.ofConfiguration
  cases Converter.Preset.ofConfiguration config with
  | error error => exact throughout_nil
  | ok preset => exact configure_admitted _ _ (debugLevel_routine _)

theorem readConfig_routine (readDocument : Text → Except Json.Fault Json) (config? : Option Path)
    (read : Path → Except FileError (List UInt8)) :
    Routine (readConfig readDocument config? read).2 := by
  unfold readConfig
  split
  · exact throughout_nil
  · split
    · exact throughout_nil
    · split
      · exact throughout_nil
      · refine throughout_append.mpr ⟨throughout_map (fun _ => rfl) _, ?_⟩
        split
        · exact throughout_cons.mpr ⟨rfl, throughout_nil⟩
        · exact throughout_nil

namespace Options

def settings (o : Options) (b : Build) (read : Path → Except FileError (List UInt8)) :
    Except RunError Settings := do
  let config ← (readConfig b.readDocument o.config? read).1
  let _ ← (b.compiler o.compiler).mapError .compilerAbsent
  (o.settle config).mapError .setup

def Settles (o : Options) (b : Build) (read : Path → Except FileError (List UInt8)) (s : Settings) :
    Prop :=
  (∃ compiler, b.compiler o.compiler = .ok compiler) ∧ ∃ config preset,
    (readConfig b.readDocument o.config? read).1 = .ok config ∧
      Converter.Preset.ofConfiguration config = .ok preset ∧ o.Asks preset s

variable {o : Options} {b : Build} {read : Path → Except FileError (List UInt8)} {s : Settings}

theorem settings_ok : o.settings b read = .ok s ↔ o.Settles b read s := by
  constructor
  · intro settled
    obtain ⟨config, loaded, settled⟩ := bind_ok.mp settled
    obtain ⟨compiler, present, settled⟩ := bind_ok.mp settled
    obtain ⟨preset, configured, asks⟩ := settle_ok.mp (mapError_ok.mp settled)
    exact ⟨⟨compiler, mapError_ok.mp present⟩, config, preset, loaded, configured, asks⟩
  · rintro ⟨⟨compiler, present⟩, config, preset, loaded, configured, asks⟩
    have settled := settle_ok.mpr ⟨preset, configured, asks⟩
    exact bind_ok.mpr ⟨config, loaded, bind_ok.mpr
      ⟨compiler, mapError_ok.mpr present, mapError_ok.mpr settled⟩⟩

end Options

end ShaderConversion.CommandLine
