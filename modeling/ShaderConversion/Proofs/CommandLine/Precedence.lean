import Mathlib.Data.List.Forall2
import ShaderConversion.Proofs.CommandLine.Reports

namespace ShaderConversion.CommandLine

def Splits (s : Text) (pair : Text × Text) : Prop :=
  '=' ∉ pair.1 ∧ (s = pair.1 ++ '=' :: pair.2 ∨ s = pair.1 ∧ pair.2 = [])

structure Alike (first second : Compiler) (r : Request) : Prop where
  validate : first.validate r = second.validate r
  compile : first.compile r = second.compile r

def Build.withCompiler (b : Build) (compiler : Compiler) : Build :=
  { b with builtIn := compiler, optional := b.optional.map fun _ => compiler }

namespace Options

def mode (o : Options) : Mode :=
  match o.command with
  | .validate _ => .validate
  | .convert _ _ => .compile

def input (o : Options) : Path :=
  match o.command with
  | .validate input => input
  | .convert input _ => input

def job (o : Options) (data : List UInt8) : Job := ⟨o.mode, o.stage, data, some o.input⟩

variable (o : Options) (b : Build) (read : Path → Except FileError (List UInt8))

structure Hands (s : Settings) (data : List UInt8) : Prop where
  settles : o.Settles b read s
  found : read o.input = .ok data
  compilable : o.mode = .compile → (o.job data).IsCompilable s

-- The request that a run hands to its compiler: what the run does hangs on the answer to this
-- one, and on nothing else that the compiler would answer.
structure Consults (r : Request) : Prop where
  only : ∀ first second, Alike first second r →
    (plan (b.withCompiler first) o read).action = (plan (b.withCompiler second) o read).action
  heard : ∃ first second,
    (plan (b.withCompiler first) o read).action ≠ (plan (b.withCompiler second) o read).action

-- Where the parts of a request come from. An empty version takes away the one that is configured,
-- and an empty target is the plain one.
structure Draws (config : Configuration) (r : Request) : Prop where
  version : ∃ configured forced?, config.text "input_version".toList = .ok configured ∧
    Settings.readInputVersion (o.inputVersion?.getD configured) = .ok forced? ∧
    (∀ v, forced? = some v → r.version = ⟨v, .override⟩) ∧
    (forced? = none → r.version.origin ≠ .override)
  cleared : o.inputVersion? = some [] → r.version.origin ≠ .override
  debugLevel : ∃ configured, config.text "debug_info_level".toList = .ok configured ∧
    r.debugLevel = .ofText (o.debugInfo?.getD configured)
  target : ∃ configured, config.text "output_version".toList = .ok configured ∧
    Target.negotiate (some (o.outputVersion?.getD configured)) = .ok r.target
  plain : o.outputVersion? = some [] → r.target = ⟨.vulkan, ⟨1, 0⟩, ⟨1, 0⟩⟩
  definitions : ∃ pairs given, List.Forall₂ Splits o.definitions pairs ∧
    Definitions.ofPairs pairs = .ok given ∧ r.definitions = given.withTarget r.target
  limits : config.limits = .ok r.limits

end Options

-- What options and a configuration come to. Errors are told by the configuration alone, whatever
-- the input is, and they leave all files as they are.
structure Precedence (b : Build) (o : Options) (read : Path → Except FileError (List UInt8)) : Prop where
  handed : ∀ s data, o.Hands b read s data → o.Consults b read ((o.job data).request s)
  drawn : ∀ r, o.Consults b read r →
    ∃ config, (readConfig b.readDocument o.config? read).1 = .ok config ∧ o.Draws config r
  settled : (∃ s, o.Settles b read s) ↔ ∀ error, ¬ o.Reports b read error
  reported : ∀ error, o.Reports b read error → ∀ read', SameConfig o read read' →
    (plan b o read').action = .fail error ∧ ∀ {F : Type} [FileAccess F] (files : F),
      (plan b o read').finish files = (.failed error, files)
  noted : ∀ s level, o.Settles b read s → o.Mistakes b read level →
    ∀ read', SameConfig o read read' → .unknownDebugLevel level ∈ (plan b o read').events

section Draws

theorem splits_definitionOf (s : Text) : Splits s (definitionOf s) := by
  unfold definitionOf
  by_cases marked : '=' ∈ s
  · obtain ⟨name, value, rfl, first⟩ := List.eq_append_cons_of_mem marked
    rw [Text.cutAt_append first]
    exact ⟨first, .inl rfl⟩
  · rw [Text.cutAt_none marked]
    exact ⟨marked, .inr ⟨rfl, rfl⟩⟩

variable {o : Options} {s : Settings} {data : List UInt8}

theorem request_free (free : s.inputVersion? = none) :
    ((o.job data).request s).version.origin ≠ .override := by
  have version : ((o.job data).request s).version = Glsl.negotiate _ s.inputVersion? := rfl
  rw [version, free]
  unfold Glsl.negotiate
  split
  · contradiction
  · exact nofun
  · exact nofun

theorem asks_draws {config : Configuration} {preset : Converter.Preset}
    (configured : Converter.Preset.ofConfiguration config = .ok preset) (asks : o.Asks preset s) :
    o.Draws config ((o.job data).request s) := by
  obtain ⟨inputVersion, target, debugLevel, limits⟩ := preset_values configured
  have pairs : List.Forall₂ Splits o.definitions (o.definitions.map definitionOf) :=
    List.forall₂_map_right_iff.mpr (List.forall₂_same.mpr fun s _ => splits_definitionOf s)
  refine ⟨⟨_, _, inputVersion, asks.inputVersion, fun v forced => ?_, request_free⟩, fun empty => ?_,
    ⟨_, debugLevel, asks.debugLevel⟩, ⟨_, target, asks.target⟩, fun empty => ?_,
    ⟨_, _, pairs, asks.definitions, rfl⟩, ?_⟩
  · exact (Settings.request_forced _ _ _ _ forced).1
  · have none := asks.inputVersion
    rw [empty] at none
    exact request_free (Except.ok.inj none).symm
  · have plain := asks.target
    rw [empty] at plain
    exact (Except.ok.inj plain).symm
  · exact limits.trans (congrArg _ asks.limits.symm)

end Draws

section Consults

def Options.respond (o : Options) (s : Settings) (data : List UInt8) (compiler : Compiler) : Action :=
  match o.command with
  | .validate input =>
    .report input (Converter.report ⟨compiler, s, .ready⟩ o.stage data (some input))
  | .convert _ output =>
    match (compiler.attempt ((o.job data).request s)).result with
    | .error error => .fail (.conversion error)
    | .ok m => .write output m

variable {o : Options} {s : Settings} {data : List UInt8} {b : Build}
  {read : Path → Except FileError (List UInt8)} {r : Request}
  {first second : Compiler} {input output : Path}

theorem job_validate (command : o.command = .validate input) (data : List UInt8) :
    o.job data = ⟨.validate, o.stage, data, some input⟩ := by
  rw [Options.job, Options.mode, Options.input, command]

theorem job_convert (command : o.command = .convert input output) (data : List UInt8) :
    o.job data = ⟨.compile, o.stage, data, some input⟩ := by
  rw [Options.job, Options.mode, Options.input, command]

theorem hands_validate (command : o.command = .validate input) : o.Hands b read s data ↔
    o.Settles b read s ∧ read input = .ok data := by
  have reads : o.input = input := by rw [Options.input, command]
  have validates : o.mode = .validate := by rw [Options.mode, command]
  constructor
  · intro hands
    exact ⟨hands.settles, reads ▸ hands.found⟩
  · rintro ⟨settles, found⟩
    exact ⟨settles, reads.symm ▸ found, by simp [validates]⟩

theorem hands_convert (command : o.command = .convert input output) : o.Hands b read s data ↔
    o.Settles b read s ∧ read input = .ok data ∧
      Job.IsCompilable ⟨.compile, o.stage, data, some input⟩ s := by
  have reads : o.input = input := by rw [Options.input, command]
  have compiles : o.mode = .compile := by rw [Options.mode, command]
  rw [← job_convert command]
  constructor
  · intro hands
    exact ⟨hands.settles, reads ▸ hands.found, hands.compilable compiles⟩
  · rintro ⟨settles, found, compilable⟩
    exact ⟨settles, reads.symm ▸ found, fun _ => compilable⟩

theorem respond_alike (alike : Alike first second ((o.job data).request s)) :
    o.respond s data first = o.respond s data second := by
  have attempted : (first.attempt ((o.job data).request s)).result =
      (second.attempt ((o.job data).request s)).result := by
    unfold Compiler.attempt
    rw [alike.compile]
    cases second.compile ((o.job data).request s) <;> rfl
  unfold Options.respond
  rw [attempted]
  cases command : o.command with
  | validate input =>
    have validated := alike.validate
    rw [job_validate command] at validated
    exact congrArg (fun ds => Action.report input ⟨isAccepted s.warningsAsErrors (repairWarning data ++ ds),
      (repairWarning data ++ ds).text⟩) validated
  | convert input output => rfl

-- Two messages that a report tells apart, also behind the warning of a source that is not UTF-8.
theorem text_differs (data : List UInt8) : (repairWarning data ++ Diagnostics.error "").text ≠
    (repairWarning data ++ Diagnostics.error "x").text := by
  have behind (d : Diagnostic) (message : String) : Diagnostics.text [d, ⟨.error, message⟩] =
      Diagnostics.line d ++ "\n" ++ Diagnostics.line ⟨.error, message⟩ := rfl
  unfold repairWarning
  cases Utf8.fault? data with
  | none => decide
  | some fault =>
    intro same
    have lengths := congrArg String.length (((behind _ "").symm.trans same).trans (behind _ "x"))
    rw [String.length_append, String.length_append _ (Diagnostics.line ⟨.error, "x"⟩)] at lengths
    exact absurd (Nat.add_left_cancel lengths) (by decide)

theorem respond_heard (o : Options) (s : Settings) (data : List UInt8) :
    o.respond s data (.scripted (Diagnostics.error "") none) ≠
      o.respond s data (.scripted (Diagnostics.error "x") none) := by
  unfold Options.respond
  cases o.command with
  | validate input =>
    intro same
    exact text_differs data (congrArg Report.diagnostics (Action.report.inj same).2)
  | convert input output =>
    have differ : Diagnostics.error "" ≠ Diagnostics.error "x" := by decide
    intro same
    exact differ (ConversionError.rejected.inj (RunError.conversion.inj (Action.fail.inj same)))

theorem act_handed (hands : o.Hands b read s data) (compiler : Compiler) :
    o.act ⟨compiler, s, .ready⟩ read = o.respond s data compiler := by
  let c : Converter := ⟨compiler, s, .ready⟩
  unfold Options.act
  cases command : o.command with
  | validate input =>
    obtain ⟨⟨_, _, _, _, _, asks⟩, found⟩ := (hands_validate command).mp hands
    have format : c.settings.outputFormat = .unspecified := by
      rw [asks.outputFormat, command]
      rfl
    have looked := (c.validateSource_looked o.stage format data (some input)).1
    rw [Options.respond, command]
    dsimp only
    rw [Converter.validateFile_readable _ found]
    exact congrArg (Action.report input) looked
  | convert input output =>
    obtain ⟨_, found, compilable⟩ := (hands_convert command).mp hands
    have passed := c.compileSource_passed o.stage compilable
    rw [Options.respond, command, job_convert command]
    dsimp only
    rw [Converter.compileFile_readable _ _ _ found, passed]
    rfl

theorem act_unhanded (settles : o.Settles b read s) (never : ∀ data, ¬ o.Hands b read s data) :
    o.act ⟨first, s, .ready⟩ read = o.act ⟨second, s, .ready⟩ read := by
  unfold Options.act
  cases command : o.command with
  | validate input =>
    cases found : read input with
    | error error =>
      dsimp only
      rw [Converter.validateFile_unreadable _ found, Converter.validateFile_unreadable _ found]
      rfl
    | ok data => exact absurd ((hands_validate command).mpr ⟨settles, found⟩) (never data)
  | convert input output =>
    cases found : read input with
    | error error =>
      dsimp only
      rw [Converter.compileFile_unreadable _ _ _ found, Converter.compileFile_unreadable _ _ _ found]
      rfl
    | ok data =>
      have old : ¬ Job.IsCompilable ⟨.compile, o.stage, data, some input⟩ s := by
        intro compilable
        exact never data ((hands_convert command).mpr ⟨settles, found, compilable⟩)
      dsimp only
      rw [Converter.compileFile_readable _ _ _ found, Converter.compileFile_readable _ _ _ found,
        Converter.compileSource_refused _ old, Converter.compileSource_refused _ old]

theorem compiler_withCompiler (b : Build) (compiler : Compiler) (name : CompilerName) :
    (b.withCompiler compiler).compiler name = (b.compiler name).map fun _ => compiler := by
  cases name <;> rfl

theorem settings_withCompiler (b : Build) (compiler : Compiler) :
    o.settings (b.withCompiler compiler) read = o.settings b read := by
  unfold Options.settings
  rw [compiler_withCompiler]
  cases b.compiler o.compiler <;> rfl

theorem plan_settled (settled : o.settings b read = .ok s) (compiler : Compiler) :
    (plan (b.withCompiler compiler) o read).action = o.act ⟨compiler, s, .ready⟩ read := by
  obtain ⟨⟨_, present⟩, _⟩ := Options.settings_ok.mp settled
  refine plan_follows.acted s compiler ((settings_withCompiler b compiler).trans settled) ?_
  rw [compiler_withCompiler, present]
  rfl

theorem plan_handed (hands : o.Hands b read s data) (compiler : Compiler) :
    (plan (b.withCompiler compiler) o read).action = o.respond s data compiler :=
  (plan_settled (Options.settings_ok.mpr hands.settles) compiler).trans (act_handed hands compiler)

theorem consults_handed (hands : o.Hands b read s data) :
    o.Consults b read ((o.job data).request s) := by
  have handed := plan_handed hands
  refine ⟨fun first second alike => ?_, .scripted (Diagnostics.error "") none,
    .scripted (Diagnostics.error "x") none, ?_⟩
  · rw [handed first, handed second]
    exact respond_alike alike
  · rw [handed, handed]
    exact respond_heard o s data

-- A compiler that answers one request as the first does and all others as the second would make a
-- run like either of them, if it hung on two requests.
theorem Options.Consults.unique {r' : Request} (consults : o.Consults b read r)
    (consults' : o.Consults b read r') : r' = r := by
  by_contra other
  obtain ⟨first, second, differ⟩ := consults.heard
  let mixed : Compiler := { second with
    validate := Function.update second.validate r (first.validate r)
    compile := Function.update second.compile r (first.compile r) }
  have like : Alike mixed first r := ⟨Function.update_self .., Function.update_self ..⟩
  have like' : Alike mixed second r' := ⟨Function.update_of_ne other .., Function.update_of_ne other ..⟩
  exact differ ((consults.only _ _ like).symm.trans (consults'.only _ _ like'))

theorem consults_hands (consults : o.Consults b read r) :
    ∃ s data, o.Hands b read s data ∧ r = (o.job data).request s := by
  obtain ⟨first, second, differ⟩ := consults.heard
  cases settled : o.settings b read with
  | error error =>
    have failed (compiler : Compiler) : (plan (b.withCompiler compiler) o read).action = .fail error :=
      plan_follows.failed error ((settings_withCompiler b compiler).trans settled)
    exact absurd ((failed first).trans (failed second).symm) differ
  | ok s =>
    have settles := Options.settings_ok.mp settled
    by_cases handed : ∃ data, o.Hands b read s data
    · obtain ⟨data, hands⟩ := handed
      exact ⟨s, data, hands, (consults_handed hands).unique consults⟩
    · rw [plan_settled settled first, plan_settled settled second] at differ
      exact absurd (act_unhanded settles (not_exists.mp handed)) differ

theorem consults_draws (consults : o.Consults b read r) :
    ∃ config, (readConfig b.readDocument o.config? read).1 = .ok config ∧ o.Draws config r := by
  obtain ⟨s, data, hands, rfl⟩ := consults_hands consults
  obtain ⟨_, config, preset, loaded, configured, asks⟩ := hands.settles
  exact ⟨config, loaded, asks_draws configured asks⟩

end Consults

theorem plan_precedence (b : Build) (o : Options) (read : Path → Except FileError (List UInt8)) :
    Precedence b o read := by
  refine ⟨fun s data hands => consults_handed hands, fun r consults => consults_draws consults,
    settles_iff, fun error reports read' same => ?_, fun s level settles mistakes read' same =>
      plan_noted ((settles_same same).mpr settles) ((mistakes_same same).mpr mistakes)⟩
  have failed := plan_reported reports same
  exact ⟨failed, fun files => finish_fail failed⟩

-- A run takes each value from its options, or from its configuration where they have none, and
-- tells of one that is not valid before it looks at its input.
theorem run_precedence (b : Build) :
    (∀ (o : Options) (read : Path → Except FileError (List UInt8)), Precedence b o read) ∧
      ∀ {F : Type} [FileAccess F] (files : F) (arguments : List Text),
        match Options.ofArguments b.preferred arguments with
        | .error refusal => runWith b arguments files = (.refused refusal, files)
        | .ok o => runWith b arguments files = (plan b o (FileAccess.read files)).finish files := by
  refine ⟨plan_precedence b, fun files arguments => ?_⟩
  cases parsed : Options.ofArguments b.preferred arguments with
  | error refusal => exact runWith_refused b files parsed
  | ok o => exact runWith_ok b files parsed

theorem run_precedence_configured :
    let document :=
      "\x7b\"input_version\":\"330\",\"output_version\":\"vulkan1.1 spv1.4\"\x7d".toList
    let files : FileStore := ⟨[([[0x61]], .file []), ([[0x63]], .file (Utf8.encode document))]⟩
    let arguments := ["convert".toList, "a".toList, "b".toList, "--config=c".toList,
      "--input-version=450 core".toList, "-DX=1=2".toList, "-DY".toList]
    ∃ o r, Options.ofArguments Build.reduced.preferred arguments = .ok o ∧ o.Consults .reduced files.read r ∧
      r.version = ⟨⟨450, .core⟩, .override⟩ ∧ r.target = ⟨.vulkan, ⟨1, 1⟩, ⟨1, 4⟩⟩ ∧
      r.definitions = ⟨[("X".toList, "1=2".toList), ("Y".toList, []), ("VULKAN".toList, "100".toList)]⟩ := by
  intro document files arguments
  let o : Options := ⟨.convert ⟨[0x61]⟩ ⟨[0x62]⟩, .unspecified, some "450 core".toList, none,
    ["X=1=2".toList, "Y".toList], none, some ⟨[0x63]⟩, .builtIn, false⟩
  let config : Configuration := ⟨[("input_version".toList, .text "330".toList),
    ("output_version".toList, .text "vulkan1.1 spv1.4".toList)]⟩
  let definitions : Definitions := ⟨[("X".toList, "1=2".toList), ("Y".toList, [])]⟩
  let s : Settings := { Settings.default with
    inputVersion? := some ⟨450, .core⟩
    outputFormat := .spirv
    target := ⟨.vulkan, ⟨1, 1⟩, ⟨1, 4⟩⟩
    definitions := definitions }
  have parsed : Options.ofArguments Build.reduced.preferred arguments = .ok o := rfl
  have loaded : (readConfig Json.read o.config? files.read).1 = .ok config := by decide +kernel
  have settles : o.Settles .reduced files.read s :=
    ⟨⟨_, rfl⟩, config, _, loaded, rfl, rfl, rfl, rfl, rfl, rfl, rfl, rfl, ⟨_, rfl⟩, ⟨_, rfl⟩⟩
  have version := (Settings.request_forced (s := s) (v := ⟨450, .core⟩) .unspecified [] (some ⟨[0x61]⟩)
    .compile rfl).1
  have recent : 140 ≤ (⟨450, .core⟩ : Glsl.Version).number := by decide
  have hands : o.Hands .reduced files.read s [] :=
    ⟨settles, rfl, fun _ => .inl (congrArg (·.version.number) version ▸ recent)⟩
  have laws := (run_precedence .reduced).1 o files.read
  exact ⟨o, _, parsed, laws.handed s [] hands, version, rfl, rfl⟩

end ShaderConversion.CommandLine
