import ShaderConversion.Compiler.Scripted
import ShaderConversion.Proofs.CommandLine.Plan
import ShaderConversion.Proofs.FileStore

namespace ShaderConversion.CommandLine

namespace Options

def Validates (o : Options) (b : Build) (read : Path → Except FileError (List UInt8)) (input : Path) :
    Prop :=
  ∃ compiler s data, b.compiler o.compiler = .ok compiler ∧ o.Settles b read s ∧ read input = .ok data ∧
    let ds := compiler.validate (s.request o.stage data (some input) .validate)
    ds.hasErrors = false ∧
      (s.warningsAsErrors = true → ds.hasWarnings = false ∧ ∃ text, data = Utf8.encode text)

-- A conversion for which the compiler has bytes that are a module of the target's version.
def Converts (o : Options) (b : Build) (read : Path → Except FileError (List UInt8)) (input : Path)
    (bytes : List UInt8) : Prop :=
  ∃ compiler s data, b.compiler o.compiler = .ok compiler ∧ o.Settles b read s ∧ read input = .ok data ∧
    Job.IsCompilable ⟨.compile, o.stage, data, some input⟩ s ∧
    let r := s.request o.stage data (some input) .compile
    compiler.compile r = .ok bytes ∧ r.Accepts bytes

end Options

structure Effects {F : Type} [FileAccess F] (b : Build) (o : Options) (files : F) (p : Plan)
    (ending : Ending) (files' : F) : Prop where
  finished : (ending, files') = p.finish files
  exit : ending.exit = 0 ∨ ending.exit = 1
  failed : ending.exit ≠ 0 → files' = files
  validated : ∀ input, o.command = .validate input →
    files' = files ∧ (ending.exit = 0 ↔ o.Validates b (FileAccess.read files) input)
  converted : ∀ input output, o.command = .convert input output → (ending.exit = 0 ↔
    ∃ bytes stored, o.Converts b (FileAccess.read files) input bytes ∧
      FileAccess.write files output bytes = .ok stored)
  written : ∀ input output bytes stored, o.command = .convert input output →
    o.Converts b (FileAccess.read files) input bytes →
      FileAccess.write files output bytes = .ok stored → files' = stored
  live : p.action ≠ .fail (.conversion .withoutCompiler)
  admitted : Admitted p.events

section Actions

variable {b : Build} {compiler : Compiler} {o : Options} {s : Settings}
  {read : Path → Except FileError (List UInt8)} {input output : Path}

theorem Options.Settles.unique {s' : Settings} (settles : o.Settles b read s)
    (settles' : o.Settles b read s') : s' = s :=
  Except.ok.inj ((settings_ok.mpr settles').symm.trans (settings_ok.mpr settles))

theorem validates_iff (present : b.compiler o.compiler = .ok compiler) (settles : o.Settles b read s)
    (format : s.outputFormat = .unspecified) : o.Validates b read input ↔
      (Converter.validateFile ⟨compiler, s, .ready⟩ ⟨true, read⟩ o.stage input).answer.accepted =
        true := by
  refine Iff.trans ?_ (Converter.validateFile_accepted o.stage format).symm
  constructor
  · rintro ⟨compiler', s', data, present', settles', accepted⟩
    cases present.symm.trans present'
    cases settles.unique settles'
    exact ⟨data, accepted⟩
  · rintro ⟨data, accepted⟩
    exact ⟨compiler, s, data, present, settles, accepted⟩

theorem converts_iff (present : b.compiler o.compiler = .ok compiler) (settles : o.Settles b read s)
    {bytes : List UInt8} : o.Converts b read input bytes ↔ ∃ m,
      (Converter.compileFile ⟨compiler, s, .ready⟩ ⟨true, read⟩ o.stage input).answer = .ok m ∧
        m.bytes = bytes := by
  constructor
  · rintro ⟨compiler', s', data, present', settles', found, compilable, compiled, header, valid, version⟩
    cases present.symm.trans present'
    cases settles.unique settles'
    have attempted := Compiler.attempt_ok.mpr
      ⟨bytes, compiled, checkOutput_ok.mpr ⟨header, valid, version, rfl⟩⟩
    exact ⟨_, (Converter.compileFile_ok o.stage).mpr ⟨data, found, compilable, attempted⟩, rfl⟩
  · rintro ⟨m, answer, rfl⟩
    obtain ⟨data, found, compilable, attempted⟩ := (Converter.compileFile_ok o.stage).mp answer
    obtain ⟨bytes, compiled, checked⟩ := Compiler.attempt_ok.mp attempted
    obtain ⟨header, valid, version, rfl⟩ := checkOutput_ok.mp checked
    exact ⟨compiler, s, data, present, settles, found, compilable, compiled, header, valid, version⟩

theorem not_settled {error : RunError} (failed : o.settings b read = .error error) :
    ¬ o.Settles b read s := by
  intro settles
  cases failed.symm.trans (Options.settings_ok.mpr settles)

variable (b read)

theorem validate_action (command : o.command = .validate input) :
    let action := (plan b o read).action
    (∃ report, action = .report input report ∧ (report.accepted = true ↔ o.Validates b read input)) ∨
    (∃ error, action = .fail error) ∧ ¬ o.Validates b read input := by
  intro action
  cases settled : o.settings b read with
  | error error =>
    refine .inr ⟨⟨error, plan_follows.failed error settled⟩, ?_⟩
    rintro ⟨_, s, _, _, settles, _⟩
    exact not_settled settled settles
  | ok s =>
    have settles := Options.settings_ok.mp settled
    obtain ⟨⟨compiler, present⟩, _, _, _, _, asks⟩ := Options.settings_ok.mp settled
    have format : s.outputFormat = .unspecified := by
      rw [asks.outputFormat, command]
      rfl
    have acted := plan_follows.acted s compiler settled present
    rw [Options.act, command] at acted
    exact .inl ⟨_, acted, (validates_iff present settles format).symm⟩

theorem convert_action (command : o.command = .convert input output) :
    let action := (plan b o read).action
    (∃ m, action = .write output m ∧ ∀ bytes, o.Converts b read input bytes ↔ bytes = m.bytes) ∨
    (∃ error, action = .fail error) ∧ ∀ bytes, ¬ o.Converts b read input bytes := by
  intro action
  cases settled : o.settings b read with
  | error error =>
    refine .inr ⟨⟨error, plan_follows.failed error settled⟩, ?_⟩
    rintro bytes ⟨_, s, _, _, settles, _⟩
    exact not_settled settled settles
  | ok s =>
    have settles := Options.settings_ok.mp settled
    obtain ⟨⟨compiler, present⟩, _⟩ := Options.settings_ok.mp settled
    have acted := plan_follows.acted s compiler settled present
    rw [Options.act, command] at acted
    dsimp only at acted
    cases answer : (Converter.compileFile ⟨compiler, s, .ready⟩ ⟨true, read⟩ o.stage input).answer with
    | error error =>
      rw [answer] at acted
      refine .inr ⟨⟨_, acted⟩, fun bytes converts => ?_⟩
      obtain ⟨m, compiled, _⟩ := (converts_iff present settles).mp converts
      cases answer.symm.trans compiled
    | ok m =>
      rw [answer] at acted
      refine .inl ⟨m, acted, fun bytes => (converts_iff present settles).trans ?_⟩
      simp [answer, eq_comm]

end Actions

section Finish

variable {F : Type} [FileAccess F] {p : Plan} {files : F}

theorem finish_fail {error : RunError} (failed : p.action = .fail error) :
    p.finish files = (.failed error, files) := by
  rw [Plan.finish, failed]

theorem finish_report {input : Path} {report : Report} (acted : p.action = .report input report) :
    p.finish files = (.validated input report, files) := by
  rw [Plan.finish, acted]

theorem finish_write {output : Path} {m : Spirv.Module} (acted : p.action = .write output m)
    {stored : F} (written : FileAccess.write files output m.bytes = .ok stored) :
    p.finish files = (.wrote output m, stored) := by
  rw [Plan.finish, acted]
  dsimp only
  rw [written]

theorem finish_unwritten {output : Path} {m : Spirv.Module} (acted : p.action = .write output m)
    {error : FileError} (unwritten : FileAccess.write files output m.bytes = .error error) :
    p.finish files = (.failed (.notWritten output error), files) := by
  rw [Plan.finish, acted]
  dsimp only
  rw [unwritten]

theorem exit_validated (input : Path) (report : Report) :
    (Ending.validated input report).exit = if report.accepted then 0 else 1 := rfl

-- Files change only together with an exit of zero, whatever is planned.
theorem finish_exit (p : Plan) (files : F) :
    ((p.finish files).1.exit = 0 ∨ (p.finish files).1.exit = 1) ∧
      ((p.finish files).1.exit ≠ 0 → (p.finish files).2 = files) := by
  cases acted : p.action with
  | fail error =>
    rw [finish_fail acted]
    exact ⟨.inr rfl, fun _ => rfl⟩
  | report input report =>
    rw [finish_report acted]
    refine ⟨?_, fun _ => rfl⟩
    dsimp only
    rw [exit_validated]
    split
    · exact .inl rfl
    · exact .inr rfl
  | write output m =>
    cases written : FileAccess.write files output m.bytes with
    | ok stored =>
      rw [finish_write acted written]
      exact ⟨.inl rfl, fun failed => absurd rfl failed⟩
    | error error =>
      rw [finish_unwritten acted written]
      exact ⟨.inr rfl, fun _ => rfl⟩

variable (b : Build) {o : Options} (files : F)

theorem validate_effects {input : Path} (command : o.command = .validate input) :
    let result := (plan b o (FileAccess.read files)).finish files
    result.2 = files ∧ (result.1.exit = 0 ↔ o.Validates b (FileAccess.read files) input) := by
  intro result
  rcases validate_action b (FileAccess.read files) command with
    ⟨report, acted, accepted⟩ | ⟨⟨error, failed⟩, refused⟩
  · have reported : result = _ := finish_report acted
    rw [reported]
    refine ⟨rfl, Iff.trans ?_ accepted⟩
    dsimp only
    rw [exit_validated]
    split <;> simp_all
  · have failed : result = _ := finish_fail failed
    rw [failed]
    exact ⟨rfl, nofun, fun validates => absurd validates refused⟩

theorem convert_effects {input output : Path} (command : o.command = .convert input output) :
    let result := (plan b o (FileAccess.read files)).finish files
    (result.1.exit = 0 ↔ ∃ bytes stored, o.Converts b (FileAccess.read files) input bytes ∧
      FileAccess.write files output bytes = .ok stored) ∧
    ∀ bytes stored, o.Converts b (FileAccess.read files) input bytes →
      FileAccess.write files output bytes = .ok stored → result.2 = stored := by
  intro result
  rcases convert_action b (FileAccess.read files) command with
    ⟨m, acted, only⟩ | ⟨⟨error, failed⟩, never⟩
  · cases write : FileAccess.write files output m.bytes with
    | ok stored =>
      have wrote : result = _ := finish_write acted write
      rw [wrote]
      refine ⟨⟨fun _ => ⟨m.bytes, stored, (only m.bytes).mpr rfl, write⟩, fun _ => rfl⟩, ?_⟩
      intro bytes stored' converts written
      cases (only bytes).mp converts
      exact Except.ok.inj (write.symm.trans written)
    | error error =>
      have unwritten : result = _ := finish_unwritten acted write
      have never (bytes : List UInt8) (stored : F)
          (converts : o.Converts b (FileAccess.read files) input bytes) :
          FileAccess.write files output bytes ≠ .ok stored := by
        cases (only bytes).mp converts
        rw [write]
        exact nofun
      rw [unwritten]
      refine ⟨⟨nofun, ?_⟩, fun bytes stored converts written =>
        absurd written (never bytes stored converts)⟩
      rintro ⟨bytes, stored, converts, written⟩
      exact absurd written (never bytes stored converts)
  · have failed : result = _ := finish_fail failed
    rw [failed]
    refine ⟨⟨nofun, ?_⟩, fun bytes _ converts => absurd converts (never bytes)⟩
    rintro ⟨bytes, _, converts, _⟩
    exact absurd converts (never bytes)

theorem plan_effects (o : Options) :
    let p := plan b o (FileAccess.read files)
    Effects b o files p (p.finish files).1 (p.finish files).2 := by
  intro p
  obtain ⟨exit, failed⟩ := finish_exit p files
  refine ⟨rfl, exit, failed, fun _ command => validate_effects b files command,
    fun _ _ command => (convert_effects b files command).1, ?_, plan_live, plan_follows.admitted⟩
  intro _ _ bytes stored command converts written
  exact (convert_effects b files command).2 bytes stored converts written

theorem runWith_refused {arguments : List Text} {refusal : Refusal}
    (refused : Options.ofArguments b.preferred arguments = .error refusal) :
    runWith b arguments files = (.refused refusal, files) := by
  rw [runWith, refused]

theorem runWith_ok {arguments : List Text} (parsed : Options.ofArguments b.preferred arguments = .ok o) :
    runWith b arguments files = (plan b o (FileAccess.read files)).finish files := by
  rw [runWith, parsed]

end Finish

-- A run changes files only by writing the module that it converts its input to, and tells by
-- its exit whether it did, or whether nothing counts against the input that it validates.
theorem run_effects (b : Build) (o : Options) :
    (∀ {F : Type} [FileAccess F] (files : F),
      let p := plan b o (FileAccess.read files)
      Effects b o files p (p.finish files).1 (p.finish files).2 ∧
        ∀ arguments, Options.ofArguments b.preferred arguments = .ok o →
          runWith b arguments files = p.finish files) ∧
    ∀ (files stored : FileStore) input output bytes, o.command = .convert input output →
      o.Converts b files.read input bytes → files.write output bytes = .ok stored →
        files.Replaced output bytes ((plan b o files.read).finish files).2 := by
  constructor
  · intro F _ files p
    exact ⟨plan_effects b files o, fun _ parsed => runWith_ok b files parsed⟩
  · intro files stored input output bytes command converts written
    have stores := (plan_effects b files o).written input output bytes stored command converts written
    exact stores.symm ▸ FileStore.write_replaced written

theorem run_effects_converted :
    let output := Spirv.bytesOfWords (Spirv.Module.assemble ⟨1, 0⟩ 1 [])
    let files : FileStore := ⟨[([[0x61]], .file [])]⟩
    let arguments := ["convert".toList, "a".toList, "b".toList, "--input-version=450 core".toList]
    let result := runWith ⟨.scripted [] (some output), .error .notBuilt, Json.read⟩ arguments files
    result.1.exit = 0 ∧ files.Replaced ⟨[0x62]⟩ output result.2 := by
  intro output files arguments result
  let b : Build := ⟨.scripted [] (some output), .error .notBuilt, Json.read⟩
  let o : Options := ⟨.convert ⟨[0x61]⟩ ⟨[0x62]⟩, .unspecified, some "450 core".toList, none, [], none, none,
    .builtIn, false⟩
  let s : Settings := { Settings.default with inputVersion? := some ⟨450, .core⟩, outputFormat := .spirv }
  have settles : o.Settles b files.read s :=
    ⟨⟨_, rfl⟩, .empty, _, rfl, rfl, rfl, rfl, rfl, rfl, rfl, rfl, rfl, ⟨_, rfl⟩, ⟨_, rfl⟩⟩
  have version := (Settings.request_forced (s := s) (v := ⟨450, .core⟩) .unspecified [] (some ⟨[0x61]⟩)
    .compile rfl).1
  have recent : 140 ≤ (⟨450, .core⟩ : Glsl.Version).number := by decide
  have compilable : Job.IsCompilable ⟨.compile, .unspecified, [], some ⟨[0x61]⟩⟩ s :=
    .inl (congrArg (·.version.number) version ▸ recent)
  have header : Spirv.readHeader output = .ok _ := Spirv.readHeader_assemble (by decide) (by decide) []
  have converts : o.Converts b files.read ⟨[0x61]⟩ output :=
    ⟨_, s, [], rfl, settles, rfl, compilable, rfl, _, header, rfl⟩
  have written : files.write ⟨[0x62]⟩ output = .ok _ := rfl
  obtain ⟨laws, replaced⟩ := run_effects b o
  obtain ⟨effects, ran⟩ := laws files
  have finished : result = _ := ran arguments rfl
  rw [finished]
  exact ⟨(effects.converted _ _ rfl).mpr ⟨output, _, converts, written⟩,
    replaced files _ _ _ output rfl converts written⟩

end ShaderConversion.CommandLine
