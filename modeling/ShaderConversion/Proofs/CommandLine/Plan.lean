import ShaderConversion.Proofs.CommandLine.Setup
import ShaderConversion.Proofs.Converter.Acceptance

namespace ShaderConversion.CommandLine

def Options.act (o : Options) (c : Converter) (read : Path → Except FileError (List UInt8)) : Action :=
  match o.command with
  | .validate input => .report input (c.validateFile ⟨true, read⟩ o.stage input).answer
  | .convert input output =>
    match (c.compileFile ⟨true, read⟩ o.stage input).answer with
    | .error error => .fail (.conversion error)
    | .ok m => .write output m

-- A plan that fails with the error there is, or acts with the settings there are. It never
-- tells of a refusal.
structure Plan.Follows (p : Plan) (compiler? : Except Absence Compiler) (o : Options)
    (read : Path → Except FileError (List UInt8)) (result : Except RunError Settings) : Prop where
  failed : ∀ error, result = .error error → p.action = .fail error
  acted : ∀ s compiler, result = .ok s → compiler? = .ok compiler →
    p.action = o.act ⟨compiler, s, .ready⟩ read
  admitted : Admitted p.events

section Plan

variable {compiler? : Except Absence Compiler} {compiler : Compiler} {b : Build} {o : Options} {s : Settings}
  {read : Path → Except FileError (List UInt8)}

theorem follows_failed {error : RunError} {events : List Event} (admitted : Admitted events) :
    Plan.Follows ⟨.fail error, events⟩ compiler? o read (.error error) := by
  refine ⟨?_, ?_, admitted⟩
  · rintro _ ⟨⟩
    rfl
  · rintro _ _ ⟨⟩

theorem follows_acted {p : Plan} (acted : p.action = o.act ⟨compiler, s, .ready⟩ read)
    (admitted : Admitted p.events) : p.Follows (.ok compiler) o read (.ok s) := by
  refine ⟨?_, ?_, admitted⟩
  · rintro _ ⟨⟩
  · rintro _ _ ⟨⟩ ⟨⟩
    exact acted

theorem Plan.Follows.after {p : Plan} {result : Except RunError Settings} {before : List Event}
    (follows : p.Follows compiler? o read result) (admitted : Admitted before) :
    Plan.Follows { p with events := before ++ p.events } compiler? o read result :=
  ⟨follows.failed, follows.acted, throughout_append.mpr ⟨admitted, follows.admitted⟩⟩

theorem leased_admitted {events : List Event} (admitted : Admitted events) :
    Admitted ([.compilerStarted] ++ events ++ [.compilerStopped]) := by
  have ended : Admitted [.compilerStopped] := throughout_cons.mpr ⟨rfl, throughout_nil⟩
  exact throughout_append.mpr ⟨throughout_cons.mpr ⟨rfl, admitted⟩, ended⟩

theorem execute_follows (format : ∀ s', o.aim s = .ok s' → s'.outputFormat = o.command.format) :
    (execute ⟨compiler, s, .ready⟩ o read).Follows (.ok compiler) o read
      ((o.aim s).mapError .setup) := by
  have result := (targetCalls_aim o).result compiler s
  have admitted := applyAll_admitted (targetCalls_aim o).admitted ⟨compiler, s, .ready⟩
  unfold execute
  generalize applyAll ⟨compiler, s, .ready⟩ (targetCalls o) = made at result admitted
  obtain ⟨_, events⟩ := made
  cases aimed : o.aim s with
  | error error =>
    rw [aimed] at result
    cases result
    exact follows_failed (leased_admitted admitted)
  | ok s' =>
    rw [aimed] at result
    cases result
    cases command : o.command with
    | validate input =>
      have unspecified : s'.outputFormat = .unspecified := by
        rw [format s' aimed, command]
        rfl
      have checked : Admitted (Converter.validateFile ⟨compiler, s', .ready⟩ ⟨true, read⟩
          o.stage input).events := Converter.validateFile_admitted o.stage unspecified
      refine follows_acted ?_ (leased_admitted (throughout_append.mpr ⟨admitted, checked⟩))
      rw [Options.act, command]
      rfl
    | convert input output =>
      have compiled : Admitted (Converter.compileFile ⟨compiler, s', .ready⟩ ⟨true, read⟩
          o.stage input).events := Converter.compileFile_admitted o.stage
      refine follows_acted ?_ (leased_admitted (throughout_append.mpr ⟨admitted, compiled⟩))
      rw [Options.act, command]
      rfl

theorem proceed_follows
    (format : ∀ s', (o.adjust s >>= o.aim) = .ok s' → s'.outputFormat = o.command.format) :
    (proceed ⟨compiler, s, .ready⟩ o read).Follows (.ok compiler) o read
      ((o.adjust s >>= o.aim).mapError .setup) := by
  have result := (settingsCalls_adjust o).result compiler s
  have admitted := applyAll_admitted (settingsCalls_adjust o).admitted ⟨compiler, s, .ready⟩
  unfold proceed
  generalize applyAll ⟨compiler, s, .ready⟩ (settingsCalls o) = made at result admitted
  obtain ⟨_, events⟩ := made
  cases adjusted : o.adjust s with
  | error error =>
    rw [adjusted] at result
    cases result
    exact follows_failed admitted
  | ok s' =>
    rw [adjusted] at result format
    cases result
    exact (execute_follows format).after admitted

theorem plan_follows : (plan b o read).Follows (b.compiler o.compiler) o read (o.settings b read) := by
  have loaded := (readConfig_routine b.readDocument o.config? read).admitted
  unfold plan Options.settings
  generalize readConfig b.readDocument o.config? read = loading at loaded
  obtain ⟨config | config, events⟩ := loading
  · exact follows_failed loaded
  cases b.compiler o.compiler with
  | error why => exact follows_failed loaded
  | ok compiler =>
    change Plan.Follows _ _ o read ((o.settle config).mapError .setup)
    have format (s : Settings) : o.settle config = .ok s → s.outputFormat = o.command.format := settle_format
    have created := ofConfiguration_admitted compiler config
    have result := Converter.ofConfiguration_result compiler config
    rw [settle_configured] at format ⊢
    dsimp only
    generalize Converter.ofConfiguration compiler config = creation at created result
    obtain ⟨_, noticed⟩ := creation
    have before := throughout_append.mpr ⟨loaded, created⟩
    cases configured : (Converter.Preset.ofConfiguration config >>= fun preset =>
        preset.apply .default) with
    | error error =>
      rw [configured] at result
      cases result
      exact follows_failed before
    | ok s =>
      rw [configured] at result format
      cases result
      exact (proceed_follows format).after before

theorem settings_live {error : ConversionError} : o.settings b read ≠ .error (.conversion error) := by
  intro failed
  rcases bind_error.mp failed with unloaded | ⟨config, _, failed⟩
  · unfold readConfig at unloaded
    split at unloaded
    · cases unloaded
    · split at unloaded
      · cases unloaded
      · split at unloaded
        · cases unloaded
        · obtain ⟨_, _, other⟩ := mapError_error.mp unloaded
          cases other
  · rcases bind_error.mp failed with absent | ⟨compiler, _, failed⟩
    · obtain ⟨_, _, other⟩ := mapError_error.mp absent
      cases other
    · obtain ⟨_, _, other⟩ := mapError_error.mp failed
      cases other

theorem act_live (c : Converter) : o.act c read ≠ .fail (.conversion .withoutCompiler) := by
  unfold Options.act
  cases o.command with
  | validate input => exact nofun
  | convert input output =>
    dsimp only
    split
    · rename_i failed
      rintro ⟨⟩
      exact Converter.compileFile_live o.stage failed
    · exact nofun

theorem plan_live : (plan b o read).action ≠ .fail (.conversion .withoutCompiler) := by
  intro failed
  cases settled : o.settings b read with
  | error error =>
    cases (plan_follows.failed error settled).symm.trans failed
    exact settings_live settled
  | ok s =>
    obtain ⟨⟨compiler, present⟩, _⟩ := Options.settings_ok.mp settled
    exact act_live _ ((plan_follows.acted s compiler settled present).symm.trans failed)

end Plan

end ShaderConversion.CommandLine
