import ShaderConversion.FileStore
import ShaderConversion.Proofs.Compiler.Scripted
import ShaderConversion.Proofs.Converter.Accounting
import ShaderConversion.Proofs.Converter.Reachable
import ShaderConversion.Proofs.Target

namespace ShaderConversion

theorem Settings.target_change {s s' : Settings} {call : Call} (inRange : s.target.InRange)
    (changed : call.change s = .ok s') : s'.target.InRange := by
  cases call with
  | setInputFormat format version =>
    obtain ⟨_, _, rfl⟩ := withInputFormat_ok changed
    exact inRange
  | setOutputFormat format target =>
    obtain ⟨_, negotiated, rfl⟩ := withOutputFormat_ok changed
    exact Target.negotiate_inRange negotiated
  | setDefinitions pairs =>
    obtain ⟨_, _, rfl⟩ := withDefinitions_ok changed
    exact inRange
  | _ =>
    cases changed
    exact inRange

theorem Settings.target_preset {p : Converter.Preset} {s s' : Settings}
    (applied : p.apply s = .ok s') : s'.target.InRange := by
  obtain ⟨_, _, _, negotiated, rfl⟩ := preset_ok.mp applied
  exact Target.negotiate_inRange negotiated

namespace Converter

theorem Reachable.target {c : Converter} (reached : Reachable c) : c.settings.target.InRange :=
  reached.settings (P := fun s => s.target.InRange) Target.default_inRange Settings.target_change
    fun _ => Settings.target_preset

-- A compiler that finds no error delivers a module of the target's version for every
-- source that it is given, and only sources in an old version are kept from it.
theorem Reachable.compilation {c : Converter} (reached : Reachable c) {diagnostics : Diagnostics}
    (clean : diagnostics.hasErrors = false) (scripted : c.compiler = .scripted diagnostics none)
    (stage : Stage) (data : List UInt8) (fileName? : Option Path) :
    let job : Job := ⟨.compile, stage, data, fileName?⟩
    let r := job.request c.settings
    let answer := (c.compileSource true stage data fileName?).answer
    (job.IsCompilable c.settings ∧ ∃ m, answer = .ok m ∧
      m.version = c.settings.target.spirvVersion ∧ m.stage = r.stage ∧
      5 ≤ m.words.length ∧ Spirv.Instruction.Aligned (m.words.drop 5)) ∨
    (¬ job.IsCompilable c.settings ∧ answer = .error (.oldVersion r.version.version)) := by
  intro job r answer
  have gated : answer = (c.compiler.compileGated r).result := rfl
  rw [gated, scripted]
  by_cases compilable : job.IsCompilable c.settings
  · have compiled := Compiler.scripted_ok (r := r) clean reached.target.supported
    rw [(compileGated_passed compilable _).2]
    refine .inl ⟨compilable, _, compiled, rfl, rfl, ?_⟩
    rw [Compiler.scripted_words clean compiled]
    exact Compiler.plainModule_aligned r
  · exact .inr ⟨compilable, (compileGated_refused compilable _).2⟩

theorem compilation_warned :
    let forced := ((new (.scripted (.warning "unused") none)).perform true FileStore.empty
      (.setInputFormat .glsl "450 core".toList)).1.converter
    let targeted := (forced.perform true FileStore.empty
      (.setOutputFormat .spirv "vulkan1.2".toList)).1.converter
    let c := (targeted.perform true FileStore.empty (.setDebugLevel "1".toList)).1.converter
    ∃ m, (c.compileSource true .compute [0xFF] (some ⟨[0xFF]⟩)).answer = .ok m ∧
      m.version = ⟨1, 5⟩ ∧ m.stage = .compute ∧ 5 ≤ m.words.length ∧
      Spirv.Instruction.Aligned (m.words.drop 5) := by
  intro forced targeted c
  have reached : Reachable c := .call (.call (.call (.new _) _ _ _) _ _ _) _ _ _
  have version := (Settings.request_forced .compute [0xFF] (some ⟨[0xFF]⟩) .compile
    (s := c.settings) (v := ⟨450, .core⟩) rfl).1
  rcases reached.compilation rfl rfl .compute [0xFF] (some ⟨[0xFF]⟩) with ⟨_, compiled⟩ | ⟨refused, _⟩
  · exact compiled
  · have recent : 140 ≤ (⟨450, .core⟩ : Glsl.Version).number := by decide
    exact absurd (.inl (congrArg (·.version.number) version ▸ recent)) refused

end Converter

end ShaderConversion
