import ShaderConversion.FileStore
import ShaderConversion.Proofs.Compiler.Scripted
import ShaderConversion.Proofs.Converter.Resolution

namespace ShaderConversion

namespace Compiler

theorem plainModule_bare {r : Request} (level : r.debugLevel = .none) :
    Spirv.embeddedSource? (plainModule r) = none := by
  have bare : ¬ r.debugLevel.embedsSource = true := by
    rw [level]
    decide
  rw [plainModule, if_neg bare, Spirv.embeddedSource_assemble (List.forall_mem_nil _)]
  rfl

theorem plainModule_embedded {r : Request} (level : r.debugLevel = .sourceAndLine) :
    Spirv.embeddedSource? (plainModule r) = some (Spirv.restored r.source) := by
  have embedded : r.debugLevel.embedsSource = true := by
    rw [level]
    decide
  rw [plainModule, if_pos embedded, Spirv.embeddedSource_assemble (Spirv.sourceRecords_fit _ _ _)]
  exact Spirv.gather_sourceRecords _ _ _

end Compiler

namespace Converter

variable {c : Converter} {live : Bool} {stage : Stage} {data : List UInt8} {fileName? : Option Path}

theorem compileSource_accepting (accepting : c.compiler = .accepting)
    (supported : Spirv.isSupported c.settings.target.spirvVersion = true)
    (recent : (c.settings.request stage data fileName? .compile).version.version.isCompilable = true) :
    ∃ m, (c.compileSource true stage data fileName?).answer = .ok m := by
  have clean : Diagnostics.hasErrors [] = false := rfl
  have compiled := Compiler.scripted_ok clean
    (r := c.settings.request stage data fileName? .compile) supported
  have answer : (c.compileSource true stage data fileName?).answer =
      (c.compiler.compileGated (c.settings.request stage data fileName? .compile)).result := rfl
  rw [answer, accepting, Compiler.compileGated, if_pos recent]
  exact ⟨_, compiled⟩

-- What a compiled module says about the source of its request. The source is embedded in
-- pieces, and of each piece a reader sees what is in front of a null character.
theorem compiled_source {m : Spirv.Module} (accepting : c.compiler = .accepting)
    (compiled : (c.compileSource live stage data fileName?).answer = .ok m) :
    ∃ r, (c.compileSource live stage data fileName?).requests = [r] ∧
      (c.settings.debugLevel = .none → m.embeddedSource? = none) ∧
      (c.settings.debugLevel = .sourceAndLine →
        (Spirv.pieces 262123 r.source).flatten = r.source ∧
        (∀ piece ∈ Spirv.pieces 262123 r.source, Utf8.size piece ≤ 262123) ∧
        ∃ t, m.embeddedSource? = some t ∧
          t = ((Spirv.pieces 262123 r.source).map fun piece => piece.takeWhile (· != '\x00')).flatten ∧
          (t = r.source ↔ '\x00' ∉ r.source)) := by
  obtain ⟨asked, attempted⟩ := compileSource_ok compiled
  rw [accepting] at attempted
  have words := Compiler.scripted_words rfl attempted
  refine ⟨_, asked, fun bare => ?_, fun embedded => ?_⟩
  · rw [Spirv.Module.embeddedSource?, words]
    exact Compiler.plainModule_bare bare
  · have cut := Spirv.cut_pieces Spirv.pieceRoom
      (c.settings.resolve stage data fileName? .compile).request.source
    refine ⟨cut.flatten, cut.size (by decide), _, ?_, rfl, Spirv.restored_eq_iff⟩
    rw [Spirv.Module.embeddedSource?, words]
    exact Compiler.plainModule_embedded embedded

theorem compiled_source_null :
    let c := ((new .accepting).perform true FileStore.empty (.setDebugLevel "1".toList)).1.converter
    let text := Glsl.Directive.lineFor ⟨450, .core⟩ ++ "\n//\u00e9\x00z".toList
    let o := c.compileSource true .vertex (Utf8.encode text) (some ⟨[0xFF]⟩)
    ∃ m t, o.answer = .ok m ∧ m.embeddedSource? = some t ∧ t ≠ text := by
  intro c text o
  have null : '\x00' ∈ text := List.mem_append_right _ (by decide)
  have forced : Glsl.Version.IsOverride ⟨450, .core⟩ := ⟨"450 core".toList, by decide⟩
  have found : Glsl.Directive.find? text = some ⟨[], _, _, some ⟨450, .core⟩⟩ :=
    Glsl.find_lineFor forced (.feed _)
  have declared : Glsl.declared? text = some ⟨450, .core⟩ := by
    rw [Glsl.declared?, found]
    rfl
  obtain ⟨version, decoded⟩ := Settings.request_declared (s := c.settings) .vertex (some ⟨[0xFF]⟩)
    .compile rfl ((congrArg Glsl.declared? (Utf8.decode_encode text)).trans declared)
  have source := decoded.trans (Utf8.decode_encode text)
  obtain ⟨m, compiled⟩ : ∃ m, o.answer = .ok m :=
    compileSource_accepting rfl rfl (by rw [version]; rfl)
  obtain ⟨asked, _⟩ := compileSource_ok compiled
  obtain ⟨r, same, _, embedded⟩ := compiled_source rfl compiled
  obtain ⟨_, _, t, read, _, whole⟩ := embedded rfl
  cases same.symm.trans asked
  refine ⟨m, t, compiled, read, fun equal => ?_⟩
  exact whole.mp (equal.trans source.symm) (source.symm ▸ null)

end Converter

end ShaderConversion
