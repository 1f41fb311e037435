import ShaderConversion.Compiler.Scripted
import ShaderConversion.Proofs.Converter.Output
import ShaderConversion.Proofs.Spirv.Header
import ShaderConversion.Proofs.Spirv.Record

namespace ShaderConversion.Compiler

variable {diagnostics : Diagnostics} {r : Request} {m : Spirv.Module}

theorem scripted_clean (clean : diagnostics.hasErrors = false) (r : Request) :
    (scripted diagnostics none).compile r = .ok (Spirv.bytesOfWords (plainModule r)) := by
  rw [scripted, clean]
  rfl

theorem plainModule_spec (r : Request) : ∃ bound is,
    plainModule r = Spirv.Module.assemble r.target.spirvVersion bound is ∧ bound ≠ 0 ∧
      ∀ i ∈ is, i.Fits := by
  unfold plainModule
  split
  · exact ⟨2, _, rfl, by decide, Spirv.sourceRecords_fit _ _ _⟩
  · exact ⟨1, [], rfl, by decide, List.forall_mem_nil _⟩

theorem plainModule_aligned (r : Request) : 5 ≤ (plainModule r).length ∧
    Spirv.Instruction.Aligned ((plainModule r).drop 5) := by
  obtain ⟨bound, is, assembled, _, fit⟩ := plainModule_spec r
  rw [assembled]
  exact ⟨by simp [Spirv.Module.assemble], Spirv.Instruction.aligned_encodeAll fit⟩

theorem scripted_words (clean : diagnostics.hasErrors = false)
    (compiled : ((scripted diagnostics none).attempt r).result = .ok m) : m.words = plainModule r := by
  obtain ⟨bytes, output, taken⟩ := attempt_ok.mp compiled
  obtain ⟨header, _, _, rfl⟩ := checkOutput_ok.mp taken
  cases (scripted_clean clean r).symm.trans output
  exact Spirv.wordsOfBytes_bytesOfWords (plainModule r)

theorem scripted_ok (clean : diagnostics.hasErrors = false)
    (supported : Spirv.isSupported r.target.spirvVersion = true) :
    ((scripted diagnostics none).attempt r).result =
      .ok ⟨r.stage, r.target.spirvVersion, Spirv.bytesOfWords (plainModule r)⟩ := by
  obtain ⟨bound, is, assembled, bounded, _⟩ := plainModule_spec r
  have read := Spirv.readHeader_assemble supported bounded is
  rw [← assembled] at read
  exact attempt_ok.mpr ⟨_, scripted_clean clean r, checkOutput_ok.mpr ⟨_, read, rfl, rfl⟩⟩

end ShaderConversion.Compiler
