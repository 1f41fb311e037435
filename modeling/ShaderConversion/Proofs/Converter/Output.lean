import ShaderConversion.Converter.Conversion

namespace ShaderConversion

theorem checkOutput_ok {r : Request} {bytes : List UInt8} {m : Spirv.Module} :
    (checkOutput r bytes).1 = .ok m ↔ ∃ header, Spirv.readHeader bytes = .ok header ∧
      header.version = r.target.spirvVersion ∧ m = ⟨r.stage, header.version, bytes⟩ := by
  unfold checkOutput takeModule
  cases Spirv.readHeader bytes with
  | error e => simp
  | ok header =>
    by_cases version : header.version = r.target.spirvVersion
    · simp [version, eq_comm]
    · simp [version]

theorem checkOutput_error {r : Request} {bytes : List UInt8} {error : ConversionError}
    (failed : (checkOutput r bytes).1 = .error error) : ∃ why, error = .malformedOutput why := by
  unfold checkOutput at failed
  split at failed
  · cases failed
    exact ⟨_, rfl⟩
  · split at failed
    · cases failed
      exact ⟨_, rfl⟩
    · cases failed

namespace Compiler

variable {compiler : Compiler} {r : Request} {m : Spirv.Module}

theorem attempt_requests (compiler : Compiler) (r : Request) :
    (compiler.attempt r).requests = [r] := by
  unfold attempt
  split <;> rfl

theorem attempt_ok : (compiler.attempt r).result = .ok m ↔
    ∃ bytes, compiler.compile r = .ok bytes ∧ (checkOutput r bytes).1 = .ok m := by
  unfold attempt
  cases compiler.compile r with
  | error diagnostics => simp
  | ok bytes => simp

theorem attempt_error {error : ConversionError} (failed : (compiler.attempt r).result = .error error) :
    (∃ diagnostics, error = .rejected diagnostics) ∨ ∃ why, error = .malformedOutput why := by
  unfold attempt at failed
  cases answered : compiler.compile r with
  | error diagnostics =>
    rw [answered] at failed
    cases failed
    exact .inl ⟨diagnostics, rfl⟩
  | ok bytes =>
    rw [answered] at failed
    exact .inr (checkOutput_error failed)

theorem compileGated_ok (compiled : (compiler.compileGated r).result = .ok m) :
    (compiler.compileGated r).requests = [r] ∧ (compiler.attempt r).result = .ok m := by
  unfold compileGated at compiled ⊢
  split at compiled
  · rename_i recent
    rw [if_pos recent]
    exact ⟨compiler.attempt_requests r, compiled⟩
  · rename_i old
    rw [if_neg old]
    cases left : leftDirective? r with
    | none =>
      rw [left] at compiled
      cases compiled
    | some directive =>
      rw [left] at compiled
      exact ⟨compiler.attempt_requests r, compiled⟩

end Compiler

theorem Converter.compileSource_ok {c : Converter} {live : Bool} {stage : Stage} {data : List UInt8}
    {fileName? : Option Path} {m : Spirv.Module}
    (compiled : (c.compileSource live stage data fileName?).answer = .ok m) :
    let r := (c.settings.resolve stage data fileName? .compile).request
    (c.compileSource live stage data fileName?).requests = [r] ∧
      (c.compiler.attempt r).result = .ok m := by
  cases live with
  | false => cases compiled
  | true => exact Compiler.compileGated_ok compiled

end ShaderConversion
