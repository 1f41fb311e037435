import ShaderConversion.Compiler.Scripted
import ShaderConversion.Compiler.Toolchain
import ShaderConversion.Proofs.Converter.Acceptance

namespace ShaderConversion

namespace Compiler

-- A compiler that finds no error in what it compiles when it is only asked to validate it.
def IsCoherent (compiler : Compiler) : Prop :=
  ∀ (r : Request) (bytes : List UInt8), compiler.compile { r with mode := .compile } = .ok bytes →
    (compiler.validate { r with mode := .validate }).hasErrors = false

inductive IsProvided : Compiler → Prop where
  | scripted (diagnostics : Diagnostics) (output? : Option (List UInt8)) :
      IsProvided (.scripted diagnostics output?)
  | toolchain (tools : Toolchain) : IsProvided (.ofToolchain tools)

theorem scripted_coherent (diagnostics : Diagnostics) (output? : Option (List UInt8)) :
    (scripted diagnostics output?).IsCoherent := by
  intro r bytes compiled
  unfold scripted at compiled
  dsimp only at compiled
  split at compiled
  · cases compiled
  · rename_i clean
    exact eq_false_of_ne_true clean

theorem ofToolchain_coherent (tools : Toolchain) : (ofToolchain tools).IsCoherent := by
  intro r bytes compiled
  obtain ⟨program, read, _⟩ := bind_ok.mp compiled
  have read : tools.read { r with mode := .validate } = .ok program := read
  simp only [ofToolchain, read]
  rfl

theorem IsProvided.coherent {compiler : Compiler} (provided : compiler.IsProvided) :
    compiler.IsCoherent := by
  cases provided with
  | scripted diagnostics output? => exact scripted_coherent diagnostics output?
  | toolchain tools => exact ofToolchain_coherent tools

end Compiler

namespace Converter

variable {c : Converter} {live : Bool} {stage : Stage} {data : List UInt8} {fileName? : Option Path}

theorem validate_of_compiled (coherent : c.compiler.IsCoherent) {m : Spirv.Module}
    (compiled : (c.compileSource live stage data fileName?).answer = .ok m) :
    (c.compiler.validate (c.settings.request stage data fileName? .validate)).hasErrors = false := by
  obtain ⟨_, attempted⟩ := compileSource_ok compiled
  obtain ⟨bytes, output, _⟩ := Compiler.attempt_ok.mp attempted
  exact coherent (c.settings.request stage data fileName? .validate) bytes output

-- What compiles is valid, and what the compiler finds an error in does not compile, if warnings do
-- not count.
theorem compilation_validates (c : Converter) (provided : c.compiler.IsProvided)
    (format : c.settings.outputFormat = .unspecified) (lenient : c.settings.warningsAsErrors = false)
    (read : Path → Except FileError (List UInt8)) (stage : Stage) (data : List UInt8) :
    let w : World := ⟨true, read⟩
    let compiled := (c.compileData w stage data).answer
    let validated := c.validateData w stage data
    let r := (c.settings.resolve stage data none .validate).request
    ((∃ m, compiled = .ok m) → validated.answer.accepted = true) ∧
      validated.requests = [r] ∧
      (validated.answer.accepted = false ↔ (c.compiler.validate r).hasErrors = true) ∧
      ((c.compiler.validate r).hasErrors = true → ∃ error, compiled = .error error) := by
  intro w compiled validated r
  obtain ⟨looked, requests⟩ := validateSource_looked stage format data none
  have accepted : validated.answer.accepted = true ↔ (c.compiler.validate r).hasErrors = false := by
    have answer : validated.answer = c.report stage data none := looked
    rw [answer, report_accepted, lenient]
    exact and_iff_left nofun
  have valid : (∃ m, compiled = .ok m) → (c.compiler.validate r).hasErrors = false := by
    rintro ⟨m, delivered⟩
    exact validate_of_compiled provided.coherent delivered
  refine ⟨fun delivered => accepted.mpr (valid delivered), requests, ?_, fun faulty => ?_⟩
  · rw [← Bool.not_eq_true, accepted, Bool.not_eq_false]
  · cases answered : compiled with
    | ok m => exact absurd (valid ⟨m, answered⟩) (ne_false_of_eq_true faulty)
    | error error => exact ⟨error, rfl⟩

theorem compilation_validates_forced :
    let c : Converter :=
      ⟨.ofToolchain .reduced, { Settings.default with inputVersion? := some ⟨450, .core⟩ }, .idle⟩
    let w : World := ⟨true, fun _ => .error .notFound⟩
    let data := Utf8.encode "void main() {}".toList
    (c.validateData w .fragment data).answer.accepted = true ∧
      (c.validateData w .geometry data).answer.accepted = false ∧
      ∃ error, (c.compileData w .geometry data).answer = .error error := by
  intro c w data
  have compiles : (c.compileData w .fragment data).answer.isOk = true := by decide +kernel
  have delivered : ∃ m, (c.compileData w .fragment data).answer = .ok m := by
    cases answered : (c.compileData w .fragment data).answer with
    | ok m => exact ⟨m, rfl⟩
    | error error =>
      rw [answered] at compiles
      cases compiles
  have faulty : (c.compiler.validate (c.settings.resolve .geometry data none .validate).request).hasErrors =
      true := by decide +kernel
  obtain ⟨accepted, _⟩ := compilation_validates c (.toolchain _) rfl rfl _ .fragment data
  obtain ⟨_, _, refused, fails⟩ := compilation_validates c (.toolchain _) rfl rfl _ .geometry data
  exact ⟨accepted delivered, refused.mpr faulty, fails faulty⟩

end Converter

end ShaderConversion
