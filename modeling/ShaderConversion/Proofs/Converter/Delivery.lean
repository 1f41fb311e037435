import ShaderConversion.FileStore
import ShaderConversion.Proofs.Converter.Accounting
import ShaderConversion.Proofs.Spirv.Header

namespace ShaderConversion

variable {F : Type} [FileAccess F]

def Request.Accepts (r : Request) (bytes : List UInt8) : Prop :=
  ∃ header, Spirv.readHeader bytes = .ok header ∧ header.version = r.target.spirvVersion

-- What compiling a request comes to when the compiler has `answered`: the module that its
-- bytes are, what it said against the source, or that its bytes are no such module.
structure Delivers (r : Request) (answered : Except Diagnostics (List UInt8))
    (result : Except ConversionError Spirv.Module) : Prop where
  delivered : (∃ m, result = .ok m) ↔ ∃ bytes, answered = .ok bytes ∧ r.Accepts bytes
  intact : ∀ m, result = .ok m → answered = .ok m.bytes ∧ Spirv.bytesOfWords m.words = m.bytes ∧
    m.stage = r.stage ∧ m.version = r.target.spirvVersion
  rejected : ∀ diagnostics, result = .error (.rejected diagnostics) ↔ answered = .error diagnostics
  shown : ∀ text, (failure? result).bind ConversionError.diagnostics? = some text ↔
    ∃ diagnostics : Diagnostics, answered = .error diagnostics ∧ text = diagnostics.text
  malformed : (∃ why, result = .error (.malformedOutput why)) ↔
    ∃ bytes, answered = .ok bytes ∧ ¬ r.Accepts bytes

inductive Source where
  | data (bytes : List UInt8)
  | file (path : Path)

namespace Source

def read (files : F) : Source → Except FileError (List UInt8)
  | data bytes => .ok bytes
  | file path => FileAccess.read files path

def fileName? : Source → Option Path
  | data _ => none
  | file path => some path

def compile (stage : Stage) : Source → Call
  | data bytes => .compileData stage bytes
  | file path => .compileFile stage path

def convert (stage : Stage) : Source → Call
  | data bytes => .convertDataToData stage bytes
  | file path => .convertFileToData stage path

def write (stage : Stage) (destination : Path) : Source → Call
  | data bytes => .convertDataToFile stage bytes destination
  | file path => .convertFileToFile stage path destination

end Source

theorem checkOutput_accepted {r : Request} {bytes : List UInt8} :
    (∃ m, (checkOutput r bytes).1 = .ok m) ↔ r.Accepts bytes := by
  constructor
  · rintro ⟨m, taken⟩
    obtain ⟨header, read, version, _⟩ := checkOutput_ok.mp taken
    exact ⟨header, read, version⟩
  · rintro ⟨header, read, version⟩
    exact ⟨_, checkOutput_ok.mpr ⟨header, read, version, rfl⟩⟩

theorem delivers_rejected (r : Request) (diagnostics : Diagnostics) :
    Delivers r (.error diagnostics) (.error (.rejected diagnostics)) := by
  refine ⟨by simp, nofun, fun other => ?_, fun text => ?_, by simp⟩
  · simp
  · simp [failure?, ConversionError.diagnostics?, eq_comm]

theorem delivers_output (r : Request) (bytes : List UInt8) :
    Delivers r (.ok bytes) (checkOutput r bytes).1 := by
  have accepted : (∃ m, (checkOutput r bytes).1 = .ok m) ↔ r.Accepts bytes := checkOutput_accepted
  cases output : (checkOutput r bytes).1 with
  | ok m =>
    have accepts := accepted.mp ⟨m, output⟩
    obtain ⟨header, read, version, rfl⟩ := checkOutput_ok.mp output
    refine ⟨by simp [accepts], ?_, by simp, by simp [failure?], by simp [accepts]⟩
    rintro _ ⟨⟩
    exact ⟨rfl, Spirv.bytesOfWords_wordsOfBytes (Spirv.readHeader_whole read).2, rfl, version⟩
  | error error =>
    obtain ⟨why, rfl⟩ := checkOutput_error output
    have refuses : ¬ r.Accepts bytes := by
      intro accepts
      obtain ⟨m, taken⟩ := accepted.mpr accepts
      cases output.symm.trans taken
    refine ⟨by simp [refuses], ?_, by simp, by simp [failure?, ConversionError.diagnostics?],
      by simp [refuses]⟩
    rintro _ ⟨⟩

theorem Compiler.attempt_delivers (compiler : Compiler) (r : Request) :
    Delivers r (compiler.compile r) (compiler.attempt r).result := by
  unfold Compiler.attempt
  cases compiler.compile r with
  | error diagnostics => exact delivers_rejected r diagnostics
  | ok bytes => exact delivers_output r bytes

namespace Converter

variable (c : Converter) (live : Bool) (files : F) (stage : Stage) (source : Source)

def compilation : Outcome (Except ConversionError Spirv.Module) :=
  match source with
  | .data bytes => c.compileData ⟨live, FileAccess.read files⟩ stage bytes
  | .file path => c.compileFile ⟨live, FileAccess.read files⟩ stage path

theorem perform_compile : c.perform live files (source.compile stage) =
    ((c.compilation live files stage source).map .compiled, files) := by
  cases source <;> rfl

theorem perform_convert : c.perform live files (source.convert stage) =
    (((c.compilation live files stage source).map fun result => result.map fun m => m.bytes).map
      .converted, files) := by
  cases source <;> rfl

theorem perform_write (destination : Path) :
    c.perform live files (source.write stage destination) =
      let (o, files') := writeModule files destination (c.compilation live files stage source)
      (o.map .written, files') := by
  cases source <;> rfl

section Read

variable {read : Path → Except FileError (List UInt8)} {path : Path}

theorem compileFile_readable {data : List UInt8} (found : read path = .ok data) :
    c.compileFile ⟨live, read⟩ stage path = c.compileSource live stage data (some path) := by
  simp only [compileFile, found]

theorem compileFile_unreadable {error : FileError} (unread : read path = .error error) :
    c.compileFile ⟨live, read⟩ stage path = .refused c (.error (.inaccessible path error)) [] := by
  simp only [compileFile, unread]

end Read

variable {files source}

theorem compilation_readable {data : List UInt8} (read : source.read files = .ok data) :
    c.compilation live files stage source = c.compileSource live stage data source.fileName? := by
  cases source with
  | data bytes =>
    cases read
    rfl
  | file path => exact compileFile_readable c live stage read

theorem compilation_unreadable {path : Path} {error : FileError}
    (unread : FileAccess.read files path = .error error) : c.compilation live files stage (.file path) =
      .refused c (.error (.inaccessible path error)) [] :=
  compileFile_unreadable c live stage unread

variable {c live stage}

theorem compileSource_asked {data : List UInt8} {fileName? : Option Path} {r : Request}
    (asked : (c.compileSource live stage data fileName?).requests = [r]) :
    (c.compileSource live stage data fileName?).answer = (c.compiler.attempt r).result := by
  let job : Job := ⟨.compile, stage, data, fileName?⟩
  cases live with
  | false => cases asked
  | true =>
    have gated : (c.compiler.compileGated (job.request c.settings)).requests = [r] := asked
    by_cases compilable : job.IsCompilable c.settings
    · obtain ⟨requests, result⟩ := compileGated_passed compilable c.compiler
      cases requests.symm.trans gated
      exact result
    · obtain ⟨requests, _⟩ := compileGated_refused compilable c.compiler
      cases requests.symm.trans gated

theorem compilation_asked {r : Request}
    (asked : (c.compilation live files stage source).requests = [r]) :
    (c.compilation live files stage source).answer = (c.compiler.attempt r).result := by
  cases read : source.read files with
  | ok data =>
    rw [compilation_readable c live stage read] at asked ⊢
    exact compileSource_asked asked
  | error error =>
    cases source with
    | data bytes => cases read
    | file path =>
      rw [compilation_unreadable c live stage read] at asked
      cases asked

-- A source that the compiler was asked about comes to what the compiler answered, and its
-- bytes are handed out as they are.
theorem compile_delivers {r : Request}
    (asked : (c.perform live files (source.compile stage)).1.requests = [r]) :
    ∃ result, (c.perform live files (source.compile stage)).1.answer = .compiled result ∧
      (c.perform live files (source.convert stage)).1.answer =
        .converted (result.map fun m => m.bytes) ∧
      Delivers r (c.compiler.compile r) result := by
  rw [perform_compile] at asked
  rw [perform_compile, perform_convert]
  refine ⟨_, rfl, rfl, ?_⟩
  rw [compilation_asked asked]
  exact c.compiler.attempt_delivers r

theorem compile_delivers_other :
    let output (version : Revision) := Spirv.bytesOfWords (Spirv.Module.assemble version 1 [])
    let c (version : Revision) :=
      ((new (.scripted [] (some (output version)))).perform true FileStore.empty
        (.setInputFormat .glsl "450 core".toList)).1.converter
    let source := Source.data [0xFF]
    let requests (version : Revision) :=
      ((c version).perform true FileStore.empty (source.compile .vertex)).1.requests
    let converted (version : Revision) :=
      ((c version).perform true FileStore.empty (source.convert .vertex)).1.answer
    (∃ r, requests ⟨1, 0⟩ = [r] ∧ converted ⟨1, 0⟩ = .converted (.ok (output ⟨1, 0⟩))) ∧
      ∃ r why, requests ⟨1, 3⟩ = [r] ∧ converted ⟨1, 3⟩ = .converted (.error (.malformedOutput why)) := by
  intro output c source requests converted
  let job : Job := ⟨.compile, .vertex, [0xFF], none⟩
  have asked (version : Revision) : requests version = [job.request (c version).settings] := by
    have forced := (Settings.request_forced .vertex [0xFF] none .compile
      (s := (c version).settings) (v := ⟨450, .core⟩) rfl).1
    have recent : 140 ≤ (⟨450, .core⟩ : Glsl.Version).number := by decide
    have compilable : job.IsCompilable (c version).settings :=
      .inl (congrArg (·.version.number) forced ▸ recent)
    exact (compileGated_passed compilable (c version).compiler).1
  constructor
  · obtain ⟨result, _, answer, delivers⟩ := compile_delivers (asked ⟨1, 0⟩)
    have header : Spirv.readHeader (output ⟨1, 0⟩) = .ok _ :=
      Spirv.readHeader_assemble (by decide) (by decide) []
    obtain ⟨m, rfl⟩ := delivers.delivered.mpr ⟨output ⟨1, 0⟩, rfl, _, header, rfl⟩
    have same : output ⟨1, 0⟩ = m.bytes := Except.ok.inj (delivers.intact m rfl).1
    rw [same]
    exact ⟨_, asked ⟨1, 0⟩, answer⟩
  · obtain ⟨result, _, answer, delivers⟩ := compile_delivers (asked ⟨1, 3⟩)
    have refuses : ¬ (job.request (c ⟨1, 3⟩).settings).Accepts (output ⟨1, 3⟩) := by
      rintro ⟨header, read, same⟩
      cases (Spirv.readHeader_assemble (by decide) (by decide) []).symm.trans read
      cases same
    obtain ⟨why, rfl⟩ := delivers.malformed.mpr ⟨output ⟨1, 3⟩, rfl, refuses⟩
    exact ⟨_, why, asked ⟨1, 3⟩, answer⟩

end Converter

end ShaderConversion
