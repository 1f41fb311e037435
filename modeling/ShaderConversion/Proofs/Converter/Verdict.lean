import ShaderConversion.FileStore
import Mathlib.Data.List.Forall2
import ShaderConversion.Compiler.Scripted
import ShaderConversion.Proofs.Converter.Acceptance

namespace ShaderConversion

variable {F : Type} [FileAccess F]

def Trims (message line : String) : Prop :=
  (∀ c, line.toList.getLast? = some c → Text.isBlank c = false) ∧
    ∃ blanks, (∀ c ∈ blanks, Text.isBlank c = true) ∧ message.toList = line.toList ++ blanks

-- What is said about bytes before the compiler says anything: nothing if they are a text, and
-- where they stop being one if they are not.
def Warns (data : List UInt8) (messages : List String) : Prop :=
  (∃ text, data = Utf8.encode text) ∧ messages = [] ∨
    (¬ ∃ text, data = Utf8.encode text) ∧ ∃ fault : Utf8.Fault, fault.IsOf data ∧
      Utf8.fault? data = some fault ∧
      messages = ["warning: source is not valid UTF-8, invalid bytes were replaced: " ++ fault.message]

-- A text that gives all messages in their order, a line for each.
def Tells (data : List UInt8) (ds : Diagnostics) (text : String) : Prop :=
  ∃ warning lines, Warns data warning ∧
    List.Forall₂ Trims (warning ++ ds.map fun d => d.message) lines ∧ text = "\n".intercalate lines

theorem line_trims (d : Diagnostic) : Trims d.message (Diagnostics.line d) := by
  unfold Trims Diagnostics.line
  rw [String.toList_ofList]
  exact ⟨fun c => Text.trimEnd_plain, Text.trimEnd_append _⟩

theorem lines_trim (ds : Diagnostics) :
    List.Forall₂ Trims (ds.map fun d => d.message) (ds.map Diagnostics.line) := by
  rw [List.forall₂_map_left_iff, List.forall₂_map_right_iff, List.forall₂_same]
  exact fun d _ => line_trims d

theorem repairWarning_warns (data : List UInt8) :
    Warns data ((repairWarning data).map fun d => d.message) := by
  unfold repairWarning
  cases found : Utf8.fault? data with
  | none => exact .inl ⟨Utf8.fault_none.mp found, rfl⟩
  | some fault =>
    refine .inr ⟨fun valid => ?_, fault, Utf8.fault_some found, found, rfl⟩
    cases (Utf8.fault_none.mpr valid).symm.trans found

theorem text_tells (data : List UInt8) (ds : Diagnostics) :
    Tells data ds (Diagnostics.text (repairWarning data ++ ds)) := by
  refine ⟨_, _, repairWarning_warns data, ?_, rfl⟩
  rw [← List.map_append]
  exact lines_trim _

theorem hasErrors_iff {ds : Diagnostics} : ds.hasErrors = false ↔ ∀ d ∈ ds, d.severity ≠ .error := by
  simp [Diagnostics.hasErrors]

theorem hasWarnings_iff {ds : Diagnostics} : ds.hasWarnings = false ↔ ∀ d ∈ ds, d.severity ≠ .warning := by
  simp [Diagnostics.hasWarnings]

def Source.validate (stage : Stage) : Source → Call
  | data bytes => .validateData stage bytes
  | file path => .validateFile stage path

namespace Converter

def withPolicy (c : Converter) (strict : Bool) : Converter :=
  { c with settings := { c.settings with warningsAsErrors := strict } }

theorem perform_validate {c : Converter} (format : c.settings.outputFormat = .unspecified) (stage : Stage)
    {files : F} {source : Source} {data : List UInt8} (read : source.read files = .ok data) :
    (c.perform true files (source.validate stage)).1.answer =
      .validated (c.report stage data source.fileName?) := by
  have looked := (validateSource_looked stage format data source.fileName?).1
  cases source with
  | data bytes =>
    cases read
    exact congrArg Answer.validated looked
  | file path =>
    have found : FileAccess.read files path = .ok data := read
    have same := validateFile_readable (c := c) stage found
    exact congrArg Answer.validated ((congrArg Outcome.answer same).trans looked)

theorem report_strict {c : Converter} {stage : Stage} {data : List UInt8} {fileName? : Option Path}
    (accepted : ((c.withPolicy true).report stage data fileName?).accepted = true) :
    ((c.withPolicy false).report stage data fileName?).accepted = true :=
  report_accepted.mpr ⟨(report_accepted.mp accepted).1, nofun⟩

-- A validation that takes place answers by what is said about the source, and says all of it.
theorem verdict {c : Converter} (format : c.settings.outputFormat = .unspecified) (stage : Stage)
    {files : F} {source : Source} {data : List UInt8} (read : source.read files = .ok data) :
    let answer (c : Converter) := (c.perform true files (source.validate stage)).1.answer
    let ds := c.compiler.validate (c.settings.resolve stage data source.fileName? .validate).request
    ∃ report strict lenient, answer c = .validated report ∧
      answer (c.withPolicy true) = .validated strict ∧ answer (c.withPolicy false) = .validated lenient ∧
      (report.accepted = true ↔ (∀ d ∈ ds, d.severity ≠ .error) ∧ (c.settings.warningsAsErrors = true →
        (∀ d ∈ ds, d.severity ≠ .warning) ∧ ∃ text, data = Utf8.encode text)) ∧
      Tells data ds report.diagnostics ∧
      strict.diagnostics = report.diagnostics ∧ lenient.diagnostics = report.diagnostics ∧
      (strict.accepted = true → lenient.accepted = true) := by
  intro answer ds
  have answered (strict : Bool) : answer (c.withPolicy strict) = .validated _ :=
    perform_validate (c := c.withPolicy strict) format stage read
  refine ⟨_, _, _, perform_validate format stage read, answered true, answered false, ?_, text_tells data ds,
    rfl, rfl, report_strict⟩
  rw [← hasErrors_iff, ← hasWarnings_iff]
  exact report_accepted

theorem verdict_repaired :
    let c := (new (.scripted [⟨.warning, "unused \n"⟩] none)).withPolicy true
    let source := Source.data [0x2F, 0x2F, 0xE9, 0x0A]
    c.settings.outputFormat = .unspecified ∧ source.read FileStore.empty = .ok [0x2F, 0x2F, 0xE9, 0x0A] ∧
      ∃ report, (c.perform true FileStore.empty (source.validate .vertex)).1.answer = .validated report ∧
        report.accepted = false ∧ Tells [0x2F, 0x2F, 0xE9, 0x0A] [⟨.warning, "unused \n"⟩] report.diagnostics := by
  intro c source
  have format : c.settings.outputFormat = .unspecified := rfl
  have read : source.read FileStore.empty = .ok [0x2F, 0x2F, 0xE9, 0x0A] := rfl
  obtain ⟨report, _, _, answer, _, _, accepted, tells, _⟩ := verdict format .vertex read
  refine ⟨format, read, report, answer, ?_, tells⟩
  rw [← Bool.not_eq_true, accepted]
  intro clean
  exact (clean.2 rfl).1 _ List.mem_cons_self rfl

end Converter

end ShaderConversion
