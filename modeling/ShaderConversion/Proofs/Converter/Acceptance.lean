import ShaderConversion.Proofs.Converter.Delivery
import ShaderConversion.Proofs.Journal
import ShaderConversion.Proofs.Text.Utf8Validity

namespace ShaderConversion

-- What speaks against a source, besides errors: warnings that count as such, and that it is
-- not UTF-8, which is a warning too.
theorem isAccepted_iff {warningsAsErrors : Bool} {data : List UInt8} {ds : Diagnostics} :
    isAccepted warningsAsErrors (repairWarning data ++ ds) = true ↔ ds.hasErrors = false ∧
      (warningsAsErrors = true → ds.hasWarnings = false ∧ ∃ s, data = Utf8.encode s) := by
  rw [← Utf8.fault_none]
  unfold repairWarning isAccepted
  cases Utf8.fault? data with
  | none => cases warningsAsErrors <;> simp
  | some fault =>
    cases warningsAsErrors <;>
      simp [Diagnostics.warning, Diagnostics.hasErrors, Diagnostics.hasWarnings]

namespace Converter

def report (c : Converter) (stage : Stage) (data : List UInt8) (fileName? : Option Path) : Report :=
  let ds := repairWarning data ++
    c.compiler.validate (c.settings.request stage data fileName? .validate)
  ⟨isAccepted c.settings.warningsAsErrors ds, ds.text⟩

theorem report_accepted {c : Converter} {stage : Stage} {data : List UInt8} {fileName? : Option Path} :
    (c.report stage data fileName?).accepted = true ↔
      let ds := c.compiler.validate (c.settings.request stage data fileName? .validate)
      ds.hasErrors = false ∧ (c.settings.warningsAsErrors = true →
        ds.hasWarnings = false ∧ ∃ text, data = Utf8.encode text) :=
  isAccepted_iff

variable {c : Converter} {read : Path → Except FileError (List UInt8)} {path : Path} (stage : Stage)

theorem validateFile_readable {data : List UInt8} (found : read path = .ok data) :
    c.validateFile ⟨true, read⟩ stage path = c.validateSource true stage data (some path) := by
  simp only [validateFile, found]

theorem validateFile_unreadable {error : FileError} (unread : read path = .error error) :
    c.validateFile ⟨true, read⟩ stage path =
      .refused c .unavailable [.unreadable path error] := by
  simp only [validateFile, unread]

section Unspecified

variable (format : c.settings.outputFormat = .unspecified)

include format

theorem validateSource_looked (data : List UInt8) (fileName? : Option Path) :
    (c.validateSource true stage data fileName?).answer = c.report stage data fileName? ∧
      (c.validateSource true stage data fileName?).requests =
        [c.settings.request stage data fileName? .validate] := by
  rw [validateSource, if_neg (by decide), if_neg (not_not_intro format)]
  exact ⟨rfl, rfl⟩

theorem validateFile_accepted : (c.validateFile ⟨true, read⟩ stage path).answer.accepted = true ↔
    ∃ data, read path = .ok data ∧
      let ds := c.compiler.validate (c.settings.request stage data (some path) .validate)
      ds.hasErrors = false ∧ (c.settings.warningsAsErrors = true →
        ds.hasWarnings = false ∧ ∃ text, data = Utf8.encode text) := by
  cases found : read path with
  | error error => simp [validateFile_unreadable stage found, Outcome.refused, Report.unavailable]
  | ok data =>
    simp only [validateFile_readable stage found, (validateSource_looked stage format _ _).1,
      report_accepted, Except.ok.injEq, exists_eq_left']

theorem validateFile_admitted : Admitted (c.validateFile ⟨true, read⟩ stage path).events := by
  cases found : read path with
  | error error =>
    rw [validateFile_unreadable stage found]
    exact throughout_cons.mpr ⟨rfl, throughout_nil⟩
  | ok data =>
    rw [validateFile_readable stage found, validateSource, if_neg (by decide),
      if_neg (not_not_intro format)]
    refine throughout_append.mpr ⟨(resolve_routine _ _ _ _ _).admitted, ?_⟩
    simp [Throughout, Event.isAdmitted]

end Unspecified

section Compile

theorem compileSource_passed {data : List UInt8}
    (compilable : Job.IsCompilable ⟨.compile, stage, data, some path⟩ c.settings) :
    (c.compileSource true stage data (some path)).answer =
      (c.compiler.attempt (c.settings.request stage data (some path) .compile)).result :=
  (compileGated_passed compilable c.compiler).2

theorem compileSource_refused {data : List UInt8}
    (old : ¬ Job.IsCompilable ⟨.compile, stage, data, some path⟩ c.settings) :
    (c.compileSource true stage data (some path)).answer =
      .error (.oldVersion (c.settings.request stage data (some path) .compile).version.version) :=
  (compileGated_refused old c.compiler).2

theorem compileFile_ok {m : Spirv.Module} :
    (c.compileFile ⟨true, read⟩ stage path).answer = .ok m ↔
      ∃ data, read path = .ok data ∧
        Job.IsCompilable ⟨.compile, stage, data, some path⟩ c.settings ∧
        (c.compiler.attempt (c.settings.request stage data (some path) .compile)).result = .ok m := by
  cases found : read path with
  | error error => simp [compileFile_unreadable c true stage found, Outcome.refused]
  | ok data =>
    simp only [compileFile_readable c true stage found, Except.ok.injEq, exists_eq_left']
    by_cases compilable : Job.IsCompilable ⟨.compile, stage, data, some path⟩ c.settings
    · rw [compileSource_passed stage compilable]
      exact (and_iff_right compilable).symm
    · rw [compileSource_refused stage compilable]
      exact ⟨nofun, fun compiled => absurd compiled.1 compilable⟩

theorem compileFile_live :
    (c.compileFile ⟨true, read⟩ stage path).answer ≠ .error .withoutCompiler := by
  cases found : read path with
  | error error =>
    rw [compileFile_unreadable c true stage found]
    exact nofun
  | ok data =>
    rw [compileFile_readable c true stage found]
    intro failed
    by_cases compilable : Job.IsCompilable ⟨.compile, stage, data, some path⟩ c.settings
    · rw [compileSource_passed stage compilable] at failed
      obtain ⟨_, other⟩ | ⟨_, other⟩ := Compiler.attempt_error failed <;> cases other
    · rw [compileSource_refused stage compilable] at failed
      cases failed

theorem compileFile_admitted : Admitted (c.compileFile ⟨true, read⟩ stage path).events := by
  cases found : read path with
  | error error =>
    rw [compileFile_unreadable c true stage found]
    exact throughout_nil
  | ok data =>
    have compiled := (compileGated_routine c.compiler
      (c.settings.resolve stage data (some path) .compile).request).admitted
    have ended : Admitted [.moved .compiling .done, .moved .done .ready] := by
      simp [Throughout, Event.isAdmitted]
    rw [compileFile_readable c true stage found, compileSource, if_neg (by decide)]
    exact throughout_append.mpr ⟨throughout_append.mpr ⟨(resolve_routine _ _ _ _ _).admitted,
      throughout_cons.mpr ⟨rfl, compiled⟩⟩, ended⟩

end Compile

end Converter

end ShaderConversion
