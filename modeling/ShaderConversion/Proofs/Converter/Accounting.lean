import ShaderConversion.Proofs.Converter.Output
import ShaderConversion.Proofs.Converter.Resolution

namespace ShaderConversion

variable {F : Type} [FileAccess F]

structure Job where
  mode : Mode
  stage : Stage
  data : List UInt8
  fileName? : Option Path

namespace Job

def request (job : Job) (s : Settings) : Request :=
  (s.resolve job.stage job.data job.fileName? job.mode).request

-- A version that can be compiled, or a directive that only the compiler may understand.
def IsCompilable (job : Job) (s : Settings) : Prop :=
  140 ≤ (job.request s).version.version.number ∨
    s.inputVersion? = none ∧
      ∃ d, Glsl.Directive.find? (Utf8.decode job.data) = some d ∧ d.version? = none

def Passes (job : Job) (s : Settings) (live : Bool) : Prop :=
  live = true ∧
    match job.mode with
    | .validate => s.outputFormat = .unspecified
    | .compile => job.IsCompilable s

end Job

def Call.job? (files : F) : Call → Option Job
  | .validateData stage data => some ⟨.validate, stage, data, none⟩
  | .validateFile stage path => fromFile files .validate stage path
  | .compileData stage data => some ⟨.compile, stage, data, none⟩
  | .compileFile stage path => fromFile files .compile stage path
  | .convertDataToData stage data => some ⟨.compile, stage, data, none⟩
  | .convertFileToData stage path => fromFile files .compile stage path
  | .convertDataToFile stage data _ => some ⟨.compile, stage, data, none⟩
  | .convertFileToFile stage path _ => fromFile files .compile stage path
  | _ => none
where
  fromFile (files : F) (mode : Mode) (stage : Stage) (path : Path) : Option Job :=
    match FileAccess.read files path with
    | .error _ => none
    | .ok data => some ⟨mode, stage, data, some path⟩

def failure? {ε α : Type} : Except ε α → Option ε
  | .error e => some e
  | .ok _ => none

def Answer.conversionError? : Answer → Option ConversionError
  | .compiled result => failure? result
  | .converted result => failure? result
  | .written result => failure? result
  | _ => none

-- What a call with the job `job?` asks of the compiler, and when it says that a version
-- is too old: exactly one request of a job that passes, and none of any other call.
structure Accounts (job? : Option Job) (s : Settings) (live : Bool) (requests : List Request)
    (error? : Option ConversionError) : Prop where
  passed : ∀ job, job? = some job → job.Passes s live →
    requests = [job.request s] ∧ (job.request s).mode = job.mode
  refused : (∀ job, job? = some job → ¬ job.Passes s live) → requests = []
  tooOld : ∀ v, error? = some (.oldVersion v) ↔ ∃ job, job? = some job ∧ job.mode = .compile ∧
    live = true ∧ ¬ job.IsCompilable s ∧ v = (job.request s).version.version

theorem leftDirective_iff {s : Settings} {stage : Stage} {data : List UInt8}
    {fileName? : Option Path} {mode : Mode} {d : Glsl.Directive} :
    leftDirective? (s.request stage data fileName? mode) = some d ↔
      s.inputVersion? = none ∧ Glsl.Directive.find? (Utf8.decode data) = some d ∧
        d.version? = none := by
  unfold leftDirective?
  cases forced : s.inputVersion? with
  | some v =>
    obtain ⟨version, _⟩ := s.request_forced stage data fileName? mode forced
    simp [version]
  | none =>
    cases declared : Glsl.declared? (Utf8.decode data) with
    | some v =>
      obtain ⟨version, _⟩ := s.request_declared stage fileName? mode forced declared
      obtain ⟨d', scan, declares⟩ := Option.bind_eq_some_iff.mp declared
      simp only [version, scan]
      constructor
      · intro left
        cases left
      · rintro ⟨_, same, unknown⟩
        cases same
        cases declares.symm.trans unknown
    | none =>
      obtain ⟨version, source⟩ := s.request_default stage fileName? mode forced declared
      rw [version, source]
      constructor
      · intro left
        exact ⟨rfl, left, Option.bind_eq_none_iff.mp declared d left⟩
      · exact fun left => left.2.1

theorem attempt_not_old (compiler : Compiler) (r : Request) (v : Glsl.Version) :
    (compiler.attempt r).result ≠ .error (.oldVersion v) := by
  intro old
  obtain ⟨_, other⟩ | ⟨_, other⟩ := Compiler.attempt_error old <;> cases other

theorem compilable_iff {job : Job} {s : Settings} :
    job.IsCompilable s ↔ (job.request s).version.version.isCompilable = true ∨
      ∃ d, leftDirective? (job.request s) = some d := by
  have left : (∃ d, leftDirective? (job.request s) = some d) ↔ s.inputVersion? = none ∧
      ∃ d, Glsl.Directive.find? (Utf8.decode job.data) = some d ∧ d.version? = none := by
    rw [← exists_and_left]
    exact exists_congr fun d => leftDirective_iff
  rw [left]
  exact or_congr_left decide_eq_true_iff.symm

theorem compileGated_passed {job : Job} {s : Settings} (passed : job.IsCompilable s)
    (compiler : Compiler) :
    (compiler.compileGated (job.request s)).requests = [job.request s] ∧
      (compiler.compileGated (job.request s)).result = (compiler.attempt (job.request s)).result := by
  unfold Compiler.compileGated
  split
  · exact ⟨compiler.attempt_requests _, rfl⟩
  · rename_i old
    split
    · rename_i none
      rcases compilable_iff.mp passed with recent | ⟨d, left⟩
      · exact absurd recent old
      · cases none.symm.trans left
    · exact ⟨compiler.attempt_requests _, rfl⟩

theorem compileGated_refused {job : Job} {s : Settings} (refused : ¬ job.IsCompilable s)
    (compiler : Compiler) :
    (compiler.compileGated (job.request s)).requests = [] ∧
      (compiler.compileGated (job.request s)).result =
        .error (.oldVersion (job.request s).version.version) := by
  unfold Compiler.compileGated
  split
  · rename_i recent
    exact absurd (compilable_iff.mpr (.inl recent)) refused
  · split
    · exact ⟨rfl, rfl⟩
    · rename_i d left
      exact absurd (compilable_iff.mpr (.inr ⟨d, left⟩)) refused

theorem accounts_none (s : Settings) (live : Bool) {error? : Option ConversionError}
    (other : ∀ v, error? ≠ some (.oldVersion v)) : Accounts none s live [] error? := by
  refine ⟨nofun, fun _ => rfl, fun v => ⟨fun old => absurd old (other v), ?_⟩⟩
  rintro ⟨job, none, _⟩
  cases none

theorem accounts_asked {job : Job} {s : Settings} {live : Bool} (passes : job.Passes s live)
    {error? : Option ConversionError} (other : ∀ v, error? ≠ some (.oldVersion v)) :
    Accounts (some job) s live [job.request s] error? := by
  refine ⟨?_, fun refused => absurd passes (refused job rfl), fun v => ⟨?_, ?_⟩⟩
  · rintro _ ⟨⟩ _
    exact ⟨rfl, rfl⟩
  · intro old
    exact absurd old (other v)
  · rintro ⟨_, ⟨⟩, mode, _, old, _⟩
    obtain ⟨_, compilable⟩ := passes
    rw [mode] at compilable
    exact absurd compilable old

theorem accounts_refused {job : Job} {s : Settings} {live : Bool} (refused : ¬ job.Passes s live)
    {error? : Option ConversionError}
    (tooOld : ∀ v, error? = some (.oldVersion v) ↔ job.mode = .compile ∧ live = true ∧
      ¬ job.IsCompilable s ∧ v = (job.request s).version.version) :
    Accounts (some job) s live [] error? := by
  refine ⟨?_, fun _ => rfl, fun v => ⟨fun old => ⟨job, rfl, (tooOld v).mp old⟩, ?_⟩⟩
  · rintro _ ⟨⟩ passes
    exact absurd passes refused
  · rintro ⟨_, ⟨⟩, why⟩
    exact (tooOld v).mpr why

theorem Accounts.congr {job? : Option Job} {s : Settings} {live : Bool} {requests : List Request}
    {error? other? : Option ConversionError} (accounts : Accounts job? s live requests error?)
    (same : ∀ v, other? = some (.oldVersion v) ↔ error? = some (.oldVersion v)) :
    Accounts job? s live requests other? :=
  ⟨accounts.passed, accounts.refused, fun v => (same v).trans (accounts.tooOld v)⟩

namespace Converter

theorem validateSource_accounts (c : Converter) (live : Bool) (stage : Stage) (data : List UInt8)
    (fileName? : Option Path) :
    Accounts (some ⟨.validate, stage, data, fileName?⟩) c.settings live
      (c.validateSource live stage data fileName?).requests none := by
  have never : ∀ (why : Prop) (v : Glsl.Version),
      none = some (ConversionError.oldVersion v) ↔ Mode.validate = .compile ∧ why := by
    intro why v
    constructor
    · exact nofun
    · rintro ⟨mode, _⟩
      cases mode
  unfold validateSource
  cases live with
  | false => exact accounts_refused (fun passes => Bool.false_ne_true passes.1) fun v => never _ v
  | true =>
    by_cases unspecified : c.settings.outputFormat = .unspecified
    · rw [if_neg (by decide), if_neg (fun other => other unspecified)]
      exact accounts_asked ⟨rfl, unspecified⟩ nofun
    · rw [if_neg (by decide), if_pos unspecified]
      exact accounts_refused (fun passes => unspecified passes.2) fun v => never _ v

theorem failure_ne {α : Type} {result : Except ConversionError α} {e : ConversionError}
    (other : result ≠ .error e) : failure? result ≠ some e := by
  intro same
  cases result with
  | error e' =>
    cases same
    exact other rfl
  | ok a => cases same

theorem compileSource_accounts (c : Converter) (live : Bool) (stage : Stage) (data : List UInt8)
    (fileName? : Option Path) :
    Accounts (some ⟨.compile, stage, data, fileName?⟩) c.settings live
      (c.compileSource live stage data fileName?).requests
      (failure? (c.compileSource live stage data fileName?).answer) := by
  let job : Job := ⟨.compile, stage, data, fileName?⟩
  cases live with
  | false =>
    refine accounts_refused (fun passes => Bool.false_ne_true passes.1) fun v => ⟨?_, ?_⟩
    · intro old
      cases old
    · rintro ⟨_, running, _⟩
      cases running
  | true =>
    have requests : (c.compileSource true stage data fileName?).requests =
        (c.compiler.compileGated (job.request c.settings)).requests := rfl
    have answer : (c.compileSource true stage data fileName?).answer =
        (c.compiler.compileGated (job.request c.settings)).result := rfl
    rw [requests, answer]
    by_cases compilable : job.IsCompilable c.settings
    · obtain ⟨asked, attempted⟩ := compileGated_passed compilable c.compiler
      rw [asked, attempted]
      exact accounts_asked ⟨rfl, compilable⟩ fun v => failure_ne (attempt_not_old c.compiler _ v)
    · obtain ⟨asked, old⟩ := compileGated_refused compilable c.compiler
      rw [asked, old]
      refine accounts_refused (fun passes => compilable passes.2) fun v => ⟨?_, ?_⟩
      · rintro ⟨⟩
        exact ⟨rfl, rfl, compilable, rfl⟩
      · rintro ⟨_, _, _, rfl⟩
        rfl

theorem validateFile_accounts (c : Converter) (live : Bool) (files : F) (stage : Stage)
    (path : Path) :
    Accounts (Call.job?.fromFile files .validate stage path) c.settings live
      (c.validateFile ⟨live, FileAccess.read files⟩ stage path).requests none := by
  unfold validateFile Call.job?.fromFile
  dsimp only
  cases FileAccess.read files path with
  | error e => exact accounts_none c.settings live nofun
  | ok data => exact validateSource_accounts c live stage data (some path)

theorem compileFile_accounts (c : Converter) (live : Bool) (files : F) (stage : Stage)
    (path : Path) :
    Accounts (Call.job?.fromFile files .compile stage path) c.settings live
      (c.compileFile ⟨live, FileAccess.read files⟩ stage path).requests
      (failure? (c.compileFile ⟨live, FileAccess.read files⟩ stage path).answer) := by
  unfold compileFile Call.job?.fromFile
  dsimp only
  cases FileAccess.read files path with
  | error e => exact accounts_none c.settings live nofun
  | ok data => exact compileSource_accounts c live stage data (some path)

theorem configure_requests (c : Converter) (change : Settings → Except SetupError Settings)
    (noticed : List Event) : (c.configure change noticed).requests = [] := by
  unfold configure
  split <;> rfl

theorem configure_accounts (c : Converter) (live : Bool)
    (change : Settings → Except SetupError Settings) (noticed : List Event) :
    Accounts none c.settings live (c.configure change noticed).requests none := by
  rw [configure_requests]
  exact accounts_none c.settings live nofun

theorem failure_map {α β : Type} (f : α → β) (result : Except ConversionError α) :
    failure? (result.map f) = failure? result := by
  cases result <;> rfl

theorem bytes_accounts {job? : Option Job} {s : Settings} {live : Bool} {requests : List Request}
    {result : Except ConversionError Spirv.Module}
    (accounts : Accounts job? s live requests (failure? result)) :
    Accounts job? s live requests (failure? (result.map fun m => m.bytes)) := by
  rw [failure_map]
  exact accounts

theorem writeModule_requests (files : F) (destination : Path)
    (o : Outcome (Except ConversionError Spirv.Module)) :
    (writeModule files destination o).1.requests = o.requests := by
  unfold writeModule
  split
  · rfl
  · split <;> rfl

theorem writeModule_old (files : F) (destination : Path)
    (o : Outcome (Except ConversionError Spirv.Module)) (v : Glsl.Version) :
    failure? (writeModule files destination o).1.answer = some (.oldVersion v) ↔
      failure? o.answer = some (.oldVersion v) := by
  unfold writeModule
  split
  · rename_i e failed
    rw [failed]
    rfl
  · rename_i m compiled
    rw [compiled]
    split <;> simp [Outcome.map, failure?]

theorem writeModule_accounts {job? : Option Job} {s : Settings} {live : Bool} {files : F}
    {destination : Path} {o : Outcome (Except ConversionError Spirv.Module)}
    (accounts : Accounts job? s live o.requests (failure? o.answer)) :
    Accounts job? s live (writeModule files destination o).1.requests
      (failure? (writeModule files destination o).1.answer) := by
  rw [writeModule_requests]
  exact accounts.congr (writeModule_old files destination o)

theorem perform_accounts (c : Converter) (live : Bool) (files : F) (call : Call) :
    Accounts (call.job? files) c.settings live (c.perform live files call).1.requests
      (c.perform live files call).1.answer.conversionError? := by
  cases call with
  | setInputFormat format version => exact configure_accounts c live _ _
  | setOutputFormat format target => exact configure_accounts c live _ _
  | setDefinitions pairs => exact configure_accounts c live _ _
  | setDebugLevel level => exact configure_accounts c live _ _
  | validateData stage data => exact validateSource_accounts c live stage data none
  | validateFile stage path => exact validateFile_accounts c live files stage path
  | compileData stage data => exact compileSource_accounts c live stage data none
  | compileFile stage path => exact compileFile_accounts c live files stage path
  | convertDataToData stage data =>
    exact bytes_accounts (compileSource_accounts c live stage data none)
  | convertFileToData stage path =>
    exact bytes_accounts (compileFile_accounts c live files stage path)
  | convertDataToFile stage data destination =>
    exact writeModule_accounts (compileSource_accounts c live stage data none)
  | convertFileToFile stage path destination =>
    exact writeModule_accounts (compileFile_accounts c live files stage path)

theorem Course.step_requests (course : Course F) (live : Bool) (call : Call) :
    (course.step live call).requests =
      course.requests ++ (course.converter.perform live course.files call).1.requests := rfl

theorem Course.run_requests (course : Course F) (calls : List (Bool × Call)) :
    course.requests <+: (course.run calls).requests := by
  induction calls generalizing course with
  | nil => exact List.prefix_refl _
  | cons call calls step =>
    have first : course.requests <+: (course.step call.1 call.2).requests := by
      rw [step_requests]
      exact List.prefix_append _ _
    exact first.trans (step (course.step call.1 call.2))

-- After any calls, the requests there were are a front of those there are, and the next
-- call adds what its job accounts for.
theorem Course.accounting (start : Course F) (calls : List (Bool × Call)) (live : Bool) (call : Call) :
    let before := start.run calls
    start.requests <+: before.requests ∧
      ∃ requests, (before.step live call).requests = before.requests ++ requests ∧
        Accounts (call.job? before.files) before.converter.settings live requests
          (before.converter.perform live before.files call).1.answer.conversionError? := by
  intro before
  refine ⟨run_requests start calls, _, step_requests before live call, ?_⟩
  exact perform_accounts before.converter live before.files call

end Converter

end ShaderConversion
