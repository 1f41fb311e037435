import ShaderConversion.Proofs.Converter.DebugSource
import ShaderConversion.Proofs.Converter.Delivery
import ShaderConversion.Proofs.FileStore

namespace ShaderConversion

variable {F : Type} [FileAccess F]

abbrev Effect (F : Type) := Outcome Answer × F

-- Three calls that compile one source in the same way: to a module, to its bytes, and into
-- a file. The last one can still fail when all that is left is to write the bytes.
structure Agree (files : F) (destination : Path) (toModule toBytes toFile : Effect F)
    (result : Except ConversionError Spirv.Module) : Prop where
  compiled : toModule.1.answer = .compiled result ∧ toModule.2 = files
  converted : toBytes.1.answer = .converted (result.map fun m => m.bytes) ∧ toBytes.2 = files
  requests : toBytes.1.requests = toModule.1.requests ∧ toFile.1.requests = toModule.1.requests
  converter : toBytes.1.converter = toModule.1.converter ∧
    toFile.1.converter = toModule.1.converter
  failed : ∀ error, result = .error error →
    toFile.1.answer = .written (.error error) ∧ toFile.2 = files
  unwritable : ∀ m error, result = .ok m → FileAccess.write files destination m.bytes = .error error →
    toFile.1.answer = .written (.error (.inaccessible destination error)) ∧ toFile.2 = files
  written : ∀ m files', result = .ok m → FileAccess.write files destination m.bytes = .ok files' →
    toFile.1.answer = .written (.ok ()) ∧ toFile.2 = files'

structure Effect.IsNone (effect : Effect F) (c : Converter) (files : F) : Prop where
  converter : effect.1.converter = c
  requests : effect.1.requests = []
  files : effect.2 = files

namespace Converter

section Write

variable (files : F) (destination : Path) {o : Outcome (Except ConversionError Spirv.Module)}

theorem writeModule_error {error : ConversionError} (failed : o.answer = .error error) :
    (writeModule files destination o).1.answer = .error error ∧
      (writeModule files destination o).2 = files := by
  unfold writeModule
  rw [failed]
  exact ⟨rfl, rfl⟩

variable {m : Spirv.Module} (compiled : o.answer = .ok m) {files destination}

include compiled

theorem writeModule_unwritable {error : FileError}
    (unwritable : FileAccess.write files destination m.bytes = .error error) :
    (writeModule files destination o).1.answer = .error (.inaccessible destination error) ∧
      (writeModule files destination o).2 = files := by
  unfold writeModule
  rw [compiled]
  dsimp only
  rw [unwritable]
  exact ⟨rfl, rfl⟩

theorem writeModule_written {files' : F}
    (written : FileAccess.write files destination m.bytes = .ok files') :
    (writeModule files destination o).1.answer = .ok () ∧
      (writeModule files destination o).2 = files' := by
  unfold writeModule
  rw [compiled]
  dsimp only
  rw [written]
  exact ⟨rfl, rfl⟩

end Write

variable (c : Converter) (live : Bool) (files : F) (stage : Stage) (source : Source)

theorem perform_agree (destination : Path) :
    Agree files destination (c.perform live files (source.compile stage))
      (c.perform live files (source.convert stage))
      (c.perform live files (source.write stage destination))
      (c.compilation live files stage source).answer := by
  rw [perform_compile, perform_convert, perform_write]
  refine ⟨⟨rfl, rfl⟩, ⟨rfl, rfl⟩, ⟨rfl, writeModule_requests _ _ _⟩,
    ⟨rfl, writeModule_converter _ _ _⟩, ?_, ?_, ?_⟩
  · intro error failed
    obtain ⟨answer, same⟩ := writeModule_error files destination failed
    exact ⟨congrArg Answer.written answer, same⟩
  · intro m error compiled unwritable
    obtain ⟨answer, same⟩ := writeModule_unwritable compiled unwritable
    exact ⟨congrArg Answer.written answer, same⟩
  · intro m files' compiled written
    obtain ⟨answer, changed⟩ := writeModule_written compiled written
    exact ⟨congrArg Answer.written answer, changed⟩

variable {files source}

theorem compile_requests {data : List UInt8} (read : source.read files = .ok data) :
    let job : Job := ⟨.compile, stage, data, source.fileName?⟩
    let requests := (c.perform live files (source.compile stage)).1.requests
    (job.Passes c.settings live → requests = [job.request c.settings]) ∧
      (¬ job.Passes c.settings live → requests = []) := by
  intro job requests
  have accounts := compileSource_accounts c live stage data source.fileName?
  have same : requests = (c.compileSource live stage data source.fileName?).requests := by
    rw [← compilation_readable c live stage read]
    exact congrArg (fun effect => effect.1.requests) (perform_compile c live files stage source)
  rw [same]
  refine ⟨fun passes => (accounts.passed job rfl passes).1, fun refused => accounts.refused ?_⟩
  rintro _ ⟨⟩
  exact refused

structure IsUnreadable (c : Converter) (files : F) (path : Path) (error : FileError)
    (toModule toBytes toFile report : Effect F) : Prop where
  compiled : toModule.1.answer = .compiled (.error (.inaccessible path error))
  converted : toBytes.1.answer = .converted (.error (.inaccessible path error))
  written : toFile.1.answer = .written (.error (.inaccessible path error))
  unavailable : report.1.answer = .validated ⟨false, ""⟩
  none : ∀ effect ∈ [toModule, toBytes, toFile, report], effect.IsNone c files

theorem perform_unreadable {path : Path} {error : FileError}
    (unread : FileAccess.read files path = .error error) (destination : Path) :
    IsUnreadable c files path error (c.perform live files (.compileFile stage path))
      (c.perform live files (.convertFileToData stage path))
      (c.perform live files (.convertFileToFile stage path destination))
      (c.perform live files (.validateFile stage path)) := by
  have compiled := compilation_unreadable c live stage unread
  have agree := perform_agree c live files stage (.file path) destination
  have toModule := perform_compile c live files stage (.file path)
  rw [compiled] at agree toModule
  have validated : c.perform live files (.validateFile stage path) =
      ((Outcome.refused c .unavailable [.unreadable path error]).map .validated, files) := by
    simp only [perform, validateFile, unread]
  have none : (c.perform live files (.compileFile stage path)).1.converter = c ∧
      (c.perform live files (.compileFile stage path)).1.requests = [] :=
    ⟨congrArg (fun effect => effect.1.converter) toModule,
      congrArg (fun effect => effect.1.requests) toModule⟩
  obtain ⟨answer, files'⟩ := agree.failed _ rfl
  refine ⟨agree.compiled.1, agree.converted.1, answer, ?_, ?_⟩
  · rw [validated]
    rfl
  · simp only [List.forall_mem_cons]
    refine ⟨⟨none.1, none.2, agree.compiled.2⟩, ?_, ?_, ?_, List.forall_mem_nil _⟩
    · exact ⟨agree.converter.1.trans none.1, agree.requests.1.trans none.2, agree.converted.2⟩
    · exact ⟨agree.converter.2.trans none.1, agree.requests.2.trans none.2, files'⟩
    · rw [validated]
      exact ⟨rfl, rfl, rfl⟩

-- Whatever files are: a source that can be read comes to the same by each of the calls that compile
-- it, up to the writing of the bytes; one that cannot be read changes nothing. In a directory tree
-- the bytes that are written are all that changes.
theorem entry_points_agree (c : Converter) (live : Bool) (files : F) (stage : Stage)
    (destination : Path) :
    (∀ source data, Source.read files source = .ok data →
      let job : Job := ⟨.compile, stage, data, source.fileName?⟩
      let toModule := c.perform live files (source.compile stage)
      (∃ result, Agree files destination toModule (c.perform live files (source.convert stage))
        (c.perform live files (source.write stage destination)) result) ∧
      (job.Passes c.settings live → toModule.1.requests = [job.request c.settings]) ∧
      (¬ job.Passes c.settings live → toModule.1.requests = [])) ∧
    (∀ path error, FileAccess.read files path = .error error →
      IsUnreadable c files path error (c.perform live files (.compileFile stage path))
        (c.perform live files (.convertFileToData stage path))
        (c.perform live files (.convertFileToFile stage path destination))
        (c.perform live files (.validateFile stage path))) ∧
    ∀ (tree tree' : FileStore) (source : Source) m,
      (c.perform live tree (source.compile stage)).1.answer = .compiled (.ok m) →
        tree.write destination m.bytes = .ok tree' →
          tree.Replaced destination m.bytes (c.perform live tree (source.write stage destination)).2 := by
  refine ⟨?_, ?_, ?_⟩
  · intro source data read job toModule
    exact ⟨⟨_, perform_agree c live files stage source destination⟩, compile_requests c live stage read⟩
  · intro path error unread
    exact perform_unreadable c live stage unread destination
  · intro tree tree' source m answer write
    have agree := perform_agree c live tree stage source destination
    have compiled := Answer.compiled.inj (agree.compiled.1.symm.trans answer)
    rw [(agree.written m tree' compiled write).2]
    exact FileStore.write_replaced write

theorem entry_points_refused :
    let files : FileStore := ⟨[([[0x61]], .file [])]⟩
    let path : Path := ⟨[0x61]⟩
    let missing : Path := ⟨[0x64, 0x2F, 0x61]⟩
    let old := new .accepting
    let c := (old.perform true files (.setInputFormat .glsl "450 core".toList)).1.converter
    old.Reachable ∧ c.Reachable ∧ FileAccess.read files path = .ok [] ∧
      (old.perform true files (.compileFile .vertex path)).1.requests = [] ∧
      (∃ m, (c.perform true files (.compileFile .vertex path)).1.answer = .compiled (.ok m)) ∧
      (c.perform true files (.convertFileToFile .vertex path missing)).1.answer =
        .written (.error (.inaccessible missing .notFound)) ∧
      (c.perform true files (.convertFileToFile .vertex path missing)).2 = files := by
  intro files path missing old c
  have reached : old.Reachable := .new .accepting
  have read : (Source.file path).read files = .ok [] := rfl
  have undirected : Glsl.Directive.find? (Utf8.decode []) = none := by
    have empty : Utf8.decode [] = [] := rfl
    rw [empty, Glsl.Directive.find?, Glsl.reachHash]
    rfl
  have undeclared : Glsl.declared? (Utf8.decode []) = none := by
    rw [Glsl.declared?, undirected]
    rfl
  have refused : ¬ (⟨.compile, .vertex, [], some path⟩ : Job).Passes old.settings true := by
    rintro ⟨_, recent | ⟨_, d, found, _⟩⟩
    · have version := (Settings.request_default (s := old.settings) .vertex (some path) .compile rfl
        undeclared).1
      have number : 140 ≤ Glsl.Version.default.number := by
        rw [Job.request, ← Settings.request, version] at recent
        exact recent
      exact absurd number (by decide)
    · cases undirected.symm.trans found
  have version := (Settings.request_forced (s := c.settings) (v := ⟨450, .core⟩) .vertex [] (some path)
    .compile rfl).1
  obtain ⟨m, compiled⟩ : ∃ m, (c.compilation true files .vertex (.file path)).answer = .ok m := by
    rw [compilation_readable c true .vertex read]
    have recent : (c.settings.request .vertex [] (some path) .compile).version.version.isCompilable =
        true := by
      rw [version]
      rfl
    exact compileSource_accepting rfl rfl recent
  have agree := perform_agree c true files .vertex (.file path) missing
  obtain ⟨answer, same⟩ := agree.unwritable m .notFound compiled rfl
  refine ⟨reached, .call reached _ _ _, read, ?_, ⟨m, ?_⟩, answer, same⟩
  · exact (compile_requests old true .vertex read).2 refused
  · rw [← compiled]
    exact agree.compiled.1

end Converter

end ShaderConversion
