import ShaderConversion.Converter.Conversion

namespace ShaderConversion

def Event.isRoutine : Event → Bool
  | .moved .. => false
  | .unreadable .. => false
  | .validationWithoutCompiler => false
  | .validationFormat .. => false
  | _ => true

-- Whether an event is not one that tells of a refusal to look at a source, for want of a
-- running compiler or because of the output format.
def Event.isAdmitted : Event → Bool
  | .validationWithoutCompiler => false
  | .validationFormat .. => false
  | _ => true

def Throughout (test : Event → Bool) (events : List Event) : Prop :=
  ∀ event ∈ events, test event = true

abbrev Routine := Throughout Event.isRoutine

abbrev Admitted := Throughout Event.isAdmitted

section Throughout

variable {test : Event → Bool} {event : Event} {events first second : List Event}

theorem throughout_nil : Throughout test [] := List.forall_mem_nil _

theorem throughout_cons :
    Throughout test (event :: events) ↔ test event = true ∧ Throughout test events :=
  List.forall_mem_cons

theorem throughout_append :
    Throughout test (first ++ second) ↔ Throughout test first ∧ Throughout test second :=
  List.forall_mem_append

theorem throughout_map {α : Type} {f : α → Event} (all : ∀ a, test (f a) = true) (as : List α) :
    Throughout test (as.map f) := by
  intro event member
  obtain ⟨a, _, rfl⟩ := List.mem_map.mp member
  exact all a

theorem Routine.admitted (routine : Routine events) : Admitted events := by
  intro event member
  have passes := routine event member
  cases event <;> first | rfl | cases passes

end Throughout

theorem debugLevel_routine (level : Text) : Routine (Settings.debugLevelEvents level) := by
  unfold Settings.debugLevelEvents
  split
  · exact throughout_nil
  · exact throughout_cons.mpr ⟨rfl, throughout_nil⟩

theorem directive_routine (directive? : Option Glsl.Directive) :
    Routine (Glsl.Directive.events directive?) := by
  unfold Glsl.Directive.events
  split
  · split
    · exact throughout_cons.mpr ⟨rfl, throughout_nil⟩
    · exact throughout_nil
  · exact throughout_nil

theorem resolve_routine (s : Settings) (stage : Stage) (data : List UInt8) (fileName? : Option Path)
    (mode : Mode) : Routine (s.resolve stage data fileName? mode).events := by
  have found {α : Type} {f : α → Event} (routine : ∀ a, (f a).isRoutine = true) (a? : Option α) :
      Routine (a?.map f).toList := by
    cases a? with
    | none => exact throughout_nil
    | some a => exact throughout_cons.mpr ⟨routine a, throughout_nil⟩
  simp only [Settings.resolve, throughout_append]
  refine ⟨⟨⟨?_, found (fun _ => rfl) _⟩, directive_routine _⟩, throughout_cons.mpr ⟨rfl, throughout_nil⟩⟩
  cases fileName? with
  | none => exact throughout_nil
  | some path => exact found (fun _ => rfl) _

theorem checkOutput_routine (r : Request) (bytes : List UInt8) : Routine (checkOutput r bytes).2 := by
  unfold checkOutput takeModule
  cases Spirv.readHeader bytes with
  | error e => exact throughout_nil
  | ok header =>
    dsimp only
    split <;> simp [Throughout, Event.isRoutine]

theorem attempt_routine (compiler : Compiler) (r : Request) : Routine (compiler.attempt r).events := by
  have notes : Routine ((compiler.notes r).map Event.compilerNote) := throughout_map (fun _ => rfl) _
  unfold Compiler.attempt
  cases compiler.compile r with
  | error diagnostics => exact throughout_append.mpr ⟨notes, throughout_cons.mpr ⟨rfl, throughout_nil⟩⟩
  | ok bytes => exact throughout_append.mpr ⟨notes, checkOutput_routine r bytes⟩

theorem compileGated_routine (compiler : Compiler) (r : Request) :
    Routine (compiler.compileGated r).events := by
  unfold Compiler.compileGated
  split
  · exact attempt_routine compiler r
  · split
    · exact throughout_nil
    · exact throughout_append.mpr ⟨directive_routine _, throughout_cons.mpr ⟨rfl, attempt_routine compiler r⟩⟩

end ShaderConversion
