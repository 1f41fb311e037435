import ShaderConversion.FileStore
import ShaderConversion.Proofs.Converter.Accounting
import ShaderConversion.Proofs.Converter.Writes
import ShaderConversion.Proofs.Journal

namespace ShaderConversion

variable {F : Type} [FileAccess F]

def moves (events : List Event) : List (Phase × Phase) :=
  events.filterMap fun
    | .moved before after => some (before, after)
    | _ => none

def Phase.IsRest (p : Phase) : Prop := p = .idle ∨ p = .ready

inductive Phase.Step : Phase → Phase → Prop where
  | configure {p : Phase} (rest : p.IsRest) : Step p .configuring
  | configured : Step .configuring .ready
  | withdrawn : Step .configuring .idle
  | validate {p : Phase} (rest : p.IsRest) : Step p .validating
  | compile {p : Phase} (rest : p.IsRest) : Step p .compiling
  | validated : Step .validating .done
  | compiled : Step .compiling .done
  | finished : Step .done .ready

inductive Phase.Path : Phase → List (Phase × Phase) → Phase → Prop where
  | stay (p : Phase) : Path p [] p
  | step {p q r : Phase} {more : List (Phase × Phase)} (first : Step p q) (later : Path q more r) :
      Path p ((p, q) :: more) r

def Mode.phase : Mode → Phase
  | .validate => .validating
  | .compile => .compiling

-- The checks at the entry of a job. Those of its version come behind them.
def Job.Enters (job : Job) (s : Settings) (live : Bool) : Prop :=
  live = true ∧ (job.mode = .validate → s.outputFormat = .unspecified)

structure Traverses (job? : Option Job) (s : Settings) (live : Bool) (p : Phase) (events : List Event)
    (q : Phase) : Prop where
  entered : ∀ job, job? = some job → job.Enters s live →
    moves events = [(p, job.mode.phase), (job.mode.phase, .done), (.done, .ready)] ∧ q = .ready
  refused : (∀ job, job? = some job → ¬ job.Enters s live) → moves events = [] ∧ q = p

structure Adjusts (result : Except SetupError Unit) (p : Phase) (events : List Event) (q : Phase) :
    Prop where
  accepted : result = .ok () → moves events = [(p, .configuring), (.configuring, .ready)] ∧ q = .ready
  failed : ∀ error, result = .error error →
    moves events = [(p, .configuring), (.configuring, p)] ∧ q = p

theorem Phase.Path.append {p q r : Phase} {first second : List (Phase × Phase)} (path : Path p first q)
    (later : Path q second r) : Path p (first ++ second) r := by
  induction path with
  | stay p => exact later
  | step first _ more => exact .step first (more later)

theorem moves_append (first second : List Event) : moves (first ++ second) = moves first ++ moves second :=
  List.filterMap_append

theorem moves_moved (before after : Phase) (more : List Event) :
    moves (.moved before after :: more) = (before, after) :: moves more := rfl

theorem moves_routine {events : List Event} (routine : Routine events) : moves events = [] := by
  refine List.filterMap_eq_nil_iff.mpr fun event member => ?_
  have plain := routine event member
  cases event with
  | moved => cases plain
  | _ => rfl

theorem traverses_none (s : Settings) (live : Bool) (p : Phase) {events : List Event}
    (still : moves events = []) : Traverses none s live p events p :=
  ⟨nofun, fun _ => ⟨still, rfl⟩⟩

theorem traverses_refused {job : Job} {s : Settings} {live : Bool} (refused : ¬ job.Enters s live)
    (p : Phase) {events : List Event} (still : moves events = []) :
    Traverses (some job) s live p events p := by
  refine ⟨?_, fun _ => ⟨still, rfl⟩⟩
  rintro _ ⟨⟩ enters
  exact absurd enters refused

theorem traverses_entered {job : Job} {s : Settings} {live : Bool} (enters : job.Enters s live)
    {p : Phase} {events : List Event}
    (path : moves events = [(p, job.mode.phase), (job.mode.phase, .done), (.done, .ready)]) :
    Traverses (some job) s live p events .ready := by
  refine ⟨?_, fun refused => absurd enters (refused job rfl)⟩
  rintro _ ⟨⟩ _
  exact ⟨path, rfl⟩

theorem Traverses.congr {job? : Option Job} {s : Settings} {live : Bool} {p q : Phase}
    {events others : List Event} (traverses : Traverses job? s live p events q)
    (same : moves others = moves events) : Traverses job? s live p others q := by
  refine ⟨?_, ?_⟩
  · rw [same]
    exact traverses.entered
  · rw [same]
    exact traverses.refused

theorem Adjusts.congr {result : Except SetupError Unit} {p q : Phase} {events others : List Event}
    (adjusts : Adjusts result p events q) (same : moves others = moves events) :
    Adjusts result p others q := by
  refine ⟨?_, ?_⟩
  · rw [same]
    exact adjusts.accepted
  · rw [same]
    exact adjusts.failed

namespace Converter

variable (c : Converter) (live : Bool) (stage : Stage) (data : List UInt8) (fileName? : Option Path)

theorem validateSource_traverses :
    Traverses (some ⟨.validate, stage, data, fileName?⟩) c.settings live c.phase
      (c.validateSource live stage data fileName?).events
      (c.validateSource live stage data fileName?).converter.phase := by
  unfold validateSource
  cases live with
  | false => exact traverses_refused (fun enters => Bool.false_ne_true enters.1) c.phase rfl
  | true =>
    by_cases unspecified : c.settings.outputFormat = .unspecified
    · rw [if_neg (by decide), if_neg (fun other => other unspecified)]
      refine traverses_entered ⟨rfl, fun _ => unspecified⟩ ?_
      rw [moves_append, moves_routine (resolve_routine _ _ _ _ _)]
      rfl
    · rw [if_neg (by decide), if_pos unspecified]
      exact traverses_refused (fun enters => unspecified (enters.2 rfl)) c.phase rfl

theorem compileSource_traverses :
    Traverses (some ⟨.compile, stage, data, fileName?⟩) c.settings live c.phase
      (c.compileSource live stage data fileName?).events
      (c.compileSource live stage data fileName?).converter.phase := by
  unfold compileSource
  cases live with
  | false => exact traverses_refused (fun enters => Bool.false_ne_true enters.1) c.phase rfl
  | true =>
    rw [if_neg (by decide)]
    have compile : Mode.compile = .validate → c.settings.outputFormat = .unspecified := nofun
    refine traverses_entered ⟨rfl, compile⟩ ?_
    rw [moves_append, moves_append, moves_routine (resolve_routine _ _ _ _ _), moves_moved,
      moves_routine (compileGated_routine _ _)]
    rfl

variable (files : F) (path : Path)

theorem validateFile_traverses :
    Traverses (Call.job?.fromFile files .validate stage path) c.settings live c.phase
      (c.validateFile ⟨live, FileAccess.read files⟩ stage path).events
      (c.validateFile ⟨live, FileAccess.read files⟩ stage path).converter.phase := by
  unfold validateFile Call.job?.fromFile
  dsimp only
  cases FileAccess.read files path with
  | error e => exact traverses_none c.settings live c.phase rfl
  | ok data => exact validateSource_traverses c live stage data (some path)

theorem compileFile_traverses :
    Traverses (Call.job?.fromFile files .compile stage path) c.settings live c.phase
      (c.compileFile ⟨live, FileAccess.read files⟩ stage path).events
      (c.compileFile ⟨live, FileAccess.read files⟩ stage path).converter.phase := by
  unfold compileFile Call.job?.fromFile
  dsimp only
  cases FileAccess.read files path with
  | error e => exact traverses_none c.settings live c.phase rfl
  | ok data => exact compileSource_traverses c live stage data (some path)

variable {c live stage files}

theorem writeModule_traverses {job? : Option Job} {s : Settings} {p : Phase} {destination : Path}
    {o : Outcome (Except ConversionError Spirv.Module)}
    (traverses : Traverses job? s live p o.events o.converter.phase) :
    Traverses job? s live p (writeModule files destination o).1.events
      (writeModule files destination o).1.converter.phase := by
  unfold writeModule
  split
  · exact traverses
  · split
    · exact traverses
    · refine traverses.congr ?_
      rw [moves_append]
      exact List.append_nil _

theorem perform_traverses {call : Call} (conversion : call.part? = none) :
    Traverses (call.job? files) c.settings live c.phase (c.perform live files call).1.events
      (c.perform live files call).1.converter.phase := by
  cases call with
  | setInputFormat | setOutputFormat | setDefinitions | setDebugLevel => cases conversion
  | validateData stage data => exact validateSource_traverses c live stage data none
  | validateFile stage path => exact validateFile_traverses c live stage files path
  | compileData stage data => exact compileSource_traverses c live stage data none
  | compileFile stage path => exact compileFile_traverses c live stage files path
  | convertDataToData stage data => exact compileSource_traverses c live stage data none
  | convertFileToData stage path => exact compileFile_traverses c live stage files path
  | convertDataToFile stage data destination =>
    exact writeModule_traverses (compileSource_traverses c live stage data none)
  | convertFileToFile stage path destination =>
    exact writeModule_traverses (compileFile_traverses c live stage files path)

theorem configure_adjusts (c : Converter) (change : Settings → Except SetupError Settings) :
    Adjusts (c.configure change []).answer c.phase (c.configure change []).events
      (c.configure change []).converter.phase := by
  unfold configure
  cases change c.settings with
  | error error => exact ⟨nofun, fun _ _ => ⟨rfl, rfl⟩⟩
  | ok settings => exact ⟨fun _ => ⟨rfl, rfl⟩, nofun⟩

theorem setDebugLevel_adjusts (c : Converter) (level : Text) :
    Adjusts (c.setDebugLevel level).answer c.phase (c.setDebugLevel level).events
      (c.setDebugLevel level).converter.phase := by
  refine (configure_adjusts c fun s => .ok (s.withDebugLevel level)).congr ?_
  exact (moves_append _ _).trans (by rw [moves_routine (debugLevel_routine level), List.nil_append])

theorem perform_adjusts {call : Call} (setup : call.part? ≠ none) :
    ∃ result, (c.perform live files call).1.answer = .configured result ∧
      Adjusts result c.phase (c.perform live files call).1.events
        (c.perform live files call).1.converter.phase := by
  cases call with
  | setInputFormat format version => exact ⟨_, rfl, configure_adjusts c _⟩
  | setOutputFormat format target => exact ⟨_, rfl, configure_adjusts c _⟩
  | setDefinitions pairs => exact ⟨_, rfl, configure_adjusts c _⟩
  | setDebugLevel level => exact ⟨_, rfl, setDebugLevel_adjusts c level⟩
  | _ => exact absurd rfl setup

end Converter

namespace Exchange

def moves (e : Exchange F) : List (Phase × Phase) := ShaderConversion.moves e.outcome.events

def Enters (e : Exchange F) : Prop :=
  ∃ job, e.turn.call.job? e.turn.files = some job ∧ job.Enters e.before.settings e.turn.live

-- The phase goes with a settings call as its answer says, and with any other call as its
-- job says.
structure IsOrderly (e : Exchange F) : Prop where
  setup : e.turn.call.part? ≠ none → ∃ result, e.answer = .configured result ∧
    Adjusts result e.before.phase e.outcome.events e.after.phase
  conversion : e.turn.call.part? = none →
    Traverses (e.turn.call.job? e.turn.files) e.before.settings e.turn.live e.before.phase
      e.outcome.events e.after.phase

theorem isOrderly (e : Exchange F) : e.IsOrderly := by
  constructor
  · exact fun setup => Converter.perform_adjusts setup
  · intro conversion
    exact Converter.perform_traverses (c := { e.before with compiler := e.turn.compiler }) conversion

theorem no_job {call : Call} (setup : call.part? ≠ none) (files : F) :
    call.job? files = none := by
  cases call with
  | setInputFormat | setOutputFormat | setDefinitions | setDebugLevel => rfl
  | _ => exact absurd rfl setup

inductive Passage (e : Exchange F) : List (Phase × Phase) → Phase → Prop where
  | accepted (succeeds : e.Succeeds) (other : ¬ e.Enters) :
      Passage e [(e.before.phase, .configuring), (.configuring, .ready)] .ready
  | failed {error : SetupError} (answer : e.answer = .configured (.error error)) (other : ¬ e.Enters) :
      Passage e [(e.before.phase, .configuring), (.configuring, e.before.phase)] e.before.phase
  | entered (mode : Mode) (enters : e.Enters) :
      Passage e [(e.before.phase, mode.phase), (mode.phase, .done), (.done, .ready)] .ready
  | refused (other : ¬ e.Enters) (conversion : ¬ e.Succeeds) : Passage e [] e.before.phase

theorem passage (e : Exchange F) : e.Passage e.moves e.after.phase := by
  by_cases conversion : e.turn.call.part? = none
  · have traverses := e.isOrderly.conversion conversion
    by_cases enters : e.Enters
    · obtain ⟨job, found, enters'⟩ := enters
      obtain ⟨path, ready⟩ := traverses.entered job found enters'
      rw [moves, path, ready]
      exact .entered job.mode ⟨job, found, enters'⟩
    · obtain ⟨still, same⟩ := traverses.refused fun job found entry => enters ⟨job, found, entry⟩
      rw [moves, still, same]
      exact .refused enters (Converter.perform_conversion _ _ _ conversion _)
  · obtain ⟨result, answer, adjusts⟩ := e.isOrderly.setup conversion
    have other : ¬ e.Enters := by
      rintro ⟨job, found, _⟩
      rw [no_job conversion] at found
      cases found
    cases result with
    | ok =>
      obtain ⟨path, ready⟩ := adjusts.accepted rfl
      rw [moves, path, ready]
      exact .accepted answer other
    | error error =>
      obtain ⟨path, same⟩ := adjusts.failed error rfl
      rw [moves, path, same]
      exact .failed answer other

theorem path (e : Exchange F) (rest : e.before.phase.IsRest) :
    Phase.Path e.before.phase e.moves e.after.phase ∧ e.after.phase.IsRest := by
  have finish : Phase.Path .done [(.done, .ready)] .ready := .step .finished (.stay _)
  have passage := e.passage
  generalize e.moves = path, e.after.phase = q at passage ⊢
  cases passage with
  | accepted succeeds other => exact ⟨.step (.configure rest) (.step .configured (.stay _)), .inr rfl⟩
  | failed answer other =>
    have back : Phase.Step .configuring e.before.phase := by
      rcases rest with idle | ready
      · rw [idle]
        exact .withdrawn
      · rw [ready]
        exact .configured
    exact ⟨.step (.configure rest) (.step back (.stay _)), rest⟩
  | entered mode enters =>
    refine ⟨?_, .inr rfl⟩
    cases mode with
    | validate => exact .step (.validate rest) (.step .validated finish)
    | compile => exact .step (.compile rest) (.step .compiled finish)
  | refused other conversion => exact ⟨.stay _, rest⟩

theorem after_idle_iff (e : Exchange F) :
    e.after.phase = .idle ↔ e.before.phase = .idle ∧ ¬ e.Succeeds ∧ ¬ e.Enters := by
  have passage := e.passage
  generalize e.moves = path, e.after.phase = q at passage ⊢
  cases passage with
  | accepted succeeds other => simp [succeeds]
  | failed answer other =>
    have refused : ¬ e.Succeeds := by
      intro succeeds
      cases answer.symm.trans succeeds
    simp [refused, other]
  | entered mode enters => simp [enters]
  | refused other conversion => simp [other, conversion]

theorem withdrawn_only (e : Exchange F) (withdrawn : (.configuring, .idle) ∈ e.moves) :
    e.before.phase = .idle ∧ ∃ error, e.answer = .configured (.error error) := by
  have passage := e.passage
  generalize e.moves = path, e.after.phase = q at passage withdrawn
  cases passage with
  | accepted succeeds other => simp at withdrawn
  | failed answer other =>
    have idle : e.before.phase = .idle := by simpa [eq_comm] using withdrawn
    exact ⟨idle, _, answer⟩
  | entered mode enters => cases mode <;> simp [Mode.phase] at withdrawn
  | refused other conversion => cases withdrawn

end Exchange

inductive Created : Converter → List Event → Prop where
  | new (compiler : Compiler) : Created (.new compiler) []
  | configured {compiler : Compiler} {config : Configuration} {c : Converter}
      (result : (Converter.ofConfiguration compiler config).result = .ok c) :
      Created c (Converter.ofConfiguration compiler config).events

theorem Created.path {c : Converter} {events : List Event} (created : Created c events) :
    Phase.Path .idle (moves events) c.phase ∧ c.phase.IsRest ∧ (c.phase = .idle ↔ events = []) := by
  cases created with
  | new compiler => exact ⟨.stay _, .inl rfl, by simp [Converter.new]⟩
  | configured result =>
    obtain ⟨preset, settings, _, rfl, events⟩ := Converter.ofConfiguration_ok result
    rw [events, moves_append, moves_moved, moves_routine (debugLevel_routine _)]
    refine ⟨.step (.configure (.inl rfl)) (.step .configured (.stay _)), .inr rfl, ?_⟩
    simp

namespace Converter

theorem takeAll_path {c : Converter} (rest : c.phase.IsRest) (turns : List (Turn F)) :
    Phase.Path c.phase (moves (c.log turns)) (c.takeAll turns).phase ∧
      (c.takeAll turns).phase.IsRest := by
  -- Induction on the turns: the path of each one begins where that of the one before ends.
  induction turns generalizing c with
  | nil => exact ⟨.stay _, rest⟩
  | cons turn turns later =>
    obtain ⟨first, rests⟩ := Exchange.path ⟨c, turn⟩ rest
    obtain ⟨more, rests⟩ := later rests
    rw [log_cons, moves_append]
    exact ⟨first.append more, rests⟩

theorem takeAll_idle_iff (c : Converter) (turns : List (Turn F)) :
    (c.takeAll turns).phase = .idle ↔
      c.phase = .idle ∧ ∀ e ∈ c.history turns, ¬ e.Succeeds ∧ ¬ e.Enters := by
  induction turns generalizing c with
  | nil => simp [takeAll, history]
  | cons turn turns later =>
    have first := Exchange.after_idle_iff ⟨c, turn⟩
    rw [takeAll_cons, later, take, first, history_cons, List.forall_mem_cons, and_assoc]
    rfl

-- A configuration leaves a converter as a settings call does that was accepted.
theorem phases_connected {c : Converter} {events : List Event} (created : Created c events)
    (turns : List (Turn F)) :
    Phase.Path .idle (moves (events ++ c.log turns)) (c.takeAll turns).phase ∧
      (c.takeAll turns).phase.IsRest ∧
      ((c.takeAll turns).phase = .idle ↔
        events = [] ∧ ∀ e ∈ c.history turns, ¬ e.Succeeds ∧ ¬ e.Enters) ∧
      ∀ e ∈ c.history turns, e.IsOrderly ∧ ((.configuring, .idle) ∈ e.moves →
        e.before.phase = .idle ∧ ∃ error, e.answer = .configured (.error error)) := by
  obtain ⟨begins, rest, new⟩ := created.path
  obtain ⟨goes, rests⟩ := takeAll_path rest turns
  refine ⟨?_, rests, ?_, fun e _ => ⟨e.isOrderly, e.withdrawn_only⟩⟩
  · rw [moves_append]
    exact begins.append goes
  · rw [takeAll_idle_iff, new]

theorem phases_connected_failures :
    let c := Converter.new .accepting
    let missing : Turn FileStore := ⟨true, FileStore.empty, .accepting, .compileFile .vertex ⟨[0x61]⟩⟩
    let unknown : Turn FileStore := ⟨true, FileStore.empty, .accepting, .setInputFormat .glsl "230".toList⟩
    let old : Turn FileStore := ⟨true, FileStore.empty, .accepting, .compileData .vertex []⟩
    Created c [] ∧
      Phase.Path .idle [(.idle, .configuring), (.configuring, .idle)]
        (c.takeAll [missing, unknown]).phase ∧
      (c.takeAll [missing, unknown]).phase = .idle ∧ (c.takeAll [missing, unknown, old]).phase = .ready := by
  intro c missing unknown old
  have created : Created c [] := .new .accepting
  obtain ⟨path, _⟩ := phases_connected created [missing, unknown]
  have failed : moves ([] ++ c.log [missing, unknown]) = [(.idle, .configuring), (.configuring, .idle)] := by
    rfl
  rw [failed] at path
  exact ⟨created, path, rfl, rfl⟩

end Converter

end ShaderConversion
