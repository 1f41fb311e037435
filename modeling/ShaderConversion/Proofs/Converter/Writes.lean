import ShaderConversion.Proofs.Converter.History

namespace ShaderConversion

variable {F : Type} [FileAccess F]

inductive Part where
  | inputVersion
  | output
  | definitions
  | debugLevel
  deriving DecidableEq

inductive Write where
  | inputVersion (version? : Option Glsl.Version)
  | output (format : Format) (target : Target)
  | definitions (defined : Definitions)
  | debugLevel (level : DebugLevel)

namespace Write

def part : Write → Part
  | inputVersion _ => .inputVersion
  | output _ _ => .output
  | definitions _ => .definitions
  | debugLevel _ => .debugLevel

def apply (s : Settings) : Write → Settings
  | inputVersion version? => { s with inputVersion? := version? }
  | output format target => { s with target := target, outputFormat := format }
  | definitions defined => { s with definitions := defined }
  | debugLevel level => { s with debugLevel := level }

def version? : Write → Option (Option Glsl.Version)
  | inputVersion version? => some version?
  | _ => none

def format? : Write → Option Format
  | output format _ => some format
  | _ => none

def target? : Write → Option Target
  | output _ target => some target
  | _ => none

def definitions? : Write → Option Definitions
  | definitions defined => some defined
  | _ => none

def level? : Write → Option DebugLevel
  | debugLevel level => some level
  | _ => none

theorem apply_comm {first second : Write} (apart : first.part ≠ second.part) (s : Settings) :
    second.apply (first.apply s) = first.apply (second.apply s) := by
  cases first <;> cases second
  all_goals first | rfl | exact absurd rfl apart

end Write

namespace Call

def part? : Call → Option Part
  | .setInputFormat _ _ => some .inputVersion
  | .setOutputFormat _ _ => some .output
  | .setDefinitions _ => some .definitions
  | .setDebugLevel _ => some .debugLevel
  | _ => none

def write? : Call → Option Write
  | .setInputFormat _ version => some (.inputVersion (Glsl.Version.ofOverride? version))
  | .setOutputFormat format target => (Target.negotiate (some target)).toOption.map (.output format)
  | .setDefinitions pairs => (Definitions.ofPairs pairs).toOption.map .definitions
  | .setDebugLevel level => some (.debugLevel (.ofText level))
  | _ => none

end Call

def Exchange.write? (e : Exchange F) : Option Write :=
  match e.answer with
  | .configured (.ok _) => e.turn.call.write?
  | _ => none

def Converter.writes (c : Converter) (turns : List (Turn F)) : List Write :=
  (c.history turns).filterMap Exchange.write?

def lastWritten {α : Type} (value? : Write → Option α) (first : α) (writes : List Write) : α :=
  (writes.filterMap value?).getLast?.getD first

structure Settings.IsLastWritten (s start : Settings) (writes : List Write) : Prop where
  inputVersion : s.inputVersion? = lastWritten Write.version? start.inputVersion? writes
  outputFormat : s.outputFormat = lastWritten Write.format? start.outputFormat writes
  target : s.target = lastWritten Write.target? start.target writes
  definitions : s.definitions = lastWritten Write.definitions? start.definitions writes
  debugLevel : s.debugLevel = lastWritten Write.level? start.debugLevel writes
  limits : s.limits = start.limits
  warningsAsErrors : s.warningsAsErrors = start.warningsAsErrors

theorem lastWritten_cons {α : Type} (value? : Write → Option α) (first : α) (w : Write)
    (writes : List Write) :
    lastWritten value? first (w :: writes) = lastWritten value? ((value? w).getD first) writes := by
  unfold lastWritten
  cases written : value? w with
  | none => rw [List.filterMap_cons_none written, Option.getD_none]
  | some value =>
    rw [List.filterMap_cons_some written, List.getLast?_cons, Option.getD_some, Option.getD_some]

theorem get_foldl {α : Type} (get : Settings → α) (value? : Write → Option α)
    (put : ∀ w s, get (w.apply s) = (value? w).getD (get s)) (writes : List Write) (s : Settings) :
    get (writes.foldl Write.apply s) = lastWritten value? (get s) writes := by
  -- Induction on the writes, for any part `get` of the settings: each write leaves its value in
  -- that part or leaves the part alone.
  induction writes generalizing s with
  | nil => rfl
  | cons w writes later => rw [List.foldl_cons, later, put, lastWritten_cons]

theorem get_foldl_unwritten {α : Type} (get : Settings → α) (kept : ∀ w s, get (Write.apply s w) = get s)
    (writes : List Write) (s : Settings) : get (writes.foldl Write.apply s) = get s := by
  induction writes generalizing s with
  | nil => rfl
  | cons w writes later => rw [List.foldl_cons, later, kept]

theorem foldl_lastWritten (writes : List Write) (s : Settings) :
    (writes.foldl Write.apply s).IsLastWritten s writes := by
  constructor
  · exact get_foldl Settings.inputVersion? _ (by intro w s; cases w <;> rfl) writes s
  · exact get_foldl Settings.outputFormat _ (by intro w s; cases w <;> rfl) writes s
  · exact get_foldl Settings.target _ (by intro w s; cases w <;> rfl) writes s
  · exact get_foldl Settings.definitions _ (by intro w s; cases w <;> rfl) writes s
  · exact get_foldl Settings.debugLevel _ (by intro w s; cases w <;> rfl) writes s
  · exact get_foldl_unwritten Settings.limits (by intro w s; cases w <;> rfl) writes s
  · exact get_foldl_unwritten Settings.warningsAsErrors (by intro w s; cases w <;> rfl) writes s

theorem readInputVersion_value {token : Text} {version? : Option Glsl.Version}
    (read : Settings.readInputVersion token = .ok version?) :
    version? = Glsl.Version.ofOverride? token := by
  unfold Settings.readInputVersion at read
  split at read
  · rename_i empty
    cases read
    rw [empty]
    rfl
  · obtain ⟨v, found, rfl⟩ := map_ok.mp read
    exact (SetupError.orError_ok.mp found).symm

theorem guarded_error {α β : Type} {wrong : Prop} [Decidable wrong] {refusal error : SetupError}
    {read : Except SetupError α} {f : α → β} (g : α → β)
    (failed : (if wrong then .error refusal else read >>= fun a => .ok (f a)) = .error error) :
    (if wrong then .error refusal else read >>= fun a => .ok (g a)) = .error error := by
  split at failed
  · rename_i other
    rw [if_pos other]
    exact failed
  · rename_i right
    rw [if_neg right]
    rcases bind_error.mp failed with unread | ⟨_, _, next⟩
    · exact bind_error.mpr (.inl unread)
    · cases next

namespace Call

variable {call : Call} {s : Settings}

theorem change_ok {s' : Settings} (changed : call.change s = .ok s') :
    s' = call.write?.toList.foldl Write.apply s ∧ (call.part? = call.write?.map Write.part) := by
  cases call with
  | setInputFormat format version =>
    obtain ⟨version?, read, rfl⟩ := Settings.withInputFormat_ok changed
    rw [readInputVersion_value read]
    exact ⟨rfl, rfl⟩
  | setOutputFormat format target =>
    obtain ⟨negotiated, read, rfl⟩ := Settings.withOutputFormat_ok changed
    rw [write?, read]
    exact ⟨rfl, rfl⟩
  | setDefinitions pairs =>
    obtain ⟨definitions, read, rfl⟩ := Settings.withDefinitions_ok changed
    rw [write?, read]
    exact ⟨rfl, rfl⟩
  | setDebugLevel level =>
    cases changed
    exact ⟨rfl, rfl⟩
  | _ =>
    cases changed
    exact ⟨rfl, rfl⟩

-- Whether a call is accepted does not depend on the settings.
theorem change_error {error : SetupError} (failed : call.change s = .error error) (s' : Settings) :
    call.change s' = .error error := by
  cases call with
  | setInputFormat format version => exact guarded_error _ failed
  | setOutputFormat format target => exact guarded_error _ failed
  | setDefinitions pairs => exact map_error.mpr (map_error.mp failed)
  | setDebugLevel level => cases failed
  | _ => cases failed

end Call

namespace Converter

variable (c : Converter) (live : Bool) (files : F) {call : Call}

theorem perform_setup (setup : call.part? ≠ none) : (c.perform live files call).1.answer =
    .configured ((call.change c.settings).map fun _ => ()) := by
  cases call with
  | setInputFormat format version => exact congrArg Answer.configured (configure_answer c _ _)
  | setOutputFormat format target => exact congrArg Answer.configured (configure_answer c _ _)
  | setDefinitions pairs => exact congrArg Answer.configured (configure_answer c _ _)
  | setDebugLevel level => exact congrArg Answer.configured (configure_answer c _ _)
  | _ => exact absurd rfl setup

theorem perform_conversion (other : call.part? = none) (result : Except SetupError Unit) :
    (c.perform live files call).1.answer ≠ .configured result := by
  cases call with
  | setInputFormat | setOutputFormat | setDefinitions | setDebugLevel => cases other
  | _ => exact nofun

end Converter

namespace Exchange

theorem succeeds_iff {e : Exchange F} : e.Succeeds ↔ e.turn.call.part? ≠ none ∧
    ∃ s, e.turn.call.change e.before.settings = .ok s := by
  unfold Succeeds answer outcome
  constructor
  · intro accepted
    have setup : e.turn.call.part? ≠ none :=
      fun other => Converter.perform_conversion _ _ _ other _ accepted
    rw [Converter.perform_setup _ _ _ setup] at accepted
    injection accepted with accepted
    obtain ⟨s, changed, _⟩ := map_ok.mp accepted
    exact ⟨setup, s, changed⟩
  · rintro ⟨setup, s, changed⟩
    rw [Converter.perform_setup _ _ _ setup]
    exact congrArg Answer.configured (map_ok.mpr ⟨s, changed, rfl⟩)

theorem write_of_succeeds {e : Exchange F} (accepted : e.Succeeds) : e.write? = e.turn.call.write? := by
  unfold write?
  rw [accepted]

theorem write_of_fails {e : Exchange F} (refused : ¬ e.Succeeds) : e.write? = none := by
  unfold write?
  split
  · rename_i accepted
    exact absurd accepted refused
  · rfl

theorem after_writes (e : Exchange F) :
    e.after.settings = e.write?.toList.foldl Write.apply e.before.settings := by
  rw [after_settings]
  by_cases accepted : e.Succeeds
  · obtain ⟨_, s, changed⟩ := succeeds_iff.mp accepted
    rw [write_of_succeeds accepted, changed]
    exact (Call.change_ok changed).1
  · rw [write_of_fails accepted]
    cases changed : e.turn.call.change e.before.settings with
    | error error => rfl
    | ok s =>
      have other : e.turn.call.part? = none :=
        Decidable.byContradiction fun setup => accepted (succeeds_iff.mpr ⟨setup, s, changed⟩)
      obtain ⟨same, part⟩ := Call.change_ok changed
      rw [other] at part
      rw [Option.map_eq_none_iff.mp part.symm] at same
      exact same

theorem part_of_write {e : Exchange F} {w : Write} (written : e.write? = some w) :
    e.turn.call.part? = some w.part := by
  by_cases accepted : e.Succeeds
  · obtain ⟨_, s, changed⟩ := succeeds_iff.mp accepted
    rw [write_of_succeeds accepted] at written
    rw [(Call.change_ok changed).2, written, Option.map_some]
  · cases (write_of_fails accepted).symm.trans written

theorem exists_write {e : Exchange F} (accepted : e.Succeeds) : ∃ w, e.write? = some w := by
  obtain ⟨setup, s, changed⟩ := succeeds_iff.mp accepted
  rw [write_of_succeeds accepted]
  rw [(Call.change_ok changed).2] at setup
  exact Option.ne_none_iff_exists'.mp (mt Option.map_eq_none_iff.mpr setup)

theorem write_congr {e e' : Exchange F} (same : e.turn.call = e'.turn.call) : e.write? = e'.write? := by
  have accepts : e.Succeeds ↔ e'.Succeeds := by
    rw [succeeds_iff, succeeds_iff, ← same]
    refine and_congr_right fun _ => ⟨?_, ?_⟩
    all_goals
      rintro ⟨s, changed⟩
      cases again : e.turn.call.change _ with
      | ok s' => exact ⟨s', rfl⟩
      | error error => cases changed.symm.trans (Call.change_error again _)
  by_cases accepted : e.Succeeds
  · rw [write_of_succeeds accepted, write_of_succeeds (accepts.mp accepted), same]
  · rw [write_of_fails accepted, write_of_fails (mt accepts.mpr accepted)]

end Exchange

namespace Converter

theorem writes_cons (c : Converter) (turn : Turn F) (turns : List (Turn F)) :
    c.writes (turn :: turns) = (Exchange.mk c turn).write?.toList ++ (c.take turn).writes turns := by
  unfold writes
  rw [history_cons, List.filterMap_cons]
  cases (Exchange.mk c turn).write? <;> rfl

theorem takeAll_settings (c : Converter) (turns : List (Turn F)) :
    (c.takeAll turns).settings = (c.writes turns).foldl Write.apply c.settings := by
  induction turns generalizing c with
  | nil => rfl
  | cons turn turns later =>
    rw [takeAll_cons, later, writes_cons, List.foldl_append]
    exact congrArg (((c.take turn).writes turns).foldl Write.apply) (Exchange.after_writes ⟨c, turn⟩)

theorem takeAll_comm (c : Converter) {a b : Turn F} (apart : a.call.part? ≠ b.call.part?) :
    (c.takeAll [a, b]).settings = (c.takeAll [b, a]).settings := by
  have second : (Exchange.mk (c.take a) b).write? = (Exchange.mk c b).write? := Exchange.write_congr rfl
  have second' : (Exchange.mk (c.take b) a).write? = (Exchange.mk c a).write? := Exchange.write_congr rfl
  have none (c : Converter) : c.writes ([] : List (Turn F)) = [] := rfl
  rw [takeAll_settings, takeAll_settings, writes_cons, writes_cons, writes_cons, writes_cons, second,
    second', none, none]
  cases first : (Exchange.mk c a).write? with
  | none => simp
  | some w =>
    cases other : (Exchange.mk c b).write? with
    | none => simp
    | some w' =>
      have parts : w.part ≠ w'.part := by
        intro same
        apply apart
        rw [Exchange.part_of_write first, Exchange.part_of_write other, same]
      exact Write.apply_comm parts c.settings

-- Every setting is what the last accepted call for it wrote, or what it was at first.
theorem settings_last_written (c : Converter) (turns : List (Turn F)) :
    (c.takeAll turns).settings.IsLastWritten c.settings (c.writes turns) ∧
      (∀ e ∈ c.history turns,
        (e.Succeeds → ∃ w, e.write? = some w ∧ e.turn.call.part? = some w.part) ∧
        (¬ e.Succeeds → e.after.settings = e.before.settings)) ∧
      ∀ a b : Turn F, a.call.part? ≠ b.call.part? →
        ((c.takeAll turns).takeAll [a, b]).settings = ((c.takeAll turns).takeAll [b, a]).settings := by
  refine ⟨?_, ?_, fun a b apart => takeAll_comm _ apart⟩
  · rw [takeAll_settings]
    exact foldl_lastWritten (c.writes turns) c.settings
  · intro e _
    constructor
    · intro accepted
      obtain ⟨w, written⟩ := Exchange.exists_write accepted
      exact ⟨w, written, Exchange.part_of_write written⟩
    · intro refused
      rw [Exchange.after_writes, Exchange.write_of_fails refused]
      rfl

end Converter

end ShaderConversion
