import ShaderConversion.Lease
import Mathlib.Algebra.Group.Nat.Defs
import Mathlib.Data.List.Nodup

namespace ShaderConversion.Leases

abbrev Thread := Nat
abbrev Handle := Nat

-- The steps of threads on the count that they share. Each of them is one access to it, and what
-- is reported depends on what this access finds. A lease can be given back by another thread than
-- the one that took it.
inductive Act where
  | acquire (thread : Thread) (handle : Handle)
  | release (thread : Thread) (handle : Handle)

structure Site where
  leases : Leases
  held : List Handle
  issued : List Handle
  reports : List Event

def Site.start : Site := ⟨.none, [], [], []⟩

-- Threads take their steps in any order. Only a lease that is held can be given back, and from
-- then on it is not held any more.
inductive Step : Site → Act → Site → Prop where
  | acquire {s : Site} {handle : Handle} (thread : Thread) (fresh : handle ∉ s.issued) :
      Step s (.acquire thread handle)
        ⟨s.leases.acquire.1, handle :: s.held, handle :: s.issued, s.reports ++ s.leases.acquire.2⟩
  | release {s : Site} {handle : Handle} (thread : Thread) (owned : handle ∈ s.held) :
      Step s (.release thread handle)
        ⟨s.leases.release.1, s.held.erase handle, s.issued, s.reports ++ s.leases.release.2⟩

inductive Runs (before : Site) : List Act → Site → Prop where
  | nil : Runs before [] before
  | snoc {s after : Site} {acts : List Act} {act : Act} (earlier : Runs before acts s)
      (step : Step s act after) : Runs before (acts ++ [act]) after

def Act.turn {width : Nat} (word : BitVec width) : Act → BitVec width
  | .acquire .. => word + 1
  | .release .. => word - 1

def word (width : Nat) (acts : List Act) : BitVec width := acts.foldl Act.turn 0

def isTurn : Event → Bool
  | .compilerStarted => true
  | .compilerStopped => true
  | _ => false

def Alternates (running : Bool) (reports : List Event) : Prop :=
  ∃ rounds, reports.filter isTurn =
    (List.replicate rounds [Event.compilerStarted, .compilerStopped]).flatten ++
      if running then [.compilerStarted] else []

structure Ledger (acts : List Act) (s : Site) : Prop where
  issued : ∀ handle, handle ∈ s.issued ↔ ∃ thread, .acquire thread handle ∈ acts
  released : ∀ thread handle, .release thread handle ∈ acts → handle ∈ s.issued
  held : ∀ handle, handle ∈ s.held ↔
    handle ∈ s.issued ∧ ∀ thread, .release thread handle ∉ acts
  distinct : s.held.Nodup

-- What holds whenever threads have taken the steps `acts`. A word does not go around as long as
-- it can tell so many leases apart.
structure Lifecycle (acts : List Act) (s : Site) : Prop where
  ledger : Ledger acts s
  counted : s.leases.count = s.held.length
  word : ∀ width, s.held.length < 2 ^ width → (word width acts).toNat = s.held.length
  live : s.leases.isLive = true ↔ ∃ handle, handle ∈ s.held
  turns : Alternates s.leases.isLive s.reports

structure Moves (s : Site) (act : Act) (after : Site) (reported : List Event) : Prop where
  reports : after.reports = s.reports ++ reported
  counted : match act with
    | .acquire .. => after.leases.count = s.leases.count + 1
    | .release .. => s.leases.count = after.leases.count + 1
  started : .compilerStarted ∈ reported ↔ s.leases.count = 0 ∧ after.leases.count = 1
  stopped : .compilerStopped ∈ reported ↔ s.leases.count = 1 ∧ after.leases.count = 0
  last : .compilerStopped ∈ reported → after.held = []

section Report

variable {l : Leases} {reports : List Event}

theorem started_iff : .compilerStarted ∈ l.acquire.2 ↔ l.count = 0 := by
  unfold acquire
  split <;> simp_all

theorem not_stopped : .compilerStopped ∉ l.acquire.2 := by
  unfold acquire
  split <;> simp

theorem stopped_iff : .compilerStopped ∈ l.release.2 ↔ l.count = 1 := by
  unfold release
  split <;> simp_all

theorem not_started : .compilerStarted ∉ l.release.2 := by
  unfold release
  split <;> simp

theorem Alternates.acquire (turns : Alternates l.isLive reports) :
    Alternates l.acquire.1.isLive (reports ++ l.acquire.2) := by
  obtain ⟨rounds, turns⟩ := turns
  refine ⟨rounds, ?_⟩
  rw [List.filter_append, turns]
  by_cases first : l.count = 0
  · simp [Leases.acquire, isLive, isTurn, first]
  · have running : 0 < l.count := Nat.pos_of_ne_zero first
    simp [Leases.acquire, isLive, isTurn, first, running]

theorem Alternates.release (some : 0 < l.count) (turns : Alternates l.isLive reports) :
    Alternates l.release.1.isLive (reports ++ l.release.2) := by
  obtain ⟨rounds, turns⟩ := turns
  by_cases last : l.count = 1
  · refine ⟨rounds + 1, ?_⟩
    rw [List.filter_append, turns, List.replicate_succ']
    simp [Leases.release, isLive, isTurn, last]
  · have runs : l.isLive = true := decide_eq_true some
    have runsOn : l.release.1.isLive = true := by
      have more : 0 < l.count - 1 := by omega
      exact decide_eq_true more
    have silent : l.release.2 = [] := if_neg last
    refine ⟨rounds, ?_⟩
    rw [runsOn, silent, List.append_nil, turns, runs]

end Report

section Step

variable {s after : Site} {acts : List Act} {act : Act}

theorem start_ledger : Ledger [] .start := by
  refine ⟨?_, nofun, ?_, List.nodup_nil⟩ <;> simp [Site.start]

theorem Ledger.acquire (ledger : Ledger acts s) (thread : Thread) {handle : Handle}
    (fresh : handle ∉ s.issued) (leases : Leases) (reports : List Event) :
    Ledger (acts ++ [.acquire thread handle])
      ⟨leases, handle :: s.held, handle :: s.issued, reports⟩ := by
  have unheld : handle ∉ s.held := fun held => fresh ((ledger.held handle).mp held).1
  have unreleased (thread : Thread) : .release thread handle ∉ acts :=
    fun released => fresh (ledger.released thread handle released)
  refine ⟨fun other => ?_, fun thread other released => ?_, fun other => ?_,
    List.nodup_cons.mpr ⟨unheld, ledger.distinct⟩⟩
  · simp only [List.mem_cons, ledger.issued, List.mem_append, List.not_mem_nil, or_false,
      Act.acquire.injEq]
    constructor
    · rintro (rfl | ⟨thread, taken⟩)
      · exact ⟨thread, .inr ⟨rfl, rfl⟩⟩
      · exact ⟨thread, .inl taken⟩
    · rintro ⟨thread, taken | ⟨_, rfl⟩⟩
      · exact .inr ⟨thread, taken⟩
      · exact .inl rfl
  · have earlier : .release thread other ∈ acts := by simpa using released
    exact List.mem_cons_of_mem handle (ledger.released thread other earlier)
  · by_cases same : other = handle
    · simp [same, unreleased]
    · simp [same, ledger.held]

theorem Ledger.release (ledger : Ledger acts s) (thread : Thread) {handle : Handle}
    (owned : handle ∈ s.held) (leases : Leases) (reports : List Event) :
    Ledger (acts ++ [.release thread handle])
      ⟨leases, s.held.erase handle, s.issued, reports⟩ := by
  refine ⟨fun other => ?_, fun thread other released => ?_, fun other => ?_,
    ledger.distinct.erase handle⟩
  · simp [ledger.issued]
  · rcases List.mem_append.mp released with earlier | now
    · exact ledger.released thread other earlier
    · cases List.mem_singleton.mp now
      exact ((ledger.held handle).mp owned).1
  · rw [ledger.distinct.mem_erase_iff, ledger.held]
    by_cases same : other = handle
    · refine ⟨fun held => absurd same held.1, fun held => ?_⟩
      exact absurd (List.mem_append_right acts (List.mem_singleton.mpr (same ▸ rfl)))
        (held.2 thread)
    · simp [same]

theorem Step.ledger (step : Step s act after) (ledger : Ledger acts s) :
    Ledger (acts ++ [act]) after := by
  cases step with
  | acquire thread fresh => exact ledger.acquire thread fresh _ _
  | release thread owned => exact ledger.release thread owned _ _

theorem Step.counted (step : Step s act after) (counted : s.leases.count = s.held.length) :
    after.leases.count = after.held.length := by
  cases step with
  | acquire thread fresh => exact congrArg (· + 1) counted
  | release thread owned =>
    rw [List.length_erase_of_mem owned, ← counted]
    rfl

theorem Step.word (step : Step s act after) {width : Nat}
    (before : word width acts = BitVec.ofNat width s.held.length) :
    word width (acts ++ [act]) = BitVec.ofNat width after.held.length := by
  unfold Leases.word at before ⊢
  rw [List.foldl_append, before]
  cases step with
  | acquire thread fresh => exact (BitVec.ofNat_add _ _).symm
  | release thread owned =>
    rw [← List.length_erase_add_one owned, BitVec.ofNat_add]
    exact BitVec.add_sub_cancel _ _

theorem Step.turns (step : Step s act after) (counted : s.leases.count = s.held.length)
    (turns : Alternates s.leases.isLive s.reports) :
    Alternates after.leases.isLive after.reports := by
  cases step with
  | acquire thread fresh => exact turns.acquire
  | release thread owned => exact turns.release (counted ▸ List.length_pos_of_mem owned)

theorem Step.moves (step : Step s act after) (counted : s.leases.count = s.held.length) :
    ∃ reported, Moves s act after reported := by
  cases step with
  | acquire thread fresh =>
    refine ⟨s.leases.acquire.2, rfl, rfl, ?_, ?_, fun stopped => absurd stopped not_stopped⟩
    · rw [started_iff]
      exact (and_iff_left_of_imp fun none => congrArg (· + 1) none).symm
    · exact iff_of_false not_stopped fun stopped => nomatch stopped.2
  | release thread owned =>
    have some : 0 < s.leases.count := counted ▸ List.length_pos_of_mem owned
    refine ⟨s.leases.release.2, rfl, (Nat.sub_add_cancel some).symm, ?_, ?_, fun stopped => ?_⟩
    · exact iff_of_false not_started fun started => Nat.ne_of_gt some started.1
    · rw [stopped_iff]
      exact (and_iff_left_of_imp fun one => congrArg (· - 1) one).symm
    · refine List.eq_nil_of_length_eq_zero ?_
      rw [List.length_erase_of_mem owned, ← counted, stopped_iff.mp stopped]

end Step

section Run

variable {s : Site} {acts : List Act}

theorem Runs.ledger (run : Runs .start acts s) : Ledger acts s := by
  induction run with
  | nil => exact start_ledger
  | snoc _ step before => exact step.ledger before

theorem Runs.counted (run : Runs .start acts s) : s.leases.count = s.held.length := by
  induction run with
  | nil => rfl
  | snoc _ step before => exact step.counted before

theorem Runs.word (run : Runs .start acts s) (width : Nat) :
    word width acts = BitVec.ofNat width s.held.length := by
  induction run with
  | nil => rfl
  | snoc _ step before => exact step.word before

theorem Runs.turns (run : Runs .start acts s) : Alternates s.leases.isLive s.reports := by
  -- Induction on the steps; a lease that is given back has been counted.
  induction run with
  | nil => exact ⟨0, rfl⟩
  | snoc earlier step before => exact step.turns earlier.counted before

-- In whatever order threads take leases and give them back, the count is that of the leases that
-- are held, and the compiler is turned on by the first of them and off by the last one.
theorem Runs.lifecycle (run : Runs .start acts s) : Lifecycle acts s ∧
    ∀ act after, Step s act after → ∃ reported, Moves s act after reported := by
  have counted := run.counted
  refine ⟨⟨run.ledger, counted, fun width few => ?_, ?_, run.turns⟩, fun act after step =>
    step.moves counted⟩
  · rw [run.word, BitVec.toNat_ofNat, Nat.mod_eq_of_lt few]
  · rw [isLive, decide_eq_true_iff, counted]
    exact List.length_pos_iff_exists_mem

theorem lifecycle_handed_over :
    ∃ s, Runs .start [.acquire 0 0, .acquire 1 1, .release 1 0, .release 1 1, .acquire 0 2] s ∧
      s.held = [2] ∧ s.leases.count = 1 ∧
      s.reports = [.compilerStarted, .compilerJoined, .compilerStopped, .compilerStarted] ∧
      Alternates true s.reports := by
  have run : Runs .start [.acquire 0 0, .acquire 1 1, .release 1 0, .release 1 1, .acquire 0 2] _ :=
    .snoc (.snoc (.snoc (.snoc (.snoc .nil (.acquire 0 (by decide))) (.acquire 1 (by decide)))
      (.release 1 (by decide))) (.release 1 (by decide))) (.acquire 0 (by decide))
  obtain ⟨lifecycle, _⟩ := run.lifecycle
  exact ⟨_, run, rfl, lifecycle.counted, rfl, lifecycle.turns⟩

end Run

end ShaderConversion.Leases
