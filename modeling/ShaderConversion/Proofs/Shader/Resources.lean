import Mathlib.Algebra.Ring.Nat
import ShaderConversion.Shader.Resources

namespace ShaderConversion.Shader

inductive Members.Lists : Members → Kind → Binding → Prop where
  | first {kind : Kind} {binding : Binding} {rest : Members} : Lists (.cons kind binding rest) kind binding
  | later {kind kind' : Kind} {binding binding' : Binding} {rest : Members}
      (listed : rest.Lists kind binding) : Lists (.cons kind' binding' rest) kind binding

inductive Kind.Takes : Kind → Binding → UInt32 → Prop where
  | own {kind : Kind} {index : UInt32} : Takes kind (.location index) index
  | member {members : Members} {kind : Kind} {binding : Binding} {index : UInt32}
      (listed : members.Lists kind binding) (takes : kind.Takes binding index) :
      Takes (.struct members) .none index

def Value.Takes (v : Value) (index : UInt32) : Prop := v.kind.Takes v.binding index

def Kind.units : Kind → Nat
  | .image => 1
  | .array base extent => extent.count.toNat * base.units
  | .bindingArray base extent => extent.count.toNat * base.units
  | _ => 0

-- A way to count what limits bound: the invocations of a group and the texture units of variables.
structure Counting where
  volume : GroupSize → Nat
  units : List Kind → Nat

namespace Counting

def exact : Counting where
  volume size := size.x.toNat * size.y.toNat * size.z.toNat
  units globals := (globals.map Kind.units).sum

def words : Counting where
  volume size := (invocations size).toNat
  units globals := (Program.textureUnits ⟨[], globals⟩).toNat

end Counting

def EntryPoint.Fits (count : Counting) (limits : Limits) (e : EntryPoint) : Prop :=
  match e.stage with
  | .vertex => ∀ v ∈ e.arguments, ∀ index, v.Takes index → index < limits.vertexAttributes
  | .fragment => ∀ v ∈ e.result?, ∀ index, v.Takes index → index < limits.drawBuffers
  | .compute =>
    e.groupSize.x ≤ limits.groupSize.x ∧ e.groupSize.y ≤ limits.groupSize.y ∧
      e.groupSize.z ≤ limits.groupSize.z ∧ count.volume e.groupSize ≤ limits.groupInvocations.toNat
  | _ => True

namespace Program

structure Fits (count : Counting) (limits : Limits) (p : Program) : Prop where
  entryPoints : ∀ e ∈ p.entryPoints, e.Fits count limits
  units : count.units p.globals ≤ limits.textureUnits.toNat

-- Words lose nothing where the group of a compute shader is measured, and nothing at any point of
-- the way through the variables. Two sides of a group are never too much for a word.
structure CountsExactly (p : Program) : Prop where
  volume : ∀ e ∈ p.entryPoints, e.stage = .compute →
    Counting.words.volume e.groupSize = Counting.exact.volume e.groupSize
  units : ∀ front, front <+: p.globals → Counting.words.units front = Counting.exact.units front

end Program

theorem Kind.takes_location {kind : Kind} {own index : UInt32} :
    kind.Takes (.location own) index ↔ index = own := by
  constructor
  · intro takes
    cases takes
    rfl
  · rintro rfl
    exact .own

theorem Kind.takes_struct {members : Members} {index : UInt32} :
    (Kind.struct members).Takes .none index ↔
      ∃ kind binding, members.Lists kind binding ∧ kind.Takes binding index := by
  constructor
  · intro takes
    cases takes with
    | member listed takes => exact ⟨_, _, listed, takes⟩
  · rintro ⟨kind, binding, listed, takes⟩
    exact .member listed takes

theorem Kind.locations_location (kind : Kind) (index : UInt32) : kind.locations (.location index) = [index] := by
  cases kind <;> rfl

theorem Kind.locations_builtIn (kind : Kind) : kind.locations .builtIn = [] := by
  cases kind <;> rfl

mutual

-- Induction on the type: a struct asks its members, and its members are asked one by one.
theorem Kind.mem_locations (kind : Kind) (binding : Binding) (index : UInt32) :
    index ∈ kind.locations binding ↔ kind.Takes binding index := by
  cases binding with
  | location own => rw [Kind.locations_location, List.mem_singleton, Kind.takes_location]
  | builtIn =>
    rw [Kind.locations_builtIn]
    exact ⟨fun member => absurd member List.not_mem_nil, nofun⟩
  | none =>
    cases kind with
    | struct members => exact (members.mem_locations index).trans Kind.takes_struct.symm
    | _ => exact ⟨fun member => absurd member List.not_mem_nil, nofun⟩

theorem Members.mem_locations (members : Members) (index : UInt32) :
    index ∈ members.locations ↔
      ∃ kind binding, members.Lists kind binding ∧ kind.Takes binding index := by
  cases members with
  | nil =>
    refine ⟨fun member => absurd member List.not_mem_nil, ?_⟩
    rintro ⟨kind, binding, listed, _⟩
    cases listed
  | cons kind binding rest =>
    have parts : (Members.cons kind binding rest).locations = kind.locations binding ++ rest.locations := rfl
    rw [parts, List.mem_append, kind.mem_locations, rest.mem_locations]
    constructor
    · rintro (takes | ⟨kind', binding', listed, takes⟩)
      · exact ⟨kind, binding, .first, takes⟩
      · exact ⟨kind', binding', .later listed, takes⟩
    · rintro ⟨kind', binding', listed, takes⟩
      cases listed with
      | first => exact .inl takes
      | later listed => exact .inr ⟨kind', binding', listed, takes⟩

end

theorem toNat_invocations (size : GroupSize) :
    (invocations size).toNat = Counting.exact.volume size % 2 ^ 64 := by
  simp [invocations, Counting.exact, UInt64.toNat_mul]

theorem toNat_saturatingMul (a b : UInt32) : (saturatingMul a b).toNat = min (a.toNat * b.toNat) wordMax := by
  have bounded : min (a.toNat * b.toNat) wordMax < UInt32.size := by
    have : wordMax < UInt32.size := by decide
    omega
  exact UInt32.toNat_ofNat_of_lt' bounded

-- An array is not smaller than its elements, so a count that has reached its bound stays there.
theorem min_mul_min (count units bound : Nat) :
    min (count * min units bound) bound = min (count * units) bound := by
  rcases Nat.eq_zero_or_pos count with rfl | some
  · simp
  · rcases Nat.le_total units bound with below | above
    · rw [Nat.min_eq_left below]
    · have large : bound ≤ count * bound := Nat.le_mul_of_pos_left bound some
      have larger : count * bound ≤ count * units := Nat.mul_le_mul_left count above
      rw [Nat.min_eq_right above, Nat.min_eq_right large, Nat.min_eq_right (Nat.le_trans large larger)]

theorem toNat_images (kind : Kind) : kind.images.toNat = min kind.units wordMax := by
  cases kind with
  | array base extent =>
    rw [Kind.images, toNat_saturatingMul, toNat_images base, min_mul_min, Kind.units]
  | bindingArray base extent =>
    rw [Kind.images, toNat_saturatingMul, toNat_images base, min_mul_min, Kind.units]
  | _ => rfl

theorem toNat_foldl (counts : List UInt32) (start : UInt32) :
    (counts.foldl (· + ·) start).toNat = (start.toNat + (counts.map UInt32.toNat).sum) % 2 ^ 32 := by
  induction counts generalizing start with
  | nil => simp [Nat.mod_eq_of_lt start.toNat_lt]
  | cons count counts step =>
    rw [List.foldl_cons, step, UInt32.toNat_add, List.map_cons, List.sum_cons]
    omega

theorem words_units (globals : List Kind) : Counting.words.units globals =
    ((globals.map Kind.units).map fun units => min units wordMax).sum % 2 ^ 32 := by
  have images : globals.map (fun kind => kind.images.toNat) =
      globals.map fun kind => min kind.units wordMax :=
    List.map_congr_left fun kind _ => toNat_images kind
  have total : Counting.words.units globals =
      ((globals.map Kind.images).foldl (· + ·) (0 : UInt32)).toNat := rfl
  rw [total, toNat_foldl, List.map_map, List.map_map]
  simp only [Function.comp_def, images, UInt32.toNat_zero, Nat.zero_add]

theorem checkLimits_nil {p : Program} {limits : Limits} :
    p.checkLimits limits = [] ↔ (∀ e ∈ p.entryPoints, e.excess limits = []) ∧ p.textureUnits ≤ limits.textureUnits := by
  rw [Program.checkLimits, List.map_eq_nil_iff, Program.excess, List.append_eq_nil_iff, List.flatMap_eq_nil_iff]
  simp

theorem exceedsGroup_iff {size : GroupSize} {limits : Limits} :
    exceedsGroup size limits = false ↔ size.x ≤ limits.groupSize.x ∧ size.y ≤ limits.groupSize.y ∧
      size.z ≤ limits.groupSize.z ∧ Counting.words.volume size ≤ limits.groupInvocations.toNat := by
  simp [exceedsGroup, Counting.words, UInt64.le_iff_toNat_le, and_assoc]

theorem reports_nil (report : UInt32 → Excess) {values : List Value} {limit : UInt32} :
    ((values.flatMap Value.locations).filter fun index => limit ≤ index).map report = [] ↔
      ∀ v ∈ values, ∀ index, v.Takes index → index < limit := by
  rw [List.map_eq_nil_iff, List.filter_eq_nil_iff]
  simp only [List.mem_flatMap, Value.locations, Kind.mem_locations, decide_eq_true_eq, UInt32.not_le]
  exact ⟨fun below v member index takes => below index ⟨v, member, takes⟩,
    fun below index ⟨v, member, takes⟩ => below v member index takes⟩

theorem excess_nil {e : EntryPoint} {limits : Limits} :
    e.excess limits = [] ↔ e.Fits .words limits := by
  unfold EntryPoint.excess EntryPoint.Fits
  cases e.stage with
  | vertex => exact reports_nil _
  | fragment =>
    dsimp only
    rw [reports_nil]
    simp only [Option.mem_toList, Option.mem_def]
  | compute =>
    dsimp only
    rw [← exceedsGroup_iff]
    simp
  | _ => simp

theorem checkLimits_iff {p : Program} {limits : Limits} :
    p.checkLimits limits = [] ↔ p.Fits .words limits := by
  rw [checkLimits_nil]
  simp only [excess_nil]
  exact ⟨fun ⟨entryPoints, units⟩ => ⟨entryPoints, UInt32.le_iff_toNat_le.mp units⟩,
    fun fits => ⟨fits.entryPoints, UInt32.le_iff_toNat_le.mpr fits.units⟩⟩

theorem volume_exact {size : GroupSize} :
    Counting.words.volume size = Counting.exact.volume size ↔ Counting.exact.volume size < 2 ^ 64 := by
  rw [← Nat.mod_eq_iff_lt (by decide), ← toNat_invocations]
  rfl

theorem sum_min {bound : Nat} {counts : List Nat} (below : counts.sum ≤ bound) :
    (counts.map fun count => min count bound).sum = counts.sum := by
  induction counts with
  | nil => rfl
  | cons count counts step =>
    rw [List.sum_cons] at below
    rw [List.map_cons, List.sum_cons, List.sum_cons, step (by omega), Nat.min_eq_left (by omega)]

theorem units_exact {globals : List Kind} :
    Counting.words.units globals = Counting.exact.units globals ↔ Counting.exact.units globals < 2 ^ 32 := by
  constructor
  · intro same
    rw [← same]
    exact UInt32.toNat_lt _
  · intro below
    have bounded : (globals.map Kind.units).sum ≤ wordMax := Nat.le_of_lt_succ below
    rw [words_units, sum_min bounded]
    exact Nat.mod_eq_of_lt below

theorem units_front {front globals : List Kind} (starts : front <+: globals) :
    Counting.exact.units front ≤ Counting.exact.units globals := by
  obtain ⟨rest, rfl⟩ := starts
  simp [Counting.exact]

theorem countsExactly_iff {p : Program} : p.CountsExactly ↔
    (∀ e ∈ p.entryPoints, e.stage = .compute → Counting.exact.volume e.groupSize < 2 ^ 64) ∧
      Counting.exact.units p.globals < 2 ^ 32 := by
  constructor
  · rintro ⟨volume, units⟩
    exact ⟨fun e member compute => volume_exact.mp (volume e member compute),
      units_exact.mp (units p.globals (List.prefix_refl _))⟩
  · rintro ⟨volume, units⟩
    refine ⟨fun e member compute => volume_exact.mpr (volume e member compute), fun front starts => ?_⟩
    exact units_exact.mpr (Nat.lt_of_le_of_lt (units_front starts) units)

theorem EntryPoint.Fits.volume {count : Counting} {limits : Limits} {e : EntryPoint}
    (fits : e.Fits count limits) (compute : e.stage = .compute) :
    count.volume e.groupSize ≤ limits.groupInvocations.toNat := by
  unfold EntryPoint.Fits at fits
  rw [compute] at fits
  exact fits.2.2.2

theorem EntryPoint.Fits.congr {count count' : Counting} {limits : Limits} {e : EntryPoint}
    (same : e.stage = .compute → count.volume e.groupSize = count'.volume e.groupSize) :
    e.Fits count limits ↔ e.Fits count' limits := by
  unfold EntryPoint.Fits
  split
  · rfl
  · rfl
  · rename_i compute
    rw [same compute]
  · rfl

theorem Program.Fits.congr {count count' : Counting} {limits : Limits} {p : Program}
    (volume : ∀ e ∈ p.entryPoints, e.stage = .compute →
      count.volume e.groupSize = count'.volume e.groupSize)
    (units : count.units p.globals = count'.units p.globals) :
    p.Fits count limits ↔ p.Fits count' limits := by
  have same : ∀ e ∈ p.entryPoints, e.Fits count limits ↔ e.Fits count' limits :=
    fun e member => EntryPoint.Fits.congr (volume e member)
  constructor
  · rintro ⟨entryPoints, below⟩
    exact ⟨fun e member => (same e member).mp (entryPoints e member), units ▸ below⟩
  · rintro ⟨entryPoints, below⟩
    exact ⟨fun e member => (same e member).mpr (entryPoints e member), units ▸ below⟩

theorem Program.Fits.countsExactly {limits : Limits} {p : Program} (fits : p.Fits .exact limits) :
    p.CountsExactly := by
  refine countsExactly_iff.mpr ⟨fun e member compute => ?_, ?_⟩
  · have below := (fits.entryPoints e member).volume compute
    have word := limits.groupInvocations.toNat_lt
    omega
  · exact Nat.lt_of_le_of_lt fits.units limits.textureUnits.toNat_lt

-- The check finds nothing in a program that stays within the limits. The other way around this holds
-- exactly where words can count what the program uses, each group below 2^64 and all texture units
-- below 2^32.
theorem limits_decided (p : Program) (limits : Limits) :
    (p.Fits .exact limits ↔ p.checkLimits limits = [] ∧ p.CountsExactly) ∧
      (p.CountsExactly ↔
        (∀ e ∈ p.entryPoints, e.stage = .compute → Counting.exact.volume e.groupSize < 2 ^ 64) ∧
          Counting.exact.units p.globals < 2 ^ 32) := by
  refine ⟨?_, countsExactly_iff⟩
  rw [checkLimits_iff]
  constructor
  · intro fits
    have counts := fits.countsExactly
    exact ⟨(Program.Fits.congr counts.volume (counts.units _ (List.prefix_refl _))).mpr fits, counts⟩
  · rintro ⟨fits, counts⟩
    exact (Program.Fits.congr counts.volume (counts.units _ (List.prefix_refl _))).mp fits

theorem limits_overflow :
    let arrays : Program := ⟨[], List.replicate 4 (.array .image (.fixed 1073741824))⟩
    let nested : Program := ⟨[], [.array (.array .image (.fixed 65536)) (.fixed 65536)]⟩
    let group : Program := ⟨[⟨[], .compute, [], none, ⟨4194304, 4194304, 1048576⟩⟩], []⟩
    let many : Limits := ⟨32, 64, 4294967295, 1024, ⟨1024, 1024, 64⟩⟩
    let wide : Limits := ⟨32, 64, 80, 1024, ⟨4194304, 4194304, 4194304⟩⟩
    (arrays.checkLimits .default = [] ∧ ¬ arrays.Fits .exact .default) ∧
      (nested.checkLimits many = [] ∧ ¬ nested.Fits .exact many) ∧
      group.checkLimits wide = [] ∧ ¬ group.Fits .exact wide := by
  intro arrays nested group many wide
  refine ⟨⟨by decide, fun fits => ?_⟩, ⟨by decide, fun fits => ?_⟩, by decide, fun fits => ?_⟩
  · exact absurd fits.units (by decide)
  · exact absurd fits.units (by decide)
  · have within := fits.entryPoints _ List.mem_cons_self
    exact absurd (within.volume rfl) (by decide)

end ShaderConversion.Shader
