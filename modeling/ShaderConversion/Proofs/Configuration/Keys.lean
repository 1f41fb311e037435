import ShaderConversion.Configuration.Store
import ShaderConversion.Proofs.Except

namespace ShaderConversion

def Setting.isOf : Setting → ValueKind → Bool
  | .text _, .text => true
  | .bool _, .bool => true
  | .integer value, .count => 0 ≤ value ∧ value ≤ 0xFFFFFFFF
  | _, _ => false

namespace Configuration

structure Key where
  name : Text
  kind : ValueKind
  default : Setting

namespace Key

def limit (name : Text) (default : UInt32) : Key := ⟨name, .count, .integer default.toNat⟩

def inputVersion : Key := ⟨"input_version".toList, .text, .text []⟩

def outputVersion : Key := ⟨"output_version".toList, .text, .text []⟩

def debugLevel : Key := ⟨"debug_info_level".toList, .text, .text []⟩

def limits : List Key := [
  limit "max_draw_buffers".toList 32,
  limit "max_vertex_attribs".toList 64,
  limit "max_combined_texture_image_units".toList 80,
  limit "max_compute_work_group_invocations".toList 1024,
  limit "max_compute_work_group_size_x".toList 1024,
  limit "max_compute_work_group_size_y".toList 1024,
  limit "max_compute_work_group_size_z".toList 64]

def warningsAsErrors : Key := ⟨"warnings_as_errors".toList, .bool, .bool false⟩

def all : List Key := inputVersion :: outputVersion :: debugLevel :: (limits ++ [warningsAsErrors])

def error (key : Key) : SetupError := .wrongValueType key.name key.kind

theorem all_known : (all.map name).Perm knownKeys := by decide

theorem default_isOf : ∀ key ∈ all, key.default.isOf key.kind = true := by decide

end Key

variable (c : Configuration)

def chosen (key : Key) : Setting := (c.get? key.name).getD key.default

def isMistyped (key : Key) : Bool := (c.get? key.name).any fun value => !value.isOf key.kind

-- The keys that a reader looks at, in turn. The first that is mistyped makes it fail.
def Checks {α : Type} (read : Except SetupError α) (keys : List Key) : Prop :=
  ∀ e, read = .error e ↔ (keys.find? c.isMistyped).map Key.error = some e

variable {c} {α β : Type} {read : Except SetupError α} {keys keys' : List Key}

theorem chosen_isOf {key : Key} (member : key ∈ Key.all) (typed : c.isMistyped key = false) :
    (c.chosen key).isOf key.kind = true := by
  unfold isMistyped at typed
  unfold chosen
  cases held : c.get? key.name with
  | none => exact Key.default_isOf key member
  | some value => simpa [held] using typed

theorem checks_pure (a : α) : c.Checks (pure a) [] := by
  intro e
  simp [pure, Except.pure]

theorem Checks.ok_iff (checks : c.Checks read keys) :
    (∃ a, read = .ok a) ↔ keys.find? c.isMistyped = none := by
  cases found : keys.find? c.isMistyped with
  | none =>
    cases held : read with
    | ok a => simp
    | error e =>
      have first := (checks e).mp held
      rw [found] at first
      cases first
  | some key =>
    have failed := (checks key.error).mpr (by rw [found]; rfl)
    simp [failed]

theorem Checks.bind {next : α → Except SetupError β} (checks : c.Checks read keys)
    (later : ∀ a, c.Checks (next a) keys') : c.Checks (read >>= next) (keys ++ keys') := by
  intro e
  rw [List.find?_append]
  cases held : read with
  | ok a =>
    rw [checks.ok_iff.mp ⟨a, held⟩, Option.none_or]
    exact later a e
  | error e' =>
    have first := (checks e').mp held
    obtain ⟨key, found, same⟩ := Option.map_eq_some_iff.mp first
    rw [found, Option.some_or, Option.map_some, same]
    simp [Bind.bind, Except.bind]

theorem Checks.cons {key : Key} {next : α → Except SetupError β} (checks : c.Checks read [key])
    (later : ∀ a, c.Checks (next a) keys) : c.Checks (read >>= next) (key :: keys) :=
  checks.bind later

section Readers

variable (name : Text)

theorem checks_text (default : Setting) : c.Checks (c.text name) [⟨name, .text, default⟩] := by
  intro e
  unfold text isMistyped
  rw [List.find?_singleton]
  cases c.get? name with
  | none => simp
  | some value => cases value <;> simp [Setting.isOf, Key.error]

theorem checks_flag (default : Setting) : c.Checks (c.flag name) [⟨name, .bool, default⟩] := by
  intro e
  unfold flag isMistyped
  rw [List.find?_singleton]
  cases c.get? name with
  | none => simp
  | some value => cases value <;> simp [Setting.isOf, Key.error]

theorem text_ok {s : Text} : c.text name = .ok s ↔ c.chosen ⟨name, .text, .text []⟩ = .text s := by
  unfold text chosen
  cases c.get? name with
  | none => simp
  | some value => cases value <;> simp

theorem flag_ok {b : Bool} : c.flag name = .ok b ↔ c.chosen ⟨name, .bool, .bool false⟩ = .bool b := by
  unfold flag chosen
  cases c.get? name with
  | none => simp
  | some value => cases value <;> simp

variable (default : UInt32)

theorem fits_iff {value : Int} :
    0 ≤ value ∧ value < UInt32.size ↔ (Setting.integer value).isOf .count = true := by
  rw [Setting.isOf, decide_eq_true_iff, ← Int.lt_add_one_iff (a := value)]
  rfl

theorem checks_count : c.Checks (c.count name default) [.limit name default] := by
  intro e
  unfold count isMistyped Key.limit
  rw [List.find?_singleton]
  cases c.get? name with
  | none => simp
  | some value =>
    cases value with
    | integer value =>
      simp only [fits_iff]
      cases fits : (Setting.integer value).isOf .count <;> simp [fits, Key.error]
    | bool | text => simp [Setting.isOf, Key.error]

theorem count_ok {n : UInt32} :
    c.count name default = .ok n ↔ c.chosen (.limit name default) = .integer n.toNat := by
  unfold count chosen Key.limit
  cases c.get? name with
  | none =>
    simp only [Except.ok.injEq, Option.getD_none, Setting.integer.injEq, Int.natCast_inj, UInt32.toNat_inj]
  | some value =>
    cases value with
    | integer value =>
      by_cases fits : 0 ≤ value ∧ value < UInt32.size
      · have same : (UInt32.ofNat value.toNat).toNat = value.toNat :=
          UInt32.toNat_ofNat_of_lt' ((Int.toNat_lt fits.1).mpr fits.2)
        simp only [if_pos fits, Except.ok.injEq, ← UInt32.toNat_inj, same, Option.getD_some,
          Setting.integer.injEq]
        omega
      · simp only [if_neg fits, reduceCtorEq, Option.getD_some, Setting.integer.injEq, false_iff]
        rintro rfl
        exact fits ⟨Int.natCast_nonneg _, Int.ofNat_lt.mpr n.toNat_lt⟩
    | bool | text => simp

end Readers

theorem checks_limits : c.Checks c.limits Key.limits :=
  .cons (checks_count _ _) fun _ => .cons (checks_count _ _) fun _ => .cons (checks_count _ _) fun _ =>
    .cons (checks_count _ _) fun _ => .cons (checks_count _ _) fun _ => .cons (checks_count _ _) fun _ =>
      .cons (checks_count _ _) fun _ => checks_pure _

theorem limits_ok {limits : Limits} : c.limits = .ok limits ↔
    Key.limits.map c.chosen = limits.toList.map fun limit => .integer limit.toNat := by
  simp only [Configuration.limits, bind_ok, count_ok, Key.limits, Limits.toList, List.map_cons,
    List.cons.injEq, Limits.default]
  constructor
  · rintro ⟨_, buffers, _, attributes, _, units, _, invocations, _, x, _, y, _, z, same⟩
    cases same
    exact ⟨buffers, attributes, units, invocations, x, y, z, rfl⟩
  · rintro ⟨buffers, attributes, units, invocations, x, y, z, -⟩
    exact ⟨_, buffers, _, attributes, _, units, _, invocations, _, x, _, y, _, z, rfl⟩

end Configuration

end ShaderConversion
