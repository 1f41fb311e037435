import ShaderConversion.Proofs.Target.Spelling

namespace ShaderConversion.Target

inductive VersionFault : Text → SetupError → Prop where
  | form {version : Text} (malformed : ∀ x y, ¬ Writes version x y) :
      VersionFault version (.malformedSpirvVersion version)
  | range {version : Text} {x y : Nat} (writes : Writes version x y) (outside : ¬ (x = 1 ∧ y ≤ 5)) :
      VersionFault version (.spirvVersionOutOfRange version)

inductive Fault : Text → SetupError → Prop where
  | name {s name : Text} {version? : Option Text} (splits : Splits s name version?)
      (unknown : ∀ t, ¬ IsNamed name t) : Fault s (.unknownTarget name)
  | version {s name version : Text} {t : Target} {e : SetupError} (splits : Splits s name (some version))
      (named : IsNamed name t) (fault : VersionFault version e) : Fault s e

-- A known target with a well-formed version that has a number beyond a byte.
inductive Overflows : Text → Text → Prop where
  | version {s name version : Text} {t : Target} {x y : Nat} (splits : Splits s name (some version))
      (named : IsNamed name t) (writes : Writes version x y) (large : UInt8.size ≤ x ∨ UInt8.size ≤ y) :
      Overflows s version

theorem spirvVersion_none {s : Text} : spirvVersion? s = none ↔
    ∀ x y, Writes s x y → UInt8.size ≤ x ∨ UInt8.size ≤ y := by
  constructor
  · intro unread x y writes
    by_contra fits
    obtain ⟨left, right⟩ := not_or.mp fits
    cases unread.symm.trans (spirvVersion_of_writes writes (Nat.lt_of_not_le left) (Nat.lt_of_not_le right))
  · intro large
    cases read : spirvVersion? s with
    | none => rfl
    | some version =>
      rcases large _ _ (spirvVersion_iff.mp read) with left | right
      · exact absurd version.major.toNat_lt (Nat.not_lt.mpr left)
      · exact absurd version.minor.toNat_lt (Nat.not_lt.mpr right)

theorem readSpirvVersion_large {s : Text} {x y : Nat} (writes : Writes s x y)
    (large : UInt8.size ≤ x ∨ UInt8.size ≤ y) : readSpirvVersion s = .error (.malformedSpirvVersion s) := by
  have unread : spirvVersion? s = none := by
    refine spirvVersion_none.mpr fun x' y' writes' => ?_
    obtain ⟨rfl, rfl⟩ := writes.unique writes'
    exact large
  rw [readSpirvVersion, unread]
  rfl

theorem readSpirvVersion_error {s : Text} (fits : ∀ x y, Writes s x y → x < UInt8.size ∧ y < UInt8.size)
    {e : SetupError} : readSpirvVersion s = .error e ↔ VersionFault s e := by
  unfold readSpirvVersion
  constructor
  · intro failed
    rcases bind_error.mp failed with unread | ⟨version, read, failed⟩
    · obtain ⟨missing, rfl⟩ := SetupError.orError_error.mp unread
      refine .form fun x y writes => ?_
      have large := spirvVersion_none.mp missing x y writes
      have small := fits x y writes
      omega
    · have writes := spirvVersion_iff.mp (SetupError.orError_ok.mp read)
      split at failed
      · cases failed
      · rename_i outside
        cases failed
        exact .range writes fun within => outside (within_iff.mpr within)
  · intro fault
    cases fault with
    | form malformed =>
      have unread : spirvVersion? s = none :=
        spirvVersion_none.mpr fun x y writes => absurd writes (malformed x y)
      rw [unread]
      rfl
    | @range x y writes outside =>
      obtain ⟨left, right⟩ := fits x y writes
      refine bind_error.mpr (.inr ⟨_, SetupError.orError_ok.mpr (spirvVersion_of_writes writes left right), ?_⟩)
      rw [if_neg]
      rw [within_iff, UInt8.toNat_ofNat_of_lt' left, UInt8.toNat_ofNat_of_lt' right]
      exact outside

theorem ofText_unknown {s name : Text} {version? : Option Text} (splits : Splits s name version?)
    (unknown : ∀ t, ¬ IsNamed name t) : ofText s = .error (.unknownTarget name) := by
  have missing : known.lookup name = none := by
    cases found : known.lookup name with
    | none => rfl
    | some t => exact absurd (lookup_known.mp found) (unknown t)
  rw [ofText_splits splits, missing]
  rfl

theorem ofText_named {s name version : Text} {t : Target} (splits : Splits s name (some version))
    (named : IsNamed name t) {e : SetupError} : ofText s = .error e ↔ readSpirvVersion version = .error e := by
  rw [ofText_splits splits, lookup_known.mpr named]
  exact map_error

theorem negotiate_fault {s : Text} {e : SetupError} (fits : ∀ version, ¬ Overflows s version) :
    negotiate (some s) = .error e ↔ s ≠ [] ∧ Fault s e := by
  have small {name version : Text} {t : Target} (splits : Splits s name (some version)) (named : IsNamed name t)
      (x y : Nat) (writes : Writes version x y) : x < UInt8.size ∧ y < UInt8.size := by
    by_contra large
    exact fits version (.version splits named writes (by omega))
  constructor
  · intro failed
    have given : s ≠ [] := by
      rintro rfl
      cases failed
    refine ⟨given, ?_⟩
    rw [negotiate_given given] at failed
    obtain ⟨name, version?, splits⟩ := exists_splits s
    by_cases known : ∃ t, IsNamed name t
    · obtain ⟨t, named⟩ := known
      cases version? with
      | none =>
        rw [ofText_splits splits, lookup_known.mpr named] at failed
        cases failed
      | some version =>
        have asked := (ofText_named splits named).mp failed
        exact .version splits named ((readSpirvVersion_error (small splits named)).mp asked)
    · have unknown := not_exists.mp known
      cases (ofText_unknown splits unknown).symm.trans failed
      exact .name splits unknown
  · rintro ⟨given, fault⟩
    rw [negotiate_given given]
    cases fault with
    | name splits unknown => exact ofText_unknown splits unknown
    | version splits named fault =>
      exact (ofText_named splits named).mpr ((readSpirvVersion_error (small splits named)).mpr fault)

-- A text that is refused is told the first thing wrong with it, unless its version is well formed and has
-- a number that a byte does not hold. Such a version is out of range and is called malformed.
theorem target_faults (s : Text) :
    ((∀ version, ¬ Overflows s version) → ∀ e, negotiate (some s) = .error e ↔ s ≠ [] ∧ Fault s e) ∧
      ∀ version, Overflows s version →
        negotiate (some s) = .error (.malformedSpirvVersion version) ∧ Fault s (.spirvVersionOutOfRange version) := by
  refine ⟨fun fits _ => negotiate_fault fits, ?_⟩
  rintro version ⟨splits, named, writes, large⟩
  have outside : ∀ x y : Nat, UInt8.size ≤ x ∨ UInt8.size ≤ y → ¬ (x = 1 ∧ y ≤ 5) := by
    have bytes : UInt8.size = 256 := rfl
    omega
  refine ⟨?_, .version splits named (.range writes (outside _ _ large))⟩
  rw [negotiate_given splits.given, ofText_named splits named]
  exact readSpirvVersion_large writes large

theorem target_faults_range :
    let s := "vulkan1.1 spv1.006".toList
    (∀ version, ¬ Overflows s version) ∧ s ≠ [] ∧ Fault s (.spirvVersionOutOfRange "spv1.006".toList) ∧
      negotiate (some s) = .error (.spirvVersionOutOfRange "spv1.006".toList) := by
  intro s
  have splits : Splits s "vulkan1.1".toList (some "spv1.006".toList) :=
    .parts (show ' ' ∉ "vulkan1.1".toList by decide)
  have major : Text.IsNumeral "1".toList 1 := Text.isNumeral_of_isDigits (by decide) rfl
  have minor : Text.IsNumeral "006".toList 6 := Text.isNumeral_of_isDigits (by decide) rfl
  have writes : Writes "spv1.006".toList 1 6 := ⟨_, _, rfl, major, minor⟩
  have fits : ∀ version, ¬ Overflows s version := by
    rintro version ⟨splits', _, writes', large⟩
    cases (splits.unique splits').2
    obtain ⟨rfl, rfl⟩ := writes.unique writes'
    exact absurd large (by decide)
  have failed : negotiate (some s) = .error (.spirvVersionOutOfRange "spv1.006".toList) := by decide
  obtain ⟨given, fault⟩ := ((target_faults s).1 fits _).mp failed
  exact ⟨fits, given, fault, failed⟩

theorem large_version_malformed :
    let s := "vulkan1.0 spv1.256".toList
    negotiate (some s) = .error (.malformedSpirvVersion "spv1.256".toList) ∧
      Fault s (.spirvVersionOutOfRange "spv1.256".toList) ∧
      ¬ Fault s (.malformedSpirvVersion "spv1.256".toList) := by
  intro s
  have splits : Splits s "vulkan1.0".toList (some "spv1.256".toList) :=
    .parts (show ' ' ∉ "vulkan1.0".toList by decide)
  have major : Text.IsNumeral "1".toList 1 := Text.isNumeral_of_isDigits (by decide) rfl
  have minor : Text.IsNumeral "256".toList 256 := Text.isNumeral_of_isDigits (by decide) rfl
  have writes : Writes "spv1.256".toList 1 256 := ⟨_, _, rfl, major, minor⟩
  refine ⟨by decide, .version splits .vulkan10 (.range writes (by decide)), ?_⟩
  rintro (_ | ⟨splits', _, _ | _⟩)
  rename_i malformed
  exact malformed 1 256 writes

end ShaderConversion.Target
