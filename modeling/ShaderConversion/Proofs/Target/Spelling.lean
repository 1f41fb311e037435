import Mathlib.Data.List.Basic
import ShaderConversion.Proofs.Except
import ShaderConversion.Proofs.Text.Numeral
import ShaderConversion.Target

namespace ShaderConversion

theorem Revision.atMost_iff {r s : Revision} : r.atMost s = true ↔
    r.major.toNat < s.major.toNat ∨ r.major = s.major ∧ r.minor.toNat ≤ s.minor.toNat := by
  rw [atMost, compare, Ordering.isLE_then_iff_or, Nat.compare_eq_lt, Nat.compare_eq_eq, Nat.isLE_compare,
    UInt8.toNat_inj]

namespace Target

inductive IsNamed : Text → Target → Prop where
  | openGl45 : IsNamed "opengl4.5".toList ⟨.openGl, ⟨4, 5⟩, ⟨1, 0⟩⟩
  | vulkan10 : IsNamed "vulkan1.0".toList ⟨.vulkan, ⟨1, 0⟩, ⟨1, 0⟩⟩
  | vulkan11 : IsNamed "vulkan1.1".toList ⟨.vulkan, ⟨1, 1⟩, ⟨1, 3⟩⟩
  | vulkan12 : IsNamed "vulkan1.2".toList ⟨.vulkan, ⟨1, 2⟩, ⟨1, 5⟩⟩

-- A SPIR-V version with numbers of any size, each behind any count of zeros.
def Writes (s : Text) (x y : Nat) : Prop :=
  ∃ major minor : Text, s = "spv".toList ++ (major ++ '.' :: minor) ∧ major.IsNumeral x ∧ minor.IsNumeral y

-- The texts that ask for a target.
inductive Spells : Text → Target → Prop where
  | nothing : Spells [] ⟨.vulkan, ⟨1, 0⟩, ⟨1, 0⟩⟩
  | name {name : Text} {t : Target} (named : IsNamed name t) : Spells name t
  | version {name version : Text} {t : Target} {minor : Nat} (named : IsNamed name t)
      (writes : Writes version 1 minor) (within : minor ≤ 5) :
      Spells (name ++ ' ' :: version) { t with spirvVersion := ⟨1, UInt8.ofNat minor⟩ }

inductive Splits : Text → Text → Option Text → Prop where
  | whole {s : Text} (unspaced : ' ' ∉ s) : Splits s s none
  | parts {name version : Text} (unspaced : ' ' ∉ name) : Splits (name ++ ' ' :: version) name (some version)

theorem lookup_known {name : Text} {t : Target} : known.lookup name = some t ↔ IsNamed name t := by
  constructor
  · intro found
    obtain ⟨before, after, parts, _⟩ := List.lookup_eq_some_iff.mp found
    have member : (name, t) ∈ known := by simp [parts]
    simp only [known, List.mem_cons, List.not_mem_nil, or_false, Prod.mk.injEq] at member
    rcases member with ⟨rfl, rfl⟩ | ⟨rfl, rfl⟩ | ⟨rfl, rfl⟩ | ⟨rfl, rfl⟩
    · exact .openGl45
    · exact .vulkan10
    · exact .vulkan11
    · exact .vulkan12
  · intro named
    cases named <;> decide

theorem IsNamed.text {name : Text} {t : Target} (named : IsNamed name t) : name ≠ [] ∧ ' ' ∉ name := by
  cases named <;> decide

theorem versionPart_iff {s : Text} {n : UInt8} : versionPart? s = some n ↔ s.IsNumeral n.toNat := by
  unfold versionPart?
  rw [Option.map_eq_some_iff]
  constructor
  · rintro ⟨value, read, rfl⟩
    obtain ⟨numeral, below⟩ := (Text.decimalBelow_iff (by decide)).mp read
    rwa [UInt8.toNat_ofNat_of_lt' below]
  · intro numeral
    exact ⟨n.toNat, (Text.decimalBelow_iff (by decide)).mpr ⟨numeral, n.toNat_lt⟩, UInt8.ofNat_toNat⟩

theorem spirvVersion_iff {s : Text} {version : Revision} :
    spirvVersion? s = some version ↔ Writes s version.major.toNat version.minor.toNat := by
  unfold spirvVersion?
  constructor
  · intro read
    obtain ⟨numbers, word, read⟩ := Option.bind_eq_some_iff.mp read
    obtain ⟨⟨major, minor⟩, cut, read⟩ := Option.bind_eq_some_iff.mp read
    obtain ⟨x, before, read⟩ := Option.bind_eq_some_iff.mp read
    obtain ⟨y, behind, read⟩ := Option.bind_eq_some_iff.mp read
    cases Option.some.inj read
    refine ⟨major, minor, ?_, versionPart_iff.mp before, versionPart_iff.mp behind⟩
    rw [← List.isPrefixOf?_eq_some_iff_append_eq.mp word, (Text.cutAt_some.mp cut).2]
  · rintro ⟨major, minor, rfl, before, behind⟩
    have word : "spv".toList.isPrefixOf? ("spv".toList ++ (major ++ '.' :: minor)) = some (major ++ '.' :: minor) := rfl
    have cut : Text.cutAt '.' (major ++ '.' :: minor) = some (major, minor) :=
      Text.cutAt_append (before.plain (by decide)) minor
    rw [word, Option.bind_eq_bind, Option.bind_some, cut, Option.bind_eq_bind, Option.bind_some]
    dsimp only
    rw [versionPart_iff.mpr before, versionPart_iff.mpr behind]
    rfl

theorem Writes.unique {s : Text} {x y x' y' : Nat} (writes : Writes s x y) (writes' : Writes s x' y') :
    x = x' ∧ y = y' := by
  obtain ⟨major, minor, rfl, before, behind⟩ := writes
  obtain ⟨major', minor', parts, before', behind'⟩ := writes'
  have cut := Text.cutAt_append (before.plain (c := '.') (by decide)) minor
  rw [List.append_cancel_left parts, Text.cutAt_append (before'.plain (by decide)) minor'] at cut
  cases cut
  exact ⟨before.unique before', behind.unique behind'⟩

theorem within_iff {version : Revision} : lowestSpirv.atMost version = true ∧ version.atMost highestSpirv = true ↔
    version.major.toNat = 1 ∧ version.minor.toNat ≤ 5 := by
  have low : lowestSpirv.major.toNat = 1 ∧ lowestSpirv.minor.toNat = 0 := by decide
  have high : highestSpirv.major.toNat = 1 ∧ highestSpirv.minor.toNat = 5 := by decide
  rw [Revision.atMost_iff, Revision.atMost_iff, ← UInt8.toNat_inj, ← UInt8.toNat_inj]
  omega

theorem spirvVersion_of_writes {s : Text} {x y : Nat} (writes : Writes s x y) (left : x < UInt8.size)
    (right : y < UInt8.size) : spirvVersion? s = some ⟨UInt8.ofNat x, UInt8.ofNat y⟩ := by
  apply spirvVersion_iff.mpr
  rwa [UInt8.toNat_ofNat_of_lt' left, UInt8.toNat_ofNat_of_lt' right]

theorem readSpirvVersion_ok {s : Text} {version : Revision} : readSpirvVersion s = .ok version ↔
    spirvVersion? s = some version ∧
      lowestSpirv.atMost version = true ∧ version.atMost highestSpirv = true := by
  unfold readSpirvVersion
  constructor
  · intro read
    obtain ⟨found, given, read⟩ := bind_ok.mp read
    split at read
    · rename_i within
      cases read
      exact ⟨SetupError.orError_ok.mp given, within⟩
    · cases read
  · rintro ⟨given, within⟩
    exact bind_ok.mpr ⟨version, SetupError.orError_ok.mpr given, if_pos within⟩

theorem readSpirvVersion_iff {s : Text} {version : Revision} : readSpirvVersion s = .ok version ↔
    ∃ minor ≤ 5, Writes s 1 minor ∧ version = ⟨1, UInt8.ofNat minor⟩ := by
  rw [readSpirvVersion_ok, within_iff]
  constructor
  · rintro ⟨read, major, minor⟩
    have writes := spirvVersion_iff.mp read
    rw [major] at writes
    have one : version.major = 1 := UInt8.toNat_inj.mp major
    exact ⟨_, minor, writes, by rw [UInt8.ofNat_toNat, ← one]⟩
  · rintro ⟨minor, within, writes, rfl⟩
    have fits : minor < UInt8.size := Nat.lt_of_le_of_lt within (by decide)
    refine ⟨spirvVersion_of_writes writes (by decide) fits, rfl, ?_⟩
    rwa [UInt8.toNat_ofNat_of_lt' fits]

theorem exists_splits (s : Text) : ∃ name version?, Splits s name version? := by
  by_cases spaced : ' ' ∈ s
  · obtain ⟨name, version, rfl, unspaced⟩ := List.eq_append_cons_of_mem spaced
    exact ⟨name, some version, .parts unspaced⟩
  · exact ⟨s, none, .whole spaced⟩

theorem Splits.cut {s name : Text} {version? : Option Text} (splits : Splits s name version?) :
    (s.cutAt ' ').elim (s, none) (fun parts => (parts.1, some parts.2)) = (name, version?) := by
  cases splits with
  | whole unspaced => rw [Text.cutAt_none unspaced, Option.elim_none]
  | parts unspaced => rw [Text.cutAt_append unspaced, Option.elim_some]

theorem ofText_splits {s name : Text} {version? : Option Text} (splits : Splits s name version?) :
    ofText s = SetupError.orError (known.lookup name) (.unknownTarget name) >>= fun t =>
      version?.elim (.ok t) fun version =>
        (readSpirvVersion version).map fun asked => { t with spirvVersion := asked } := by
  unfold ofText
  cases splits with
  | whole unspaced =>
    rw [Text.cutAt_none unspaced]
    rfl
  | @parts _ version unspaced =>
    rw [Text.cutAt_append unspaced]
    have last (t : Target) : (do return { t with spirvVersion := ← readSpirvVersion version }) =
        (readSpirvVersion version).map fun asked => { t with spirvVersion := asked } := by
      cases readSpirvVersion version <;> rfl
    simp only [last]
    rfl

theorem Splits.unique {s name name' : Text} {version? version?' : Option Text} (splits : Splits s name version?)
    (splits' : Splits s name' version?') : name = name' ∧ version? = version?' :=
  Prod.mk.inj (splits.cut.symm.trans splits'.cut)

theorem Splits.given {s name version : Text} (splits : Splits s name (some version)) : s ≠ [] := by
  cases splits with
  | parts _ => simp

theorem negotiate_given {s : Text} (given : s ≠ []) : negotiate (some s) = ofText s := if_neg given

theorem negotiate_iff {s : Text} {t : Target} : negotiate (some s) = .ok t ↔ Spells s t := by
  constructor
  · intro negotiated
    by_cases given : s = []
    · subst given
      cases negotiated
      exact .nothing
    · obtain ⟨name, version?, splits⟩ := exists_splits s
      rw [negotiate_given given, ofText_splits splits] at negotiated
      obtain ⟨implied, found, read⟩ := bind_ok.mp negotiated
      have named := lookup_known.mp (SetupError.orError_ok.mp found)
      clear negotiated
      cases splits with
      | whole _ =>
        cases read
        exact .name named
      | parts _ =>
        obtain ⟨version, asked, rfl⟩ := map_ok.mp read
        obtain ⟨minor, within, writes, rfl⟩ := readSpirvVersion_iff.mp asked
        exact .version named writes within
  · intro spells
    cases spells with
    | nothing => rfl
    | name named =>
      obtain ⟨given, unspaced⟩ := named.text
      rw [negotiate_given given, ofText_splits (.whole unspaced), lookup_known.mpr named]
      rfl
    | version named writes within =>
      obtain ⟨given, unspaced⟩ := named.text
      have asked := readSpirvVersion_iff.mpr ⟨_, within, writes, rfl⟩
      rw [negotiate_given (by simp), ofText_splits (.parts unspaced), lookup_known.mpr named]
      exact bind_ok.mpr ⟨_, rfl, map_ok.mpr ⟨_, asked, rfl⟩⟩

end Target

end ShaderConversion
