import ShaderConversion.Proofs.Target.Spelling
import ShaderConversion.Spirv.Header

namespace ShaderConversion.Target

def InRange (t : Target) : Prop :=
  lowestSpirv.atMost t.spirvVersion = true ∧ t.spirvVersion.atMost highestSpirv = true

instance (t : Target) : Decidable t.InRange := inferInstanceAs (Decidable (_ ∧ _))

theorem default_inRange : default.InRange := by decide

def name (t : Target) : Text := t.api.text ++ t.apiVersion.text

def IsOffered (t : Target) : Prop :=
  t.InRange ∧ ∃ entry ∈ known, t = { entry.2 with spirvVersion := t.spirvVersion }

theorem offered_default : default.IsOffered :=
  ⟨default_inRange, ("vulkan1.0".toList, default), by decide, rfl⟩

theorem IsNamed.offered {name : Text} {t : Target} (named : IsNamed name t) :
    t.InRange ∧ (name, t) ∈ known := by
  cases named <;> decide

theorem Spells.offered {s : Text} {t : Target} (spells : Spells s t) : t.IsOffered := by
  cases spells with
  | nothing => exact offered_default
  | name named =>
    obtain ⟨inRange, listed⟩ := named.offered
    exact ⟨inRange, _, listed, rfl⟩
  | @version _ _ _ minor named writes within =>
    obtain ⟨_, listed⟩ := named.offered
    have fits : minor < UInt8.size := Nat.lt_of_le_of_lt within (by decide)
    refine ⟨within_iff.mpr ⟨rfl, ?_⟩, _, listed, rfl⟩
    rwa [UInt8.toNat_ofNat_of_lt' fits]

theorem negotiate_offered {s? : Option Text} {t : Target} (negotiated : negotiate s? = .ok t) :
    t.IsOffered := by
  cases s? with
  | none =>
    cases negotiated
    exact offered_default
  | some s => exact (negotiate_iff.mp negotiated).offered

theorem negotiate_inRange {s? : Option Text} {t : Target} (negotiated : negotiate s? = .ok t) :
    t.InRange :=
  (negotiate_offered negotiated).1

theorem text_eq (t : Target) : t.text = t.name ++ ' ' :: ("spv".toList ++ t.spirvVersion.text) := by
  rw [text, name]
  simp

theorem writes_text (version : Revision) :
    Writes ("spv".toList ++ version.text) version.major.toNat version.minor.toNat :=
  ⟨_, _, rfl, Text.isNumeral_decimal _, Text.isNumeral_decimal _⟩

theorem IsOffered.spells {t : Target} (offered : t.IsOffered) : Spells t.text t := by
  obtain ⟨inRange, entry, listed, same⟩ := offered
  have found : ∀ entry ∈ known, known.lookup entry.1 = some entry.2 ∧ entry.2.name = entry.1 := by decide
  obtain ⟨found, called⟩ := found entry listed
  have asked : readSpirvVersion ("spv".toList ++ t.spirvVersion.text) = .ok t.spirvVersion :=
    readSpirvVersion_ok.mpr ⟨spirvVersion_iff.mpr (writes_text _), inRange⟩
  obtain ⟨minor, within, writes, version⟩ := readSpirvVersion_iff.mp asked
  have spells := Spells.version (lookup_known.mp found) writes within
  have text : t.text = entry.1 ++ ' ' :: ("spv".toList ++ t.spirvVersion.text) := by
    rw [text_eq, ← called, same]
    rfl
  rwa [← version, ← same, ← text] at spells

theorem negotiate_text {t : Target} (offered : t.IsOffered) : negotiate (some t.text) = .ok t :=
  negotiate_iff.mpr offered.spells

theorem InRange.supported {t : Target} (inRange : t.InRange) : Spirv.isSupported t.spirvVersion = true := by
  obtain ⟨major, minor⟩ := within_iff.mp inRange
  exact decide_eq_true ⟨UInt8.toNat_inj.mp major, Nat.le_trans minor (by decide)⟩

-- Every text that asks for a target is read as what it asks for and no other text is read. What has been
-- read is read again from its own text.
theorem target_spellings (s : Text) :
    (∀ t, negotiate (some s) = .ok t ↔ Spells s t) ∧
      ∀ t, negotiate (some s) = .ok t → negotiate (some t.text) = .ok t :=
  ⟨fun _ => negotiate_iff, fun _ negotiated => negotiate_text (negotiate_offered negotiated)⟩

theorem target_spellings_zeros :
    let t : Target := ⟨.vulkan, ⟨1, 1⟩, ⟨1, 4⟩⟩
    negotiate (some "vulkan1.1 spv0001.00004".toList) = .ok t ∧ Spells "vulkan1.1 spv0001.00004".toList t ∧
      negotiate (some "vulkan1.1 spv1.4".toList) = .ok t := by
  intro t
  have read : negotiate (some "vulkan1.1 spv0001.00004".toList) = .ok t := by decide
  have written : t.text = "vulkan1.1 spv1.4".toList := by decide
  obtain ⟨spelled, again⟩ := target_spellings "vulkan1.1 spv0001.00004".toList
  exact ⟨read, (spelled t).mp read, written ▸ again t read⟩

end ShaderConversion.Target
