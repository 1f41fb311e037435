import ShaderConversion.Proofs.Except
import ShaderConversion.Proofs.Spirv.Header

namespace ShaderConversion.Spirv

def wordIn (bytes : List UInt8) (i : Nat) (within : 4 * i + 4 ≤ bytes.length) : UInt32 :=
  UInt32.ofNat (bytes[4 * i].toNat + bytes[4 * i + 1].toNat * 0x100 +
    bytes[4 * i + 2].toNat * 0x10000 + bytes[4 * i + 3].toNat * 0x1000000)

-- The checks of a header where its words stand in the bytes. Once the size is known, none of the
-- three is looked for behind the end.
def readHeaderInPlace (bytes : List UInt8) : Except HeaderError Header :=
  if short : bytes.length < 20 then .error (.tooSmall bytes.length)
  else if bytes.length % 4 ≠ 0 then .error (.notAligned bytes.length)
  else
    let first := wordIn bytes 0 (by omega)
    let version := wordIn bytes 1 (by omega)
    let bound := wordIn bytes 3 (by omega)
    if first ≠ magic then .error (.wrongMagic first)
    else if !isSupported (revisionOfWord version) then
      .error (.unsupportedVersion (revisionOfWord version))
    else if bound = 0 then .error .zeroBound
    else .ok ⟨revisionOfWord version, bound⟩

section InPlace

variable {bytes : List UInt8} {i : Nat}

theorem wordAt_within (within : 4 * i + 4 ≤ bytes.length) :
    wordAt? bytes i = some (wordIn bytes i within) := by
  have four : bytes.drop (4 * i) = bytes[4 * i] :: bytes[4 * i + 1] :: bytes[4 * i + 2] ::
      bytes[4 * i + 3] :: bytes.drop (4 * i + 4) := by
    rw [List.drop_eq_getElem_cons (by omega), List.drop_eq_getElem_cons (by omega),
      List.drop_eq_getElem_cons (by omega), List.drop_eq_getElem_cons (by omega)]
  unfold wordAt?
  rw [four, wordIn, ← toNat_word, UInt32.ofNat_toNat]

theorem wordIn_eq {w : UInt32} (within : 4 * i + 4 ≤ bytes.length) (read : wordAt? bytes i = some w) :
    wordIn bytes i within = w :=
  Option.some.inj ((wordAt_within within).symm.trans read)

theorem getElem_wordsOfBytes (bytes : List UInt8) (i : Nat) : (wordsOfBytes bytes)[i]? = wordAt? bytes i := by
  have few : (bytes.drop (bytes.length - bytes.length % 4)).length < 4 := by
    rw [List.length_drop]
    omega
  have whole : bytesOfWords (wordsOfBytes bytes) ++ bytes.drop (bytes.length - bytes.length % 4) = bytes := by
    rw [bytes_wordsOfBytes, List.take_append_drop]
  rw [← wordAt_append (wordsOfBytes bytes) few, whole]

theorem getElem_inPlace (bytes : List UInt8) (i : Nat) : (wordsOfBytes bytes)[i]? =
    if within : 4 * i + 4 ≤ bytes.length then some (wordIn bytes i within) else none := by
  rw [getElem_wordsOfBytes]
  split
  · rename_i within
    exact wordAt_within within
  · rename_i short
    exact wordAt_none (Nat.lt_of_not_le short)

theorem readHeader_inPlace (bytes : List UInt8) : readHeader bytes = readHeaderInPlace bytes := by
  by_cases short : bytes.length < 20
  · rw [readHeader, readHeaderInPlace, if_pos short, dif_pos short]
  · by_cases aligned : bytes.length % 4 = 0
    · obtain ⟨first, version, tool, bound, reserved, more, rfl⟩ :=
        exists_words (Nat.le_of_not_lt short) aligned
      have read := wordAt_bytesOfWords (first :: version :: tool :: bound :: reserved :: more)
      rw [readHeader_words, readHeaderInPlace, dif_neg short, if_neg (not_not_intro aligned)]
      simp only [wordIn_eq _ (read 0), wordIn_eq _ (read 1), wordIn_eq _ (read 3)]
    · rw [readHeader, readHeaderInPlace, if_neg short, if_pos aligned, dif_neg short, if_pos aligned]

theorem aligned_iff : bytesOfWords (wordsOfBytes bytes) = bytes ↔ bytes.length % 4 = 0 := by
  constructor
  · intro whole
    rw [← whole, length_bytesOfWords, Nat.mul_mod_right]
  · exact bytesOfWords_wordsOfBytes

theorem framed_inPlace {version bound : UInt32} : Framed bytes version bound ↔
    bytesOfWords (wordsOfBytes bytes) = bytes ∧ ∃ long : 20 ≤ bytes.length,
      (wordIn bytes 0 (by omega) = magic ∧ (wordsOfBytes bytes)[0]? = some magic) ∧
      (wordIn bytes 1 (by omega) = version ∧ (wordsOfBytes bytes)[1]? = some version) ∧
      (wordIn bytes 3 (by omega) = bound ∧ (wordsOfBytes bytes)[3]? = some bound) ∧ bound ≠ 0 := by
  simp only [aligned_iff, getElem_wordsOfBytes]
  constructor
  · intro framed
    exact ⟨framed.aligned, framed.long, ⟨wordIn_eq _ framed.first, framed.first⟩,
      ⟨wordIn_eq _ framed.second, framed.second⟩, ⟨wordIn_eq _ framed.fourth, framed.fourth⟩, framed.bounded⟩
  · intro ⟨aligned, long, first, second, fourth, bounded⟩
    exact ⟨long, aligned, first.2, second.2, fourth.2, bounded⟩

theorem Module.ofBytes_iff {stage : Stage} {m : Module} : ofBytes stage bytes = .ok m ↔
    m.stage = stage ∧ m.bytes = bytes ∧ ∃ version bound, Framed bytes version bound ∧
      isSupported (revisionOfWord version) = true ∧ m.version = revisionOfWord version := by
  rw [ofBytes, map_ok]
  constructor
  · rintro ⟨h, read, rfl⟩
    obtain ⟨version, framed, supported, same⟩ := readHeader_iff.mp read
    exact ⟨rfl, rfl, version, h.bound, framed, supported, same⟩
  · rintro ⟨rfl, rfl, version, bound, framed, supported, same⟩
    exact ⟨⟨m.version, bound⟩, readHeader_iff.mpr ⟨version, framed, supported, same⟩, rfl⟩

end InPlace

-- Words survive being written, and bytes being read up to those that fill no word. The words that a
-- header is checked by are read in place; each is the word of the list at the same place. A module
-- is accepted exactly when its words are written as its bytes again and pass these checks.
theorem word_conversion (words : List UInt32) (bytes : List UInt8) :
    wordsOfBytes (bytesOfWords words) = words ∧
    bytesOfWords (wordsOfBytes bytes) = bytes.take (bytes.length - bytes.length % 4) ∧
    (∀ i, (wordsOfBytes bytes)[i]? =
      if within : 4 * i + 4 ≤ bytes.length then some (wordIn bytes i within) else none) ∧
    readHeader bytes = readHeaderInPlace bytes ∧
    ∀ (stage : Stage) (m : Module), Module.ofBytes stage bytes = .ok m ↔
      m.stage = stage ∧ m.bytes = bytes ∧ bytesOfWords m.words = bytes ∧
      ∃ (long : 20 ≤ bytes.length) (version bound : UInt32),
        (wordIn bytes 0 (by omega) = magic ∧ m.words[0]? = some magic) ∧
        (wordIn bytes 1 (by omega) = version ∧ m.words[1]? = some version) ∧
        (wordIn bytes 3 (by omega) = bound ∧ m.words[3]? = some bound) ∧
        isSupported (revisionOfWord version) = true ∧ m.version = revisionOfWord version ∧ bound ≠ 0 := by
  refine ⟨wordsOfBytes_bytesOfWords words, bytes_wordsOfBytes bytes, getElem_inPlace bytes,
    readHeader_inPlace bytes, fun stage m => ?_⟩
  rw [Module.ofBytes_iff]
  constructor
  · rintro ⟨stage', rfl, version, bound, framed, supported, same⟩
    obtain ⟨whole, long, first, second, fourth, bounded⟩ := framed_inPlace.mp framed
    exact ⟨stage', rfl, whole, long, version, bound, first, second, fourth, supported, same, bounded⟩
  · rintro ⟨stage', rfl, whole, long, version, bound, first, second, fourth, supported, same, bounded⟩
    have framed : Framed m.bytes version bound :=
      framed_inPlace.mpr ⟨whole, long, first, second, fourth, bounded⟩
    exact ⟨stage', rfl, version, bound, framed, supported, same⟩

example : bytesOfWords [magic, 0x00010300] = [0x03, 0x02, 0x23, 0x07, 0x00, 0x03, 0x01, 0x00] ∧
    wordsOfBytes [0x03, 0x02, 0x23, 0x07, 0x00, 0x03, 0x01] = [magic] := by decide

end ShaderConversion.Spirv
