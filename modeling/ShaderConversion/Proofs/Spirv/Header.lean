import ShaderConversion.Proofs.Spirv.Word
import ShaderConversion.Spirv.Module

namespace ShaderConversion.Spirv

theorem toNat_wordOfRevision (r : Revision) :
    (wordOfRevision r).toNat = r.minor.toNat * 0x100 + r.major.toNat * 0x10000 := by
  have major : r.major.toUInt32.toNat < 0x100 := r.major.toNat_lt
  have minor : r.minor.toUInt32.toNat < 0x100 := r.minor.toNat_lt
  have low : ((0 : UInt32) ||| (r.minor.toUInt32 <<< 8)).toNat = 0 + r.minor.toUInt32.toNat * 0x100 :=
    toNat_join 0x100 (by decide) rfl (by decide) (by omega)
  rw [UInt32.zero_or, Nat.zero_add] at low
  rw [wordOfRevision, UInt32.or_comm,
    toNat_join 0x10000 (by decide) rfl (by rw [low]; omega) (by omega), low]
  rfl

theorem revisionOfWord_wordOfRevision (r : Revision) : revisionOfWord (wordOfRevision r) = r := by
  obtain ⟨major, minor⟩ := r
  have boundMajor := major.toNat_lt
  have boundMinor := minor.toNat_lt
  simp only [revisionOfWord, Revision.mk.injEq, ← UInt8.toNat_inj]
  simp [Nat.shiftRight_eq_div_pow, toNat_wordOfRevision]
  omega

theorem take_bytesOfWords (n : Nat) (words : List UInt32) :
    (bytesOfWords words).take (4 * n) = bytesOfWords (words.take n) := by
  induction words generalizing n with
  | nil => simp [bytesOfWords]
  | cons w words taken =>
    cases n with
    | zero => rfl
    | succ n =>
      have bytes : bytesOfWords (w :: words) = wordBytes w ++ bytesOfWords words := rfl
      have four : (wordBytes w).length = 4 := rfl
      rw [bytes, List.take_append, four, List.take_of_length_le (by omega), List.take_succ_cons,
        Nat.mul_succ, Nat.add_sub_cancel, taken]
      rfl

def wordAt? (bytes : List UInt8) (i : Nat) : Option UInt32 :=
  match bytes.drop (4 * i) with
  | a :: b :: c :: d :: _ => some (word a b c d)
  | _ => none

-- Bytes with the first words of a module, whatever version stands in the second one.
structure Framed (bytes : List UInt8) (version bound : UInt32) : Prop where
  long : 20 ≤ bytes.length
  aligned : bytes.length % 4 = 0
  first : wordAt? bytes 0 = some magic
  second : wordAt? bytes 1 = some version
  fourth : wordAt? bytes 3 = some bound
  bounded : bound ≠ 0

def Header.IsOf (h : Header) (bytes : List UInt8) : Prop :=
  ∃ minor : UInt8, minor ≤ 6 ∧ h.version = ⟨1, minor⟩ ∧
    Framed bytes (((1 : UInt32) <<< 16) ||| (minor.toUInt32 <<< 8)) h.bound

section Words

variable {a b c d : UInt8} {bytes : List UInt8} {i : Nat}

theorem wordOfRevision_eq (r : Revision) : wordOfRevision r = word 0 r.minor r.major 0 := by
  have zero : (0 : UInt8).toNat = 0 := rfl
  rw [← UInt32.toNat_inj, toNat_wordOfRevision, toNat_word, zero]
  omega

theorem word_iff {w : UInt32} : w = word a b c d ↔ wordBytes w = [a, b, c, d] := by
  constructor
  · intro same
    rw [same, wordBytes_word]
  · intro bytes
    rw [← word_wordBytes w]
    simp only [wordBytes, List.cons.injEq, and_true] at bytes
    simp [bytes]

theorem revisionOfWord_iff {w : UInt32} :
    revisionOfWord w = ⟨c, b⟩ ↔ ∃ low high, w = word low b c high := by
  simp only [revisionOfWord, Revision.mk.injEq, word_iff, wordBytes, List.cons.injEq]
  constructor
  · intro same
    exact ⟨_, _, rfl, same.2, same.1, rfl, trivial⟩
  · intro outer
    obtain ⟨_, _, _, minor, major, _⟩ := outer
    exact ⟨major, minor⟩

theorem wordAt_outer (read : wordAt? bytes 1 = some (word a b c d)) :
    bytes[4]? = some a ∧ bytes[7]? = some d := by
  unfold wordAt? at read
  split at read
  · rename_i behind
    have same := word_iff.mp (Option.some.inj read)
    rw [wordBytes_word] at same
    have four : (bytes.drop 4)[0]? = bytes[4]? := List.getElem?_drop
    have seven : (bytes.drop 4)[3]? = bytes[7]? := List.getElem?_drop
    rw [behind] at four seven
    simp only [List.cons.injEq, and_true] at same
    simp [← four, ← seven, same]
  · cases read

theorem wordAt_none (short : bytes.length < 4 * i + 4) : wordAt? bytes i = none := by
  have few : (bytes.drop (4 * i)).length < 4 := by
    rw [List.length_drop]
    omega
  unfold wordAt?
  split
  · rename_i four
    rw [four] at few
    simp only [List.length_cons] at few
    omega
  · rfl

theorem wordAt_append (words : List UInt32) {behind : List UInt8} (few : behind.length < 4) (i : Nat) :
    wordAt? (bytesOfWords words ++ behind) i = words[i]? := by
  induction words generalizing i with
  | nil => exact wordAt_none (Nat.lt_of_lt_of_le few (Nat.le_add_left 4 (4 * i)))
  | cons w words read =>
    cases i with
    | zero => simp [wordAt?, bytesOfWords, wordBytes, word_wordBytes]
    | succ i =>
      rw [List.getElem?_cons_succ, ← read]
      simp [wordAt?, bytesOfWords, wordBytes, Nat.mul_succ]

theorem wordAt_bytesOfWords (words : List UInt32) (i : Nat) : wordAt? (bytesOfWords words) i = words[i]? := by
  have nothing : ([] : List UInt8).length < 4 := by decide
  rw [← wordAt_append words nothing, List.append_nil]

end Words

section Read

variable {bytes : List UInt8} {h : Header}

theorem readHeader_words (first version tool bound reserved : UInt32) (more : List UInt32) :
    readHeader (bytesOfWords (first :: version :: tool :: bound :: reserved :: more)) =
      if first ≠ magic then .error (.wrongMagic first)
      else if !isSupported (revisionOfWord version) then
        .error (.unsupportedVersion (revisionOfWord version))
      else if bound = 0 then .error .zeroBound
      else .ok ⟨revisionOfWord version, bound⟩ := by
  have length := length_bytesOfWords (first :: version :: tool :: bound :: reserved :: more)
  simp only [List.length_cons] at length
  rw [readHeader, if_neg (by omega), if_neg (by omega), take_bytesOfWords 4, wordsOfBytes_bytesOfWords]
  rfl

theorem exists_words (long : 20 ≤ bytes.length) (aligned : bytes.length % 4 = 0) :
    ∃ first version tool bound reserved more,
      bytes = bytesOfWords (first :: version :: tool :: bound :: reserved :: more) := by
  have whole := bytesOfWords_wordsOfBytes aligned
  have length := length_bytesOfWords (wordsOfBytes bytes)
  rw [whole] at length
  match words : wordsOfBytes bytes with
  | first :: version :: tool :: bound :: reserved :: more =>
    rw [← whole, words]
    exact ⟨first, version, tool, bound, reserved, more, rfl⟩
  | [] | [_] | [_, _] | [_, _, _] | [_, _, _, _] =>
    rw [words] at length
    simp only [List.length_cons, List.length_nil] at length
    omega

theorem framed_words {first version tool bound reserved : UInt32} {more : List UInt32} {v b : UInt32} :
    Framed (bytesOfWords (first :: version :: tool :: bound :: reserved :: more)) v b ↔
      first = magic ∧ version = v ∧ bound = b ∧ bound ≠ 0 := by
  have length := length_bytesOfWords (first :: version :: tool :: bound :: reserved :: more)
  simp only [List.length_cons] at length
  constructor
  · rintro ⟨_, _, first, second, fourth, bounded⟩
    simp only [wordAt_bytesOfWords, List.getElem?_cons_zero, List.getElem?_cons_succ, Option.some.injEq]
      at first second fourth
    exact ⟨first, second, fourth, fourth ▸ bounded⟩
  · rintro ⟨first, second, fourth, bounded⟩
    refine ⟨by omega, by omega, ?_, ?_, ?_, fourth ▸ bounded⟩
    · simp [wordAt_bytesOfWords, first]
    · simp [wordAt_bytesOfWords, second]
    · simp [wordAt_bytesOfWords, fourth]

theorem readHeader_whole (read : readHeader bytes = .ok h) : 20 ≤ bytes.length ∧ bytes.length % 4 = 0 := by
  unfold readHeader at read
  split at read
  · cases read
  · split at read
    · cases read
    · omega

theorem readHeader_iff : readHeader bytes = .ok h ↔ ∃ version, Framed bytes version h.bound ∧
    isSupported (revisionOfWord version) = true ∧ h.version = revisionOfWord version := by
  constructor
  · intro read
    obtain ⟨long, aligned⟩ := readHeader_whole read
    obtain ⟨first, version, tool, bound, reserved, more, rfl⟩ := exists_words long aligned
    rw [readHeader_words] at read
    split at read
    · cases read
    · split at read
      · cases read
      · split at read
        · cases read
        · rename_i first' supported bounded
          cases read
          refine ⟨version, framed_words.mpr ⟨Decidable.not_not.mp first', rfl, rfl, bounded⟩, ?_, rfl⟩
          simpa using supported
  · rintro ⟨version, framed, supported, same⟩
    obtain ⟨first, version', tool, bound, reserved, more, rfl⟩ := exists_words framed.long framed.aligned
    obtain ⟨rfl, rfl, bound', bounded⟩ := framed_words.mp framed
    have whole : ⟨revisionOfWord version', bound⟩ = h := by rw [← same, bound']
    simp [readHeader_words, supported, bounded, whole]

theorem isSupported_iff {r : Revision} : isSupported r = true ↔ ∃ minor : UInt8, minor ≤ 6 ∧ r = ⟨1, minor⟩ := by
  obtain ⟨major, minor⟩ := r
  constructor
  · intro supported
    simp only [isSupported, decide_eq_true_eq] at supported
    exact ⟨minor, supported.2, by rw [supported.1]⟩
  · intro ⟨minor, most, same⟩
    cases same
    simp [isSupported, most]

end Read

theorem readHeader_assemble {version : Revision} (supported : isSupported version = true)
    {bound : UInt32} (bounded : bound ≠ 0) (is : List Instruction) :
    readHeader (bytesOfWords (Module.assemble version bound is)) = .ok ⟨version, bound⟩ := by
  rw [Module.assemble, List.cons_append, List.cons_append, List.cons_append, List.cons_append,
    List.singleton_append, readHeader_words, revisionOfWord_wordOfRevision]
  simp [supported, bounded]

theorem accepted_iff {bytes : List UInt8} {h : Header} : readHeader bytes = .ok h ↔
    ∃ minor low high : UInt8, minor ≤ 6 ∧ h.version = ⟨1, minor⟩ ∧
      Framed bytes (word low minor 1 high) h.bound := by
  rw [readHeader_iff]
  constructor
  · intro ⟨version, framed, supported, same⟩
    obtain ⟨minor, most, revision⟩ := isSupported_iff.mp supported
    obtain ⟨low, high, rfl⟩ := revisionOfWord_iff.mp revision
    exact ⟨minor, low, high, most, same.trans revision, framed⟩
  · intro ⟨minor, low, high, most, same, framed⟩
    have revision : revisionOfWord (word low minor 1 high) = ⟨1, minor⟩ :=
      revisionOfWord_iff.mpr ⟨low, high, rfl⟩
    exact ⟨_, framed, isSupported_iff.mpr ⟨minor, most, revision⟩, same.trans revision.symm⟩

theorem Header.isOf_iff {bytes : List UInt8} {h : Header} : h.IsOf bytes ↔
    ∃ minor : UInt8, minor ≤ 6 ∧ h.version = ⟨1, minor⟩ ∧ Framed bytes (word 0 minor 1 0) h.bound := by
  have written : ∀ minor : UInt8, ((1 : UInt32) <<< 16) ||| (minor.toUInt32 <<< 8) = word 0 minor 1 0 :=
    fun minor => wordOfRevision_eq ⟨1, minor⟩
  simp only [Header.IsOf, written]

-- The outer bytes of the version word are not looked at. What is accepted has any bytes there, and
-- the headers of modules as they are laid out are the accepted ones with two zero bytes, or those
-- whose version is written as the word it was read from.
theorem header_checked (bytes : List UInt8) (h : Header) :
    (readHeader bytes = .ok h ↔ ∃ minor low high : UInt8, minor ≤ 6 ∧ h.version = ⟨1, minor⟩ ∧
      Framed bytes (word low minor 1 high) h.bound) ∧
    (h.IsOf bytes ↔ readHeader bytes = .ok h ∧ bytes[4]? = some 0 ∧ bytes[7]? = some 0) ∧
    (h.IsOf bytes ↔ readHeader bytes = .ok h ∧ wordAt? bytes 1 = some (wordOfRevision h.version)) := by
  refine ⟨accepted_iff, ?_, ?_⟩
  · rw [accepted_iff, Header.isOf_iff]
    constructor
    · intro ⟨minor, most, version, framed⟩
      exact ⟨⟨minor, 0, 0, most, version, framed⟩, wordAt_outer framed.second⟩
    · intro ⟨⟨minor, low, high, most, version, framed⟩, four, seven⟩
      have outer := wordAt_outer framed.second
      rw [four, seven] at outer
      cases outer.1
      cases outer.2
      exact ⟨minor, most, version, framed⟩
  · rw [accepted_iff, Header.isOf_iff]
    constructor
    · intro ⟨minor, most, version, framed⟩
      refine ⟨⟨minor, 0, 0, most, version, framed⟩, ?_⟩
      rw [version, wordOfRevision_eq, framed.second]
    · intro ⟨⟨minor, low, high, most, version, framed⟩, second⟩
      rw [version, wordOfRevision_eq, framed.second] at second
      rw [Option.some.inj second] at framed
      exact ⟨minor, most, version, framed⟩

theorem outer_bytes_unread :
    let bytes := bytesOfWords [magic, 0x01010000, 0, 1, 0]
    readHeader bytes = .ok ⟨⟨1, 0⟩, 1⟩ ∧ wordOfRevision ⟨1, 0⟩ ≠ 0x01010000 ∧ ∀ h : Header, ¬ h.IsOf bytes := by
  intro bytes
  have read : readHeader bytes = .ok ⟨⟨1, 0⟩, 1⟩ :=
    accepted_iff.mpr ⟨0, 0, 1, by decide, rfl, framed_words.mpr ⟨rfl, by decide, rfl, by decide⟩⟩
  refine ⟨read, by decide, fun h isOf => ?_⟩
  obtain ⟨minor, _, _, framed⟩ := Header.isOf_iff.mp isOf
  have outer := wordAt_outer framed.second
  exact absurd outer.2 (by decide)

end ShaderConversion.Spirv
