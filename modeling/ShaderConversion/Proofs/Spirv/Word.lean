import ShaderConversion.Spirv.Word

namespace ShaderConversion.Spirv

-- Setting the bits of two words that have none in common is adding the words.
theorem toNat_join {low high k : UInt32} (unit : Nat) (shift : k.toNat < 32)
    (shifted : 1 <<< k.toNat = unit) (below : low.toNat < unit)
    (fits : high.toNat * unit < 0x100000000) :
    (low ||| (high <<< k)).toNat = low.toNat + high.toNat * unit := by
  have upper : high.toNat <<< k.toNat = high.toNat * unit := by
    rw [← shifted, Nat.shiftLeft_eq, Nat.one_shiftLeft]
  rw [← shifted, Nat.one_shiftLeft] at below
  rw [UInt32.toNat_or, UInt32.toNat_shiftLeft, Nat.mod_eq_of_lt shift, upper,
    Nat.mod_eq_of_lt fits, ← upper, Nat.or_comm, ← Nat.shiftLeft_add_eq_or_of_lt below, Nat.add_comm]

theorem toNat_word (a b c d : UInt8) : (word a b c d).toNat =
    a.toNat + b.toNat * 0x100 + c.toNat * 0x10000 + d.toNat * 0x1000000 := by
  have boundA : a.toUInt32.toNat < 0x100 := a.toNat_lt
  have boundB : b.toUInt32.toNat < 0x100 := b.toNat_lt
  have boundC : c.toUInt32.toNat < 0x100 := c.toNat_lt
  have boundD : d.toUInt32.toNat < 0x100 := d.toNat_lt
  have two : (a.toUInt32 ||| (b.toUInt32 <<< 8)).toNat =
      a.toUInt32.toNat + b.toUInt32.toNat * 0x100 :=
    toNat_join 0x100 (by decide) rfl boundA (by omega)
  have three : (a.toUInt32 ||| (b.toUInt32 <<< 8) ||| (c.toUInt32 <<< 16)).toNat =
      a.toUInt32.toNat + b.toUInt32.toNat * 0x100 + c.toUInt32.toNat * 0x10000 := by
    rw [toNat_join 0x10000 (by decide) rfl (by rw [two]; omega) (by omega), two]
  rw [word, toNat_join 0x1000000 (by decide) rfl (by rw [three]; omega) (by omega), three]
  rfl

theorem word_wordBytes (w : UInt32) :
    word w.toUInt8 (w >>> 8).toUInt8 (w >>> 16).toUInt8 (w >>> 24).toUInt8 = w := by
  have bound := w.toNat_lt
  rw [← UInt32.toNat_inj, toNat_word]
  simp [Nat.shiftRight_eq_div_pow]
  omega

theorem wordBytes_word (a b c d : UInt8) : wordBytes (word a b c d) = [a, b, c, d] := by
  have boundA := a.toNat_lt
  have boundB := b.toNat_lt
  have boundC := c.toNat_lt
  have boundD := d.toNat_lt
  simp only [wordBytes, List.cons.injEq, ← UInt8.toNat_inj, and_true]
  simp [Nat.shiftRight_eq_div_pow, toNat_word]
  omega

theorem wordsOnto_bytes (done words : List UInt32) :
    wordsOnto done (bytesOfWords words) = done.reverse ++ words := by
  induction words generalizing done with
  | nil => simp [bytesOfWords, wordsOnto]
  | cons w words read =>
    have bytes : bytesOfWords (w :: words) = wordBytes w ++ bytesOfWords words := rfl
    rw [bytes, wordBytes]
    simp only [List.cons_append, List.nil_append, wordsOnto, word_wordBytes, read]
    simp

theorem wordsOfBytes_bytesOfWords (words : List UInt32) : wordsOfBytes (bytesOfWords words) = words :=
  wordsOnto_bytes [] words

theorem bytes_wordsOnto (done : List UInt32) (bytes : List UInt8) :
    bytesOfWords (wordsOnto done bytes) =
      bytesOfWords done.reverse ++ bytes.take (bytes.length - bytes.length % 4) := by
  fun_induction wordsOnto done bytes with
  | case1 done a b c d rest read =>
    have kept : (a :: b :: c :: d :: rest).length - (a :: b :: c :: d :: rest).length % 4 =
        rest.length - rest.length % 4 + 4 := by
      simp only [List.length_cons]
      omega
    have last : bytesOfWords (word a b c d :: done).reverse =
        bytesOfWords done.reverse ++ [a, b, c, d] := by
      simp [bytesOfWords, wordBytes_word]
    rw [read, last, kept, List.append_assoc]
    rfl
  | case2 bytes done short =>
    have few : bytes.length < 4 := by
      match bytes with
      | [] | [_] | [_, _] | [_, _, _] => simp
      | a :: b :: c :: d :: rest => exact (short a b c d rest rfl).elim
    have kept : bytes.length - bytes.length % 4 = 0 := by omega
    rw [kept, List.take_zero, List.append_nil]

theorem bytes_wordsOfBytes (bytes : List UInt8) :
    bytesOfWords (wordsOfBytes bytes) = bytes.take (bytes.length - bytes.length % 4) :=
  bytes_wordsOnto [] bytes

theorem bytesOfWords_wordsOfBytes {bytes : List UInt8} (aligned : bytes.length % 4 = 0) :
    bytesOfWords (wordsOfBytes bytes) = bytes := by
  rw [bytes_wordsOfBytes, aligned, Nat.sub_zero, List.take_length]

theorem length_bytesOfWords (words : List UInt32) : (bytesOfWords words).length = 4 * words.length := by
  induction words with
  | nil => rfl
  | cons w words length =>
    have bytes : bytesOfWords (w :: words) = wordBytes w ++ bytesOfWords words := rfl
    rw [bytes, List.length_append, length, List.length_cons, wordBytes]
    simp
    omega

end ShaderConversion.Spirv
