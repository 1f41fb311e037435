import ShaderConversion.Text.Utf8

namespace ShaderConversion.Utf8

theorem toNat_byte {n : Nat} (small : n < 256) : (UInt8.ofNat n).toNat = n :=
  UInt8.toNat_ofNat_of_lt' small

def tailByte (n : Nat) : UInt8 := UInt8.ofNat (n % 64 + 0x80)

theorem toNat_tailByte (n : Nat) : (tailByte n).toNat = n % 64 + 0x80 :=
  toNat_byte (by omega)

def Awaiting.Takes (a : Awaiting) (b : UInt8) : Prop :=
  a.low.toNat ≤ b.toNat ∧ b.toNat ≤ a.high.toNat

section Steps

variable (done : List Piece) (a : Awaiting) {n : Nat}

theorem step_lead {b : UInt8} {a : Awaiting} (long : 0x80 ≤ b.toNat)
    (leads : Awaiting.ofLead? b = some a) :
    Progress.step ⟨done, none⟩ b = ⟨done, some a⟩ := by
  have other : ¬ b < 0x80 := by
    rw [UInt8.lt_iff_toNat_lt]
    exact Nat.not_lt.mpr long
  simp only [Progress.step, Progress.lead, if_neg other, leads]

theorem step_tail (takes : a.Takes (tailByte n)) :
    Progress.step ⟨done, some a⟩ (tailByte n) =
      match a.more with
      | 0 => ⟨.char (Char.ofNat (a.value * 64 + n % 64)) :: done, none⟩
      | more + 1 => ⟨done, some ⟨more, 0x80, 0xBF, a.value * 64 + n % 64, a.seen + 1⟩⟩ := by
  have bits : (tailByte n).toNat % 64 = n % 64 := by
    rw [toNat_tailByte]
    omega
  have within : a.low ≤ tailByte n ∧ tailByte n ≤ a.high := by
    rw [UInt8.le_iff_toNat_le, UInt8.le_iff_toNat_le]
    exact takes
  obtain ⟨more, low, high, value, seen⟩ := a
  cases more with
  | zero => simp only [Progress.step, if_pos within, bits]
  | succ more => simp only [Progress.step, if_pos within, bits]

theorem takes_plain (more value seen : Nat) :
    (⟨more, 0x80, 0xBF, value, seen⟩ : Awaiting).Takes (tailByte n) := by
  simp only [Awaiting.Takes, UInt8.reduceToNat, toNat_tailByte]
  omega

end Steps

-- The first bytes of the characters with two, three and four bytes. The narrower bounds
-- on the second byte leave out longer forms of a character and what is no character.
theorem lead_two {n : Nat} (least : 2 ≤ n) (most : n < 32) :
    Awaiting.ofLead? (UInt8.ofNat (n + 0xC0)) = some ⟨0, 0x80, 0xBF, n, 1⟩ := by
  have lead : (UInt8.ofNat (n + 0xC0)).toNat = n + 0xC0 := toNat_byte (by omega)
  simp only [Awaiting.ofLead?, UInt8.lt_iff_toNat_lt, UInt8.reduceToNat, lead]
  rw [if_neg (by omega), if_pos (by omega)]
  have bits : (n + 0xC0) % 32 = n := by omega
  rw [bits]

theorem lead_three {n m : Nat} (most : n < 16) (shortest : n = 0 → 32 ≤ m % 64)
    (character : n = 13 → m % 64 < 32) :
    ∃ low high, Awaiting.ofLead? (UInt8.ofNat (n + 0xE0)) = some ⟨1, low, high, n, 1⟩ ∧
      (⟨1, low, high, n, 1⟩ : Awaiting).Takes (tailByte m) := by
  have lead : (UInt8.ofNat (n + 0xE0)).toNat = n + 0xE0 := toNat_byte (by omega)
  simp only [Awaiting.ofLead?, UInt8.lt_iff_toNat_lt, ← UInt8.toNat_inj, UInt8.reduceToNat, lead,
    Awaiting.Takes, toNat_tailByte]
  rw [if_neg (by omega), if_neg (by omega)]
  by_cases zero : n = 0
  · rw [if_pos (by omega), zero]
    refine ⟨0xA0, 0xBF, rfl, ?_⟩
    simp only [UInt8.reduceToNat]
    omega
  · rw [if_neg (by omega)]
    by_cases surrogate : n = 13
    · rw [if_pos (by omega), surrogate]
      refine ⟨0x80, 0x9F, rfl, ?_⟩
      simp only [UInt8.reduceToNat]
      omega
    · rw [if_neg (by omega), if_pos (by omega)]
      have bits : (n + 0xE0) % 16 = n := by omega
      refine ⟨0x80, 0xBF, by rw [bits], ?_⟩
      simp only [UInt8.reduceToNat]
      omega

theorem lead_four {n m : Nat} (most : n < 5) (shortest : n = 0 → 16 ≤ m % 64)
    (character : n = 4 → m % 64 < 16) :
    ∃ low high, Awaiting.ofLead? (UInt8.ofNat (n + 0xF0)) = some ⟨2, low, high, n, 1⟩ ∧
      (⟨2, low, high, n, 1⟩ : Awaiting).Takes (tailByte m) := by
  have lead : (UInt8.ofNat (n + 0xF0)).toNat = n + 0xF0 := toNat_byte (by omega)
  simp only [Awaiting.ofLead?, UInt8.lt_iff_toNat_lt, ← UInt8.toNat_inj, UInt8.reduceToNat, lead,
    Awaiting.Takes, toNat_tailByte]
  rw [if_neg (by omega), if_neg (by omega), if_neg (by omega), if_neg (by omega), if_neg (by omega)]
  by_cases zero : n = 0
  · rw [if_pos (by omega), zero]
    refine ⟨0x90, 0xBF, rfl, ?_⟩
    simp only [UInt8.reduceToNat]
    omega
  · rw [if_neg (by omega)]
    by_cases last : n = 4
    · rw [if_neg (by omega), if_pos (by omega), last]
      refine ⟨0x80, 0x8F, rfl, ?_⟩
      simp only [UInt8.reduceToNat]
      omega
    · rw [if_pos (by omega)]
      have bits : (n + 0xF0) % 8 = n := by omega
      refine ⟨0x80, 0xBF, by rw [bits], ?_⟩
      simp only [UInt8.reduceToNat]
      omega

theorem bytes_one {c : Char} (most : c.toNat ≤ 0x7F) :
    String.utf8EncodeChar c = [UInt8.ofNat c.toNat] := if_pos most

theorem bytes_two {c : Char} (least : ¬ c.toNat ≤ 0x7F) (most : c.toNat ≤ 0x7FF) :
    String.utf8EncodeChar c = [UInt8.ofNat (c.toNat / 64 + 0xC0), tailByte c.toNat] := by
  have lead : c.toNat / 64 % 32 = c.toNat / 64 := by omega
  refine (if_neg least).trans ((if_pos most).trans ?_)
  rw [← lead]
  rfl

theorem bytes_three {c : Char} (least : ¬ c.toNat ≤ 0x7FF) (most : c.toNat ≤ 0xFFFF) :
    String.utf8EncodeChar c =
      [UInt8.ofNat (c.toNat / 4096 + 0xE0), tailByte (c.toNat / 64), tailByte c.toNat] := by
  have long : ¬ c.toNat ≤ 0x7F := by omega
  have lead : c.toNat / 4096 % 16 = c.toNat / 4096 := by omega
  refine (if_neg long).trans ((if_neg least).trans ((if_pos most).trans ?_))
  rw [← lead]
  rfl

theorem toNat_scalar (c : Char) : c.toNat < 0xD800 ∨ 0xDFFF < c.toNat ∧ c.toNat < 0x110000 := c.valid

theorem bytes_four {c : Char} (least : ¬ c.toNat ≤ 0xFFFF) :
    String.utf8EncodeChar c =
      [UInt8.ofNat (c.toNat / 262144 + 0xF0), tailByte (c.toNat / 4096), tailByte (c.toNat / 64),
        tailByte c.toNat] := by
  have scalar := toNat_scalar c
  have long : ¬ c.toNat ≤ 0x7F := by omega
  have longer : ¬ c.toNat ≤ 0x7FF := by omega
  have lead : c.toNat / 262144 % 8 = c.toNat / 262144 := by omega
  refine (if_neg long).trans ((if_neg longer).trans ((if_neg least).trans ?_))
  rw [← lead]
  rfl

theorem foldl_char (done : List Piece) (c : Char) :
    (String.utf8EncodeChar c).foldl Progress.step ⟨done, none⟩ = ⟨.char c :: done, none⟩ := by
  have scalar := toNat_scalar c
  have whole : ∀ n, n = c.toNat → Char.ofNat n = c := by
    rintro _ rfl
    exact Char.ofNat_toNat c
  by_cases one : c.toNat ≤ 0x7F
  · have byte : (UInt8.ofNat c.toNat).toNat = c.toNat := toNat_byte (by omega)
    have short : UInt8.ofNat c.toNat < 0x80 := by
      rw [UInt8.lt_iff_toNat_lt, byte]
      exact Nat.lt_succ_of_le one
    rw [bytes_one one, List.foldl_cons, List.foldl_nil]
    simp only [Progress.step, Progress.lead, if_pos short, byte, Char.ofNat_toNat]
  by_cases two : c.toNat ≤ 0x7FF
  · have lead := lead_two (n := c.toNat / 64) (by omega) (by omega)
    rw [bytes_two one two, List.foldl_cons, step_lead done (by rw [toNat_byte] <;> omega) lead,
      List.foldl_cons, step_tail done _ (takes_plain 0 _ _), List.foldl_nil]
    dsimp only
    rw [whole _ (by omega)]
  by_cases three : c.toNat ≤ 0xFFFF
  · obtain ⟨low, high, lead, second⟩ :=
      lead_three (n := c.toNat / 4096) (m := c.toNat / 64) (by omega) (by omega) (by omega)
    rw [bytes_three two three, List.foldl_cons, step_lead done (by rw [toNat_byte] <;> omega) lead,
      List.foldl_cons, step_tail done _ second, List.foldl_cons,
      step_tail done _ (takes_plain 0 _ _), List.foldl_nil]
    dsimp only
    rw [whole _ (by omega)]
  · obtain ⟨low, high, lead, second⟩ :=
      lead_four (n := c.toNat / 262144) (m := c.toNat / 4096) (by omega) (by omega) (by omega)
    rw [bytes_four three, List.foldl_cons, step_lead done (by rw [toNat_byte] <;> omega) lead,
      List.foldl_cons, step_tail done _ second, List.foldl_cons,
      step_tail done _ (takes_plain 1 _ _), List.foldl_cons,
      step_tail done _ (takes_plain 0 _ _), List.foldl_nil]
    dsimp only
    rw [whole _ (by omega)]

theorem foldl_encode (done : List Piece) (s : Text) :
    (encode s).foldl Progress.step ⟨done, none⟩ = ⟨(s.map .char).reverse ++ done, none⟩ := by
  -- Induction on the text: between characters the reader has no byte to remember.
  induction s generalizing done with
  | nil => rfl
  | cons c s read =>
    have whole : encode (c :: s) = String.utf8EncodeChar c ++ encode s := rfl
    rw [whole, List.foldl_append, foldl_char, read]
    simp

theorem pieces_encode (s : Text) : pieces (encode s) = s.map .char := by
  rw [pieces, foldl_encode]
  simp [Progress.finish]

theorem decode_encode (s : Text) : decode (encode s) = s := by
  have shown : Piece.shown ∘ Piece.char = id := rfl
  rw [decode, pieces_encode, List.map_map, shown, List.map_id]

section Ascii

variable {a : Char}

theorem ascii_not_mem {b : UInt8} (ascii : b.toNat < 0x80) {n : Nat} (long : 0x80 ≤ n) (small : n < 256)
    (tails : List Nat) : b ∉ UInt8.ofNat n :: tails.map tailByte := by
  intro member
  rcases List.mem_cons.mp member with same | member
  · rw [same, toNat_byte small] at ascii
    omega
  · obtain ⟨m, _, same⟩ := List.mem_map.mp member
    rw [← same, toNat_tailByte] at ascii
    omega

theorem toNat_toUInt8 (ascii : a.toNat < 0x80) : a.toUInt8.toNat = a.toNat :=
  toNat_byte (Nat.lt_trans ascii (by decide))

theorem bytes_ascii (ascii : a.toNat < 0x80) : String.utf8EncodeChar a = [a.toUInt8] :=
  bytes_one (Nat.le_of_lt_succ ascii)

theorem ascii_mem_bytes (ascii : a.toNat < 0x80) {c : Char}
    (member : a.toUInt8 ∈ String.utf8EncodeChar c) : c = a := by
  have scalar := toNat_scalar c
  have byte : a.toUInt8.toNat < 0x80 := by rwa [toNat_toUInt8 ascii]
  by_cases one : c.toNat ≤ 0x7F
  · rw [bytes_ascii (Nat.lt_succ_of_le one), List.mem_singleton, ← UInt8.toNat_inj, toNat_toUInt8 ascii,
      toNat_toUInt8 (Nat.lt_succ_of_le one)] at member
    exact Char.toNat_inj.mp member.symm
  by_cases two : c.toNat ≤ 0x7FF
  · rw [bytes_two one two] at member
    exact absurd member (ascii_not_mem byte (by omega) (by omega) [c.toNat])
  by_cases three : c.toNat ≤ 0xFFFF
  · rw [bytes_three two three] at member
    exact absurd member (ascii_not_mem byte (by omega) (by omega) [c.toNat / 64, c.toNat])
  · rw [bytes_four three] at member
    exact absurd member (ascii_not_mem byte (by omega) (by omega) [c.toNat / 4096, c.toNat / 64, c.toNat])

theorem takeWhile_encode (ascii : a.toNat < 0x80) (s : Text) :
    (encode s).takeWhile (· != a.toUInt8) = encode (s.takeWhile (· != a)) := by
  induction s with
  | nil => rfl
  | cons c s cut =>
    have whole : ∀ s, encode (c :: s) = String.utf8EncodeChar c ++ encode s := fun _ => rfl
    by_cases same : c = a
    · subst same
      rw [whole, bytes_ascii ascii]
      simp [encode]
    · have kept := bne_of_not_mem fun member => same (ascii_mem_bytes ascii member)
      rw [whole, List.takeWhile_append_of_pos kept, cut, List.takeWhile_cons_of_pos (by simpa using same),
        whole]

end Ascii

end ShaderConversion.Utf8
