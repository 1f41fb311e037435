import ShaderConversion.Proofs.Text.Utf8

namespace ShaderConversion.Utf8

-- What the bytes of a character begin with: together with any bytes that are taken behind the
-- ones `seen` they are all the bytes of the character that is read.
def Begins (low high : UInt8) (value : Nat) (seen : List UInt8) : Nat → Prop
  | 0 => ∀ b : UInt8, low.toNat ≤ b.toNat → b.toNat ≤ high.toNat →
    String.utf8EncodeChar (Char.ofNat (value * 64 + b.toNat % 64)) = seen ++ [b]
  | more + 1 => ∀ b : UInt8, low.toNat ≤ b.toNat → b.toNat ≤ high.toNat →
    Begins 0x80 0xBF (value * 64 + b.toNat % 64) (seen ++ [b]) more

section Bytes

variable {a b c d : UInt8}

theorem toNat_ofNat {n : Nat} (scalar : n.isValidChar) : (Char.ofNat n).toNat = n := by
  rw [Char.ofNat, dif_pos scalar]
  rfl

theorem byte_eq {n : Nat} (same : n = b.toNat) : UInt8.ofNat n = b := by
  rw [same]
  exact UInt8.ofNat_toNat

theorem tailByte_eq {n : Nat} (low : 0x80 ≤ b.toNat) (high : b.toNat ≤ 0xBF)
    (same : n % 64 = b.toNat % 64) : tailByte n = b :=
  byte_eq (by omega)

theorem encoded_one (ascii : b.toNat < 0x80) : String.utf8EncodeChar (Char.ofNat b.toNat) = [b] := by
  have value := toNat_ofNat (n := b.toNat) (.inl (by omega))
  rw [bytes_one (by omega), value, UInt8.ofNat_toNat]

theorem encoded_two (least : 0xC2 ≤ a.toNat) (most : a.toNat < 0xE0) (low : 0x80 ≤ b.toNat)
    (high : b.toNat ≤ 0xBF) :
    String.utf8EncodeChar (Char.ofNat (a.toNat % 32 * 64 + b.toNat % 64)) = [a, b] := by
  have value := toNat_ofNat (n := a.toNat % 32 * 64 + b.toNat % 64) (.inl (by omega))
  rw [bytes_two (by omega) (by omega), value, byte_eq (b := a) (by omega), tailByte_eq low high (by omega)]

theorem encoded_three (least : 0xE0 ≤ a.toNat) (most : a.toNat < 0xF0) (low : 0x80 ≤ b.toNat)
    (high : b.toNat ≤ 0xBF) (shortest : a.toNat = 0xE0 → 0xA0 ≤ b.toNat)
    (character : a.toNat = 0xED → b.toNat < 0xA0) (low' : 0x80 ≤ c.toNat) (high' : c.toNat ≤ 0xBF) :
    String.utf8EncodeChar (Char.ofNat ((a.toNat % 16 * 64 + b.toNat % 64) * 64 + c.toNat % 64)) =
      [a, b, c] := by
  have value := toNat_ofNat (n := (a.toNat % 16 * 64 + b.toNat % 64) * 64 + c.toNat % 64) (by omega)
  rw [bytes_three (by omega) (by omega), value, byte_eq (b := a) (by omega),
    tailByte_eq low high (by omega), tailByte_eq low' high' (by omega)]

theorem encoded_four (least : 0xF0 ≤ a.toNat) (most : a.toNat ≤ 0xF4) (low : 0x80 ≤ b.toNat)
    (high : b.toNat ≤ 0xBF) (shortest : a.toNat = 0xF0 → 0x90 ≤ b.toNat)
    (character : a.toNat = 0xF4 → b.toNat < 0x90) (low' : 0x80 ≤ c.toNat) (high' : c.toNat ≤ 0xBF)
    (low'' : 0x80 ≤ d.toNat) (high'' : d.toNat ≤ 0xBF) :
    String.utf8EncodeChar (Char.ofNat
      (((a.toNat % 8 * 64 + b.toNat % 64) * 64 + c.toNat % 64) * 64 + d.toNat % 64)) = [a, b, c, d] := by
  have value := toNat_ofNat
    (n := ((a.toNat % 8 * 64 + b.toNat % 64) * 64 + c.toNat % 64) * 64 + d.toNat % 64) (.inr (by omega))
  rw [bytes_four (by omega), value, byte_eq (b := a) (by omega), tailByte_eq low high (by omega),
    tailByte_eq low' high' (by omega), tailByte_eq low'' high'' (by omega)]

end Bytes

def Awaiting.Follows (a : Awaiting) (seen : List UInt8) : Prop :=
  Begins a.low a.high a.value seen a.more

section Lead

variable {a low high : UInt8} {n : Nat}

theorem follows_three (least : 0xE0 ≤ a.toNat) (most : a.toNat < 0xF0) (bits : n = a.toNat % 16)
    (least' : 0x80 ≤ low.toNat) (most' : high.toNat ≤ 0xBF)
    (shortest : a.toNat = 0xE0 → 0xA0 ≤ low.toNat) (character : a.toNat = 0xED → high.toNat < 0xA0) :
    (⟨1, low, high, n, 1⟩ : Awaiting).Follows [a] := by
  intro b (above : low.toNat ≤ b.toNat) (below : b.toNat ≤ high.toNat) c above' below'
  rw [bits]
  exact encoded_three least most (by omega) (by omega) (by omega) (by omega) above' below'

theorem follows_four (least : 0xF0 ≤ a.toNat) (most : a.toNat ≤ 0xF4) (bits : n = a.toNat % 8)
    (least' : 0x80 ≤ low.toNat) (most' : high.toNat ≤ 0xBF)
    (shortest : a.toNat = 0xF0 → 0x90 ≤ low.toNat) (character : a.toNat = 0xF4 → high.toNat < 0x90) :
    (⟨2, low, high, n, 1⟩ : Awaiting).Follows [a] := by
  intro b (above : low.toNat ≤ b.toNat) (below : b.toNat ≤ high.toNat) c above' below' d above'' below''
  rw [bits]
  exact encoded_four least most (by omega) (by omega) (by omega) (by omega) above' below' above''
    below''

theorem lead_follows {awaiting : Awaiting} (leads : Awaiting.ofLead? a = some awaiting) :
    awaiting.Follows [a] := by
  simp only [Awaiting.ofLead?, UInt8.lt_iff_toNat_lt, ← UInt8.toNat_inj, UInt8.reduceToNat] at leads
  split at leads
  · cases leads
  split at leads
  · cases leads
    intro b above below
    exact encoded_two (by omega) (by omega) above below
  split at leads
  · cases leads
    exact follows_three (by omega) (by omega) (by omega) (by decide) (by decide) (fun _ => by decide) (by omega)
  split at leads
  · cases leads
    exact follows_three (by omega) (by omega) (by omega) (by decide) (by decide) (by omega)
      (fun _ => by decide)
  split at leads
  · cases leads
    exact follows_three (by omega) (by omega) rfl (by decide) (by decide) (by omega) (by omega)
  split at leads
  · cases leads
    exact follows_four (by omega) (by omega) (by omega) (by decide) (by decide) (fun _ => by decide) (by omega)
  split at leads
  · cases leads
    exact follows_four (by omega) (by omega) rfl (by decide) (by decide) (by omega) (by omega)
  split at leads
  · cases leads
    exact follows_four (by omega) (by omega) (by omega) (by decide) (by decide) (by omega)
      (fun _ => by decide)
  · cases leads

end Lead

def Progress.Reads (p : Progress) (bytes : List UInt8) : Prop :=
  ∃ s : Text, p.pieces = (s.map .char).reverse ∧
    match p.awaiting with
    | none => bytes = encode s
    | some a => ∃ seen, a.Follows seen ∧ bytes = encode s ++ seen

def Progress.IsFlawed (p : Progress) (bytes : List UInt8) : Prop :=
  ∃ (s : Text) (length : Nat) (more : List Piece),
    p.pieces.reverse = s.map .char ++ .flaw length :: more ∧ encode s <+: bytes

-- Where bytes stop being UTF-8: no text goes further at their front than one that ends there.
structure Fault.IsOf (fault : Fault) (bytes : List UInt8) : Prop where
  reached : ∃ s, encode s <+: bytes ∧ size s = fault.index
  furthest : ∀ s, encode s <+: bytes → size s ≤ fault.index

section Steps

variable {p : Progress} {bytes : List UInt8}

theorem encode_snoc (s : Text) (c : Char) : encode (s ++ [c]) = encode s ++ String.utf8EncodeChar c := by
  rw [encode_append]
  simp [encode]

theorem lead_suffix (pieces : List Piece) (b : UInt8) : pieces <:+ (Progress.lead pieces b).pieces := by
  unfold Progress.lead
  split
  · exact List.suffix_cons _ _
  · split
    · exact List.suffix_cons _ _
    · exact List.suffix_refl _

theorem step_suffix (p : Progress) (b : UInt8) : p.pieces <:+ (p.step b).pieces := by
  unfold Progress.step
  split
  · exact lead_suffix _ b
  · split
    · dsimp only
      split
      · exact List.suffix_cons _ _
      · exact List.suffix_refl _
    · exact (List.suffix_cons _ _).trans (lead_suffix _ b)

theorem foldl_suffix (p : Progress) (later : List UInt8) : p.pieces <:+ (later.foldl Progress.step p).pieces := by
  induction later generalizing p with
  | nil => exact List.suffix_refl _
  | cons b later still => exact (step_suffix p b).trans (still (p.step b))

theorem finish_front (p : Progress) : p.pieces.reverse <+: p.finish := by
  unfold Progress.finish
  split
  · exact List.prefix_refl _
  · rw [List.reverse_cons]
    exact List.prefix_append _ _

theorem flawed_of_suffix {s : Text} {length : Nat}
    (behind : .flaw length :: (s.map .char).reverse <:+ p.pieces) (front : encode s <+: bytes) :
    p.IsFlawed bytes := by
  obtain ⟨new, parts⟩ := behind
  refine ⟨s, length, new.reverse, ?_, front⟩
  rw [← parts]
  simp

theorem foldl_flawed (flawed : p.IsFlawed bytes) (later : List UInt8) :
    (later.foldl Progress.step p).IsFlawed (bytes ++ later) := by
  obtain ⟨s, length, more, pieces, front⟩ := flawed
  obtain ⟨new, parts⟩ := foldl_suffix p later
  refine ⟨s, length, more ++ new.reverse, ?_, front.trans (List.prefix_append _ _)⟩
  rw [← parts, List.reverse_append, pieces]
  simp

theorem lead_reads (s : Text) (b : UInt8) :
    let p := Progress.lead ((s.map .char).reverse) b
    p.Reads (encode s ++ [b]) ∨ p.IsFlawed (encode s ++ [b]) := by
  unfold Progress.lead
  by_cases ascii : b < 0x80
  · have one := encoded_one (UInt8.lt_iff_toNat_lt.mp ascii)
    rw [if_pos ascii]
    refine .inl ⟨s ++ [Char.ofNat b.toNat], by simp, ?_⟩
    rw [encode_snoc, one]
  · rw [if_neg ascii]
    cases leads : Awaiting.ofLead? b with
    | none => exact .inr (flawed_of_suffix (List.suffix_refl _) (List.prefix_append _ _))
    | some a => exact .inl ⟨s, rfl, [b], lead_follows leads, rfl⟩

theorem step_reads (reads : p.Reads bytes) (b : UInt8) :
    (p.step b).Reads (bytes ++ [b]) ∨ (p.step b).IsFlawed (bytes ++ [b]) := by
  obtain ⟨pieces, awaiting⟩ := p
  obtain ⟨s, rfl, rest⟩ := reads
  cases awaiting with
  | none =>
    cases rest
    exact lead_reads s b
  | some a =>
    obtain ⟨seen, follows, rfl⟩ := rest
    unfold Progress.step
    dsimp only
    by_cases takes : a.low ≤ b ∧ b ≤ a.high
    · rw [if_pos takes]
      obtain ⟨above, below⟩ := takes
      rw [UInt8.le_iff_toNat_le] at above below
      obtain ⟨more, low, high, value, count⟩ := a
      cases more with
      | zero =>
        have whole : String.utf8EncodeChar (Char.ofNat (value * 64 + b.toNat % 64)) = seen ++ [b] :=
          follows b above below
        refine .inl ⟨s ++ [Char.ofNat (value * 64 + b.toNat % 64)], by simp, ?_⟩
        rw [encode_snoc, whole, List.append_assoc]
      | succ more =>
        exact .inl ⟨s, rfl, seen ++ [b], follows b above below, List.append_assoc _ _ _⟩
    · rw [if_neg takes, List.append_assoc]
      exact .inr (flawed_of_suffix (lead_suffix _ b) (List.prefix_append _ _))

theorem foldl_reads (reads : p.Reads bytes) (later : List UInt8) :
    (later.foldl Progress.step p).Reads (bytes ++ later) ∨
      (later.foldl Progress.step p).IsFlawed (bytes ++ later) := by
  -- Induction on the bytes that are left: either nothing is wrong to the end, or something is
  -- wrong and stays so.
  induction later generalizing p bytes with
  | nil =>
    rw [List.append_nil]
    exact .inl reads
  | cons b later same =>
    rcases step_reads reads b with reads | flawed
    · rw [List.append_cons]
      exact same reads
    · rw [List.append_cons]
      exact .inr (foldl_flawed flawed later)

theorem firstFault_chars (index : Nat) (s : Text) (more : List Piece) :
    firstFault index (s.map .char ++ more) = firstFault (index + size s) more := by
  induction s generalizing index with
  | nil => rfl
  | cons c s rest =>
    rw [List.map_cons, List.cons_append, firstFault, rest, Nat.add_assoc]
    rfl

theorem firstFault_le {index : Nat} {pieces : List Piece} {fault : Fault}
    (found : firstFault index pieces = some fault) : index ≤ fault.index := by
  induction pieces generalizing index with
  | nil => cases found
  | cons piece pieces rest =>
    cases piece with
    | char c => exact Nat.le_trans (Nat.le_add_right _ _) (rest found)
    | _ =>
      cases found
      exact Nat.le_refl _

end Steps

theorem pieces_front {s : Text} {bytes : List UInt8} (front : encode s <+: bytes) :
    s.map .char <+: pieces bytes := by
  obtain ⟨rest, rfl⟩ := front
  have kept := List.reverse_prefix.mpr (foldl_suffix ⟨(s.map .char).reverse, none⟩ rest)
  rw [List.reverse_reverse] at kept
  rw [pieces, List.foldl_append, foldl_encode, List.append_nil]
  exact kept.trans (finish_front _)

theorem valid_or_fault (bytes : List UInt8) : (∃ s, bytes = encode s) ∨
    ∃ s fault, encode s <+: bytes ∧ fault? bytes = some fault ∧ fault.index = size s := by
  have start : (⟨[], none⟩ : Progress).Reads [] := ⟨[], rfl, rfl⟩
  rcases foldl_reads start bytes with ⟨s, read, rest⟩ | ⟨s, length, more, read, front⟩
  · split at rest
    · exact .inl ⟨s, rest⟩
    · rename_i a unfinished
      obtain ⟨seen, _, whole⟩ := rest
      rw [List.nil_append] at whole
      refine .inr ⟨s, ⟨size s, none⟩, whole ▸ List.prefix_append _ _, ?_, rfl⟩
      rw [fault?, pieces, Progress.finish, unfinished]
      dsimp only
      rw [read, List.reverse_cons, List.reverse_reverse, firstFault_chars, Nat.zero_add]
      rfl
  · obtain ⟨new, parts⟩ := finish_front (bytes.foldl Progress.step ⟨[], none⟩)
    refine .inr ⟨s, ⟨size s, some length⟩, front, ?_, rfl⟩
    rw [fault?, pieces, ← parts, read, List.append_assoc, firstFault_chars, Nat.zero_add]
    rfl

theorem fault_none {bytes : List UInt8} : fault? bytes = none ↔ ∃ s, bytes = encode s := by
  constructor
  · intro faultless
    rcases valid_or_fault bytes with valid | ⟨_, _, _, found, _⟩
    · exact valid
    · cases faultless.symm.trans found
  · rintro ⟨s, rfl⟩
    have chars := firstFault_chars 0 s []
    rw [List.append_nil] at chars
    rw [fault?, pieces_encode, chars]
    rfl

theorem fault_some {bytes : List UInt8} {fault : Fault} (found : fault? bytes = some fault) :
    fault.IsOf bytes := by
  rcases valid_or_fault bytes with valid | ⟨s, other, front, found', index⟩
  · cases (fault_none.mpr valid).symm.trans found
  · cases found.symm.trans found'
    refine ⟨⟨s, front, index.symm⟩, fun t front' => ?_⟩
    obtain ⟨more, parts⟩ := pieces_front front'
    rw [fault?, ← parts, firstFault_chars, Nat.zero_add] at found
    exact firstFault_le found

end ShaderConversion.Utf8
