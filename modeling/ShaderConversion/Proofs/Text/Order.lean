import ShaderConversion.Proofs.Text.Utf8

namespace ShaderConversion

namespace Utf8

-- Bytes that are smaller at the first place where they differ from others. Neither of the two
-- is the beginning of the other, so that it does not matter what stands behind them.
inductive Below : List UInt8 → List UInt8 → Prop where
  | here {small large : UInt8} {rest rest' : List UInt8} (less : small < large) :
      Below (small :: rest) (large :: rest')
  | behind {b : UInt8} {rest rest' : List UInt8} (later : Below rest rest') :
      Below (b :: rest) (b :: rest')

theorem below_cons {a b : UInt8} {s t : List UInt8} :
    Below (a :: s) (b :: t) ↔ a < b ∨ a = b ∧ Below s t := by
  constructor
  · intro below
    cases below with
    | here less => exact .inl less
    | behind later => exact .inr ⟨rfl, later⟩
  · rintro (less | ⟨rfl, later⟩)
    · exact .here less
    · exact .behind later

theorem not_below_nil {s : List UInt8} : ¬ Below [] s := nofun

theorem Below.append {s t : List UInt8} (below : Below s t) (x y : List UInt8) : s ++ x < t ++ y := by
  induction below with
  | here less => exact List.cons_lt_cons_iff.mpr (.inl less)
  | behind _ later => exact List.cons_lt_cons_iff.mpr (.inr ⟨rfl, later⟩)

inductive Form (n : Nat) : Nat → List Nat → Prop where
  | one (most : n ≤ 0x7F) : Form n n []
  | two (least : 0x7F < n) (most : n ≤ 0x7FF) : Form n (n / 64 + 0xC0) [n]
  | three (least : 0x7FF < n) (most : n ≤ 0xFFFF) : Form n (n / 4096 + 0xE0) [n / 64, n]
  | four (least : 0xFFFF < n) (most : n < 0x110000) :
      Form n (n / 262144 + 0xF0) [n / 4096, n / 64, n]

theorem exists_form (c : Char) : ∃ lead tails, Form c.toNat lead tails ∧
    String.utf8EncodeChar c = UInt8.ofNat lead :: tails.map tailByte := by
  by_cases one : c.toNat ≤ 0x7F
  · exact ⟨_, _, .one one, bytes_one one⟩
  by_cases two : c.toNat ≤ 0x7FF
  · exact ⟨_, _, .two (Nat.lt_of_not_le one) two, bytes_two one two⟩
  by_cases three : c.toNat ≤ 0xFFFF
  · exact ⟨_, _, .three (Nat.lt_of_not_le two) three, bytes_three two three⟩
  · have most : c.toNat < 0x110000 := by
      have scalar := toNat_scalar c
      omega
    exact ⟨_, _, .four (Nat.lt_of_not_le three) most, bytes_four three⟩

theorem Form.lead {n lead : Nat} {tails : List Nat} (form : Form n lead tails) : lead < 256 := by
  cases form <;> omega

theorem Form.below {n m lead lead' : Nat} {tails tails' : List Nat} (form : Form n lead tails)
    (form' : Form m lead' tails') (less : n < m) :
    Below (UInt8.ofNat lead :: tails.map tailByte) (UInt8.ofNat lead' :: tails'.map tailByte) := by
  have byte := toNat_byte form.lead
  have byte' := toNat_byte form'.lead
  cases form <;> cases form' <;>
    simp only [List.map_cons, List.map_nil, below_cons, not_below_nil, UInt8.lt_iff_toNat_lt,
      ← UInt8.toNat_inj, toNat_tailByte, byte, byte'] <;>
    omega

theorem char_below {c d : Char} (less : c.toNat < d.toNat) :
    Below (String.utf8EncodeChar c) (String.utf8EncodeChar d) := by
  obtain ⟨_, _, form, bytes⟩ := exists_form c
  obtain ⟨_, _, form', bytes'⟩ := exists_form d
  rw [bytes, bytes']
  exact form.below form' less

theorem encode_cons (c : Char) (s : Text) : encode (c :: s) = String.utf8EncodeChar c ++ encode s := rfl

end Utf8

namespace Text

def Lies (s t : Text) : Ordering → Prop
  | .lt => Utf8.encode s < Utf8.encode t
  | .eq => s = t
  | .gt => Utf8.encode t < Utf8.encode s

theorem Lies.cons {s t : Text} {order : Ordering} (lies : Lies s t order) (c : Char) :
    Lies (c :: s) (c :: t) order := by
  cases order with
  | lt => exact List.append_left_lt lies
  | eq => exact congrArg (List.cons c) lies
  | gt => exact List.append_left_lt lies

theorem encode_cons_pos (c : Char) (s : Text) : Utf8.encode [] < Utf8.encode (c :: s) := by
  obtain ⟨_, _, _, bytes⟩ := Utf8.exists_form c
  rw [Utf8.encode_cons, bytes]
  exact List.nil_lt_cons _ _

theorem compare_lies (s t : Text) : Lies s t (compare s t) := by
  -- Induction on both texts: the first characters that differ have the first bytes that differ.
  fun_induction compare s t with
  | case1 => rfl
  | case2 d t => exact encode_cons_pos d t
  | case3 c s => exact encode_cons_pos c s
  | case4 c s d t later =>
    cases order : Ord.compare c.toNat d.toNat with
    | lt => exact (Utf8.char_below (Nat.compare_eq_lt.mp order)).append _ _
    | gt => exact (Utf8.char_below (Nat.compare_eq_gt.mp order)).append _ _
    | eq =>
      cases Char.toNat_inj.mp (Nat.compare_eq_eq.mp order)
      exact later.cons c

theorem Lies.unique {s t : Text} {order order' : Ordering} (lies : Lies s t order)
    (lies' : Lies s t order') : order = order' := by
  cases order <;> cases order'
  case lt.lt | eq.eq | gt.gt => rfl
  case lt.eq | gt.eq =>
    cases lies'
    exact absurd lies (List.lt_irrefl _)
  case eq.lt | eq.gt =>
    cases lies
    exact absurd lies' (List.lt_irrefl _)
  case lt.gt | gt.lt => exact absurd (List.lt_trans lies lies') (List.lt_irrefl _)

theorem compare_eq_iff {s t : Text} {order : Ordering} : compare s t = order ↔ Lies s t order := by
  have lies := compare_lies s t
  constructor
  · rintro rfl
    exact lies
  · exact lies.unique

end Text

end ShaderConversion
