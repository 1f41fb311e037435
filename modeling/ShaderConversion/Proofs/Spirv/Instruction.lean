import ShaderConversion.Proofs.Spirv.Word
import ShaderConversion.Spirv.Instruction

namespace ShaderConversion.Spirv.Instruction

def Fits (i : Instruction) : Prop := i.size < 0x10000

def head (i : Instruction) : UInt32 := (UInt32.ofNat i.size <<< 16) ||| i.opcode.toUInt32

theorem encode_eq (i : Instruction) : i.encode = i.head :: i.operands := rfl

section Head

variable {i : Instruction}

theorem toNat_head (fits : i.Fits) : i.head.toNat = i.opcode.toNat + i.size * 0x10000 := by
  have count : (UInt32.ofNat i.size).toNat = i.size :=
    UInt32.toNat_ofNat_of_lt' (Nat.lt_trans fits (by decide))
  have high : (UInt32.ofNat i.size).toNat * 0x10000 < 0x100000000 := by
    rw [count]
    exact Nat.mul_lt_mul_of_pos_right fits (by decide)
  have low : i.opcode.toUInt32.toNat < 0x10000 := i.opcode.toNat_lt
  rw [head, UInt32.or_comm, toNat_join 0x10000 (by decide) rfl low high, count]
  rfl

theorem countOf_head (fits : i.Fits) : countOf i.head = i.size := by
  have opcode := i.opcode.toNat_lt
  have shifted : countOf i.head = i.head.toNat / 0x10000 := by
    simp [countOf, Nat.shiftRight_eq_div_pow]
  rw [shifted, toNat_head fits]
  omega

theorem opcodeOf_head (fits : i.Fits) : opcodeOf i.head = i.opcode := by
  have opcode := i.opcode.toNat_lt
  rw [← UInt16.toNat_inj, opcodeOf, UInt32.toNat_toUInt16, toNat_head fits]
  omega

theorem takeOnto_encode (fits : i.Fits) (done : List Instruction) (rest : List UInt32) :
    takeOnto done (i.encode ++ rest) = takeOnto (i :: done) rest := by
  have count : countOf i.head = i.operands.length + 1 :=
    (countOf_head fits).trans (Nat.add_comm 1 _)
  rw [encode_eq, List.cons_append, takeOnto, count, Nat.add_sub_cancel, List.take_left,
    List.drop_left, opcodeOf_head fits]
  simp

end Head

inductive Aligned : List UInt32 → Prop where
  | nil : Aligned []
  | cons {first : UInt32} {operands rest : List UInt32} (count : countOf first = 1 + operands.length)
      (fits : countOf first ≤ 0xFFFF) (more : Aligned rest) : Aligned (first :: (operands ++ rest))

theorem aligned_encodeAll {is : List Instruction} (fit : ∀ i ∈ is, i.Fits) : Aligned (encodeAll is) := by
  induction is with
  | nil => exact .nil
  | cons i is aligned =>
    have fits := fit i List.mem_cons_self
    have count := countOf_head fits
    have within : countOf i.head ≤ 0xFFFF := by
      rw [count]
      exact Nat.le_of_lt_succ fits
    exact .cons count within (aligned fun j member => fit j (List.mem_cons_of_mem i member))

theorem takeOnto_encodeAll {is : List Instruction} (fit : ∀ i ∈ is, i.Fits)
    (done : List Instruction) (rest : List UInt32) :
    takeOnto done (encodeAll is ++ rest) = takeOnto (is.reverse ++ done) rest := by
  -- Induction on the instructions: the walk takes them all and goes on behind them.
  induction is generalizing done with
  | nil => rfl
  | cons i is walk =>
    have all : encodeAll (i :: is) ++ rest = i.encode ++ (encodeAll is ++ rest) := by
      simp [encodeAll]
    rw [all, takeOnto_encode (fit i List.mem_cons_self), walk fun j member =>
      fit j (List.mem_cons_of_mem i member)]
    simp

theorem ofWords_append {header : List UInt32} (five : header.length = 5) {is : List Instruction}
    (fit : ∀ i ∈ is, i.Fits) : ofWords (header ++ encodeAll is) = is := by
  have walk := takeOnto_encodeAll fit [] []
  rw [List.append_nil, List.append_nil] at walk
  rw [ofWords, split, List.drop_left' five, walk, takeOnto, List.reverse_reverse]

end ShaderConversion.Spirv.Instruction
