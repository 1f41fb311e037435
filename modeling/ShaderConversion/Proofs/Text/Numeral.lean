import Mathlib.Data.List.Induction
import ShaderConversion.Text.Decimal

namespace ShaderConversion.Text

structure IsNumeral (s : Text) (n : Nat) : Prop where
  some : s ≠ []
  digits : ∀ c ∈ s, c.isDigit = true
  value : Nat.ofDigitChars 10 s 0 = n

inductive IsSigned : Text → Nat → Prop where
  | plain {s : Text} {n : Nat} (numeral : s.IsNumeral n) : IsSigned s n
  | plus {s : Text} {n : Nat} (numeral : s.IsNumeral n) : IsSigned ('+' :: s) n

theorem isDigits_iff {s : Text} : s.isDigits = true ↔ s ≠ [] ∧ ∀ c ∈ s, c.isDigit = true := by
  simp [isDigits]

theorem isNumeral_of_isDigits {s : Text} {n : Nat} (digits : s.isDigits = true)
    (value : Nat.ofDigitChars 10 s 0 = n) : s.IsNumeral n :=
  ⟨(isDigits_iff.mp digits).1, (isDigits_iff.mp digits).2, value⟩

theorem decimalBelow_iff {bound n : Nat} (some : 0 < bound) {s : Text} :
    s.decimalBelow? bound = Option.some n ↔ s.IsNumeral n ∧ n < bound := by
  unfold decimalBelow?
  constructor
  · intro read
    split at read
    · rename_i digits
      rw [foldlM_appendDigit some] at read
      split at read
      · rename_i below
        cases read
        exact ⟨isNumeral_of_isDigits digits rfl, below⟩
      · cases read
    · cases read
  · rintro ⟨⟨nonempty, digits, rfl⟩, below⟩
    rw [if_pos (isDigits_iff.mpr ⟨nonempty, digits⟩), foldlM_appendDigit some, if_pos below]

theorem IsNumeral.plain {s : Text} {n : Nat} (numeral : s.IsNumeral n) {c : Char} (other : c.isDigit = false) :
    c ∉ s := by
  intro member
  cases other.symm.trans (numeral.digits c member)

theorem IsNumeral.unique {s : Text} {n n' : Nat} (numeral : s.IsNumeral n) (numeral' : s.IsNumeral n') : n = n' :=
  numeral.value.symm.trans numeral'.value

theorem IsSigned.unique {s : Text} {n n' : Nat} (signed : s.IsSigned n) (signed' : s.IsSigned n') : n = n' := by
  cases signed with
  | plain numeral =>
    cases signed' with
    | plain numeral' => exact numeral.unique numeral'
    | plus _ => exact absurd List.mem_cons_self (numeral.plain (by decide))
  | plus numeral =>
    cases signed' with
    | plain numeral' => exact absurd List.mem_cons_self (numeral'.plain (by decide))
    | plus numeral' => exact numeral.unique numeral'

theorem signedBelow_iff {bound n : Nat} (some : 0 < bound) {s : Text} :
    s.signedBelow? bound = Option.some n ↔ s.IsSigned n ∧ n < bound := by
  unfold signedBelow?
  split
  · rename_i digits
    rw [decimalBelow_iff some]
    constructor
    · rintro ⟨numeral, below⟩
      exact ⟨.plus numeral, below⟩
    · rintro ⟨signed, below⟩
      cases signed with
      | plain numeral => exact absurd List.mem_cons_self (numeral.plain (by decide))
      | plus numeral => exact ⟨numeral, below⟩
  · rename_i unsigned
    rw [decimalBelow_iff some]
    constructor
    · rintro ⟨numeral, below⟩
      exact ⟨.plain numeral, below⟩
    · rintro ⟨signed, below⟩
      cases signed with
      | plain numeral => exact ⟨numeral, below⟩
      | plus _ => exact absurd rfl (unsigned _)

theorem isNumeral_decimal (n : Nat) : (decimal n).IsNumeral n :=
  isNumeral_of_isDigits (isDigits_decimal n) (Nat.ofDigitChars_toDigits (by decide) (by decide))

theorem digitChar_value {c : Char} (digit : c.isDigit = true) :
    c.toNat - '0'.toNat < 10 ∧ Nat.digitChar (c.toNat - '0'.toNat) = c := by
  simp only [Char.isDigit, Bool.and_eq_true, decide_eq_true_eq] at digit
  have low : '0'.toNat ≤ c.toNat := digit.1
  have high : c.toNat ≤ '0'.toNat + 9 := digit.2
  have below : c.toNat - '0'.toNat < 10 := by omega
  refine ⟨below, ?_⟩
  apply Char.toNat_inj.mp
  rw [Nat.toNat_digitChar_of_lt_ten below]
  exact Nat.add_sub_cancel' low

theorem decimal_digit {d : Nat} (below : d < 10) : decimal d = [Nat.digitChar d] := Nat.toDigits_of_lt_base below

theorem digitChar_ne_zero {d : Nat} (positive : 0 < d) (below : d < 10) : Nat.digitChar d ≠ '0' := by
  intro same
  have value := Nat.toNat_digitChar_of_lt_ten below
  have zero : '0'.toNat = 48 := rfl
  rw [same, zero] at value
  omega

theorem head_decimal {n : Nat} (positive : 0 < n) : (decimal n).head? ≠ some '0' := by
  -- No number but zero is written with a zero in front. Induction on the number, a digit less each
  -- time.
  induction n using Nat.strongRecOn with
  | ind n step =>
    by_cases below : n < 10
    · rw [decimal_digit below]
      exact fun zero => digitChar_ne_zero positive below (Option.some.inj zero)
    · have longer : decimal n = decimal (n / 10) ++ [Nat.digitChar (n % 10)] :=
        Nat.toDigits_of_base_le (by decide) (Nat.le_of_not_lt below)
      have first : (decimal (n / 10)).head? ≠ some '0' := step (n / 10) (by omega) (by omega)
      obtain ⟨c, more, parts⟩ : ∃ c more, decimal (n / 10) = c :: more :=
        List.exists_cons_of_ne_nil Nat.toDigits_ne_nil
      rw [longer, parts]
      rw [parts] at first
      exact first

theorem decimal_append (n : Nat) {d : Nat} (below : d < 10) :
    ∃ zeros, decimal n ++ decimal d = List.replicate zeros '0' ++ decimal (10 * n + d) := by
  rcases Nat.eq_zero_or_pos n with rfl | positive
  · refine ⟨1, ?_⟩
    rw [Nat.mul_zero, Nat.zero_add]
    rfl
  · exact ⟨0, Nat.toDigits_append_toDigits (by decide) positive below⟩

theorem IsNumeral.zeros {s : Text} {n : Nat} (numeral : s.IsNumeral n) :
    ∃ zeros, s = List.replicate zeros '0' ++ decimal n := by
  -- A numeral is its number written out, behind any count of zeros. Induction from the last digit.
  induction s using List.reverseRecOn generalizing n with
  | nil => exact absurd rfl numeral.some
  | append_singleton front last step =>
    obtain ⟨below, written⟩ := digitChar_value (numeral.digits last (by simp))
    generalize value : last.toNat - '0'.toNat = d at below written
    have total : n = 10 * Nat.ofDigitChars 10 front 0 + d := by
      rw [← numeral.value, Nat.ofDigitChars_append, Nat.ofDigitChars_cons, Nat.ofDigitChars_nil, value]
    have single : [last] = decimal d := by
      rw [decimal_digit below, written]
    by_cases alone : front = []
    · refine ⟨0, ?_⟩
      rw [total, alone, single]
      simp
    · have before : IsNumeral front (Nat.ofDigitChars 10 front 0) :=
        ⟨alone, fun c member => numeral.digits c (List.mem_append_left _ member), rfl⟩
      obtain ⟨zeros, parts⟩ := step before
      obtain ⟨more, longer⟩ := decimal_append (Nat.ofDigitChars 10 front 0) below
      refine ⟨zeros + more, ?_⟩
      calc front ++ [last]
        _ = List.replicate zeros '0' ++ (decimal (Nat.ofDigitChars 10 front 0) ++ decimal d) := by
          rw [← List.append_assoc, ← parts, single]
        _ = List.replicate (zeros + more) '0' ++ decimal n := by
          rw [longer, total, ← List.append_assoc, List.replicate_append_replicate]

theorem IsNumeral.eq_decimal {s : Text} {n : Nat} (numeral : s.IsNumeral n)
    (full : s.length = (decimal n).length) : s = decimal n := by
  obtain ⟨zeros, rfl⟩ := numeral.zeros
  rw [List.length_append, List.length_replicate, Nat.add_eq_right] at full
  rw [full]
  rfl

end ShaderConversion.Text
