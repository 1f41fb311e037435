import ShaderConversion.Text.Basic

namespace ShaderConversion.Text

def decimal (n : Nat) : Text := Nat.toDigits 10 n

def isDigits (s : Text) : Bool := !s.isEmpty && s.all Char.isDigit

def appendDigit? (bound value : Nat) (digit : Char) : Option Nat :=
  let next := 10 * value + (digit.toNat - '0'.toNat)
  if next < bound then some next else none

-- The value of a non-empty run of ASCII digits, leading zeros allowed, if it is below
-- a bound. No digit is added behind the one that takes it too far.
def decimalBelow? (bound : Nat) (s : Text) : Option Nat :=
  if s.isDigits then s.foldlM (appendDigit? bound) 0 else none

def signedBelow? (bound : Nat) : Text → Option Nat
  | '+' :: digits => decimalBelow? bound digits
  | digits => decimalBelow? bound digits

theorem isDigits_decimal (n : Nat) : (decimal n).isDigits = true := by
  have digits : (decimal n).all Char.isDigit = true :=
    List.all_eq_true.mpr fun c member => Nat.isDigit_of_mem_toDigits (by decide) (by decide) member
  have some : decimal n ≠ [] := Nat.toDigits_ne_nil
  simp [isDigits, digits, some]

theorem not_mem_decimal {c : Char} (other : c.isDigit = false) (n : Nat) : c ∉ decimal n := by
  intro member
  have digit := List.all_eq_true.mp (Bool.and_eq_true_iff.mp (isDigits_decimal n)).2 c member
  cases other.symm.trans digit

theorem le_ofDigitChars (s : Text) (value : Nat) : value ≤ Nat.ofDigitChars 10 s value := by
  induction s generalizing value with
  | nil => simp
  | cons digit s step =>
    rw [Nat.ofDigitChars_cons]
    exact Nat.le_trans (by omega) (step _)

theorem foldlM_appendDigit {bound value : Nat} (below : value < bound) (s : Text) :
    s.foldlM (appendDigit? bound) value =
      if Nat.ofDigitChars 10 s value < bound then some (Nat.ofDigitChars 10 s value) else none := by
  induction s generalizing value with
  | nil => simp [below]
  | cons digit s step =>
    rw [List.foldlM_cons, Nat.ofDigitChars_cons, appendDigit?]
    by_cases next : 10 * value + (digit.toNat - '0'.toNat) < bound
    · rw [if_pos next]
      exact step next
    · have far := le_ofDigitChars s (10 * value + (digit.toNat - '0'.toNat))
      rw [if_neg next, if_neg (by omega)]
      rfl

theorem isBlank_decimal {n : Nat} {c : Char} (member : c ∈ decimal n) : isBlank c = false := by
  have digit := List.all_eq_true.mp (Bool.and_eq_true_iff.mp (isDigits_decimal n)).2 c member
  simp only [Char.isDigit, Bool.and_eq_true, decide_eq_true_eq] at digit
  have low : 48 ≤ c.toNat := digit.1
  have high : c.toNat ≤ 57 := digit.2
  simp only [isBlank, Bool.or_eq_false_iff, Bool.and_eq_false_iff, decide_eq_false_iff_not, beq_eq_false_iff_ne]
  omega

def hexDigitValue? (c : Char) : Option Nat :=
  if c.isDigit then some (c.toNat - 0x30)
  else if 'a' ≤ c ∧ c ≤ 'f' then some (c.toNat - 0x57)
  else if 'A' ≤ c ∧ c ≤ 'F' then some (c.toNat - 0x37)
  else none

def hexadecimal (n : Nat) : Text := Nat.toDigits 16 n

def hexadecimalPadded (width n : Nat) : Text := (hexadecimal n).leftpad width '0'

end ShaderConversion.Text
