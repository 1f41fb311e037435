import ShaderConversion.Shader.RealNumber

namespace ShaderConversion.Shader

structure IntegerLiteral where
  value : UInt64
  isUnsigned : Bool
  deriving DecidableEq, Repr

-- How far a number was read. Behind a zero, digits are octal; an 8 or a 9 leaves the
-- number to be a real one. Behind `0x`, digits can still turn out to be those of a
-- real number for as long as none is a letter. Marks want something behind them.
-- Nothing mends a malformed number.
inductive NumeralForm where
  | zero
  | octal
  | beyondOctal
  | decimal
  | hexMark
  | hexDecimal
  | hexLetter
  | fraction
  | exponentMark
  | exponentSign
  | exponent
  | unsigned
  | single
  | malformed
  deriving DecidableEq, Repr

namespace NumeralForm

def isOctalDigit (c : Char) : Bool := '0' ≤ c ∧ c ≤ '7'

def isSign (c : Char) : Bool := c == '+' || c == '-'

def isOneOf (small capital c : Char) : Bool := c == small || c == capital

def integerSuffix? (c : Char) : Option NumeralForm :=
  if isOneOf 'u' 'U' c then some unsigned
  else if isOneOf 'l' 'L' c || isOneOf 's' 'S' c then some malformed
  else none

def realSuffix? (c : Char) : Option NumeralForm :=
  if isOneOf 'f' 'F' c then some single
  else if isOneOf 'l' 'L' c || isOneOf 'h' 'H' c then some malformed
  else none

def realMark? (c : Char) : Option NumeralForm :=
  if c == '.' then some fraction else if isOneOf 'e' 'E' c then some exponentMark else none

def behindDigits? (c : Char) : Option NumeralForm := (realMark? c).or (integerSuffix? c)

def next? (c : Char) : NumeralForm → Option NumeralForm
  | zero =>
    if isOctalDigit c then some octal
    else if c.isDigit then some beyondOctal
    else if isOneOf 'x' 'X' c then some hexMark
    else behindDigits? c
  | octal =>
    if isOctalDigit c then some octal
    else if c.isDigit then some beyondOctal
    else behindDigits? c
  | beyondOctal =>
    if c.isDigit then some beyondOctal
    else (realMark? c).or ((integerSuffix? c).map fun _ => malformed)
  | decimal => if c.isDigit then some decimal else behindDigits? c
  | hexMark =>
    if c.isDigit then some hexDecimal
    else if (Text.hexDigitValue? c).isSome then some hexLetter
    else if c == '.' then some fraction
    else none
  | hexDecimal =>
    if c.isDigit then some hexDecimal
    else if (Text.hexDigitValue? c).isSome then some hexLetter
    else if c == '.' then some fraction
    else integerSuffix? c
  | hexLetter =>
    if (Text.hexDigitValue? c).isSome then some hexLetter
    else if c == '.' then some malformed
    else integerSuffix? c
  | fraction =>
    if c.isDigit then some fraction
    else if isOneOf 'e' 'E' c then some exponentMark
    else realSuffix? c
  | exponentMark =>
    if isSign c then some exponentSign else if c.isDigit then some exponent else none
  | exponentSign => if c.isDigit then some exponent else none
  | exponent => if c.isDigit then some exponent else realSuffix? c
  | unsigned => if integerSuffix? c = some malformed then some malformed else none
  | single | malformed => none

def radix? : NumeralForm → Option Nat
  | octal => some 8
  | decimal => some 10
  | hexDecimal | hexLetter => some 16
  | _ => none

end NumeralForm

structure Numeral where
  form : NumeralForm
  value : Nat
  reversed : Text
  deriving DecidableEq, Repr

namespace Numeral

def start (c : Char) : Numeral :=
  ⟨if c = '0' then .zero else .decimal, (Text.hexDigitValue? c).getD 0, [c]⟩

def startFraction (c : Char) : Numeral := ⟨.fraction, 0, [c, '.']⟩

def extend? (n : Numeral) (c : Char) : Option Numeral :=
  (n.form.next? c).map fun form =>
    match form.radix?, Text.hexDigitValue? c with
    | some radix, some digit => ⟨form, min UInt64.size (n.value * radix + digit), c :: n.reversed⟩
    | _, _ => ⟨form, n.value, c :: n.reversed⟩

def integer? (n : Numeral) : Option IntegerLiteral :=
  let isInteger :=
    match n.form with
    | .zero | .octal | .decimal | .hexDecimal | .hexLetter | .unsigned => true
    | _ => false
  if isInteger && n.value < UInt64.size then some ⟨UInt64.ofNat n.value, n.form = .unsigned⟩ else none

def real? (n : Numeral) : Option Float32 :=
  match n.form with
  | .fraction | .exponent | .single => some (RealNumber.ofText n.reversed.reverse)
  | _ => none

end Numeral

end ShaderConversion.Shader
