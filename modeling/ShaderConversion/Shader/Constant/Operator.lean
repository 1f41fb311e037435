import ShaderConversion.Shader.Constant
import ShaderConversion.Shader.RealNumber

namespace ShaderConversion.Shader.Constant

inductive PrefixOperator where
  | plus
  | minus
  | not
  | complement
  deriving DecidableEq, Repr

def PrefixOperator.ofSign? : Text → Option PrefixOperator
  | ['+'] => some plus
  | ['-'] => some minus
  | ['!'] => some not
  | ['~'] => some complement
  | _ => none

def PrefixOperator.evaluate? (op : PrefixOperator) (c : Constant) : Option Constant :=
  match op, c with
  | plus, c => some c
  | minus, signed value => some (signed (-value))
  | minus, real value => some (real (-value))
  | not, truth value => some (truth !value)
  | complement, signed value => some (signed (~~~value))
  | complement, unsigned value => some (unsigned (~~~value))
  | _, _ => none

inductive Operator where
  | or | xor | and
  | bitOr | bitXor | bitAnd
  | equal | notEqual
  | less | lessEqual | greater | greaterEqual
  | shiftLeft | shiftRight
  | add | subtract
  | multiply | divide | remainder
  deriving DecidableEq, Repr

namespace Operator

def signs : List (String × Operator) :=
  [("||", or), ("^^", xor), ("&&", and), ("|", bitOr), ("^", bitXor), ("&", bitAnd), ("==", equal),
    ("!=", notEqual), ("<", less), ("<=", lessEqual), (">", greater), (">=", greaterEqual),
    ("<<", shiftLeft), (">>", shiftRight), ("+", add), ("-", subtract), ("*", multiply),
    ("/", divide), ("%", remainder)]

def ofSign? (sign : Text) : Option Operator := signs.lookup (String.ofList sign)

def rank : Operator → Nat
  | or => 1
  | xor => 2
  | and => 3
  | bitOr => 4
  | bitXor => 5
  | bitAnd => 6
  | equal | notEqual => 7
  | less | lessEqual | greater | greaterEqual => 8
  | shiftLeft | shiftRight => 9
  | add | subtract => 10
  | multiply | divide | remainder => 11

def isShift (op : Operator) : Bool := op = shiftLeft || op = shiftRight

def integer? (op : Operator) (a b : Int) : Option Int :=
  match op with
  | add => some (a + b)
  | subtract => some (a - b)
  | multiply => some (a * b)
  | divide => if b = 0 then none else some (a.tdiv b)
  | remainder => if b = 0 then none else some (a.tmod b)
  | _ => none

def comparison? (op : Operator) (a b : Int) : Option Bool :=
  match op with
  | equal => some (a = b)
  | notEqual => some (a ≠ b)
  | less => some (a < b)
  | lessEqual => some (a ≤ b)
  | greater => some (b < a)
  | greaterEqual => some (b ≤ a)
  | _ => none

def bitwise? (op : Operator) (a b : UInt32) : Option UInt32 :=
  match op with
  | bitOr => some (a ||| b)
  | bitXor => some (a ^^^ b)
  | bitAnd => some (a &&& b)
  | _ => none

def logical? (op : Operator) (a b : Bool) : Option Bool :=
  match op with
  | or => some (a || b)
  | and => some (a && b)
  | xor | notEqual => some (a != b)
  | equal => some (a == b)
  | _ => none

def applySigned? (op : Operator) (a b : Int32) : Option Constant :=
  match op.comparison? a.toInt b.toInt, op.bitwise? a.toUInt32 b.toUInt32 with
  | some holds, _ => some (truth holds)
  | none, some word => some (signed word.toInt32)
  | none, none =>
    if op = remainder ∧ (signed? (a.toInt.tdiv b.toInt)).isNone then none
    else (op.integer? a.toInt b.toInt).bind signed?

def applyUnsigned? (op : Operator) (a b : UInt32) : Option Constant :=
  match op.comparison? a.toNat b.toNat, op.bitwise? a b with
  | some holds, _ => some (truth holds)
  | none, some word => some (unsigned word)
  | none, none => (op.integer? a.toNat b.toNat).bind unsigned?

def applyReal? (op : Operator) (a b : Float32) : Option Constant :=
  match op with
  | equal => some (truth (a == b))
  | notEqual => some (truth (a != b))
  | less => some (truth (a < b))
  | lessEqual => some (truth (a ≤ b))
  | greater => some (truth (b < a))
  | greaterEqual => some (truth (b ≤ a))
  | add => real? (a + b)
  | subtract => real? (a - b)
  | multiply => real? (a * b)
  | divide => real? (a / b)
  | remainder => real? (RealNumber.remainder a b)
  | _ => none

-- Bits that leave the word are lost. A shift by the width of a word or more is
-- refused.
def shift? (op : Operator) (c : Constant) (count : UInt32) : Option Constant :=
  if count < 32 then
    match op, c with
    | shiftLeft, signed value => some (signed (value.toUInt32 <<< count).toInt32)
    | shiftLeft, unsigned value => some (unsigned (value <<< count))
    | shiftRight, signed value => some (signed (value >>> count.toInt32))
    | shiftRight, unsigned value => some (unsigned (value >>> count))
    | _, _ => none
  else none

def evaluate? (op : Operator) (a b : Constant) : Option Constant :=
  if op.isShift then
    match b with
    | signed _ | unsigned _ => op.shift? a b.toUnsigned
    | _ => none
  else
    match a, b with
    | truth a, truth b => (op.logical? a b).map truth
    | signed a, signed b => op.applySigned? a b
    | unsigned a, unsigned b => op.applyUnsigned? a b
    | real a, real b => op.applyReal? a b
    | _, _ => none

end Operator

end ShaderConversion.Shader.Constant
