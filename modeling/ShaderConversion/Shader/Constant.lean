import ShaderConversion.Shader.DataType
import ShaderConversion.Shader.Token

namespace ShaderConversion.Shader

inductive Constant where
  | truth (value : Bool)
  | signed (value : Int32)
  | unsigned (value : UInt32)
  | real (value : Float32)
  deriving DecidableEq, Repr

namespace Constant

def type : Constant → Scalar
  | truth _ => .bool
  | signed _ => .int
  | unsigned _ => .uint
  | real _ => .float

def ofLiteral (l : IntegerLiteral) : Constant :=
  if l.isUnsigned then unsigned l.value.toUInt32 else signed l.value.toUInt32.toInt32

def signed? (n : Int) : Option Constant :=
  if (Int32.ofInt n).toInt = n then some (signed (Int32.ofInt n)) else none

def unsigned? (n : Int) : Option Constant :=
  if ((UInt32.ofInt n).toNat : Int) = n then some (unsigned (UInt32.ofInt n)) else none

def real? (x : Float32) : Option Constant := if x.isFinite then some (real x) else none

def word? : Constant → Option UInt32
  | signed value => if value < 0 then none else some value.toUInt32
  | unsigned value => some value
  | _ => none

-- The bits of a word; truth is one, and a real number loses its fraction and stops at
-- the ends of the range.
def toUnsigned : Constant → UInt32
  | truth value => if value then 1 else 0
  | signed value => value.toUInt32
  | unsigned value => value
  | real value => value.toUInt32

def toSigned : Constant → Int32
  | real value => value.toInt32
  | c => c.toUnsigned.toInt32

def toReal : Constant → Float32
  | truth value => if value then 1 else 0
  | signed value => Float32.ofInt value.toInt
  | unsigned value => Float32.ofNat value.toNat
  | real value => value

def toTruth : Constant → Bool
  | real value => value != 0
  | c => c.toUnsigned != 0

def convert? (c : Constant) : Scalar → Option Constant
  | .bool => some (truth c.toTruth)
  | .int => some (signed c.toSigned)
  | .uint => some (unsigned c.toUnsigned)
  | .float => some (real c.toReal)
  | .double => none

end Constant

end ShaderConversion.Shader
