import ShaderConversion.Shader.Constant.Operator

namespace ShaderConversion.Shader.Constant

-- What operators and functions work on: a single constant, or a vector with a size
-- and components of one type. Fewer components than the size may have been given.
inductive Operand where
  | single (c : Constant)
  | vector (size : Nat) (components : List Constant)
  deriving DecidableEq, Repr

namespace Operand

def components : Operand → List Constant
  | single c => [c]
  | vector _ components => components

def type? (o : Operand) : Option Scalar := o.components.head?.map Constant.type

def isLike : Operand → Operand → Bool
  | single _, single _ => true
  | vector m _, vector n _ => m = n
  | _, _ => false

def isVector : Operand → Bool
  | single _ => false
  | vector .. => true

def map? (f : Constant → Option Constant) : Operand → Option Operand
  | single c => (f c).map single
  | vector size components => (components.mapM f).map (vector size)

def convert? (o : Operand) (type : Scalar) : Option Operand := o.map? fun c => c.convert? type

def zip? (f : Constant → Constant → Option Constant) : Operand → Operand → Option Operand
  | single a, single b => (f a b).map single
  | vector size a, single b => (a.mapM fun c => f c b).map (vector size)
  | single a, vector size b => (b.mapM fun c => f a c).map (vector size)
  | vector m a, vector n b =>
    if m = n then ((a.zip b).mapM fun (c, d) => f c d).map (vector m) else none

def common? (s t : Scalar) : Option Scalar :=
  if s.isNumeric && t.isNumeric then some (if s.rank ≤ t.rank then t else s) else none

-- Numbers are brought to one type, but for a shift. Vectors are not compared as
-- wholes.
def combine? (op : Operator) (a b : Operand) : Option Operand := do
  let s ← a.type?
  let t ← b.type?
  if (op = .equal || op = .notEqual) && a.isVector && b.isVector then none
  else
    match op.isShift, common? s t with
    | false, some type => zip? op.evaluate? (← a.convert? type) (← b.convert? type)
    | _, _ => zip? op.evaluate? a b

def ofOne? (type : Scalar) (size : Nat) (o : Operand) : Option Operand := do
  if (← o.type?) = .bool ∧ type ≠ .bool then none
  else
    match ← o.convert? type with
    | single c => some (if size = 1 then single c else vector size (List.replicate size c))
    | vector n components =>
      if size = 1 then components.head?.map single
      else if size ≤ n then some (vector size (components.take size))
      else none

def ofMany? (type : Scalar) (size : Nat) (operands : List Operand) : Option Operand := do
  let converted ← operands.mapM fun o => o.convert? type
  some (vector size ((converted.flatMap components).take size))

def construct? (type : BaseType) (arguments : List Operand) : Option Operand :=
  match type, arguments with
  | .vector scalar size, [o] => ofOne? scalar size o
  | .vector scalar size, operands => if size = 1 then none else ofMany? scalar size operands
  | _, _ => none

def componentNames : List Text := ["xyzw", "rgba", "stpq"].map String.toList

def positions? (names part : Text) (size : Nat) : Option (List Nat) :=
  part.mapM fun c =>
    match names.findIdx? (· == c) with
    | some i => if i < size then some i else none
    | none => none

def part? (o : Operand) (name : Text) : Option Operand :=
  match o with
  | single _ => none
  | vector size components =>
    match componentNames.findSome? fun names => positions? names name size with
    | some [i] => components[i]?.map single
    | some positions =>
      if positions.length ≤ 4 then
        (positions.mapM fun i => components[i]?).map (vector positions.length)
      else none
    | none => none

def index? (o index : Operand) : Option Operand :=
  match o, index with
  | vector _ components, single i => do single (← components[(← i.word?).toNat]?)
  | _, _ => none

end Operand

end ShaderConversion.Shader.Constant
