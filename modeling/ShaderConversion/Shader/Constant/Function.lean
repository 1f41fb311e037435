import ShaderConversion.Shader.Constant.Operand

namespace ShaderConversion.Shader.Constant

inductive Fit where
  | exact
  | integerAsReal
  | other
  deriving DecidableEq, Repr

def Fit.of? (parameter argument : Scalar) : Option Fit :=
  if parameter = argument then some exact
  else if parameter = .bool ∨ (argument.isNumeric ∧ parameter.rank < argument.rank) then none
  else if parameter = .float ∧ argument ≠ .bool then some integerAsReal
  else some other

structure Choice where
  chosen? : Option (List Scalar × List Fit)
  isExact : Bool
  isAmbiguous : Bool

namespace Choice

def start : Choice := ⟨none, false, false⟩

-- Takes parameters that fit exactly. Else they are taken over none, and over others
-- if no argument speaks for those. An argument speaks for others that it fits
-- exactly. If no argument speaks at all, the call is ambiguous.
def consider (c : Choice) (arguments parameters : List Scalar) : Choice :=
  if c.isExact || parameters.length != arguments.length then c
  else
    match (parameters.zip arguments).mapM fun (p, a) => Fit.of? p a with
    | none => c
    | some fits =>
      if fits.all (· == .exact) then ⟨some (parameters, fits), true, false⟩
      else
        match c.chosen? with
        | none => { c with chosen? := some (parameters, fits) }
        | some (_, old) =>
          if (fits.zip old).any fun (fit, old) => fit != .exact && old == .exact then c
          else ⟨some (parameters, fits), false, true⟩

def parameters? (overloads : List (List Scalar)) (arguments : List Scalar) : Option (List Scalar) :=
  let c := overloads.foldl (fun c parameters => c.consider arguments parameters) start
  if c.isAmbiguous then none else c.chosen?.map Prod.fst

end Choice

structure Function where
  overloads : List (List Scalar)
  mixes : Bool
  compute? : List Constant → Option Constant

namespace Function

def numbers (count : Nat) : List (List Scalar) :=
  [.float, .int, .uint].map fun type => List.replicate count type

def ofReal (f : Float32 → Float32) : Function :=
  ⟨[[.float]], false, fun
    | [.real x] => real? (f x)
    | _ => none⟩

def ofReals (mixes : Bool) (f : Float32 → Float32 → Float32) : Function :=
  ⟨[[.float, .float]], mixes, fun
    | [.real x, .real y] => real? (f x y)
    | _ => none⟩

def ofBits (f : UInt32 → UInt32) : Function :=
  ⟨[[.int], [.uint]], false, fun
    | [.signed n] => some (signed (f n.toUInt32).toInt32)
    | [.unsigned n] => some (unsigned (f n))
    | _ => none⟩

def lesser? (a b : Constant) : Option Constant := do
  match ← Operator.less.evaluate? b a with
  | truth isLess => some (if isLess then b else a)
  | _ => none

def greater? (a b : Constant) : Option Constant := do
  match ← Operator.less.evaluate? a b with
  | truth isLess => some (if isLess then b else a)
  | _ => none

def absolute? : List Constant → Option Constant
  | [.signed n] => some (signed (if n < 0 then -n else n))
  | [.real x] => some (real x.abs)
  | _ => none

def sign? : List Constant → Option Constant
  | [.signed n] => some (signed (if n < 0 then -1 else if n = 0 then 0 else 1))
  | [.real x] => some (real (RealNumber.signum x))
  | _ => none

def clamp? : List Constant → Option Constant
  | [c, low, high] => do
    match ← Operator.less.evaluate? high low with
    | truth false => lesser? (← greater? c low) high
    | _ => none
  | _ => none

def oneBits (n : UInt32) : UInt32 :=
  UInt32.ofNat ((List.range 32).filter fun i => n.toNat.testBit i).length

def reversedBits (n : UInt32) : UInt32 :=
  (List.range 32).foldl (fun r i => r <<< 1 ||| (n >>> UInt32.ofNat i &&& 1)) 0

def bitNumber (bit? : Option Nat) : Int32 := bit?.elim (-1) Int32.ofNat

def lowestBit (n : UInt32) : Int32 := bitNumber ((List.range 32).find? fun i => n.toNat.testBit i)

def highestBit (n : UInt32) : Int32 :=
  bitNumber ((List.range 32).reverse.find? fun i => n.toNat.testBit i)

def ofSearch (search : UInt32 → Int32) (inverts : Bool) : Function :=
  ⟨[[.int], [.uint]], false, fun
    | [.signed n] => some (signed (search (if inverts && n < 0 then ~~~n.toUInt32 else n.toUInt32)))
    | [.unsigned n] => some (signed (search n))
    | _ => none⟩

def degree : Float32 := 3.14159265358979323846264338327950288 / 180

def all : List (String × Function) := [
  ("abs", ⟨[[.float], [.int]], false, absolute?⟩),
  ("sign", ⟨[[.float], [.int]], false, sign?⟩),
  ("min", ⟨numbers 2, true, fun
    | [a, b] => lesser? a b
    | _ => none⟩),
  ("max", ⟨numbers 2, true, fun
    | [a, b] => greater? a b
    | _ => none⟩),
  ("clamp", ⟨numbers 3, true, clamp?⟩),
  ("ceil", ofReal Float32.ceil),
  ("floor", ofReal Float32.floor),
  ("round", ofReal RealNumber.roundEven),
  ("roundEven", ofReal RealNumber.roundEven),
  ("trunc", ofReal RealNumber.truncate),
  ("fract", ofReal RealNumber.fraction),
  ("sqrt", ofReal Float32.sqrt),
  ("inversesqrt", ofReal fun x => 1 / x.sqrt),
  ("sin", ofReal Float32.sin),
  ("cos", ofReal Float32.cos),
  ("tan", ofReal Float32.tan),
  ("asin", ofReal Float32.asin),
  ("acos", ofReal Float32.acos),
  ("atan", ofReal Float32.atan),
  ("sinh", ofReal Float32.sinh),
  ("cosh", ofReal Float32.cosh),
  ("tanh", ofReal Float32.tanh),
  ("asinh", ofReal Float32.asinh),
  ("acosh", ofReal Float32.acosh),
  ("atanh", ofReal Float32.atanh),
  ("exp", ofReal Float32.exp),
  ("exp2", ofReal Float32.exp2),
  ("log", ofReal Float32.log),
  ("log2", ofReal Float32.log2),
  ("radians", ofReal fun x => x * degree),
  ("degrees", ofReal fun x => x * 57.2957795130823208767981548141051703),
  ("pow", ofReals false Float32.pow),
  ("step", ofReals true fun edge x => if edge ≤ x then 1 else 0),
  ("mod", ofReals true fun x y => x - y * (x / y).floor),
  ("fma", ⟨[[.float, .float, .float]], false, fun
    | [.real x, .real y, .real z] => real? (RealNumber.multiplyAdd x y z)
    | _ => none⟩),
  ("bitCount", ofBits oneBits),
  ("bitfieldReverse", ofBits reversedBits),
  ("findLSB", ofSearch lowestBit false),
  ("findMSB", ofSearch highestBit true)]

def ofName? (name : Text) : Option Function := all.lookup (String.ofList name)

def columns? (operands : List Operand) : Option (List (List Constant)) :=
  match operands.find? Operand.isVector with
  | none => some [operands.flatMap Operand.components]
  | some shape =>
    (List.range shape.components.length).mapM fun i =>
      operands.mapM fun
        | .single c => some c
        | .vector _ components => components[i]?

def call? (f : Function) (arguments : List Operand) : Option Operand := do
  let types ← arguments.mapM Operand.type?
  let parameters ← Choice.parameters? f.overloads types
  let operands ← (arguments.zip parameters).mapM fun (o, type) => o.convert? type
  let vectors := operands.filter Operand.isVector
  if (vectors.length ≠ operands.length ∧ vectors ≠ [] ∧ !f.mixes) ∨
      (vectors.any fun v => !(vectors.headD v).isLike v) then none
  else
    let results ← (← columns? operands).mapM f.compute?
    match vectors, results with
    | [], [c] => some (.single c)
    | .vector size _ :: _, components => some (.vector size components)
    | _, _ => none

end Function

end ShaderConversion.Shader.Constant
