import ShaderConversion.Shader.Program

namespace ShaderConversion.Shader

inductive Scalar where
  | bool
  | int
  | uint
  | float
  | double
  deriving DecidableEq, Repr

namespace Scalar

def isNumeric (s : Scalar) : Bool := s != bool

def rank : Scalar → Nat
  | bool => 0
  | int => 1
  | uint => 2
  | float => 3
  | double => 4

def convertsTo (s t : Scalar) : Bool := s = t ∨ (s.isNumeric ∧ t.isNumeric ∧ s.rank ≤ t.rank)

def bytes (s : Scalar) : Nat := if s = double then 8 else 4

end Scalar

inductive BaseType where
  | vector (scalar : Scalar) (size : Nat)
  | matrix (scalar : Scalar) (columns rows : Nat)
  | image
  | sampler
  | block
  deriving DecidableEq, Repr

namespace BaseType

def scalarNames : List (String × BaseType) :=
  [("bool", vector .bool 1), ("int", vector .int 1), ("uint", vector .uint 1),
    ("float", vector .float 1), ("double", vector .double 1)]

def marks : List (String × Scalar) :=
  [("b", .bool), ("i", .int), ("u", .uint), ("", .float), ("d", .double)]

def vectorNames : List (String × BaseType) :=
  marks.flatMap fun (mark, scalar) =>
    [2, 3, 4].map fun size => (s!"{mark}vec{size}", vector scalar size)

def matrixNames : List (String × BaseType) :=
  marks.flatMap fun (mark, scalar) =>
    [2, 3, 4].flatMap fun columns =>
      (s!"{mark}mat{columns}", matrix scalar columns columns) ::
        [2, 3, 4].map fun rows => (s!"{mark}mat{columns}x{rows}", matrix scalar columns rows)

def imageNames : List (String × BaseType) :=
  ["", "i", "u"].flatMap fun mark =>
    (["1D", "1DArray", "2D", "2DArray", "2DMS", "2DMSArray", "3D", "Cube", "CubeArray"].map
        fun shape => (s!"{mark}texture{shape}", image)) ++
      ["1D", "1DArray", "2D", "2DArray", "3D"].map fun shape => (s!"{mark}image{shape}", image)

def names : List (Text × BaseType) :=
  (scalarNames ++ vectorNames ++ matrixNames ++ imageNames ++
    [("sampler", sampler), ("samplerShadow", sampler)]).map fun entry => (entry.1.toList, entry.2)

def ofName? (s : Text) : Option BaseType := names.lookup s

def kind : BaseType → Kind
  | image => .image
  | _ => .other

def isNumeric : BaseType → Bool
  | vector scalar _ => scalar.isNumeric
  | matrix scalar _ _ => scalar = .float ∨ scalar = .double
  | _ => false

def hasNarrowColumns : BaseType → Bool
  | matrix _ _ rows => rows = 2
  | _ => false

def stride : BaseType → Nat
  | vector scalar size => scalar.bytes * (if size = 3 then 4 else size)
  | matrix scalar columns rows => columns * (scalar.bytes * (if rows = 3 then 4 else rows))
  | _ => 0

end BaseType

structure DataType where
  base : BaseType
  extents : List Extent
  deriving DecidableEq, Repr

namespace DataType

def kind (t : DataType) : Kind := t.extents.foldl Kind.array t.base.kind

def hasSize (t : DataType) : Bool := t.extents.all (· != .dynamic)

def isVarying (t : DataType) : Bool :=
  match t.base with
  | .vector scalar _ => scalar.isNumeric && t.hasSize
  | _ => false

def isMember (t : DataType) : Bool := t.base.isNumeric && t.hasSize

-- What a uniform can be. Elements of an array start at multiples of 16 bytes.
def isUniform (t : DataType) : Bool :=
  match t.base with
  | .image | .sampler => t.extents.isEmpty
  | .block => t.hasSize
  | base => base.isNumeric && t.hasSize && (t.extents.isEmpty || base.stride % 16 == 0)

def isPlain (t : DataType) : Bool :=
  match t.base with
  | .vector .. => t.hasSize
  | base => base.isNumeric && t.hasSize

def convertsTo (t target : DataType) : Bool :=
  match t, target with
  | ⟨.vector s m, []⟩, ⟨.vector s' n, []⟩ => s.convertsTo s' && m == n
  | t, target => t = target

end DataType

end ShaderConversion.Shader
