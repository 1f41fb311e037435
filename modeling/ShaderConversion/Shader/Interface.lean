import ShaderConversion.Shader.DataType

namespace ShaderConversion.Shader

inductive Storage where
  | input
  | output
  | uniform
  | buffer
  | plain
  deriving DecidableEq, Repr

structure Variable where
  name? : Option Text
  storage : Storage
  type : DataType
  location : UInt32
  members : List (Text × DataType)

namespace Variable

def locationsFrom (first : UInt32) : List Extent → List UInt32
  | .fixed count :: inner =>
    (List.range count.toNat).flatMap fun offset => locationsFrom (first + UInt32.ofNat offset) inner
  | _ => [first]

def locations (v : Variable) : List UInt32 := locationsFrom v.location v.type.extents.reverse

def isSound (v : Variable) : Bool :=
  match v.storage with
  | .input | .output => v.type.isVarying
  | .uniform => v.type.isUniform && v.members.all fun member => member.2.isMember
  | .buffer => v.members.all fun member => member.2.base.isNumeric
  | .plain => v.type.isPlain

end Variable

inductive BuiltIn where
  | position
  | pointSize
  | fragmentDepth
  deriving DecidableEq, Repr

namespace BuiltIn

def ofName? (s : Text) : Option BuiltIn :=
  if s = "gl_Position".toList then some position
  else if s = "gl_PointSize".toList then some pointSize
  else if s = "gl_FragDepth".toList then some fragmentDepth
  else none

def type : BuiltIn → DataType
  | position => ⟨.vector .float 4, []⟩
  | _ => ⟨.vector .float 1, []⟩

def stage : BuiltIn → Stage
  | fragmentDepth => .fragment
  | _ => .vertex

def inputs : List (String × Stage) :=
  [("gl_FragCoord", .fragment), ("gl_PointCoord", .fragment), ("gl_FrontFacing", .fragment),
    ("gl_PrimitiveID", .fragment), ("gl_SampleID", .fragment), ("gl_VertexIndex", .vertex),
    ("gl_InstanceIndex", .vertex), ("gl_BaseVertex", .vertex), ("gl_BaseInstance", .vertex),
    ("gl_GlobalInvocationID", .compute), ("gl_NumWorkGroups", .compute),
    ("gl_WorkGroupSize", .compute), ("gl_WorkGroupID", .compute),
    ("gl_LocalInvocationID", .compute), ("gl_LocalInvocationIndex", .compute)]

end BuiltIn

structure GroupRequest where
  x? : Option UInt32
  y? : Option UInt32
  z? : Option UInt32

-- Everything that a source says about the outside of its shader: its variables in
-- order, the built-in outputs it uses, the stages that have the built-in variables
-- it uses, its group size, and whether what it stores has the type of where it is
-- stored.
structure Interface where
  declared : List Variable
  builtIns : List BuiltIn
  stages : List Stage
  group : GroupRequest
  isTyped : Bool

namespace Interface

def declaredIn (i : Interface) (storage : Storage) : List Variable :=
  i.declared.filter fun v => v.storage = storage

def groupSize (i : Interface) (stage : Stage) : GroupSize :=
  let default := if stage = .compute then 1 else 0
  ⟨i.group.x?.getD default, i.group.y?.getD default, i.group.z?.getD default⟩

def inputs (i : Interface) : List UInt32 := (i.declaredIn .input).flatMap Variable.locations

def outputs (i : Interface) : List UInt32 := (i.declaredIn .output).flatMap Variable.locations

def outputBindings (i : Interface) : List Binding :=
  i.outputs.map Binding.location ++ i.builtIns.map fun _ => .builtIn

def members (bindings : List Binding) : Members :=
  bindings.foldr (fun binding rest => .cons .other binding rest) .nil

def program (i : Interface) (stage : Stage) : Program := {
  entryPoints := [{
    name := "main".toList
    stage := stage
    arguments := i.inputs.map fun location => ⟨.other, .location location⟩
    result? :=
      if i.outputBindings.isEmpty then none else some ⟨.struct (members i.outputBindings), .none⟩
    groupSize := i.groupSize stage }]
  globals := i.declared.map fun v => v.type.kind }

def isDistinct (locations : List UInt32) : Bool :=
  let sorted := locations.mergeSort
  (sorted.zip (sorted.drop 1)).all fun (a, b) => a != b

def groupMax : UInt32 := 0x4000

def hasGroup (i : Interface) (stage : Stage) : Bool :=
  let size := i.groupSize stage
  [size.x, size.y, size.z].all fun n => if stage = .compute then 0 < n && n ≤ groupMax else n = 0

-- Whether a module can be written: every variable can be what it is declared to
-- be, no location is taken twice, and a vertex shader gives a position.
def isSound (i : Interface) (stage : Stage) : Bool :=
  i.isTyped && i.declared.all Variable.isSound && isDistinct i.inputs && isDistinct i.outputs &&
    (i.stages.all fun s => s = stage) && i.hasGroup stage &&
    (stage != .vertex || i.builtIns.contains .position)

end Interface

end ShaderConversion.Shader
