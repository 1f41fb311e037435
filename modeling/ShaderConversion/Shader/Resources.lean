import ShaderConversion.Shader.Program

namespace ShaderConversion.Shader

mutual

def Kind.locations : Kind → Binding → List UInt32
  | _, .location index => [index]
  | .struct members, .none => members.locations
  | _, _ => []

def Members.locations : Members → List UInt32
  | .nil => []
  | .cons kind binding rest => kind.locations binding ++ rest.locations

end

def Value.locations (v : Value) : List UInt32 := v.kind.locations v.binding

def wordMax : Nat := UInt32.size - 1

def saturatingMul (a b : UInt32) : UInt32 := UInt32.ofNat (min (a.toNat * b.toNat) wordMax)

def Extent.count : Extent → UInt32
  | fixed count => count
  | dynamic => 1

def Kind.images : Kind → UInt32
  | .image => 1
  | .array base extent => saturatingMul extent.count base.images
  | .bindingArray base extent => saturatingMul extent.count base.images
  | _ => 0

def invocations (size : GroupSize) : UInt64 := size.x.toUInt64 * size.y.toUInt64 * size.z.toUInt64

inductive Excess where
  | vertexInput (location limit : UInt32)
  | fragmentOutput (location limit : UInt32)
  | group (size : GroupSize) (entryPoint : Text) (limits : Limits)
  | textureUnits (used limit : UInt32)

def Excess.message : Excess → String
  | vertexInput location limit =>
    s!"error: vertex input location {location} exceeds max_vertex_attribs ({limit})"
  | fragmentOutput location limit =>
    s!"error: fragment output location {location} exceeds max_draw_buffers ({limit})"
  | group size entryPoint limits =>
    s!"error: workgroup size {size} of {String.ofList entryPoint} exceeds the limits " ++
      s!"{limits.groupSize} ({limits.groupInvocations} invocations)"
  | textureUnits used limit =>
    s!"error: {used} texture image units in use, max_combined_texture_image_units is {limit}"

def exceedsGroup (size : GroupSize) (limits : Limits) : Bool :=
  limits.groupSize.x < size.x || limits.groupSize.y < size.y || limits.groupSize.z < size.z ||
    limits.groupInvocations.toUInt64 < invocations size

def EntryPoint.excess (limits : Limits) (e : EntryPoint) : List Excess :=
  match e.stage with
  | .vertex =>
    ((e.arguments.flatMap Value.locations).filter fun l => limits.vertexAttributes ≤ l).map
      fun l => .vertexInput l limits.vertexAttributes
  | .fragment =>
    ((e.result?.toList.flatMap Value.locations).filter fun l => limits.drawBuffers ≤ l).map
      fun l => .fragmentOutput l limits.drawBuffers
  | .compute =>
    if exceedsGroup e.groupSize limits then [.group e.groupSize e.name limits] else []
  | _ => []

-- Texture units of all variables, added as 32-bit words.
def Program.textureUnits (p : Program) : UInt32 := (p.globals.map Kind.images).foldl (· + ·) 0

def Program.excess (limits : Limits) (p : Program) : List Excess :=
  p.entryPoints.flatMap (EntryPoint.excess limits) ++
    if limits.textureUnits < p.textureUnits then
      [.textureUnits p.textureUnits limits.textureUnits]
    else []

def Program.checkLimits (limits : Limits) (p : Program) : Diagnostics :=
  (p.excess limits).map fun excess => ⟨.error, excess.message⟩

end ShaderConversion.Shader
