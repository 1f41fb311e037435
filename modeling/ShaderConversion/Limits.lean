namespace ShaderConversion

structure GroupSize where
  x : UInt32
  y : UInt32
  z : UInt32
  deriving DecidableEq, Repr

instance : ToString GroupSize := ⟨fun s => s!"[{s.x}, {s.y}, {s.z}]"⟩

structure Limits where
  drawBuffers : UInt32
  vertexAttributes : UInt32
  textureUnits : UInt32
  groupInvocations : UInt32
  groupSize : GroupSize
  deriving DecidableEq, Repr

def Limits.default : Limits := ⟨32, 64, 80, 1024, ⟨1024, 1024, 64⟩⟩

def Limits.toList (l : Limits) : List UInt32 :=
  [l.drawBuffers, l.vertexAttributes, l.textureUnits, l.groupInvocations,
    l.groupSize.x, l.groupSize.y, l.groupSize.z]

end ShaderConversion
