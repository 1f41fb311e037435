import ShaderConversion.Diagnostic
import ShaderConversion.Limits
import ShaderConversion.Stage

namespace ShaderConversion.Shader

inductive Binding where
  | none
  | builtIn
  | location (index : UInt32)
  deriving DecidableEq, Repr

inductive Extent where
  | fixed (count : UInt32)
  | dynamic
  deriving DecidableEq, Repr

mutual

inductive Kind where
  | image
  | array (base : Kind) (extent : Extent)
  | bindingArray (base : Kind) (extent : Extent)
  | struct (members : Members)
  | other

inductive Members where
  | nil
  | cons (kind : Kind) (binding : Binding) (rest : Members)

end

structure Value where
  kind : Kind
  binding : Binding

structure EntryPoint where
  name : Text
  stage : Stage
  arguments : List Value
  result? : Option Value
  groupSize : GroupSize

structure Program where
  entryPoints : List EntryPoint
  globals : List Kind

end ShaderConversion.Shader
