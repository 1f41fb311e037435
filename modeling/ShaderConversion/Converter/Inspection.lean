import ShaderConversion.Journal
import ShaderConversion.Spirv.Module

namespace ShaderConversion

structure Inspection where
  source? : Option Text
  groupSize? : Option GroupSize
  events : List Event

namespace Inspection

def walkEvents (words : List UInt32) : List Event :=
  (Spirv.Instruction.malformedAt? words).toList.map Event.instructionMalformed

-- Looks for the source through all instructions, and for the group size up to the
-- first one that declares it.
def ofModule (m : Spirv.Module) : Inspection :=
  let walk := walkEvents m.words
  { source? := m.embeddedSource?
    groupSize? := m.groupSize?
    events := walk ++ if m.groupSize?.isSome then [] else walk }

end Inspection

end ShaderConversion
