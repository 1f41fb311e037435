import ShaderConversion.Digest.Sha256
import ShaderConversion.Spirv.Header
import ShaderConversion.Spirv.Record
import ShaderConversion.Stage

namespace ShaderConversion.Spirv

structure Module where
  stage : Stage
  version : Revision
  bytes : List UInt8
  deriving DecidableEq, Repr

namespace Module

def ofBytes (stage : Stage) (bytes : List UInt8) : Except HeaderError Module :=
  (readHeader bytes).map fun header => ⟨stage, header.version, bytes⟩

def words (m : Module) : List UInt32 := wordsOfBytes m.bytes

def id (m : Module) : String := Sha256.hex m.bytes

def embeddedSource? (m : Module) : Option Text := Spirv.embeddedSource? m.words

def groupSize? (m : Module) : Option GroupSize := Spirv.groupSize? m.words

def assemble (version : Revision) (bound : UInt32) (instructions : List Instruction) : List UInt32 :=
  [magic, wordOfRevision version, 0, bound, 0] ++ Instruction.encodeAll instructions

end Module

end ShaderConversion.Spirv
