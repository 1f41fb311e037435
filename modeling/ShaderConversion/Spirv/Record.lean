import ShaderConversion.Spirv.Instruction
import ShaderConversion.Spirv.Literal
import ShaderConversion.Limits

namespace ShaderConversion.Spirv

namespace Opcode

def sourceContinued : UInt16 := 2
def source : UInt16 := 3
def string : UInt16 := 7
def executionMode : UInt16 := 16

end Opcode

def glslLanguage : UInt32 := 2
def localSizeMode : UInt32 := 17

-- A count of words has 16 bits. A source record spends four words before its text
-- and one byte behind it.
def pieceRoom : Nat := (0xFFFF - 4) * 4 - 1

def gatherSource (pieces? : Option (List Text)) (i : Instruction) : Option (List Text) :=
  if i.opcode = Opcode.source ∧ 3 < i.operands.length then some [unpackText (i.operands.drop 3)]
  else if i.opcode = Opcode.sourceContinued then pieces?.map (unpackText i.operands :: ·)
  else pieces?

def embeddedSource? (words : List UInt32) : Option Text :=
  ((Instruction.ofWords words).foldl gatherSource none).map fun pieces => pieces.reverse.flatten

def groupSizeOf? (i : Instruction) : Option GroupSize :=
  match i.operands with
  | [_, mode, x, y, z] =>
    if i.opcode = Opcode.executionMode ∧ mode = localSizeMode then some ⟨x, y, z⟩ else none
  | _ => none

def groupSize? (words : List UInt32) : Option GroupSize :=
  (Instruction.ofWords words).findSome? groupSizeOf?

-- The records that embed a source: the file name as id 1, the first piece of the
-- source, and its other pieces.
def sourceRecords (fileName : Text) (number : Nat) (source : Text) : List Instruction :=
  let sources := pieces pieceRoom source
  let name := (pieces pieceRoom fileName).headD []
  ⟨Opcode.string, 1 :: packText name⟩ ::
    ⟨Opcode.source, glslLanguage :: UInt32.ofNat number :: 1 :: packText (sources.headD [])⟩ ::
    (sources.drop 1).map fun piece => ⟨Opcode.sourceContinued, packText piece⟩

end ShaderConversion.Spirv
