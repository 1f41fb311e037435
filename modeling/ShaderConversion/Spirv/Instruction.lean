namespace ShaderConversion.Spirv

structure Instruction where
  opcode : UInt16
  operands : List UInt32
  deriving DecidableEq, Repr

namespace Instruction

def size (i : Instruction) : Nat := 1 + i.operands.length

def encode (i : Instruction) : List UInt32 :=
  ((UInt32.ofNat i.size <<< 16) ||| i.opcode.toUInt32) :: i.operands

def encodeAll (instructions : List Instruction) : List UInt32 := instructions.flatMap encode

def countOf (first : UInt32) : Nat := (first >>> 16).toNat

def opcodeOf (first : UInt32) : UInt16 := first.toUInt16

-- Takes instructions from the front, after those in `done` in reverse. The walk
-- ends at the first word whose count is zero or leads past the end.
def takeOnto (done : List Instruction) : List UInt32 → List Instruction × List UInt32
  | [] => (done.reverse, [])
  | first :: rest =>
    let wanted := countOf first - 1
    let operands := rest.take wanted
    if countOf first = 0 ∨ operands.length < wanted then (done.reverse, first :: rest)
    else takeOnto (⟨opcodeOf first, operands⟩ :: done) (rest.drop wanted)
termination_by words => words.length
decreasing_by simp only [List.length_drop, List.length_cons]; omega

def split (words : List UInt32) : List Instruction × List UInt32 := takeOnto [] (words.drop 5)

def ofWords (words : List UInt32) : List Instruction := (split words).1

def malformedAt? (words : List UInt32) : Option Nat :=
  match (split words).2 with
  | [] => none
  | rest => some (words.length - rest.length)

end Instruction

end ShaderConversion.Spirv
