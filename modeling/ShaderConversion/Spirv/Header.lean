import ShaderConversion.Spirv.Revision
import ShaderConversion.Spirv.Word

namespace ShaderConversion.Spirv

def magic : UInt32 := 0x07230203

structure Header where
  version : Revision
  bound : UInt32
  deriving DecidableEq, Repr

inductive HeaderError where
  | tooSmall (size : Nat)
  | notAligned (size : Nat)
  | wrongMagic (found : UInt32)
  | unsupportedVersion (found : Revision)
  | zeroBound
  deriving DecidableEq, Repr

def HeaderError.message : HeaderError → String
  | tooSmall size => s!"SPIR-V too small: {size} bytes (minimum 20)"
  | notAligned size => s!"SPIR-V size ({size}) not 4-byte aligned"
  | wrongMagic found =>
    let digits := String.ofList (Text.hexadecimalPadded 8 found.toNat)
    s!"Invalid SPIR-V magic: 0x{digits} (expected 0x07230203)"
  | unsupportedVersion found => s!"Unsupported SPIR-V version: {found} (supported: 1.0-1.6)"
  | zeroBound => "SPIR-V bound is 0 (invalid)"

-- The middle bytes of a version word; the outer two are not looked at.
def revisionOfWord (w : UInt32) : Revision := ⟨(w >>> 16).toUInt8, (w >>> 8).toUInt8⟩

def wordOfRevision (r : Revision) : UInt32 := (r.major.toUInt32 <<< 16) ||| (r.minor.toUInt32 <<< 8)

def isSupported (r : Revision) : Bool := r.major = 1 ∧ r.minor ≤ 6

def readHeader (bytes : List UInt8) : Except HeaderError Header :=
  if bytes.length < 20 then .error (.tooSmall bytes.length)
  else if bytes.length % 4 ≠ 0 then .error (.notAligned bytes.length)
  else
    match wordsOfBytes (bytes.take 16) with
    | [first, version, _, bound] =>
      if first ≠ magic then .error (.wrongMagic first)
      else if !isSupported (revisionOfWord version) then
        .error (.unsupportedVersion (revisionOfWord version))
      else if bound = 0 then .error .zeroBound
      else .ok ⟨revisionOfWord version, bound⟩
    | _ => .error (.tooSmall bytes.length)

end ShaderConversion.Spirv
