import ShaderConversion.SetupError
import ShaderConversion.Spirv.Revision

namespace ShaderConversion

inductive Api where
  | openGl
  | vulkan
  deriving DecidableEq, Repr

def Api.text : Api → Text
  | openGl => "opengl".toList
  | vulkan => "vulkan".toList

structure Target where
  api : Api
  apiVersion : Revision
  spirvVersion : Revision
  deriving DecidableEq, Repr

namespace Target

def default : Target := ⟨.vulkan, ⟨1, 0⟩, ⟨1, 0⟩⟩

def known : List (Text × Target) := [
  ("opengl4.5".toList, ⟨.openGl, ⟨4, 5⟩, ⟨1, 0⟩⟩),
  ("vulkan1.0".toList, ⟨.vulkan, ⟨1, 0⟩, ⟨1, 0⟩⟩),
  ("vulkan1.1".toList, ⟨.vulkan, ⟨1, 1⟩, ⟨1, 3⟩⟩),
  ("vulkan1.2".toList, ⟨.vulkan, ⟨1, 2⟩, ⟨1, 5⟩⟩)]

def text (t : Target) : Text :=
  t.api.text ++ t.apiVersion.text ++ " spv".toList ++ t.spirvVersion.text

instance : ToString Target := ⟨fun t => String.ofList t.text⟩

def lowestSpirv : Revision := ⟨1, 0⟩
def highestSpirv : Revision := ⟨1, 5⟩

def versionPart? (s : Text) : Option UInt8 := (s.decimalBelow? UInt8.size).map UInt8.ofNat

def spirvVersion? (s : Text) : Option Revision := do
  let numbers ← "spv".toList.isPrefixOf? s
  let (major, minor) ← Text.cutAt '.' numbers
  return ⟨← versionPart? major, ← versionPart? minor⟩

def readSpirvVersion (s : Text) : Except SetupError Revision := do
  let version ← SetupError.orError (spirvVersion? s) (.malformedSpirvVersion s)
  if lowestSpirv.atMost version ∧ version.atMost highestSpirv then .ok version
  else .error (.spirvVersionOutOfRange s)

def ofText (s : Text) : Except SetupError Target := do
  let (name, version?) :=
    match s.cutAt ' ' with
    | none => (s, none)
    | some (name, version) => (name, some version)
  let target ← SetupError.orError (known.lookup name) (.unknownTarget name)
  match version? with
  | none => .ok target
  | some version => return { target with spirvVersion := ← readSpirvVersion version }

def negotiate (s? : Option Text) : Except SetupError Target :=
  match s? with
  | none => .ok default
  | some s => if s = [] then .ok default else ofText s

end Target

end ShaderConversion
