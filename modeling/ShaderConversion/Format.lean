namespace ShaderConversion

inductive Format where
  | unspecified
  | glsl
  | spirv
  | spirvAssembly
  | hlsl
  | msl
  | wgsl
  | dxil
  deriving DecidableEq, Repr

namespace Format

def all : List Format := [unspecified, glsl, spirv, spirvAssembly, hlsl, msl, wgsl, dxil]

def name : Format → String
  | unspecified => "Unspecified"
  | glsl => "Glsl"
  | spirv => "Spirv"
  | spirvAssembly => "SpirvAssembly"
  | hlsl => "Hlsl"
  | msl => "Msl"
  | wgsl => "Wgsl"
  | dxil => "Dxil"

instance : ToString Format := ⟨name⟩

def ofName? (s : String) : Option Format := all.find? (·.name == s)

end Format

inductive Capability where
  | validateData
  | validateFile
  | convertData
  | convertFileToData
  | convertFileToFile
  | convertDataToFile
  | preprocessDefinitions
  | debugInfo
  deriving DecidableEq, Repr

namespace Capability

def all : List Capability := [
  validateData, validateFile, convertData, convertFileToData, convertFileToFile, convertDataToFile,
  preprocessDefinitions, debugInfo]

def name : Capability → String
  | validateData => "VALIDATE_DATA"
  | validateFile => "VALIDATE_FILE"
  | convertData => "CONVERT_DATA"
  | convertFileToData => "CONVERT_FILE_TO_DATA"
  | convertFileToFile => "CONVERT_FILE_TO_FILE"
  | convertDataToFile => "CONVERT_DATA_TO_FILE"
  | preprocessDefinitions => "PREPROCESS_DEFINITIONS"
  | debugInfo => "DEBUG_INFO"

def bit (c : Capability) : Nat := 1 <<< all.idxOf c

end Capability

end ShaderConversion
