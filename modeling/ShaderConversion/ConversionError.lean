import ShaderConversion.Diagnostic
import ShaderConversion.FileAccess
import ShaderConversion.Glsl.Version
import ShaderConversion.Spirv.Header

namespace ShaderConversion

inductive OutputError where
  | header (error : Spirv.HeaderError)
  | wrongVersion (expected found : Revision)
  deriving DecidableEq, Repr

def OutputError.message : OutputError → String
  | header error => error.message
  | wrongVersion expected found => s!"expected SPIR-V {expected} but got {found}"

inductive ConversionError where
  | oldVersion (version : Glsl.Version)
  | rejected (diagnostics : Diagnostics)
  | inaccessible (path : Path) (error : FileError)
  | withoutCompiler
  | malformedOutput (error : OutputError)
  deriving DecidableEq, Repr

namespace ConversionError

def message : ConversionError → String
  | oldVersion version =>
    s!"compiling GLSL {version} to SPIR-V is not supported, only " ++
      s!"{Glsl.Version.oldestCompilable} and newer can be compiled; use validation instead"
  | rejected diagnostics => "compilation failed:\n" ++ diagnostics.text
  | inaccessible path error => s!"cannot access {path}: {error}"
  | withoutCompiler => "backend runtime is not initialized"
  | malformedOutput error => "backend produced a malformed module: " ++ error.message

def diagnostics? : ConversionError → Option String
  | rejected diagnostics => some diagnostics.text
  | _ => none

end ConversionError

end ShaderConversion
