import ShaderConversion.Configuration.Json
import ShaderConversion.Format
import ShaderConversion.Text.Quoted

namespace ShaderConversion

inductive DocumentError where
  | unreadable (fault : Json.Fault)
  | notObject
  | notInteger (key : Text)
  | unsupportedValue (key : Text)
  deriving DecidableEq, Repr

def DocumentError.message : DocumentError → String
  | unreadable fault => fault.message
  | notObject => "expected a JSON object"
  | notInteger key => String.ofList key ++ " is not an integer"
  | unsupportedValue key => String.ofList key ++ " should be a bool, integer or string"

inductive ValueKind where
  | text
  | bool
  | count
  deriving DecidableEq, Repr

def ValueKind.name : ValueKind → String
  | text => "a string"
  | bool => "a bool"
  | count => "a non-negative integer"

inductive SetupError where
  | unsupportedInputFormat (format : Format)
  | unsupportedOutputFormat (format : Format)
  | unknownVersion (given : Text)
  | unknownTarget (given : Text)
  | malformedSpirvVersion (given : Text)
  | spirvVersionOutOfRange (given : Text)
  | unknownStage (given : Text)
  | invalidDefinitionName (given : Text)
  | malformedDocument (error : DocumentError)
  | wrongValueType (key : Text) (expected : ValueKind)
  deriving DecidableEq, Repr

def SetupError.message : SetupError → String
  | unsupportedInputFormat format =>
    s!"input format should be Glsl or Unspecified but got {format}"
  | unsupportedOutputFormat format =>
    s!"output format should be Spirv or Unspecified but got {format}"
  | unknownVersion given =>
    "input format version should be one of supported GLSL #version strings but got " ++ given.quoted
  | unknownTarget given =>
    "output format version target should be opengl4.5 or vulkanX.Y but got " ++ given.quoted
  | malformedSpirvVersion given =>
    "output format version language should be spvX.Y but got " ++ given.quoted
  | spirvVersionOutOfRange given =>
    "output format version language should be spv1.0 to spv1.5 but got " ++ given.quoted
  | unknownStage given => "unknown shader stage " ++ given.quoted
  | invalidDefinitionName given => "invalid definition name " ++ given.quoted
  | malformedDocument error => "malformed configuration document: " ++ error.message
  | wrongValueType key expected =>
    "configuration key " ++ String.ofList key ++ " should be " ++ expected.name

namespace SetupError

def orError {α : Type} (found : Option α) (e : SetupError) : Except SetupError α :=
  match found with
  | some a => .ok a
  | none => .error e

theorem orError_ok {α : Type} {found : Option α} {e : SetupError} {a : α} :
    orError found e = .ok a ↔ found = some a := by
  cases found <;> simp [orError]

theorem orError_error {α : Type} {found : Option α} {e e' : SetupError} :
    orError found e = .error e' ↔ found = none ∧ e' = e := by
  cases found <;> simp [orError, eq_comm]

end SetupError

end ShaderConversion
