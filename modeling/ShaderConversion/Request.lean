import ShaderConversion.DebugInfo
import ShaderConversion.Definitions
import ShaderConversion.FileAccess
import ShaderConversion.Glsl.Directive
import ShaderConversion.Limits
import ShaderConversion.Stage

namespace ShaderConversion

inductive Mode where
  | validate
  | compile
  deriving DecidableEq, Repr

def Mode.name : Mode → String
  | validate => "ValidateOnly"
  | compile => "Compile"

-- All that a compiler is told about one source. The stage is a concrete one, the
-- definitions hold the one that the target implies, and the source declares the
-- version that was forced on it, if any.
structure Request where
  stage : Stage
  version : Glsl.Resolved
  target : Target
  definitions : Definitions
  debugLevel : DebugLevel
  limits : Limits
  mode : Mode
  source : Text
  fileName? : Option Path
  deriving DecidableEq, Repr

end ShaderConversion
