import ShaderConversion.Diagnostic
import ShaderConversion.Request

namespace ShaderConversion

-- What stands behind a converter. Its answers depend on the request alone.
structure Compiler where
  name : String
  validate : Request → Diagnostics
  compile : Request → Except Diagnostics (List UInt8)
  notes : Request → List String

end ShaderConversion
