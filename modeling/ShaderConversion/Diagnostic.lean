import ShaderConversion.Text.Basic

namespace ShaderConversion

inductive Severity where
  | warning
  | error
  deriving DecidableEq, Repr

def Severity.name : Severity → String
  | warning => "Warning"
  | error => "Error"

structure Diagnostic where
  severity : Severity
  message : String
  deriving DecidableEq, Repr

abbrev Diagnostics := List Diagnostic

namespace Diagnostics

def error (message : String) : Diagnostics := [⟨.error, message⟩]

def warning (message : String) : Diagnostics := [⟨.warning, message⟩]

def hasErrors (ds : Diagnostics) : Bool := ds.any fun d => d.severity = .error

def hasWarnings (ds : Diagnostics) : Bool := ds.any fun d => d.severity = .warning

def line (d : Diagnostic) : String := String.ofList (Text.trimEnd d.message.toList)

def text (ds : Diagnostics) : String := "\n".intercalate (ds.map line)

end Diagnostics

end ShaderConversion
