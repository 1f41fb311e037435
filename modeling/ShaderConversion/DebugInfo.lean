import ShaderConversion.Text.Basic

namespace ShaderConversion

inductive DebugLevel where
  | none
  | sourceAndLine
  deriving DecidableEq, Repr

inductive DebugPart where
  | embedSource
  | lineInfo
  | processingHistory
  deriving DecidableEq, Repr

namespace DebugPart

def all : List DebugPart := [embedSource, lineInfo, processingHistory]

def name : DebugPart → String
  | embedSource => "EMBED_SOURCE"
  | lineInfo => "LINE_INFO"
  | processingHistory => "PROCESSING_HISTORY"

def bit (part : DebugPart) : Nat := 1 <<< all.idxOf part

end DebugPart

namespace DebugLevel

-- Nothing and `0` ask for no debug information, everything else for all of it.
def ofText (s : Text) : DebugLevel :=
  if s = [] ∨ s = ['0'] then none else sourceAndLine

def isKnown (s : Text) : Bool := s = [] ∨ s = ['0'] ∨ s = ['1']

def parts : DebugLevel → List DebugPart
  | none => []
  | sourceAndLine => DebugPart.all

def embedsSource (level : DebugLevel) : Bool := DebugPart.embedSource ∈ level.parts

def text : DebugLevel → String
  | none => "0"
  | sourceAndLine => "1"

instance : ToString DebugLevel := ⟨text⟩

end DebugLevel

end ShaderConversion
