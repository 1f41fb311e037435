import ShaderConversion.Configuration.Store
import ShaderConversion.Journal

namespace ShaderConversion

structure Settings where
  inputVersion? : Option Glsl.Version
  outputFormat : Format
  target : Target
  definitions : Definitions
  debugLevel : DebugLevel
  limits : Limits
  warningsAsErrors : Bool
  deriving DecidableEq, Repr

structure Resolution where
  request : Request
  events : List Event

def Glsl.Directive.events (directive? : Option Glsl.Directive) : List Event :=
  match directive? with
  | some d => if d.version? = none then [.directiveUnknown d.content] else []
  | none => []

namespace Configuration

def keyEvents (keys : List Text) : List Event :=
  (keys.filter fun key => !isKnown key).map Event.unknownKey

def Loading.events (l : Loading) : List Event :=
  keyEvents l.keys ++
    match l.result with
    | .ok config => [.configurationLoaded config.size]
    | .error _ => []

end Configuration

def Glsl.Version.ofText (s : Text) : Except SetupError Glsl.Version :=
  SetupError.orError (Glsl.Version.ofOverride? s) (.unknownVersion s)

namespace Settings

def default : Settings where
  inputVersion? := none
  outputFormat := .unspecified
  target := .default
  definitions := .empty
  debugLevel := .none
  limits := .default
  warningsAsErrors := false

def readInputVersion (s : Text) : Except SetupError (Option Glsl.Version) :=
  if s = [] then .ok none
  else (Glsl.Version.ofText s).map some

def withInputFormat (s : Settings) (format : Format) (version : Text) :
    Except SetupError Settings := do
  if format ≠ .unspecified ∧ format ≠ .glsl then .error (.unsupportedInputFormat format)
  else return { s with inputVersion? := ← readInputVersion version }

def withOutputFormat (s : Settings) (format : Format) (target : Text) :
    Except SetupError Settings := do
  if format ≠ .unspecified ∧ format ≠ .spirv then .error (.unsupportedOutputFormat format)
  else return { s with target := ← Target.negotiate (some target), outputFormat := format }

def withDefinitions (s : Settings) (pairs : List (Text × Text)) : Except SetupError Settings :=
  (Definitions.ofPairs pairs).map fun definitions => { s with definitions := definitions }

def withDebugLevel (s : Settings) (level : Text) : Settings :=
  { s with debugLevel := .ofText level }

def debugLevelEvents (level : Text) : List Event :=
  if DebugLevel.isKnown level then [] else [.unknownDebugLevel level]

-- The request for a source. Bytes that are not UTF-8 are replaced, and a forced
-- version is written into the source.
def resolve (s : Settings) (stage : Stage) (data : List UInt8) (fileName? : Option Path)
    (mode : Mode) : Resolution :=
  let detected := fileName?.bind fun path =>
    (Stage.detected? stage (some path.text)).map fun stage => Event.stageDetected stage path
  let source := Utf8.decode data
  let directive? := Glsl.Directive.find? source
  let version := Glsl.negotiate (directive?.bind (·.version?)) s.inputVersion?
  let request : Request := {
    stage := Stage.resolve stage (fileName?.map Path.text)
    version := version
    target := s.target
    definitions := s.definitions.withTarget s.target
    debugLevel := s.debugLevel
    limits := s.limits
    mode := mode
    source :=
      if version.origin = .override then Glsl.withVersion source directive? version.version
      else source
    fileName? := fileName? }
  { request := request
    events := detected.toList ++ ((Utf8.fault? data).map Event.sourceRepaired).toList ++
      Glsl.Directive.events directive? ++ [.resolved request] }

end Settings

end ShaderConversion
