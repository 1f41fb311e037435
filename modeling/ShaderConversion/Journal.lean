import ShaderConversion.Request
import ShaderConversion.Spirv.Header
import ShaderConversion.Diagnostic

namespace ShaderConversion

inductive Phase where
  | idle
  | configuring
  | ready
  | validating
  | compiling
  | done
  deriving DecidableEq, Repr

def Phase.name : Phase → String
  | idle => "Idle"
  | configuring => "Configuring"
  | ready => "Ready"
  | validating => "Validating"
  | compiling => "Compiling"
  | done => "Done"

instance : ToString Phase := ⟨Phase.name⟩

inductive Level where
  | error
  | warn
  | info
  | debug
  | trace
  deriving DecidableEq, Repr

namespace Level

def all : List Level := [error, warn, info, debug, trace]

def name : Level → String
  | error => "ERROR"
  | warn => "WARN"
  | info => "INFO"
  | debug => "DEBUG"
  | trace => "TRACE"

def isWithin (level limit : Level) : Bool := all.idxOf level ≤ all.idxOf limit

end Level

inductive Event where
  | compilerStarted
  | compilerJoined
  | compilerStopped
  | unknownKey (key : Text)
  | configurationLoaded (size : Nat)
  | unknownDebugLevel (given : Text)
  | moved (before after : Phase)
  | stageDetected (stage : Stage) (path : Path)
  | sourceRepaired (fault : Utf8.Fault)
  | directiveUnknown (content : Text)
  | resolved (request : Request)
  | unreadable (path : Path) (error : FileError)
  | validationWithoutCompiler
  | validationFormat (format : Format)
  | validated (stage : Stage) (compiler : String) (accepted : Bool)
  | directiveLeft (line : Text) (compiler : String)
  | compilerNote (message : String)
  | compilerFailed (stage : Stage) (compiler : String) (diagnostics : Diagnostics)
  | headerRead (header : Spirv.Header) (size : Nat)
  | moduleRead (stage : Stage) (header : Spirv.Header) (size : Nat)
  | compiled (stage : Stage) (version : Revision) (size : Nat)
  | instructionMalformed (position : Nat)
  | written (size : Nat) (path : Path)

namespace Event

def level : Event → Level
  | compilerStarted => .info
  | compilerJoined => .debug
  | compilerStopped => .info
  | unknownKey .. => .warn
  | configurationLoaded .. => .debug
  | unknownDebugLevel .. => .warn
  | moved .. => .trace
  | stageDetected .. => .debug
  | sourceRepaired .. => .warn
  | directiveUnknown .. => .debug
  | resolved .. => .debug
  | unreadable .. => .error
  | validationWithoutCompiler => .error
  | validationFormat .. => .error
  | validated .. => .info
  | directiveLeft .. => .warn
  | compilerNote .. => .debug
  | compilerFailed .. => .error
  | headerRead .. => .trace
  | moduleRead .. => .debug
  | compiled .. => .info
  | instructionMalformed .. => .trace
  | written .. => .debug

def message : Event → String
  | compilerStarted => "Initializing shader compiler backend"
  | compilerJoined => "Shader compiler backend already initialized"
  | compilerStopped => "Finalizing shader compiler backend"
  | unknownKey key => "Unknown configuration key " ++ String.ofList key ++ " has no effect"
  | configurationLoaded size => s!"Loaded configuration with {size} key(s)"
  | unknownDebugLevel given =>
    "Unrecognized debug info level " ++ given.quoted ++ ", treating it as 1"
  | moved before after => s!"Converter state {before} -> {after}"
  | stageDetected stage path => s!"Detected {stage} stage from {path}"
  | sourceRepaired fault => s!"Source is not valid UTF-8, invalid bytes replaced: {fault.message}"
  | directiveUnknown content => "Unrecognized #version directive: " ++ content.quoted
  | resolved r =>
    s!"Resolved {r.stage} shader: GLSL {r.version.version} ({r.version.origin.name}), " ++
      s!"target {r.target}, debug info {r.debugLevel}, {r.definitions.size} definition(s)"
  | unreadable path error => s!"Cannot read {path}: {error}"
  | validationWithoutCompiler => "Cannot validate: backend runtime is not initialized"
  | validationFormat format =>
    s!"Output format should be Unspecified for validation but got {format}"
  | validated stage compiler accepted =>
    s!"Validated {stage} shader with {compiler}: " ++ if accepted then "accepted" else "rejected"
  | directiveLeft line compiler =>
    "Unrecognized " ++ line.quoted ++ s!", leaving it for {compiler} to diagnose"
  | compilerNote message => message
  | compilerFailed stage compiler diagnostics =>
    s!"Compiling {stage} shader with {compiler} failed:\n" ++ diagnostics.text
  | headerRead header size =>
    s!"SPIR-V validated: version {header.version}, bound {header.bound}, size {size}"
  | moduleRead stage header size =>
    s!"Compiled {stage} module: spirv_version={header.version}, size={size}, " ++
      s!"id bound={header.bound}"
  | compiled stage version size =>
    s!"Compiled {stage} shader to SPIR-V {version} ({size} bytes)"
  | instructionMalformed position => s!"Malformed instruction at word {position}"
  | written size path => s!"Wrote {size} bytes to {path}"

end Event

end ShaderConversion
