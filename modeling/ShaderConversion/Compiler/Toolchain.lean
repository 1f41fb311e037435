import ShaderConversion.Compiler.Reduced

namespace ShaderConversion

structure WriterOptions where
  version : Revision
  embedded? : Option (Text × Path)
  deriving DecidableEq, Repr

-- A parser, a checker and a writer that are given. Each of them says in words what is wrong. The
-- parser sees a source, its stage and its definitions, and of a program that it has read it is known
-- what the program uses.
structure Toolchain where
  Program : Type
  Details : Type
  parse : Stage → List (Text × Text) → Text → Except String Program
  resources : Program → Shader.Program
  check : Program → Text → Except String Details
  write : Program → Details → WriterOptions → Except String (List UInt32)

namespace Toolchain

def read (tools : Toolchain) (r : Request) : Except Diagnostics (tools.Program × tools.Details) :=
  if !Compiler.isCompilable r.stage then
    .error (.error s!"error: {r.stage} shaders are not supported by the naga backend")
  else do
    let program ← (tools.parse r.stage r.definitions.entries r.source).mapError Diagnostics.error
    let excess := (tools.resources program).checkLimits r.limits
    if !excess.isEmpty then .error excess
    else
      let details ← (tools.check program r.source).mapError Diagnostics.error
      return (program, details)

def writerOptions (r : Request) : WriterOptions where
  version := r.target.spirvVersion
  embedded? := if r.debugLevel.embedsSource then some (r.source, r.fileName?.getD ⟨[]⟩) else none

def write? (tools : Toolchain) (r : Request) (program : tools.Program) (details : tools.Details) :
    Except Diagnostics (List UInt32) :=
  (tools.write program details (writerOptions r)).mapError fun why => .error s!"error: {why}"

def reduced : Toolchain where
  Program := Shader.Interface × Stage
  Details := Unit
  parse stage definitions source :=
    match Shader.Interface.ofSource? definitions source with
    | none => .error Compiler.excerpt
    | some interface => .ok (interface, stage)
  resources p := p.1.program p.2
  check p _ := if p.1.isSound p.2 then .ok () else .error Compiler.excerpt
  write p _ options :=
    let sources := match options.embedded? with
      | none => []
      | some (source, fileName) => Spirv.sourceRecords fileName.text 0 source
    .ok (Spirv.Module.assemble options.version 2 (sources ++ Compiler.groupRecords (p.1.program p.2)))

end Toolchain

def Compiler.ofToolchain (tools : Toolchain) : Compiler where
  name := "naga"
  validate r :=
    match tools.read r with
    | .error diagnostics => diagnostics
    | .ok _ => []
  compile r := do
    let (program, details) ← tools.read r
    return Spirv.bytesOfWords (← tools.write? r program details)
  notes r :=
    match tools.read r with
    | .error _ => []
    | .ok (program, details) =>
      (if DebugPart.processingHistory ∈ r.debugLevel.parts then
        ["naga does not record processing history, skipping it"]
      else []) ++
        match tools.write? r program details with
        | .error _ => []
        | .ok words => [s!"naga emitted {words.length} words of SPIR-V {r.target.spirvVersion}"]

end ShaderConversion
