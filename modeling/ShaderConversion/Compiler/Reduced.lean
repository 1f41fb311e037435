import ShaderConversion.Compiler.Basic
import ShaderConversion.Shader.Declaration
import ShaderConversion.Shader.Resources
import ShaderConversion.Spirv.Module

namespace ShaderConversion.Compiler

def isCompilable (stage : Stage) : Bool := stage = .vertex ∨ stage = .fragment ∨ stage = .compute

-- Stands for the excerpt of a source that shows why it is refused.
def excerpt : String := "<naga>"

def readProgram (r : Request) : Except Diagnostics Shader.Program :=
  if !isCompilable r.stage then
    .error (.error s!"error: {r.stage} shaders are not supported by the naga backend")
  else
    match Shader.Interface.ofSource? r.definitions.entries r.source with
    | none => .error (.error excerpt)
    | some interface =>
      let program := interface.program r.stage
      let excess := program.checkLimits r.limits
      if !excess.isEmpty then .error excess
      else if interface.isSound r.stage then .ok program
      else .error (.error excerpt)

def groupRecords (p : Shader.Program) : List Spirv.Instruction :=
  (p.entryPoints.filter fun e => e.stage = .compute).map fun e =>
    ⟨Spirv.Opcode.executionMode, [1, Spirv.localSizeMode, e.groupSize.x, e.groupSize.y, e.groupSize.z]⟩

def reducedModule (r : Request) (p : Shader.Program) : List UInt32 :=
  let sources :=
    if r.debugLevel.embedsSource then
      Spirv.sourceRecords ((r.fileName?.map Path.text).getD []) r.version.version.number r.source
    else []
  Spirv.Module.assemble r.target.spirvVersion 2 (sources ++ groupRecords p)

-- Knows core profile sources of three stages, declarations and simple assignments.
def reduced : Compiler where
  name := "naga"
  validate r :=
    match readProgram r with
    | .error diagnostics => diagnostics
    | .ok _ => []
  compile r := (readProgram r).map fun p => Spirv.bytesOfWords (reducedModule r p)
  notes r :=
    match readProgram r with
    | .error _ => []
    | .ok p =>
      (if DebugPart.processingHistory ∈ r.debugLevel.parts then
        ["naga does not record processing history, skipping it"]
      else []) ++
        [s!"naga emitted {(reducedModule r p).length} words of SPIR-V {r.target.spirvVersion}"]

end ShaderConversion.Compiler
