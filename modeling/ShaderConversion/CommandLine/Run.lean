import ShaderConversion.CommandLine.Options
import ShaderConversion.Compiler.Reduced
import ShaderConversion.Converter.Conversion
import ShaderConversion.FileStore
import ShaderConversion.Lease

namespace ShaderConversion.CommandLine

inductive Absence where
  | notBuilt
  | notCreated
  deriving DecidableEq, Repr

def Absence.message : Absence → String
  | notBuilt => "Built without shaderc support, use --backend naga"
  | notCreated => "Failed to create a shaderc compiler"

-- What a program is built from: the compiler that is always there, another one that is preferred
-- where it is built in, and the reader of documents.
structure Build where
  builtIn : Compiler
  optional : Except Absence Compiler
  readDocument : Text → Except Json.Fault Json

namespace Build

def preferred (b : Build) : CompilerName :=
  match b.optional with
  | .error .notBuilt => .builtIn
  | _ => .optional

def compiler (b : Build) : CompilerName → Except Absence Compiler
  | .builtIn => .ok b.builtIn
  | .optional => b.optional

def reduced : Build := ⟨.reduced, .error .notBuilt, Json.read⟩

end Build

inductive RunError where
  | configUnreadable (path : Path) (error : FileError)
  | configNotText (path : Path)
  | configMalformed (path : Path) (error : DocumentError)
  | compilerAbsent (why : Absence)
  | setup (error : SetupError)
  | conversion (error : ConversionError)
  | notWritten (path : Path) (error : FileError)
  deriving DecidableEq, Repr

def RunError.message : RunError → String
  | configUnreadable path error => s!"Failed to read {path}: {error}"
  | configNotText path => s!"Failed to read {path}: stream did not contain valid UTF-8"
  | configMalformed path error =>
    s!"{path}: " ++ (SetupError.malformedDocument error).message
  | compilerAbsent why => why.message
  | setup error => error.message
  | conversion error => error.message
  | notWritten path error => s!"Failed to write {path}: {error}"

def definitionOf (s : Text) : Text × Text := (s.cutAt '=').getD (s, [])

inductive Action where
  | fail (error : RunError)
  | report (input : Path) (report : Report)
  | write (output : Path) (m : Spirv.Module)

structure Plan where
  action : Action
  events : List Event

def readConfig (readDocument : Text → Except Json.Fault Json) (config? : Option Path)
    (read : Path → Except FileError (List UInt8)) : Except RunError Configuration × List Event :=
  match config? with
  | none => (.ok .empty, [])
  | some path =>
    match read path with
    | .error error => (.error (.configUnreadable path error), [])
    | .ok bytes =>
      match Utf8.decodeStrict bytes with
      | .error _ => (.error (.configNotText path), [])
      | .ok document =>
        let loading := Configuration.loadWith readDocument document
        (loading.result.mapError (.configMalformed path), loading.events)

def applyAll (c : Converter) :
    List (Converter → Outcome (Except SetupError Unit)) → Except SetupError Converter × List Event
  | [] => (.ok c, [])
  | call :: rest =>
    let o := call c
    match o.answer with
    | .error error => (.error error, o.events)
    | .ok () =>
      let (result, events) := applyAll o.converter rest
      (result, o.events ++ events)

def settingsCalls (options : Options) : List (Converter → Outcome (Except SetupError Unit)) :=
  (options.inputVersion?.toList.map fun version c => c.setInputFormat .glsl version) ++
    (if options.definitions.isEmpty then []
      else [fun c => c.setDefinitions (options.definitions.map definitionOf)]) ++
    options.debugInfo?.toList.map fun level c => c.setDebugLevel level

-- The call that sets the target of the command. A module is always SPIR-V, for the
-- target that is set if no other is given.
def targetCalls (options : Options) : List (Converter → Outcome (Except SetupError Unit)) :=
  match options.command with
  | .validate _ =>
    options.outputVersion?.toList.map fun target c => c.setOutputFormat .unspecified target
  | .convert _ _ =>
    [fun c => c.setOutputFormat .spirv (options.outputVersion?.getD c.settings.target.text)]

def execute (c : Converter) (options : Options) (read : Path → Except FileError (List UInt8)) :
    Plan :=
  let (leases, started) := Leases.none.acquire
  let (_, stopped) := leases.release
  match applyAll c (targetCalls options) with
  | (.error error, events) => ⟨.fail (.setup error), started ++ events ++ stopped⟩
  | (.ok c, events) =>
    match options.command with
    | .validate input =>
      let o := c.validateFile ⟨leases.isLive, read⟩ options.stage input
      ⟨.report input o.answer, started ++ events ++ o.events ++ stopped⟩
    | .convert input output =>
      let o := c.compileFile ⟨leases.isLive, read⟩ options.stage input
      let action :=
        match o.answer with
        | .error error => .fail (.conversion error)
        | .ok m => .write output m
      ⟨action, started ++ events ++ o.events ++ stopped⟩

def proceed (c : Converter) (options : Options) (read : Path → Except FileError (List UInt8)) :
    Plan :=
  match applyAll c (settingsCalls options) with
  | (.error error, events) => ⟨.fail (.setup error), events⟩
  | (.ok c, events) =>
    let plan := execute c options read
    { plan with events := events ++ plan.events }

-- What the options come to, as far as nothing is written. Whether there is the compiler that they
-- name is looked at after the configuration is read.
def plan (b : Build) (options : Options) (read : Path → Except FileError (List UInt8)) : Plan :=
  match readConfig b.readDocument options.config? read with
  | (.error error, events) => ⟨.fail error, events⟩
  | (.ok config, loaded) =>
    match b.compiler options.compiler with
    | .error why => ⟨.fail (.compilerAbsent why), loaded⟩
    | .ok compiler =>
      match Converter.ofConfiguration compiler config with
      | ⟨.error error, events⟩ => ⟨.fail (.setup error), loaded ++ events⟩
      | ⟨.ok c, created⟩ =>
        let plan := proceed c options read
        { plan with events := loaded ++ created ++ plan.events }

structure Ending where
  exit : Nat
  stdout : String
  stderr : String
  deriving DecidableEq, Repr

def Ending.failed (error : RunError) : Ending := ⟨1, "", s!"Error: {error.message}\n"⟩

def Ending.validated (input : Path) (report : Report) : Ending where
  exit := if report.accepted then 0 else 1
  stdout := s!"{input}: " ++ if report.accepted then "OK\n" else "FAILED\n"
  stderr := if report.diagnostics.isEmpty then "" else report.diagnostics ++ "\n"

def Ending.wrote (output : Path) (m : Spirv.Module) : Ending where
  exit := 0
  stdout := s!"Wrote {output}\n  Stage:   {m.stage}\n  Size:    {m.bytes.length} bytes\n" ++
    s!"  SPIR-V:  {m.version}\n  Id:      {m.id}\n"
  stderr := ""

def Ending.ofWrite (output : Path) (m : Spirv.Module) (result : Except FileError Unit) : Ending :=
  match result with
  | .ok () => .wrote output m
  | .error error => .failed (.notWritten output error)

section Files

variable {F : Type} [FileAccess F]

def Plan.finish (p : Plan) (files : F) : Ending × F :=
  match p.action with
  | .fail error => (.failed error, files)
  | .report input report => (.validated input report, files)
  | .write output m =>
    match FileAccess.write files output m.bytes with
    | .ok written => (.wrote output m, written)
    | .error error => (.failed (.notWritten output error), files)

def Ending.refused : Refusal → Ending
  | .usage => ⟨2, "", "Error: invalid command line, try --help\n"⟩
  | .help => ⟨0, "Usage: [OPTIONS] <validate INPUT | convert INPUT OUTPUT>\n", ""⟩

def runWith (b : Build) (arguments : List Text) (files : F) : Ending × F :=
  match Options.ofArguments b.preferred arguments with
  | .error refusal => (.refused refusal, files)
  | .ok options => (plan b options (FileAccess.read files)).finish files

end Files

def run (arguments : List Text) (files : FileStore) : Ending × FileStore :=
  runWith .reduced arguments files

end ShaderConversion.CommandLine
