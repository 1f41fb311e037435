import ShaderConversion.Converter.Conversion

namespace ShaderConversion

inductive Call where
  | setInputFormat (format : Format) (version : Text)
  | setOutputFormat (format : Format) (target : Text)
  | setDefinitions (pairs : List (Text × Text))
  | setDebugLevel (level : Text)
  | validateData (stage : Stage) (data : List UInt8)
  | validateFile (stage : Stage) (path : Path)
  | compileData (stage : Stage) (data : List UInt8)
  | compileFile (stage : Stage) (path : Path)
  | convertDataToData (stage : Stage) (data : List UInt8)
  | convertFileToData (stage : Stage) (path : Path)
  | convertDataToFile (stage : Stage) (data : List UInt8) (destination : Path)
  | convertFileToFile (stage : Stage) (path destination : Path)

inductive Answer where
  | configured (result : Except SetupError Unit)
  | validated (report : Report)
  | compiled (result : Except ConversionError Spirv.Module)
  | converted (result : Except ConversionError (List UInt8))
  | written (result : Except ConversionError Unit)

namespace Converter

variable {F : Type} [FileAccess F]

def perform (c : Converter) (live : Bool) (files : F) (call : Call) : Outcome Answer × F :=
  let w : World := ⟨live, FileAccess.read files⟩
  match call with
  | .setInputFormat format version => ((c.setInputFormat format version).map .configured, files)
  | .setOutputFormat format target => ((c.setOutputFormat format target).map .configured, files)
  | .setDefinitions pairs => ((c.setDefinitions pairs).map .configured, files)
  | .setDebugLevel level => ((c.setDebugLevel level).map .configured, files)
  | .validateData stage data => ((c.validateData w stage data).map .validated, files)
  | .validateFile stage path => ((c.validateFile w stage path).map .validated, files)
  | .compileData stage data => ((c.compileData w stage data).map .compiled, files)
  | .compileFile stage path => ((c.compileFile w stage path).map .compiled, files)
  | .convertDataToData stage data => ((c.convertDataToData w stage data).map .converted, files)
  | .convertFileToData stage path => ((c.convertFileToData w stage path).map .converted, files)
  | .convertDataToFile stage data destination =>
    let (o, files) := c.convertDataToFile live files stage data destination
    (o.map .written, files)
  | .convertFileToFile stage path destination =>
    let (o, files) := c.convertFileToFile live files stage path destination
    (o.map .written, files)

-- One converter and the files around it in the course of calls: what was noticed
-- and what the compiler was asked, the oldest first.
structure Course (F : Type) where
  converter : Converter
  files : F
  events : List Event
  requests : List Request

def Course.step (course : Course F) (live : Bool) (call : Call) : Course F :=
  let (o, files) := course.converter.perform live course.files call
  ⟨o.converter, files, course.events ++ o.events, course.requests ++ o.requests⟩

def Course.run (course : Course F) (calls : List (Bool × Call)) : Course F :=
  calls.foldl (fun course call => course.step call.1 call.2) course

-- The converters that calls lead to, from a new one or one set up by a configuration.
inductive Reachable : Converter → Prop where
  | new (compiler : Compiler) : Reachable (Converter.new compiler)
  | configured {compiler : Compiler} {config : Configuration} {c : Converter}
      (created : (Converter.ofConfiguration compiler config).result = .ok c) : Reachable c
  | call {c : Converter} (before : Reachable c) (live : Bool) {F : Type} [FileAccess F] (files : F)
      (call : Call) : Reachable (c.perform live files call).1.converter

end Converter

end ShaderConversion
