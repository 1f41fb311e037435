import ShaderConversion.ConversionError
import ShaderConversion.Converter.Basic
import ShaderConversion.Spirv.Module

namespace ShaderConversion

structure Report where
  accepted : Bool
  diagnostics : String
  deriving DecidableEq, Repr

def Report.unavailable : Report := ⟨false, ""⟩

def repairWarning (data : List UInt8) : Diagnostics :=
  match Utf8.fault? data with
  | none => []
  | some fault =>
    Diagnostics.warning
      s!"warning: source is not valid UTF-8, invalid bytes were replaced: {fault.message}"

def isAccepted (warningsAsErrors : Bool) (ds : Diagnostics) : Bool :=
  !ds.hasErrors && !(warningsAsErrors && ds.hasWarnings)

structure Attempt where
  result : Except ConversionError Spirv.Module
  events : List Event
  requests : List Request

def takeModule (stage : Stage) (bytes : List UInt8) :
    Except Spirv.HeaderError Spirv.Module × List Event :=
  match Spirv.readHeader bytes with
  | .error error => (.error error, [])
  | .ok header =>
    (.ok ⟨stage, header.version, bytes⟩,
      [.headerRead header bytes.length, .moduleRead stage header bytes.length])

def checkOutput (r : Request) (bytes : List UInt8) :
    Except ConversionError Spirv.Module × List Event :=
  match takeModule r.stage bytes with
  | (.error error, events) => (.error (.malformedOutput (.header error)), events)
  | (.ok m, events) =>
    if m.version ≠ r.target.spirvVersion then
      (.error (.malformedOutput (.wrongVersion r.target.spirvVersion m.version)), events)
    else (.ok m, events ++ [.compiled r.stage m.version bytes.length])

def Compiler.attempt (compiler : Compiler) (r : Request) : Attempt :=
  let notes := (compiler.notes r).map Event.compilerNote
  match compiler.compile r with
  | .error diagnostics =>
    ⟨.error (.rejected diagnostics),
      notes ++ [.compilerFailed r.stage compiler.name diagnostics], [r]⟩
  | .ok bytes =>
    let (result, events) := checkOutput r bytes
    ⟨result, notes ++ events, [r]⟩

def leftDirective? (r : Request) : Option Glsl.Directive :=
  if r.version.origin = .default then Glsl.Directive.find? r.source else none

-- Sources in an old version are not compiled, unless it is the compiler that has to
-- say what their version line means.
def Compiler.compileGated (compiler : Compiler) (r : Request) : Attempt :=
  if r.version.version.isCompilable then compiler.attempt r
  else
    match leftDirective? r with
    | none => ⟨.error (.oldVersion r.version.version), [], []⟩
    | some directive =>
      let attempt := compiler.attempt r
      { attempt with
        events := Glsl.Directive.events (some directive) ++
          .directiveLeft directive.line compiler.name :: attempt.events }

namespace Converter

-- Checks a source without compiling it. This takes a live compiler and the
-- unspecified output format.
def validateSource (c : Converter) (live : Bool) (stage : Stage) (data : List UInt8)
    (fileName? : Option Path) : Outcome Report :=
  if !live then .refused c .unavailable [.validationWithoutCompiler]
  else if c.settings.outputFormat ≠ .unspecified then
    .refused c .unavailable [.validationFormat c.settings.outputFormat]
  else
    let resolution := c.settings.resolve stage data fileName? .validate
    let request := resolution.request
    let diagnostics := repairWarning data ++ c.compiler.validate request
    let accepted := isAccepted c.settings.warningsAsErrors diagnostics
    { answer := ⟨accepted, diagnostics.text⟩
      converter := { c with phase := .ready }
      events := resolution.events ++ [
        .moved c.phase .validating,
        .validated request.stage c.compiler.name accepted,
        .moved .validating .done,
        .moved .done .ready]
      requests := [request] }

def compileSource (c : Converter) (live : Bool) (stage : Stage) (data : List UInt8)
    (fileName? : Option Path) : Outcome (Except ConversionError Spirv.Module) :=
  if !live then .refused c (.error .withoutCompiler) []
  else
    let resolution := c.settings.resolve stage data fileName? .compile
    let attempt := c.compiler.compileGated resolution.request
    { answer := attempt.result
      converter := { c with phase := .ready }
      events := resolution.events ++ .moved c.phase .compiling :: attempt.events ++
        [.moved .compiling .done, .moved .done .ready]
      requests := attempt.requests }

structure World where
  live : Bool
  read : Path → Except FileError (List UInt8)

def validateData (c : Converter) (w : World) (stage : Stage) (data : List UInt8) : Outcome Report :=
  c.validateSource w.live stage data none

def validateFile (c : Converter) (w : World) (stage : Stage) (path : Path) : Outcome Report :=
  match w.read path with
  | .error error => .refused c .unavailable [.unreadable path error]
  | .ok data => c.validateSource w.live stage data (some path)

def compileData (c : Converter) (w : World) (stage : Stage) (data : List UInt8) :
    Outcome (Except ConversionError Spirv.Module) :=
  c.compileSource w.live stage data none

def compileFile (c : Converter) (w : World) (stage : Stage) (path : Path) :
    Outcome (Except ConversionError Spirv.Module) :=
  match w.read path with
  | .error error => .refused c (.error (.inaccessible path error)) []
  | .ok data => c.compileSource w.live stage data (some path)

def convertDataToData (c : Converter) (w : World) (stage : Stage) (data : List UInt8) :
    Outcome (Except ConversionError (List UInt8)) :=
  (c.compileData w stage data).map fun result => result.map fun m => m.bytes

def convertFileToData (c : Converter) (w : World) (stage : Stage) (path : Path) :
    Outcome (Except ConversionError (List UInt8)) :=
  (c.compileFile w stage path).map fun result => result.map fun m => m.bytes

section Write

variable {F : Type} [FileAccess F]

def writeModule (files : F) (destination : Path) (o : Outcome (Except ConversionError Spirv.Module)) :
    Outcome (Except ConversionError Unit) × F :=
  match o.answer with
  | .error error => (o.map fun _ => .error error, files)
  | .ok m =>
    match FileAccess.write files destination m.bytes with
    | .error error => (o.map fun _ => .error (.inaccessible destination error), files)
    | .ok files =>
      ({ o with answer := .ok (), events := o.events ++ [.written m.bytes.length destination] }, files)

def convertDataToFile (c : Converter) (live : Bool) (files : F) (stage : Stage) (data : List UInt8)
    (destination : Path) : Outcome (Except ConversionError Unit) × F :=
  writeModule files destination (c.compileData ⟨live, FileAccess.read files⟩ stage data)

def convertFileToFile (c : Converter) (live : Bool) (files : F) (stage : Stage)
    (path destination : Path) : Outcome (Except ConversionError Unit) × F :=
  writeModule files destination (c.compileFile ⟨live, FileAccess.read files⟩ stage path)

end Write

end Converter

end ShaderConversion
