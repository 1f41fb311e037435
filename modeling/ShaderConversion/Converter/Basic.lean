import ShaderConversion.Compiler.Basic
import ShaderConversion.Converter.Settings

namespace ShaderConversion

structure Converter where
  compiler : Compiler
  settings : Settings
  phase : Phase

structure Outcome (α : Type) where
  answer : α
  converter : Converter
  events : List Event
  requests : List Request

namespace Outcome

def refused {α : Type} (c : Converter) (answer : α) (events : List Event) : Outcome α :=
  ⟨answer, c, events, []⟩

def map {α β : Type} (f : α → β) (o : Outcome α) : Outcome β :=
  ⟨f o.answer, o.converter, o.events, o.requests⟩

end Outcome

namespace Converter

def new (compiler : Compiler) : Converter := ⟨compiler, .default, .idle⟩

def capabilities (_ : Converter) : List Capability := Capability.all

-- Changes the settings as a whole. A change that fails leaves them, and the phase,
-- as they were; `noticed` comes with one that succeeds.
def configure (c : Converter) (change : Settings → Except SetupError Settings)
    (noticed : List Event) : Outcome (Except SetupError Unit) :=
  match change c.settings with
  | .ok settings =>
    ⟨.ok (), { c with settings := settings, phase := .ready },
      .moved c.phase .configuring :: noticed ++ [.moved .configuring .ready], []⟩
  | .error error =>
    ⟨.error error, c, [.moved c.phase .configuring, .moved .configuring c.phase], []⟩

def setInputFormat (c : Converter) (format : Format) (version : Text) :
    Outcome (Except SetupError Unit) :=
  c.configure (fun s => s.withInputFormat format version) []

def setOutputFormat (c : Converter) (format : Format) (target : Text) :
    Outcome (Except SetupError Unit) :=
  c.configure (fun s => s.withOutputFormat format target) []

def setDefinitions (c : Converter) (pairs : List (Text × Text)) :
    Outcome (Except SetupError Unit) :=
  c.configure (fun s => s.withDefinitions pairs) []

def setDebugLevel (c : Converter) (level : Text) : Outcome (Except SetupError Unit) :=
  let o := c.configure (fun s => .ok (s.withDebugLevel level)) []
  { o with events := Settings.debugLevelEvents level ++ o.events }

-- Settings taken from a configuration. All values are read before one is used.
structure Preset where
  inputVersion : Text
  target : Text
  debugLevel : Text
  limits : Limits
  warningsAsErrors : Bool

def Preset.ofConfiguration (config : Configuration) : Except SetupError Preset := do
  let inputVersion ← config.text "input_version".toList
  let target ← config.text "output_version".toList
  let debugLevel ← config.text "debug_info_level".toList
  let limits ← config.limits
  let warningsAsErrors ← config.flag "warnings_as_errors".toList
  return ⟨inputVersion, target, debugLevel, limits, warningsAsErrors⟩

def Preset.apply (p : Preset) (s : Settings) : Except SetupError Settings := do
  let inputVersion? ← Settings.readInputVersion p.inputVersion
  let target ← Target.negotiate (some p.target)
  return {
    s with
    inputVersion? := inputVersion?
    target := target
    debugLevel := .ofText p.debugLevel
    limits := p.limits
    warningsAsErrors := p.warningsAsErrors }

structure Creation where
  result : Except SetupError Converter
  events : List Event

def ofConfiguration (compiler : Compiler) (config : Configuration) : Creation :=
  match Preset.ofConfiguration config with
  | .error error => ⟨.error error, []⟩
  | .ok preset =>
    let o := (new compiler).configure preset.apply (Settings.debugLevelEvents preset.debugLevel)
    ⟨o.answer.map fun _ => o.converter, o.events⟩

end Converter

end ShaderConversion
