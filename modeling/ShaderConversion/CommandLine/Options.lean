import ShaderConversion.FileAccess
import ShaderConversion.Stage

namespace ShaderConversion.CommandLine

inductive Command where
  | validate (input : Path)
  | convert (input output : Path)
  deriving DecidableEq, Repr

inductive CompilerName where
  | optional
  | builtIn
  deriving DecidableEq, Repr

def CompilerName.ofText? (s : Text) : Option CompilerName :=
  if s = "shaderc".toList then some optional
  else if s = "naga".toList then some builtIn
  else none

structure Options where
  command : Command
  stage : Stage
  inputVersion? : Option Text
  outputVersion? : Option Text
  definitions : List Text
  debugInfo? : Option Text
  config? : Option Path
  compiler : CompilerName
  verbose : Bool
  deriving DecidableEq, Repr

inductive Refusal where
  | usage
  | help
  deriving DecidableEq, Repr

inductive Key where
  | stage
  | inputVersion
  | outputVersion
  | define
  | debugInfo
  | config
  | compiler
  deriving DecidableEq, Repr

def Key.ofLong? (s : Text) : Option Key :=
  if s = "stage".toList then some stage
  else if s = "input-version".toList then some inputVersion
  else if s = "output-version".toList then some outputVersion
  else if s = "debug-info".toList then some debugInfo
  else if s = "config".toList then some config
  else if s = "backend".toList then some compiler
  else none

def Key.ofShort? (c : Char) : Option Key :=
  if c = 'D' then some define else if c = 'g' then some debugInfo else none

structure Given where
  stage? : Option Stage
  inputVersion? : Option Text
  outputVersion? : Option Text
  definitions : List Text
  debugInfo? : Option Text
  config? : Option Path
  compiler? : Option CompilerName
  verbose : Bool

namespace Given

def nothing : Given := ⟨none, none, none, [], none, none, none, false⟩

def fresh {α : Type} (before value : Option α) : Except Refusal (Option α) :=
  match before, value with
  | none, some value => .ok (some value)
  | _, _ => .error .usage

def path? (s : Text) : Option Path := if s = [] then none else some (Path.ofText s)

def set (g : Given) (key : Key) (value : Text) : Except Refusal Given :=
  match key with
  | .stage => do return { g with stage? := ← fresh g.stage? (Stage.ofText? value) }
  | .inputVersion => do return { g with inputVersion? := ← fresh g.inputVersion? (some value) }
  | .outputVersion => do return { g with outputVersion? := ← fresh g.outputVersion? (some value) }
  | .define => .ok { g with definitions := g.definitions ++ [value] }
  | .debugInfo => do return { g with debugInfo? := ← fresh g.debugInfo? (some value) }
  | .config => do return { g with config? := ← fresh g.config? (path? value) }
  | .compiler => do
    return { g with compiler? := ← fresh g.compiler? (CompilerName.ofText? value) }

def setVerbose (g : Given) : Except Refusal Given :=
  if g.verbose then .error .usage else .ok { g with verbose := true }

-- What is given after the command wins over what is given before it, and replaces
-- all its definitions.
def overriding (inner outer : Given) : Given where
  stage? := inner.stage? <|> outer.stage?
  inputVersion? := inner.inputVersion? <|> outer.inputVersion?
  outputVersion? := inner.outputVersion? <|> outer.outputVersion?
  definitions := if inner.definitions.isEmpty then outer.definitions else inner.definitions
  debugInfo? := inner.debugInfo? <|> outer.debugInfo?
  config? := inner.config? <|> outer.config?
  compiler? := inner.compiler? <|> outer.compiler?
  verbose := inner.verbose || outer.verbose

end Given

inductive Verb where
  | validate
  | convert
  deriving DecidableEq, Repr

def Verb.ofText? (s : Text) : Option Verb :=
  if s = "validate".toList then some validate
  else if s = "convert".toList then some convert
  else none

def Verb.arity : Verb → Nat
  | validate => 1
  | convert => 2

inductive Topic where
  | program
  | command
  deriving DecidableEq, Repr

def Topic.below? (t : Topic) (s : Text) : Option Topic :=
  match t with
  | program => if (Verb.ofText? s).isSome ∨ s = "help".toList then some command else none
  | command => none

-- Where reading stands: the options before the command, the command, the options
-- and paths after it, an option whose value comes next, whether options have ended,
-- and what is to be explained instead.
structure Reading where
  outer : Given
  verb? : Option Verb
  inner : Given
  paths : List Path
  pending? : Option Key
  ended : Bool
  topic? : Option Topic

namespace Reading

def start : Reading := ⟨.nothing, none, .nothing, [], none, false, none⟩

def update (r : Reading) (change : Given → Except Refusal Given) : Except Refusal Reading :=
  match r.verb? with
  | none => do return { r with outer := ← change r.outer }
  | some _ => do return { r with inner := ← change r.inner }

def longOption (r : Reading) (s : Text) : Except Refusal Reading :=
  match Text.cutAt '=' s with
  | none =>
    if s = "verbose".toList then r.update Given.setVerbose
    else if s = "help".toList then .error .help
    else match Key.ofLong? s with
      | some key => .ok { r with pending? := some key }
      | none => .error .usage
  | some (name, value) =>
    match Key.ofLong? name with
    | some key => r.update fun g => g.set key value
    | none => .error .usage

def shortOptions (r : Reading) : Text → Except Refusal Reading
  | [] => .ok r
  | 'v' :: rest => do shortOptions (← r.update Given.setVerbose) rest
  | 'h' :: _ => .error .help
  | c :: rest =>
    match Key.ofShort? c, rest with
    | none, _ => .error .usage
    | some key, [] => .ok { r with pending? := some key }
    | some key, '=' :: value => r.update fun g => g.set key value
    | some key, value => r.update fun g => g.set key value

def plain (r : Reading) (s : Text) : Except Refusal Reading :=
  match r.verb? with
  | none =>
    if r.ended then .error .usage
    else if s = "help".toList then .ok { r with topic? := some .program }
    else match Verb.ofText? s with
      | some verb => .ok { r with verb? := some verb }
      | none => .error .usage
  | some verb =>
    if verb.arity ≤ r.paths.length then .error .usage
    else match Given.path? s with
      | some path => .ok { r with paths := r.paths ++ [path] }
      | none => .error .usage

def option (r : Reading) (argument : Text) : Except Refusal Reading :=
  match r.pending?, argument with
  | some _, '-' :: _ :: _ => .error .usage
  | some key, value => { r with pending? := none }.update fun g => g.set key value
  | none, argument =>
    if r.ended then r.plain argument
    else match argument with
      | ['-', '-'] => .ok { r with ended := true }
      | '-' :: '-' :: option => r.longOption option
      | '-' :: c :: rest => r.shortOptions (c :: rest)
      | argument => r.plain argument

def step (r : Reading) (argument : Text) : Except Refusal Reading :=
  match r.topic? with
  | none => r.option argument
  | some topic =>
    match topic.below? argument with
    | some topic => .ok { r with topic? := some topic }
    | none => .error .usage

def finish (preferred : CompilerName) (r : Reading) : Except Refusal Options := do
  if r.topic?.isSome then throw .help
  let command ←
    match r.pending?, r.verb?, r.paths with
    | none, some .validate, [input] => .ok (.validate input)
    | none, some .convert, [input, output] => .ok (.convert input output)
    | _, _, _ => .error .usage
  let given := r.inner.overriding r.outer
  return {
    command := command
    stage := given.stage?.getD .unspecified
    inputVersion? := given.inputVersion?
    outputVersion? := given.outputVersion?
    definitions := given.definitions
    debugInfo? := given.debugInfo?
    config? := given.config?
    compiler := given.compiler?.getD preferred
    verbose := given.verbose }

end Reading

def Options.ofArguments (preferred : CompilerName) (arguments : List Text) : Except Refusal Options := do
  (← arguments.foldlM Reading.step Reading.start).finish preferred

end ShaderConversion.CommandLine
