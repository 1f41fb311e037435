import ShaderConversion.Shader.Expression
import ShaderConversion.Shader.Interface

namespace ShaderConversion.Shader

structure Symbol where
  storage : Storage
  type : DataType

abbrev Scope := List (Text × Symbol)

-- What can be assigned: variables that are declared, and built-in outputs under names
-- that nothing is declared under.
def Scope.find? (scope : Scope) (name : Text) : Option Symbol :=
  match scope.lookup name with
  | some symbol => some symbol
  | none => (BuiltIn.ofName? name).map fun b => ⟨.output, b.type⟩

def reserved : List Text :=
  ["layout", "void", "struct", "const", "shared", "inout", "invariant", "precision", "true", "false",
    "if", "else", "for", "while", "do", "switch", "case", "default", "return", "break", "continue",
    "discard", "highp", "mediump", "lowp"].map String.toList

inductive Statement where
  -- Stores a value in a variable, or in a part of it. The value is given if it is for
  -- the whole variable.
  | assign (target : Text) (value? : Option (List Token)) (tokens : List Token)
  | declare (type : BaseType) (name : Text) (rest : List Token)
  | evaluate (tokens : List Token)
  | other (tokens : List Token)

namespace Statement

def isAssignment : Token → Bool
  | .sign sign => assignmentSigns.contains sign
  | _ => false

def ofTokens? (tokens : List Token) : Option Statement :=
  let expression (s : Statement) : Option Statement := if isExpression tokens then some s else none
  match tokens with
  | .name target :: .sign ['='] :: value => expression (assign target (some value) tokens)
  | .name target :: rest =>
    if reserved.contains target then some (other tokens)
    else
      match BaseType.ofName? target, rest with
      | some type, .name name :: .sign ['='] :: value =>
        if isExpression value then some (declare type name value) else none
      | some type, .name name :: rest => some (declare type name rest)
      | _, _ =>
        if rest.head? != some (.sign ['(']) && rest.any isAssignment then
          expression (assign target none tokens)
        else expression (evaluate tokens)
  | tokens => expression (evaluate tokens)

def valueType? : List Token → Option DataType
  | [.integer literal] => some ⟨.vector (if literal.isUnsigned then .uint else .int) 1, []⟩
  | [.real _] => some ⟨.vector .float 1, []⟩
  | .name type :: .sign ['('] :: arguments =>
    if arguments.getLast? = some (.sign [')']) && !arguments.contains (.sign ['(']) then
      (BaseType.ofName? type).map fun base => ⟨base, []⟩
    else none
  | _ => none

end Statement

-- Where reading a body stands: the names known, the built-in outputs met, the
-- stages that have the built-in variables met, and whether every value had the type
-- of its target.
structure BodyReading where
  scope : Scope
  builtIns : List BuiltIn
  stages : List Stage
  isTyped : Bool

namespace BodyReading

def meet? (b : BodyReading) (name : Text) : Option BodyReading :=
  if (b.scope.lookup name).isSome then some b
  else
    match BuiltIn.ofName? name, BuiltIn.inputs.lookup (String.ofList name) with
    | some output, _ =>
      some { b with
        builtIns := if b.builtIns.contains output then b.builtIns else output :: b.builtIns
        stages := output.stage :: b.stages }
    | none, some stage => some { b with stages := stage :: b.stages }
    | none, none => none

def meetAll? (b : BodyReading) (tokens : List Token) : Option BodyReading :=
  (namesIn tokens).foldlM meet? b

def isTypedAs (symbol : Symbol) (value : List Token) : Bool :=
  match Statement.valueType? value with
  | none => true
  | some type => type.convertsTo symbol.type

def step? (b : BodyReading) (tokens : List Token) : Option BodyReading := do
  match ← Statement.ofTokens? tokens with
  | .assign target value? tokens =>
    let symbol ← b.scope.find? target
    if symbol.storage = .input then none
    else
      let next ← b.meetAll? tokens
      let fits := symbol.storage != .uniform && value?.all (isTypedAs symbol)
      some { next with isTyped := next.isTyped && fits }
  | .declare type name rest =>
    let next ← b.meetAll? rest
    some { next with scope := (name, ⟨.plain, ⟨type, []⟩⟩) :: next.scope }
  | .evaluate tokens => b.meetAll? tokens
  | .other _ => some b

end BodyReading

structure Cutting where
  statements : List (List Token)
  current : List Token
  depth : Nat
  refused : Bool

namespace Cutting

def step (c : Cutting) (token : Token) : Cutting :=
  match token with
  | .sign [';'] =>
    if 0 < c.depth then { c with current := token :: c.current }
    else if c.current.isEmpty then c
    else { c with statements := c.current.reverse :: c.statements, current := [] }
  | .sign ['\x7b'] => if 0 < c.depth then { c with refused := true } else { c with current := [] }
  | .sign ['\x7d'] => { c with refused := c.refused || 0 < c.depth || !c.current.isEmpty }
  | .sign ['('] | .sign ['['] => { c with current := token :: c.current, depth := c.depth + 1 }
  | .sign [')'] | .sign [']'] =>
    { c with current := token :: c.current, depth := c.depth - 1, refused := c.refused || c.depth = 0 }
  | token => { c with current := token :: c.current }

end Cutting

def statements? (body : List Token) : Option (List (List Token)) :=
  let c := body.foldl Cutting.step ⟨[], [], 0, false⟩
  if c.refused || !c.current.isEmpty then none else some c.statements.reverse

def readBody? (scope : Scope) (body : List Token) : Option BodyReading := do
  (← statements? body).foldlM BodyReading.step? ⟨scope, [], [], true⟩

end ShaderConversion.Shader
