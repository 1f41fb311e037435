import ShaderConversion.Shader.Constant.Function

namespace ShaderConversion.Shader

namespace Constant

inductive Callee where
  | type (type : BaseType)
  | function (name : Text)

def Callee.ofName (name : Text) : Callee :=
  match BaseType.ofName? name with
  | some base => type base
  | none => function name

def Callee.call? : Callee → List Operand → Option Operand
  | type base, arguments => Operand.construct? base arguments
  | function name, arguments => (Function.ofName? name).bind fun f => f.call? arguments

-- What waits for its operand while an expression is read. A call has the arguments
-- read so far, the newest first.
inductive Pending where
  | prefixed (op : PrefixOperator)
  | infixed (op : Operator)
  | group
  | call (callee : Callee) (arguments : List (Option Operand))
  | index

inductive Expected where
  | operand
  | argument
  | operator
  | call (callee : Callee)
  | part

-- Operands and operators read so far, the newest first. An operand that has no
-- value does no harm until it is used.
structure Evaluation where
  values : List (Option Operand)
  pending : List Pending
  expected : Expected

namespace Evaluation

def start : Evaluation := ⟨[], [], .operand⟩

def push (e : Evaluation) (value? : Option Operand) : Evaluation :=
  { e with values := value? :: e.values, expected := .operator }

def reduce (least : Nat) :
    List Pending → List (Option Operand) → List Pending × List (Option Operand)
  | .prefixed op :: pending, value? :: values =>
    reduce least pending (value?.bind (Operand.map? op.evaluate?) :: values)
  | .infixed op :: pending, b? :: a? :: values =>
    if least ≤ op.rank then
      reduce least pending ((a?.bind fun a => b?.bind fun b => Operand.combine? op a b) :: values)
    else (.infixed op :: pending, b? :: a? :: values)
  | pending, values => (pending, values)

def reduced (e : Evaluation) (least : Nat) : Evaluation :=
  let (pending, values) := reduce least e.pending e.values
  { e with pending, values }

def callResult? (callee : Callee) (arguments : List (Option Operand)) : Option Operand :=
  (arguments.reverse.mapM id).bind callee.call?

def operand? (e : Evaluation) : Token → Option Evaluation
  | .integer literal => some (e.push (some (.single (ofLiteral literal))))
  | .real value => some (e.push ((real? value).map .single))
  | .name text =>
    if text = "true".toList then some (e.push (some (.single (truth true))))
    else if text = "false".toList then some (e.push (some (.single (truth false))))
    else some { e with expected := .call (.ofName text) }
  | .sign ['('] => some { e with pending := .group :: e.pending, expected := .operand }
  | .sign sign =>
    (PrefixOperator.ofSign? sign).map fun op =>
      { e with pending := .prefixed op :: e.pending, expected := .operand }
  | .lineEnd => none

def close? (e : Evaluation) : Option Evaluation :=
  match e.pending, e.values with
  | .group :: pending, values => some ⟨values, pending, .operator⟩
  | .call callee arguments :: pending, value? :: values =>
    some ⟨callResult? callee (value? :: arguments) :: values, pending, .operator⟩
  | _, _ => none

def closeIndex? (e : Evaluation) : Option Evaluation :=
  match e.pending, e.values with
  | .index :: pending, index? :: base? :: values =>
    let value? := base?.bind fun base => index?.bind base.index?
    some ⟨value? :: values, pending, .operator⟩
  | _, _ => none

def comma? (e : Evaluation) : Option Evaluation :=
  match e.pending, e.values with
  | .call callee arguments :: pending, value? :: values =>
    some ⟨values, .call callee (value? :: arguments) :: pending, .operand⟩
  | .group :: _, _ :: values | .index :: _, _ :: values =>
    some { e with values, expected := .operand }
  | _, _ => none

def operator? (e : Evaluation) : Token → Option Evaluation
  | .sign [')'] => (e.reduced 0).close?
  | .sign [']'] => (e.reduced 0).closeIndex?
  | .sign [','] => (e.reduced 0).comma?
  | .sign ['['] => some { e with pending := .index :: e.pending, expected := .operand }
  | .sign ['.'] => some { e with expected := .part }
  | .sign sign =>
    (Operator.ofSign? sign).map fun op =>
      let e := e.reduced op.rank
      { e with pending := .infixed op :: e.pending, expected := .operand }
  | _ => none

def part? (e : Evaluation) : Token → Option Evaluation
  | .name name =>
    match e.values with
    | base? :: values =>
      some { e with values := base?.bind (fun base => base.part? name) :: values, expected := .operator }
    | [] => none
  | _ => none

def closeEmpty? (e : Evaluation) : Option Evaluation :=
  match e.pending with
  | .call callee [] :: pending => some ⟨callResult? callee [] :: e.values, pending, .operator⟩
  | _ => none

def step? (e : Evaluation) (token : Token) : Option Evaluation :=
  match e.expected with
  | .operand => e.operand? token
  | .argument => if token = .sign [')'] then e.closeEmpty? else e.operand? token
  | .operator => e.operator? token
  | .part => e.part? token
  | .call callee =>
    if token = .sign ['('] then
      some { e with pending := .call callee [] :: e.pending, expected := .argument }
    else none

def result? (e : Evaluation) : Option Constant :=
  match e.expected with
  | .operator =>
    match reduce 0 e.pending e.values with
    | ([], [some (.single c)]) => some c
    | _ => none
  | _ => none

end Evaluation

def ofTokens? (tokens : List Token) : Option Constant := do
  (← tokens.foldlM Evaluation.step? .start).result?

end Constant

def wordOf? (tokens : List Token) : Option UInt32 := (Constant.ofTokens? tokens).bind Constant.word?

end ShaderConversion.Shader
