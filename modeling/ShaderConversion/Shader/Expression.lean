import ShaderConversion.Shader.Constant.Operator

namespace ShaderConversion.Shader

def assignmentSigns : List Text :=
  ["=", "+=", "-=", "*=", "/=", "%=", "&=", "|=", "^=", "<<=", ">>="].map String.toList

-- What may come next in an expression. Behind an opening bracket there may be
-- nothing but the closing one; behind a point there is the name of a part.
inductive Wanted where
  | operand
  | operandOrEnd
  | operator
  | part
  deriving DecidableEq, Repr

structure ExpressionReading where
  closing : List Text
  wanted : Wanted

namespace ExpressionReading

def stepSigns : List Text := ["++", "--"].map String.toList

def prefixSigns : List Text := ["+", "-", "!", "~"].map String.toList ++ stepSigns

def infixSigns : List Text :=
  Constant.Operator.signs.map (fun entry => entry.1.toList) ++ assignmentSigns ++ [[','], ['?'], [':']]

def close? (e : ExpressionReading) (sign : Text) : Option ExpressionReading :=
  match e.closing with
  | innermost :: outer => if innermost = sign then some ⟨outer, .operator⟩ else none
  | [] => none

def operand? (e : ExpressionReading) : Token → Option ExpressionReading
  | .name _ | .integer _ | .real _ => some { e with wanted := .operator }
  | .sign ['('] => some ⟨[')'] :: e.closing, .operand⟩
  | .sign sign => if prefixSigns.contains sign then some { e with wanted := .operand } else none
  | .lineEnd => none

def operator? (e : ExpressionReading) : Token → Option ExpressionReading
  | .sign ['('] => some ⟨[')'] :: e.closing, .operandOrEnd⟩
  | .sign ['['] => some ⟨[']'] :: e.closing, .operandOrEnd⟩
  | .sign ['.'] => some { e with wanted := .part }
  | .sign sign =>
    if stepSigns.contains sign then some e
    else if infixSigns.contains sign then some { e with wanted := .operand }
    else e.close? sign
  | _ => none

def step? (e : ExpressionReading) (token : Token) : Option ExpressionReading :=
  match e.wanted, token with
  | .operand, token => e.operand? token
  | .operandOrEnd, .sign sign => (e.close? sign).or (e.operand? (.sign sign))
  | .operandOrEnd, token => e.operand? token
  | .operator, token => e.operator? token
  | .part, .name _ => some { e with wanted := .operator }
  | .part, _ => none

end ExpressionReading

def isExpression (tokens : List Token) : Bool :=
  match tokens.foldlM ExpressionReading.step? ⟨[], .operand⟩ with
  | some ⟨[], .operator⟩ => true
  | _ => false

def namesIn : List Token → List Text
  | .sign ['.'] :: .name _ :: rest => namesIn rest
  | .name name :: rest =>
    if rest.head? = some (.sign ['(']) ∨ name = "true".toList ∨ name = "false".toList then namesIn rest
    else name :: namesIn rest
  | _ :: rest => namesIn rest
  | [] => []

end ShaderConversion.Shader
