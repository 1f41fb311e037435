import ShaderConversion.Shader.Numeral
import ShaderConversion.Shader.PlainCode
import ShaderConversion.Text.Identifier

namespace ShaderConversion.Shader

inductive Token where
  | name (text : Text)
  | integer (literal : IntegerLiteral)
  | real (value : Float32)
  | sign (text : Text)
  | lineEnd
  deriving DecidableEq, Repr

structure PlacedToken where
  token : Token
  line : Nat
  deriving DecidableEq, Repr

def Token.ofNumeral? (n : Numeral) : Option Token :=
  (n.integer?.map integer).or (n.real?.map real)

inductive Lexeme where
  | none
  | name (reversed : Text)
  | number (numeral : Numeral)
  | sign (reversed : Text)

def isGap (c : Char) : Bool := c == ' ' || c == '\t' || c == '\x0b' || c == '\x0c'

def isSignChar (c : Char) : Bool := "()[]\x7b\x7d<>.,;:?!~=+-*/%&|^#".toList.contains c

def longSigns : List Text :=
  ["<<", ">>", "<=", ">=", "==", "!=", "&&", "||", "^^", "++", "--", "+=", "-=", "*=", "/=", "%=",
    "&=", "|=", "^=", "<<=", ">>="].map String.toList

namespace Lexeme

def start? (c : Char) : Option Lexeme :=
  if c.isDigit then some (number (Numeral.start c))
  else if Text.isIdentifierStart c then some (name [c])
  else if isSignChar c then some (sign [c])
  else Option.none

def extend? (c : Char) : Lexeme → Option Lexeme
  | none => Option.none
  | name text => if Text.isIdentifierChar c then some (name (c :: text)) else Option.none
  | number numeral => (numeral.extend? c).map number
  | sign ['.'] => if c.isDigit then some (number (Numeral.startFraction c)) else Option.none
  | sign text => if longSigns.contains (c :: text).reverse then some (sign (c :: text)) else Option.none

end Lexeme

-- Tokens read so far, the newest first, the one being read, and the line that it
-- begins in. Nothing is read once a character or a number is refused.
structure Lexing where
  tokens : List PlacedToken
  lexeme : Lexeme
  line : Nat
  refused : Bool

namespace Lexing

def push (l : Lexing) (token : Token) : Lexing :=
  { l with tokens := ⟨token, l.line⟩ :: l.tokens, lexeme := .none }

def refuse (l : Lexing) : Lexing := { l with refused := true }

def flush (l : Lexing) : Lexing :=
  match l.lexeme with
  | .none => l
  | .name text => l.push (.name text.reverse)
  | .number numeral =>
    match Token.ofNumeral? numeral with
    | some token => l.push token
    | none => l.refuse
  | .sign text => l.push (.sign text.reverse)

def step (l : Lexing) (placed : Placed) : Lexing :=
  let (c, line) := placed
  match l.lexeme.extend? c with
  | some lexeme => { l with lexeme := lexeme }
  | none =>
    let l := { l.flush with lexeme := .none, line := line }
    if isGap c then l
    else if c == '\n' then l.push .lineEnd
    else match Lexeme.start? c with
      | some lexeme => { l with lexeme := lexeme }
      | none => l.refuse

end Lexing

def PlacedToken.ofText? (s : Text) : Option (List PlacedToken) :=
  let l := ((plainCode s).foldl Lexing.step ⟨[], .none, 1, false⟩).flush
  if l.refused then none else some l.tokens.reverse

end ShaderConversion.Shader
