import ShaderConversion.Shader.Constant.Evaluation

namespace ShaderConversion.Shader

abbrev Macros := List (Text × List Token)

def Macros.ofPairs? (pairs : List (Text × Text)) : Option Macros :=
  pairs.mapM fun (name, value) =>
    (PlacedToken.ofText? value).map fun tokens =>
      (name, (tokens.map PlacedToken.token).filter (· != .lineEnd))

structure Condition where
  isKept : Bool
  holds : Bool
  inElse : Bool

structure LineNumber where
  line : Nat
  number : Nat
  deriving DecidableEq, Repr

def LineNumber.at (n : LineNumber) (line : Nat) : Nat := n.number + (line - n.line)

-- Where preprocessing stands: the macros, the conditions around the line, the
-- innermost first, the lines kept, the newest first, whether a directive or code was
-- met, how lines are numbered, and the version asked for. Nothing is kept once a
-- line is refused.
structure Preprocessing where
  macros : Macros
  conditions : List Condition
  lines : List (List Token)
  begun : Bool
  numbering : LineNumber
  version? : Option UInt64
  refused : Bool

namespace Preprocessing

def start (macros : Macros) : Preprocessing := ⟨macros, [], [], false, ⟨1, 1⟩, none, false⟩

def isActive (p : Preprocessing) : Bool := p.conditions.head?.all fun c => c.isKept && c.holds

def defines (p : Preprocessing) (name : Text) : Bool := (p.macros.lookup name).isSome

def refuse (p : Preprocessing) : Preprocessing := { p with refused := true }

def begin (p : Preprocessing) (wanted : Bool) (arguments : List Token) : Preprocessing :=
  if p.isActive then
    match arguments with
    | [.name name] => { p with conditions := ⟨true, p.defines name == wanted, false⟩ :: p.conditions }
    | _ => p.refuse
  else { p with conditions := ⟨false, false, false⟩ :: p.conditions }

def turn (p : Preprocessing) (arguments : List Token) : Preprocessing :=
  match p.conditions with
  | ⟨isKept, holds, false⟩ :: outer =>
    if arguments.isEmpty || !isKept then { p with conditions := ⟨isKept, !holds, true⟩ :: outer }
    else p.refuse
  | _ => p.refuse

def finish (p : Preprocessing) (arguments : List Token) : Preprocessing :=
  match p.conditions with
  | condition :: outer =>
    if arguments.isEmpty || !condition.isKept then { p with conditions := outer } else p.refuse
  | [] => p.refuse

def condition? (p : Preprocessing) (keyword : Text) (arguments : List Token) : Option Preprocessing :=
  if keyword = "ifdef".toList then some (p.begin true arguments)
  else if keyword = "ifndef".toList then some (p.begin false arguments)
  else if keyword = "if".toList && !p.isActive then some (p.begin true arguments)
  else if keyword = "else".toList then some (p.turn arguments)
  else if keyword = "endif".toList then some (p.finish arguments)
  else none

def readableVersion? (arguments : List Token) : Option UInt64 :=
  let isCore :=
    match arguments.drop 1 with
    | [] => true
    | [.name profile] => profile = "core".toList
    | _ => false
  match arguments.head? with
  | some (.integer literal) =>
    if isCore && [440, 450, 460].contains literal.value then some literal.value else none
  | _ => none

def isExtension (arguments : List Token) : Bool :=
  match arguments with
  | [.name _, .sign [':'], .name behavior] =>
    ["require", "enable", "warn", "disable"].any fun word => behavior == word.toList
  | _ => false

def define (p : Preprocessing) (name : Text) (value : List Token) : Preprocessing :=
  match p.macros.lookup name with
  | none => { p with macros := (name, value) :: p.macros }
  | some old => if old = value then p else p.refuse

-- Replaces names of macros. A macro is not replaced within its own text. One name
-- stands for the number of the line, whatever it is defined to be.
def expand : Nat → Macros → Nat → Token → List Token
  | depth + 1, macros, number, .name name =>
    if name = "__LINE__".toList then [.integer ⟨UInt64.ofNat number, true⟩]
    else
      match macros.lookup name with
      | some value =>
        value.flatMap (expand depth (macros.filter fun entry => entry.1 != name) number)
      | none => [.name name]
  | _, _, _, token => [token]

def expandAll (p : Preprocessing) (tokens : List PlacedToken) : List Token :=
  tokens.flatMap fun t => expand (p.macros.length + 1) p.macros (p.numbering.at t.line) t.token

def lineNumber? (arguments : List Token) : Option Nat :=
  let fits : Token → Bool
    | .integer literal => literal.value < UInt64.ofNat UInt32.size
    | _ => true
  let number := match arguments with
    | [number, .integer _] => [number]
    | arguments => arguments
  if arguments.all fits then (wordOf? number).map UInt32.toNat else none

def plain (p : Preprocessing) (line : Nat) (keyword : Text) (content : List PlacedToken) :
    Preprocessing :=
  let arguments := content.map PlacedToken.token
  if keyword = "version".toList then
    match readableVersion? arguments, p.begun with
    | some number, false => { p with version? := some number }
    | _, _ => p.refuse
  else if keyword = "define".toList then
    match arguments with
    | .name name :: value => p.define name value
    | _ => p.refuse
  else if keyword = "undef".toList then
    match arguments with
    | [.name name] => { p with macros := p.macros.filter fun entry => entry.1 != name }
    | _ => p.refuse
  else if keyword = "line".toList then
    match lineNumber? (p.expandAll content) with
    | some number => { p with numbering := ⟨line, number⟩ }
    | none => p.refuse
  else if keyword = "extension".toList then if isExtension arguments then p else p.refuse
  else if keyword = "pragma".toList then p
  else p.refuse

def directive (p : Preprocessing) (line : Nat) (content : List PlacedToken) : Preprocessing :=
  match content with
  | ⟨.name keyword, _⟩ :: content =>
    let next :=
      match p.condition? keyword (content.map PlacedToken.token) with
      | some next => next
      | none => if p.isActive then p.plain line keyword content else p
    { next with begun := true }
  | _ => if p.isActive then p.refuse else p

def line (p : Preprocessing) (tokens : List PlacedToken) : Preprocessing :=
  match tokens with
  | [] => p
  | first :: content =>
    if first.token = .sign ['#'] then p.directive first.line content
    else if !p.isActive then p
    else if content.any fun t => t.token = .sign ['#'] then p.refuse
    else { p with begun := true, lines := p.expandAll tokens :: p.lines }

def run? (macros : Macros) (source : Text) : Option Preprocessing := do
  let tokens ← PlacedToken.ofText? source
  let p := (tokens.splitOnP fun t => t.token == .lineEnd).foldl line (start macros)
  if p.refused || !p.conditions.isEmpty then none else some p

def tokens (p : Preprocessing) : List Token := p.lines.reverse.flatten

end Preprocessing

end ShaderConversion.Shader
