import ShaderConversion.Text.Decimal

namespace ShaderConversion.Glsl

inductive Profile where
  | none
  | core
  | compatibility
  | es
  deriving DecidableEq, Repr

structure Version where
  number : Nat
  profile : Profile
  deriving DecidableEq, Repr

def isDesktop (number : Nat) : Bool :=
  [110, 120, 130, 140, 150, 330, 400, 410, 420, 430, 440, 450, 460].contains number

def isEmbedded (number : Nat) : Bool := [100, 300, 310, 320].contains number

namespace Version

def default : Version := ⟨110, .none⟩

def oldestCompilable : Nat := 140

def isCompilable (v : Version) : Bool := oldestCompilable ≤ v.number

def profileWord : Profile → Text
  | .none => []
  | .core => " core".toList
  | .compatibility => " compatibility".toList
  | .es => " es".toList

def text (v : Version) : Text := Text.decimal v.number ++ profileWord v.profile

instance : ToString Version := ⟨fun v => String.ofList v.text⟩

-- Profile of a directive that has `word` after its number, or nothing. From 150 on
-- a bare number means the core profile, and 100 is always embedded.
def directiveProfile? (number : Nat) : Option Text → Option Profile
  | none => some (if number = 100 then .es else if 150 ≤ number then .core else .none)
  | some word =>
    if word = "core".toList ∧ 150 ≤ number then some .core
    else if word = "compatibility".toList ∧ 150 ≤ number then some .compatibility
    else if word = "es".toList ∧ isEmbedded number then some .es
    else none

def ofDirective? (body : Text) : Option Version :=
  match body.words with
  | [number] => build? number none
  | [number, profile] => build? number (some profile)
  | _ => none
where
  build? (number : Text) (word : Option Text) : Option Version := do
    let number ← number.signedBelow? UInt16.size
    let profile ← directiveProfile? number word
    if profile = .es ∨ isDesktop number then some ⟨number, profile⟩ else none

-- Profile of an override, where a bare number from 150 on means compatibility.
def overrideProfile? (number : Nat) : Option Text → Option Profile
  | none =>
    if number ∈ [110, 120, 130, 140] then some .none
    else if 150 ≤ number ∧ isDesktop number then some .compatibility
    else none
  | some word =>
    if word = "core".toList ∧ 150 ≤ number ∧ isDesktop number then some .core
    else if word = "es".toList ∧ isEmbedded number then some .es
    else none

def ofOverride? (s : Text) : Option Version :=
  match s.cutAt ' ' with
  | none => build? s none
  | some (number, profile) => build? number (some profile)
where
  build? (number : Text) (word : Option Text) : Option Version := do
    if number.length ≠ 3 then failure
    let number ← number.decimalBelow? UInt16.size
    let profile ← overrideProfile? number word
    return ⟨number, profile⟩

end Version

inductive Origin where
  | override
  | directive
  | default
  deriving DecidableEq, Repr

def Origin.name : Origin → String
  | override => "Override"
  | directive => "Directive"
  | default => "Default"

structure Resolved where
  version : Version
  origin : Origin
  deriving DecidableEq, Repr

def negotiate (directive? override? : Option Version) : Resolved :=
  match override?, directive? with
  | some version, _ => ⟨version, .override⟩
  | none, some version => ⟨version, .directive⟩
  | none, none => ⟨.default, .default⟩

end ShaderConversion.Glsl
