import ShaderConversion.Target

namespace ShaderConversion

structure Definitions where
  entries : List (Text × Text)
  deriving DecidableEq, Repr

namespace Definitions

def empty : Definitions := ⟨[]⟩

def get? (d : Definitions) (name : Text) : Option Text := d.entries.lookup name

def contains (d : Definitions) (name : Text) : Bool := (d.get? name).isSome

def size (d : Definitions) : Nat := d.entries.length

def isName (name : Text) : Bool := !name.isEmpty && !name.any Text.isBlank

def put (name value : Text) : List (Text × Text) → List (Text × Text)
  | [] => [(name, value)]
  | entry :: rest =>
    if entry.1 = name then (name, value) :: rest else entry :: put name value rest

def define (d : Definitions) (name value : Text) : Except SetupError Definitions :=
  if isName name then .ok ⟨put name value d.entries⟩ else .error (.invalidDefinitionName name)

def ofPairs (pairs : List (Text × Text)) : Except SetupError Definitions :=
  pairs.foldlM (fun d pair => d.define pair.1 pair.2) empty

def implied : Api → Text × Text
  | .openGl => ("GL_SPIRV".toList, "100".toList)
  | .vulkan => ("VULKAN".toList, "100".toList)

-- Adds the definition that the target implies. One of the user's stays.
def withTarget (d : Definitions) (target : Target) : Definitions :=
  let entry := implied target.api
  if d.contains entry.1 then d else ⟨d.entries ++ [entry]⟩

end Definitions

end ShaderConversion
