import ShaderConversion.Limits
import ShaderConversion.SetupError

namespace ShaderConversion

inductive Setting where
  | bool (value : Bool)
  | integer (value : Int)
  | text (value : Text)
  deriving DecidableEq, Repr

abbrev Entries (α : Type) := List (Text × α)

namespace Entries

def put {α : Type} (key : Text) (value : α) : Entries α → Entries α
  | [] => [(key, value)]
  | entry :: rest =>
    match Text.compare key entry.1 with
    | .lt => (key, value) :: entry :: rest
    | .eq => (key, value) :: rest
    | .gt => entry :: put key value rest

def ofMembers {α : Type} (members : List (Text × α)) : Entries α :=
  members.foldl (fun entries member => put member.1 member.2 entries) []

end Entries

structure Configuration where
  entries : Entries Setting
  deriving DecidableEq, Repr

namespace Configuration

def empty : Configuration := ⟨[]⟩

def knownKeys : List Text := [
  "input_version".toList, "output_version".toList, "debug_info_level".toList,
  "warnings_as_errors".toList, "max_draw_buffers".toList, "max_vertex_attribs".toList,
  "max_combined_texture_image_units".toList, "max_compute_work_group_invocations".toList,
  "max_compute_work_group_size_x".toList, "max_compute_work_group_size_y".toList,
  "max_compute_work_group_size_z".toList]

def isKnown (key : Text) : Bool := knownKeys.contains key

def size (c : Configuration) : Nat := c.entries.length

def get? (c : Configuration) (key : Text) : Option Setting := c.entries.lookup key

def set (c : Configuration) (key : Text) (value : Setting) : Configuration :=
  ⟨c.entries.put key value⟩

def settingOf (key : Text) : Json → Except DocumentError Setting
  | .bool value => .ok (.bool value)
  | .integer value =>
    if -0x8000000000000000 ≤ value ∧ value < 0x8000000000000000 then .ok (.integer value) else .error (.notInteger key)
  | .fraction => .error (.notInteger key)
  | .text value => .ok (.text value)
  | _ => .error (.unsupportedValue key)

structure Loading where
  result : Except DocumentError Configuration
  keys : List Text

def loadEntries (c : Configuration) (keys : List Text) : List (Text × Json) → Loading
  | [] => ⟨.ok c, keys.reverse⟩
  | (key, value) :: rest =>
    match settingOf key value with
    | .error error => ⟨.error error, keys.reverse⟩
    | .ok setting => loadEntries (c.set key setting) (key :: keys) rest

-- Loads an object of booleans, integers and texts, as `read` finds it in a document. Its
-- keys are taken in order.
def loadWith (read : Text → Except Json.Fault Json) (document : Text) : Loading :=
  match read document with
  | .error fault => ⟨.error (.unreadable fault), []⟩
  | .ok (.object members) => loadEntries empty [] (Entries.ofMembers members)
  | .ok _ => ⟨.error .notObject, []⟩

def load (document : Text) : Loading := loadWith Json.read document

def ofDocumentWith (read : Text → Except Json.Fault Json) (document : Text) :
    Except SetupError Configuration :=
  (loadWith read document).result.mapError .malformedDocument

def ofDocument (document : Text) : Except SetupError Configuration := ofDocumentWith Json.read document

def text (c : Configuration) (key : Text) : Except SetupError Text :=
  match c.get? key with
  | none => .ok []
  | some (.text value) => .ok value
  | some _ => .error (.wrongValueType key .text)

def flag (c : Configuration) (key : Text) : Except SetupError Bool :=
  match c.get? key with
  | none => .ok false
  | some (.bool value) => .ok value
  | some _ => .error (.wrongValueType key .bool)

def count (c : Configuration) (key : Text) (default : UInt32) : Except SetupError UInt32 :=
  match c.get? key with
  | none => .ok default
  | some (.integer value) =>
    if 0 ≤ value ∧ value < UInt32.size then .ok (UInt32.ofNat value.toNat)
    else .error (.wrongValueType key .count)
  | some _ => .error (.wrongValueType key .count)

def limits (c : Configuration) : Except SetupError Limits := do
  let default := Limits.default
  return {
    drawBuffers := ← c.count "max_draw_buffers".toList default.drawBuffers
    vertexAttributes := ← c.count "max_vertex_attribs".toList default.vertexAttributes
    textureUnits := ← c.count "max_combined_texture_image_units".toList default.textureUnits
    groupInvocations :=
      ← c.count "max_compute_work_group_invocations".toList default.groupInvocations
    groupSize := {
      x := ← c.count "max_compute_work_group_size_x".toList default.groupSize.x
      y := ← c.count "max_compute_work_group_size_y".toList default.groupSize.y
      z := ← c.count "max_compute_work_group_size_z".toList default.groupSize.z } }

end Configuration

end ShaderConversion
