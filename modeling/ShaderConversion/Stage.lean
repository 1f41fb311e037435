import ShaderConversion.Text.Basic

namespace ShaderConversion

inductive Stage where
  | unspecified
  | vertex
  | fragment
  | geometry
  | tessellationControl
  | tessellationEvaluation
  | compute
  | rayGeneration
  | rayAnyHit
  | rayClosestHit
  | rayMiss
  | rayIntersection
  | rayCallable
  | meshTask
  | mesh
  deriving DecidableEq, Repr

namespace Stage

def all : List Stage := [
  vertex, fragment, geometry, tessellationControl, tessellationEvaluation, compute, rayGeneration,
  rayAnyHit, rayClosestHit, rayMiss, rayIntersection, rayCallable, meshTask, mesh]

def name : Stage → String
  | unspecified => "unspecified"
  | vertex => "vertex"
  | fragment => "fragment"
  | geometry => "geometry"
  | tessellationControl => "tessellation-control"
  | tessellationEvaluation => "tessellation-evaluation"
  | compute => "compute"
  | rayGeneration => "ray-generation"
  | rayAnyHit => "ray-any-hit"
  | rayClosestHit => "ray-closest-hit"
  | rayMiss => "ray-miss"
  | rayIntersection => "ray-intersection"
  | rayCallable => "ray-callable"
  | meshTask => "mesh-task"
  | mesh => "mesh"

instance : ToString Stage := ⟨name⟩

def keyword? : Stage → Option Text
  | unspecified => none
  | vertex => some "vert".toList
  | fragment => some "frag".toList
  | geometry => some "geom".toList
  | tessellationControl => some "tesc".toList
  | tessellationEvaluation => some "tese".toList
  | compute => some "comp".toList
  | rayGeneration => some "rgen".toList
  | rayAnyHit => some "rahit".toList
  | rayClosestHit => some "rchit".toList
  | rayMiss => some "rmiss".toList
  | rayIntersection => some "rint".toList
  | rayCallable => some "rcall".toList
  | meshTask => some "task".toList
  | mesh => some "mesh".toList

theorem mem_all {stage : Stage} : stage ∈ all ↔ stage ≠ unspecified := by
  cases stage <;> decide

def ofText? (s : Text) : Option Stage :=
  (unspecified :: all).find? (fun stage => stage.name.toList == s) <|>
    all.find? fun stage => stage.keyword? == some s

-- A file is for a stage if its name, less one `.glsl` at the end, ends in a dot and
-- the keyword of the stage.
def endsIn (name : Text) (stage : Stage) : Bool :=
  match stage.keyword? with
  | none => false
  | some keyword => ('.' :: keyword).isSuffixOf name

def ofFileName? (name : Text) : Option Stage :=
  let base := Text.dropTail ".glsl".toList name
  all.find? (endsIn base)

def detected? (explicit : Stage) (fileName? : Option Text) : Option Stage :=
  if explicit = unspecified then fileName?.bind ofFileName? else none

def resolve (explicit : Stage) (fileName? : Option Text) : Stage :=
  if explicit = unspecified then (detected? explicit fileName?).getD vertex else explicit

theorem ofFileName_concrete {name : Text} {stage : Stage} (found : ofFileName? name = some stage) :
    stage ≠ unspecified :=
  mem_all.mp (List.mem_of_find?_eq_some found)

theorem resolve_concrete (explicit : Stage) (fileName? : Option Text) :
    resolve explicit fileName? ≠ unspecified := by
  unfold resolve
  split
  · cases found : detected? explicit fileName? with
    | none => decide
    | some stage =>
      rename_i free
      rw [detected?, if_pos free] at found
      obtain ⟨name, _, found⟩ := Option.bind_eq_some_iff.mp found
      exact ofFileName_concrete found
  · assumption

end Stage

end ShaderConversion
