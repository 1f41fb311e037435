import Mathlib.Data.List.Nodup
import ShaderConversion.Text.Basic

namespace ShaderConversion

variable {α : Type} {key : Text} {value : α} {entries : List (Text × α)}

theorem lookup_entry (entry : Text × α) (rest : List (Text × α)) (key : Text) :
    (entry :: rest).lookup key = if key = entry.1 then some entry.2 else rest.lookup key := by
  rw [List.lookup_cons]
  by_cases same : key = entry.1
  · rw [if_pos same, same, beq_self_eq_true]
  · rw [if_neg same, beq_false_of_ne same]

theorem mem_of_lookup (found : entries.lookup key = some value) : (key, value) ∈ entries := by
  obtain ⟨front, back, rfl, _⟩ := List.lookup_eq_some_iff.mp found
  exact List.mem_append_right _ List.mem_cons_self

theorem lookup_eq_none : entries.lookup key = none ↔ key ∉ entries.map Prod.fst := by
  rw [List.lookup_eq_none_iff, List.mem_map, not_exists]
  refine forall_congr' fun entry => ?_
  rw [not_and, bne_iff_ne, ne_comm]

theorem lookup_eq_some (distinct : (entries.map Prod.fst).Nodup) :
    entries.lookup key = some value ↔ (key, value) ∈ entries := by
  constructor
  · exact mem_of_lookup
  · intro member
    obtain ⟨front, back, rfl⟩ := List.append_of_mem member
    refine List.lookup_eq_some_iff.mpr ⟨front, back, rfl, fun entry before => ?_⟩
    rw [List.map_append, List.nodup_append] at distinct
    rw [bne_iff_ne]
    exact (distinct.2.2 _ (List.mem_map_of_mem before) _ List.mem_cons_self).symm

def Kept (entries : List (Text × α)) (key : Text) (value : α) : Prop :=
  ∃ front back, entries = front ++ (key, value) :: back ∧ key ∉ back.map Prod.fst

theorem lookup_reverse : entries.reverse.lookup key = some value ↔ Kept entries key value := by
  rw [List.lookup_eq_some_iff]
  constructor
  · rintro ⟨later, earlier, parts, absent⟩
    refine ⟨earlier.reverse, later.reverse, ?_, fun member => ?_⟩
    · rw [← List.reverse_reverse entries, parts]
      simp
    · obtain ⟨entry, behind, same⟩ := List.mem_map.mp member
      have other := absent entry (List.mem_reverse.mp behind)
      rw [same, bne_self_eq_false] at other
      cases other
  · rintro ⟨front, back, rfl, absent⟩
    refine ⟨back.reverse, front.reverse, by simp, fun entry member => ?_⟩
    rw [bne_iff_ne]
    rintro rfl
    exact absent (List.mem_map_of_mem (List.mem_reverse.mp member))

theorem lookup_reverse_none : entries.reverse.lookup key = none ↔ key ∉ entries.map Prod.fst := by
  rw [lookup_eq_none, List.map_reverse, List.mem_reverse]

theorem get_writes {β : Type} (get : β → Text → Option α) (put : β → Text → α → β)
    (get_put : ∀ b key value other,
      get (put b key value) other = if other = key then some value else get b other)
    (b : β) (writes : List (Text × α)) (key : Text) :
    get (writes.foldl (fun b write => put b write.1 write.2) b) key =
      (writes.reverse.lookup key).or (get b key) := by
  -- Induction on the writes, wherever they go: of those to one key the last one is found.
  induction writes generalizing b with
  | nil => rfl
  | cons write writes later =>
    rw [List.foldl_cons, later, get_put, List.reverse_cons, List.lookup_append, Option.or_assoc,
      lookup_entry]
    split <;> rfl

end ShaderConversion
