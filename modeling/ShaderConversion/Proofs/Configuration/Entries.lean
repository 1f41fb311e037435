import ShaderConversion.Configuration.Store
import ShaderConversion.Proofs.Lookup
import ShaderConversion.Proofs.Text.Order

namespace ShaderConversion.Entries

variable {α : Type} {key : Text} {entries : Entries α}

def Sorted (entries : Entries α) : Prop :=
  entries.Pairwise fun earlier later => Utf8.encode earlier.1 < Utf8.encode later.1

theorem Sorted.distinct (sorted : entries.Sorted) : (entries.map Prod.fst).Nodup := by
  refine List.pairwise_map.mpr (sorted.imp fun {a b} less same => ?_)
  rw [same] at less
  exact List.lt_irrefl _ less

theorem Sorted.ext {entries' : Entries α} (sorted : entries.Sorted) (sorted' : entries'.Sorted)
    (same : ∀ key, entries.lookup key = entries'.lookup key) : entries = entries' := by
  have members : entries.Perm entries' := by
    refine (List.perm_ext_iff_of_nodup (.of_map _ sorted.distinct) (.of_map _ sorted'.distinct)).mpr ?_
    rintro ⟨key, value⟩
    rw [← lookup_eq_some sorted.distinct, same, lookup_eq_some sorted'.distinct]
  refine members.eq_of_pairwise (fun a b _ _ less greater => ?_) sorted sorted'
  exact absurd (List.lt_trans less greater) (List.lt_irrefl _)

section Put

variable (value : α)

theorem lookup_put (other : Text) :
    (put key value entries).lookup other = if other = key then some value else entries.lookup other := by
  fun_induction put key value entries with
  | case1 => exact lookup_entry (key, value) [] other
  | case2 entry rest less => exact lookup_entry (key, value) (entry :: rest) other
  | case3 entry rest equal =>
    cases Text.compare_eq_iff.mp equal
    rw [lookup_entry, lookup_entry]
    split <;> rfl
  | case4 entry rest greater later =>
    have apart : key ≠ entry.1 := by
      rintro rfl
      exact List.lt_irrefl _ (Text.compare_eq_iff.mp greater)
    rw [lookup_entry, lookup_entry, later]
    by_cases asked : other = key
    · simp [asked, apart]
    · simp [asked]

theorem mem_put {entry : Text × α} (member : entry ∈ put key value entries) :
    entry = (key, value) ∨ entry ∈ entries := by
  fun_induction put key value entries with
  | case1 => exact .inl (List.mem_singleton.mp member)
  | case2 first rest less => exact List.mem_cons.mp member
  | case3 first rest equal =>
    exact (List.mem_cons.mp member).imp_right (List.mem_cons_of_mem first)
  | case4 first rest greater later =>
    rcases List.mem_cons.mp member with same | behind
    · exact .inr (same ▸ List.mem_cons_self)
    · exact (later behind).imp_right (List.mem_cons_of_mem first)

theorem sorted_put (sorted : entries.Sorted) : (put key value entries).Sorted := by
  fun_induction put key value entries with
  | case1 => exact List.pairwise_singleton _ _
  | case2 entry rest less =>
    have first := Text.compare_eq_iff.mp less
    refine List.pairwise_cons.mpr ⟨fun other member => ?_, sorted⟩
    rcases List.mem_cons.mp member with rfl | behind
    · exact first
    · exact List.lt_trans first ((List.pairwise_cons.mp sorted).1 other behind)
  | case3 entry rest equal =>
    cases Text.compare_eq_iff.mp equal
    exact List.pairwise_cons.mpr (List.pairwise_cons.mp sorted)
  | case4 entry rest greater later =>
    obtain ⟨first, others⟩ := List.pairwise_cons.mp sorted
    refine List.pairwise_cons.mpr ⟨fun other member => ?_, later others⟩
    rcases mem_put value member with rfl | old
    · exact Text.compare_eq_iff.mp greater
    · exact first other old

end Put

section Members

variable (members : List (Text × α))

theorem lookup_ofMembers (key : Text) : (ofMembers members).lookup key = members.reverse.lookup key :=
  (get_writes (fun entries key => entries.lookup key) (fun entries key value => put key value entries)
    (fun _ _ value other => lookup_put value other) [] members key).trans Option.or_none

theorem sorted_ofMembers : (ofMembers members).Sorted := by
  unfold ofMembers
  exact List.foldlRecOn members _ .nil fun _ sorted member _ => sorted_put member.2 sorted

theorem mem_ofMembers {members : List (Text × α)} {value : α} :
    (key, value) ∈ ofMembers members ↔ Kept members key value := by
  rw [← lookup_eq_some (sorted_ofMembers members).distinct, lookup_ofMembers, lookup_reverse]

theorem keys_ofMembers {members : List (Text × α)} :
    key ∈ (ofMembers members).map Prod.fst ↔ key ∈ members.map Prod.fst := by
  rw [← not_iff_not, ← lookup_eq_none, lookup_ofMembers, lookup_reverse_none]

theorem ofMembers_congr {members members' : List (Text × α)}
    (same : ∀ key, members.reverse.lookup key = members'.reverse.lookup key) :
    ofMembers members = ofMembers members' := by
  refine (sorted_ofMembers members).ext (sorted_ofMembers members') fun key => ?_
  rw [lookup_ofMembers, lookup_ofMembers, same]

end Members

end ShaderConversion.Entries
