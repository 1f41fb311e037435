import ShaderConversion.FileStore
import ShaderConversion.Proofs.Except

namespace ShaderConversion.FileStore

def LeadsTo (files : FileStore) (path : Path) (place : Place) : Prop :=
  path.checked = .ok path ∧
    ∃ parent name, files.locate path = .ok (parent, name) ∧ files.enter parent name = .ok place

-- Files that differ in what is at the end of one path: a file with this content.
structure Replaced (files : FileStore) (path : Path) (content : List UInt8) (files' : FileStore) :
    Prop where
  read : files'.read path = .ok content
  kept : ∃ place, files.LeadsTo path place ∧ files'.node? place = some (.file content) ∧
    ∀ other, other ≠ place → files'.node? other = files.node? other

theorem checked_ok {path path' : Path} (checked : path.checked = .ok path') : path' = path := by
  unfold Path.checked at checked
  split at checked
  · cases checked
  · split at checked
    · cases checked
    · cases checked
      rfl

section Put

variable (files : FileStore) {place other : Place} (node : Node)

theorem lookup_erased (apart : other ≠ place) (nodes : List (Place × Node)) :
    (nodes.filter fun entry => entry.1 != place).lookup other = nodes.lookup other := by
  induction nodes with
  | nil => rfl
  | cons entry nodes same =>
    obtain ⟨at', node⟩ := entry
    by_cases here : at' = place
    · have passed : (other == at') = false := by simp [here, apart]
      rw [List.filter_cons_of_neg (by simp [here]), List.lookup_cons, passed]
      exact same
    · rw [List.filter_cons_of_pos (by simp [here]), List.lookup_cons, List.lookup_cons, same]

theorem node_put (below : place.all (· == up) = false) :
    (files.put place node).node? place = some node := by
  rw [node?, below, put]
  simp

theorem node_put_other (apart : other ≠ place) :
    (files.put place node).node? other = files.node? other := by
  have passed : (other == place) = false := by simp [apart]
  rw [node?, node?, put, List.lookup_cons, passed, lookup_erased apart]

end Put

section Enter

variable {files files' : FileStore}

theorem enter_directory {place next : Place} {name : List UInt8}
    (entered : files.enter place name = .ok next) : files.node? place = some .directory := by
  unfold enter at entered
  split at entered
  · cases entered
  · cases entered
  · assumption

variable (kept : ∀ place, files.node? place = some .directory → files'.node? place = some .directory)

include kept

theorem enter_kept {place next : Place} {name : List UInt8}
    (entered : files.enter place name = .ok next) : files'.enter place name = .ok next := by
  have directory := enter_directory entered
  unfold enter at entered ⊢
  rw [kept place directory]
  rw [directory] at entered
  exact entered

theorem foldlM_enter_kept {names : List (List UInt8)} {place next : Place}
    (entered : names.foldlM files.enter place = .ok next) :
    names.foldlM files'.enter place = .ok next := by
  -- Induction on the names: a way through directories is a way as long as these are there.
  induction names generalizing place with
  | nil => exact entered
  | cons name names later =>
    rw [List.foldlM_cons] at entered ⊢
    obtain ⟨middle, first, rest⟩ := bind_ok.mp entered
    exact bind_ok.mpr ⟨middle, enter_kept kept first, later rest⟩

theorem locate_kept {path : Path} {found : Place × List UInt8}
    (located : files.locate path = .ok found) : files'.locate path = .ok found := by
  unfold locate at located ⊢
  split at located
  · cases located
  · rename_i some
    split at located
    · split at located <;> cases located
    · rename_i relative
      obtain ⟨parent, entered, located⟩ := bind_ok.mp located
      rw [if_neg some, if_neg relative]
      exact bind_ok.mpr ⟨parent, foldlM_enter_kept kept entered, located⟩

theorem leadsTo_kept {path : Path} {place : Place} (leads : files.LeadsTo path place) :
    files'.LeadsTo path place := by
  obtain ⟨checked, parent, name, located, entered⟩ := leads
  exact ⟨checked, parent, name, locate_kept kept located, enter_kept kept entered⟩

end Enter

theorem read_file {files : FileStore} {path : Path} {place : Place} {content : List UInt8}
    (leads : files.LeadsTo path place) (found : files.node? place = some (.file content)) :
    files.read path = .ok content := by
  obtain ⟨checked, parent, name, located, entered⟩ := leads
  refine bind_ok.mpr ⟨path, checked, bind_ok.mpr ⟨(parent, name), located, ?_⟩⟩
  refine bind_ok.mpr ⟨place, entered, ?_⟩
  rw [found]

theorem enter_here {files : FileStore} {place next : Place}
    (entered : files.enter place [] = .ok next) : next = place := by
  have directory := enter_directory entered
  unfold enter at entered
  rw [directory] at entered
  cases entered
  rfl

theorem enter_name {files : FileStore} {place next : Place} {name : List UInt8}
    (plain : isTrivial name = false) (entered : files.enter place name = .ok next) :
    next = place ++ [name] ∧ name ≠ up := by
  have directory := enter_directory entered
  simp only [isTrivial, decide_eq_false_iff_not, not_or] at plain
  obtain ⟨some, other, apart⟩ := plain
  unfold enter at entered
  rw [directory] at entered
  simp only [some, other, apart, or_self, if_false] at entered
  split at entered
  · cases entered
  · cases entered
    exact ⟨rfl, apart⟩

theorem write_ok {files files' : FileStore} {path : Path} {content : List UInt8}
    (written : files.write path content = .ok files') :
    ∃ place, files.LeadsTo path place ∧ place.all (· == up) = false ∧
      files.node? place ≠ some .directory ∧ files' = files.put place (.file content) := by
  unfold write at written
  obtain ⟨path', checked, written⟩ := bind_ok.mp written
  cases checked_ok checked
  obtain ⟨⟨parent, name⟩, located, written⟩ := bind_ok.mp written
  obtain ⟨directory, here, written⟩ := bind_ok.mp written
  cases enter_here here
  split at written
  · cases written
  · rename_i named
    obtain ⟨same, plain⟩ := not_or.mp named
    obtain ⟨target, entered, written⟩ := bind_ok.mp written
    rw [Decidable.not_not.mp same, ite_self] at located
    obtain ⟨rfl, apart⟩ := enter_name (Bool.eq_false_iff.mpr plain) entered
    split at written
    · cases written
    · rename_i vacant
      cases written
      exact ⟨_, ⟨checked, parent, name, located, entered⟩, by simp [apart], vacant, rfl⟩

-- What was a directory stays one, so the path leads there still.
theorem write_replaced {files files' : FileStore} {path : Path} {content : List UInt8}
    (written : files.write path content = .ok files') : files.Replaced path content files' := by
  obtain ⟨place, leads, below, vacant, rfl⟩ := write_ok written
  have kept (other : Place) (directory : files.node? other = some .directory) :
      (files.put place (.file content)).node? other = some .directory := by
    have apart : other ≠ place := by
      rintro rfl
      exact vacant directory
    rw [node_put_other files _ apart, directory]
  have here := node_put files (.file content) below
  exact ⟨read_file (leadsTo_kept kept leads) here, place, leads, here,
    fun other apart => node_put_other files _ apart⟩

end ShaderConversion.FileStore
