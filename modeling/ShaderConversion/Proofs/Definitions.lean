import ShaderConversion.Definitions
import ShaderConversion.Proofs.Except
import ShaderConversion.Proofs.Lookup

namespace ShaderConversion.Definitions

def IsName (name : Text) : Prop := name ≠ [] ∧ ∀ c ∈ name, Text.isBlank c = false

def names (d : Definitions) : List Text := d.entries.map Prod.fst

def after (d : Definitions) (result : Except SetupError Definitions) : Definitions :=
  match result with
  | .ok changed => changed
  | .error _ => d

inductive Built : Definitions → Prop where
  | empty : Built empty
  | ofPairs {pairs : List (Text × Text)} {d : Definitions} (made : ofPairs pairs = .ok d) : Built d
  | define {d : Definitions} (before : Built d) (name value : Text) :
      Built (d.after (d.define name value))
  | withTarget {d : Definitions} (before : Built d) (target : Target) : Built (d.withTarget target)

inductive Puts (name value : Text) : List (Text × Text) → List (Text × Text) → Prop where
  | replaced {front back : List (Text × Text)} (old : Text)
      (alone : name ∉ (front ++ back).map Prod.fst) :
      Puts name value (front ++ (name, old) :: back) (front ++ (name, value) :: back)
  | appended {entries : List (Text × Text)} (absent : name ∉ entries.map Prod.fst) :
      Puts name value entries (entries ++ [(name, value)])

def IsLast (pairs : List (Text × Text)) (name value : Text) : Prop :=
  ∃ front back, pairs = front ++ (name, value) :: back ∧ name ∉ back.map Prod.fst

-- Every name once, in the order in which the names came first, with the value that came last.
structure Collects (d : Definitions) (pairs : List (Text × Text)) : Prop where
  names : d.names = (pairs.map Prod.fst).eraseDups
  entries : ∀ entry ∈ d.entries, IsLast pairs entry.1 entry.2
  get : ∀ name value, d.get? name = some value ↔ IsLast pairs name value
  missing : ∀ name, name ∉ pairs.map Prod.fst → d.get? name = none

structure Implies (target : Target) (d extended : Definitions) : Prop where
  present : (implied target.api).1 ∈ d.names → extended = d
  absent : (implied target.api).1 ∉ d.names → extended.entries = d.entries ++ [implied target.api]

structure IsWellFormed (d : Definitions) : Prop where
  distinct : d.names.Nodup
  valid : ∀ name ∈ d.names, IsName name

theorem isName_iff {name : Text} : isName name = true ↔ IsName name := by
  simp [isName, IsName]

theorem mem_names {d : Definitions} {name : Text} : name ∈ d.names ↔ ∃ value, d.get? name = some value := by
  rw [← Option.isSome_iff_exists, get?, List.lookup_isSome_iff, names, List.mem_map]
  exact exists_congr fun entry => and_congr_right fun _ => eq_comm.trans beq_iff_eq.symm

theorem contains_iff {d : Definitions} {name : Text} : d.contains name = true ↔ name ∈ d.names :=
  Option.isSome_iff_exists.trans mem_names.symm

section Put

variable {name : Text} {entries : List (Text × Text)} (value : Text)

theorem names_put : (put name value entries).map Prod.fst =
    if name ∈ entries.map Prod.fst then entries.map Prod.fst else entries.map Prod.fst ++ [name] := by
  induction entries with
  | nil => simp [put]
  | cons entry rest step =>
    by_cases same : entry.1 = name
    · simp [put, same]
    · rw [put, if_neg same, List.map_cons, step]
      split <;> simp_all [Ne.symm same]

theorem lookup_put (other : Text) : (put name value entries).lookup other =
    if other = name then some value else entries.lookup other := by
  induction entries with
  | nil => exact lookup_entry (name, value) [] other
  | cons entry rest step =>
    by_cases same : entry.1 = name
    · rw [put, if_pos same, lookup_entry, lookup_entry, same]
      split <;> rfl
    · rw [put, if_neg same, lookup_entry, lookup_entry, step]
      by_cases asked : other = name
      · simp [asked, Ne.symm same]
      · simp [asked]

theorem put_absent (absent : name ∉ entries.map Prod.fst) :
    put name value entries = entries ++ [(name, value)] := by
  induction entries with
  | nil => rfl
  | cons entry rest step =>
    rw [List.map_cons, List.mem_cons, not_or] at absent
    rw [put, if_neg (Ne.symm absent.1), step absent.2, List.cons_append]

theorem put_present {front : List (Text × Text)} (absent : name ∉ front.map Prod.fst) (old : Text)
    (back : List (Text × Text)) :
    put name value (front ++ (name, old) :: back) = front ++ (name, value) :: back := by
  induction front with
  | nil => exact if_pos rfl
  | cons entry rest step =>
    rw [List.map_cons, List.mem_cons, not_or] at absent
    rw [List.cons_append, put, if_neg (Ne.symm absent.1), step absent.2, List.cons_append]

theorem put_puts (distinct : (entries.map Prod.fst).Nodup) :
    Puts name value entries (put name value entries) := by
  by_cases present : name ∈ entries.map Prod.fst
  · obtain ⟨⟨name, old⟩, member, rfl⟩ := List.mem_map.mp present
    obtain ⟨front, back, rfl⟩ := List.append_of_mem member
    have alone : name ∉ (front ++ back).map Prod.fst := by
      have apart := List.perm_middle.nodup_iff.mp (List.map_append ▸ distinct)
      rw [List.map_append]
      exact (List.nodup_cons.mp apart).1
    rw [put_present value (fun member => alone (List.map_append ▸ List.mem_append_left _ member))]
    exact .replaced old alone
  · rw [put_absent value present]
    exact .appended present

end Put

def putAll (entries pairs : List (Text × Text)) : List (Text × Text) :=
  pairs.foldl (fun entries pair => put pair.1 pair.2 entries) entries

theorem names_putAll {entries pairs : List (Text × Text)} {done : List Text}
    (names : entries.map Prod.fst = done.eraseDups) :
    (putAll entries pairs).map Prod.fst = (done ++ pairs.map Prod.fst).eraseDups := by
  induction pairs generalizing entries done with
  | nil => simpa [putAll] using names
  | cons pair pairs step =>
    have next : (put pair.1 pair.2 entries).map Prod.fst = (done ++ [pair.1]).eraseDups := by
      rw [names_put, names, List.eraseDups_append]
      by_cases seen : pair.1 ∈ done <;> simp [List.removeAll, List.eraseDups_cons, seen]
    have whole := step next
    rwa [List.append_assoc] at whole

theorem lookup_putAll (entries pairs : List (Text × Text)) (name : Text) :
    (putAll entries pairs).lookup name = (pairs.reverse.lookup name).or (entries.lookup name) :=
  get_writes (fun entries name => entries.lookup name) (fun entries name value => put name value entries)
    (fun _ _ value other => lookup_put value other) entries pairs name

theorem isLast_iff {pairs : List (Text × Text)} {name value : Text} :
    IsLast pairs name value ↔ pairs.reverse.lookup name = some value := lookup_reverse.symm

section Define

variable {d : Definitions} {name : Text} (value : Text)

theorem define_valid (valid : IsName name) : d.define name value = .ok ⟨put name value d.entries⟩ :=
  if_pos (isName_iff.mpr valid)

theorem define_invalid (invalid : ¬ IsName name) :
    d.define name value = .error (.invalidDefinitionName name) :=
  if_neg fun valid => invalid (isName_iff.mp valid)

theorem after_define (d : Definitions) (name value : Text) :
    IsName name ∧ d.after (d.define name value) = ⟨put name value d.entries⟩ ∨
      ¬ IsName name ∧ d.after (d.define name value) = d := by
  by_cases valid : IsName name
  · rw [define_valid value valid]
    exact .inl ⟨valid, rfl⟩
  · rw [define_invalid value valid]
    exact .inr ⟨valid, rfl⟩

end Define

section Pairs

variable {pairs : List (Text × Text)}

theorem foldlM_define (valid : ∀ pair ∈ pairs, IsName pair.1) (d : Definitions) :
    pairs.foldlM (fun d pair => d.define pair.1 pair.2) d = .ok ⟨putAll d.entries pairs⟩ := by
  induction pairs generalizing d with
  | nil => rfl
  | cons pair pairs step =>
    rw [List.foldlM_cons, define_valid pair.2 (valid pair List.mem_cons_self)]
    exact step (fun other member => valid other (List.mem_cons_of_mem _ member)) _

theorem ofPairs_valid (valid : ∀ pair ∈ pairs, IsName pair.1) :
    ofPairs pairs = .ok ⟨putAll [] pairs⟩ := foldlM_define valid empty

theorem ofPairs_invalid {front back : List (Text × Text)} {bad : Text × Text}
    (valid : ∀ pair ∈ front, IsName pair.1) (invalid : ¬ IsName bad.1) :
    ofPairs (front ++ bad :: back) = .error (.invalidDefinitionName bad.1) := by
  rw [ofPairs, List.foldlM_append]
  refine bind_error.mpr (.inr ⟨_, foldlM_define valid empty, ?_⟩)
  rw [List.foldlM_cons, define_invalid bad.2 invalid]
  rfl

theorem ofPairs_append (pairs : List (Text × Text)) (pair : Text × Text) :
    ofPairs (pairs ++ [pair]) = ofPairs pairs >>= fun d => d.define pair.1 pair.2 := by
  rw [ofPairs, List.foldlM_append]
  refine bind_congr fun d => ?_
  rw [List.foldlM_cons]
  exact bind_pure _

theorem ofPairs_error {error : SetupError} : ofPairs pairs = .error error ↔
    ∃ front bad back, pairs = front ++ bad :: back ∧ (∀ pair ∈ front, IsName pair.1) ∧
      ¬ IsName bad.1 ∧ error = .invalidDefinitionName bad.1 := by
  constructor
  · intro failed
    rcases all_or_first (fun pair => IsName pair.1) pairs with valid | ⟨front, bad, back, rfl, valid, invalid⟩
    · cases (ofPairs_valid valid).symm.trans failed
    · cases (ofPairs_invalid valid invalid).symm.trans failed
      exact ⟨front, bad, back, rfl, valid, invalid, rfl⟩
  · rintro ⟨front, bad, back, rfl, valid, invalid, rfl⟩
    exact ofPairs_invalid valid invalid

theorem ofPairs_ok {d : Definitions} : ofPairs pairs = .ok d ↔
    (∀ pair ∈ pairs, IsName pair.1) ∧ d = ⟨putAll [] pairs⟩ := by
  constructor
  · intro made
    rcases all_or_first (fun pair => IsName pair.1) pairs with valid | ⟨front, bad, back, rfl, valid, invalid⟩
    · cases (ofPairs_valid valid).symm.trans made
      exact ⟨valid, rfl⟩
    · cases (ofPairs_invalid valid invalid).symm.trans made
  · rintro ⟨valid, rfl⟩
    exact ofPairs_valid valid

end Pairs

namespace IsWellFormed

variable {d : Definitions}

theorem empty : IsWellFormed empty := ⟨List.nodup_nil, fun _ member => absurd member List.not_mem_nil⟩

theorem append (formed : d.IsWellFormed) {entry : Text × Text} (valid : IsName entry.1)
    (absent : entry.1 ∉ d.names) : IsWellFormed ⟨d.entries ++ [entry]⟩ := by
  have names : (⟨d.entries ++ [entry]⟩ : Definitions).names = d.names ++ [entry.1] := List.map_append
  constructor
  · rw [names]
    exact List.perm_append_comm.nodup_iff.mpr (List.nodup_cons.mpr ⟨absent, formed.distinct⟩)
  · intro name member
    rw [names, List.mem_append, List.mem_singleton] at member
    rcases member with old | rfl
    · exact formed.valid name old
    · exact valid

theorem put (formed : d.IsWellFormed) {name : Text} (valid : IsName name) (value : Text) :
    IsWellFormed ⟨put name value d.entries⟩ := by
  by_cases present : name ∈ d.names
  · have names : (⟨Definitions.put name value d.entries⟩ : Definitions).names = d.names :=
      (names_put value).trans (if_pos present)
    exact ⟨names ▸ formed.distinct, names ▸ formed.valid⟩
  · rw [put_absent value present]
    exact formed.append valid present

theorem putAll (formed : d.IsWellFormed) {pairs : List (Text × Text)}
    (valid : ∀ pair ∈ pairs, IsName pair.1) : IsWellFormed ⟨putAll d.entries pairs⟩ := by
  induction pairs generalizing d with
  | nil => exact formed
  | cons pair pairs step =>
    have next := formed.put (valid pair List.mem_cons_self) pair.2
    exact step next fun other member => valid other (List.mem_cons_of_mem _ member)

theorem lookup (formed : d.IsWellFormed) {entry : Text × Text} (member : entry ∈ d.entries) :
    d.get? entry.1 = some entry.2 := (lookup_eq_some formed.distinct).mpr member

end IsWellFormed

theorem putAll_collects {pairs : List (Text × Text)} (valid : ∀ pair ∈ pairs, IsName pair.1) :
    Collects ⟨putAll [] pairs⟩ pairs := by
  have start : ([] : List (Text × Text)).map Prod.fst = ([] : List Text).eraseDups := rfl
  have found (name : Text) : (⟨putAll [] pairs⟩ : Definitions).get? name = pairs.reverse.lookup name :=
    (lookup_putAll [] pairs name).trans (Option.or_none)
  constructor
  · exact names_putAll start
  · intro entry member
    rw [isLast_iff, ← found]
    exact (IsWellFormed.empty.putAll valid).lookup member
  · intro name value
    rw [isLast_iff, found]
  · intro name missing
    rw [found, List.lookup_eq_none_iff]
    intro pair member
    rw [bne_iff_ne]
    rintro rfl
    exact missing (List.mem_map_of_mem (List.mem_reverse.mp member))

section Target

variable {d : Definitions} {target : Target}

theorem implied_name (api : Api) : IsName (implied api).1 := by
  apply isName_iff.mp
  cases api <;> decide

theorem withTarget_present (present : (implied target.api).1 ∈ d.names) : d.withTarget target = d :=
  if_pos (contains_iff.mpr present)

theorem withTarget_absent (absent : (implied target.api).1 ∉ d.names) :
    d.withTarget target = ⟨d.entries ++ [implied target.api]⟩ :=
  if_neg fun present => absent (contains_iff.mp present)

theorem withTarget_implies (d : Definitions) (target : Target) : Implies target d (d.withTarget target) :=
  ⟨withTarget_present, fun absent => congrArg entries (withTarget_absent absent)⟩

theorem IsWellFormed.withTarget (formed : d.IsWellFormed) (target : Target) :
    (d.withTarget target).IsWellFormed := by
  by_cases present : (implied target.api).1 ∈ d.names
  · rwa [withTarget_present present]
  · rw [withTarget_absent present]
    exact formed.append (implied_name target.api) present

theorem withTarget_front (d : Definitions) (target : Target) : d.entries <+: (d.withTarget target).entries := by
  by_cases present : (implied target.api).1 ∈ d.names
  · exact ⟨[], by rw [withTarget_present present, List.append_nil]⟩
  · rw [withTarget_absent present]
    exact List.prefix_append _ _

theorem mem_withTarget {name : Text} :
    name ∈ (d.withTarget target).names ↔ name ∈ d.names ∨ name = (implied target.api).1 := by
  by_cases present : (implied target.api).1 ∈ d.names
  · rw [withTarget_present present, or_iff_left_of_imp]
    rintro rfl
    exact present
  · rw [withTarget_absent present]
    simp [names]

theorem get_withTarget {name value : Text} (given : d.get? name = some value) :
    (d.withTarget target).get? name = some value := by
  obtain ⟨more, parts⟩ := withTarget_front d target
  rw [get?, ← parts, List.lookup_append, ← get?, given]
  rfl

theorem withTarget_withTarget (d : Definitions) (target : Target) :
    (d.withTarget target).withTarget target = d.withTarget target :=
  withTarget_present (mem_withTarget.mpr (.inr rfl))

theorem withTarget_congr {other : Target} (same : target.api = other.api) (d : Definitions) :
    d.withTarget target = d.withTarget other := by
  rw [withTarget, withTarget, same]

theorem implied_apart {api other : Api} (apart : api ≠ other) : (implied api).1 ≠ (implied other).1 := by
  revert apart
  cases api <;> cases other <;> decide

theorem withTarget_comm (d : Definitions) (target other : Target) :
    ((d.withTarget target).withTarget other).entries.Perm ((d.withTarget other).withTarget target).entries := by
  by_cases same : target.api = other.api
  · rw [withTarget_congr same, withTarget_congr same]
  have apart := implied_apart same
  by_cases first : (implied target.api).1 ∈ d.names
  · rw [withTarget_present first, withTarget_present (mem_withTarget.mpr (.inl first))]
  by_cases second : (implied other.api).1 ∈ d.names
  · rw [withTarget_present second, withTarget_present (mem_withTarget.mpr (.inl second))]
  -- Neither name is defined, and defining one does not define the other.
  have first' : (implied target.api).1 ∉ (d.withTarget other).names := by
    simp [mem_withTarget, first, apart]
  have second' : (implied other.api).1 ∉ (d.withTarget target).names := by
    simp [mem_withTarget, second, apart.symm]
  rw [withTarget_absent first', withTarget_absent second', withTarget_absent first, withTarget_absent second,
    List.append_assoc, List.append_assoc]
  exact (List.Perm.swap _ _ _).append_left _

end Target

theorem Built.wellFormed {d : Definitions} (built : d.Built) : d.IsWellFormed := by
  -- Induction on the steps that lead to a set. An implied definition is added without the checks
  -- that a user's has to pass, and passes them.
  induction built with
  | empty => exact .empty
  | ofPairs made =>
    obtain ⟨valid, rfl⟩ := ofPairs_ok.mp made
    exact IsWellFormed.empty.putAll valid
  | @define d before name value formed =>
    rcases after_define d name value with ⟨valid, changed⟩ | ⟨_, same⟩
    · rw [changed]
      exact formed.put valid value
    · rwa [same]
  | withTarget before target formed => exact formed.withTarget target

-- Pairs are defined one after another: the first bad name ends it, and good ones are collected. What
-- one more definition does to a set shows in one entry.
theorem pairs_collected (pairs : List (Text × Text)) {d : Definitions} (built : d.Built) (name value : Text) :
    (∀ error, ofPairs pairs = .error error ↔ ∃ front bad back, pairs = front ++ bad :: back ∧
      (∀ pair ∈ front, IsName pair.1) ∧ ¬ IsName bad.1 ∧ error = .invalidDefinitionName bad.1) ∧
    ((∀ pair ∈ pairs, IsName pair.1) → ∃ made, ofPairs pairs = .ok made ∧ made.Collects pairs) ∧
    ofPairs (pairs ++ [(name, value)]) = (ofPairs pairs >>= fun made => made.define name value) ∧
    (IsName name → ∃ changed, d.define name value = .ok changed ∧
      d.after (d.define name value) = changed ∧ Puts name value d.entries changed.entries) ∧
    (¬ IsName name → d.define name value = .error (.invalidDefinitionName name) ∧
      d.after (d.define name value) = d) := by
  refine ⟨fun _ => ofPairs_error, fun valid => ?_, ofPairs_append pairs (name, value), fun valid => ?_,
    fun invalid => ?_⟩
  · exact ⟨_, ofPairs_valid valid, putAll_collects valid⟩
  · rw [define_valid value valid]
    exact ⟨_, rfl, rfl, put_puts value built.wellFormed.distinct⟩
  · rw [define_invalid value invalid]
    exact ⟨rfl, rfl⟩

theorem pairs_collected_repeated :
    let pairs := [("A".toList, "1".toList), ("B".toList, "2".toList), ("A".toList, "3".toList)]
    let d : Definitions := ⟨[("A".toList, "3".toList), ("B".toList, "2".toList)]⟩
    d.Built ∧ (∀ pair ∈ pairs, IsName pair.1) ∧ ofPairs pairs = .ok d ∧ d.Collects pairs ∧
      (∃ changed, d.define "B".toList [] = .ok changed ∧ Puts "B".toList [] d.entries changed.entries) ∧
      d.after (d.define "A B".toList "1".toList) = d := by
  intro pairs d
  have made : ofPairs pairs = .ok d := rfl
  have built : d.Built := .ofPairs made
  have valid : ∀ pair ∈ pairs, IsName pair.1 := (ofPairs_ok.mp made).1
  obtain ⟨_, collects, _, puts, _⟩ := pairs_collected pairs built "B".toList []
  obtain ⟨_, _, _, _, fails⟩ := pairs_collected pairs built "A B".toList "1".toList
  obtain ⟨changed, defined, _, one⟩ := puts (isName_iff.mp (by decide))
  have blank : ¬ IsName "A B".toList := fun valid => absurd (isName_iff.mpr valid) (by decide)
  obtain ⟨_, made', all⟩ := collects valid
  cases made.symm.trans made'
  exact ⟨built, valid, made, all, ⟨changed, defined, one⟩, (fails blank).2⟩

end ShaderConversion.Definitions
