import ShaderConversion.Proofs.Configuration.Entries
import ShaderConversion.Proofs.Except

namespace ShaderConversion

inductive Json.IsSetting : Json → Setting → Prop where
  | bool (value : Bool) : IsSetting (.bool value) (.bool value)
  | integer {value : Int} (least : -0x8000000000000000 ≤ value) (most : value < 0x8000000000000000) :
      IsSetting (.integer value) (.integer value)
  | text (value : Text) : IsSetting (.text value) (.text value)

def Json.HasSetting (value : Json) : Prop := ∃ setting, value.IsSetting setting

namespace Configuration

def flaw (key : Text) : Json → DocumentError
  | .integer _ | .fraction => .notInteger key
  | _ => .unsupportedValue key

-- What the members of an object come to. Of every key the last value counts, and of the keys
-- with one that is no setting the smallest is named.
inductive Loads (members : List (Text × Json)) : Except SetupError Configuration → Prop where
  | held {c : Configuration}
      (settings : ∀ key value, Kept members key value →
        ∃ setting, value.IsSetting setting ∧ c.get? key = some setting)
      (others : ∀ key, key ∉ members.map Prod.fst → c.get? key = none) :
      Loads members (.ok c)
  | refused {key : Text} {value : Json} (kept : Kept members key value) (unsuited : ¬ value.HasSetting)
      (smallest : ∀ key' value', Kept members key' value' → ¬ value'.HasSetting →
        Utf8.encode key ≤ Utf8.encode key')
      (named : ∃ complaint, (flaw key value).message = String.ofList key ++ complaint) :
      Loads members (.error (.malformedDocument (flaw key value)))

inductive Rewritten : List (Text × Json) → List (Text × Json) → Prop where
  | reordered {members members' : List (Text × Json)} (distinct : (members.map Prod.fst).Nodup)
      (same : members.Perm members') : Rewritten members members'
  | swapped (front back : List (Text × Json)) {first second : Text × Json}
      (apart : first.1 ≠ second.1) :
      Rewritten (front ++ first :: second :: back) (front ++ second :: first :: back)
  | overwritten (front : List (Text × Json)) {back : List (Text × Json)} {key : Text} (value : Json)
      (again : key ∈ back.map Prod.fst) : Rewritten (front ++ (key, value) :: back) (front ++ back)

section Settings

variable {key : Text} {value : Json}

theorem settingOf_integer (n : Int) : settingOf key (.integer n) =
    if -0x8000000000000000 ≤ n ∧ n < 0x8000000000000000 then .ok (.integer n)
    else .error (.notInteger key) := rfl

theorem settingOf_ok {setting : Setting} :
    settingOf key value = .ok setting ↔ value.IsSetting setting := by
  constructor
  · intro taken
    cases value with
    | bool b => cases taken; exact .bool b
    | text t => cases taken; exact .text t
    | integer n =>
      rw [settingOf_integer] at taken
      split at taken
      case isTrue bounds => cases taken; exact .integer bounds.1 bounds.2
      case isFalse => cases taken
    | null | fraction | list | object => cases taken
  · rintro (_ | ⟨least, most⟩ | _)
    · rfl
    · exact if_pos ⟨least, most⟩
    · rfl

theorem settingOf_flaw (unsuited : ¬ value.HasSetting) :
    settingOf key value = .error (flaw key value) := by
  cases value with
  | bool b => exact absurd ⟨_, .bool b⟩ unsuited
  | text t => exact absurd ⟨_, .text t⟩ unsuited
  | integer n => exact if_neg fun bounds => unsuited ⟨_, .integer bounds.1 bounds.2⟩
  | null | fraction | list | object => rfl

theorem flaw_names (key : Text) (value : Json) :
    ∃ complaint, (flaw key value).message = String.ofList key ++ complaint := by
  cases value <;> exact ⟨_, rfl⟩

theorem get_set (c : Configuration) (key : Text) (setting : Setting) (other : Text) :
    (c.set key setting).get? other = if other = key then some setting else c.get? other :=
  Entries.lookup_put setting other

end Settings

section Loading

variable {entries : List (Text × Json)}

theorem loadEntries_held (distinct : (entries.map Prod.fst).Nodup)
    (settings : ∀ entry ∈ entries, entry.2.HasSetting) (c : Configuration) (keys : List Text) :
    ∃ loaded, (loadEntries c keys entries).result = .ok loaded ∧
      (∀ entry ∈ entries, ∃ setting, entry.2.IsSetting setting ∧ loaded.get? entry.1 = some setting) ∧
      ∀ key ∉ entries.map Prod.fst, loaded.get? key = c.get? key := by
  -- Induction on the entries: none of them sets the key of an earlier one again.
  induction entries generalizing c keys with
  | nil => exact ⟨c, rfl, List.forall_mem_nil _, fun _ _ => rfl⟩
  | cons entry rest later =>
    obtain ⟨⟨setting, is⟩, others⟩ := List.forall_mem_cons.mp settings
    obtain ⟨apart, distinct⟩ := List.nodup_cons.mp distinct
    obtain ⟨loaded, runs, sets, keeps⟩ := later distinct others (c.set entry.1 setting) (entry.1 :: keys)
    refine ⟨loaded, ?_, List.forall_mem_cons.mpr ⟨⟨setting, is, ?_⟩, sets⟩, fun key absent => ?_⟩
    · rw [loadEntries, settingOf_ok.mpr is]
      exact runs
    · rw [keeps _ apart, get_set, if_pos rfl]
    · obtain ⟨other, absent⟩ := not_or.mp (mt List.mem_cons.mpr absent)
      rw [keeps _ absent, get_set, if_neg other]

theorem loadEntries_refused {front back : List (Text × Json)} {key : Text} {value : Json}
    (settings : ∀ entry ∈ front, entry.2.HasSetting) (unsuited : ¬ value.HasSetting)
    (c : Configuration) (keys : List Text) :
    (loadEntries c keys (front ++ (key, value) :: back)).result = .error (flaw key value) := by
  induction front generalizing c keys with
  | nil => rw [List.nil_append, loadEntries, settingOf_flaw unsuited]
  | cons entry front later =>
    obtain ⟨⟨setting, is⟩, others⟩ := List.forall_mem_cons.mp settings
    rw [List.cons_append, loadEntries, settingOf_ok.mpr is]
    exact later others _ _

theorem loads_members (members : List (Text × Json)) :
    Loads members ((loadEntries empty [] (Entries.ofMembers members)).result.mapError .malformedDocument) := by
  have sorted := Entries.sorted_ofMembers members
  rcases all_or_first (fun entry => entry.2.HasSetting) (Entries.ofMembers members) with
    settings | ⟨front, ⟨key, value⟩, back, parts, settings, unsuited⟩
  · obtain ⟨loaded, runs, sets, keeps⟩ := loadEntries_held sorted.distinct settings empty []
    rw [runs]
    exact .held (fun key value kept => sets _ (Entries.mem_ofMembers.mpr kept))
      fun key absent => keeps key (mt Entries.keys_ofMembers.mp absent)
  · rw [parts, loadEntries_refused settings unsuited]
    refine .refused (Entries.mem_ofMembers.mp ?_) unsuited (fun key' value' kept flawed => ?_)
      (flaw_names key value)
    · exact parts ▸ List.mem_append_right _ List.mem_cons_self
    · have member := Entries.mem_ofMembers.mpr kept
      rw [parts] at member sorted
      rcases List.mem_append.mp member with before | at_or_behind
      · exact absurd (settings _ before) flawed
      · rcases List.mem_cons.mp at_or_behind with same | behind
        · cases same
          exact List.le_refl _
        · have order := (List.pairwise_append.mp sorted).2.1
          exact List.le_of_lt ((List.pairwise_cons.mp order).1 _ behind)

theorem Loads.ok_iff {members : List (Text × Json)} {result : Except SetupError Configuration}
    (loads : Loads members result) :
    (∃ c, result = .ok c) ↔ ∀ key value, Kept members key value → value.HasSetting := by
  cases loads with
  | held settings others =>
    exact ⟨fun _ key value kept => (settings key value kept).imp fun _ held => held.1, fun _ => ⟨_, rfl⟩⟩
  | refused kept unsuited smallest named =>
    exact ⟨nofun, fun all => absurd (all _ _ kept) unsuited⟩

end Loading

theorem Rewritten.lookup {members members' : List (Text × Json)} (rewritten : Rewritten members members')
    (key : Text) : members.reverse.lookup key = members'.reverse.lookup key := by
  cases rewritten with
  | reordered distinct same =>
    have once : (members.reverse.map Prod.fst).Nodup := by
      rwa [List.map_reverse, List.nodup_reverse]
    have once' : (members'.reverse.map Prod.fst).Nodup := by
      rwa [List.map_reverse, List.nodup_reverse, ← (same.map Prod.fst).nodup_iff]
    ext value
    rw [lookup_eq_some once, lookup_eq_some once', List.mem_reverse, List.mem_reverse, same.mem_iff]
  | swapped front back apart =>
    simp only [List.reverse_append, List.reverse_cons, List.append_assoc, List.lookup_append,
      List.cons_append, List.nil_append, lookup_entry]
    congr 1
    split <;> split <;> simp_all
  | @overwritten front back key' value again =>
    rw [List.reverse_append, List.reverse_append, List.reverse_cons, List.lookup_append,
      List.lookup_append, List.lookup_append, lookup_entry, Option.or_assoc]
    cases found : back.reverse.lookup key with
    | some later => rfl
    | none =>
      have other : key ≠ key' := by
        rintro rfl
        exact lookup_reverse_none.mp found again
      rw [if_neg other]
      rfl

-- Whatever reads a document, an object of it comes to what its members do, no matter how they
-- are ordered or what they overwrite, and settings that are made later come on top of it.
theorem ofDocumentWith_correct (read : Text → Except Json.Fault Json) (document : Text) :
    (∀ members, read document = .ok (.object members) →
      Loads members (ofDocumentWith read document) ∧
      ((∃ c, ofDocumentWith read document = .ok c) ↔
        ∀ key value, Kept members key value → value.HasSetting) ∧
      ∀ document' members', read document' = .ok (.object members') → Rewritten members members' →
        ofDocumentWith read document' = ofDocumentWith read document) ∧
    (∀ value, read document = .ok value → (∀ members, value ≠ .object members) →
      ofDocumentWith read document = .error (.malformedDocument .notObject)) ∧
    (∀ fault, read document = .error fault →
      ofDocumentWith read document = .error (.malformedDocument (.unreadable fault))) ∧
    ∀ c, ofDocumentWith read document = .ok c → ∀ (sets : List (Text × Setting)) (key : Text),
      (∀ setting, Kept sets key setting →
        (sets.foldl (fun c set => c.set set.1 set.2) c).get? key = some setting) ∧
      (key ∉ sets.map Prod.fst →
        (sets.foldl (fun c set => c.set set.1 set.2) c).get? key = c.get? key) := by
  have object {document : Text} {members : List (Text × Json)}
      (reads : read document = .ok (.object members)) :
      ofDocumentWith read document =
        (loadEntries empty [] (Entries.ofMembers members)).result.mapError .malformedDocument := by
    rw [ofDocumentWith, loadWith, reads]
  refine ⟨fun members reads => ?_, fun value reads other => ?_, fun fault reads => ?_, fun c _ sets key => ?_⟩
  · have loads := loads_members members
    rw [← object reads] at loads
    refine ⟨loads, loads.ok_iff, fun document' members' reads' rewritten => ?_⟩
    rw [object reads, object reads', Entries.ofMembers_congr rewritten.lookup]
  · rw [ofDocumentWith, loadWith, reads]
    cases value with
    | object members => exact absurd rfl (other members)
    | null | bool | integer | fraction | text | list => rfl
  · rw [ofDocumentWith, loadWith, reads]
    rfl
  · have found := get_writes get? set get_set c sets key
    refine ⟨fun setting kept => ?_, fun absent => ?_⟩
    · rw [found, lookup_reverse.mpr kept]
      rfl
    · rw [found, lookup_reverse_none.mpr absent]
      rfl

theorem read_overwritten :
    Json.read "\x7b\"a\":null,\"a\":true\x7d".toList =
      .ok (.object [("a".toList, .null), ("a".toList, .bool true)]) ∧
    Json.read "\x7b\"a\":true\x7d".toList = .ok (.object [("a".toList, .bool true)]) := by
  have key (rest : Text) : Json.textOnto [] ('a' :: '"' :: rest) = .ok (['a'], rest) := by
    simp [Json.textOnto]
  have last (bound : Nat) (done : List (Text × Json)) :
      Json.members (Json.value 127) (bound + 1) done ('a' :: '"' :: ":true\x7d".toList) =
        .ok (.object (("a".toList, .bool true) :: done).reverse, []) := by
    rw [Json.members, Json.member, key]
    rfl
  have first (bound : Nat) (rest : Text) :
      Json.members (Json.value 127) (bound + 1) [] ('a' :: '"' :: ":null,\"".toList ++ rest) =
        Json.members (Json.value 127) bound [("a".toList, .null)] rest := by
    rw [Json.members, Json.member, List.cons_append, List.cons_append, key]
    rfl
  constructor
  · have opened : Json.value Json.depthLimit "\x7b\"a\":null,\"a\":true\x7d".toList =
        Json.members (Json.value 127) 18 [] ('a' :: '"' :: ":null,\"".toList ++
          'a' :: '"' :: ":true\x7d".toList) := rfl
    rw [Json.read, opened, first, last]
    rfl
  · have opened : Json.value Json.depthLimit "\x7b\"a\":true\x7d".toList =
        Json.members (Json.value 127) 9 [] ('a' :: '"' :: ":true\x7d".toList) := rfl
    rw [Json.read, opened, last]
    rfl

theorem ofDocument_overwritten :
    ofDocument "\x7b\"a\":null,\"a\":true\x7d".toList = ofDocument "\x7b\"a\":true\x7d".toList ∧
    (∃ c, ofDocument "\x7b\"a\":true\x7d".toList = .ok c ∧
      ((c.set "a".toList (.integer 1)).set "a".toList (.text [])).get? "a".toList = some (.text [])) ∧
    ofDocument "[1]".toList = .error (.malformedDocument .notObject) := by
  obtain ⟨twice, once⟩ := read_overwritten
  have list : Json.read "[1]".toList = .ok (.list [.integer 1]) := rfl
  have loaded : ofDocument "\x7b\"a\":true\x7d".toList = .ok ⟨[("a".toList, .bool true)]⟩ := by
    rw [ofDocument, ofDocumentWith, loadWith, once]
    rfl
  refine ⟨?_, ⟨_, loaded, ?_⟩, ?_⟩
  · have rewritten := Rewritten.overwritten [] .null
      (show "a".toList ∈ [("a".toList, Json.bool true)].map Prod.fst from List.mem_cons_self)
    exact (((ofDocumentWith_correct Json.read _).1 _ twice).2.2 _ _ once rewritten).symm
  · have later := (ofDocumentWith_correct Json.read _).2.2.2 _ loaded
      [("a".toList, .integer 1), ("a".toList, .text [])] "a".toList
    exact later.1 _ ⟨[("a".toList, .integer 1)], [], rfl, List.not_mem_nil⟩
  · exact (ofDocumentWith_correct Json.read _).2.1 _ list nofun

end Configuration

end ShaderConversion
