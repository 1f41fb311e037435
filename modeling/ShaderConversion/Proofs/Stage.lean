import Mathlib.Data.List.Infix
import ShaderConversion.Stage

namespace ShaderConversion.Stage

inductive Bares (name : Text) : Text → Prop where
  | stripped {base : Text} (ends : name = base ++ ".glsl".toList) : Bares name base
  | plain (other : ∀ base, name ≠ base ++ ".glsl".toList) : Bares name name

def endings (stage : Stage) : List Text :=
  stage.keyword?.toList.flatMap fun keyword => ['.' :: keyword, '.' :: keyword ++ ".glsl".toList]

structure Detects (name : Text) : Prop where
  found : ∀ stage, ofFileName? name = some stage ↔ ∃ front keyword,
    Bares name (front ++ '.' :: keyword) ∧ '.' ∉ keyword ∧ stage.keyword? = some keyword
  single : ∀ stage stage', endsIn name stage = true → endsIn name stage' = true → stage = stage'
  unordered : ∀ (base : Text) (table : List Stage), Bares name base → table.Perm all →
    table.find? (endsIn base) = ofFileName? name
  rooted : ∀ directory, ofFileName? (directory ++ '/' :: name) = ofFileName? name
  cased : ∀ (stage : Stage), ∀ lower ∈ stage.endings, ∀ ending : Text,
    ending.map Char.toLower = lower → ending ≠ lower → ofFileName? (name ++ ending) = none

section Keywords

variable {stage stage' : Stage} {keyword ending ending' name : Text}

theorem keyword_plain (held : stage.keyword? = some keyword) : '.' ∉ keyword ∧
    ¬ '.' :: keyword <:+ ".glsl".toList ∧ ¬ ".glsl".toList <:+ '.' :: keyword := by
  cases stage <;> cases held <;> decide

theorem mem_endings : ending ∈ stage.endings ↔ ∃ keyword, stage.keyword? = some keyword ∧
    (ending = '.' :: keyword ∨ ending = '.' :: keyword ++ ".glsl".toList) := by
  unfold endings
  cases stage.keyword? <;> simp

theorem ending_plain (member : ending ∈ stage.endings) :
    '/' ∉ ending ∧ ending.map Char.toLower = ending := by
  cases stage <;> revert ending <;> decide

theorem endings_apart : ∀ stage ∈ all, ∀ stage' ∈ all, ∀ ending ∈ stage.endings,
    ∀ ending' ∈ stage'.endings, ending <:+ ending' → stage = stage' ∧ ending = ending' := by
  decide +kernel

theorem mem_all_of_ending (member : ending ∈ stage.endings) : stage ∈ all := by
  cases stage with
  | unspecified => cases member
  | _ => decide

-- No ending of a stage ends in another one, so that a name has at most one of them.
theorem ending_unique (member : ending ∈ stage.endings) (member' : ending' ∈ stage'.endings)
    (ends : ending <:+ name) (ends' : ending' <:+ name) : stage = stage' ∧ ending = ending' := by
  have known := mem_all_of_ending member
  have known' := mem_all_of_ending member'
  rcases Nat.le_total ending.length ending'.length with shorter | longer
  · exact endings_apart _ known _ known' _ member _ member'
      (List.suffix_of_suffix_length_le ends ends' shorter)
  · obtain ⟨same, equal⟩ := endings_apart _ known' _ known _ member' _ member
      (List.suffix_of_suffix_length_le ends' ends longer)
    exact ⟨same.symm, equal.symm⟩

end Keywords

section Names

variable {stage stage' : Stage} {name base : Text}

theorem dropTail_append (tail s : Text) : Text.dropTail tail (s ++ tail) = s := by
  unfold Text.dropTail
  rw [if_pos (List.isSuffixOf_iff_suffix.mpr (List.suffix_append s tail)), List.length_append,
    Nat.add_sub_cancel, List.take_left]

theorem bares_iff : Bares name base ↔ Text.dropTail ".glsl".toList name = base := by
  constructor
  · rintro (rfl | other)
    · exact dropTail_append _ _
    · refine if_neg fun ends => ?_
      obtain ⟨base, same⟩ := List.isSuffixOf_iff_suffix.mp ends
      exact other base same.symm
  · rintro rfl
    by_cases ends : ".glsl".toList <:+ name
    · obtain ⟨base, rfl⟩ := ends
      rw [dropTail_append]
      exact .stripped rfl
    · rw [Text.dropTail, if_neg (mt List.isSuffixOf_iff_suffix.mp ends)]
      exact .plain fun base same => ends ⟨base, same.symm⟩

theorem endsIn_iff : endsIn base stage = true ↔
    ∃ front keyword, base = front ++ '.' :: keyword ∧ stage.keyword? = some keyword := by
  unfold endsIn
  cases stage.keyword? with
  | none => simp
  | some keyword =>
    rw [List.isSuffixOf_iff_suffix]
    constructor
    · rintro ⟨front, rfl⟩
      exact ⟨front, keyword, rfl, rfl⟩
    · rintro ⟨front, _, rfl, held⟩
      cases held
      exact ⟨front, rfl⟩

theorem bares_endsIn (bares : Bares name base) :
    endsIn base stage = true ↔ ∃ ending ∈ stage.endings, ending <:+ name := by
  rw [endsIn_iff]
  constructor
  · rintro ⟨front, keyword, rfl, held⟩
    cases bares with
    | stripped ends =>
      refine ⟨_, mem_endings.mpr ⟨keyword, held, .inr rfl⟩, front, ?_⟩
      rw [ends, List.append_assoc]
    | plain other => exact ⟨_, mem_endings.mpr ⟨keyword, held, .inl rfl⟩, front, rfl⟩
  · rintro ⟨ending, member, ends⟩
    obtain ⟨keyword, held, rfl | rfl⟩ := mem_endings.mp member
    · cases bares with
      | stripped tail =>
        obtain ⟨_, inside, around⟩ := keyword_plain held
        rw [tail] at ends
        rcases List.suffix_or_suffix_of_suffix ends (List.suffix_append base _) with short | long
        · exact absurd short inside
        · exact absurd long around
      | plain other =>
        obtain ⟨front, rfl⟩ := ends
        exact ⟨front, keyword, rfl, held⟩
    · obtain ⟨front, rfl⟩ := ends
      rw [← List.append_assoc] at bares
      rw [bares_iff, dropTail_append] at bares
      exact ⟨front, keyword, bares.symm, held⟩

theorem endsIn_unique (ends : endsIn name stage = true) (ends' : endsIn name stage' = true) :
    stage = stage' := by
  obtain ⟨front, keyword, same, held⟩ := endsIn_iff.mp ends
  obtain ⟨front', keyword', same', held'⟩ := endsIn_iff.mp ends'
  have member := mem_endings.mpr ⟨keyword, held, .inl rfl⟩
  have member' := mem_endings.mpr ⟨keyword', held', .inl rfl⟩
  exact (ending_unique member member' ⟨front, same.symm⟩ ⟨front', same'.symm⟩).1

theorem find_endsIn {table : List Stage} :
    table.find? (endsIn base) = some stage ↔ stage ∈ table ∧ endsIn base stage = true := by
  constructor
  · intro found
    exact ⟨List.mem_of_find?_eq_some found, List.find?_some found⟩
  · rintro ⟨member, ends⟩
    cases found : table.find? (endsIn base) with
    | none => exact absurd ends (List.find?_eq_none.mp found stage member)
    | some first => rw [endsIn_unique (List.find?_some found) ends]

theorem ofFileName_iff : ofFileName? name = some stage ↔ ∃ ending ∈ stage.endings, ending <:+ name := by
  rw [ofFileName?, find_endsIn, bares_endsIn (bares_iff.mpr rfl)]
  exact and_iff_right_of_imp fun ⟨_, member, _⟩ => mem_all_of_ending member

end Names

section Detection

variable {name : Text}

theorem ofFileName_found {stage : Stage} : ofFileName? name = some stage ↔ ∃ front keyword,
    Bares name (front ++ '.' :: keyword) ∧ '.' ∉ keyword ∧ stage.keyword? = some keyword := by
  rw [ofFileName_iff, ← bares_endsIn (bares_iff.mpr rfl), endsIn_iff]
  simp only [bares_iff]
  constructor
  · rintro ⟨front, keyword, same, held⟩
    exact ⟨front, keyword, same, (keyword_plain held).1, held⟩
  · rintro ⟨front, keyword, same, _, held⟩
    exact ⟨front, keyword, same, held⟩

theorem find_perm {base : Text} {table : List Stage} (bares : Bares name base) (same : table.Perm all) :
    table.find? (endsIn base) = ofFileName? name := by
  cases bares_iff.mp bares
  ext stage
  rw [ofFileName?, find_endsIn, find_endsIn, same.mem_iff]

-- An ending has no slash, so that it lies behind the last one or is none.
theorem ofFileName_directory (directory : Text) :
    ofFileName? (directory ++ '/' :: name) = ofFileName? name := by
  ext stage
  rw [ofFileName_iff, ofFileName_iff]
  refine exists_congr fun ending => and_congr_right fun member => ?_
  constructor
  · intro ends
    have behind := List.suffix_append directory ('/' :: name)
    rcases List.suffix_or_suffix_of_suffix ends behind with inside | around
    · rcases List.suffix_cons_iff.mp inside with rfl | shorter
      · exact absurd List.mem_cons_self (ending_plain member).1
      · exact shorter
    · exact absurd (around.mem List.mem_cons_self) (ending_plain member).1
  · intro ends
    exact ends.trans ((List.suffix_cons '/' name).trans (List.suffix_append directory _))

theorem ofFileName_cased {stage : Stage} {lower ending : Text} (member : lower ∈ stage.endings)
    (folded : ending.map Char.toLower = lower) (other : ending ≠ lower) :
    ofFileName? (name ++ ending) = none := by
  refine Option.eq_none_iff_forall_ne_some.mpr fun stage' found => ?_
  obtain ⟨lower', member', ends'⟩ := ofFileName_iff.mp found
  have folds : lower <:+ (name ++ ending).map Char.toLower := by
    rw [List.map_append, folded]
    exact List.suffix_append _ _
  have folds' : lower' <:+ (name ++ ending).map Char.toLower := by
    have mapped := ends'.map Char.toLower
    rwa [(ending_plain member').2] at mapped
  obtain ⟨_, rfl⟩ := ending_unique member member' folds folds'
  have length : ending.length = lower.length := by rw [← folded, List.length_map]
  have ends := List.suffix_of_suffix_length_le (List.suffix_append name ending) ends' (Nat.le_of_eq length)
  exact other (ends.eq_of_length length)

end Detection

-- The stage of a file is told by the keyword behind the last dot of its name, and by nothing else.
-- A stage that is given goes before it, and a vertex shader comes last.
theorem detects (name : Text) : Detects name ∧ ∀ (explicit : Stage) (fileName? : Option Text),
    resolve explicit fileName? =
      (if explicit ≠ unspecified then explicit else (fileName?.bind ofFileName?).getD vertex) ∧
    resolve explicit fileName? ≠ unspecified := by
  refine ⟨⟨fun _ => ofFileName_found, fun _ _ => endsIn_unique, fun _ _ => find_perm, ofFileName_directory,
    fun _ _ member _ => ofFileName_cased member⟩, fun explicit fileName? => ⟨?_, resolve_concrete _ _⟩⟩
  unfold resolve detected?
  split <;> simp_all

theorem detects_cased : ofFileName? "a.Frag".toList = none ∧ ofFileName? "a.frag.GLSL".toList = none ∧
    ofFileName? "b.vert/a.frag.glsl".toList = ofFileName? "a.frag.glsl".toList := by
  refine ⟨?_, ?_, ?_⟩
  · exact (detects "a".toList).1.cased fragment ".frag".toList (by decide) ".Frag".toList (by decide)
      (by decide)
  · exact (detects "a".toList).1.cased fragment ".frag.glsl".toList (by decide) ".frag.GLSL".toList (by decide)
      (by decide)
  · exact (detects "a.frag.glsl".toList).1.rooted "b.vert".toList

end ShaderConversion.Stage
