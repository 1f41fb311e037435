import Mathlib.Data.List.DropRight
import ShaderConversion.Proofs.Glsl.Override

namespace ShaderConversion.Glsl

-- Where a reader of a source is: in code, in a comment up to the end of its line, or in a comment
-- between marks.
inductive Place where
  | code
  | line
  | block
  deriving DecidableEq, Repr

namespace Place

def after : Place → Text → Place
  | .code, '/' :: '/' :: rest => after .line rest
  | .code, '/' :: '*' :: rest => after .block rest
  | .line, '\n' :: rest => after .code rest
  | .block, '*' :: '/' :: rest => after .code rest
  | place, _ :: rest => after place rest
  | place, [] => place

def marks : Place → Text → List Bool
  | .code, '/' :: '/' :: rest => true :: true :: marks .line rest
  | .code, '/' :: '*' :: rest => true :: true :: marks .block rest
  | .line, '\n' :: rest => false :: marks .code rest
  | .block, '*' :: '/' :: rest => true :: true :: marks .code rest
  | place, _ :: rest => (place != .code) :: marks place rest
  | _, [] => []

def byteMarks (place : Place) (s : Text) : List Bool :=
  (s.zipWith (fun c within => List.replicate c.utf8Size within) (place.marks s)).flatten

end Place

theorem length_marks (place : Place) (s : Text) : (place.marks s).length = s.length := by
  fun_induction Place.marks place s <;> simp_all

theorem read_append {t : Text} (slash : t.head? ≠ some '/') (star : t.head? ≠ some '*')
    (place : Place) (s : Text) :
    place.marks (s ++ t) = place.marks s ++ (place.after s).marks t ∧
      place.after (s ++ t) = (place.after s).after t := by
  -- Induction on the first text as it is read. The second one completes no mark, as it begins with
  -- neither character of one.
  fun_induction Place.after place s with
  | case1 rest step => simp [Place.marks, Place.after, step]
  | case2 rest step => simp [Place.marks, Place.after, step]
  | case3 rest step => simp [Place.marks, Place.after, step]
  | case4 rest step => simp [Place.marks, Place.after, step]
  | case5 place c rest line block feed close step =>
    have line' := fun tail code first => append_ne_cons (fun tail => line tail code first) slash tail
    have block' := fun tail code first => append_ne_cons (fun tail => block tail code first) star tail
    have close' := fun tail within first => append_ne_cons (fun tail => close tail within first) slash tail
    rw [List.cons_append, Place.marks.eq_5 _ _ _ line' block' feed close',
      Place.after.eq_5 _ _ _ line' block' feed close', Place.marks.eq_5 _ _ _ line block feed close,
      step.1, step.2]
    exact ⟨rfl, rfl⟩
  | case6 => simp [Place.marks]

theorem byteMarks_append {t : Text} (slash : t.head? ≠ some '/') (star : t.head? ≠ some '*')
    (place : Place) (s : Text) :
    place.byteMarks (s ++ t) = place.byteMarks s ++ (place.after s).byteMarks t := by
  have aligned : s.length = (place.marks s).length := (length_marks place s).symm
  simp only [Place.byteMarks]
  rw [(read_append slash star place s).1, List.zipWith_append aligned, List.flatten_append]

theorem length_zipWith_bytes {marks : List Bool} {s : Text} (aligned : marks.length = s.length) :
    (s.zipWith (fun c within => List.replicate c.utf8Size within) marks).flatten.length = Utf8.size s := by
  induction s generalizing marks with
  | nil => simp [Utf8.size]
  | cons c s step =>
    cases marks with
    | nil => cases aligned
    | cons within marks =>
      have rest := step (Nat.succ.inj aligned)
      simp only [List.zipWith_cons_cons, List.flatten_cons, List.length_append, List.length_replicate, rest]
      rfl

theorem length_byteMarks (place : Place) (s : Text) : (place.byteMarks s).length = Utf8.size s :=
  length_zipWith_bytes (length_marks place s)

theorem after_feed (place : Place) (s : Text) : place.after (s ++ ['\n']) = (place.after s).after ['\n'] :=
  (read_append (by simp) (by simp) place s).2

theorem byteMarks_feed (place : Place) (rest : Text) :
    place.byteMarks ('\n' :: rest) = (place == .block) :: (place.after ['\n']).byteMarks rest := by
  cases place <;> rfl

theorem after_line {body : Text} (within : '\n' ∉ body) (rest : Text) :
    Place.line.after (body ++ '\n' :: rest) = Place.code.after rest := by
  induction body with
  | nil => rfl
  | cons c body step =>
    obtain ⟨first, within⟩ := List.ne_and_not_mem_of_not_mem_cons within
    have on := Place.after.eq_5 .line c (body ++ '\n' :: rest) nofun nofun (fun _ feed => first feed.symm) nofun
    rw [List.cons_append, on, step within]

theorem after_block {body : Text} (unclosed : Unclosed body) (rest : Text) :
    Place.block.after (body ++ '*' :: '/' :: rest) = Place.code.after rest := by
  induction body with
  | nil => rfl
  | cons c body step =>
    obtain ⟨unclosed, apart⟩ := unclosed_cons.mp unclosed
    have early := fun tail (_ : Place.block = .block) => unclosed_early apart rest tail
    have on := Place.after.eq_5 .block c (body ++ '*' :: '/' :: rest) nofun nofun nofun early
    rw [List.cons_append, on, step unclosed]

theorem after_cons {c : Char} (other : c ≠ '/') (rest : Text) :
    Place.code.after (c :: rest) = Place.code.after rest :=
  Place.after.eq_5 _ _ _ (fun _ _ slash _ => other slash) (fun _ _ slash _ => other slash) nofun nofun

theorem after_plain {s : Text} (plain : '/' ∉ s) : Place.code.after s = .code := by
  induction s with
  | nil => rfl
  | cons c s step =>
    obtain ⟨first, plain⟩ := List.ne_and_not_mem_of_not_mem_cons plain
    rw [after_cons first.symm, step plain]

theorem after_leading {before : Text} (leading : Leading before) : Place.code.after before = .code := by
  induction leading with
  | nil => rfl
  | blank blank _ step =>
    rw [after_cons, step]
    rintro rfl
    exact absurd blank (by decide)
  | line within _ step => rw [Place.after, after_line within, step]
  | block unclosed _ step => rw [Place.after, after_block unclosed, step]

namespace Directive

def below (d : Directive) : Text := (cutLine d.after).2.tail

-- A comment that the line begins goes on below it.
def OpensComment (d : Directive) : Prop := Place.code.after (d.line ++ ['\n']) = .block

end Directive

def lastComments (count : Nat) (text : Text) : List Bool := (Place.code.byteMarks text).rtake count

theorem lastComments_feed (front rest : Text) :
    lastComments (Utf8.size rest) (front ++ '\n' :: rest) = (Place.code.after (front ++ ['\n'])).byteMarks rest := by
  have marks : Place.code.byteMarks (front ++ '\n' :: rest) =
      Place.code.byteMarks front ++ [Place.code.after front == .block] ++
        (Place.code.after (front ++ ['\n'])).byteMarks rest := by
    rw [byteMarks_append (by simp) (by simp), byteMarks_feed, after_feed, List.append_assoc]
    rfl
  rw [lastComments, List.rtake, marks, ← length_byteMarks, List.length_append, Nat.add_sub_cancel, List.drop_left]

theorem below_parts {d : Directive} (ends : EndsLine d.line d.after) :
    d.below = [] ∨ ∃ ending, (ending = [] ∨ ending = ['\r']) ∧ d.after = ending ++ '\n' :: d.below := by
  obtain ⟨before, line, after, version?⟩ := d
  rcases ends.2 with ⟨breaks, _⟩ | ⟨rest, returns, breaks⟩
  · dsimp only at breaks
    cases breaks with
    | stop => exact .inl rfl
    | feed rest => exact .inr ⟨[], .inl rfl, rfl⟩
  · dsimp only at returns
    subst returns
    cases breaks with
    | stop => exact .inl rfl
    | feed rest => exact .inr ⟨['\r'], .inr rfl, rfl⟩

theorem after_line_feed {d : Directive} {source ending : Text} (isIn : d.IsIn source)
    (ends : ending = [] ∨ ending = ['\r']) :
    Place.code.after (d.before ++ (d.line ++ ending) ++ ['\n']) = Place.code.after (d.line ++ ['\n']) := by
  obtain ⟨line, hash⟩ := List.head?_eq_some_iff.mp isIn.hash
  have front := (read_append (t := d.line ++ (ending ++ ['\n'])) (by simp [hash]) (by simp [hash]) .code d.before).2
  rw [List.append_assoc, List.append_assoc, front, after_leading isIn.leading]
  rcases ends with rfl | rfl
  · rfl
  · rw [after_feed, (read_append (by simp) (by simp) .code d.line).2]
    cases Place.code.after d.line <;> rfl

theorem lastComments_below {d : Directive} {source : Text} (isIn : d.IsIn source) :
    lastComments (Utf8.size d.below) source = (Place.code.after (d.line ++ ['\n'])).byteMarks d.below := by
  rcases below_parts isIn.ends with none | ⟨ending, ends, parts⟩
  · rw [none]
    exact List.rtake_zero _
  · have whole : source = d.before ++ (d.line ++ ending) ++ '\n' :: d.below := by
      rw [isIn.parts, parts]
      simp
    have last := lastComments_feed (d.before ++ (d.line ++ ending)) d.below
    rw [← whole, after_line_feed isIn ends] at last
    exact last

def BeginsComment (s : Text) : Prop := "//".toList <+: s ∨ "/*".toList <+: s

theorem head_byteMarks {place : Place} {s : Text} {within : Bool}
    (first : (place.marks s).head? = some within) : (place.byteMarks s).head? = some within := by
  obtain ⟨marks, parts⟩ := List.head?_eq_some_iff.mp first
  cases s with
  | nil => cases (length_marks place []).symm.trans (congrArg List.length parts)
  | cons c rest =>
    have bytes : c.utf8Size ≠ 0 := Nat.pos_iff_ne_zero.mp c.utf8Size_pos
    rw [Place.byteMarks, parts, List.zipWith_cons_cons, List.flatten_cons, List.head?_append,
      List.head?_replicate, if_neg bytes]
    rfl

theorem head_block {s : Text} (more : s ≠ []) : (Place.block.byteMarks s).head? = some true := by
  refine head_byteMarks ?_
  unfold Place.marks
  split
  · rfl
  · rfl
  · rename_i place
    cases place
  · rfl
  · rfl
  · exact absurd rfl more

theorem head_code {s : Text} (more : s ≠ []) (plain : ¬ BeginsComment s) :
    (Place.code.byteMarks s).head? = some false := by
  refine head_byteMarks ?_
  unfold Place.marks
  split
  · rename_i rest _
    exact absurd (.inl ⟨rest, rfl⟩) plain
  · rename_i rest _
    exact absurd (.inr ⟨rest, rfl⟩) plain
  · rfl
  · rename_i place
    cases place
  · rfl
  · exact absurd rfl more

theorem after_lineFor (v : Version) : Place.code.after (Directive.lineFor v ++ ['\n']) = .code := by
  refine after_plain fun member => ?_
  have profile : '/' ∉ Version.profileWord v.profile := by
    cases v.profile <;> decide
  rcases List.mem_append.mp member with line | feed
  · rcases List.mem_append.mp line with mark | version
    · exact absurd mark (by decide)
    · rcases List.mem_append.mp version with number | word
      · exact Text.not_mem_decimal (by decide) _ number
      · exact profile word
  · exact absurd feed (by decide)

theorem code_of_not_opens {d : Directive} (opens : ¬ d.OpensComment) :
    Place.code.after (d.line ++ ['\n']) = .code := by
  unfold Directive.OpensComment at opens
  rw [after_feed] at opens ⊢
  generalize Place.code.after d.line = place at *
  cases place with
  | code => rfl
  | line => rfl
  | block => exact absurd rfl opens

-- Below its line a source keeps what is a comment and what is code, unless the line that is replaced
-- opened a comment that was not closed on it. Then what the comment held is read as code.
theorem override_comments {source : Text} {d : Directive} (found : Directive.find? source = some d)
    {v : Version} (accepted : v.IsOverride) :
    let old := lastComments (Utf8.size d.below) source
    let new := lastComments (Utf8.size d.below) (overridden source v)
    (¬ d.OpensComment → new = old) ∧
      (d.OpensComment → old = Place.block.byteMarks d.below ∧ new = Place.code.byteMarks d.below ∧
        (d.below ≠ [] → ¬ BeginsComment d.below → old.head? = some true ∧ new.head? = some false)) := by
  intro old new
  have before : old = (Place.code.after (d.line ++ ['\n'])).byteMarks d.below :=
    lastComments_below (find_iff.mp found)
  have behind : new = (Place.code.after (Directive.lineFor v ++ ['\n'])).byteMarks d.below :=
    lastComments_below (find_iff.mp (find_replaced accepted found))
  rw [after_lineFor] at behind
  constructor
  · intro opens
    rw [before, behind, code_of_not_opens opens]
  · intro opens
    rw [before, behind, opens]
    exact ⟨rfl, rfl, fun more plain => ⟨head_block more, head_code more plain⟩⟩

theorem override_comments_line :
    let source := "#version 330 core // c\r\nvoid main(){}".toList
    let d : Directive := ⟨[], "#version 330 core // c".toList, "\r\nvoid main(){}".toList, none⟩
    Directive.find? source = some d ∧ Version.IsOverride ⟨450, .core⟩ ∧ ¬ d.OpensComment ∧
      lastComments (Utf8.size d.below) (overridden source ⟨450, .core⟩) =
        lastComments (Utf8.size d.below) source := by
  intro source d
  have found : Directive.find? source = some d := by
    refine find_iff.mpr ⟨rfl, .nil, rfl, ⟨by decide, .inr ⟨_, rfl, .feed _⟩⟩, ?_⟩
    exact ⟨" 330 core // c".toList, by decide, by decide⟩
  have accepted : Version.IsOverride ⟨450, .core⟩ := ⟨"450 core".toList, by decide⟩
  have closed : ¬ d.OpensComment := by
    unfold Directive.OpensComment
    decide
  exact ⟨found, accepted, closed, (override_comments found accepted).1 closed⟩

theorem override_uncomments :
    let source := "#version 330 core /* a\n b */ void main(){}".toList
    let d : Directive := ⟨[], "#version 330 core /* a".toList, "\n b */ void main(){}".toList, none⟩
    Directive.find? source = some d ∧ Version.IsOverride ⟨450, .core⟩ ∧
      lastComments (Utf8.size d.below) source = List.replicate 5 true ++ List.replicate 14 false ∧
      lastComments (Utf8.size d.below) (overridden source ⟨450, .core⟩) = List.replicate 19 false := by
  intro source d
  have found : Directive.find? source = some d := by
    refine find_iff.mpr ⟨rfl, .nil, rfl, ⟨by decide, .inl ⟨.feed _, by decide⟩⟩, ?_⟩
    exact ⟨" 330 core /* a".toList, by decide, by decide⟩
  refine ⟨found, ⟨"450 core".toList, by decide⟩, by decide, ?_⟩
  rw [overridden_some found]
  decide

end ShaderConversion.Glsl
