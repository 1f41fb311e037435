import ShaderConversion.Glsl.Directive

namespace ShaderConversion.Glsl

def Unclosed (body : Text) : Prop := ¬ "*/".toList <:+: body ++ ['*']

-- What may stand before a directive: blanks, comments up to the end of their line, and
-- comments between marks.
inductive Leading : Text → Prop where
  | nil : Leading []
  | blank {c : Char} {rest : Text} (blank : isLeading c = true) (more : Leading rest) :
      Leading (c :: rest)
  | line {body rest : Text} (within : '\n' ∉ body) (more : Leading rest) :
      Leading ('/' :: '/' :: (body ++ '\n' :: rest))
  | block {body rest : Text} (unclosed : Unclosed body) (more : Leading rest) :
      Leading ('/' :: '*' :: (body ++ '*' :: '/' :: rest))

inductive IsBreak : Text → Prop where
  | stop : IsBreak []
  | feed (rest : Text) : IsBreak ('\n' :: rest)

def EndsLine (line after : Text) : Prop :=
  '\n' ∉ line ∧ (IsBreak after ∧ line.getLast? ≠ some '\r' ∨ ∃ rest, after = '\r' :: rest ∧ IsBreak rest)

structure Directive.IsIn (d : Directive) (source : Text) : Prop where
  parts : source = d.before ++ (d.line ++ d.after)
  leading : Leading d.before
  hash : d.line.head? = some '#'
  ends : EndsLine d.line d.after
  version : ∃ body, lineBody? d.line = some body ∧ d.version? = Version.ofDirective? body

theorem unclosed_nil : Unclosed [] := fun closed => absurd closed.length_le (by decide)

theorem unclosed_cons {c : Char} {body : Text} :
    Unclosed (c :: body) ↔ Unclosed body ∧ ¬ (c = '*' ∧ body.head? = some '/') := by
  have starts : "*/".toList <+: c :: (body ++ ['*']) ↔ c = '*' ∧ body.head? = some '/' := by
    cases body with
    | nil => simp
    | cons next body => simp [eq_comm]
  rw [Unclosed, List.cons_append, List.infix_cons_iff, not_or, starts, and_comm]
  rfl

theorem append_ne_cons {s t : Text} {c : Char} (apart : ∀ rest, s ≠ c :: rest) (other : t.head? ≠ some c)
    (rest : Text) : s ++ t ≠ c :: rest := by
  cases s with
  | nil =>
    rintro rfl
    exact other rfl
  | cons first s =>
    intro same
    cases (List.cons.inj same).1
    exact apart s rfl

theorem unclosed_early {c : Char} {body : Text} (apart : ¬ (c = '*' ∧ body.head? = some '/')) (rest tail : Text)
    (star : c = '*') : body ++ '*' :: '/' :: rest ≠ '/' :: tail := by
  refine append_ne_cons (fun behind slash => apart ⟨star, ?_⟩) (by simp) tail
  rw [slash, List.head?_cons]

theorem closeComment_complete {body : Text} (unclosed : Unclosed body) (passed rest : Text) :
    closeComment passed (body ++ '*' :: '/' :: rest) =
      some ('/' :: '*' :: (body.reverse ++ passed), rest) := by
  induction body generalizing passed with
  | nil => rfl
  | cons c body step =>
    obtain ⟨unclosed, apart⟩ := unclosed_cons.mp unclosed
    rw [List.cons_append, closeComment.eq_2 _ _ _ (unclosed_early apart rest), step unclosed]
    simp

theorem closeComment_sound {passed s : Text} {result : Text × Text}
    (closed : closeComment passed s = some result) :
    ∃ body, s = body ++ '*' :: '/' :: result.2 ∧ Unclosed body ∧
      result.1 = '/' :: '*' :: (body.reverse ++ passed) := by
  fun_induction closeComment passed s with
  | case1 passed rest =>
    cases closed
    exact ⟨[], rfl, unclosed_nil, rfl⟩
  | case2 passed c rest early step =>
    obtain ⟨body, parts, unclosed, front⟩ := step closed
    have apart : ¬ (c = '*' ∧ body.head? = some '/') := by
      rintro ⟨star, slash⟩
      cases body with
      | nil => simp at slash
      | cons next body =>
        cases Option.some.inj slash
        exact early _ star parts
    exact ⟨c :: body, by rw [parts, List.cons_append], unclosed_cons.mpr ⟨unclosed, apart⟩,
      by simp [front]⟩
  | case3 => cases closed

theorem cutLine_append {line after : Text} (within : '\n' ∉ line) (ends : IsBreak after) :
    cutLine (line ++ after) = (line, after) := by
  have inside := bne_of_not_mem within
  rw [cutLine, List.takeWhile_append_of_pos inside, List.dropWhile_append_of_pos inside]
  cases ends with
  | stop => simp
  | feed rest => simp

theorem not_mem_cutLine (s : Text) : '\n' ∉ (cutLine s).1 := by
  intro member
  have passes := List.all_eq_true.mp List.all_takeWhile _ member
  exact absurd passes (by decide)

theorem isBreak_cutLine (s : Text) : IsBreak (cutLine s).2 := by
  have first := List.head?_dropWhile_not (· != '\n') s
  rw [cutLine]
  cases parts : s.dropWhile (· != '\n') with
  | nil => exact .stop
  | cons c rest =>
    rw [parts, List.head?_cons] at first
    cases bne_eq_false_iff_eq.mp first
    exact .feed rest

theorem isLeading_hash : isLeading '#' = false := by decide

theorem reachHash_hash (passed rest : Text) :
    reachHash passed ('#' :: rest) = some (passed, '#' :: rest) := by
  rw [reachHash.eq_4 _ _ _ (by simp) (by simp), isLeading_hash]
  rfl

theorem reachHash_blank {c : Char} (blank : isLeading c = true) (passed rest : Text) :
    reachHash passed (c :: rest) = reachHash (c :: passed) rest := by
  have other : c ≠ '/' := by
    rintro rfl
    exact absurd blank (by decide)
  rw [reachHash.eq_4 _ _ _ (by simp [other]) (by simp [other]), if_pos blank]

theorem reachHash_line (passed rest : Text) :
    reachHash passed ('/' :: '/' :: rest) =
      reachHash ((cutLine rest).1.reverse ++ '/' :: '/' :: passed) (cutLine rest).2 := by
  rw [reachHash.eq_2]

theorem reachHash_append {before : Text} (leading : Leading before) (passed rest : Text) :
    reachHash passed (before ++ rest) = reachHash (before.reverse ++ passed) rest := by
  -- Induction on the grammar: each step of it is one step of the scan.
  induction leading generalizing passed with
  | nil => rfl
  | blank blank _ step =>
    rw [List.cons_append, reachHash_blank blank, step]
    simp
  | @line body more within _ step =>
    have cut := cutLine_append within (.feed (more ++ rest))
    have shape : '/' :: '/' :: (body ++ '\n' :: more) ++ rest =
        '/' :: '/' :: (body ++ '\n' :: (more ++ rest)) := by simp
    rw [shape, reachHash_line, cut, reachHash_blank (by decide), step]
    simp
  | @block body more unclosed _ step =>
    have closed := closeComment_complete unclosed ('*' :: '/' :: passed) (more ++ rest)
    have shape : '/' :: '*' :: (body ++ '*' :: '/' :: more) ++ rest =
        '/' :: '*' :: (body ++ '*' :: '/' :: (more ++ rest)) := by simp
    rw [shape, reachHash.eq_3]
    split
    · rename_i missing
      simp [closed] at missing
    · rename_i front behind found
      rw [closed] at found
      cases found
      rw [step]
      simp

theorem leading_feed {rest : Text} (leading : Leading ('\n' :: rest)) : Leading rest := by
  cases leading with
  | blank _ more => exact more

theorem reachHash_sound {passed s : Text} {result : Text × Text}
    (reached : reachHash passed s = some result) :
    ∃ before rest, Leading before ∧ s = before ++ '#' :: rest ∧
      result.1 = before.reverse ++ passed ∧ result.2 = '#' :: rest := by
  fun_induction reachHash passed s with
  | case1 => cases reached
  | case2 passed rest step =>
    obtain ⟨before, behind, leading, parts, front, back⟩ := step reached
    have ends := isBreak_cutLine rest
    have whole := cutLine_fst_append_snd rest
    rw [parts] at ends whole
    -- The comment ends in a line feed, since a hash stands somewhere behind it.
    cases before with
    | nil => cases ends
    | cons c before =>
      cases ends
      refine ⟨'/' :: '/' :: ((cutLine rest).1 ++ '\n' :: before), behind,
        .line (not_mem_cutLine rest) (leading_feed leading), ?_, ?_, back⟩
      · simpa using whole.symm
      · rw [front]
        simp
  | case3 => cases reached
  | case4 passed rest front rest' closed step =>
    obtain ⟨before, behind, leading, parts, reversed, back⟩ := step reached
    obtain ⟨body, whole, unclosed, passes⟩ := closeComment_sound closed
    dsimp only at whole passes
    refine ⟨'/' :: '*' :: (body ++ '*' :: '/' :: before), behind, .block unclosed leading, ?_, ?_, back⟩
    · rw [whole, parts]
      simp
    · rw [reversed, passes]
      simp
  | case5 passed c rest _ _ blank step =>
    obtain ⟨before, behind, leading, parts, front, back⟩ := step reached
    refine ⟨c :: before, behind, .blank blank leading, by rw [parts, List.cons_append], ?_, back⟩
    rw [front]
    simp
  | case6 passed rest =>
    cases reached
    exact ⟨[], rest, .nil, rfl, rfl, rfl⟩
  | case7 => cases reached

theorem dropReturn_return (line : Text) : dropReturn (line ++ ['\r']) = line := by
  simp [dropReturn]

theorem dropReturn_plain {line : Text} (plain : line.getLast? ≠ some '\r') :
    dropReturn line = line := if_neg plain

theorem endsLine_iff {line after : Text} :
    EndsLine line after ↔ dropReturn (cutLine (line ++ after)).1 = line := by
  constructor
  · rintro ⟨within, ⟨ends, plain⟩ | ⟨rest, rfl, ends⟩⟩
    · rw [cutLine_append within ends]
      exact dropReturn_plain plain
    · have within' : '\n' ∉ line ++ ['\r'] := by simp [within]
      have cut := cutLine_append within' ends
      rw [List.append_assoc, List.singleton_append] at cut
      rw [cut]
      exact dropReturn_return line
  · intro same
    have whole := cutLine_fst_append_snd (line ++ after)
    have within := not_mem_cutLine (line ++ after)
    have ends := isBreak_cutLine (line ++ after)
    generalize (cutLine (line ++ after)).1 = front at *
    by_cases returns : front.getLast? = some '\r'
    · rw [dropReturn, if_pos returns] at same
      obtain ⟨init, rfl⟩ := List.getLast?_eq_some_iff.mp returns
      rw [List.dropLast_concat] at same
      subst same
      rw [List.append_assoc] at whole
      refine ⟨fun member => within (List.mem_append_left _ member), .inr ⟨_, ?_, ends⟩⟩
      exact (List.append_cancel_left whole).symm
    · rw [dropReturn_plain returns] at same
      subst same
      rw [List.append_cancel_left whole] at ends
      exact ⟨within, .inl ⟨ends, returns⟩⟩

theorem cut_line (s : Text) :
    dropReturn (cutLine s).1 ++ s.drop (dropReturn (cutLine s).1).length = s := by
  have kept : dropReturn (cutLine s).1 <+: (cutLine s).1 := by
    rw [dropReturn]
    split
    · exact List.dropLast_prefix _
    · exact List.prefix_refl _
  have front : (cutLine s).1 <+: s := ⟨_, cutLine_fst_append_snd s⟩
  exact List.prefix_iff_eq_append.mp (kept.trans front)

theorem lineBody_nil : lineBody? [] = none := by decide

theorem head_of_body {line body : Text} (read : lineBody? line = some body) {c : Char}
    {rest after : Text} (parts : line ++ after = c :: rest) : line.head? = some c := by
  cases line with
  | nil => cases lineBody_nil.symm.trans read
  | cons first line => exact congrArg some (List.cons.inj parts).1

theorem find_line {before line after : Text} (leading : Leading before) (hash : line.head? = some '#')
    (ends : EndsLine line after) : Directive.find? (before ++ (line ++ after)) =
      (lineBody? line).map fun body => ⟨before, line, after, Version.ofDirective? body⟩ := by
  obtain ⟨rest, rfl⟩ := List.head?_eq_some_iff.mp hash
  have reached := reachHash_append leading [] ('#' :: (rest ++ after))
  have cut := endsLine_iff.mp ends
  rw [reachHash_hash, ← List.cons_append, List.append_nil] at reached
  rw [Directive.find?, reached, Option.bind_eq_bind, Option.bind_some]
  dsimp only
  rw [cut]
  cases lineBody? ('#' :: rest) with
  | none => rfl
  | some body => simp

-- The scan finds the directive of a source and nothing else.
theorem find_iff {source : Text} {d : Directive} :
    Directive.find? source = some d ↔ d.IsIn source := by
  constructor
  · intro found
    unfold Directive.find? at found
    obtain ⟨⟨passed, rest⟩, reached, found⟩ := Option.bind_eq_some_iff.mp found
    obtain ⟨body, read, found⟩ := Option.bind_eq_some_iff.mp found
    cases Option.some.inj found
    obtain ⟨before, behind, leading, parts, front, back⟩ := reachHash_sound reached
    dsimp only at front back read
    have cut := cut_line rest
    have back' := cut.trans back
    refine ⟨?_, ?_, head_of_body read back', endsLine_iff.mpr (by rw [cut]), body, read, rfl⟩
    · dsimp only
      rw [cut, parts, front, back]
      simp
    · dsimp only
      rw [front]
      simpa using leading
  · rintro ⟨parts, leading, hash, ends, body, read, version⟩
    rw [parts, find_line leading hash ends, read, Option.map_some, ← version]

end ShaderConversion.Glsl
