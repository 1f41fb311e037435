import Mathlib.Data.List.Basic
import ShaderConversion.Proofs.Glsl.Override

namespace ShaderConversion.Glsl

@[ext]
structure Layout where
  before : Text
  blanks : Text
  body : Text
  after : Text

namespace Layout

def line (l : Layout) : Text := '#' :: (l.blanks ++ ("version".toList ++ l.body))

structure IsOf (l : Layout) (source : Text) : Prop where
  parts : source = l.before ++ (l.line ++ l.after)
  leading : Leading l.before
  ends : EndsLine l.line l.after
  blanks : ∀ c ∈ l.blanks, Text.isBlank c = true
  separated : ∃ c, l.body.head? = some c ∧ Text.isAsciiBlank c = true

def directive (l : Layout) : Directive := ⟨l.before, l.line, l.after, Version.ofDirective? l.body⟩

end Layout

-- The text behind blanks and closed comments, where no version line can stand.
inductive Stuck : Text → Prop where
  | stop : Stuck []
  | line {body : Text} (within : '\n' ∉ body) : Stuck ('/' :: '/' :: body)
  | block {body : Text} (unclosed : ¬ "*/".toList <:+: body) : Stuck ('/' :: '*' :: body)
  | slash {rest : Text} (line : rest.head? ≠ some '/') (block : rest.head? ≠ some '*') :
      Stuck ('/' :: rest)
  | hash {rest : Text} (other : ∀ l : Layout, l.before = [] → ¬ l.IsOf ('#' :: rest)) :
      Stuck ('#' :: rest)
  | other {c : Char} {rest : Text} (visible : isLeading c = false) (slash : c ≠ '/') (hash : c ≠ '#') :
      Stuck (c :: rest)

theorem lineBody_iff {rest body : Text} : lineBody? ('#' :: rest) = some body ↔
    ∃ blanks, (∀ c ∈ blanks, Text.isBlank c = true) ∧ rest = blanks ++ ("version".toList ++ body) ∧
      ∃ c, body.head? = some c ∧ Text.isAsciiBlank c = true := by
  have plain : ∀ c, ("version".toList ++ body).head? = some c → Text.isBlank c = false := by
    rintro _ ⟨⟩
    decide
  have word := Text.trimStart_eq (s := rest) plain
  have front : "version".toList.isPrefixOf? (Text.trimStart rest) = some body ↔
      ∃ blanks, (∀ c ∈ blanks, Text.isBlank c = true) ∧ rest = blanks ++ ("version".toList ++ body) := by
    rw [List.isPrefixOf?_eq_some_iff_append_eq, eq_comm, word]
  unfold lineBody?
  rw [List.drop_one, List.tail_cons]
  constructor
  · intro read
    obtain ⟨found, behind, read⟩ := Option.bind_eq_some_iff.mp read
    obtain ⟨c, first, read⟩ := Option.bind_eq_some_iff.mp read
    split at read
    · rename_i separated
      cases Option.some.inj read
      obtain ⟨blanks, blank, parts⟩ := front.mp behind
      exact ⟨blanks, blank, parts, c, first, separated⟩
    · cases read
  · rintro ⟨blanks, blank, parts, c, first, separated⟩
    rw [front.mpr ⟨blanks, blank, parts⟩, Option.bind_eq_bind, Option.bind_some, first, Option.bind_eq_bind,
      Option.bind_some, if_pos separated]

theorem Layout.IsOf.body {l : Layout} {source : Text} (isOf : l.IsOf source) :
    lineBody? l.line = some l.body :=
  lineBody_iff.mpr ⟨l.blanks, isOf.blanks, rfl, isOf.separated⟩

theorem find_iff_layout {source : Text} {d : Directive} :
    Directive.find? source = some d ↔ ∃ l : Layout, l.IsOf source ∧ d = l.directive := by
  rw [find_iff]
  constructor
  · rintro ⟨parts, leading, hash, ends, body, read, version⟩
    obtain ⟨before, line, after, version?⟩ := d
    dsimp only at *
    obtain ⟨rest, rfl⟩ := List.head?_eq_some_iff.mp hash
    obtain ⟨blanks, blank, rfl, separated⟩ := lineBody_iff.mp read
    subst version
    exact ⟨⟨before, blanks, body, after⟩, ⟨parts, leading, ends, blank, separated⟩, rfl⟩
  · rintro ⟨l, isOf, rfl⟩
    exact ⟨isOf.parts, isOf.leading, rfl, isOf.ends, l.body, isOf.body, rfl⟩

-- The scan cannot find two lines, and it cannot read two bodies from one line.
theorem Layout.IsOf.unique {l l' : Layout} {source : Text} (isOf : l.IsOf source)
    (isOf' : l'.IsOf source) : l = l' := by
  have found := find_iff_layout.mpr ⟨l, isOf, rfl⟩
  have found' := find_iff_layout.mpr ⟨l', isOf', rfl⟩
  have same : l.directive = l'.directive := Option.some.inj (found.symm.trans found')
  have line : l.line = l'.line := congrArg Directive.line same
  have read := isOf.body
  rw [line, isOf'.body] at read
  have body : l'.body = l.body := Option.some.inj read
  have blanks : l.blanks = l'.blanks := by
    rw [Layout.line, Layout.line, body] at line
    exact List.append_cancel_right (List.cons.inj line).2
  exact Layout.ext (congrArg Directive.before same) blanks body.symm (congrArg Directive.after same)

theorem closeComment_none {passed s : Text} :
    closeComment passed s = none ↔ ¬ "*/".toList <:+: s := by
  constructor
  · intro missing
    fun_induction closeComment passed s with
    | case1 => cases missing
    | case2 passed c rest early step =>
      rw [List.infix_cons_iff]
      rintro (⟨tail, starts⟩ | inside)
      · obtain ⟨star, slash⟩ := List.cons.inj starts
        exact early tail star.symm slash.symm
      · exact step missing inside
    | case3 => exact fun inside => absurd inside.length_le (by decide)
  · intro unclosed
    cases closed : closeComment passed s with
    | none => rfl
    | some result =>
      obtain ⟨body, parts, _, _⟩ := closeComment_sound closed
      exact absurd ⟨body, result.2, by simp [parts]⟩ unclosed

theorem reachHash_none {passed s : Text} (missing : reachHash passed s = none) :
    ∃ before rest, Leading before ∧ s = before ++ rest ∧ Stuck rest := by
  fun_induction reachHash passed s with
  | case1 => exact ⟨[], [], .nil, rfl, .stop⟩
  | case2 passed rest step =>
    obtain ⟨before, behind, leading, parts, stuck⟩ := step missing
    have ends := isBreak_cutLine rest
    have whole := cutLine_fst_append_snd rest
    rw [parts] at ends whole
    -- The comment ends in a line feed, or the source ends in the comment.
    cases before with
    | nil =>
      cases stuck with
      | stop =>
        rw [List.append_nil, List.append_nil] at whole
        exact ⟨[], _, .nil, rfl, .line (whole ▸ not_mem_cutLine rest)⟩
      | other visible =>
        cases ends
        exact absurd visible (by decide)
      | _ => cases ends
    | cons c before =>
      cases ends
      refine ⟨'/' :: '/' :: ((cutLine rest).1 ++ '\n' :: before), behind,
        .line (not_mem_cutLine rest) (leading_feed leading), ?_, stuck⟩
      simpa using whole.symm
  | case3 passed rest closed => exact ⟨[], _, .nil, rfl, .block (closeComment_none.mp closed)⟩
  | case4 passed rest front rest' closed step =>
    obtain ⟨before, behind, leading, parts, stuck⟩ := step missing
    obtain ⟨body, whole, unclosed, _⟩ := closeComment_sound closed
    refine ⟨'/' :: '*' :: (body ++ '*' :: '/' :: before), behind, .block unclosed leading, ?_, stuck⟩
    simp [whole, parts]
  | case5 passed c rest _ _ blank step =>
    obtain ⟨before, behind, leading, parts, stuck⟩ := step missing
    exact ⟨c :: before, behind, .blank blank leading, by rw [parts, List.cons_append], stuck⟩
  | case6 => cases missing
  | case7 passed c rest line block visible hash =>
    refine ⟨[], c :: rest, .nil, rfl, ?_⟩
    by_cases slash : c = '/'
    · subst slash
      refine .slash (fun first => ?_) fun first => ?_
      · obtain ⟨tail, rfl⟩ := List.head?_eq_some_iff.mp first
        exact line tail rfl rfl
      · obtain ⟨tail, rfl⟩ := List.head?_eq_some_iff.mp first
        exact block tail rfl rfl
    · exact .other (Bool.eq_false_iff.mpr visible) slash hash

theorem reachHash_plain {c : Char} {rest : Text} (visible : isLeading c = false) (hash : c ≠ '#')
    (line : c = '/' → rest.head? ≠ some '/') (block : c = '/' → rest.head? ≠ some '*')
    (passed : Text) : reachHash passed (c :: rest) = none := by
  have apart : ∀ tail, c = '/' → rest = '/' :: tail → False := by
    rintro tail slash rfl
    exact line slash rfl
  have apart' : ∀ tail, c = '/' → rest = '*' :: tail → False := by
    rintro tail slash rfl
    exact block slash rfl
  rw [reachHash.eq_4 _ _ _ apart apart', visible, if_neg hash]
  rfl

theorem stuck_of_missing {source : Text} (missing : Directive.find? source = none) :
    ∃ before rest, Leading before ∧ source = before ++ rest ∧ Stuck rest := by
  cases reached : reachHash [] source with
  | none => exact reachHash_none reached
  | some result =>
    obtain ⟨before, behind, leading, parts, _, _⟩ := reachHash_sound reached
    refine ⟨before, '#' :: behind, leading, parts, .hash fun l front isOf => ?_⟩
    have whole := isOf.parts
    rw [front, List.nil_append] at whole
    have isIn : Directive.IsIn ⟨before, l.line, l.after, _⟩ source :=
      ⟨by rw [parts, whole], leading, rfl, isOf.ends, l.body, isOf.body, rfl⟩
    cases missing.symm.trans (find_iff.mpr isIn)

theorem missing_of_stuck {before rest : Text} (leading : Leading before) (stuck : Stuck rest) :
    Directive.find? (before ++ rest) = none := by
  rw [Directive.find?, reachHash_append leading]
  cases stuck with
  | stop => simp [reachHash]
  | @line body within =>
    have cut := cutLine_append within .stop
    rw [List.append_nil] at cut
    rw [reachHash_line, cut]
    simp [reachHash]
  | block unclosed =>
    rw [reachHash.eq_3]
    split
    · rfl
    · rename_i closed
      rw [closeComment_none.mpr unclosed] at closed
      cases closed
  | slash line block =>
    rw [reachHash_plain (by decide) (by decide) (fun _ => line) fun _ => block]
    rfl
  | @hash behind other =>
    have cut := cut_line ('#' :: behind)
    have ends := endsLine_iff.mpr (congrArg (fun s => dropReturn (cutLine s).1) cut)
    rw [reachHash_hash, Option.bind_eq_bind, Option.bind_some]
    dsimp only
    cases read : lineBody? (dropReturn (cutLine ('#' :: behind)).1) with
    | none => rfl
    | some body =>
      obtain ⟨line, same⟩ := List.head?_eq_some_iff.mp (head_of_body read cut)
      rw [same] at read cut ends
      obtain ⟨blanks, blank, parts, separated⟩ := lineBody_iff.mp read
      rw [parts] at cut ends
      exact absurd ⟨cut.symm, .nil, ends, blank, separated⟩ (other ⟨[], blanks, body, _⟩ rfl)
  | other visible slash hash =>
    rw [reachHash_plain visible hash (fun same => absurd same slash) fun same => absurd same slash]
    rfl

theorem directive_grammar (source : Text) :
    (∀ d, Directive.find? source = some d ↔ ∃ l : Layout, l.IsOf source ∧ d = l.directive) ∧
      (∀ l l' : Layout, l.IsOf source → l'.IsOf source → l = l') ∧
      (∀ l : Layout, l.IsOf source → l.directive.start = (Utf8.encode l.before).length ∧
        (Utf8.encode source).extract l.directive.start l.directive.stop = Utf8.encode l.line) ∧
      (Directive.find? source = none ↔
        ∃ before rest, Leading before ∧ source = before ++ rest ∧ Stuck rest) := by
  refine ⟨fun _ => find_iff_layout, fun _ _ isOf isOf' => isOf.unique isOf', ?_, stuck_of_missing, ?_⟩
  · intro l isOf
    have isIn := find_iff.mp (find_iff_layout.mpr ⟨l, isOf, rfl⟩)
    exact ⟨(Utf8.length_encode l.before).symm, isIn.extract⟩
  · rintro ⟨before, rest, leading, rfl, stuck⟩
    exact missing_of_stuck leading stuck

end ShaderConversion.Glsl
