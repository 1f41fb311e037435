import ShaderConversion.Proofs.Glsl.Grammar

namespace ShaderConversion.Glsl

inductive IsRemark : Text → Prop where
  | line {body : Text} (within : '\n' ∉ body) : IsRemark ('/' :: '/' :: body)
  | block {body : Text} (within : '\n' ∉ body) (unclosed : Unclosed body) :
      IsRemark ('/' :: '*' :: (body ++ ['*', '/']))

def Directive.remarked (d : Directive) (remark : Text) : Text :=
  d.before ++ (d.line ++ ' ' :: remark ++ d.after)

structure Layout.IsUnknown (l : Layout) (source : Text) : Prop where
  parts : source = l.before ++ (l.line ++ l.after)
  leading : Leading l.before
  ends : EndsLine l.line l.after
  blanks : ∀ c ∈ l.blanks, Text.isBlank c = true
  body : l.body = [] ∨
    (∃ c, l.body.head? = some c ∧ Text.isAsciiBlank c = true) ∧ Version.ofDirective? l.body = none

theorem words_plain {c : Char} (plain : Text.isBlank c = false) (s : Text) :
    ∃ word words, Text.words (c :: s) = (c :: word) :: words := by
  obtain ⟨word, words, parts⟩ := List.exists_cons_of_ne_nil (List.splitOnP_ne_nil Text.isBlank s)
  refine ⟨word, words.filter fun word => !word.isEmpty, ?_⟩
  rw [Text.words, List.splitOnP_cons_eq_if_modifyHead, if_neg (by simp [plain]), parts, List.modifyHead_cons]
  rfl

theorem build_slash (word : Text) (profile : Option Text) :
    Version.ofDirective?.build? ('/' :: word) profile = none := by
  rfl

theorem build_profile_slash (number word : Text) :
    Version.ofDirective?.build? number (some ('/' :: word)) = none := by
  have profile : ∀ number, Version.directiveProfile? number (some ('/' :: word)) = none := by
    intro number
    rw [Version.directiveProfile?, if_neg (by simp), if_neg (by simp), if_neg (by simp)]
  unfold Version.ofDirective?.build?
  simp [profile]

theorem ofDirective_slash (body rest : Text) : Version.ofDirective? (body ++ ' ' :: '/' :: rest) = none := by
  obtain ⟨word, words, parts⟩ := words_plain (c := '/') (by decide) rest
  have split := Text.words_append_blank Version.isBlank_space body ('/' :: rest)
  rw [parts] at split
  rw [Version.ofDirective?, split]
  rcases Text.words body with _ | ⟨number, _ | ⟨profile, _ | _⟩⟩
  · rcases words with _ | ⟨profile, _ | _⟩
    · exact build_slash word none
    · exact build_slash word (some profile)
    · rfl
  · cases words with
    | nil => exact build_profile_slash number word
    | cons => rfl
  · rfl
  · rfl

theorem lineBody_append {rest body : Text} (read : lineBody? ('#' :: rest) = some body) (more : Text) :
    lineBody? ('#' :: rest ++ more) = some (body ++ more) := by
  obtain ⟨blanks, blank, parts, c, first, separated⟩ := lineBody_iff.mp read
  refine lineBody_iff.mpr ⟨blanks, blank, ?_, c, ?_, separated⟩
  · simp [parts]
  · rw [List.head?_append, first]
    rfl

theorem lineBody_bare {blanks : Text} (blank : ∀ c ∈ blanks, Text.isBlank c = true) :
    lineBody? ('#' :: (blanks ++ "version".toList)) = none := by
  have plain : ∀ c, "version".toList.head? = some c → Text.isBlank c = false := by
    rintro _ ⟨⟩
    decide
  have word := (Text.trimStart_eq plain).mpr ⟨blanks, blank, rfl⟩
  rw [lineBody?, List.drop_one, List.tail_cons, word]
  rfl

theorem IsRemark.parts {remark : Text} (isRemark : IsRemark remark) :
    '\n' ∉ remark ∧ ∃ c more, remark = '/' :: c :: more := by
  cases isRemark with
  | line within => exact ⟨by simp [within], _, _, rfl⟩
  | block within _ => exact ⟨by simp [within], _, _, rfl⟩

-- A line with a comment behind it ends where the comment does, or before a carriage return at the end
-- of the comment.
theorem IsRemark.endsLine {remark line after : Text} (isRemark : IsRemark remark) (ends : EndsLine line after) :
    ∃ more after', EndsLine (line ++ ' ' :: '/' :: more) after' ∧
      line ++ ' ' :: remark ++ after = line ++ ' ' :: '/' :: more ++ after' := by
  obtain ⟨within, c, more, rfl⟩ := isRemark.parts
  have inside : '\n' ∉ line ++ ' ' :: '/' :: c :: more := by
    simpa [ends.1] using within
  rcases ends.2 with ⟨breaks, _⟩ | returns
  · by_cases last : (c :: more).getLast? = some '\r'
    · obtain ⟨front, same⟩ := List.getLast?_eq_some_iff.mp last
      rw [same] at inside ⊢
      refine ⟨front, '\r' :: after, ⟨?_, .inr ⟨after, rfl, breaks⟩⟩, by simp⟩
      intro member
      refine inside ?_
      rw [← List.cons_append, ← List.cons_append, ← List.append_assoc]
      exact List.mem_append_left _ member
    · refine ⟨c :: more, after, ⟨inside, .inl ⟨breaks, ?_⟩⟩, rfl⟩
      rw [List.getLast?_append_cons, List.getLast?_cons_cons, List.getLast?_cons_cons]
      exact last
  · exact ⟨c :: more, after, ⟨inside, .inr returns⟩, rfl⟩

-- With any comment behind its line a directive is still found, and no version is read from it.
theorem find_remarked {source : Text} {d : Directive} (found : Directive.find? source = some d)
    {remark : Text} (isRemark : IsRemark remark) :
    ∃ d', Directive.find? (d.remarked remark) = some d' ∧ d'.version? = none ∧ d'.before = d.before := by
  obtain ⟨parts, leading, hash, ends, body, read, version⟩ := find_iff.mp found
  obtain ⟨more, after, ends', same⟩ := isRemark.endsLine ends
  obtain ⟨rest, line⟩ := List.head?_eq_some_iff.mp hash
  rw [line] at read
  have read' := lineBody_append read (' ' :: '/' :: more)
  have hash' : (d.line ++ ' ' :: '/' :: more).head? = some '#' := by rw [line]; rfl
  have scan := find_line leading hash' ends'
  rw [← same, line, read', Option.map_some, ← line] at scan
  exact ⟨_, scan, ofDirective_slash body more, rfl⟩

theorem Layout.IsUnknown.scan {l : Layout} {source : Text} (unknown : l.IsUnknown source) :
    (l.body = [] → Directive.find? source = none) ∧
      (l.body ≠ [] → ∃ d, Directive.find? source = some d ∧ d.version? = none) := by
  have hash : l.line.head? = some '#' := rfl
  have scan := find_line unknown.leading hash unknown.ends
  rw [← unknown.parts] at scan
  constructor
  · intro bare
    have none : lineBody? l.line = none := by
      rw [Layout.line, bare, List.append_nil]
      exact lineBody_bare unknown.blanks
    rw [scan, none]
    rfl
  · intro some
    obtain ⟨separated, missing⟩ := unknown.body.resolve_left some
    have read : lineBody? l.line = .some l.body := lineBody_iff.mpr ⟨l.blanks, unknown.blanks, rfl, separated⟩
    rw [scan, read]
    exact ⟨_, rfl, missing⟩

end ShaderConversion.Glsl
