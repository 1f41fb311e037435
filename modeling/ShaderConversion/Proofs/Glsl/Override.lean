import ShaderConversion.Proofs.Glsl.Directive
import ShaderConversion.Proofs.Glsl.Version

namespace ShaderConversion.Glsl

def overridden (source : Text) (v : Version) : Text :=
  withVersion source (Directive.find? source) v

-- A text that declares a version in the place where a source has its directive, and
-- keeps every other byte. Without a directive all of the source is kept.
structure Forces (source : Text) (v : Version) (text : Text) : Prop where
  found : ∃ d, Directive.find? text = some d ∧ d.version? = some v ∧
    (Utf8.encode text).extract d.start d.stop = Utf8.encode ("#version ".toList ++ v.text) ∧
    d.start = ((Directive.find? source).map Directive.start).getD 0
  replaced : ∀ d, Directive.find? source = some d →
    Utf8.encode text = (Utf8.encode source).take d.start ++
      Utf8.encode ("#version ".toList ++ v.text) ++ (Utf8.encode source).drop d.stop
  added : Directive.find? source = none →
    text = "#version ".toList ++ v.text ++ "\n#line 1\n".toList ++ source

theorem Directive.IsIn.take_start {d : Directive} {source : Text} (isIn : d.IsIn source) :
    (Utf8.encode source).take d.start = Utf8.encode d.before := by
  rw [isIn.parts, Utf8.encode_append, Directive.start, ← Utf8.length_encode, List.take_left]

theorem Directive.IsIn.drop_start {d : Directive} {source : Text} (isIn : d.IsIn source) :
    (Utf8.encode source).drop d.start = Utf8.encode d.line ++ Utf8.encode d.after := by
  rw [isIn.parts, Utf8.encode_append, Directive.start, ← Utf8.length_encode, List.drop_left,
    Utf8.encode_append]

theorem Directive.IsIn.drop_stop {d : Directive} {source : Text} (isIn : d.IsIn source) :
    (Utf8.encode source).drop d.stop = Utf8.encode d.after := by
  rw [Directive.stop, ← List.drop_drop, isIn.drop_start, ← Utf8.length_encode, List.drop_left]

theorem Directive.IsIn.extract {d : Directive} {source : Text} (isIn : d.IsIn source) :
    (Utf8.encode source).extract d.start d.stop = Utf8.encode d.line := by
  rw [List.extract_eq_take_drop, isIn.drop_start, Directive.stop, Nat.add_sub_cancel_left,
    ← Utf8.length_encode, List.take_left]

def onlySpaces (s : Text) : Bool := s.all fun c => c == ' ' || !Text.isBlank c

theorem onlySpaces_append {s t : Text} (first : onlySpaces s = true) (second : onlySpaces t = true) :
    onlySpaces (s ++ t) = true :=
  List.all_append.trans (Bool.and_eq_true_iff.mpr ⟨first, second⟩)

theorem onlySpaces_lineFor (v : Version) : onlySpaces (Directive.lineFor v) = true := by
  have mark : onlySpaces "#version ".toList = true := by decide
  have number : onlySpaces (Text.decimal v.number) = true := by
    refine List.all_eq_true.mpr fun c digit => ?_
    rw [Text.isBlank_decimal digit, Bool.not_false, Bool.or_true]
  have profile : onlySpaces (Version.profileWord v.profile) = true := by
    cases v.profile <;> decide
  exact onlySpaces_append mark (onlySpaces_append number profile)

theorem not_mem_lineFor (v : Version) {c : Char} (blank : Text.isBlank c = true) (other : c ≠ ' ') :
    c ∉ Directive.lineFor v := by
  intro member
  have plain := List.all_eq_true.mp (onlySpaces_lineFor v) c member
  rw [blank, Bool.not_true, Bool.or_false, beq_iff_eq] at plain
  exact other plain

theorem endsLine_lineFor (v : Version) {line after : Text} (ends : EndsLine line after) :
    EndsLine (Directive.lineFor v) after := by
  refine ⟨not_mem_lineFor v (by decide) (by decide), ?_⟩
  rcases ends.2 with ⟨breaks, _⟩ | returns
  · refine .inl ⟨breaks, fun last => ?_⟩
    exact not_mem_lineFor v (by decide) (by decide) (List.mem_of_getLast? last)
  · exact .inr returns

theorem lineBody_lineFor (v : Version) : lineBody? (Directive.lineFor v) = some (' ' :: v.text) := by
  rfl

theorem isIn_lineFor {v : Version} (accepted : v.IsOverride) {before line after : Text}
    (leading : Leading before) (ends : EndsLine line after) :
    Directive.IsIn ⟨before, Directive.lineFor v, after, some v⟩
      (before ++ (Directive.lineFor v ++ after)) :=
  ⟨rfl, leading, rfl, endsLine_lineFor v ends, _, lineBody_lineFor v,
    (Version.ofDirective_text (Version.override_known accepted)).symm⟩

theorem overridden_some {source : Text} {d : Directive} (found : Directive.find? source = some d)
    (v : Version) : overridden source v = d.before ++ (Directive.lineFor v ++ d.after) := by
  rw [overridden, found, withVersion, List.append_assoc]

theorem overridden_none {source : Text} (missing : Directive.find? source = none) (v : Version) :
    overridden source v = Directive.lineFor v ++ ("\n#line 1\n".toList ++ source) := by
  rw [overridden, missing, withVersion, List.append_assoc]

theorem find_replaced {v : Version} (accepted : v.IsOverride) {source : Text} {d : Directive}
    (found : Directive.find? source = some d) :
    Directive.find? (overridden source v) = some ⟨d.before, Directive.lineFor v, d.after, some v⟩ := by
  have isIn := find_iff.mp found
  rw [overridden_some found]
  exact find_iff.mpr (isIn_lineFor accepted isIn.leading isIn.ends)

theorem find_lineFor {v : Version} (accepted : v.IsOverride) {after : Text} (breaks : IsBreak after) :
    Directive.find? (Directive.lineFor v ++ after) =
      some ⟨[], Directive.lineFor v, after, some v⟩ := by
  have ends : EndsLine [] after := ⟨List.not_mem_nil, .inl ⟨breaks, by simp⟩⟩
  exact find_iff.mpr (isIn_lineFor accepted .nil ends)

theorem find_added {v : Version} (accepted : v.IsOverride) {source : Text}
    (missing : Directive.find? source = none) :
    Directive.find? (overridden source v) =
      some ⟨[], Directive.lineFor v, "\n#line 1\n".toList ++ source, some v⟩ := by
  rw [overridden_none missing]
  exact find_lineFor accepted (.feed _)

theorem forces_overridden {v : Version} (accepted : v.IsOverride) (source : Text) :
    Forces source v (overridden source v) := by
  cases scan : Directive.find? source with
  | some d =>
    have isIn := find_iff.mp scan
    have again := find_replaced accepted scan
    refine ⟨⟨_, again, rfl, (find_iff.mp again).extract, by rw [scan]; rfl⟩, ?_, ?_⟩
    · intro d' found
      cases Option.some.inj (scan.symm.trans found)
      rw [isIn.take_start, isIn.drop_stop, overridden_some scan, Utf8.encode_append,
        Utf8.encode_append, List.append_assoc]
      rfl
    · intro missing
      cases scan.symm.trans missing
  | none =>
    have again := find_added accepted scan
    refine ⟨⟨_, again, rfl, (find_iff.mp again).extract, by rw [scan]; rfl⟩, ?_, ?_⟩
    · intro d found
      cases scan.symm.trans found
    · intro _
      rw [overridden_none scan, List.append_assoc]
      rfl

-- The second override finds the line of the first one and puts its own in that place.
theorem overridden_overridden {v : Version} (accepted : v.IsOverride) (source : Text) (w : Version) :
    overridden (overridden source v) w = overridden source w := by
  cases scan : Directive.find? source with
  | some d => rw [overridden_some (find_replaced accepted scan), overridden_some scan]
  | none => rw [overridden_some (find_added accepted scan), overridden_none scan, List.nil_append]

-- An override shows in the next scan, keeps everything else, and the last one wins.
theorem override_laws {v : Version} (accepted : v.IsOverride) (source : Text) :
    Forces source v (overridden source v) ∧
      ∀ w, overridden (overridden source v) w = overridden source w :=
  ⟨forces_overridden accepted source, overridden_overridden accepted source⟩

theorem override_laws_return :
    let source := "/* a **/\r#version 330 core\r\nvoid main(){}".toList
    Version.IsOverride ⟨450, .core⟩ ∧ Forces source ⟨450, .core⟩ (overridden source ⟨450, .core⟩) ∧
      overridden (overridden source ⟨450, .core⟩) ⟨310, .es⟩ = overridden source ⟨310, .es⟩ := by
  have accepted : Version.IsOverride ⟨450, .core⟩ := ⟨"450 core".toList, by decide⟩
  have laws := override_laws accepted "/* a **/\r#version 330 core\r\nvoid main(){}".toList
  exact ⟨accepted, laws.1, laws.2 ⟨310, .es⟩⟩

end ShaderConversion.Glsl
