import ShaderConversion.Proofs.Converter.Accounting
import ShaderConversion.Proofs.Glsl.VersionLine

namespace ShaderConversion

structure Outcome.Asks (o : Outcome (Except ConversionError Spirv.Module)) (r : Request) : Prop where
  requests : o.requests = [r]
  answer : ∀ v, o.answer ≠ .error (.oldVersion v)

structure Outcome.Refuses (o : Outcome (Except ConversionError Spirv.Module)) (v : Glsl.Version) : Prop where
  requests : o.requests = []
  answer : o.answer = .error (.oldVersion v)

namespace Converter

variable {c : Converter} (stage : Stage) {data : List UInt8} (fileName? : Option Path)

theorem compileSource_asks (compilable : Job.IsCompilable ⟨.compile, stage, data, fileName?⟩ c.settings) :
    (c.compileSource true stage data fileName?).Asks (c.settings.request stage data fileName? .compile) := by
  obtain ⟨requests, result⟩ := compileGated_passed compilable c.compiler
  refine ⟨requests, fun v old => ?_⟩
  exact attempt_not_old c.compiler _ v (result.symm.trans old)

theorem compileSource_refuses (old : ¬ Job.IsCompilable ⟨.compile, stage, data, fileName?⟩ c.settings) :
    (c.compileSource true stage data fileName?).Refuses
      (c.settings.request stage data fileName? .compile).version.version := by
  obtain ⟨requests, result⟩ := compileGated_refused old c.compiler
  exact ⟨requests, result⟩

section Free

variable (free : c.settings.inputVersion? = none)

include free

theorem compileSource_unknown {d : Glsl.Directive} (found : Glsl.Directive.find? (Utf8.decode data) = some d)
    (unknown : d.version? = none) :
    (c.settings.request stage data fileName? .compile).version = ⟨.default, .default⟩ ∧
      (c.compileSource true stage data fileName?).Asks (c.settings.request stage data fileName? .compile) := by
  have undeclared : Glsl.declared? (Utf8.decode data) = none := by
    rw [Glsl.declared?, found]
    exact unknown
  obtain ⟨version, _⟩ := Settings.request_default stage fileName? .compile free undeclared
  exact ⟨version, compileSource_asks stage fileName? (.inr ⟨free, d, found, unknown⟩)⟩

theorem compileSource_missing (missing : Glsl.Directive.find? (Utf8.decode data) = none) :
    (c.compileSource true stage data fileName?).Refuses .default := by
  have undeclared : Glsl.declared? (Utf8.decode data) = none := by
    rw [Glsl.declared?, missing]
    rfl
  obtain ⟨version, _⟩ := Settings.request_default stage fileName? .compile free undeclared
  have old : ¬ Job.IsCompilable ⟨.compile, stage, data, fileName?⟩ c.settings := by
    rintro (recent | ⟨_, d, found, _⟩)
    · rw [Job.request, ← Settings.request, version] at recent
      exact absurd recent (by decide)
    · cases missing.symm.trans found
  have refuses := compileSource_refuses stage fileName? old
  rw [version] at refuses
  exact refuses

theorem compileSource_declared {d : Glsl.Directive} (found : Glsl.Directive.find? (Utf8.decode data) = some d)
    {v : Glsl.Version} (declares : d.version? = some v) :
    (c.settings.request stage data fileName? .compile).version = ⟨v, .directive⟩ ∧
      (v.number < 140 → (c.compileSource true stage data fileName?).Refuses v) := by
  have declared : Glsl.declared? (Utf8.decode data) = some v := by
    rw [Glsl.declared?, found]
    exact declares
  obtain ⟨version, _⟩ := Settings.request_declared stage fileName? .compile free declared
  refine ⟨version, fun early => ?_⟩
  have old : ¬ Job.IsCompilable ⟨.compile, stage, data, fileName?⟩ c.settings := by
    rintro (recent | ⟨_, d', found', unknown⟩)
    · rw [Job.request, ← Settings.request, version] at recent
      exact absurd recent (Nat.not_le.mpr early)
    · cases found.symm.trans found'
      cases declares.symm.trans unknown
  have refuses := compileSource_refuses stage fileName? old
  rw [version] at refuses
  exact refuses

end Free

-- A comment behind a directive that is understood makes it one that is not. The version of the source
-- is then the default one, and the check for old versions lets the source pass.
theorem remark_unsettles (free : c.settings.inputVersion? = none) {d : Glsl.Directive}
    (found : Glsl.Directive.find? (Utf8.decode data) = some d) {v : Glsl.Version} (declares : d.version? = some v)
    {remark : Text} (isRemark : Glsl.IsRemark remark) {data' : List UInt8}
    (remarked : Utf8.decode data' = d.remarked remark) :
    let r := c.settings.request stage data fileName? .compile
    let r' := c.settings.request stage data' fileName? .compile
    (∃ d', Glsl.Directive.find? (d.remarked remark) = some d' ∧ d'.version? = none ∧ d'.before = d.before) ∧
      r.version = ⟨v, .directive⟩ ∧ r'.version = ⟨⟨110, .none⟩, .default⟩ ∧
      (v.number < 140 → (c.compileSource true stage data fileName?).Refuses v) ∧
      (c.compileSource true stage data' fileName?).Asks r' := by
  obtain ⟨d', found', unknown, before⟩ := Glsl.find_remarked found isRemark
  obtain ⟨version, refuses⟩ := compileSource_declared stage fileName? free found declares
  obtain ⟨version', asks⟩ := compileSource_unknown stage fileName? free (remarked ▸ found') unknown
  exact ⟨⟨d', found', unknown, before⟩, version, version', refuses, asks⟩

theorem remark_unsettles_block :
    let source := " # version 130\r\nvoid main() {}".toList
    let d : Glsl.Directive := ⟨" ".toList, "# version 130".toList, "\r\nvoid main() {}".toList, some ⟨130, .none⟩⟩
    let remarked := " # version 130 /* old */\r\nvoid main() {}".toList
    let c := new .accepting
    Glsl.Directive.find? (Utf8.decode (Utf8.encode source)) = some d ∧ Glsl.IsRemark "/* old */".toList ∧
      d.remarked "/* old */".toList = remarked ∧
      (c.compileSource true .vertex (Utf8.encode source) none).Refuses ⟨130, .none⟩ ∧
      (c.compileSource true .vertex (Utf8.encode remarked) none).Asks
        (c.settings.request .vertex (Utf8.encode remarked) none .compile) := by
  intro source d remarked c
  have found : Glsl.Directive.find? (Utf8.decode (Utf8.encode source)) = some d := by
    rw [Utf8.decode_encode]
    refine Glsl.find_iff.mpr ⟨rfl, .blank (by decide) .nil, rfl, ⟨by decide, .inr ⟨_, rfl, .feed _⟩⟩, ?_⟩
    exact ⟨" 130".toList, by decide, by decide⟩
  have unclosed : Glsl.Unclosed " old ".toList := by
    unfold Glsl.Unclosed
    decide
  have isRemark : Glsl.IsRemark "/* old */".toList := .block (by decide) unclosed
  have text : Utf8.decode (Utf8.encode remarked) = d.remarked "/* old */".toList := Utf8.decode_encode remarked
  obtain ⟨_, _, _, refuses, asks⟩ :=
    remark_unsettles (c := c) .vertex none rfl found rfl isRemark text
  exact ⟨found, isRemark, rfl, refuses (by decide), asks⟩

theorem remark_unread :
    let source := "#version 130\nvoid main() {}\n".toList
    let d : Glsl.Directive := ⟨[], "#version 130".toList, "\nvoid main() {}\n".toList, some ⟨130, .none⟩⟩
    let remark := "// old".toList
    let d' : Glsl.Directive := ⟨[], "#version 130 // old".toList, "\nvoid main() {}\n".toList, none⟩
    let o := (new .accepting).compileSource true .vertex (Utf8.encode (d.remarked remark)) none
    Glsl.Directive.find? source = some d ∧ Glsl.IsRemark remark ∧
      Glsl.Directive.find? (d.remarked remark) = some d' ∧ o.requests.length = 1 ∧
      ∀ v, o.answer ≠ .error (.oldVersion v) := by
  intro source d remark d' o
  have found : Glsl.Directive.find? source = some d := by
    refine Glsl.find_iff.mpr ⟨rfl, .nil, rfl, ⟨by decide, .inl ⟨.feed _, by decide⟩⟩, ?_⟩
    exact ⟨" 130".toList, by decide, by decide⟩
  have remarked : Glsl.Directive.find? (d.remarked remark) = some d' := by
    refine Glsl.find_iff.mpr ⟨rfl, .nil, rfl, ⟨by decide, .inl ⟨.feed _, by decide⟩⟩, ?_⟩
    exact ⟨" 130 // old".toList, by decide, by decide⟩
  have text : Utf8.decode (Utf8.encode (d.remarked remark)) = d.remarked remark := Utf8.decode_encode _
  obtain ⟨_, asks⟩ := compileSource_unknown (c := new .accepting) .vertex none rfl (text.symm ▸ remarked) rfl
  exact ⟨found, .line (by decide), remarked, congrArg List.length asks.requests, asks.answer⟩

-- A version line without a body is no directive, and a source with one is in the default version. Any
-- other line that is not understood is left to the compiler.
theorem unknown_line_asks (free : c.settings.inputVersion? = none) {l : Glsl.Layout}
    (unknown : l.IsUnknown (Utf8.decode data)) :
    (l.body ≠ [] → (c.compileSource true stage data fileName?).Asks
      (c.settings.request stage data fileName? .compile)) ∧
      (l.body = [] → (c.compileSource true stage data fileName?).Refuses ⟨110, .none⟩) := by
  obtain ⟨missing, found⟩ := unknown.scan
  constructor
  · intro more
    obtain ⟨d, found, undeclared⟩ := found more
    exact (compileSource_unknown stage fileName? free found undeclared).2
  · intro bare
    exact compileSource_missing stage fileName? free (missing bare)

theorem unknown_line_asks_number :
    let source := "/**/ \t#\tversion 451 core\nvoid main() {}".toList
    let l : Glsl.Layout := ⟨"/**/ \t".toList, "\t".toList, " 451 core".toList, "\nvoid main() {}".toList⟩
    let c := new .accepting
    l.IsUnknown (Utf8.decode (Utf8.encode source)) ∧
      (c.compileSource true .vertex (Utf8.encode source) none).Asks
        (c.settings.request .vertex (Utf8.encode source) none .compile) := by
  intro source l c
  have leading : Glsl.Leading "/**/ \t".toList :=
    .block Glsl.unclosed_nil (.blank (by decide) (.blank (by decide) .nil))
  have unknown : l.IsUnknown (Utf8.decode (Utf8.encode source)) := by
    rw [Utf8.decode_encode]
    exact ⟨rfl, leading, ⟨by decide, .inl ⟨.feed _, by decide⟩⟩, List.all_eq_true.mp rfl, .inr ⟨⟨' ', rfl, rfl⟩, by decide⟩⟩
  exact ⟨unknown, (unknown_line_asks (c := c) .vertex none rfl unknown).1 (by decide)⟩

theorem bare_line_refused :
    let source := "#version\nvoid main() {}\n".toList
    let l : Glsl.Layout := ⟨[], [], [], "\nvoid main() {}\n".toList⟩
    l.IsUnknown source ∧
      ((new .accepting).compileSource true .vertex (Utf8.encode source) none).Refuses ⟨110, .none⟩ := by
  intro source l
  have unknown : l.IsUnknown source :=
    ⟨rfl, .nil, ⟨by decide, .inl ⟨.feed _, by decide⟩⟩, List.forall_mem_nil _, .inl rfl⟩
  have missing : Glsl.Directive.find? (Utf8.decode (Utf8.encode source)) = none := by
    rw [Utf8.decode_encode]
    exact unknown.scan.1 rfl
  exact ⟨unknown, compileSource_missing (c := new .accepting) .vertex none rfl missing⟩

end Converter

end ShaderConversion
