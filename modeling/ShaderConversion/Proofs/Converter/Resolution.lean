import ShaderConversion.FileStore
import ShaderConversion.Compiler.Scripted
import ShaderConversion.Proofs.Converter.Reachable
import ShaderConversion.Proofs.Glsl.Override
import ShaderConversion.Proofs.Text.Utf8

namespace ShaderConversion

-- A request whose parts agree about the version of its source. `forced?` is the version
-- that settings force and `data` what the source was read from.
structure Request.IsConsistent (r : Request) (forced? : Option Glsl.Version) (data : List UInt8) :
    Prop where
  stage : r.stage ≠ .unspecified
  override : r.version.origin = .override ↔ forced?.isSome = true
  declared : r.version.origin = .override ∨ r.version.origin = .directive →
    ∃ d, Glsl.Directive.find? r.source = some d ∧ d.version? = some r.version.version
  default : r.version.origin = .default →
    r.version.version = ⟨110, .none⟩ ∧ ∀ d, Glsl.Directive.find? r.source = some d → d.version? = none
  verbatim : forced? = none → r.source = Utf8.decode data

def Glsl.declared? (source : Text) : Option Glsl.Version :=
  (Glsl.Directive.find? source).bind fun d => d.version?

namespace Settings

def request (s : Settings) (stage : Stage) (data : List UInt8) (fileName? : Option Path)
    (mode : Mode) : Request := (s.resolve stage data fileName? mode).request

variable (s : Settings) (stage : Stage) (data : List UInt8) (fileName? : Option Path) (mode : Mode)

theorem request_stage : (s.request stage data fileName? mode).stage ≠ .unspecified :=
  Stage.resolve_concrete stage _

theorem request_version : (s.request stage data fileName? mode).version =
    Glsl.negotiate (Glsl.declared? (Utf8.decode data)) s.inputVersion? := rfl

theorem request_source : (s.request stage data fileName? mode).source =
    if (s.request stage data fileName? mode).version.origin = .override then
      Glsl.overridden (Utf8.decode data) (s.request stage data fileName? mode).version.version
    else Utf8.decode data := rfl

variable {s}

theorem request_forced {v : Glsl.Version} (forced : s.inputVersion? = some v) :
    (s.request stage data fileName? mode).version = ⟨v, .override⟩ ∧
      (s.request stage data fileName? mode).source = Glsl.overridden (Utf8.decode data) v := by
  have version : (s.request stage data fileName? mode).version = ⟨v, .override⟩ := by
    rw [request_version, forced]
    rfl
  rw [request_source, version]
  exact ⟨rfl, rfl⟩

variable {data}

theorem request_declared (free : s.inputVersion? = none) {v : Glsl.Version}
    (declared : Glsl.declared? (Utf8.decode data) = some v) :
    (s.request stage data fileName? mode).version = ⟨v, .directive⟩ ∧
      (s.request stage data fileName? mode).source = Utf8.decode data := by
  have version : (s.request stage data fileName? mode).version = ⟨v, .directive⟩ := by
    rw [request_version, free, declared]
    rfl
  rw [request_source, version]
  exact ⟨rfl, rfl⟩

theorem request_default (free : s.inputVersion? = none)
    (missing : Glsl.declared? (Utf8.decode data) = none) :
    (s.request stage data fileName? mode).version = ⟨.default, .default⟩ ∧
      (s.request stage data fileName? mode).source = Utf8.decode data := by
  have version : (s.request stage data fileName? mode).version = ⟨.default, .default⟩ := by
    rw [request_version, free, missing]
    rfl
  rw [request_source, version]
  exact ⟨rfl, rfl⟩

theorem IsSound.consistent (sound : s.IsSound) :
    (s.request stage data fileName? mode).IsConsistent s.inputVersion? data := by
  have concrete := request_stage s stage data fileName? mode
  cases forced : s.inputVersion? with
  | some v =>
    obtain ⟨version, source⟩ := request_forced stage data fileName? mode forced
    have found := (Glsl.forces_overridden (sound v forced) (Utf8.decode data)).found
    refine ⟨concrete, by simp [version], fun _ => ?_, fun default => ?_, fun free => ?_⟩
    · obtain ⟨d, scan, declares, _⟩ := found
      rw [source, version]
      exact ⟨d, scan, declares⟩
    · rw [version] at default
      cases default
    · cases free
  | none =>
    cases declared : Glsl.declared? (Utf8.decode data) with
    | some v =>
      obtain ⟨version, source⟩ := request_declared stage fileName? mode forced declared
      refine ⟨concrete, by simp [version], fun _ => ?_, fun default => ?_, fun _ => source⟩
      · obtain ⟨d, scan, declares⟩ := Option.bind_eq_some_iff.mp declared
        rw [source, version]
        exact ⟨d, scan, declares⟩
      · rw [version] at default
        cases default
    | none =>
      obtain ⟨version, source⟩ := request_default stage fileName? mode forced declared
      refine ⟨concrete, by simp [version], fun origin => ?_, fun _ => ⟨?_, ?_⟩, fun _ => source⟩
      · rw [version] at origin
        rcases origin with origin | origin <;> cases origin
      · rw [version]
        rfl
      · intro d scan
        rw [source] at scan
        exact Option.bind_eq_none_iff.mp declared d scan

end Settings

-- Every request that a converter makes agrees with itself about its version.
theorem Converter.request_consistent {c : Converter} (reached : c.Reachable) (stage : Stage)
    (data : List UInt8) (fileName? : Option Path) (mode : Mode) :
    (c.settings.resolve stage data fileName? mode).request.IsConsistent c.settings.inputVersion? data :=
  reached.sound.consistent stage fileName? mode

theorem Converter.request_consistent_repaired :
    let c := ((new .accepting).perform false FileStore.empty (.setInputFormat .glsl "310 es".toList)).1.converter
    let data : List UInt8 := [0x2F, 0x2F, 0xE9, 0x0A]
    c.Reachable ∧ c.settings.inputVersion? = some ⟨310, .es⟩ ∧
      (c.settings.resolve .unspecified data none .compile).request.IsConsistent
        (some ⟨310, .es⟩) data := by
  have reached := Reachable.call (.new .accepting) false FileStore.empty (.setInputFormat .glsl "310 es".toList)
  exact ⟨reached, rfl, request_consistent reached .unspecified [0x2F, 0x2F, 0xE9, 0x0A] none .compile⟩

namespace Settings

variable (s : Settings) (stage : Stage) (data : List UInt8) (fileName? : Option Path) (mode : Mode)

theorem request_of_text {data data' : List UInt8} (same : Utf8.decode data = Utf8.decode data') :
    s.request stage data fileName? mode = s.request stage data' fileName? mode := by
  simp only [request, resolve, same]

theorem request_congr {stage stage' : Stage} {data data' : List UInt8}
    (stages : Stage.resolve stage (fileName?.map Path.text) =
      Stage.resolve stage' (fileName?.map Path.text))
    (versions : (s.request stage data fileName? mode).version =
      (s.request stage' data' fileName? mode).version)
    (sources : (s.request stage data fileName? mode).source =
      (s.request stage' data' fileName? mode).source) :
    s.request stage data fileName? mode = s.request stage' data' fileName? mode := by
  have parts (stage : Stage) (data : List UInt8) : s.request stage data fileName? mode =
      ⟨Stage.resolve stage (fileName?.map Path.text), (s.request stage data fileName? mode).version,
        s.target, s.definitions.withTarget s.target, s.debugLevel, s.limits, mode,
        (s.request stage data fileName? mode).source, fileName?⟩ := rfl
  rw [parts stage data, parts stage' data', stages, versions, sources]

theorem request_stage_again : Stage.resolve (s.request stage data fileName? mode).stage
    (fileName?.map Path.text) = Stage.resolve stage (fileName?.map Path.text) :=
  if_neg (request_stage s stage data fileName? mode)

variable {s}

-- A forced version is written where it was written before. Without one the source is left as
-- it is, and says the same again.
theorem IsSound.request_again (sound : s.IsSound) :
    let r := s.request stage data fileName? mode
    s.request r.stage (Utf8.encode r.source) fileName? mode = r := by
  intro r
  have text : Utf8.decode (Utf8.encode r.source) = r.source := Utf8.decode_encode r.source
  cases forced : s.inputVersion? with
  | some v =>
    obtain ⟨version, source⟩ := request_forced stage data fileName? mode forced
    obtain ⟨version', source'⟩ := request_forced r.stage (Utf8.encode r.source) fileName? mode forced
    refine request_congr s fileName? mode (request_stage_again s stage data fileName? mode)
      (version'.trans version.symm) ?_
    rw [source', text, source]
    exact Glsl.overridden_overridden (sound v forced) (Utf8.decode data) v
  | none =>
    have source : r.source = Utf8.decode data := by
      cases declared : Glsl.declared? (Utf8.decode data) with
      | some v => exact (request_declared stage fileName? mode forced declared).2
      | none => exact (request_default stage fileName? mode forced declared).2
    have same : Utf8.decode (Utf8.encode r.source) = Utf8.decode data := text.trans source
    rw [request_of_text s r.stage fileName? mode same]
    exact request_congr s fileName? mode (request_stage_again s stage data fileName? mode) rfl rfl

end Settings

-- A request does not show how invalid bytes were spelled, and made into one again it is the same.
theorem Converter.request_stable {c : Converter} (reached : c.Reachable) (stage : Stage)
    (data : List UInt8) (fileName? : Option Path) (mode : Mode) :
    let r := (c.settings.resolve stage data fileName? mode).request
    (c.settings.resolve stage (Utf8.encode (Utf8.decode data)) fileName? mode).request = r ∧
      (c.settings.resolve r.stage (Utf8.encode r.source) fileName? mode).request = r :=
  ⟨Settings.request_of_text c.settings stage fileName? mode (Utf8.decode_encode _),
    reached.sound.request_again stage data fileName? mode⟩

theorem Converter.request_stable_repaired :
    let c := ((new .accepting).perform false FileStore.empty (.setInputFormat .glsl "310 es".toList)).1.converter
    let data : List UInt8 := [0x2F, 0x2F, 0xE9, 0x0A]
    let r := (c.settings.resolve .unspecified data none .compile).request
    c.Reachable ∧ r.version = ⟨⟨310, .es⟩, .override⟩ ∧
      (c.settings.resolve .unspecified (Utf8.encode (Utf8.decode data)) none .compile).request = r ∧
      (c.settings.resolve r.stage (Utf8.encode r.source) none .compile).request = r := by
  intro c data r
  have reached := Reachable.call (.new .accepting) false FileStore.empty (.setInputFormat .glsl "310 es".toList)
  have forced := Settings.request_forced (s := c.settings) (v := ⟨310, .es⟩) .unspecified data none
    .compile rfl
  exact ⟨reached, forced.1, request_stable reached .unspecified data none .compile⟩

end ShaderConversion
