import ShaderConversion.FileStore
import Mathlib.Data.List.Nodup
import ShaderConversion.Compiler.Scripted
import ShaderConversion.Proofs.Converter.Accounting
import ShaderConversion.Proofs.Definitions

namespace ShaderConversion

variable {F : Type} [FileAccess F]

structure Request.Carries (r : Request) (s : Settings) : Prop where
  target : r.target = s.target
  user : s.definitions.entries <+: r.definitions.entries
  implied : Definitions.Implies r.target s.definitions r.definitions
  once : r.definitions.names.count (Definitions.implied r.target.api).1 = 1

namespace Settings

theorem definitions_change {s s' : Settings} {call : Call} (built : s.definitions.Built)
    (changed : call.change s = .ok s') : s'.definitions.Built := by
  cases call with
  | setInputFormat format version =>
    obtain ⟨_, _, rfl⟩ := withInputFormat_ok changed
    exact built
  | setOutputFormat format target =>
    obtain ⟨_, _, rfl⟩ := withOutputFormat_ok changed
    exact built
  | setDefinitions pairs =>
    obtain ⟨_, made, rfl⟩ := withDefinitions_ok changed
    exact .ofPairs made
  | _ =>
    cases changed
    exact built

theorem definitions_preset {p : Converter.Preset} {s s' : Settings} (built : s.definitions.Built)
    (applied : p.apply s = .ok s') : s'.definitions.Built := by
  obtain ⟨_, _, _, _, rfl⟩ := preset_ok.mp applied
  exact built

end Settings

theorem Converter.Reachable.definitions {c : Converter} (reached : c.Reachable) :
    c.settings.definitions.Built :=
  reached.settings .empty Settings.definitions_change Settings.definitions_preset

theorem Settings.resolve_carries (s : Settings) (built : s.definitions.Built) (stage : Stage)
    (data : List UInt8) (fileName? : Option Path) (mode : Mode) :
    (s.resolve stage data fileName? mode).request.Carries s := by
  have formed := built.wellFormed.withTarget s.target
  refine ⟨rfl, Definitions.withTarget_front _ _, Definitions.withTarget_implies _ _, ?_⟩
  exact List.count_eq_one_of_mem formed.distinct (Definitions.mem_withTarget.mpr (.inr rfl))

theorem Converter.Reachable.requests_carry {c : Converter} (reached : c.Reachable) (live : Bool) (files : F)
    (call : Call) : ∀ r ∈ (c.perform live files call).1.requests, r.Carries c.settings := by
  have accounts := c.perform_accounts live files call
  by_cases passes : ∃ job, call.job? files = some job ∧ job.Passes c.settings live
  · obtain ⟨job, asked, passes⟩ := passes
    obtain ⟨requests, _⟩ := accounts.passed job asked passes
    rw [requests, List.forall_mem_singleton]
    exact c.settings.resolve_carries reached.definitions job.stage job.data job.fileName? job.mode
  · rw [accounts.refused fun job asked passed => passes ⟨job, asked, passed⟩]
    exact List.forall_mem_nil _

-- Sets stay well formed however they are made, a target adds at most one entry to them, and a
-- request has the definition of its target once.
theorem implied_definitions {d : Definitions} (built : d.Built) (target other : Target) {c : Converter}
    (reached : c.Reachable) :
    d.IsWellFormed ∧
    Definitions.implied .openGl = ("GL_SPIRV".toList, "100".toList) ∧
    Definitions.implied .vulkan = ("VULKAN".toList, "100".toList) ∧
    Definitions.Implies target d (d.withTarget target) ∧
    (∀ name value, d.get? name = some value → (d.withTarget target).get? name = some value) ∧
    (d.withTarget target).withTarget target = d.withTarget target ∧
    ((d.withTarget target).withTarget other).entries.Perm ((d.withTarget other).withTarget target).entries ∧
    (∀ stage data fileName? mode, (c.settings.resolve stage data fileName? mode).request.Carries c.settings) ∧
    (∀ live {F : Type} [FileAccess F] (files : F) call, ∀ r ∈ (c.perform live files call).1.requests,
      r.Carries c.settings) :=
  ⟨built.wellFormed, rfl, rfl, Definitions.withTarget_implies d target, fun _ _ => Definitions.get_withTarget,
    Definitions.withTarget_withTarget d target, Definitions.withTarget_comm d target other,
    c.settings.resolve_carries reached.definitions, fun live _ _ => reached.requests_carry live⟩

theorem implied_definitions_user :
    let d : Definitions := ⟨[("VULKAN".toList, "0".toList), ("X".toList, [])]⟩
    let openGl : Target := ⟨.openGl, ⟨4, 5⟩, ⟨1, 0⟩⟩
    let c := ((Converter.new .accepting).perform false FileStore.empty (.setDefinitions d.entries)).1.converter
    d.Built ∧ c.Reachable ∧ d.IsWellFormed ∧ (d.withTarget .default).get? "VULKAN".toList = some "0".toList ∧
      (d.withTarget openGl).entries = d.entries ++ [("GL_SPIRV".toList, "100".toList)] ∧
      (c.settings.resolve .fragment [] none .compile).request.Carries c.settings := by
  intro d openGl c
  have made : Definitions.ofPairs d.entries = .ok d := rfl
  have built : d.Built := .ofPairs made
  have reached : c.Reachable := .call (.new .accepting) false FileStore.empty (.setDefinitions d.entries)
  obtain ⟨formed, _, _, implies, _, _, _, carries, _⟩ := implied_definitions built openGl .default reached
  obtain ⟨_, _, _, _, wins, _⟩ := implied_definitions built .default openGl reached
  exact ⟨built, reached, formed, wins _ _ rfl, implies.absent (by decide), carries .fragment [] none .compile⟩

end ShaderConversion
