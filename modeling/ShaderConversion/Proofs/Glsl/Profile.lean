import ShaderConversion.Glsl.Version
import ShaderConversion.Proofs.Text.Numeral

namespace ShaderConversion.Glsl.Version

def plainNumbers : List Nat := [110, 120, 130, 140]
def profiledNumbers : List Nat := [150, 330, 400, 410, 420, 430, 440, 450, 460]
def embeddedNumbers : List Nat := [100, 300, 310, 320]

inductive Asks : Nat → Option Text → Profile → Prop where
  | plain {number : Nat} (listed : number ∈ plainNumbers) : Asks number none .none
  | compatibility {number : Nat} (listed : number ∈ profiledNumbers) : Asks number none .compatibility
  | core {number : Nat} (listed : number ∈ profiledNumbers) : Asks number (some "core".toList) .core
  | embedded {number : Nat} (listed : number ∈ embeddedNumbers) : Asks number (some "es".toList) .es

inductive IsToken : Text → Version → Prop where
  | bare {number : Nat} {profile : Profile} (asks : Asks number none profile) :
      IsToken (Text.decimal number) ⟨number, profile⟩
  | worded {number : Nat} {word : Text} {profile : Profile} (asks : Asks number (some word) profile) :
      IsToken (Text.decimal number ++ ' ' :: word) ⟨number, profile⟩

-- The profile of a number with the word behind it, where a source declares its version.
inductive Declares : Nat → Option Text → Profile → Prop where
  | plain {number : Nat} (listed : number ∈ plainNumbers) : Declares number none .none
  | profiled {number : Nat} (listed : number ∈ profiledNumbers) : Declares number none .core
  | first : Declares 100 none .es
  | core {number : Nat} (listed : number ∈ profiledNumbers) : Declares number (some "core".toList) .core
  | compatibility {number : Nat} (listed : number ∈ profiledNumbers) :
      Declares number (some "compatibility".toList) .compatibility
  | embedded {number : Nat} (listed : number ∈ embeddedNumbers) : Declares number (some "es".toList) .es

theorem plain_iff {number : Nat} : number ∈ plainNumbers ↔ isDesktop number = true ∧ number < 150 := by
  simp only [isDesktop, List.contains_iff_mem, plainNumbers, List.mem_cons, List.not_mem_nil, or_false]
  omega

theorem profiled_iff {number : Nat} : number ∈ profiledNumbers ↔ isDesktop number = true ∧ 150 ≤ number := by
  simp only [isDesktop, List.contains_iff_mem, profiledNumbers, List.mem_cons, List.not_mem_nil, or_false]
  omega

theorem embedded_iff {number : Nat} : number ∈ embeddedNumbers ↔ isEmbedded number = true :=
  List.contains_iff_mem.symm

theorem ne_first {number : Nat} (desktop : isDesktop number = true) : number ≠ 100 := by
  rintro rfl
  cases desktop

structure IsSpelled (number : Nat) : Prop where
  below : number < UInt16.size
  three : (Text.decimal number).length = 3
  unmarked : ∀ c, (Text.decimal number).head? = some c → c ≠ '+' ∧ c ≠ '0'

theorem spelled_of_lt {number : Nat} (low : 100 ≤ number) (high : number < 1000) : IsSpelled number where
  below := Nat.lt_trans high (by decide)
  three := by
    have most : (Text.decimal number).length ≤ 3 := (Nat.length_toDigits_le_iff (by decide) (by decide)).mpr high
    have least : ¬ (Text.decimal number).length ≤ 2 := by
      intro short
      exact Nat.not_lt.mpr low ((Nat.length_toDigits_le_iff (by decide) (by decide)).mp short)
    omega
  unmarked := by
    rintro c first
    constructor
    · rintro rfl
      exact Text.not_mem_decimal (by decide) number (List.mem_of_mem_head? first)
    · rintro rfl
      exact Text.head_decimal (Nat.lt_of_lt_of_le (by decide) low) first

theorem spelled {number : Nat} (listed : number ∈ plainNumbers ++ profiledNumbers ++ embeddedNumbers) :
    IsSpelled number := by
  simp only [plainNumbers, profiledNumbers, embeddedNumbers, List.cons_append, List.nil_append, List.mem_cons,
    List.not_mem_nil, or_false] at listed
  exact spelled_of_lt (by omega) (by omega)

theorem asks_iff {number : Nat} {word : Option Text} {profile : Profile} :
    overrideProfile? number word = some profile ↔ Asks number word profile := by
  unfold overrideProfile?
  constructor
  · intro read
    cases word with
    | none =>
      dsimp only at read
      split at read
      · rename_i old
        cases read
        exact .plain old
      · split at read
        · rename_i recent
          cases read
          exact .compatibility (profiled_iff.mpr recent.symm)
        · cases read
    | some word =>
      dsimp only at read
      split at read
      · rename_i core
        cases read
        rw [core.1]
        exact .core (profiled_iff.mpr core.2.symm)
      · split at read
        · rename_i embedded
          cases read
          rw [embedded.1]
          exact .embedded (embedded_iff.mpr embedded.2)
        · cases read
  · intro asks
    cases asks with
    | plain listed => exact if_pos listed
    | compatibility listed =>
      have recent := (profiled_iff.mp listed).symm
      have old : number ∉ plainNumbers := by
        rw [plain_iff]
        omega
      exact (if_neg old).trans (if_pos recent)
    | core listed => exact if_pos ⟨rfl, (profiled_iff.mp listed).symm⟩
    | embedded listed =>
      dsimp only
      rw [if_neg (by simp), if_pos ⟨rfl, embedded_iff.mp listed⟩]

theorem declares_iff {number : Nat} {word : Option Text} {profile : Profile} :
    directiveProfile? number word = some profile ∧ (profile = .es ∨ isDesktop number = true) ↔
      Declares number word profile := by
  unfold directiveProfile?
  constructor
  · rintro ⟨read, fits⟩
    cases word with
    | none =>
      dsimp only at read
      split at read
      · rename_i first
        cases read
        rw [first]
        exact .first
      · split at read
        · rename_i recent
          cases read
          exact .profiled (profiled_iff.mpr ⟨fits.resolve_left nofun, recent⟩)
        · rename_i old
          cases read
          exact .plain (plain_iff.mpr ⟨fits.resolve_left nofun, Nat.lt_of_not_le old⟩)
    | some word =>
      dsimp only at read
      split at read
      · rename_i core
        cases read
        rw [core.1]
        exact .core (profiled_iff.mpr ⟨fits.resolve_left nofun, core.2⟩)
      · split at read
        · rename_i compatibility
          cases read
          rw [compatibility.1]
          exact .compatibility (profiled_iff.mpr ⟨fits.resolve_left nofun, compatibility.2⟩)
        · split at read
          · rename_i embedded
            cases read
            rw [embedded.1]
            exact .embedded (embedded_iff.mpr embedded.2)
          · cases read
  · intro declares
    cases declares with
    | plain listed =>
      obtain ⟨desktop, old⟩ := plain_iff.mp listed
      refine ⟨?_, .inr desktop⟩
      dsimp only
      rw [if_neg (ne_first desktop), if_neg (Nat.not_le.mpr old)]
    | profiled listed =>
      obtain ⟨desktop, recent⟩ := profiled_iff.mp listed
      refine ⟨?_, .inr desktop⟩
      dsimp only
      rw [if_neg (ne_first desktop), if_pos recent]
    | first => exact ⟨rfl, .inl rfl⟩
    | core listed =>
      obtain ⟨desktop, recent⟩ := profiled_iff.mp listed
      exact ⟨if_pos ⟨rfl, recent⟩, .inr desktop⟩
    | compatibility listed =>
      obtain ⟨desktop, recent⟩ := profiled_iff.mp listed
      refine ⟨?_, .inr desktop⟩
      dsimp only
      rw [if_neg (by simp), if_pos ⟨rfl, recent⟩]
    | embedded listed =>
      refine ⟨?_, .inl rfl⟩
      dsimp only
      rw [if_neg (by simp), if_neg (by simp), if_pos ⟨rfl, embedded_iff.mp listed⟩]

theorem Asks.spelled {number : Nat} {word : Option Text} {profile : Profile} (asks : Asks number word profile) :
    IsSpelled number := by
  apply Version.spelled
  cases asks with
  | plain listed => simp [listed]
  | compatibility listed => simp [listed]
  | core listed => simp [listed]
  | embedded listed => simp [listed]

theorem Declares.spelled {number : Nat} {word : Option Text} {profile : Profile}
    (declares : Declares number word profile) : IsSpelled number := by
  apply Version.spelled
  cases declares with
  | plain listed => simp [listed]
  | profiled listed => simp [listed]
  | first => decide
  | core listed => simp [listed]
  | compatibility listed => simp [listed]
  | embedded listed => simp [listed]

theorem override_build {numeral : Text} {word : Option Text} {v : Version} :
    ofOverride?.build? numeral word = some v ↔ numeral = Text.decimal v.number ∧ Asks v.number word v.profile := by
  unfold ofOverride?.build?
  constructor
  · intro read
    split at read
    · cases read
    · rename_i three
      obtain ⟨number, value, read⟩ := Option.bind_eq_some_iff.mp read
      obtain ⟨profile, found, read⟩ := Option.bind_eq_some_iff.mp read
      cases Option.some.inj read
      have asks := asks_iff.mp found
      obtain ⟨written, _⟩ := (Text.decimalBelow_iff (by decide)).mp value
      refine ⟨written.eq_decimal ?_, asks⟩
      rw [asks.spelled.three]
      exact Decidable.not_not.mp three
  · rintro ⟨rfl, asks⟩
    have ⟨below, three, _⟩ := asks.spelled
    have value := (Text.decimalBelow_iff (by decide)).mpr ⟨Text.isNumeral_decimal v.number, below⟩
    rw [if_neg (not_not.mpr three), value, Option.bind_eq_bind, Option.bind_some, asks_iff.mpr asks]
    rfl

theorem directive_build {numeral : Text} {word : Option Text} {v : Version} :
    ofDirective?.build? numeral word = some v ↔ numeral.IsSigned v.number ∧ Declares v.number word v.profile := by
  unfold ofDirective?.build?
  constructor
  · intro read
    obtain ⟨number, value, read⟩ := Option.bind_eq_some_iff.mp read
    obtain ⟨profile, found, read⟩ := Option.bind_eq_some_iff.mp read
    split at read
    · rename_i fits
      cases Option.some.inj read
      exact ⟨((Text.signedBelow_iff (by decide)).mp value).1, declares_iff.mp ⟨found, fits⟩⟩
    · cases read
  · rintro ⟨signed, declares⟩
    obtain ⟨found, fits⟩ := declares_iff.mpr declares
    rw [(Text.signedBelow_iff (by decide)).mpr ⟨signed, declares.spelled.below⟩, Option.bind_eq_bind, Option.bind_some,
      found, Option.bind_eq_bind, Option.bind_some]
    exact if_pos fits

theorem ofOverride_iff {s : Text} {v : Version} : ofOverride? s = some v ↔ IsToken s v := by
  unfold ofOverride?
  constructor
  · intro read
    split at read
    · obtain ⟨rfl, asks⟩ := override_build.mp read
      exact .bare asks
    · rename_i numeral word cut
      obtain ⟨rfl, asks⟩ := override_build.mp read
      rw [(Text.cutAt_some.mp cut).2]
      exact .worded asks
  · intro token
    cases token with
    | bare asks =>
      rw [Text.cutAt_none (Text.not_mem_decimal (by decide) _)]
      exact override_build.mpr ⟨rfl, asks⟩
    | worded asks =>
      rw [Text.cutAt_append (Text.not_mem_decimal (by decide) _)]
      exact override_build.mpr ⟨rfl, asks⟩

theorem ofDirective_iff {body : Text} {v : Version} : ofDirective? body = some v ↔
    ∃ (numeral : Text) (word? : Option Text), body.words = numeral :: word?.toList ∧ numeral.IsSigned v.number ∧
      Declares v.number word? v.profile := by
  unfold ofDirective?
  constructor
  · intro read
    split at read
    · rename_i numeral words
      exact ⟨numeral, none, words, directive_build.mp read⟩
    · rename_i numeral word words
      exact ⟨numeral, some word, words, directive_build.mp read⟩
    · cases read
  · rintro ⟨numeral, word?, words, declared⟩
    rw [words]
    cases word? with
    | none => exact directive_build.mpr declared
    | some word => exact directive_build.mpr declared

end ShaderConversion.Glsl.Version
