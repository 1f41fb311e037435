import ShaderConversion.Proofs.Glsl.Profile

namespace ShaderConversion.Glsl.Version

def IsOverride (v : Version) : Prop := ∃ token, ofOverride? token = some v

-- A number of the language with a profile that it comes in. Desktop versions have none
-- before 150 and always one from there on.
def IsKnown (v : Version) : Prop :=
  match v.profile with
  | .none => isDesktop v.number = true ∧ v.number < 150
  | .core => isDesktop v.number = true ∧ 150 ≤ v.number
  | .compatibility => isDesktop v.number = true ∧ 150 ≤ v.number
  | .es => isEmbedded v.number = true

theorem Asks.known {number : Nat} {word : Option Text} {profile : Profile} (asks : Asks number word profile) :
    IsKnown ⟨number, profile⟩ := by
  cases asks with
  | plain listed => exact plain_iff.mp listed
  | compatibility listed => exact profiled_iff.mp listed
  | core listed => exact profiled_iff.mp listed
  | embedded listed => exact embedded_iff.mp listed

theorem override_known {v : Version} (forced : v.IsOverride) : v.IsKnown := by
  obtain ⟨token, read⟩ := forced
  cases ofOverride_iff.mp read with
  | bare asks => exact asks.known
  | worded asks => exact asks.known

theorem isBlank_space : Text.isBlank ' ' = true := by decide

theorem words_decimal (number : Nat) : Text.words (Text.decimal number) = [Text.decimal number] :=
  Text.words_word Nat.toDigits_ne_nil fun _ member => Text.isBlank_decimal member

theorem ofDirective_blank (body : Text) : ofDirective? (' ' :: body) = ofDirective? body := by
  have words : Text.words (' ' :: body) = Text.words body := Text.words_append_blank isBlank_space [] body
  rw [ofDirective?, words, ofDirective?]

theorem ofDirective_bare {number : Nat} {profile : Profile} (declares : Declares number none profile) :
    ofDirective? (Text.decimal number) = some ⟨number, profile⟩ :=
  ofDirective_iff.mpr ⟨_, none, words_decimal number, .plain (Text.isNumeral_decimal number), declares⟩

theorem ofDirective_worded {number : Nat} {word : Text} {profile : Profile}
    (declares : Declares number (some word) profile) :
    ofDirective? (Text.decimal number ++ ' ' :: word) = some ⟨number, profile⟩ := by
  have single : Text.words word = [word] := by
    cases declares <;> decide
  have words : Text.words (Text.decimal number ++ ' ' :: word) = [Text.decimal number, word] := by
    rw [Text.words_append_blank isBlank_space, words_decimal, single]
    rfl
  exact ofDirective_iff.mpr ⟨_, some word, words, .plain (Text.isNumeral_decimal number), declares⟩

theorem ofDirective_text {v : Version} (known : v.IsKnown) :
    ofDirective? (' ' :: v.text) = some v := by
  obtain ⟨number, profile⟩ := v
  rw [ofDirective_blank]
  cases profile with
  | none =>
    have bare : text ⟨number, .none⟩ = Text.decimal number := List.append_nil _
    rw [bare]
    exact ofDirective_bare (.plain (plain_iff.mpr known))
  | core => exact ofDirective_worded (.core (profiled_iff.mpr known))
  | compatibility => exact ofDirective_worded (.compatibility (profiled_iff.mpr known))
  | es => exact ofDirective_worded (.embedded (embedded_iff.mpr known))

end ShaderConversion.Glsl.Version
