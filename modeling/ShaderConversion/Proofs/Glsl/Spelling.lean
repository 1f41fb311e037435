import ShaderConversion.Converter.Settings
import ShaderConversion.Proofs.Glsl.Version

namespace ShaderConversion.Glsl.Version

def IsBody (body : Text) (v : Version) : Prop :=
  ∃ word? : Option Text, body.words = Text.decimal v.number :: word?.toList ∧ Declares v.number word? v.profile

def IsUnmarked (body : Text) : Prop :=
  ∀ word more, body.words = word :: more → ∀ c, word.head? = some c → c ≠ '+' ∧ c ≠ '0'

theorem ofText_ok {s : Text} {v : Version} : ofText s = .ok v ↔ IsToken s v :=
  SetupError.orError_ok.trans ofOverride_iff

theorem ofText_error {s : Text} {e : SetupError} :
    ofText s = .error e ↔ (∀ v, ¬ IsToken s v) ∧ e = .unknownVersion s := by
  have missing : ofOverride? s = none ↔ ∀ v, ¬ IsToken s v := by
    simp only [Option.eq_none_iff_forall_ne_some, ne_eq, ofOverride_iff]
  rw [ofText, SetupError.orError_error, missing]

theorem Asks.unique {number : Nat} {word word' : Option Text} {profile : Profile}
    (asks : Asks number word profile) (asks' : Asks number word' profile) : word = word' := by
  cases asks with
  | plain _ => cases asks'; rfl
  | compatibility _ => cases asks'; rfl
  | core _ => cases asks'; rfl
  | embedded _ => cases asks'; rfl

theorem IsToken.unique {s s' : Text} {v : Version} (token : IsToken s v) (token' : IsToken s' v) : s = s' := by
  cases token with
  | bare asks =>
    cases token' with
    | bare _ => rfl
    | worded asks' => cases asks.unique asks'
  | worded asks =>
    cases token' with
    | bare asks' => cases asks.unique asks'
    | worded asks' => cases asks.unique asks'; rfl

-- What a token declares: the same, but for a number with profiles that stands alone.
theorem Asks.declares {number : Nat} {word : Option Text} {profile : Profile} (asks : Asks number word profile) :
    ∃ declared, Declares number word declared ∧
      (if 150 ≤ number ∧ word = none then profile = .compatibility ∧ declared = .core else declared = profile) := by
  cases asks with
  | plain listed =>
    have old := (plain_iff.mp listed).2
    exact ⟨_, .plain listed, by rw [if_neg (by omega)]⟩
  | compatibility listed => exact ⟨_, .profiled listed, by simp [(profiled_iff.mp listed).2]⟩
  | core listed => exact ⟨_, .core listed, by simp⟩
  | embedded listed => exact ⟨_, .embedded listed, by simp⟩

theorem IsToken.declared {s : Text} {v : Version} (token : IsToken s v) :
    ∃ declared, ofDirective? s = some declared ∧ declared.number = v.number ∧
      (if 150 ≤ v.number ∧ ' ' ∉ s then v.profile = .compatibility ∧ declared.profile = .core
        else declared.profile = v.profile) := by
  cases token with
  | @bare number profile asks =>
    obtain ⟨declared, declares, same⟩ := asks.declares
    have unspaced : ' ' ∉ Text.decimal number := Text.not_mem_decimal (by decide) number
    refine ⟨_, ofDirective_bare declares, rfl, ?_⟩
    simpa [unspaced] using same
  | @worded number word profile asks =>
    obtain ⟨declared, declares, same⟩ := asks.declares
    refine ⟨_, ofDirective_worded declares, rfl, ?_⟩
    simpa using same

-- The tokens that are read, each as a version of its own, and what a version line with the same text
-- declares. The text of what has been read declares it again.
theorem version_tokens (s : Text) :
    (∀ v, ofText s = .ok v ↔ IsToken s v) ∧
      (∀ e, ofText s = .error e ↔ (∀ v, ¬ IsToken s v) ∧ e = .unknownVersion s) ∧
      (∀ s' v, ofText s = .ok v → ofText s' = .ok v → s = s') ∧
      ∀ v, ofText s = .ok v →
        (∃ declared, ofDirective? s = some declared ∧ declared.number = v.number ∧
          (if 150 ≤ v.number ∧ ' ' ∉ s then v.profile = .compatibility ∧ declared.profile = .core
            else declared.profile = v.profile)) ∧
        ofDirective? v.text = some v := by
  refine ⟨fun _ => ofText_ok, fun _ => ofText_error, fun s' v read read' => ?_, fun v read => ⟨?_, ?_⟩⟩
  · exact (ofText_ok.mp read).unique (ofText_ok.mp read')
  · exact (ofText_ok.mp read).declared
  · rw [← ofDirective_blank]
    exact ofDirective_text (override_known ⟨s, SetupError.orError_ok.mp read⟩)

theorem version_tokens_bare :
    ofText "450".toList = .ok ⟨450, .compatibility⟩ ∧ IsToken "450".toList ⟨450, .compatibility⟩ ∧
      ofText "0450".toList = .error (.unknownVersion "0450".toList) ∧
      ofDirective? "450".toList = some ⟨450, .core⟩ ∧
      ofDirective? "450 compatibility".toList = some ⟨450, .compatibility⟩ := by
  have read : ofText "450".toList = .ok ⟨450, .compatibility⟩ := by decide
  obtain ⟨token, _, _, declares⟩ := version_tokens "450".toList
  obtain ⟨_, again⟩ := declares _ read
  exact ⟨read, (token _).mp read, by decide, by decide, again⟩

theorem IsBody.accepted {body : Text} {v : Version} (isBody : IsBody body v) :
    ofDirective? body = some v ∧ IsUnmarked body := by
  obtain ⟨word?, words, declares⟩ := isBody
  constructor
  · exact ofDirective_iff.mpr ⟨_, word?, words, .plain (Text.isNumeral_decimal _), declares⟩
  · intro word more words'
    rw [words] at words'
    cases words'
    exact declares.spelled.unmarked

theorem IsUnmarked.isBody {body : Text} {v : Version} (unmarked : IsUnmarked body)
    (read : ofDirective? body = some v) : IsBody body v := by
  obtain ⟨numeral, word?, words, signed, declares⟩ := ofDirective_iff.mp read
  have first := unmarked numeral _ words
  refine ⟨word?, ?_, declares⟩
  rw [words]
  cases signed with
  | plus _ => exact absurd rfl (first '+' rfl).1
  | plain written =>
    obtain ⟨zeros, parts⟩ := written.zeros
    cases zeros with
    | zero => rw [parts, List.replicate_zero, List.nil_append]
    | succ zeros =>
      rw [parts] at first
      exact absurd rfl (first '0' rfl).2

-- The bodies of the language are those that are read and have no sign and no zero in front. With any
-- count of zeros and with a plus the same number is read, and none from 2^16 on.
theorem directive_bodies (body : Text) (v : Version) :
    (IsBody body v ↔ ofDirective? body = some v ∧ IsUnmarked body) ∧
      (ofDirective? body = some v ↔ ∃ (numeral : Text) (word? : Option Text), body.words = numeral :: word?.toList ∧
        numeral.IsSigned v.number ∧ Declares v.number word? v.profile) ∧
      ∀ numeral more number, body.words = numeral :: more → numeral.IsSigned number → UInt16.size ≤ number →
        ofDirective? body = none := by
  refine ⟨⟨IsBody.accepted, fun ⟨read, unmarked⟩ => unmarked.isBody read⟩, ofDirective_iff, ?_⟩
  intro numeral more number words signed large
  cases read : ofDirective? body with
  | none => rfl
  | some v =>
    obtain ⟨numeral', word?, words', signed', declares⟩ := ofDirective_iff.mp read
    rw [words] at words'
    cases words'
    rw [signed.unique signed'] at large
    exact absurd declares.spelled.below (Nat.not_lt.mpr large)

theorem directive_bodies_beyond :
    let body := " 65986 core".toList
    Text.words body = ["65986".toList, "core".toList] ∧ Text.IsSigned "65986".toList 65986 ∧
      UInt16.size ≤ 65986 ∧ 65986 % UInt16.size = 450 ∧ ofDirective? body = none := by
  intro body
  have words : Text.words body = ["65986".toList, "core".toList] := by decide
  have signed : Text.IsSigned "65986".toList 65986 := .plain (Text.isNumeral_of_isDigits (by decide) rfl)
  obtain ⟨_, _, beyond⟩ := directive_bodies body .default
  exact ⟨words, signed, by decide, by decide, beyond _ _ _ words signed (by decide)⟩

theorem directive_marked :
    ofDirective? " +450".toList = some ⟨450, .core⟩ ∧ ¬ IsBody " +450".toList ⟨450, .core⟩ ∧
      ofDirective? " 0310 es".toList = some ⟨310, .es⟩ ∧ ¬ IsBody " 0310 es".toList ⟨310, .es⟩ := by
  have unspelled {body : Text} {v : Version} {numeral : Text} {more : List Text} (words : body.words = numeral :: more)
      (other : numeral ≠ Text.decimal v.number) : ¬ IsBody body v := by
    rintro ⟨word?, words', _⟩
    rw [words] at words'
    exact other (List.cons.inj words').1
  have plus : Text.words " +450".toList = ["+450".toList] := by decide
  have zero : Text.words " 0310 es".toList = ["0310".toList, "es".toList] := by decide
  exact ⟨by decide, unspelled plus (by decide), by decide, unspelled zero (by decide)⟩

end ShaderConversion.Glsl.Version
