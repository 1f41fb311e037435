namespace ShaderConversion

variable {ε α β : Type} {first : Except ε α}

theorem bind_ok {next : α → Except ε β} {b : β} :
    (first >>= next) = .ok b ↔ ∃ a, first = .ok a ∧ next a = .ok b := by
  cases first <;> simp [bind, Except.bind]

theorem bind_error {next : α → Except ε β} {e : ε} :
    (first >>= next) = .error e ↔ first = .error e ∨ ∃ a, first = .ok a ∧ next a = .error e := by
  cases first <;> simp [bind, Except.bind]

theorem map_ok {f : α → β} {b : β} : first.map f = .ok b ↔ ∃ a, first = .ok a ∧ f a = b := by
  cases first <;> simp [Except.map]

theorem map_error {f : α → β} {e : ε} : first.map f = .error e ↔ first = .error e := by
  cases first <;> simp [Except.map]

theorem ok_mapError {ε' : Type} (f : ε → ε') (a : α) :
    (Except.ok a : Except ε α).mapError f = .ok a := rfl

theorem error_mapError {ε' : Type} (f : ε → ε') (e : ε) :
    (Except.error e : Except ε α).mapError f = .error (f e) := rfl

theorem mapError_ok {ε' : Type} {f : ε → ε'} {a : α} :
    first.mapError f = .ok a ↔ first = .ok a := by
  cases first <;> simp [ok_mapError, error_mapError]

theorem mapError_error {ε' : Type} {f : ε → ε'} {e : ε'} :
    first.mapError f = .error e ↔ ∃ e', first = .error e' ∧ f e' = e := by
  cases first <;> simp [ok_mapError, error_mapError]

-- What is tried in turn all goes well, or there is a first that does not.
theorem all_or_first (Good : α → Prop) (all : List α) : (∀ a ∈ all, Good a) ∨
    ∃ front bad back, all = front ++ bad :: back ∧ (∀ a ∈ front, Good a) ∧ ¬ Good bad := by
  induction all with
  | nil => exact .inl (List.forall_mem_nil _)
  | cons a all later =>
    by_cases good : Good a
    · rcases later with others | ⟨front, bad, back, rfl, before, fails⟩
      · exact .inl (List.forall_mem_cons.mpr ⟨good, others⟩)
      · exact .inr ⟨a :: front, bad, back, rfl, List.forall_mem_cons.mpr ⟨good, before⟩, fails⟩
    · exact .inr ⟨[], a, all, rfl, List.forall_mem_nil _, good⟩

theorem eq_iff_of_total {Related : β → Prop} {value b : β} (sound : ∀ b, Related b → value = b)
    (total : ∃ b, Related b) : value = b ↔ Related b := by
  constructor
  · rintro rfl
    obtain ⟨other, related⟩ := total
    rwa [sound other related]
  · exact sound b

end ShaderConversion
