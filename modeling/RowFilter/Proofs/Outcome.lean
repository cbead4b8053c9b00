/-!
# Outcomes

Building a filter, compiling a source and running a command come to a result or to an error.
What is computed from an outcome succeeds only if the outcome does. These laws are simp
lemmas, so that a proof about such a function need not take its outcomes apart:

> `map_eq_ok_iff`, `bind_eq_ok_iff`, `mapError_eq_ok_iff`: what a result was computed from;
> `failure?_map`, `failure?_bind`: what an outcome fails with;
> `outcome_cases`, `map_eq_map_of_map`: what outcomes have in common that look the same.
-/

namespace RowFilter

variable {ε ε' α β γ : Type}

/-! ## Results -/

section

variable {outcome : Except ε α} {result : β}

@[simp] theorem map_ok (f : α → β) (found : α) :
    (Except.ok found : Except ε α).map f = .ok (f found) := rfl

@[simp] theorem map_error (f : α → β) (error : ε) :
    (Except.error error : Except ε α).map f = .error error := rfl

@[simp] theorem bind_ok (next : α → Except ε β) (found : α) :
    (Except.ok found).bind next = next found := rfl

@[simp] theorem bind_error (next : α → Except ε β) (error : ε) :
    (Except.error error).bind next = .error error := rfl

@[simp] theorem mapError_ok (f : ε → ε') (found : α) :
    (Except.ok found : Except ε α).mapError f = .ok found := rfl

@[simp] theorem mapError_error (f : ε → ε') (error : ε) :
    (Except.error error : Except ε α).mapError f = .error (f error) := rfl

theorem map_map (outcome : Except ε α) (f : α → β) (g : β → γ) :
    (outcome.map f).map g = outcome.map (g ∘ f) := by
  cases outcome <;> rfl

theorem map_bind (outcome : Except ε α) (next : α → Except ε β) (f : β → γ) :
    (outcome.bind next).map f = outcome.bind fun found => (next found).map f := by
  cases outcome <;> rfl

theorem bind_map (outcome : Except ε α) (f : α → β) (next : β → Except ε γ) :
    (outcome.map f).bind next = outcome.bind fun found => next (f found) := by
  cases outcome <;> rfl

/-- What is computed from an outcome is a result if the outcome is one. -/
@[simp] theorem map_eq_ok_iff {f : α → β} :
    outcome.map f = .ok result ↔ ∃ found, outcome = .ok found ∧ f found = result := by
  cases outcome <;> simp

@[simp] theorem map_eq_error_iff {f : α → β} {error : ε} :
    outcome.map f = .error error ↔ outcome = .error error := by
  cases outcome <;> simp

@[simp] theorem bind_eq_ok_iff {next : α → Except ε β} :
    outcome.bind next = .ok result ↔ ∃ found, outcome = .ok found ∧ next found = .ok result := by
  cases outcome <;> simp

@[simp] theorem mapError_eq_error_iff {f : ε → ε'} {error : ε'} :
    outcome.mapError f = .error error ↔ ∃ found, outcome = .error found ∧ f found = error := by
  cases outcome <;> simp

@[simp] theorem toOption_eq_some_iff {outcome : Except ε β} :
    outcome.toOption = some result ↔ outcome = .ok result := by
  cases outcome <;> simp [Except.toOption]

/-- What is checked first is a result if the check passes. -/
@[simp] theorem ite_eq_ok_iff {p : Prop} [Decidable p] {found : β} {error : ε} :
    (if p then .ok found else .error error) = (.ok result : Except ε β) ↔ p ∧ found = result := by
  split <;> simp [*]

@[simp] theorem ite_eq_error_iff {p : Prop} [Decidable p] {found : β} {error other : ε} :
    (if p then .ok found else .error error) = (.error other : Except ε β) ↔
      ¬p ∧ error = other := by
  split <;> simp [*]

end

/-! ## Errors -/

/-- The error that an outcome is, if it is one. -/
def failure? : Except ε α → Option ε
  | .error error => some error
  | .ok _ => none

section

variable {outcome : Except ε α}

@[simp] theorem failure?_error (error : ε) :
    failure? (.error error : Except ε α) = some error := rfl

@[simp] theorem failure?_ok (result : α) : failure? (.ok result : Except ε α) = none := rfl

@[simp] theorem failure?_map (f : α → β) (outcome : Except ε α) :
    failure? (outcome.map f) = failure? outcome := by
  cases outcome <;> rfl

/-- What is done in two steps fails in the first of them, or else in the second, if that does
not need a result of the first to know its error. -/
theorem failure?_bind {next : α → Except ε β} {error : Option ε}
    (h : ∀ found, failure? (next found) = error) :
    failure? (outcome.bind next) = (failure? outcome).or error := by
  cases outcome with
  | error first => rfl
  | ok found => simp [h]

@[simp] theorem failure?_eq_none_iff :
    failure? outcome = none ↔ ∃ result, outcome = .ok result := by
  cases outcome <;> simp

@[simp] theorem failure?_eq_some_iff {error : ε} :
    failure? outcome = some error ↔ outcome = .error error := by
  cases outcome <;> simp

end

/-! ## Outcomes that look the same -/

/-- Two outcomes that look the same are the same error, or two results that look the same. -/
theorem outcome_cases {f : α → γ} {g : β → γ} {x : Except ε α} {y : Except ε β}
    (h : x.map f = y.map g) :
    (∃ error, x = .error error ∧ y = .error error) ∨
      ∃ a b, x = .ok a ∧ y = .ok b ∧ f a = g b := by
  cases x with
  | error error => exact Or.inl ⟨error, rfl, map_eq_error_iff.mp h.symm⟩
  | ok a =>
    obtain ⟨b, hb, hsame⟩ := map_eq_ok_iff.mp h.symm
    exact Or.inr ⟨a, b, rfl, hb, hsame.symm⟩

section

variable {ι : Type} {f : α → γ} {g : β → γ} {x : Except ε α} {y : Except ε β}

/-- What depends only on how a result looks is the same for outcomes that look the same. -/
theorem bind_eq_bind_of_map {next : α → Except ε ι} {next' : β → Except ε ι}
    (h : x.map f = y.map g) (hnext : ∀ a b, f a = g b → next a = next' b) :
    x.bind next = y.bind next' := by
  rcases outcome_cases h with ⟨error, rfl, rfl⟩ | ⟨a, b, rfl, rfl, hsame⟩
  · rfl
  · exact hnext a b hsame

theorem map_eq_map_of_map {look : α → ι} {look' : β → ι} (h : x.map f = y.map g)
    (hlook : ∀ a b, f a = g b → look a = look' b) : x.map look = y.map look' := by
  rcases outcome_cases h with ⟨error, rfl, rfl⟩ | ⟨a, b, rfl, rfl, hsame⟩
  · rfl
  · exact congrArg Except.ok (hlook a b hsame)

end

end RowFilter
