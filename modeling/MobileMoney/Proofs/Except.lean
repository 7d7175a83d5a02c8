import MobileMoney.Payment.Error

/-!
# Steps that can fail

When a chain of steps and checks gives a value, and how what it gives is changed.
-/

namespace MobileMoney

variable {ε α β γ : Type}

theorem ok_bind (found : α) (next : α → Except ε β) : (.ok found >>= next) = next found := rfl

theorem bind_eq_ok {step : Except ε α} {next : α → Except ε β} {value : β} :
    (step >>= next) = .ok value ↔ ∃ found, step = .ok found ∧ next found = .ok value := by
  cases step <;> simp [bind, Except.bind]

theorem bind_eq_error {step : Except ε α} {next : α → Except ε β} {error : ε} :
    (step >>= next) = .error error ↔
      step = .error error ∨ ∃ found, step = .ok found ∧ next found = .error error := by
  cases step <;> simp [bind, Except.bind]

theorem pure_eq_ok {found value : α} : (pure found : Except ε α) = .ok value ↔ found = value := by
  simp [pure, Except.pure]

theorem pure_ne_error {found : α} {error : ε} : (pure found : Except ε α) ≠ .error error := by
  simp [pure, Except.pure]

theorem map_bind (change : β → γ) (step : Except ε α) (next : α → Except ε β) :
    (step >>= next).map change = step >>= fun found ↦ (next found).map change := by
  cases step <;> rfl

theorem map_pure (change : α → β) (found : α) :
    (pure found : Except ε α).map change = pure (change found) := rfl

theorem mapError_eq_ok {ε' : Type} {change : ε → ε'} {step : Except ε α} {value : α} :
    step.mapError change = .ok value ↔ step = .ok value := by
  cases step with
  | ok found =>
    change Except.ok found = .ok value ↔ Except.ok found = .ok value
    simp
  | error error =>
    change .error (change error) = Except.ok value ↔ .error error = Except.ok value
    simp

theorem toOption_eq_some_iff {step : Except ε α} {value : α} :
    step.toOption = some value ↔ step = .ok value := by
  cases step <;> simp [Except.toOption]

theorem throw_ne_ok {error : ε} {value : α} : (throw error : Except ε α) ≠ .ok value := by
  simp [throw, throwThe, MonadExceptOf.throw]

/-- A check that must not hold, in front of the rest. -/
theorem ite_throw_eq_ok {p : Prop} [Decidable p] {error : ε} {next : α → Except ε β}
    {rest : Except ε β} {value : β} :
    (if p then throw error >>= next else rest) = .ok value ↔ ¬ p ∧ rest = .ok value := by
  by_cases hp : p
  · simp [hp, bind_eq_ok, throw_ne_ok]
  · simp [hp]

end MobileMoney
