import Charting.Failure

/-!
# The outcome of steps

Work that may fail has given a result when each of its steps has, and it fails as its first step
that does.
-/

namespace Charting.Outcome

variable {α β : Type}

theorem pure_eq_ok {a b : α} : (pure a : Except Failure α) = .ok b ↔ b = a := by
  constructor
  · intro h
    cases h
    rfl
  · rintro rfl
    rfl

theorem pure_ne_error {a : α} {e : Failure} : (pure a : Except Failure α) ≠ .error e := nofun

theorem bind_eq_ok {x : Except Failure α} {f : α → Except Failure β} {b : β} :
    (x >>= f) = .ok b ↔ ∃ a, x = .ok a ∧ f a = .ok b := by
  constructor
  · intro h
    cases x with
    | error e => cases h
    | ok a => exact ⟨a, rfl, h⟩
  · rintro ⟨a, rfl, h⟩
    exact h

theorem bind_eq_error {x : Except Failure α} {f : α → Except Failure β} {e : Failure} :
    (x >>= f) = .error e ↔ x = .error e ∨ ∃ a, x = .ok a ∧ f a = .error e := by
  cases x with
  | error e' =>
      have failed : ((.error e' : Except Failure α) >>= f) = .error e' := rfl
      simp [failed]
  | ok a =>
      have went_on : ((.ok a : Except Failure α) >>= f) = f a := rfl
      simp [went_on]

theorem map_eq_ok {x : Except Failure α} {f : α → β} {b : β} :
    x.map f = .ok b ↔ ∃ a, x = .ok a ∧ b = f a := by
  constructor
  · intro h
    cases x with
    | error e => cases h
    | ok a =>
        cases h
        exact ⟨a, rfl, rfl⟩
  · rintro ⟨a, rfl, rfl⟩
    rfl

theorem map_eq_error {x : Except Failure α} {f : α → β} {e : Failure} :
    x.map f = .error e ↔ x = .error e := by
  cases x <;> simp [Except.map]

end Charting.Outcome
