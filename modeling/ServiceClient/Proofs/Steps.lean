import Mathlib.Tactic.Lemma

/-!
# Steps that may fail

How the result of a chain of steps comes from the results of its steps.
-/

namespace ServiceClient

/-- A chain of steps succeeds only when each step does. -/
lemma bind_ok {ε α β : Type} {x : Except ε α} {f : α → Except ε β} {b : β}
    (eq : (x >>= f) = .ok b) : ∃ a, x = .ok a ∧ f a = .ok b := by
  cases x with
  | error e => cases eq
  | ok a => exact ⟨a, rfl, eq⟩

/-- A changed result comes from a result. -/
lemma map_ok {ε α β : Type} {x : Except ε α} {f : α → β} {b : β}
    (eq : x.map f = .ok b) : ∃ a, x = .ok a ∧ f a = b := by
  cases x with
  | error e => cases eq
  | ok a =>
    cases eq
    exact ⟨a, rfl, rfl⟩

/-- A changed failure comes from the same failure. -/
lemma map_error {ε α β : Type} {x : Except ε α} {f : α → β} {e : ε}
    (eq : x.map f = .error e) : x = .error e := by
  cases x with
  | error e' =>
    cases eq
    rfl
  | ok a => cases eq

/-- A result is taken out of a step only when the step succeeds. -/
lemma toOption_eq_some {ε α : Type} {x : Except ε α} {a : α} :
    x.toOption = some a ↔ x = .ok a := by
  cases x <;> simp [Except.toOption]

end ServiceClient
