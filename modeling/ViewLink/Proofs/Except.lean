/-!
# Computations that may fail

Readers and validators are written as sequences of steps of which the first failure is the answer.
The lemmas here take such a sequence apart at its first step.

A sequence that stops at the first failure can be compared with a walk that stops at none and lists
all failures. `outcome` is what the list comes to, and it composes like sequences do.
-/

set_option autoImplicit false

namespace ViewLink

variable {ε α β : Type}

/-- **A sequence succeeds when both its parts do**, the second with what the first has given. -/
theorem bind_eq_ok {x : Except ε α} {f : α → Except ε β} {b : β} :
    x >>= f = .ok b ↔ ∃ a, x = .ok a ∧ f a = .ok b := by
  cases x with
  | error e =>
      constructor
      · intro h
        cases h
      · rintro ⟨a, h, -⟩
        cases h
  | ok a =>
      constructor
      · intro h
        exact ⟨a, rfl, h⟩
      · rintro ⟨a', h, hf⟩
        cases h
        exact hf

theorem ok_bind (a : α) (f : α → Except ε β) : (Except.ok a >>= f) = f a := rfl

theorem pure_eq_ok {a b : α} : (pure a : Except ε α) = .ok b ↔ b = a := by
  constructor
  · intro h
    cases h
    rfl
  · rintro rfl
    rfl

/-- **What comes of a walk that has met these failures**: the first of them, or a value if there are
none. -/
def outcome (failures : List ε) (a : α) : Except ε α :=
  match failures with
  | [] => .ok a
  | first :: _ => .error first

theorem outcome_eq_ok {failures : List ε} {a b : α} :
    outcome failures a = .ok b ↔ failures = [] ∧ b = a := by
  cases failures <;> simp [outcome, eq_comm]

theorem outcome_eq_error {failures : List ε} {a : α} {e : ε} :
    outcome failures a = .error e ↔ failures.head? = some e := by
  cases failures <;> simp [outcome]

theorem outcome_map (failures : List ε) (a : α) (f : α → β) :
    (outcome failures a >>= fun a => pure (f a)) = outcome failures (f a) := by
  cases failures <;> rfl

/-- **One walk after the other meets the failures of the one and then of the other.** -/
theorem outcome_bind {xs ys : List ε} {a : α} {b : β} {f : α → Except ε β}
    (h : f a = outcome ys b) : (outcome xs a >>= f) = outcome (xs ++ ys) b := by
  cases xs with
  | nil => exact h
  | cons x xs => rfl

end ViewLink
