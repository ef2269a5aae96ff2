import Mathlib.Logic.Basic

/-!
# Outcomes

What it says about an outcome that another one was made from it: an error stays the error that it
was, and a success comes from a success. A fixed outcome is shown by computing it, and then whether
it is a success can be decided before what it is.
-/

namespace CrdToolset

variable {ε α β : Type} {x : Except ε α}

/-- What is made from an outcome is a success if the outcome is one, and only then. -/
theorem map_eq_ok_iff {f : α → β} {b : β} : x.map f = .ok b ↔ ∃ a, x = .ok a ∧ f a = b := by
  cases x <;> simp [Except.map]

/-- An outcome that is made from another one is a failure exactly if that one is, and with the same
fault. -/
theorem map_eq_error_iff {f : α → β} {e : ε} : x.map f = .error e ↔ x = .error e := by
  cases x <;> simp [Except.map]

/-- An outcome whose value passes a test is a success. Whether it passes can be computed, so this
serves to evaluate fixed inputs. -/
theorem exists_ok_of_any {test : α → Bool} (h : x.toOption.any test = true) :
    ∃ a, x = .ok a ∧ test a = true := by
  cases x with
  | error e => cases h
  | ok a => exact ⟨a, rfl, h⟩

/-- An outcome whose value is computed to be a certain one is the success with this value. -/
theorem eq_ok_of_toOption {a : α} (h : x.toOption = some a) : x = .ok a := by
  cases x with
  | error e => cases h
  | ok b => exact congrArg _ (Option.some.inj h)

/-- The fault of an outcome, if it is a failure. Faults can be compared, which outcomes cannot be where
values have schemas in them. -/
def failure? : Except ε α → Option ε
  | .error e => some e
  | .ok _ => none

/-- An outcome whose fault is computed to be a certain one is the failure with this fault. -/
theorem eq_error_of_failure? {e : ε} (h : failure? x = some e) : x = .error e := by
  cases x with
  | error e' => exact congrArg _ (Option.some.inj h)
  | ok a => cases h

/-- An outcome that has a value is a success. Whether it has one can be computed without knowing the
value. -/
theorem exists_ok_of_isSome (h : x.toOption.isSome = true) : ∃ a, x = .ok a := by
  cases x with
  | error e => cases h
  | ok a => exact ⟨a, rfl⟩

end CrdToolset
