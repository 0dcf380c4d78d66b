/-!
# Steps that may fail

Most of the library computes in steps of which each may fail. Where such a computation succeeds, so
did every step, and these laws take it apart. What is done to a result leaves a failure as it is.
-/

namespace Regroup

variable {ε ε' α β : Type}

theorem bind_eq_ok_iff (x : Except ε α) (f : α → Except ε β) (b : β) :
    x >>= f = .ok b ↔ ∃ a, x = .ok a ∧ f a = .ok b := by
  cases x with
  | error cause => simp [bind, Except.bind]
  | ok a => simp [bind, Except.bind]

theorem mapError_eq_ok_iff (x : Except ε α) (f : ε → ε') (a : α) :
    x.mapError f = .ok a ↔ x = .ok a := by
  cases x with
  | error cause =>
    constructor
    · intro h
      cases h
    · intro h
      cases h
  | ok b =>
    constructor
    · intro h
      rw [← Except.ok.inj h]
    · intro h
      rw [Except.ok.inj h]
      rfl

theorem map_eq_ok_iff (x : Except ε α) (f : α → β) (b : β) :
    x.map f = .ok b ↔ ∃ a, x = .ok a ∧ f a = b := by
  cases x <;> simp [Except.map]

theorem map_eq_error_iff (x : Except ε α) (f : α → β) (cause : ε) :
    x.map f = .error cause ↔ x = .error cause := by
  cases x <;> simp [Except.map]

end Regroup
