/-!
# Computations that may fail

When a computation succeeds, and with what.
-/

set_option autoImplicit false

namespace UsageScan

variable {ε α β : Type} {x : Except ε α}

/-- Two steps succeed if the first does and then the second. -/
theorem bind_eq_ok {f : α → Except ε β} {b : β} :
    x >>= f = .ok b ↔ ∃ a, x = .ok a ∧ f a = .ok b := by
  cases x <;> simp [bind, Except.bind]

theorem toOption_eq_some {a : α} : x.toOption = some a ↔ x = .ok a := by
  cases x <;> simp [Except.toOption]

theorem toOption_eq_none : x.toOption = none ↔ ∃ fault, x = .error fault := by
  cases x <;> simp [Except.toOption]

end UsageScan
