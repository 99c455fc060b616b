/-
Module: HardwareDatabase.Relational.Failures
Purpose: Computations that can fail.
Trusted boundary: none
-/
import HardwareDatabase.Relational.Table

namespace Relational

variable {ε α β : Type}

/-- After a step that succeeds the computation goes on with its value. -/
theorem ok_bind (value : α) (next : α → Except ε β) : (Except.ok value >>= next) = next value :=
  rfl

end Relational
