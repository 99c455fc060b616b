/-
Module: HardwareDatabase.Relational.Census
Purpose: What running calls hold: a step of one call changes the total by what its phases differ in.
Trusted boundary: none
-/
import HardwareDatabase.Relational.Calls
import HardwareDatabase.Relational.Run
import Mathlib.Algebra.BigOperators.Group.Finset.Piecewise
import Mathlib.Algebra.Ring.Int.Defs

namespace Relational

namespace Calls

variable {φ : Type} {calls after : Calls φ} {call : Nat} (weight : φ → Nat)

/-- What is held in a phase; a call that does not run holds nothing. -/
def worth (phase : Option φ) : Nat :=
  phase.elim 0 weight

/-- What a call holds. -/
def held (calls : Calls φ) (call : Nat) : Nat :=
  worth weight (calls.phase call)

/-- What all calls hold together. -/
def total (calls : Calls φ) : Nat :=
  ∑ call ∈ Finset.range calls.next, held weight calls call

/-- A step of one call, which begins with it, goes on, or does nothing. -/
inductive Moves (calls : Calls φ) : Nat → Calls φ → Prop
  | stay (call : Nat) : Moves calls call calls
  | enter (phase : Option φ) : Moves calls calls.next (calls.enter phase)
  | moveTo {call : Nat} {old : φ} (running : calls.phase call = some old) (phase : Option φ) :
      Moves calls call (calls.moveTo call phase)

theorem total_empty : total weight (empty : Calls φ) = 0 := rfl

theorem total_zero (calls : Calls φ) : total (fun _ => 0) calls = 0 :=
  Finset.sum_eq_zero fun call _ => by
    rw [held]
    cases calls.phase call <;> rfl

theorem total_eq_zero (ended : ∀ call, calls.phase call = none) : total weight calls = 0 :=
  Finset.sum_eq_zero fun call _ => by rw [held, ended call, worth, Option.elim]

/-- Weights that agree on the phases of the running calls have the same total. -/
theorem total_congr {weight other : φ → Nat}
    (agree : ∀ call phase, calls.phase call = some phase → weight phase = other phase) :
    total weight calls = total other calls := by
  refine Finset.sum_congr rfl fun call _ => ?_
  rw [held, held]
  cases running : calls.phase call with
  | none => rfl
  | some phase => exact agree call phase running

theorem held_moveTo (phase : Option φ) :
    held weight (calls.moveTo call phase) = Function.update (held weight calls) call (worth weight phase) := by
  funext other
  by_cases same : other = call
  · subst same
    rw [held, phase_moveTo_self, Function.update_self]
  · rw [held, phase_moveTo_of_ne calls same, Function.update_of_ne same, held]

theorem total_enter (phase : Option φ) :
    total weight (calls.enter phase) = total weight calls + worth weight phase := by
  have earlier : ∀ call ∈ Finset.range calls.next, held weight (calls.enter phase) call = held weight calls call := by
    intro call member
    rw [held, phase_enter_of_ne calls (Nat.ne_of_lt (Finset.mem_range.mp member)), held]
  rw [total, total, ← Finset.sum_congr rfl earlier]
  exact (Finset.sum_range_succ _ _).trans (by rw [held, phase_enter_self])

theorem total_moveTo (begun : call < calls.next) (phase : Option φ) :
    total weight (calls.moveTo call phase) + held weight calls call = total weight calls + worth weight phase := by
  have member : call ∈ Finset.range calls.next := Finset.mem_range.mpr begun
  have split := Finset.sum_eq_add_sum_sdiff_singleton_of_mem member (held weight calls)
  have moved : total weight (calls.moveTo call phase) =
      worth weight phase + ∑ other ∈ Finset.range calls.next \ {call}, held weight calls other := by
    rw [total, held_moveTo]
    exact Finset.sum_update_of_mem member _ _
  rw [moved, total, split]
  omega

namespace Moves

section

variable (moves : calls.Moves call after)
include moves

theorem fresh (fresh : calls.Fresh) : after.Fresh := by
  cases moves with
  | stay => exact fresh
  | enter phase => exact fresh.enter phase
  | moveTo running phase => exact fresh.moveTo running phase

theorem phase_of_ne {other : Nat} (different : other ≠ call) : after.phase other = calls.phase other := by
  cases moves with
  | stay => rfl
  | enter phase => exact phase_enter_of_ne calls different phase
  | moveTo running phase => exact phase_moveTo_of_ne calls different phase

theorem held_of_ne {other : Nat} (different : other ≠ call) : held weight after other = held weight calls other := by
  rw [held, moves.phase_of_ne different, held]

/-- The total changes by what the call has taken and given back. -/
theorem total (fresh : calls.Fresh) :
    Calls.total weight after + held weight calls call = Calls.total weight calls + held weight after call := by
  cases moves with
  | stay => rfl
  | enter =>
    have absent : held weight calls calls.next = 0 := by
      rw [held, fresh calls.next (Nat.le_refl _), worth, Option.elim]
    rw [total_enter, absent, held, phase_enter_self]
    rfl
  | moveTo running phase =>
    rw [total_moveTo weight (fresh.lt_next running) phase]
    rw [held, phase_moveTo_self]

end

end Moves

/-! ### One call in a run -/

section Ledger

variable {σ ι : Type} {machine : Machine σ ι}

/-- What a step adds to a counter, less what it takes from it, where it is a step of the call. -/
def change (machine : Machine σ ι) (counter : σ → Nat) (actor : σ → ι → Nat) (call : Nat) (state : σ) (op : ι) :
    List Int :=
  if actor state op = call then [(counter (machine.step state op) : Int) - counter state] else []

/-- What the steps of one call have changed a counter by in a run. -/
def changes (machine : Machine σ ι) (counter : σ → Nat) (actor : σ → ι → Nat) (call : Nat) (ops : List ι) : Int :=
  (machine.emitted (change machine counter actor call) ops).sum

/-- What the steps of a call have changed is what it holds, when each step changes the counter by what its call takes
and gives back, and no other call. -/
theorem changes_eq_held {counter : σ → Nat} {actor : σ → ι → Nat} (callsOf : σ → Calls φ) (inv : σ → Prop)
    (start : inv machine.init) (keeps : ∀ state op, inv state → inv (machine.step state op))
    (unbegun : ∀ call, held weight (callsOf machine.init) call = 0)
    (moves : ∀ state op, inv state → (callsOf state).Moves (actor state op) (callsOf (machine.step state op)))
    (counts : ∀ state op, inv state → counter (machine.step state op) + held weight (callsOf state) (actor state op) =
        counter state + held weight (callsOf (machine.step state op)) (actor state op)) (call : Nat) (ops : List ι) :
    changes machine counter actor call ops = held weight (callsOf (machine.run ops)) call := by
  have step : ∀ state history op, inv state ∧ history.sum = (held weight (callsOf state) call : Int) →
      inv (machine.step state op) ∧ (history ++ change machine counter actor call state op).sum =
        held weight (callsOf (machine.step state op)) call := by
    rintro state history op ⟨holds, sum⟩
    refine ⟨keeps state op holds, ?_⟩
    rw [List.sum_append, sum, change]
    by_cases own : actor state op = call
    · have changed := counts state op holds
      rw [own] at changed
      rw [if_pos own, List.sum_singleton]
      omega
    · rw [if_neg own, List.sum_nil, (moves state op holds).held_of_ne weight (Ne.symm own)]
      exact Int.add_zero _
  exact (Machine.history_invariant
    (fun state (history : List Int) => inv state ∧ history.sum = held weight (callsOf state) call)
    ⟨start, by rw [unbegun]; rfl⟩ step ops).2

end Ledger

end Calls

end Relational
