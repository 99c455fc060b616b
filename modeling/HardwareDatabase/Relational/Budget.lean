/-
Module: HardwareDatabase.Relational.Budget
Purpose: Amounts that are spent at instants of a clock, and the bound that a budget puts on them within a window of
  time.
Trusted boundary: none
-/
import HardwareDatabase.Relational.Run
import Mathlib.Algebra.Order.Field.Basic
import Mathlib.Tactic.Linarith
import Mathlib.Tactic.Ring

namespace Relational

variable {σ ι 𝕜 : Type}

/-! ### Windows -/

section Window

variable [AddMonoid 𝕜] [LinearOrder 𝕜]

/-- What is spent from one instant to another, both included. -/
def spentWithin (start stop : 𝕜) (spent : List (𝕜 × 𝕜)) : 𝕜 :=
  ((spent.filter fun entry => start ≤ entry.1 ∧ entry.1 ≤ stop).map (·.2)).sum

@[simp] theorem spentWithin_nil (start stop : 𝕜) : spentWithin start stop [] = 0 := by
  simp [spentWithin]

theorem spentWithin_concat_of_mem {start stop instant : 𝕜} (spent : List (𝕜 × 𝕜)) (amount : 𝕜)
    (begun : start ≤ instant) (ending : instant ≤ stop) :
    spentWithin start stop (spent ++ [(instant, amount)]) = spentWithin start stop spent + amount := by
  simp [spentWithin, List.filter_append, begun, ending]

theorem spentWithin_concat_of_lt {start instant : 𝕜} (spent : List (𝕜 × 𝕜)) (stop amount : 𝕜)
    (early : instant < start) :
    spentWithin start stop (spent ++ [(instant, amount)]) = spentWithin start stop spent := by
  simp [spentWithin, List.filter_append, not_le.mpr early]

theorem spentWithin_concat_of_gt {stop instant : 𝕜} (spent : List (𝕜 × 𝕜)) (start amount : 𝕜) (late : stop < instant) :
    spentWithin start stop (spent ++ [(instant, amount)]) = spentWithin start stop spent := by
  simp [spentWithin, List.filter_append, not_le.mpr late]

end Window

/-! ### Budgets -/

variable [Field 𝕜] [LinearOrder 𝕜] [IsStrictOrderedRing 𝕜]

/-- A budget for the runs whose steps meet a guard. A step lets time pass or spends an amount. -/
structure Budget (machine : Machine σ ι) (guard : σ → ι → Prop) (emit : σ → ι → List (𝕜 × 𝕜)) (inv : σ → Prop)
    (clock available : σ → 𝕜) (rate burst : 𝕜) : Prop where
  start : inv machine.init
  nonneg : ∀ state, inv state → 0 ≤ available state
  bounded : ∀ state, inv state → available state ≤ burst
  step : ∀ state op, inv state → guard state op → inv (machine.step state op)
  spends : ∀ state op, inv state → guard state op →
    (emit state op = [] ∧ clock state ≤ clock (machine.step state op) ∧
      available (machine.step state op) ≤
        available state + rate * (clock (machine.step state op) - clock state)) ∨
    (clock (machine.step state op) = clock state ∧ ∃ amount, emit state op = [(clock state, amount)] ∧
      available (machine.step state op) + amount ≤ available state)

variable {machine : Machine σ ι} {guard : σ → ι → Prop} {emit : σ → ι → List (𝕜 × 𝕜)} {inv : σ → Prop}
  {clock available : σ → 𝕜} {rate burst : 𝕜}

/-- What has been spent of a window that begins at `start` and is `length` long. -/
structure Within (clock available : σ → 𝕜) (rate burst start length : 𝕜) (state : σ) (spent : List (𝕜 × 𝕜)) :
    Prop where
  before : clock state < start → spentWithin start (start + length) spent = 0
  during : start ≤ clock state → clock state ≤ start + length →
    spentWithin start (start + length) spent + available state ≤ burst + rate * (clock state - start)
  total : spentWithin start (start + length) spent ≤ burst + rate * length

/-- Time passes, and the budget grows by no more than the rate allows. -/
theorem Within.passes {start length : 𝕜} {state next : σ} {spent : List (𝕜 × 𝕜)}
    (within : Within clock available rate burst start length state spent) (increasing : 0 ≤ rate)
    (bounded : available next ≤ burst) (passed : clock state ≤ clock next)
    (refilled : available next ≤ available state + rate * (clock next - clock state)) :
    Within clock available rate burst start length next spent where
  before early := within.before (lt_of_le_of_lt passed early)
  during begun ending := by
    by_cases earlier : clock state < start
    · have elapsed : 0 ≤ rate * (clock next - start) := mul_nonneg increasing (sub_nonneg.mpr begun)
      rw [within.before earlier]
      linarith
    · have spentSoFar := within.during (not_lt.mp earlier) (le_trans passed ending)
      have split : rate * (clock next - start) =
          rate * (clock state - start) + rate * (clock next - clock state) := by ring
      linarith
  total := within.total

/-- An amount is spent from the budget, at an instant within the window or outside of it. -/
theorem Within.pays {start length : 𝕜} {state next : σ} {spent : List (𝕜 × 𝕜)} {amount : 𝕜}
    (within : Within clock available rate burst start length state spent) (increasing : 0 ≤ rate)
    (nonneg : 0 ≤ available next) (still : clock next = clock state)
    (paid : available next + amount ≤ available state) :
    Within clock available rate burst start length next (spent ++ [(clock state, amount)]) := by
  by_cases early : clock state < start
  · have same := spentWithin_concat_of_lt spent (start + length) amount early
    refine ⟨fun _ => ?_, fun begun => ?_, ?_⟩
    · rw [same]
      exact within.before early
    · rw [still] at begun
      exact absurd begun (not_le.mpr early)
    · rw [same]
      exact within.total
  · have begun := not_lt.mp early
    by_cases late : start + length < clock state
    · have same := spentWithin_concat_of_gt spent start amount late
      refine ⟨fun before => ?_, fun _ ending => ?_, ?_⟩
      · rw [still] at before
        exact absurd before early
      · rw [still] at ending
        exact absurd ending (not_le.mpr late)
      · rw [same]
        exact within.total
    · have ending := not_lt.mp late
      have spentSoFar := within.during begun ending
      have adds := spentWithin_concat_of_mem spent amount begun ending
      refine ⟨fun before => ?_, fun _ _ => ?_, ?_⟩
      · rw [still] at before
        exact absurd before early
      · rw [adds, still]
        linarith
      · have elapsed : rate * (clock state - start) ≤ rate * length := by
          apply mul_le_mul_of_nonneg_left _ increasing
          linarith
        rw [adds]
        linarith

/-- In every window no more is spent than the burst and what the rate adds over its length. -/
theorem Budget.spentWithin_le (budget : Budget machine guard emit inv clock available rate burst)
    (increasing : 0 ≤ rate) {ops : List ι} (respects : machine.Respects guard ops) (start : 𝕜) {length : 𝕜}
    (positive : 0 ≤ length) :
    spentWithin start (start + length) (machine.emitted emit ops) ≤ burst + rate * length := by
  have unspent : Within clock available rate burst start length machine.init [] := by
    refine ⟨fun _ => spentWithin_nil _ _, fun begun _ => ?_, ?_⟩
    · have elapsed : 0 ≤ rate * (clock machine.init - start) := mul_nonneg increasing (sub_nonneg.mpr begun)
      rw [spentWithin_nil]
      linarith [budget.bounded _ budget.start]
    · have grows : 0 ≤ rate * length := mul_nonneg increasing positive
      rw [spentWithin_nil]
      linarith [budget.nonneg _ budget.start, budget.bounded _ budget.start]
  have step : ∀ state (spent : List (𝕜 × 𝕜)) op,
      inv state ∧ Within clock available rate burst start length state spent → guard state op →
        inv (machine.step state op) ∧
          Within clock available rate burst start length (machine.step state op) (spent ++ emit state op) := by
    rintro state spent op ⟨holds, within⟩ allowed
    have next := budget.step state op holds allowed
    refine ⟨next, ?_⟩
    rcases budget.spends state op holds allowed with ⟨quiet, passed, refilled⟩ | ⟨still, amount, here, paid⟩
    · rw [quiet, List.append_nil]
      exact within.passes increasing (budget.bounded _ next) passed refilled
    · rw [here]
      exact within.pays increasing (budget.nonneg _ next) still paid
  exact (Machine.guarded_history _ ⟨budget.start, unspent⟩ step respects).2.total

end Relational
