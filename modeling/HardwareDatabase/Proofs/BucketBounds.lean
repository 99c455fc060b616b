/-
Module: HardwareDatabase.Proofs.BucketBounds
Purpose: A token bucket keeps to its capacity and its rate: what a section could take is a budget of the clock.
Trusted boundary: none
-/
import HardwareDatabase.Limiter.TokenBucket

namespace HardwareDatabase.Limiter.TokenBucket

open Relational

/-! ### What a bucket could grant

The tokens of a bucket and what a refill would add to them; every round of a call pays from these. -/

/-- A bucket in order at a reading of the clock. -/
structure Solvent (bucket : TokenBucket) (clock : ℚ) : Prop where
  rate_pos : 0 < bucket.rate
  capacity_pos : 0 < bucket.capacity
  floor : -tolerance ≤ bucket.tokens
  ceiling : bucket.tokens ≤ bucket.capacity
  past : bucket.updated ≤ clock

/-- What a section could take at a reading of the clock. -/
def available (bucket : TokenBucket) (clock : ℚ) : ℚ :=
  min bucket.capacity (bucket.tokens + bucket.rate * (clock - bucket.updated)) + tolerance

theorem tolerance_pos : 0 < tolerance := by
  norm_num [tolerance]

variable {bucket : TokenBucket} {clock : ℚ}

theorem solvent_create (ratePerSecond : ℚ) (burst : Option ℚ) (now : ℚ) :
    (create ratePerSecond burst now).Solvent now := by
  have rate : 0 < (create ratePerSecond burst now).rate := lt_max_of_lt_left (by norm_num)
  have capacity : 0 < (create ratePerSecond burst now).capacity := lt_max_of_lt_left rate
  have tolerated := tolerance_pos
  refine ⟨rate, capacity, ?_, le_refl _, le_refl _⟩
  change -tolerance ≤ (create ratePerSecond burst now).capacity
  linarith

theorem available_le (bucket : TokenBucket) (clock : ℚ) : bucket.available clock ≤ bucket.capacity + tolerance :=
  add_le_add_left (min_le_left _ _) _

section

variable (solvent : bucket.Solvent clock)
include solvent

theorem Solvent.elapsed_nonneg : 0 ≤ bucket.rate * (clock - bucket.updated) :=
  mul_nonneg (le_of_lt solvent.rate_pos) (sub_nonneg.mpr solvent.past)

theorem Solvent.available_nonneg : 0 ≤ bucket.available clock := by
  have elapsed := solvent.elapsed_nonneg
  have enough : -tolerance ≤ min bucket.capacity (bucket.tokens + bucket.rate * (clock - bucket.updated)) := by
    apply le_min
    · linarith [solvent.floor, solvent.ceiling]
    · linarith [solvent.floor]
  unfold available
  linarith

theorem Solvent.available_advance (elapsed : ℚ≥0) :
    bucket.available (clock + elapsed) ≤ bucket.available clock + bucket.rate * elapsed := by
  have grows : 0 ≤ bucket.rate * elapsed := mul_nonneg (le_of_lt solvent.rate_pos) elapsed.2
  have split : bucket.tokens + bucket.rate * (clock + elapsed - bucket.updated) =
      bucket.tokens + bucket.rate * (clock - bucket.updated) + bucket.rate * elapsed := by ring
  unfold available
  rw [split]
  have later : min bucket.capacity
        (bucket.tokens + bucket.rate * (clock - bucket.updated) + bucket.rate * elapsed) ≤
      min bucket.capacity (bucket.tokens + bucket.rate * (clock - bucket.updated)) +
        bucket.rate * elapsed := by
    rw [← min_add_add_right]
    exact min_le_min_right _ (by linarith)
  linarith

theorem Solvent.advance (elapsed : ℚ≥0) : bucket.Solvent (clock + elapsed) :=
  { solvent with past := le_trans solvent.past (le_add_of_nonneg_right elapsed.2) }

end

/-! ### Sections -/

/-- What a section does to a bucket: the amount is paid from what it could take. -/
structure Pays (before after : TokenBucket) (clock amount : ℚ) : Prop where
  solvent : after.Solvent clock
  rate : after.rate = before.rate
  capacity : after.capacity = before.capacity
  paid : after.available clock + amount = before.available clock

section

variable (solvent : bucket.Solvent clock)
include solvent

theorem Solvent.refill :
    Pays bucket (bucket.refill clock) clock 0 ∧ (bucket.refill clock).tokens + tolerance = bucket.available clock ∧
      (bucket.refill clock).updated = clock := by
  rcases solvent.past.eq_or_lt with same | earlier
  · have still : bucket.refill clock = bucket := by simp [TokenBucket.refill, same]
    rw [still]
    refine ⟨⟨solvent, rfl, rfl, add_zero _⟩, ?_, same⟩
    rw [available, same, sub_self, mul_zero, add_zero, min_eq_right solvent.ceiling]
  · have passed := sub_pos.mpr earlier
    have filled : bucket.refill clock =
        { bucket with
          tokens := min bucket.capacity (bucket.tokens + bucket.rate * (clock - bucket.updated))
          updated := clock } := by
      simp [TokenBucket.refill, earlier, max_eq_right (le_of_lt passed), mul_comm]
    have enough := solvent.available_nonneg
    rw [available] at enough
    rw [filled]
    refine ⟨⟨⟨solvent.rate_pos, solvent.capacity_pos, ?_, min_le_left _ _, le_refl _⟩, rfl, rfl, ?_⟩, rfl, rfl⟩
    · dsimp only
      linarith
    · simp only [available, sub_self, mul_zero, add_zero, ← min_assoc, min_self]

theorem Solvent.spend {tokens : ℚ≥0} (enough : tokens ≤ (bucket.refill clock).tokens + tolerance) :
    Pays bucket ((bucket.refill clock).spend tokens) clock tokens := by
  obtain ⟨filled, holds, current⟩ := solvent.refill
  have amount : (0 : ℚ) ≤ tokens := tokens.2
  have lower : (bucket.refill clock).tokens - tokens ≤ (bucket.refill clock).capacity := by
    linarith [filled.solvent.ceiling]
  refine ⟨⟨filled.solvent.rate_pos, filled.solvent.capacity_pos, ?_, lower, filled.solvent.past⟩, filled.rate,
    filled.capacity, ?_⟩
  · change -tolerance ≤ (bucket.refill clock).tokens - tokens
    linarith
  · have left : ((bucket.refill clock).spend tokens).available clock =
        (bucket.refill clock).tokens - tokens + tolerance := by
      rw [available, TokenBucket.spend]
      dsimp only
      rw [current, sub_self, mul_zero, add_zero, min_eq_right lower]
    rw [left]
    linarith

theorem Solvent.take (tokens : ℚ≥0) :
    Pays bucket (bucket.take tokens clock).1 clock (if (bucket.take tokens clock).2 then tokens else 0) := by
  by_cases lacking : (bucket.refill clock).tokens + tolerance < tokens
  · have refused : bucket.take tokens clock = (bucket.refill clock, false) := if_pos lacking
    rw [refused]
    exact solvent.refill.1
  · have granted : bucket.take tokens clock = ((bucket.refill clock).spend tokens, true) := if_neg lacking
    rw [granted]
    exact solvent.spend (not_lt.mp lacking)

theorem Solvent.waitRound (tokens : ℚ≥0) : Pays bucket (bucket.waitRound tokens clock).1 clock
      (if (bucket.waitRound tokens clock).2 = none then tokens else 0) := by
  by_cases enough : tokens ≤ (bucket.refill clock).tokens + tolerance
  · have granted : bucket.waitRound tokens clock = ((bucket.refill clock).spend tokens, none) := if_pos enough
    rw [granted]
    exact solvent.spend enough
  · have refused : bucket.waitRound tokens clock =
        (bucket.refill clock, some ((tokens - (bucket.refill clock).tokens) / (bucket.refill clock).rate)) :=
      if_neg enough
    rw [refused]
    exact solvent.refill.1

end

/-! ### Runs -/

variable (ratePerSecond : ℚ) (burst : Option ℚ) (created : ℚ)

/-- The bucket is in order, with the rate and the capacity that it was made with. -/
def Orderly (state : State) : Prop :=
  state.bucket.Solvent state.clock ∧
    state.bucket.rate = (create ratePerSecond burst created).rate ∧
    state.bucket.capacity = (create ratePerSecond burst created).capacity

variable {ratePerSecond} {burst} {created} {state : State}

theorem State.step_cases (solvent : state.bucket.Solvent state.clock) (op : Op) : (∃ elapsed, op = .advance elapsed) ∨
      ∃ after waits, state.step op = { state with bucket := after, waits } ∧
        ((state.grants op = [] ∧ Pays state.bucket after state.clock 0) ∨
          ∃ amount, state.grants op = [(state.clock, amount)] ∧ Pays state.bucket after state.clock amount) := by
  have untouched : Pays state.bucket state.bucket state.clock 0 := ⟨solvent, rfl, rfl, add_zero _⟩
  cases op with
  | advance elapsed => exact Or.inl ⟨elapsed, rfl⟩
  | tokensAvailable => exact Or.inr ⟨_, state.waits, rfl, Or.inl ⟨rfl, solvent.refill.1⟩⟩
  | take tokens =>
    refine Or.inr ⟨_, state.waits, rfl, ?_⟩
    have paid := solvent.take tokens.toNNRat
    simp only [grants]
    split
    · rename_i granted
      rw [if_pos granted] at paid
      exact Or.inr ⟨_, rfl, paid⟩
    · rename_i refused
      rw [if_neg refused] at paid
      exact Or.inl ⟨rfl, paid⟩
  | wait => exact Or.inr ⟨state.bucket, _, rfl, Or.inl ⟨rfl, untouched⟩⟩
  | round =>
    right
    simp only [step, grants]
    split
    · rename_i tokens deadline _
      refine ⟨_, _, rfl, ?_⟩
      have paid := solvent.waitRound tokens
      split
      · rename_i granted
        rw [if_pos granted] at paid
        exact Or.inr ⟨_, rfl, paid⟩
      · rename_i refused
        rw [if_neg refused] at paid
        exact Or.inl ⟨rfl, paid⟩
    · exact ⟨state.bucket, state.waits, rfl, Or.inl ⟨rfl, untouched⟩⟩
  | look call =>
    refine Or.inr ⟨state.bucket, (state.step (.look call)).waits, ?_, Or.inl ⟨rfl, untouched⟩⟩
    simp only [step]
    split
    · split
      · rfl
      · rfl
    · rfl
  | wake call =>
    refine Or.inr ⟨state.bucket, (state.step (.wake call)).waits, ?_, Or.inl ⟨rfl, untouched⟩⟩
    simp only [step]
    split
    · split
      · rfl
      · rfl
    · rfl

variable (ratePerSecond burst created)

theorem calls_budget :
    Budget (calls ratePerSecond burst created) (fun _ _ => True) State.grants (Orderly ratePerSecond burst created)
      State.clock (fun state => state.bucket.available state.clock) (create ratePerSecond burst created).rate
      ((create ratePerSecond burst created).capacity + tolerance) where
  start := ⟨solvent_create ratePerSecond burst created, rfl, rfl⟩
  nonneg state orderly := orderly.1.available_nonneg
  bounded := by
    rintro state ⟨-, -, capacity⟩
    rw [← capacity]
    exact available_le state.bucket state.clock
  step := by
    rintro state op ⟨solvent, rate, capacity⟩ -
    change Orderly ratePerSecond burst created (state.step op)
    rcases state.step_cases solvent op with ⟨elapsed, rfl⟩ | ⟨after, waits, next, ⟨-, pays⟩ | ⟨amount, -, pays⟩⟩
    · exact ⟨solvent.advance elapsed, rate, capacity⟩
    · rw [next]
      exact ⟨pays.solvent, pays.rate.trans rate, pays.capacity.trans capacity⟩
    · rw [next]
      exact ⟨pays.solvent, pays.rate.trans rate, pays.capacity.trans capacity⟩
  spends := by
    rintro state op ⟨solvent, rate, capacity⟩ -
    change (_ ∧ state.clock ≤ (state.step op).clock ∧ (state.step op).bucket.available (state.step op).clock ≤
        state.bucket.available state.clock + _ * ((state.step op).clock - state.clock)) ∨
      ((state.step op).clock = state.clock ∧ ∃ amount, _ ∧
        (state.step op).bucket.available (state.step op).clock + amount ≤ state.bucket.available state.clock)
    rcases state.step_cases solvent op with ⟨elapsed, rfl⟩ | ⟨after, waits, next, ⟨quiet, pays⟩ | ⟨amount, here, pays⟩⟩
    · refine Or.inl ⟨rfl, le_add_of_nonneg_right elapsed.2, ?_⟩
      rw [← rate]
      change state.bucket.available (state.clock + elapsed) ≤
        state.bucket.available state.clock + state.bucket.rate * (state.clock + elapsed - state.clock)
      rw [add_sub_cancel_left]
      exact solvent.available_advance elapsed
    · rw [next]
      refine Or.inl ⟨quiet, le_refl _, ?_⟩
      dsimp only
      rw [sub_self, mul_zero, ← pays.paid, add_zero, add_zero]
    · rw [next]
      exact Or.inr ⟨rfl, amount, here, le_of_eq pays.paid⟩

theorem orderly_run (ops : List Op) :
    Orderly ratePerSecond burst created ((calls ratePerSecond burst created).run ops) :=
  Machine.invariant _ (calls_budget ratePerSecond burst created).start
    (fun state op orderly => (calls_budget ratePerSecond burst created).step state op orderly trivial) ops

theorem granted_of_grantCount_eq_zero {start stop : ℚ} {ops : List Op}
    (none : grantCount ratePerSecond burst created start stop ops = 0) :
    granted ratePerSecond burst created start stop ops = 0 := by
  have empty := List.length_eq_zero_iff.mp none
  rw [granted, spentWithin, empty]
  rfl

/-- What a bucket grants in a window is bounded by its capacity, its rate and the tolerance of each grant, and its
tokens stay within its capacity. -/
theorem grants_keep_to_capacity (ops : List Op) :
    ((calls ratePerSecond burst created).run ops).bucket.tokens ≤ (create ratePerSecond burst created).capacity ∧
      ∀ start stop, start ≤ stop →
        granted ratePerSecond burst created start stop ops ≤ (create ratePerSecond burst created).capacity +
            (create ratePerSecond burst created).rate * (stop - start) +
            tolerance * grantCount ratePerSecond burst created start stop ops := by
  obtain ⟨solvent, -, capacity⟩ := orderly_run ratePerSecond burst created ops
  refine ⟨capacity ▸ solvent.ceiling, fun start stop ordered => ?_⟩
  have made := solvent_create ratePerSecond burst created
  have grows := mul_nonneg (le_of_lt made.rate_pos) (sub_nonneg.mpr ordered)
  rcases Nat.eq_zero_or_pos (grantCount ratePerSecond burst created start stop ops) with none | some
  · rw [granted_of_grantCount_eq_zero ratePerSecond burst created none, none, Nat.cast_zero, mul_zero]
    linarith [made.capacity_pos]
  · have respects : (calls ratePerSecond burst created).Respects (fun _ _ => True) ops := fun _ _ _ _ => trivial
    have within := (calls_budget ratePerSecond burst created).spentWithin_le (le_of_lt made.rate_pos) respects start
      (sub_nonneg.mpr ordered)
    rw [add_sub_cancel] at within
    have one : (1 : ℚ) ≤ grantCount ratePerSecond burst created start stop ops := Nat.one_le_cast.mpr some
    have tolerated : tolerance * 1 ≤ tolerance * grantCount ratePerSecond burst created start stop ops :=
      mul_le_mul_of_nonneg_left one (le_of_lt tolerance_pos)
    unfold granted
    linarith

end HardwareDatabase.Limiter.TokenBucket
