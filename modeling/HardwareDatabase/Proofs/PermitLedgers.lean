/-
Module: HardwareDatabase.Proofs.PermitLedgers
Purpose: The units taken from the semaphores of a resource are what attempts, permits and releases hold at their
  stages.
Trusted boundary: none
-/
import HardwareDatabase.Governor.ProcessPermits
import HardwareDatabase.Relational.Census

namespace HardwareDatabase.Governor

open Relational
open Relational.Calls (Moves worth held total changes)

variable {state middle : ProcessState} {call : Nat} {interactive : Bool}

/-! ### What calls hold -/

/-- The counters of the claim on a resource. -/
inductive Ledger
  | total
  | background
  | waiters
deriving Repr, DecidableEq

/-- What a counter shows. -/
def ProcessState.counter (state : ProcessState) : Ledger → Nat
  | .total => state.total.taken
  | .background => state.background.taken
  | .waiters => state.waiters

/-- The attempt has not returned. -/
def PermitStage.attempts : PermitStage → Bool
  | .entered | .awaitsBackground | .awaitsTotal | .withdrawing | .refused | .acquired | .leaving => true
  | .granted | .releasing | .freesTotal | .freesBackground => false

/-- The stages from the taking of a total unit to its release. -/
def PermitStage.holdsTotal : PermitStage → Bool
  | .acquired | .leaving | .granted | .releasing | .freesTotal => true
  | .entered | .awaitsBackground | .awaitsTotal | .withdrawing | .refused | .freesBackground => false

/-- The stages from the taking of a background unit to its release. -/
def PermitStage.holdsBackground : PermitStage → Bool
  | .awaitsTotal | .withdrawing | .acquired | .leaving | .granted | .releasing | .freesTotal | .freesBackground => true
  | .entered | .awaitsBackground | .refused => false

/-- What a call holds of a counter. -/
def Ledger.weight : Ledger → PermitCall → Nat
  | .total, call => call.stage.holdsTotal.toNat
  | .background, call => (!call.interactive && call.stage.holdsBackground).toNat
  | .waiters, call => call.stage.attempts.toNat

/-- A permit that has been granted and not released. -/
def granted (call : PermitCall) : Nat :=
  (decide (call.stage = .granted)).toNat

/-- Such a permit of a background caller. -/
def grantedBackground (call : PermitCall) : Nat :=
  (!call.interactive && decide (call.stage = .granted)).toNat

/-- No interactive caller is at a stage that only background callers reach. -/
def PermitCall.Reached (call : PermitCall) : Prop :=
  call.interactive = true → call.stage ≠ .awaitsBackground ∧ call.stage ≠ .withdrawing ∧ call.stage ≠ .freesBackground

/-! ### Semaphores -/

namespace Semaphore

variable {semaphore after : Semaphore}

/-- The value does not exceed the initial one. -/
def Bounded (semaphore : Semaphore) : Prop :=
  semaphore.value ≤ semaphore.initial

private theorem bounded_create (initial : Nat) : (create initial).Bounded :=
  Nat.le_refl initial

private theorem taken_create (initial : Nat) : (create initial).taken = 0 :=
  Nat.sub_self initial

private theorem Bounded.acquire (bounded : semaphore.Bounded) (done : semaphore.acquire = some after) :
    after.Bounded ∧ after.taken = semaphore.taken + 1 := by
  obtain ⟨positive, made⟩ := Option.ite_none_right_eq_some.mp done
  cases made
  have within : semaphore.value ≤ semaphore.initial := bounded
  exact ⟨Nat.le_trans (Nat.sub_le _ _) bounded, by simp only [taken]; omega⟩

private theorem Bounded.release (bounded : semaphore.Bounded) (some : 1 ≤ semaphore.taken) :
    ∃ after, semaphore.release = .some after ∧ after.Bounded ∧ after.taken + 1 = semaphore.taken := by
  have within : semaphore.value ≤ semaphore.initial := bounded
  simp only [taken] at some
  refine ⟨_, if_neg (by omega), ?_, ?_⟩
  · show semaphore.value + 1 ≤ semaphore.initial
    omega
  · simp only [taken]
    omega

end Semaphore

/-! ### Steps

A step exchanges what its call holds for a change of the counters. -/

/-- The counters show what the calls hold. -/
structure Balanced (state : ProcessState) : Prop where
  fresh : state.calls.Fresh
  totalBounded : state.total.Bounded
  backgroundBounded : state.background.Bounded
  counts : ∀ ledger, state.counter ledger = total (Ledger.weight ledger) state.calls
  reached : ∀ call running, state.calls.phase call = some running → running.Reached

/-- What a step of a call does to the counters. -/
structure Exchanges (before after : ProcessState) (call : Nat) : Prop where
  moves : before.calls.Moves call after.calls
  totalBounded : after.total.Bounded
  backgroundBounded : after.background.Bounded
  counts : ∀ ledger, after.counter ledger + held ledger.weight before.calls call =
    before.counter ledger + held ledger.weight after.calls call
  reached : ∀ running, after.calls.phase call = some running → running.Reached

private theorem Balanced.exchanges {after : ProcessState} (balanced : Balanced state)
    (step : Exchanges state after call) :
    Balanced after where
  fresh := step.moves.fresh balanced.fresh
  totalBounded := step.totalBounded
  backgroundBounded := step.backgroundBounded
  counts ledger := by
    have counter := step.counts ledger
    rw [balanced.counts ledger] at counter
    exact Nat.add_right_cancel (counter.trans (step.moves.total ledger.weight balanced.fresh).symm)
  reached other running here := by
    by_cases same : other = call
    · subst same
      exact step.reached running here
    · rw [step.moves.phase_of_ne same] at here
      exact balanced.reached other running here

private theorem Balanced.le_counter (balanced : Balanced state) {old : PermitCall}
    (running : state.calls.phase call = some old)
    (ledger : Ledger) : ledger.weight old ≤ state.counter ledger := by
  have moved := (Moves.moveTo running none).total ledger.weight balanced.fresh
  simp only [held, running, Calls.phase_moveTo_self, worth, Option.elim] at moved
  rw [balanced.counts ledger]
  omega

private theorem Balanced.moveTo {old : PermitCall} {new : Option PermitCall}
    (running : state.calls.phase call = some old)
    (same : middle.calls = state.calls) (totalBounded : middle.total.Bounded)
    (backgroundBounded : middle.background.Bounded) (reached : ∀ next, new = some next → next.Reached)
    (counts : ∀ ledger : Ledger, middle.counter ledger + ledger.weight old =
      state.counter ledger + worth ledger.weight new) :
    Exchanges state { middle with calls := middle.calls.moveTo call new } call where
  moves := by
    rw [same]
    exact .moveTo running new
  totalBounded := totalBounded
  backgroundBounded := backgroundBounded
  counts ledger := by
    rw [held, running, held, Calls.phase_moveTo_self]
    exact counts ledger
  reached next here := by
    rw [Calls.phase_moveTo_self] at here
    exact reached next here

section

variable (balanced : Balanced state)
include balanced

private theorem Balanced.stays (call : Nat) : Exchanges state state call where
  moves := .stay call
  totalBounded := balanced.totalBounded
  backgroundBounded := balanced.backgroundBounded
  counts _ := rfl
  reached := balanced.reached call

private theorem Balanced.awaitBackground
    (running : state.calls.phase call = some { interactive, stage := .awaitsBackground }) (stopped : Bool) :
    Exchanges state (state.awaitBackground call interactive stopped) call := by
  obtain rfl : interactive = false := Bool.eq_false_iff.mpr fun yes => (balanced.reached _ _ running yes).1 rfl
  cases stopped with
  | true =>
    refine Balanced.moveTo running rfl balanced.totalBounded balanced.backgroundBounded ?_ ?_
    · rintro _ ⟨⟩
      nofun
    · intro ledger
      cases ledger <;> rfl
  | false =>
    simp only [ProcessState.awaitBackground, Bool.false_eq_true, if_false]
    split
    · rename_i background taken
      obtain ⟨bounded, more⟩ := balanced.backgroundBounded.acquire taken
      refine @Balanced.moveTo state { state with background } _ _ _ running rfl balanced.totalBounded bounded ?_ ?_
      · rintro _ ⟨⟩
        nofun
      · intro ledger
        cases ledger with
        | total => rfl
        | background => exact more
        | waiters => rfl
    · exact balanced.stays call

private theorem Balanced.awaitTotal
    (running : state.calls.phase call = some { interactive, stage := .awaitsTotal }) (stopped : Bool) :
    Exchanges state (state.awaitTotal call interactive stopped) call := by
  cases stopped with
  | true =>
    refine Balanced.moveTo running rfl balanced.totalBounded balanced.backgroundBounded ?_ ?_
    · rintro _ ⟨⟩
      cases interactive
      · nofun
      · exact fun _ => ⟨nofun, nofun, nofun⟩
    · intro ledger
      cases ledger <;> cases interactive <;> rfl
  | false =>
    simp only [ProcessState.awaitTotal, Bool.false_eq_true, if_false]
    split
    · rename_i total taken
      obtain ⟨bounded, more⟩ := balanced.totalBounded.acquire taken
      refine @Balanced.moveTo state { state with total } _ _ _ running rfl bounded balanced.backgroundBounded ?_ ?_
      · rintro _ ⟨⟩
        exact fun _ => ⟨nofun, nofun, nofun⟩
      · intro ledger
        cases ledger with
        | total => exact more
        | background => rfl
        | waiters => rfl
    · exact balanced.stays call

private theorem Balanced.freeTotal (running : state.calls.phase call = some { interactive, stage := .freesTotal }) :
    Exchanges state (state.freeTotal call interactive) call := by
  obtain ⟨freed, released, bounded, less⟩ :=
    balanced.totalBounded.release (balanced.le_counter running .total)
  rw [ProcessState.freeTotal, released]
  cases interactive with
  | true =>
    refine @Balanced.moveTo state { state with total := freed } _ _ _ running rfl bounded balanced.backgroundBounded
      (fun _ => nofun) fun ledger => ?_
    cases ledger with
    | total => exact less
    | background => rfl
    | waiters => rfl
  | false =>
    refine @Balanced.moveTo state { state with total := freed } _ _ _ running rfl bounded balanced.backgroundBounded
      ?_ fun ledger => ?_
    · rintro _ ⟨⟩
      nofun
    · cases ledger with
      | total => exact less
      | background => rfl
      | waiters => rfl

end

private theorem Balanced.freeBackground (balanced : Balanced state) {stage : PermitStage} {new : Option PermitCall}
    (running : state.calls.phase call = some { interactive, stage }) (background : interactive = false)
    (holds : stage.holdsBackground = true) (reached : ∀ next, new = some next → next.Reached)
    (unheld : ∀ ledger : Ledger, worth ledger.weight new + (match ledger with | .background => 1 | _ => 0) =
      ledger.weight { interactive, stage }) :
    Exchanges state { state with
        background := state.background.release.getD state.background
        calls := state.calls.moveTo call new } call := by
  subst background
  have counted := balanced.le_counter running .background
  simp only [Ledger.weight, holds] at counted
  obtain ⟨freed, released, bounded, less⟩ := balanced.backgroundBounded.release counted
  rw [released]
  refine @Balanced.moveTo state { state with background := freed } _ _ _ running rfl balanced.totalBounded bounded
    reached fun ledger => ?_
  have weights := (unheld ledger).symm
  cases ledger with
  | total => exact congrArg (state.total.taken + ·) weights
  | background =>
    have one : Ledger.background.weight { interactive := false, stage } = worth Ledger.background.weight new + 1 :=
      weights
    show freed.taken + _ = state.background.taken + _
    rw [one, ← less]
    omega
  | waiters => exact congrArg (state.waiters + ·) weights

private theorem Balanced.proceed (balanced : Balanced state) {stage : PermitStage} (cancelled expired : Bool)
    (running : state.calls.phase call = some { interactive, stage }) :
    Exchanges state (state.proceed call interactive cancelled expired stage) call := by
  have bounds := balanced.totalBounded
  have limits := balanced.backgroundBounded
  cases stage with
  | entered =>
    refine Balanced.moveTo running rfl bounds limits ?_ fun ledger => ?_
    · rintro _ ⟨⟩
      cases interactive <;> cases cancelled
      · nofun
      · nofun
      · exact fun _ => ⟨nofun, nofun, nofun⟩
      · exact fun _ => ⟨nofun, nofun, nofun⟩
    · cases ledger <;> cases interactive <;> cases cancelled <;> rfl
  | awaitsBackground => exact balanced.awaitBackground running _
  | awaitsTotal => exact balanced.awaitTotal running _
  | withdrawing =>
    have background : interactive = false :=
      Bool.eq_false_iff.mpr fun yes => (balanced.reached _ _ running yes).2.1 rfl
    refine @Balanced.freeBackground _ _ _ balanced _ (some { interactive, stage := .refused }) running background rfl
      ?_ fun ledger => ?_
    · rintro _ ⟨⟩
      exact fun _ => ⟨nofun, nofun, nofun⟩
    · subst background
      cases ledger <;> rfl
  | refused =>
    have counted := balanced.le_counter running .waiters
    refine @Balanced.moveTo state { state with waiters := state.waiters - 1 } _ _ none running rfl bounds limits
      (fun _ => nofun) fun ledger => ?_
    cases ledger with
    | total => rfl
    | background => cases interactive <;> rfl
    | waiters => exact Nat.sub_add_cancel counted
  | acquired =>
    refine @Balanced.moveTo state { state with active := state.active + 1 } _ _
      (some { interactive, stage := .leaving }) running rfl bounds limits ?_ fun ledger => ?_
    · rintro _ ⟨⟩
      exact fun _ => ⟨nofun, nofun, nofun⟩
    · cases ledger <;> rfl
  | leaving =>
    have counted := balanced.le_counter running .waiters
    refine @Balanced.moveTo state { state with waiters := state.waiters - 1 } _ _
      (some { interactive, stage := .granted }) running rfl bounds limits ?_ fun ledger => ?_
    · rintro _ ⟨⟩
      exact fun _ => ⟨nofun, nofun, nofun⟩
    · cases ledger with
      | total => rfl
      | background => rfl
      | waiters => exact Nat.sub_add_cancel counted
  | granted => exact balanced.stays call
  | releasing =>
    refine @Balanced.moveTo state { state with active := state.active - 1 } _ _
      (some { interactive, stage := .freesTotal }) running rfl bounds limits ?_ fun ledger => ?_
    · rintro _ ⟨⟩
      exact fun _ => ⟨nofun, nofun, nofun⟩
    · cases ledger <;> rfl
  | freesTotal => exact balanced.freeTotal running
  | freesBackground =>
    have background : interactive = false :=
      Bool.eq_false_iff.mpr fun yes => (balanced.reached _ _ running yes).2.2 rfl
    refine @Balanced.freeBackground _ _ _ balanced _ none running background rfl (fun _ => nofun) fun ledger => ?_
    subst background
    cases ledger <;> rfl

private theorem Balanced.perform (balanced : Balanced state) (queueMaxDepth : Nat) (op : PermitOp) :
    Exchanges state (state.perform queueMaxDepth op) (state.caller op) := by
  have bounds := balanced.totalBounded
  have limits := balanced.backgroundBounded
  have begins : ∀ ledger : Ledger, held ledger.weight state.calls state.calls.next = 0 := by
    intro ledger
    rw [held, balanced.fresh _ (Nat.le_refl _)]
    rfl
  cases op with
  | enter interactive =>
    simp only [ProcessState.perform]
    split
    · refine ⟨.enter none, bounds, limits, fun ledger => ?_, fun running here => ?_⟩
      · rw [ProcessState.caller, begins, held, Calls.phase_enter_self]
        rfl
      · rw [ProcessState.caller, Calls.phase_enter_self] at here
        cases here
    · refine ⟨.enter _, bounds, limits, fun ledger => ?_, fun running here => ?_⟩
      · rw [ProcessState.caller, begins, held, Calls.phase_enter_self]
        cases ledger <;> cases interactive <;> rfl
      · rw [ProcessState.caller, Calls.phase_enter_self] at here
        cases here
        exact fun _ => ⟨by simp, by simp, by simp⟩
  | proceed call cancelled expired =>
    simp only [ProcessState.perform]
    split
    · exact balanced.stays call
    · rename_i running here
      exact balanced.proceed cancelled expired here
  | release call =>
    simp only [ProcessState.perform]
    split
    · rename_i interactive here
      refine Balanced.moveTo here rfl bounds limits ?_ fun ledger => ?_
      · rintro _ ⟨⟩
        exact fun _ => ⟨by simp, by simp, by simp⟩
      · cases ledger <;> rfl
    · exact balanced.stays call

/-! ### Runs -/

private theorem balanced_create (capacity reserved : Int) :
    Balanced (.create capacity reserved) where
  fresh := Calls.fresh_empty
  totalBounded := Semaphore.bounded_create _
  backgroundBounded := Semaphore.bounded_create _
  counts ledger := by
    cases ledger
    · exact Semaphore.taken_create _
    · exact Semaphore.taken_create _
    · rfl
  reached _ _ := nofun

private theorem balanced_run (capacity reserved queueMaxDepth : Int) (ops : List PermitOp) :
    Balanced ((processPermits capacity reserved queueMaxDepth).run ops) :=
  Machine.invariant Balanced (balanced_create capacity reserved)
    (fun _ op balanced => balanced.exchanges (balanced.perform _ op)) ops

/-- In every run the counters show what the attempts, permits and releases that are under way hold; where there are
only granted permits, they show these; and the steps of a call that has ended have changed nothing in all. -/
theorem permits_are_accounted (capacity reserved queueMaxDepth : Int) (ops : List PermitOp) :
    let machine := processPermits capacity reserved queueMaxDepth
    let state := machine.run ops
    (∀ ledger : Ledger, state.counter ledger = total ledger.weight state.calls) ∧
      ((∀ call running, state.calls.phase call = some running → running.stage = .granted) →
        state.total.taken = total granted state.calls ∧ state.background.taken = total grantedBackground state.calls ∧
          state.waiters = 0) ∧
      ∀ call, state.calls.phase call = none → ∀ ledger : Ledger,
        changes machine (fun state => state.counter ledger) ProcessState.caller call ops = 0 := by
  intro machine state
  have balanced : Balanced state := balanced_run capacity reserved queueMaxDepth ops
  refine ⟨balanced.counts, fun quiet => ⟨?_, ?_, ?_⟩, fun call ended ledger => ?_⟩
  · refine (balanced.counts .total).trans (Calls.total_congr fun call running here => ?_)
    rw [Ledger.weight, granted, quiet call running here]
    rfl
  · refine (balanced.counts .background).trans (Calls.total_congr fun call running here => ?_)
    rw [Ledger.weight, grantedBackground, quiet call running here]
    rfl
  · have idle : total (Ledger.weight .waiters) state.calls = total (fun _ => 0) state.calls := by
      refine Calls.total_congr fun call running here => ?_
      rw [Ledger.weight, quiet call running here]
      rfl
    exact (balanced.counts .waiters).trans (idle.trans (Calls.total_zero _))
  · have kept := @Calls.changes_eq_held _ ledger.weight _ _ machine (fun state => state.counter ledger)
      ProcessState.caller (·.calls) Balanced (balanced_create capacity reserved)
      (fun _ op holds => holds.exchanges (holds.perform _ op)) (fun _ => rfl)
      (fun _ op holds => (holds.perform _ op).moves) (fun _ op holds => (holds.perform _ op).counts ledger) call ops
    rw [kept, held, ended]
    rfl

/-- A background attempt takes its background unit before it waits for the total semaphore. -/
theorem waiting_attempt_holds_background_unit : ¬ ∀ (capacity reserved queueMaxDepth : Int) (ops : List PermitOp),
      ((processPermits capacity reserved queueMaxDepth).run ops).background.taken =
        total grantedBackground ((processPermits capacity reserved queueMaxDepth).run ops).calls := by
  intro all
  exact absurd (all 4 2 256 [.enter false, .proceed 0 false false, .proceed 0 false false]) (by decide)

end HardwareDatabase.Governor
