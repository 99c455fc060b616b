/-
Module: HardwareDatabase.Proofs.SlotAccounting
Purpose: The counters of the model-call governor are the numbers of calls that wait and that hold a slot.
Trusted boundary: none
-/
import HardwareDatabase.Governor.LlmSlots
import HardwareDatabase.Relational.Census

namespace HardwareDatabase.Governor

open Relational
open Relational.Calls (worth held total)

variable {settings : LlmSettings} {state after : SlotState} {batch : Bool}

/-! ### What the counters count

Each counter is the number of calls in the stages that hold what it counts. -/

/-- A waiting call of the kind. -/
def waits (batch : Bool) (call : SlotCall) : Nat :=
  if call.batch = batch ∧ call.stage = .waiting then 1 else 0

/-- A call of the kind that holds a slot. -/
def holdsSlot (batch : Bool) (call : SlotCall) : Nat :=
  if call.batch = batch ∧ call.stage ≠ .waiting then 1 else 0

namespace SlotState

/-- The counter of the waiting calls of a kind. -/
def waiting (state : SlotState) (batch : Bool) : Nat :=
  if batch then state.waitingBatch else state.waitingInteractive

/-- The counter of the active calls of a kind. -/
def active (state : SlotState) (batch : Bool) : Nat :=
  if batch then state.activeBatch else state.activeInteractive

end SlotState

/-- The counters count the calls. -/
structure Counted (state : SlotState) : Prop where
  fresh : state.calls.Fresh
  waiting : ∀ kind, state.waiting kind = total (waits kind) state.calls
  active : ∀ kind, state.active kind = total (holdsSlot kind) state.calls

/-- The limits hold. -/
structure WithinLimits (settings : LlmSettings) (state : SlotState) : Prop where
  all : state.activeInteractive + state.activeBatch ≤ settings.limits.1
  batch : state.activeBatch ≤ settings.limits.2

/-- The counters have changed as a call has that goes from one stage to another. -/
structure Exchanged (before after : SlotState) (old new : Option SlotCall) : Prop where
  calls : after.calls = before.calls
  waiting : ∀ kind, after.waiting kind + worth (waits kind) old = before.waiting kind + worth (waits kind) new
  active : ∀ kind, after.active kind + worth (holdsSlot kind) old = before.active kind + worth (holdsSlot kind) new

variable {stage : SlotStage}

namespace Exchanged

variable {before middle : SlotState} {old mid new : Option SlotCall}

private theorem trans (first : Exchanged before middle old mid) (second : Exchanged middle after mid new) :
    Exchanged before after old new where
  calls := second.calls.trans first.calls
  waiting kind := by
    have early := first.waiting kind
    have late := second.waiting kind
    omega
  active kind := by
    have early := first.active kind
    have late := second.active kind
    omega

private theorem crosswise (first : Exchanged before middle none new) (second : Exchanged middle after old none) :
    Exchanged before after old new where
  calls := second.calls.trans first.calls
  waiting kind := (second.waiting kind).trans (first.waiting kind)
  active kind := (second.active kind).trans (first.active kind)

private theorem holding {next : SlotStage} (here : stage ≠ .waiting) (there : next ≠ .waiting) :
    Exchanged state state (some { batch, stage }) (some { batch, stage := next }) where
  calls := rfl
  waiting kind := by simp [worth, waits, here, there]
  active kind := by simp [worth, holdsSlot, here, there]

private theorem addWaiting (state : SlotState) (batch : Bool) :
    Exchanged state (state.addWaiting batch) none (some { batch, stage := .waiting }) where
  calls := by cases batch <;> rfl
  waiting kind := by cases batch <;> cases kind <;> rfl
  active kind := by cases batch <;> cases kind <;> rfl

private theorem addActive (state : SlotState) (batch : Bool) :
    Exchanged state (state.addActive batch) none (some { batch, stage := .admitted }) where
  calls := by cases batch <;> rfl
  waiting kind := by cases batch <;> cases kind <;> rfl
  active kind := by cases batch <;> cases kind <;> rfl

private theorem dropWaiting (counted : 1 ≤ state.waiting batch) :
    Exchanged state (state.dropWaiting batch) (some { batch, stage := .waiting }) none where
  calls := by cases batch <;> rfl
  waiting kind := by
    cases batch <;> cases kind
    · exact Nat.sub_add_cancel counted
    · rfl
    · rfl
    · exact Nat.sub_add_cancel counted
  active kind := by cases batch <;> cases kind <;> rfl

private theorem releaseProcessSlot {stage : SlotStage} (holds : stage ≠ .waiting) (counted : 1 ≤ state.active batch) :
    Exchanged state (state.releaseProcessSlot batch) (some { batch, stage }) none where
  calls := by cases batch <;> rfl
  waiting kind := by
    cases batch <;> cases kind <;> simp [SlotState.waiting, SlotState.releaseProcessSlot, worth, waits, holds]
  active kind := by
    cases batch <;> cases kind <;> simp_all [SlotState.active, SlotState.releaseProcessSlot, worth, holdsSlot]

private theorem attempt (expired : Bool) (counted : 1 ≤ state.waiting batch) :
    Exchanged state (state.attempt settings batch expired).1 (some { batch, stage := .waiting })
      ((state.attempt settings batch expired).2.map fun stage => { batch, stage }) := by
  rw [SlotState.attempt]
  split
  · refine (addActive state batch).crosswise (dropWaiting ?_)
    cases batch <;> exact counted
  · split
    · have dropped := @dropWaiting { state with timeouts := state.timeouts + 1 } batch counted
      exact ⟨dropped.calls, dropped.waiting, dropped.active⟩
    · exact ⟨rfl, fun _ => rfl, fun _ => rfl⟩

end Exchanged

/-! ### Steps -/

private theorem Counted.moved {call : Nat} {calls : Calls SlotCall} (counted : Counted state)
    (exchanged : Exchanged state after (state.calls.phase call) (calls.phase call))
    (moves : state.calls.Moves call calls) : Counted { after with calls } where
  fresh := moves.fresh counted.fresh
  waiting kind := by
    have counter := exchanged.waiting kind
    rw [counted.waiting kind] at counter
    exact Nat.add_right_cancel (counter.trans (moves.total (waits kind) counted.fresh).symm)
  active kind := by
    have counter := exchanged.active kind
    rw [counted.active kind] at counter
    exact Nat.add_right_cancel (counter.trans (moves.total (holdsSlot kind) counted.fresh).symm)

private theorem Counted.goesTo {call : Nat} {old : SlotCall} {stage : Option SlotStage} (counted : Counted state)
    (running : state.calls.phase call = some old)
    (exchanged : Exchanged state after (some old) (stage.map fun stage => { batch, stage })) :
    Counted (after.goesTo batch call stage) := by
  rw [SlotState.goesTo, exchanged.calls]
  refine counted.moved ?_ (.moveTo running _)
  rw [running, Calls.phase_moveTo_self]
  exact exchanged

private theorem Counted.waiting_pos {call : Nat} (counted : Counted state)
    (running : state.calls.phase call = some { batch, stage := .waiting }) : 1 ≤ state.waiting batch := by
  have moved := (Calls.Moves.moveTo running none).total (waits batch) counted.fresh
  rw [counted.waiting batch]
  simp only [held, running, Calls.phase_moveTo_self, worth, waits, Option.elim] at moved
  simp at moved
  omega

private theorem Counted.active_pos {call : Nat} (counted : Counted state)
    (running : state.calls.phase call = some { batch, stage }) (holds : stage ≠ .waiting) : 1 ≤ state.active batch := by
  have moved := (Calls.Moves.moveTo running none).total (holdsSlot batch) counted.fresh
  rw [counted.active batch]
  simp only [held, running, Calls.phase_moveTo_self, worth, holdsSlot, Option.elim] at moved
  simp [holds] at moved
  omega

namespace WithinLimits

private theorem attempt (within : WithinLimits settings state) (expired : Bool) :
    WithinLimits settings (state.attempt settings batch expired).1 := by
  obtain ⟨all, limited⟩ := within
  rw [SlotState.attempt]
  split
  · rename_i admissible
    cases batch
    · simp only [SlotState.admissibleLocked, Bool.false_eq_true, if_false, decide_eq_true_eq] at admissible
      exact ⟨by simp [SlotState.addActive, SlotState.dropWaiting]; omega, limited⟩
    · simp only [SlotState.admissibleLocked, if_true, Bool.and_eq_true, decide_eq_true_eq] at admissible
      exact ⟨by simp [SlotState.addActive, SlotState.dropWaiting]; omega, admissible.1⟩
  · split
    · cases batch <;> exact ⟨all, limited⟩
    · exact ⟨all, limited⟩

private theorem addWaiting (within : WithinLimits settings state) (batch : Bool) :
    WithinLimits settings (state.addWaiting batch) := by
  cases batch <;> exact ⟨within.all, within.batch⟩

private theorem releaseProcessSlot (within : WithinLimits settings state) (batch : Bool) :
    WithinLimits settings (state.releaseProcessSlot batch) := by
  obtain ⟨all, limited⟩ := within
  cases batch
  · exact ⟨by simp [SlotState.releaseProcessSlot]; omega, limited⟩
  · exact ⟨by simp [SlotState.releaseProcessSlot]; omega, by simp [SlotState.releaseProcessSlot]; omega⟩

end WithinLimits

private theorem Counted.released {call : Nat} (counted : Counted state)
    (running : state.calls.phase call = some { batch, stage }) (holds : stage ≠ .waiting) :
    Counted ((state.releaseProcessSlot batch).goesTo batch call none) :=
  @Counted.goesTo _ _ _ _ _ none counted running (.releaseProcessSlot holds (counted.active_pos running holds))

private theorem WithinLimits.released (within : WithinLimits settings state) (call : Nat) :
    WithinLimits settings ((state.releaseProcessSlot batch).goesTo batch call none) := by
  have released := within.releaseProcessSlot batch
  exact ⟨released.all, released.batch⟩

private theorem Counted.goOn {call : Nat} (counted : Counted state)
    (running : state.calls.phase call = some { batch, stage }) (holds : stage ≠ .waiting) {next : SlotStage}
    (holdsNext : next ≠ .waiting) (succeeds : Bool) : Counted (state.goOn batch call next succeeds) := by
  cases succeeds
  · exact counted.released running holds
  · exact @Counted.goesTo _ _ _ _ _ (some next) counted running (.holding holds holdsNext)

private theorem WithinLimits.goOn (within : WithinLimits settings state) (call : Nat) (next : SlotStage)
    (succeeds : Bool) :
    WithinLimits settings (state.goOn batch call next succeeds) := by
  cases succeeds
  · exact within.released call
  · exact ⟨within.all, within.batch⟩

private theorem perform_keeps (counted : Counted state) (within : WithinLimits settings state) (op : SlotOp) :
    Counted (state.perform settings op) ∧ WithinLimits settings (state.perform settings op) := by
  cases op with
  | enter kind expired =>
    have entered := (Exchanged.addWaiting state kind)
    have waits : 1 ≤ (state.addWaiting kind).waiting kind := by
      cases kind <;> exact Nat.succ_le_succ (Nat.zero_le _)
    have tried := @WithinLimits.attempt settings _ kind (within.addWaiting kind) expired
    refine ⟨?_, tried.all, tried.batch⟩
    refine counted.moved ?_ (.enter _)
    rw [counted.fresh _ (Nat.le_refl _), Calls.phase_enter_self]
    exact entered.trans (.attempt expired waits)
  | wake call expired =>
    simp only [SlotState.perform]
    split
    · rename_i kind running
      have tried := @WithinLimits.attempt settings _ kind within expired
      exact ⟨counted.goesTo running (.attempt expired (counted.waiting_pos running)), tried.all, tried.batch⟩
    · exact ⟨counted, within⟩
  | deployment call granted =>
    simp only [SlotState.perform]
    split
    · rename_i running
      exact ⟨counted.goOn running (by nofun) (by nofun) granted, within.goOn call .permitted granted⟩
    · exact ⟨counted, within⟩
  | quota call allowed =>
    simp only [SlotState.perform]
    split
    · rename_i running
      exact ⟨counted.goOn running (by nofun) (by nofun) allowed, within.goOn call .running allowed⟩
    · exact ⟨counted, within⟩
  | leave call =>
    simp only [SlotState.perform]
    split
    · rename_i running
      exact ⟨counted.released running (by nofun), within.released call⟩
    · exact ⟨counted, within⟩

/-! ### Runs -/

private theorem counted_run (settings : LlmSettings) (ops : List SlotOp) :
    Counted ((slots settings).run ops) ∧ WithinLimits settings ((slots settings).run ops) := by
  refine Machine.invariant (fun state => Counted state ∧ WithinLimits settings state) ?_ ?_ ops
  · exact ⟨⟨Calls.fresh_empty, fun kind => by cases kind <;> rfl, fun kind => by cases kind <;> rfl⟩,
      ⟨Nat.zero_le _, Nat.zero_le _⟩⟩
  · rintro state op ⟨counted, within⟩
    exact perform_keeps counted within op

private theorem Counted.eq_zero (counted : Counted state) (ended : ∀ call, state.calls.phase call = none) (kind : Bool) :
    state.waiting kind = 0 ∧ state.active kind = 0 :=
  ⟨(counted.waiting kind).trans (Calls.total_eq_zero _ ended),
    (counted.active kind).trans (Calls.total_eq_zero _ ended)⟩

/-- In every run the active calls keep to the limits; and between two instants at which no call is under way the
counters are the same. -/
theorem slot_accounting (settings : LlmSettings) (earlier later : List SlotOp) :
    (let state := (slots settings).run (earlier ++ later)
     state.activeInteractive + state.activeBatch ≤ settings.limits.1 ∧ state.activeBatch ≤ settings.limits.2) ∧
    (let before := (slots settings).run earlier
     let state := (slots settings).run (earlier ++ later)
     (∀ call, before.calls.phase call = none) → (∀ call, state.calls.phase call = none) →
      state.activeInteractive = before.activeInteractive ∧ state.activeBatch = before.activeBatch ∧
      state.waitingInteractive = before.waitingInteractive ∧ state.waitingBatch = before.waitingBatch) := by
  obtain ⟨counted, within⟩ := counted_run settings (earlier ++ later)
  refine ⟨⟨within.all, within.batch⟩, fun idleBefore idle => ?_⟩
  have before := (counted_run settings earlier).1.eq_zero idleBefore
  have now := counted.eq_zero idle
  exact ⟨(now false).2.trans (before false).2.symm, (now true).2.trans (before true).2.symm,
    (now false).1.trans (before false).1.symm, (now true).1.trans (before true).1.symm⟩

end HardwareDatabase.Governor
