/-
Module: HardwareDatabase.Governor.LlmSlots
Purpose: The admission of model calls (`src/src/core/llm_governor.py`) and the interleavings of `LLMGovernor.slot`;
  the condition variable makes each block one step. The figures on waiting times and the context variable of the
  priority are left out.
Trusted boundary: none
-/
import HardwareDatabase.Relational.Calls
import HardwareDatabase.Relational.Run

namespace HardwareDatabase.Governor

open Relational

/-! ### Limits -/

/-- The settings of the limits. -/
structure LlmSettings where
  llmMaxConcurrency : Int := 4
  llmBatchMaxConcurrency : Int := 1
deriving Repr, DecidableEq

/-- The total limit, `max(1, int(... or 4))`. -/
def LlmSettings.total (settings : LlmSettings) : Nat :=
  (max 1 (if settings.llmMaxConcurrency = 0 then 4 else settings.llmMaxConcurrency)).toNat

/-- `_limits`: the total limit and the limit of batch calls. -/
def LlmSettings.limits (settings : LlmSettings) : Nat × Nat :=
  (settings.total, min (max 0 settings.llmBatchMaxConcurrency).toNat settings.total)

/-! ### The governor -/

/-- What a call of `slot` is about to do. -/
inductive SlotStage
  | waiting
  | admitted
  | permitted
  | running
deriving Repr, DecidableEq

/-- A call that has not ended, with its `is_batch`. -/
structure SlotCall where
  batch : Bool
  stage : SlotStage
deriving Repr, DecidableEq

/-- The counters of an `LLMGovernor`, and its calls. -/
structure SlotState where
  activeInteractive : Nat := 0
  activeBatch : Nat := 0
  waitingInteractive : Nat := 0
  waitingBatch : Nat := 0
  completed : Nat := 0
  timeouts : Nat := 0
  calls : Calls SlotCall := .empty

namespace SlotState

variable (state : SlotState) (settings : LlmSettings) (batch : Bool)

/-- `_admissible_locked`. -/
def admissibleLocked : Bool :=
  let active := state.activeInteractive + state.activeBatch
  if batch then decide (state.activeBatch < settings.limits.2) && decide (active < settings.limits.1)
  else decide (active < settings.limits.1)

/-- The counter of the waiting calls goes up. -/
def addWaiting : SlotState :=
  if batch then { state with waitingBatch := state.waitingBatch + 1 }
  else { state with waitingInteractive := state.waitingInteractive + 1 }

/-- The `finally` of the admission. -/
def dropWaiting : SlotState :=
  if batch then { state with waitingBatch := state.waitingBatch - 1 }
  else { state with waitingInteractive := state.waitingInteractive - 1 }

/-- The counter of the active calls goes up. -/
def addActive : SlotState :=
  if batch then { state with activeBatch := state.activeBatch + 1 }
  else { state with activeInteractive := state.activeInteractive + 1 }

/-- `_release_process_slot`. -/
def releaseProcessSlot : SlotState :=
  if batch then { state with activeBatch := state.activeBatch - 1, completed := state.completed + 1 }
  else { state with activeInteractive := state.activeInteractive - 1, completed := state.completed + 1 }

/-- One round of the loop under the condition: the call is admitted, gives up at its deadline, or waits on. -/
def attempt (expired : Bool) : SlotState × Option SlotStage :=
  if state.admissibleLocked settings batch then ((state.addActive batch).dropWaiting batch, some .admitted)
  else if expired then ({ state with timeouts := state.timeouts + 1 }.dropWaiting batch, none)
  else (state, some .waiting)

/-- The stage that a call has after a step, or its end. -/
def goesTo (call : Nat) (stage : Option SlotStage) : SlotState :=
  { state with calls := state.calls.moveTo call (stage.map fun stage => { batch, stage }) }

end SlotState

/-! ### Steps -/

/-- The steps of the calls. A call is `expired` when it has a timeout and no time remains; its body ends in the same
way with an exception and without one. -/
inductive SlotOp
  | enter (batch expired : Bool)
  | wake (call : Nat) (expired : Bool)
  | deployment (call : Nat) (granted : Bool)
  | quota (call : Nat) (allowed : Bool)
  | leave (call : Nat)
deriving Repr, DecidableEq

/-- A call goes on to a stage, or releases its slot and ends with the exception. -/
def SlotState.goOn (state : SlotState) (batch : Bool) (call : Nat) (stage : SlotStage) (succeeds : Bool) : SlotState :=
  if succeeds then state.goesTo batch call (some stage) else (state.releaseProcessSlot batch).goesTo batch call none

/-- A step. One that its call is not about to take changes nothing. -/
def SlotState.perform (settings : LlmSettings) (state : SlotState) : SlotOp → SlotState
  | .enter batch expired =>
    let (entered, stage) := (state.addWaiting batch).attempt settings batch expired
    { entered with calls := state.calls.enter (stage.map fun stage => { batch, stage }) }
  | .wake call expired =>
    match state.calls.phase call with
    | some { batch, stage := .waiting } =>
      let (tried, stage) := state.attempt settings batch expired
      tried.goesTo batch call stage
    | _ => state
  | .deployment call granted =>
    match state.calls.phase call with
    | some { batch, stage := .admitted } => state.goOn batch call .permitted granted
    | _ => state
  | .quota call allowed =>
    match state.calls.phase call with
    | some { batch, stage := .permitted } => state.goOn batch call .running allowed
    | _ => state
  | .leave call =>
    match state.calls.phase call with
    | some { batch, stage := .running } => (state.releaseProcessSlot batch).goesTo batch call none
    | _ => state

/-- The runs of a new governor. -/
def slots (settings : LlmSettings) : Machine SlotState SlotOp where
  init := {}
  step := SlotState.perform settings

end HardwareDatabase.Governor
