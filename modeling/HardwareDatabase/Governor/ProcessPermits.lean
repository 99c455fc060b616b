/-
Module: HardwareDatabase.Governor.ProcessPermits
Purpose: The permits of a governor of process scope (`src/src/core/concurrency/resource_governor.py`) for one resource
  of its limits. A step is one section under the lock, one round of `_acquire_semaphore` or one release. Resources
  outside the limits and the published figures are left out.
Trusted boundary: none
-/
import HardwareDatabase.Relational.Calls
import HardwareDatabase.Relational.Run

namespace HardwareDatabase.Governor

open Relational

/-! ### Semaphores -/

/-- A `threading.BoundedSemaphore`. -/
structure Semaphore where
  initial : Nat
  value : Nat
deriving Repr, DecidableEq

namespace Semaphore

/-- A new semaphore. -/
def create (initial : Nat) : Semaphore :=
  { initial, value := initial }

/-- `acquire`, where there is a unit. -/
def acquire (semaphore : Semaphore) : Option Semaphore :=
  if 0 < semaphore.value then some { semaphore with value := semaphore.value - 1 } else none

/-- `release`; there is nothing where it raises `ValueError`. -/
def release (semaphore : Semaphore) : Option Semaphore :=
  if semaphore.initial ≤ semaphore.value then none else some { semaphore with value := semaphore.value + 1 }

/-- The units that are taken. -/
def taken (semaphore : Semaphore) : Nat :=
  semaphore.initial - semaphore.value

end Semaphore

/-! ### Calls -/

/-- Where an attempt is, or the permit that it has got. -/
inductive PermitStage
  | entered
  | awaitsBackground
  | awaitsTotal
  | withdrawing
  | refused
  | acquired
  | leaving
  | granted
  | releasing
  | freesTotal
  | freesBackground
deriving Repr, DecidableEq

/-- An attempt or a permit, with its `interactive`. -/
structure PermitCall where
  interactive : Bool
  stage : PermitStage
deriving Repr, DecidableEq

/-- The locks and counters of the resource, and the calls. -/
structure ProcessState where
  total : Semaphore
  background : Semaphore
  waiters : Nat := 0
  active : Nat := 0
  calls : Calls PermitCall := .empty

/-- `_ensure_process_locks`, for the limits of the resource. -/
def ProcessState.create (capacity reserved : Int) : ProcessState where
  total := .create (max 1 capacity).toNat
  background := .create (max 0 (capacity - reserved)).toNat

namespace ProcessState

/-- The call goes on to a stage. -/
def goesTo (state : ProcessState) (call : Nat) (interactive : Bool) (stage : PermitStage) : ProcessState :=
  { state with calls := state.calls.moveTo call (some { interactive, stage }) }

/-- The call has returned or raised, or its release has returned. -/
def ends (state : ProcessState) (call : Nat) : ProcessState :=
  { state with calls := state.calls.moveTo call none }

/-- A round of `_acquire_semaphore` on the background semaphore. -/
def awaitBackground (state : ProcessState) (call : Nat) (interactive stopped : Bool) : ProcessState :=
  if stopped then state.goesTo call interactive .refused
  else
    match state.background.acquire with
    | some background => { state with background }.goesTo call interactive .awaitsTotal
    | none => state

/-- A round of `_acquire_semaphore` on the total semaphore. -/
def awaitTotal (state : ProcessState) (call : Nat) (interactive stopped : Bool) : ProcessState :=
  if stopped then state.goesTo call interactive (if interactive then .refused else .withdrawing)
  else
    match state.total.acquire with
    | some total => { state with total }.goesTo call interactive .acquired
    | none => state

/-- The total semaphore is released; a background permit has the background semaphore to release too. -/
def freeTotal (state : ProcessState) (call : Nat) (interactive : Bool) : ProcessState :=
  match state.total.release with
  | none => state.ends call
  | some total =>
    if interactive then { state with total }.ends call
    else { state with total }.goesTo call interactive .freesBackground

/-- The next step of a call. An attempt is stopped when it sees its cancellation or its deadline. -/
def proceed (state : ProcessState) (call : Nat) (interactive cancelled expired : Bool) : PermitStage → ProcessState
  | .entered =>
    state.goesTo call interactive
      (if cancelled then .refused else if interactive then .awaitsTotal else .awaitsBackground)
  | .awaitsBackground => state.awaitBackground call interactive (cancelled || expired)
  | .awaitsTotal => state.awaitTotal call interactive (cancelled || expired)
  | .withdrawing =>
    { state with background := state.background.release.getD state.background }.goesTo call interactive .refused
  | .refused => { state with waiters := state.waiters - 1 }.ends call
  | .acquired => { state with active := state.active + 1 }.goesTo call interactive .leaving
  | .leaving => { state with waiters := state.waiters - 1 }.goesTo call interactive .granted
  | .granted => state
  | .releasing => { state with active := state.active - 1 }.goesTo call interactive .freesTotal
  | .freesTotal => state.freeTotal call interactive
  | .freesBackground => { state with background := state.background.release.getD state.background }.ends call

end ProcessState

/-! ### Steps -/

/-- An attempt begins, a call takes its next step, or `GovernorPermit.release` is called. -/
inductive PermitOp
  | enter (interactive : Bool)
  | proceed (call : Nat) (cancelled expired : Bool)
  | release (call : Nat)
deriving Repr, DecidableEq

/-- The call that takes the step. -/
def ProcessState.caller (state : ProcessState) : PermitOp → Nat
  | .enter _ => state.calls.next
  | .proceed call _ _ => call
  | .release call => call

/-- A step. An attempt that finds the queue full ends at once; a release of what is not held any more does nothing. -/
def ProcessState.perform (queueMaxDepth : Nat) (state : ProcessState) : PermitOp → ProcessState
  | .enter interactive =>
    if queueMaxDepth ≤ state.waiters then { state with calls := state.calls.enter none }
    else
      { state with
        waiters := state.waiters + 1
        calls := state.calls.enter (some { interactive, stage := .entered }) }
  | .proceed call cancelled expired =>
    match state.calls.phase call with
    | none => state
    | some running => state.proceed call running.interactive cancelled expired running.stage
  | .release call =>
    match state.calls.phase call with
    | some { interactive, stage := .granted } => state.goesTo call interactive .releasing
    | _ => state

/-- The runs on a resource of a new governor. -/
def processPermits (capacity reserved queueMaxDepth : Int) : Machine ProcessState PermitOp where
  init := .create capacity reserved
  step := ProcessState.perform (max 1 queueMaxDepth).toNat

end HardwareDatabase.Governor
