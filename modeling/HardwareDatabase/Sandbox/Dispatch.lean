/-
Module: HardwareDatabase.Sandbox.Dispatch
Purpose: `SandboxExecutionAdapter.submit` (`src/src/sandbox/service.py`) of processes with the default worker id.
  Every access to the store is one step, a call may crash between any two, and a refusal ends a call as a crash does.
Trusted boundary: none
-/
import HardwareDatabase.Relational.Calls
import HardwareDatabase.Sandbox.Ledger

namespace HardwareDatabase.Sandbox

open Python (strip)
open Relational

/-- The `worker_id` of an adapter that is constructed without one. -/
def defaultWorkerId : String := "hdb-sandbox-dispatcher"

/-- What a call of `submit` is about to do with the row that it has. -/
inductive Phase
  | enqueueing (task : Task)
  | claiming (task : Task)
  | calling (claimed : Task)
  | recording (claimed : Task)
deriving Repr

/-- `_claim_for_submit` of a row that is not admitted any more, up to its next write; a call that raises or
returns is over. -/
def claimPhase (task : Task) : Option Phase :=
  if task.status = .running ∧ task.executionId = "" then
    if task.leaseOwner ≠ defaultWorkerId then none else some (.calling task)
  else if task.status ≠ .queued then none
  else some (.claiming task)

/-- `submit` of the row that it has read, up to its first write. -/
def submitPhase (task : Task) : Option Phase :=
  if task.status.isTerminal then none
  else if task.status = .running ∧ task.executionId ≠ "" then none
  else if task.status = .admitted then some (.enqueueing task)
  else claimPhase task

/-- The call of `enqueue`. -/
def enqueueCall (task : Task) : TransitionCall where
  taskId := task.taskId
  toStatus := "queued"
  expectedRevision := some task.revision
  actorId := defaultWorkerId
  action := "sandbox.task_queue"

/-- The call of `_mark_submit_unknown`. -/
def submitUnknownCall (claimed : Task) : TransitionCall where
  taskId := claimed.taskId
  toStatus := "reconcile_required"
  leaseOwner := some defaultWorkerId
  fencingToken := some claimed.fencingToken
  requireLease := true
  expectedRevision := some claimed.revision
  actorId := defaultWorkerId
  action := "sandbox.task_reconcile"
  observedState := some "submit_unknown"
  cleanupState := some "unknown"
  errorCode := some "runner_submit_unknown"

/-- What the runner has answered: nothing that identifies an execution, or an execution. -/
inductive Outcome
  | unknown
  | accepted (observedState executionId backendRef cleanupState : String)
deriving Repr, DecidableEq

/-- The observation that an accepted submission records. -/
def acceptedCall (claimed : Task) (observedState executionId backendRef cleanupState : String) : ObservationCall where
  taskId := claimed.taskId
  leaseOwner := defaultWorkerId
  fencingToken := claimed.fencingToken
  expectedRevision := some claimed.revision
  observedState := strip observedState
  executionId := strip executionId
  backendRef := strip backendRef
  cleanupState := orText cleanupState "running"

/-- The write after the answer of the runner. -/
def recordOutcome (env : Environment) (db : Database) (claimed : Task) (outcome : Outcome) (clock : Nat) :
    Except Failure (Database × Task) :=
  match outcome with
  | .unknown => transition env db (submitUnknownCall claimed) clock
  | .accepted observedState executionId backendRef cleanupState =>
    if strip executionId = "" then transition env db (submitUnknownCall claimed) clock
    else recordObservation db (acceptedCall claimed observedState executionId backendRef cleanupState) clock

/-- The ledger, the calls of `submit` that run, and the calls that the runner has received: the task and the
token of each. -/
structure DispatchState where
  ledger : State
  calls : Calls Phase
  received : List (String × Nat)

/-- A step of a process, or any other operation of the store. -/
inductive Step
  | submit (taskId : String)
  | proceed (call : Nat) (leaseSeconds : Option Int) (lag : Nat) (outcome : Outcome)
  | crash (call : Nat)
  | other (op : Op)

namespace DispatchState

/-- The tables of a transaction that commits. -/
def commit (state : DispatchState) (db : Database) : DispatchState :=
  { state with ledger := { state.ledger with db } }

/-- A call goes on, or ends. -/
def moveTo (state : DispatchState) (call : Nat) (phase : Option Phase) : DispatchState :=
  { state with calls := state.calls.moveTo call phase }

/-- The task and the token of a claim. -/
def ticketOf (claimed : Task) : String × Nat :=
  (claimed.taskId, claimed.fencingToken)

/-- A call begins: it reads the row of the task. -/
def submit (state : DispatchState) (taskId : String) : DispatchState :=
  { state with calls := state.calls.enter ((state.ledger.db.task? taskId).bind submitPhase) }

/-- The next step of a call in a phase. -/
def proceedFrom (env : Environment) (state : DispatchState) (call : Nat) (leaseSeconds : Option Int)
    (lag : Nat) (outcome : Outcome) : Phase → DispatchState
  | .enqueueing task =>
    match transition env state.ledger.db (enqueueCall task) state.ledger.clock with
    | .ok (db, queued) => (state.commit db).moveTo call (claimPhase queued)
    | .error _ => state.moveTo call none
  | .claiming task =>
    match claim env state.ledger.db task.taskId defaultWorkerId leaseSeconds ""
        (state.ledger.clock - lag) with
    | .ok (db, claimed) => (state.commit db).moveTo call (claimed.map .calling)
    | .error _ => state.moveTo call none
  | .calling claimed =>
    { state.moveTo call (some (.recording claimed)) with received := state.received ++ [ticketOf claimed] }
  | .recording claimed =>
    match recordOutcome env state.ledger.db claimed outcome state.ledger.clock with
    | .ok (db, _) => (state.commit db).moveTo call none
    | .error _ => state.moveTo call none

/-- One step. -/
def step (env : Environment) (state : DispatchState) : Step → DispatchState
  | .submit taskId => state.submit taskId
  | .proceed call leaseSeconds lag outcome =>
    match state.calls.phase call with
    | some phase => state.proceedFrom env call leaseSeconds lag outcome phase
    | none => state
  | .crash call => state.moveTo call none
  | .other op => { state with ledger := (Sandbox.ledger env).step state.ledger op }

end DispatchState

/-- The interleavings of the processes. -/
def dispatch (env : Environment) : Machine DispatchState Step where
  init := { ledger := (ledger env).init, calls := .empty, received := [] }
  step := DispatchState.step env

end HardwareDatabase.Sandbox
