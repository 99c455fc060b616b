/-
Module: HardwareDatabase.Harness.Service
Purpose: Runs of the harness store: any interleaving of transactions and advances of the clock. A function that reads
  the clock before the write lock carries an instant that may lie any `lag` behind.
Trusted boundary: none
-/
import HardwareDatabase.Harness.Store
import HardwareDatabase.Relational.Run

namespace HardwareDatabase.Harness

open Relational

/-- The operations on the harness tables. -/
inductive Op
  | tick (elapsed : Nat)
  | createRun (run : HarnessRun)
  -- workers
  | claim (runId leaseOwner : String) (leaseSeconds : Int) (lag : Nat)
  | update (runId owner : String) (token : Nat) (updates : RunUpdates) (lag : Nat)
  | heartbeat (runId leaseOwner : String) (fencingToken : Nat) (leaseSeconds : Int) (beatLag lag : Nat)
  | saveCheckpoint (checkpoint : Checkpoint) (leaseOwner : String) (fencingToken : Nat)
  | beginNode (receipt : Receipt) (leaseOwner : String) (fencingToken : Nat)
  | commitNode (receiptId runId leaseOwner : String) (fencingToken : Nat) (outputPayload : String)
  | failNode (receiptId runId leaseOwner : String) (fencingToken : Nat) (error : String)
  | saveDrafts (workOrderId runId : String) (drafts : List (String × String))
      (leaseOwner : Option String) (fencingToken : Option Nat)
  | appendEvent (event : ExecutionEvent)
  -- users
  | requestState (runId : String) (target : RunStatus) (lag : Nat)
  | queueRetry (runId : String) (maxRetries : Nat)
  | resolve (call : DecisionCall) (lag : Nat)

/-- The tables and the clock. -/
structure ServiceState where
  tables : Tables
  clock : Nat
deriving Repr, DecidableEq

namespace ServiceState

def start : ServiceState :=
  { tables := Tables.empty, clock := 0 }

/-- What the transaction of an operation commits, or what it raises. -/
def attempt (sha256 : String → String) (state : ServiceState) : Op → Except Failure Tables
  | .tick _ => .ok state.tables
  | .createRun run => createHarnessRun state.tables run
  | .claim runId leaseOwner leaseSeconds lag =>
    claimHarnessRun state.tables runId leaseOwner leaseSeconds (state.clock - lag)
  | .update runId owner token updates lag =>
    updateHarnessRunOwned state.tables runId owner token updates (state.clock - lag)
  | .heartbeat runId leaseOwner fencingToken leaseSeconds beatLag lag =>
    heartbeatHarnessRun state.tables runId leaseOwner fencingToken leaseSeconds
      (state.clock - beatLag) (state.clock - lag)
  | .saveCheckpoint checkpoint leaseOwner fencingToken =>
    saveHarnessCheckpointOwned state.tables checkpoint leaseOwner fencingToken state.clock
  | .beginNode receipt leaseOwner fencingToken =>
    (beginNodeExecutionOwned state.tables receipt leaseOwner fencingToken state.clock).map Prod.snd
  | .commitNode receiptId runId leaseOwner fencingToken outputPayload =>
    (commitNodeExecutionOwned sha256 state.tables receiptId runId leaseOwner fencingToken outputPayload
      state.clock).map Prod.snd
  | .failNode receiptId runId leaseOwner fencingToken error =>
    failNodeExecutionOwned state.tables receiptId runId leaseOwner fencingToken error state.clock
  | .saveDrafts workOrderId runId drafts leaseOwner fencingToken =>
    saveUnitDrafts state.tables workOrderId runId drafts leaseOwner fencingToken state.clock
  | .appendEvent event => (appendExecutionEvent state.tables event).map Prod.snd
  | .requestState runId target lag =>
    requestHarnessRunState state.tables runId target (state.clock - lag)
  | .queueRetry runId maxRetries => queueHarnessRetry state.tables runId maxRetries state.clock
  | .resolve call lag =>
    (resolveHarnessHumanDecision sha256 state.tables call (state.clock - lag)).map
      fun result => result.2.2

/-- The clock after an operation. -/
def clockAfter (state : ServiceState) : Op → Nat
  | .tick elapsed => state.clock + elapsed
  | _ => state.clock

/-- One operation: an exception leaves the tables as they were. -/
def step (sha256 : String → String) (state : ServiceState) (op : Op) : ServiceState :=
  { tables :=
      match state.attempt sha256 op with
      | .ok after => after
      | .error _ => state.tables
    clock := state.clockAfter op }

end ServiceState

/-- The harness store, its workers and its users. -/
def harness (sha256 : String → String) : Machine ServiceState Op where
  init := ServiceState.start
  step := ServiceState.step sha256

end HardwareDatabase.Harness
