/-
Module: HardwareDatabase.DocumentJobs.Service
Purpose: Runs of the job store: any interleaving of transactions and advances of the clock. A transaction may carry an
  instant that lies any `lag` behind the clock; `fail` passes on the row that it read before.
Trusted boundary: none
-/
import HardwareDatabase.DocumentJobs.Store
import HardwareDatabase.Relational.Run

namespace HardwareDatabase.DocumentJobs

open Relational

/-- The operations on the job store. -/
inductive Op
  | tick (elapsed : Nat)
  -- callers
  | createJob (request : JobRequest) (uuid outboxUuid : Uuid) (lag : Nat)
  | cancel (jobId reason : String) (lag : Nat)
  | cancelSession (sessionId reason : String) (lag : Nat)
  | cleanupSession (sessionId : String)
  -- workers
  | claim (jobId workerId : String) (leaseSeconds : Int) (lag : Nat)
  | heartbeat (jobId workerId : String) (leaseToken : Nat) (leaseSeconds : Int) (lag : Nat)
  | complete (jobId workerId : String) (leaseToken : Nat) (result : String) (lag : Nat)
  | readJob (jobId : String)
  | fail (current : Job) (call : JobFailure) (lag : Nat)
  | markOutbox (jobId : String) (mark : OutboxMark) (error : String) (lag : Nat)
  -- resource locks on their own
  | acquireResourceLock (tenantId resourceType resourceId ownerId : String) (leaseSeconds : Int)
      (lag : Nat)
  | renewResourceLock (tenantId resourceType resourceId ownerId : String) (fencingToken : Nat)
      (leaseSeconds : Int) (lag : Nat)
  | releaseResourceLock (tenantId resourceType resourceId ownerId : String) (fencingToken : Nat)

/-- The store, the clock and the rows that calls of `fail` have read. -/
structure ServiceState where
  store : Store
  clock : Nat
  read : List Job
deriving Repr, DecidableEq

/-- The transaction of an operation that may raise. -/
def Store.commit (store : Store) : Except Failure Store → Store
  | .ok after => after
  | .error _ => store

/-- A statement on the lock table alone. -/
def Store.commitLocks (store : Store) : Except Failure (List LockRow) → Store
  | .ok locks => { store with locks }
  | .error _ => store

namespace ServiceState

def start : ServiceState :=
  { store := Store.empty, clock := 0, read := [] }

/-- The store after an operation. -/
def exec (state : ServiceState) : Op → Store
  | .tick _ | .readJob _ => state.store
  | .createJob request uuid outboxUuid lag =>
    state.store.commit (state.store.createJob request uuid outboxUuid (state.clock - lag))
  | .cancel jobId reason lag => state.store.cancel jobId reason (state.clock - lag)
  | .cancelSession sessionId reason lag =>
    state.store.commit
      ((state.store.cancelSession sessionId reason (state.clock - lag)).map Prod.snd)
  | .cleanupSession sessionId =>
    state.store.commit ((state.store.cleanupSession sessionId).map Prod.snd)
  | .claim jobId workerId leaseSeconds lag =>
    state.store.commit
      ((state.store.claim jobId workerId leaseSeconds (state.clock - lag)).map Prod.snd)
  | .heartbeat jobId workerId leaseToken leaseSeconds lag =>
    state.store.commit
      (state.store.heartbeat jobId workerId leaseToken leaseSeconds (state.clock - lag))
  | .complete jobId workerId leaseToken result lag =>
    state.store.commit (state.store.complete jobId workerId leaseToken result (state.clock - lag))
  | .fail current call lag =>
    if current ∈ state.read then
      state.store.commit (state.store.fail current call (state.clock - lag))
    else state.store
  | .markOutbox jobId mark error lag =>
    state.store.markOutbox jobId mark error (state.clock - lag)
  | .acquireResourceLock tenantId resourceType resourceId ownerId leaseSeconds lag =>
    state.store.commitLocks
      ((DocumentJobs.acquireResourceLock state.store.locks tenantId resourceType resourceId ownerId
        leaseSeconds (state.clock - lag)).map Prod.snd)
  | .renewResourceLock tenantId resourceType resourceId ownerId fencingToken leaseSeconds lag =>
    state.store.commitLocks
      ((DocumentJobs.renewResourceLock state.store.locks tenantId resourceType resourceId ownerId
        fencingToken leaseSeconds (state.clock - lag)).map Prod.snd)
  | .releaseResourceLock tenantId resourceType resourceId ownerId fencingToken =>
    state.store.commitLocks
      ((DocumentJobs.releaseResourceLock state.store.locks tenantId resourceType resourceId ownerId
        fencingToken).map Prod.snd)

/-- The clock after an operation. -/
def clockAfter (state : ServiceState) : Op → Nat
  | .tick elapsed => state.clock + elapsed
  | _ => state.clock

/-- The rows that calls of `fail` have read after an operation. -/
def readAfter (state : ServiceState) : Op → List Job
  | .readJob jobId => (state.store.get jobId).toList ++ state.read
  | _ => state.read

/-- One operation. -/
def step (state : ServiceState) (op : Op) : ServiceState :=
  { store := state.exec op, clock := state.clockAfter op, read := state.readAfter op }

end ServiceState

/-- The job store and its callers. -/
def documentJobs : Machine ServiceState Op where
  init := ServiceState.start
  step := ServiceState.step

end HardwareDatabase.DocumentJobs
