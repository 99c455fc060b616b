/-
Module: HardwareDatabase.ResultExports.Service
Purpose: Runs of the export jobs: any interleaving of transactions and the passing of time. A caller reads the clock
  before its transaction; the snapshots are there from the start.
Trusted boundary: none
-/
import HardwareDatabase.ResultExports.Jobs
import HardwareDatabase.Relational.Run

namespace HardwareDatabase.ResultExports

open Python (strip)
open Relational

/-- The operations on the export jobs. -/
inductive ExportOp
  | create (call : CreateJobCall) (lag : Nat)
  | claim (jobId : Nat) (workerId : String) (leaseSeconds : Int) (lag : Nat)
  | heartbeat (jobId : Nat) (workerId : String) (leaseToken : Nat) (leaseSeconds : Int) (lag : Nat)
  | publish (call : PublishCall) (lag : Nat)
  | fail (call : FailCall) (lag : Nat)
  | cancel (ownerUserId : String) (jobId : Nat) (reason : String) (lag : Nat)
  | retry (ownerUserId : String) (jobId : Nat) (lag : Nat)
  | expire (current : Nat) (limit : Int)
  | cancelSession (sessionId : String) (lag : Nat)
  | deleteSession (sessionId : String)
  | tick (elapsed : Nat)
deriving Repr, DecidableEq

/-- The tables and the clock. -/
structure ExportState where
  tables : JobTables
  clock : Nat
deriving Repr, DecidableEq

namespace ExportState

variable (settings : Settings) (state : ExportState)

/-- The instant of a caller that has read the clock some time ago. -/
def now (lag : Nat) : Nat :=
  state.clock - lag

/-- The publication of a file under a fresh identifier. -/
def publication (call : PublishCall) (lag : Nat) : Except JobFailure JobTables :=
  if call.fits settings = false then .error .tooLarge
  else
    (publishArtifact settings state.tables call state.tables.nextId (state.now lag)).map
      fun tables => { tables with nextId := tables.nextId + 1 }

/-- What the transaction of an operation commits, or what it raises. -/
def attempt : ExportOp → Except JobFailure JobTables
  | .create call lag => createExportJob settings state.tables call (state.now lag)
  | .claim jobId workerId leaseSeconds lag =>
    (ResultExports.claim settings state.tables jobId workerId leaseSeconds (state.now lag)).map Prod.fst
  | .heartbeat jobId workerId leaseToken leaseSeconds lag =>
    ResultExports.heartbeat state.tables jobId workerId leaseToken leaseSeconds (state.now lag)
  | .publish call lag => state.publication settings call lag
  | .fail call lag => ResultExports.fail state.tables call (state.now lag)
  | .cancel ownerUserId jobId reason lag =>
    .ok (ResultExports.cancel state.tables ownerUserId jobId reason (state.now lag))
  | .retry ownerUserId jobId lag => .ok (ResultExports.retry state.tables ownerUserId jobId (state.now lag))
  | .expire current limit => .ok (expireArtifacts state.tables current limit).1
  | .cancelSession sessionId lag =>
    .ok (ResultExports.cancelSession state.tables sessionId (state.now lag))
  | .deleteSession sessionId => .ok (ResultExports.deleteSession state.tables sessionId)
  | .tick _ => .ok state.tables

/-- The clock after an operation. -/
def clockAfter : ExportOp → Nat
  | .tick elapsed => state.clock + elapsed
  | _ => state.clock

/-- One operation: an exception leaves the tables as they were. -/
def step (op : ExportOp) : ExportState :=
  { tables :=
      match state.attempt settings op with
      | .ok after => after
      | .error _ => state.tables
    clock := state.clockAfter op }

end ExportState

/-- The export jobs of a store with some snapshots. -/
def exportJobs (settings : Settings) (snapshots : List SnapshotRow) : Machine ExportState ExportOp where
  init :=
    { tables := { snapshots, jobs := [], outbox := [], artifacts := [], nextId := 0 }, clock := 0 }
  step := ExportState.step settings

/-- A lease that a claim has handed out. -/
structure Grant where
  jobId : Nat
  workerId : String
  leaseToken : Nat
deriving Repr, DecidableEq

/-- The lease that an operation hands out. -/
def granted (settings : Settings) (state : ExportState) : ExportOp → List Grant
  | .claim jobId workerId leaseSeconds lag =>
    match ResultExports.claim settings state.tables jobId workerId leaseSeconds (state.now lag) with
    | .ok (_, some job) =>
      [{ jobId, workerId := job.leaseOwner.getD "", leaseToken := job.leaseToken }]
    | .ok (_, none) | .error _ => []
  | _ => []

end HardwareDatabase.ResultExports
