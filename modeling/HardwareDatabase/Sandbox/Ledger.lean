/-
Module: HardwareDatabase.Sandbox.Ledger
Purpose: The runs of the sandbox task ledger. A call that reads the clock before its transaction begins has read it
  `lag` microseconds ago.
Trusted boundary: none
-/
import HardwareDatabase.Relational.Run
import HardwareDatabase.Sandbox.Store

namespace HardwareDatabase.Sandbox

open Python (Dict)
open Relational

/-- A call of an operation, with what it has read before its transaction, or time that passes. -/
inductive Op
  | create (spec : SandboxTaskSpec) (taskId drawn actorId : String) (lag : Nat)
  | transition (call : TransitionCall)
  | claim (taskId workerId : String) (leaseSeconds : Option Int) (actorId : String) (lag : Nat)
  | renewLease (taskId leaseOwner : String) (fencingToken : Int) (leaseSeconds : Option Int) (lag : Nat)
  | requestCancel (taskId actorId : String)
  | recordObservation (call : ObservationCall)
  | complete (taskId leaseOwner : String) (fencingToken : Int) (outputManifest : Dict)
      (expectedRevision : Option Int) (actorId : String)
  | fail (taskId leaseOwner : String) (fencingToken : Int) (errorCode : String)
      (expectedRevision : Option Int)
  | markUnknown (taskId : String) (leaseOwner : Option String) (fencingToken : Option Int) (reason : String)
  | timeout (taskId leaseOwner : String) (fencingToken : Int)
  | reconcileOutcome (task : Task) (outcome executionId : String) (outputManifest : Option Dict)
      (cleanupState actorId : String)
  | reconcileExpiredLeases (now : Option Nat) (limit : Int) (lag : Nat)
  | expireDeadlines (now : Option Nat) (limit : Int) (lag : Nat)
  | setCleanupState (earlier : Task) (cleanupState : String) (leaseOwner : Option String)
      (fencingToken : Option Int) (actorId : String) (lag : Nat)
  | tick (elapsed : Nat)

/-- What an operation hands out to its caller. -/
inductive Report
  | granted (taskId leaseOwner : String) (fencingToken : Nat)
  | renewed (taskId : String) (revision : Nat)
deriving Repr, DecidableEq

/-- The grant of a claim. -/
def grantOf : Option Task → List Report
  | none => []
  | some task => [.granted task.taskId task.leaseOwner task.fencingToken]

/-- The tables that an operation commits, with what it hands out of its result. -/
def handing {α : Type} (hand : α → List Report) (attempt : Except Failure (Database × α)) :
    Except Failure (Database × List Report) :=
  attempt.map fun result => (result.1, hand result.2)

/-- An operation that hands out no lease. -/
abbrev committing {α : Type} (attempt : Except Failure (Database × α)) : Except Failure (Database × List Report) :=
  handing (fun _ => []) attempt

/-- The tables that an operation commits, with what it hands out, or the exception that rolls it back. -/
def Database.perform (env : Environment) (clock : Nat) (db : Database) : Op → Except Failure (Database × List Report)
  | .create spec taskId drawn actorId lag =>
    committing (create env db spec taskId drawn actorId (clock - lag))
  | .transition call => committing (transition env db call clock)
  | .claim taskId workerId leaseSeconds actorId lag =>
    handing grantOf (claim env db taskId workerId leaseSeconds actorId (clock - lag))
  | .renewLease taskId leaseOwner fencingToken leaseSeconds lag =>
    handing (fun task => [.renewed task.taskId task.revision])
      (renewLease env db taskId leaseOwner fencingToken leaseSeconds (clock - lag) clock)
  | .requestCancel taskId actorId => committing (requestCancel db taskId actorId clock)
  | .recordObservation call => committing (recordObservation db call clock)
  | .complete taskId leaseOwner fencingToken outputManifest expectedRevision actorId =>
    committing (transition env db
      (completeCall taskId leaseOwner fencingToken outputManifest expectedRevision actorId) clock)
  | .fail taskId leaseOwner fencingToken errorCode expectedRevision =>
    committing (transition env db (failCall taskId leaseOwner fencingToken errorCode expectedRevision) clock)
  | .markUnknown taskId leaseOwner fencingToken reason =>
    committing (transition env db (markUnknownCall taskId leaseOwner fencingToken reason) clock)
  | .timeout taskId leaseOwner fencingToken =>
    committing (transition env db (timeoutCall taskId leaseOwner fencingToken) clock)
  | .reconcileOutcome task outcome executionId outputManifest cleanupState actorId =>
    committing
      (reconcileOutcome env db task outcome executionId outputManifest cleanupState actorId clock)
  | .reconcileExpiredLeases now limit lag =>
    .ok ((reconcileExpiredLeases db (now.getD (clock - lag)) limit).1, [])
  | .expireDeadlines now limit lag => .ok ((expireDeadlines env db (now.getD (clock - lag)) limit).1, [])
  | .setCleanupState earlier cleanupState leaseOwner fencingToken actorId lag =>
    committing
      (setCleanupState db earlier cleanupState leaseOwner fencingToken actorId (clock - lag) clock)
  | .tick _ => .ok (db, [])

/-- The time that a step takes. -/
def Op.elapsed : Op → Nat
  | .tick elapsed => elapsed
  | _ => 0

/-- The clock of the host and the tables. -/
structure State where
  clock : Nat
  db : Database
deriving Repr

/-- The tables after an operation; one that raises is rolled back. -/
def State.tables (env : Environment) (state : State) (op : Op) : Database :=
  match state.db.perform env state.clock op with
  | .ok (after, _) => after
  | .error _ => state.db

/-- What an operation hands out; one that raises hands out nothing. -/
def State.reports (env : Environment) (state : State) (op : Op) : List Report :=
  match state.db.perform env state.clock op with
  | .ok (_, reports) => reports
  | .error _ => []

/-- The interleavings of the operations. -/
def ledger (env : Environment) : Machine State Op where
  init := { clock := 0, db := .empty }
  step state op := { clock := state.clock + op.elapsed, db := state.tables env op }

/-- The default settings, on a host that reads no deadline. -/
def Environment.default : Environment where
  fingerprint := SandboxTaskSpec.idempotencyKey
  iso _ := ""
  parseTime _ := none
  str value := value.text?.getD ""
  int _ := none
  isInfinite _ := false
  taskTimeoutSeconds := 300
  taskLeaseSeconds := 60
  maxConcurrent := 2
  maxConcurrentPerUser := 1
  maxConcurrentPerDepartment := 2

/-- The admission of one task. -/
def SandboxTaskSpec.sample : SandboxTaskSpec where
  idempotencyKey := "k"
  ownerId := "u"
  departmentId := "d"
  bundleRef := "b"
  bundleDigest := "x"
  profileRef := "p"
  policySnapshotHash := "h"

end HardwareDatabase.Sandbox
