/-
Module: HardwareDatabase.Governor.Maintenance
Purpose: The election of the maintainer (`src/src/core/concurrency/resource_governor.py`). `pid` gives the process id
  that a process has in its container. The column `updated_at` and what `maintain` does to the permits are left out:
  neither touches the lease.
Trusted boundary: none
-/
import HardwareDatabase.Relational.Lease
import HardwareDatabase.Relational.Run
import Mathlib.Logic.Function.Basic

namespace HardwareDatabase.Governor

open Relational

/-! ### The lease row -/

/-- `now + timedelta(seconds=max(1, int(lease_seconds)))`. -/
def leaseExpiry (now : Nat) (leaseSeconds : Int) : Nat :=
  now + (max 1 leaseSeconds).toNat * 1000000

/-- `try_acquire_maintenance` on the row of `MAINTENANCE_SCOPE`. -/
def tryAcquireMaintenance (row : Option (Lease String)) (ownerId : String) (leaseSeconds : Int) (now : Nat) :
    Option (Lease String) × Option Int :=
  Lease.acquire row ownerId now (leaseExpiry now leaseSeconds)

/-- `renew_maintenance`. -/
def renewMaintenance (row : Option (Lease String)) (ownerId : String) (token leaseSeconds : Int) (now : Nat) :
    Option (Lease String) × Bool :=
  Lease.renew row ownerId token (leaseExpiry now leaseSeconds)

/-- `release_maintenance`. -/
def releaseMaintenance (row : Option (Lease String)) (ownerId : String) (token : Int) :
    Option (Lease String) × Bool :=
  Lease.release "" row ownerId token

/-! ### The loop of a process -/

/-- `f"governor-maint-\x7bos.getpid()\x7d"`. -/
def maintainerId (pid : Nat) : String :=
  "governor-maint-" ++ toString pid

/-- Where a process is: its loop has not begun, it runs with the variable `token`, or it is gone. -/
inductive Stage
  | unborn
  | alive (token : Option Int)
  | gone
deriving Repr, DecidableEq

/-- The lease row and the processes. -/
structure MaintenanceState where
  lease : Option (Lease String)
  stage : Nat → Stage

def MaintenanceState.init : MaintenanceState :=
  { lease := none, stage := fun _ => .unborn }

/-- A call of the lease operations with the token of the process. -/
inductive MaintenanceCall
  | tryAcquire (leaseSeconds : Int)
  | renew (leaseSeconds : Int)
  | release
deriving Repr

/-- A step of a process: its loop begins, it calls an operation, its loop takes a turn, it stops, where the
release may raise, or it crashes. -/
inductive MaintenanceOp
  | start (process : Nat)
  | call (process now : Nat) (operation : MaintenanceCall)
  | iterate (process now : Nat)
  | stop (process : Nat) (raises : Bool)
  | crash (process : Nat)
deriving Repr

/-- The process that takes a step. -/
def MaintenanceOp.process : MaintenanceOp → Nat
  | .start process | .call process _ _ | .iterate process _ | .stop process _ | .crash process => process

namespace MaintenanceState

variable (pid : Nat → Nat)

def setStage (state : MaintenanceState) (process : Nat) (stage : Stage) : MaintenanceState :=
  { state with stage := Function.update state.stage process stage }

/-- A call of a process that holds `token`, with the token that it is granted. -/
def call (state : MaintenanceState) (process : Nat) (token : Option Int) (now : Nat) :
    MaintenanceCall → MaintenanceState × Option Int
  | .tryAcquire leaseSeconds =>
    let acquired := tryAcquireMaintenance state.lease (maintainerId (pid process)) leaseSeconds now
    ({ state with lease := acquired.1 }.setStage process (.alive acquired.2), acquired.2)
  | .renew leaseSeconds =>
    match token with
    | none => (state, none)
    | some held =>
      let renewed := renewMaintenance state.lease (maintainerId (pid process)) held leaseSeconds now
      let left := if renewed.2 then some held else none
      ({ state with lease := renewed.1 }.setStage process (.alive left), none)
  | .release =>
    match token with
    | none => (state, none)
    | some held =>
      let released := releaseMaintenance state.lease (maintainerId (pid process)) held
      ({ state with lease := released.1 }.setStage process (.alive none), none)

/-- The call that the loop makes in a turn, with the token that it holds. -/
def loopCall : Option Int → MaintenanceCall
  | none => .tryAcquire 15
  | some _ => .renew 15

/-- The end of the loop, with the release of a token that it holds. -/
def stop (state : MaintenanceState) (process : Nat) (token : Option Int) (raises : Bool) : MaintenanceState :=
  match token with
  | none => state.setStage process .gone
  | some held =>
    let released := releaseMaintenance state.lease (maintainerId (pid process)) held
    { state with lease := if raises then state.lease else released.1 }.setStage process .gone

/-- One step, with the token that the process is granted. -/
def perform (state : MaintenanceState) : MaintenanceOp → MaintenanceState × Option Int
  | .start process =>
    match state.stage process with
    | .unborn => (state.setStage process (.alive none), none)
    | _ => (state, none)
  | .call process now operation =>
    match state.stage process with
    | .alive token => state.call pid process token now operation
    | _ => (state, none)
  | .iterate process now =>
    match state.stage process with
    | .alive token => state.call pid process token now (loopCall token)
    | _ => (state, none)
  | .stop process raises =>
    match state.stage process with
    | .alive token => (state.stop pid process token raises, none)
    | _ => (state, none)
  | .crash process =>
    match state.stage process with
    | .alive _ => (state.setStage process .gone, none)
    | _ => (state, none)

end MaintenanceState

section Runs

variable (pid : Nat → Nat)

/-- The interleavings of the processes. -/
def maintenance : Machine MaintenanceState MaintenanceOp where
  init := .init
  step state op := (state.perform pid op).1

/-- The tokens that were granted in a run, oldest first, each with its process. -/
def maintenanceGrants (ops : List MaintenanceOp) : List (Nat × Int) :=
  (maintenance pid).emitted (fun state op => (state.perform pid op).2.toList.map (op.process, ·)) ops

end Runs

/-- The step makes its process call `try_acquire_maintenance`. -/
def MaintenanceOp.acquires (state : MaintenanceState) : MaintenanceOp → Bool
  | .call process _ (.tryAcquire _) =>
    match state.stage process with
    | .alive _ => true
    | _ => false
  | .iterate process _ => state.stage process == .alive none
  | _ => false

end HardwareDatabase.Governor
