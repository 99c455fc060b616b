/-
Module: HardwareDatabase.Governor.Service
Purpose: Runs of the deployment-wide governor (`src/src/core/concurrency/resource_governor.py`): any interleaving of
  transactions at arbitrary instants. Each attempt of the waiting loop is one operation; leaving `governor_acquire`
  passes the release on once.
Trusted boundary: none
-/
import HardwareDatabase.Governor.Store
import HardwareDatabase.Relational.Run

namespace HardwareDatabase.Governor

open Relational

/-- The quota of a resource. -/
structure Quota where
  capacity : Nat
  reserved : Int
  reservedLe : reserved ≤ capacity

/-- The operations on the permits. -/
inductive Op
  | tryAcquire (call : AcquireCall)
  | release (permitId : String)
  | renew (permitId : String) (leaseSeconds : Int) (now : Nat)
  | finish (call : FinishCall)
  | releaseUncertain (call : RecoveryCall)
  | reapExpired (now clock : Nat)
  | maintain (escalateSeconds : Int) (now clock : Nat)
  | enter (call : AcquireCall)
  | exit (permitId : String)
deriving Repr, DecidableEq

/-- A `GovernorPermit`. -/
structure Handle where
  permitId : String
  released : Bool
deriving Repr, DecidableEq

/-- The tables, and the permit objects that the processes hold. -/
structure ServiceState where
  tables : Tables
  handles : List Handle
deriving Repr, DecidableEq

namespace ServiceState

def start : ServiceState :=
  { tables := Tables.empty, handles := [] }

variable (quotas : String → Quota) (state : ServiceState)

/-- The admission under the quota of the resource. -/
def admission (call : AcquireCall) : Except Failure (Tables × Option String) :=
  Governor.tryAcquire state.tables call (quotas call.resource).capacity (quotas call.resource).reserved

/-- A permit object that has not been released. -/
def holds (permitId : String) : Bool :=
  state.handles.any fun handle => handle.permitId == permitId && !handle.released

/-- What the transaction of an operation commits, or what it raises. -/
def attempt : Op → Except Failure Tables
  | .tryAcquire call | .enter call => (state.admission quotas call).map Prod.fst
  | .release permitId => .ok (Governor.release state.tables permitId)
  | .renew permitId leaseSeconds now => .ok (Governor.renew state.tables permitId leaseSeconds now)
  | .finish call => (Governor.finish state.tables call).map Prod.fst
  | .releaseUncertain call => (Governor.releaseUncertain state.tables call).map Prod.fst
  | .reapExpired now clock => .ok (Governor.reapExpired state.tables now clock)
  | .maintain escalateSeconds now clock => .ok (Governor.maintain state.tables escalateSeconds now clock)
  | .exit permitId =>
    .ok (if state.holds permitId then Governor.release state.tables permitId else state.tables)

/-- The permit objects after an operation. -/
def handlesAfter : Op → List Handle
  | .enter call =>
    match state.admission quotas call with
    | .ok (_, some permitId) => state.handles ++ [{ permitId, released := false }]
    | .ok (_, none) | .error _ => state.handles
  | .exit permitId =>
    updateWhere (fun handle => handle.permitId == permitId) (fun handle => { handle with released := true })
      state.handles
  | _ => state.handles

/-- One operation: an exception leaves the tables as they were. -/
def step (op : Op) : ServiceState :=
  { tables :=
      match state.attempt quotas op with
      | .ok after => after
      | .error _ => state.tables
    handles := state.handlesAfter quotas op }

end ServiceState

/-- The governor of a deployment. -/
def governor (quotas : String → Quota) : Machine ServiceState Op where
  init := ServiceState.start
  step := ServiceState.step quotas

end HardwareDatabase.Governor
