/-
Module: HardwareDatabase.WorkOrders.Service
Purpose: Runs of the work-order store. The copies that the clients have read, or hold from their own writes, are kept
  for good, so that a client may act on one however old it is.
Trusted boundary: none
-/
import HardwareDatabase.WorkOrders.Store
import HardwareDatabase.Relational.Run

namespace HardwareDatabase.WorkOrders

open Relational

/-- The operations on the work orders and the outbox. -/
inductive Op
  | create (order : WorkOrder) (referencesAccepted : Bool) (uuid : String) (now : Nat)
  | read (workOrderId : String)
  | replace (order : WorkOrder) (uuid : String) (now : Nat)
  | putOther (subject : OtherSubject) (aggregateId eventType json uuid : String) (now : Nat)
  | markOutbox (eventId : String) (mark : DeliveryMark)

/-- The tables, and the copies of work orders that clients hold. -/
structure ServiceState where
  tables : Tables
  copies : List WorkOrder
deriving Repr, DecidableEq

namespace ServiceState

def start : ServiceState :=
  { tables := Tables.empty, copies := [] }

/-- What the transaction of an operation commits, or what it raises. -/
def attempt (state : ServiceState) : Op → Except Failure Tables
  | .create order referencesAccepted uuid now =>
    createWorkOrder state.tables order referencesAccepted uuid now
  | .read _ => .ok state.tables
  | .replace order uuid now => replaceWorkOrder state.tables order uuid now
  | .putOther subject aggregateId eventType json uuid now =>
    putOtherEvent state.tables subject aggregateId eventType json uuid now
  | .markOutbox eventId mark => updateOutboxEvent state.tables eventId mark

/-- The version of a work order that an operation writes, if it does not raise. -/
def written (state : ServiceState) : Op → List WorkOrder
  | .create order referencesAccepted uuid now =>
    if (state.attempt (.create order referencesAccepted uuid now)).isOk then [order] else []
  | .replace order uuid now => if (state.attempt (.replace order uuid now)).isOk then [order] else []
  | .read _ | .putOther .. | .markOutbox .. => []

/-- The copies that clients get from an operation: what they read, or what they have written. -/
def handedOut (state : ServiceState) : Op → List WorkOrder
  | .read workOrderId => (getWorkOrder state.tables workOrderId).toList
  | op => state.written op

/-- One operation: an exception leaves the tables as they were. -/
def step (state : ServiceState) (op : Op) : ServiceState :=
  { tables :=
      match state.attempt op with
      | .ok after => after
      | .error _ => state.tables
    copies := state.handedOut op ++ state.copies }

end ServiceState

/-- The work-order store and its clients. -/
def workOrders : Machine ServiceState Op where
  init := ServiceState.start
  step := ServiceState.step

/-- The versions that a run has written, oldest first. -/
def writtenBy (ops : List Op) : List WorkOrder :=
  workOrders.emitted ServiceState.written ops

end HardwareDatabase.WorkOrders
