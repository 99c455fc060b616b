/-
Module: HardwareDatabase.WorkOrders.Store
Purpose: The work orders and the outbox of `DocumentAuthoringStore`
  (`src/src/document_authoring/work_order_store.py`). What a work order holds besides the columns and the fields named
  here is one JSON text; fresh identifiers and instants are arguments.
Trusted boundary: none
-/
import HardwareDatabase.Python.Text
import HardwareDatabase.Relational.Table

namespace HardwareDatabase.WorkOrders

open Python (clip)
open Relational

/-! ### Rows -/

/-- The scope of a work order. -/
inductive ScopeType
  | project
  | knowledgeBase
deriving Repr, DecidableEq

/-- The status of a work order. -/
inductive OrderStatus
  | planned
  | retrieving
  | readyToDraft
  | drafting
  | waitingHumanInput
  | validating
  | waitingHumanApproval
  | readyToRender
  | rendering
  | blocked
  | paused
  | complete
  | failed
  | cancelled
deriving Repr, DecidableEq

/-- A `DocumentWorkOrder`. -/
structure WorkOrder where
  workOrderId : String
  tenantId : String
  scopeType : ScopeType
  projectId : Option String
  knowledgeBaseName : Option String
  idempotencyKey : Option String
  status : OrderStatus
  inputFingerprint : String
  sourceSetSnapshotId : String
  lockVersion : Int
  details : String
deriving Repr, DecidableEq

/-- A row of `document_work_orders`: the columns that `replace_work_order` leaves, and the payload. -/
structure OrderRow where
  workOrderId : String
  tenantId : String
  scopeKey : String
  idempotencyKey : Option String
  payload : WorkOrder
deriving Repr, DecidableEq

/-- The aggregate that an outbox event is about. -/
inductive AggregateType
  | workOrder
  | artifact
  | humanEvent
deriving Repr, DecidableEq

/-- What the event of a work order says of it. -/
structure OrderFacts where
  workOrderId : String
  status : OrderStatus
  lockVersion : Int
  inputFingerprint : String
  sourceSetSnapshotId : String
deriving Repr, DecidableEq

/-- The payload of an outbox event. -/
inductive EventPayload
  | order (facts : OrderFacts)
  | other (json : String)
deriving Repr, DecidableEq

/-- The delivery status of an outbox event. -/
inductive DeliveryStatus
  | pending
  | delivered
  | failed
deriving Repr, DecidableEq

/-- A row of `document_outbox_events`. -/
structure OutboxEvent where
  eventId : String
  eventKey : String
  aggregateType : AggregateType
  aggregateId : String
  eventType : String
  payload : EventPayload
  status : DeliveryStatus
  deliveryAttempts : Nat
  lastError : Option String
  createdAt : Nat
  deliveredAt : Option Nat
deriving Repr, DecidableEq

/-- The two tables. -/
structure Tables where
  orders : List OrderRow
  outbox : List OutboxEvent
deriving Repr, DecidableEq

def Tables.empty : Tables :=
  { orders := [], outbox := [] }

/-- What a call raises. -/
inductive Failure
  -- CompatibilityClosureError
  | closed
  -- RuntimeError
  | changedConcurrently
  -- KeyError
  | unknownEvent (eventId : String)
  -- IntegrityError
  | duplicateKey
deriving Repr, DecidableEq

/-- The message of an exception that the module words itself. -/
def Failure.text : Failure → String
  | .closed => "direct WorkOrder writes are closed; accepted plan references are required"
  | .changedConcurrently => "work order changed concurrently"
  | .unknownEvent eventId => "outbox event not found: " ++ eventId
  | .duplicateKey => ""

/-! ### Outbox events -/

variable (tables : Tables)

/-- `_put_outbox_event`: the primary key and the unique event key. -/
def putOutboxEvent (event : OutboxEvent) : Except Failure Tables :=
  if tables.outbox.any fun other => other.eventId == event.eventId || other.eventKey == event.eventKey then
    .error .duplicateKey
  else .ok { tables with outbox := tables.outbox ++ [event] }

/-- What the event of a work order says of it. -/
def WorkOrder.facts (order : WorkOrder) : OrderFacts :=
  { workOrderId := order.workOrderId, status := order.status, lockVersion := order.lockVersion,
    inputFingerprint := order.inputFingerprint, sourceSetSnapshotId := order.sourceSetSnapshotId }

/-- The event key of a version of a work order. -/
def orderKey (workOrderId : String) (lockVersion : Int) : String :=
  "work-order:" ++ workOrderId ++ ":" ++ lockVersion.repr

/-- An event that is to be delivered. -/
def pendingEvent (uuid eventKey : String) (aggregateType : AggregateType) (aggregateId eventType : String)
    (payload : EventPayload) (now : Nat) : OutboxEvent :=
  { eventId := "outbox-" ++ uuid, eventKey, aggregateType, aggregateId, eventType, payload,
    status := .pending, deliveryAttempts := 0, lastError := none, createdAt := now, deliveredAt := none }

/-- `_work_order_outbox_event`. -/
def workOrderOutboxEvent (order : WorkOrder) (action uuid : String) (now : Nat) : OutboxEvent :=
  pendingEvent uuid (orderKey order.workOrderId order.lockVersion) .workOrder order.workOrderId
    ("document_work_order." ++ action) (.order order.facts) now

/-- What an outbox event of another aggregate is keyed by. -/
inductive OtherSubject
  | artifact (fingerprint : String)
  | artifactMetadata (artifactId updatesHash : String)
  | humanEvent (fingerprint : String)
deriving Repr, DecidableEq

/-- The event key of another aggregate. -/
def OtherSubject.eventKey : OtherSubject → String
  | .artifact fingerprint => "artifact:" ++ fingerprint
  | .artifactMetadata artifactId updatesHash => "artifact:" ++ artifactId ++ ":metadata:" ++ updatesHash
  | .humanEvent fingerprint => "human-event:" ++ fingerprint

def OtherSubject.aggregateType : OtherSubject → AggregateType
  | .artifact _ | .artifactMetadata _ _ => .artifact
  | .humanEvent _ => .humanEvent

/-- The outbox side of saving or updating an artifact and of saving a human event. -/
def putOtherEvent (subject : OtherSubject) (aggregateId eventType json uuid : String)
    (now : Nat) : Except Failure Tables :=
  putOutboxEvent tables
    (pendingEvent uuid subject.eventKey subject.aggregateType aggregateId eventType (.other json) now)

/-- What a delivery attempt writes. -/
inductive DeliveryMark
  | delivered (instant : Nat)
  | failed (message : String)
deriving Repr, DecidableEq

/-- An event after a delivery attempt. -/
def OutboxEvent.marked (event : OutboxEvent) : DeliveryMark → OutboxEvent
  | .delivered instant =>
    { event with
      status := .delivered, lastError := none, deliveredAt := some instant,
      deliveryAttempts := event.deliveryAttempts + 1 }
  | .failed message =>
    { event with
      status := .failed, lastError := some (clip 500 message),
      deliveryAttempts := event.deliveryAttempts + 1 }

/-- `mark_outbox_event_delivered` and `mark_outbox_event_failed`. -/
def updateOutboxEvent (eventId : String) (mark : DeliveryMark) : Except Failure Tables :=
  if tables.outbox.any fun event => event.eventId == eventId then
    .ok { tables with
      outbox := updateWhere (fun event => event.eventId == eventId) (fun event => event.marked mark)
        tables.outbox }
  else .error (.unknownEvent eventId)

/-! ### Work orders -/

/-- `_work_order_scope_key`; an absent name prints as `None`. -/
def workOrderScopeKey (order : WorkOrder) : String :=
  match order.scopeType with
  | .knowledgeBase => "knowledge_base:" ++ order.knowledgeBaseName.getD "None"
  | .project => "project:" ++ order.projectId.getD "None"

/-- The row that `create_work_order` inserts. -/
def WorkOrder.row (order : WorkOrder) : OrderRow :=
  { workOrderId := order.workOrderId, tenantId := order.tenantId, scopeKey := workOrderScopeKey order,
    idempotencyKey := order.idempotencyKey, payload := order }

/-- `_put` on `document_work_orders`: the primary key, and the unique constraint on tenant, scope and
idempotency key, in which `NULL` keys differ. -/
def putWorkOrder (order : WorkOrder) : Except Failure Tables :=
  let row := order.row
  if tables.orders.any fun other =>
      other.workOrderId == row.workOrderId ||
        (row.idempotencyKey.isSome && other.tenantId == row.tenantId && other.scopeKey == row.scopeKey &&
          other.idempotencyKey == row.idempotencyKey) then
    .error .duplicateKey
  else .ok { tables with orders := tables.orders ++ [row] }

/-- `create_work_order`; `referencesAccepted` is what the compatibility closure says of the order, where
it is enabled. -/
def createWorkOrder (order : WorkOrder) (referencesAccepted : Bool) (uuid : String)
    (now : Nat) : Except Failure Tables :=
  if !referencesAccepted then .error .closed
  else do
    let inserted ← putWorkOrder tables order
    putOutboxEvent inserted (workOrderOutboxEvent order "created" uuid now)

/-- `get_work_order`. -/
def getWorkOrder (workOrderId : String) : Option WorkOrder :=
  (tables.orders.find? fun row => row.workOrderId == workOrderId).map OrderRow.payload

/-- The row that `replace_work_order` updates: the identifier and the version before the new one. -/
def OrderRow.precedes (row : OrderRow) (order : WorkOrder) : Bool :=
  row.workOrderId == order.workOrderId && row.payload.lockVersion == order.lockVersion - 1

/-- `replace_work_order`. -/
def replaceWorkOrder (order : WorkOrder) (uuid : String) (now : Nat) : Except Failure Tables :=
  let updated :=
    { tables with
      orders := updateWhere (fun row => row.precedes order) (fun row => { row with payload := order })
        tables.orders }
  if (tables.orders.countP fun row => row.precedes order) = 1 then
    putOutboxEvent updated (workOrderOutboxEvent order "state_changed" uuid now)
  else .error .changedConcurrently

end HardwareDatabase.WorkOrders
