/-
Module: HardwareDatabase.Memory.CatalogCalls
Purpose: Runs of the control plane in which the methods of the catalog repository are also called on their own, with
  what a caller captured from an outbox row or a catalog row however long ago.
Trusted boundary: none
-/
import HardwareDatabase.Memory.Service

namespace HardwareDatabase.Memory

open Relational

/-- A transaction of the control plane or a call of a catalog method. -/
inductive CatalogCall
  | control (op : Op)
  | prepareCandidate (request : CandidateRequest) (now : Time)
  | fenceProjection (projectionId expectedFence : Nat)
  | retireProjection (reason : String) (projectionId : Nat) (now : Time)
  | captureOperation (operationId : Nat)
  | markProjectionActive (item : ProjectionOperation) (now : Time)

/-- The control plane with the outbox rows that callers have read. -/
structure CatalogState where
  service : ServiceState
  captured : List ProjectionOperation
deriving Repr, DecidableEq

namespace CatalogState

def start : CatalogState :=
  { service := ServiceState.start, captured := [] }

def tables (state : CatalogState) : Tables :=
  state.service.tables

/-- The caller names no memory or one of the catalog. -/
def namesMemory (state : CatalogState) (request : CandidateRequest) : Bool :=
  request.memoryId.all fun memoryId =>
    state.tables.records.any fun record => record.memoryId == memoryId

/-- One call. -/
def step (env : Environment) (state : CatalogState) : CatalogCall → CatalogState
  | .control op => { state with service := state.service.step env op }
  | .prepareCandidate request now =>
    if state.namesMemory request then
      match prepareCandidate env.contentHash state.tables request now with
      | .ok (tables, _) => { state with service := { state.service with tables } }
      | .error _ => state
    else state
  | .fenceProjection projectionId expectedFence =>
    { state with
      service := { state.service with
        tables := fenceProjection state.tables projectionId expectedFence } }
  | .retireProjection reason projectionId now =>
    { state with
      service := { state.service with
        tables := retireProjection reason now state.tables projectionId } }
  | .captureOperation operationId =>
    match state.tables.projectionOutbox.find? fun row => row.operationId == operationId with
    | none => state
    | some row => { state with captured := row :: state.captured }
  | .markProjectionActive item now =>
    if item ∈ state.captured then
      match markProjectionActive state.tables item.operationId item.projectionId
          item.expectedRevision item.expectedFence item.payload.contentHash now with
      | some tables => { state with service := { state.service with tables } }
      | none => state
    else state

end CatalogState

/-- The control plane with direct calls of the catalog methods. -/
def catalogCalls (env : Environment) : Machine CatalogState CatalogCall where
  init := CatalogState.start
  step := CatalogState.step env

end HardwareDatabase.Memory
