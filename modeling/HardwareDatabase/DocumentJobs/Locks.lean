/-
Module: HardwareDatabase.DocumentJobs.Locks
Purpose: The resource locks of `DocumentAuthoringJobStore` (`src/src/document_authoring/job_store.py`). ISO texts in
  UTC are instants in microseconds. The columns `created_at` and `updated_at` of a lock, which nothing reads, are left
  out.
Trusted boundary: none
-/
import HardwareDatabase.Python.Text
import HardwareDatabase.Relational.Table

namespace HardwareDatabase.DocumentJobs

open Python (strip lowerAscii)
open Relational

/-- What a call raises. -/
inductive Failure
  -- ValueError
  | unsupportedOperation
  | unsupportedResourceType
  | resourceIdRequired
  | resourceLockNotObject
  | lockTenantAndOwnerRequired
  | identifiersRequired
  | idempotencyConflict
  | workerIdRequired
  -- RuntimeError
  | resourceLockLost
  | jobLeaseLost
  | documentResourceLockLost
  -- KeyError and IntegrityError
  | unknownJob
  | duplicateKey
deriving Repr, DecidableEq

/-- The message of an exception that the module words itself. -/
def Failure.text : Failure → String
  | .unsupportedOperation => "unsupported document authoring job operation"
  | .unsupportedResourceType => "unsupported resource lock type"
  | .resourceIdRequired => "resource lock id is required"
  | .resourceLockNotObject => "resource_lock must be an object"
  | .lockTenantAndOwnerRequired => "resource lock tenant and owner are required"
  | .identifiersRequired => "durable document jobs require tenant, user, session and client request ids"
  | .idempotencyConflict => "document authoring job idempotency key conflicts with existing payload"
  | .workerIdRequired => "worker_id is required"
  | .resourceLockLost => "resource lock lost"
  | .jobLeaseLost => "document authoring job lease lost"
  | .documentResourceLockLost => "document resource lock lost"
  | .unknownJob | .duplicateKey => ""

/-! ### Scopes -/

/-- A JSON value of a payload. A list, an object or a fraction is kept as `str` prints it. -/
inductive Value
  | null
  | text (value : String)
  | number (value : Int)
  | flag (value : Bool)
  | other (printed : String) (truthy : Bool)
deriving Repr, DecidableEq

namespace Value

/-- `value not in (None, "")`. -/
def isGiven : Value → Bool
  | .null => false
  | .text value => value != ""
  | .number _ | .flag _ | .other _ _ => true

/-- `str(value or "")`. -/
def orEmpty : Value → String
  | .null | .flag false => ""
  | .text value => value
  | .number value => if value = 0 then "" else toString value
  | .flag true => "True"
  | .other printed truthy => if truthy then printed else ""

end Value

/-- The value of the payload's `resource_lock`. -/
inductive ExplicitLock
  | object (type id : Value)
  | notObject
deriving Repr, DecidableEq

/-- The payload of a job: the fields that select its scope, and the text of the others, which are only
compared. A missing field and `null` read the same. -/
structure Payload where
  resourceLock : Option ExplicitLock
  projectId : Value
  knowledgeBaseName : Value
  templateVersionId : Value
  rest : String
deriving Repr, DecidableEq

/-- `RESOURCE_LOCK_TYPES`. -/
inductive ResourceType
  | project
  | knowledgeBase
  | template
  | workOrder
deriving Repr, DecidableEq

namespace ResourceType

def text : ResourceType → String
  | .project => "project"
  | .knowledgeBase => "knowledge_base"
  | .template => "template"
  | .workOrder => "work_order"

/-- Membership in `RESOURCE_LOCK_TYPES`. -/
def ofText (text : String) : Option ResourceType :=
  [project, knowledgeBase, template, workOrder].find? fun type => type.text == text

end ResourceType

/-- A validated `(resource_type, resource_id)`. -/
structure Scope where
  resourceType : ResourceType
  resourceId : String
deriving Repr, DecidableEq

/-- `_validate_resource_scope`. -/
def validateResourceScope (resourceType resourceId : String) : Except Failure Scope :=
  match ResourceType.ofText (lowerAscii (strip resourceType)) with
  | none => .error .unsupportedResourceType
  | some type =>
    if strip resourceId = "" ∨ 300 < (strip resourceId).length then .error .resourceIdRequired
    else .ok { resourceType := type, resourceId := strip resourceId }

/-- `_resource_scope_from_payload`: the explicit lock, else the first of project, knowledge base, work
order and template that is given. -/
def resourceScopeFromPayload (payload : Payload) (workOrderId : Option String) : Except Failure (Option Scope) :=
  match payload.resourceLock with
  | some .notObject => .error .resourceLockNotObject
  | some (.object type id) => (validateResourceScope type.orEmpty id.orEmpty).map some
  | none =>
    if payload.projectId.isGiven then
      (validateResourceScope "project" payload.projectId.orEmpty).map some
    else if payload.knowledgeBaseName.isGiven then
      (validateResourceScope "knowledge_base" payload.knowledgeBaseName.orEmpty).map some
    else if workOrderId.any (· != "") then
      (validateResourceScope "work_order" (workOrderId.getD "")).map some
    else if payload.templateVersionId.isGiven then
      (validateResourceScope "template" payload.templateVersionId.orEmpty).map some
    else .ok none

/-! ### Locks -/

/-- `document_resource_locks`, and the `ResourceLock` that a call returns. -/
structure LockRow where
  tenantId : String
  scope : Scope
  ownerId : String
  fencingToken : Nat
  leaseExpiresAt : Nat
deriving Repr, DecidableEq

/-- `WHERE tenant_id = ? AND resource_type = ? AND resource_id = ?`. -/
def LockRow.isFor (tenantId : String) (scope : Scope) (row : LockRow) : Bool :=
  row.tenantId == tenantId && row.scope == scope

/-- `.. AND owner_id = ? AND fencing_token = ?`. -/
def LockRow.isHeldBy (tenantId : String) (scope : Scope) (ownerId : String) (fencingToken : Nat)
    (row : LockRow) : Bool :=
  row.isFor tenantId scope && row.ownerId == ownerId && row.fencingToken == fencingToken

/-- `not _resource_lock_expired(row["lease_expires_at"], now)`. -/
def LockRow.isActive (now : Nat) (row : LockRow) : Bool :=
  now < row.leaseExpiresAt

/-- `now + timedelta(seconds=max(5, int(lease_seconds)))`. -/
def leaseEnd (now : Nat) (leaseSeconds : Int) : Nat :=
  now + (max 5 leaseSeconds).toNat * 1000000

/-- The row of a resource. -/
def lockOf (locks : List LockRow) (tenantId : String) (scope : Scope) : Option LockRow :=
  locks.find? (LockRow.isFor tenantId scope)

/-- The statements of `_acquire_resource_lock_in_connection` on a validated resource: the lock that is
granted, if any, and the table. -/
def takeLock (locks : List LockRow) (tenantId : String) (scope : Scope) (ownerId : String)
    (leaseSeconds : Int) (now : Nat) : Option LockRow × List LockRow :=
  let expires := leaseEnd now leaseSeconds
  match lockOf locks tenantId scope with
  | none =>
    let lock : LockRow :=
      { tenantId, scope, ownerId, fencingToken := 1, leaseExpiresAt := expires }
    (some lock, locks ++ [lock])
  | some row =>
    if row.isActive now && row.ownerId != ownerId then (none, locks)
    else
      let token := row.fencingToken + (if row.ownerId == ownerId && row.isActive now then 0 else 1)
      let lock : LockRow :=
        { tenantId, scope, ownerId, fencingToken := token, leaseExpiresAt := expires }
      (some lock, updateWhere (LockRow.isFor tenantId scope)
        (fun row => { row with ownerId, fencingToken := token, leaseExpiresAt := expires }) locks)

/-- `_acquire_resource_lock_in_connection`. -/
def acquireResourceLock (locks : List LockRow)
    (tenantId resourceType resourceId ownerId : String) (leaseSeconds : Int) (now : Nat) :
    Except Failure (Option LockRow × List LockRow) := do
  if strip tenantId = "" ∨ strip ownerId = "" then throw .lockTenantAndOwnerRequired
  let scope ← validateResourceScope resourceType resourceId
  return takeLock locks (strip tenantId) scope (strip ownerId) leaseSeconds now

/-- The `DELETE` of `_release_resource_lock_in_connection`. -/
def dropLock (locks : List LockRow) (tenantId : String) (scope : Scope) (ownerId : String)
    (fencingToken : Nat) : List LockRow :=
  deleteWhere (LockRow.isHeldBy tenantId scope ownerId fencingToken) locks

/-- `_release_resource_lock_in_connection`: whether a row was deleted, and the table. The tenant and the
owner are compared as they are given. -/
def releaseResourceLock (locks : List LockRow)
    (tenantId resourceType resourceId ownerId : String) (fencingToken : Nat) :
    Except Failure (Bool × List LockRow) := do
  let scope ← validateResourceScope resourceType resourceId
  return (locks.any (LockRow.isHeldBy tenantId scope ownerId fencingToken),
    dropLock locks tenantId scope ownerId fencingToken)

/-- `SET lease_expires_at = ?` on the row of a holder. -/
def extendLock (locks : List LockRow) (tenantId : String) (scope : Scope) (ownerId : String)
    (fencingToken expires : Nat) : List LockRow :=
  updateWhere (LockRow.isHeldBy tenantId scope ownerId fencingToken)
    (fun row => { row with leaseExpiresAt := expires }) locks

/-- `renew_resource_lock`. -/
def renewResourceLock (locks : List LockRow)
    (tenantId resourceType resourceId ownerId : String) (fencingToken : Nat) (leaseSeconds : Int)
    (now : Nat) : Except Failure (LockRow × List LockRow) := do
  let scope ← validateResourceScope resourceType resourceId
  let expires := leaseEnd now leaseSeconds
  match locks.find? (LockRow.isHeldBy tenantId scope ownerId fencingToken) with
  | none => throw .resourceLockLost
  | some row =>
    if row.isActive now then
      return ({ tenantId, scope, ownerId, fencingToken, leaseExpiresAt := expires },
        extendLock locks tenantId scope ownerId fencingToken expires)
    else throw .resourceLockLost

end HardwareDatabase.DocumentJobs
