/-
Module: HardwareDatabase.DocumentJobs.Store
Purpose: The jobs of `DocumentAuthoringJobStore`. Each function is one `BEGIN IMMEDIATE` transaction over the instant
  `now` that was read before it; `fail` receives the row that it read before, and the outbox mark is a transaction of
  its own.
Trusted boundary: none
-/
import HardwareDatabase.DocumentJobs.Locks
import Mathlib.Algebra.Group.Int.Defs
import Mathlib.Data.List.Dedup
import Mathlib.Data.List.Sort

namespace HardwareDatabase.DocumentJobs

open Python (strip clip)
open Relational

/-! ### Rows -/

/-- A digit of `uuid4().hex`. -/
def isHexDigit (character : Char) : Bool :=
  character.isDigit || ('a' ≤ character && character ≤ 'f')

/-- `uuid4().hex`. -/
structure Uuid where
  hex : String
  isHex : hex.toList.all isHexDigit = true
deriving Repr, DecidableEq

/-- `JOB_OPERATIONS`. -/
inductive Operation
  | generateWorkOrder
  | resumeWorkOrder
  | convertArtifact
deriving Repr, DecidableEq

namespace Operation

def text : Operation → String
  | .generateWorkOrder => "generate_work_order"
  | .resumeWorkOrder => "resume_work_order"
  | .convertArtifact => "convert_artifact"

/-- `_validate_operation`. -/
def validate (operation : String) : Except Failure Operation :=
  match [generateWorkOrder, resumeWorkOrder, convertArtifact].find? fun known =>
      known.text == strip operation with
  | some known => .ok known
  | none => .error .unsupportedOperation

end Operation

/-- `JOB_STATUSES`. -/
inductive JobStatus
  | queued
  | running
  | succeeded
  | failed
  | cancelled
  | deadLetter
deriving Repr, DecidableEq

namespace JobStatus

/-- `status in {"succeeded", "failed", "cancelled", "dead_letter"}`. -/
def isTerminal : JobStatus → Bool
  | .succeeded | .failed | .cancelled | .deadLetter => true
  | .queued | .running => false

/-- `status IN ('queued', 'running')`. -/
def isOpen (status : JobStatus) : Bool :=
  !status.isTerminal

end JobStatus

/-- `document_authoring_jobs`. The result is the JSON text that is stored. -/
structure Job where
  uuid : Uuid
  tenantId : String
  userId : String
  sessionId : String
  clientRequestId : String
  operation : Operation
  payload : Payload
  workOrderId : Option String
  taskId : Option String
  status : JobStatus
  attempt : Nat
  maxAttempts : Nat
  availableAt : Nat
  leaseOwner : Option String
  leaseToken : Nat
  leaseExpiresAt : Option Nat
  resourceLockToken : Option Nat
  result : String
  lastError : String
  createdAt : Nat
  updatedAt : Nat
  completedAt : Option Nat
deriving Repr, DecidableEq

/-- The statuses of an outbox row. -/
inductive OutboxStatus
  | pending
  | sent
  | failed
  | cancelled
deriving Repr, DecidableEq

/-- `document_authoring_job_outbox`. -/
structure OutboxRow where
  outboxUuid : Uuid
  jobId : String
  operation : Operation
  status : OutboxStatus
  attempt : Nat
  availableAt : Nat
  lastError : String
  createdAt : Nat
  dispatchedAt : Option Nat
deriving Repr, DecidableEq

/-- The three tables. -/
structure Store where
  jobs : List Job
  outbox : List OutboxRow
  locks : List LockRow
deriving Repr, DecidableEq

def Store.empty : Store :=
  { jobs := [], outbox := [], locks := [] }

/-- `f"document-job-{uuid.uuid4().hex}"`. -/
def Job.jobId (job : Job) : String :=
  "document-job-" ++ job.uuid.hex

/-- `_job_lock_owner`. -/
def jobLockOwner (jobId : String) (attempt : Nat) : String :=
  "document-job:" ++ jobId ++ ":" ++ toString attempt

namespace Job

/-- `_resource_scope_from_payload` of a stored row. -/
def scope (job : Job) : Except Failure (Option Scope) :=
  resourceScopeFromPayload job.payload job.workOrderId

/-- The lock owner of the row's attempt. -/
def lockOwner (job : Job) : String :=
  jobLockOwner job.jobId job.attempt

/-- The recorded fencing token, or the attempt in rows that have none. -/
def lockToken (job : Job) : Nat :=
  job.resourceLockToken.getD job.attempt

/-- `WHERE job_id = ? AND status = 'running' AND lease_owner = ? AND lease_token = ?`. -/
def isLeasedTo (jobId workerId : String) (leaseToken : Nat) (job : Job) : Bool :=
  job.jobId == jobId && job.status == .running && job.leaseOwner == some workerId &&
    job.leaseToken == leaseToken

/-- `str(text).strip() if text else None`. -/
def taskIdOf (text : Option String) : Option String :=
  (text.filter (· != "")).map strip

end Job

/-- `SELECT * FROM document_authoring_jobs WHERE job_id = ?`. -/
def Store.get (store : Store) (jobId : String) : Option Job :=
  store.jobs.find? fun job => job.jobId == jobId

/-- `UPDATE document_authoring_jobs SET .. WHERE job_id = ?`. -/
def writeJob (jobs : List Job) (jobId : String) (write : Job → Job) : List Job :=
  updateWhere (fun job => job.jobId == jobId) write jobs

/-- `_release_job_resource_lock_in_connection`. -/
def releaseJobLock (locks : List LockRow) (job : Job) : Except Failure (List LockRow) := do
  match ← job.scope with
  | none => return locks
  | some scope =>
    let (_, locks) ← releaseResourceLock locks job.tenantId scope.resourceType.text
      scope.resourceId job.lockOwner job.lockToken
    return locks

/-! ### Creation -/

/-- The arguments of `create_job`. -/
structure JobRequest where
  tenantId : String
  userId : String
  sessionId : String
  clientRequestId : String
  operation : String
  payload : Payload
  workOrderId : Option String
  taskId : Option String
  maxAttempts : Int
  availableAt : Option Nat
deriving Repr, DecidableEq

/-- The unique index over tenant, user, session, client request and operation. -/
def Job.hasKey (request : JobRequest) (operation : Operation) (job : Job) : Bool :=
  job.tenantId == strip request.tenantId && job.userId == strip request.userId &&
    job.sessionId == strip request.sessionId &&
    job.clientRequestId == clip 128 (strip request.clientRequestId) && job.operation == operation

/-- The row that `create_job` inserts. -/
def JobRequest.newJob (request : JobRequest) (operation : Operation) (uuid : Uuid) (now : Nat) : Job :=
  { uuid
    tenantId := strip request.tenantId
    userId := strip request.userId
    sessionId := strip request.sessionId
    clientRequestId := clip 128 (strip request.clientRequestId)
    operation
    payload := request.payload
    workOrderId := request.workOrderId
    taskId := Job.taskIdOf request.taskId
    status := .queued
    attempt := 0
    maxAttempts := (max 1 (min request.maxAttempts 20)).toNat
    availableAt := request.availableAt.getD now
    leaseOwner := none
    leaseToken := 0
    leaseExpiresAt := none
    resourceLockToken := none
    result := ""
    lastError := ""
    createdAt := now
    updatedAt := now
    completedAt := none }

/-- The replay of a request whose key is taken. -/
def Store.replayJob (store : Store) (request : JobRequest) (existing : Job) (now : Nat) : Except Failure Store :=
  let current := Job.taskIdOf existing.taskId
  let requested := Job.taskIdOf request.taskId
  if existing.payload ≠ request.payload ∨ existing.workOrderId ≠ request.workOrderId ∨
      (current.isSome ∧ requested.isSome ∧ current ≠ requested) then
    .error .idempotencyConflict
  else if current.isNone && requested.isSome then
    .ok { store with
      jobs := writeJob store.jobs existing.jobId fun job =>
        { job with taskId := requested, updatedAt := now } }
  else .ok store

/-- The two `INSERT`s; a primary key that is taken rolls them back. -/
def Store.insertJob (store : Store) (job : Job) (outboxUuid : Uuid) : Except Failure Store :=
  if store.jobs.any (fun other => other.jobId == job.jobId) ||
      store.outbox.any (fun row => row.outboxUuid == outboxUuid || row.jobId == job.jobId) then
    .error .duplicateKey
  else
    .ok { store with
      jobs := store.jobs ++ [job]
      outbox := store.outbox ++
        [{ outboxUuid, jobId := job.jobId, operation := job.operation, status := .pending, attempt := 0,
           availableAt := job.availableAt, lastError := "", createdAt := job.createdAt,
           dispatchedAt := none }] }

/-- `create_job`. -/
def Store.createJob (store : Store) (request : JobRequest) (uuid outboxUuid : Uuid) (now : Nat) :
    Except Failure Store := do
  let operation ← Operation.validate request.operation
  if strip request.tenantId = "" ∨ strip request.userId = "" ∨ strip request.sessionId = "" ∨
      clip 128 (strip request.clientRequestId) = "" then
    throw .identifiersRequired
  let _ ← resourceScopeFromPayload request.payload request.workOrderId
  match store.jobs.find? (Job.hasKey request operation) with
  | some existing => store.replayJob request existing now
  | none => store.insertJob (request.newJob operation uuid now) outboxUuid

/-! ### Leases -/

namespace Job

/-- A queued job whose time has come. -/
def isAvailable (now : Nat) (job : Job) : Bool :=
  job.status == .queued && job.availableAt ≤ now

/-- A running job whose lease has run out. -/
def isExpired (now : Nat) (job : Job) : Bool :=
  job.status == .running && job.leaseExpiresAt.any (· ≤ now)

/-- `lease_owner = NULL, lease_expires_at = NULL, updated_at = ?`. -/
def leaveLease (now : Nat) (job : Job) : Job :=
  { job with leaseOwner := none, leaseExpiresAt := none, updatedAt := now }

/-- A claim beyond the last attempt. -/
def exhaust (now : Nat) (job : Job) : Job :=
  { job.leaveLease now with
    status := .deadLetter, lastError := "maximum_attempts_exceeded", completedAt := some now }

/-- The row of a job that a worker starts. -/
def start (workerId : String) (expires : Nat) (resourceLockToken : Option Nat) (now : Nat) (job : Job) : Job :=
  { job with
    status := .running
    attempt := job.attempt + 1
    leaseOwner := some workerId
    leaseToken := job.leaseToken + 1
    leaseExpiresAt := some expires
    resourceLockToken
    updatedAt := now
    lastError := "" }

/-- `status = 'cancelled', last_error = ?, completed_at = ?` and no lease. -/
def cancelled (reason : String) (now : Nat) (job : Job) : Job :=
  { job.leaveLease now with
    status := .cancelled
    lastError := clip 1000 (if reason = "" then "cancelled" else reason)
    completedAt := some now }

end Job

/-- The lock table on which a claim acquires: the lock of the attempt that ran out is removed first. -/
def locksForClaim (locks : List LockRow) (job : Job) (scope : Scope) (now : Nat) :
    Except Failure (List LockRow) := do
  if job.isExpired now then
    let (_, locks) ← releaseResourceLock locks job.tenantId scope.resourceType.text scope.resourceId
      job.lockOwner job.lockToken
    return locks
  else return locks

/-- The row of a claimed job, and the store with it. -/
def Store.startJob (store : Store) (job : Job) (workerId : String) (leaseSeconds : Int)
    (resourceLockToken : Option Nat) (now : Nat) : Option Job × Store :=
  let start := Job.start workerId (leaseEnd now leaseSeconds) resourceLockToken now
  (some (start job), { store with jobs := writeJob store.jobs job.jobId start })

/-- The part of `claim` that follows the checks: the resource lock and the lease. -/
def Store.lease (store : Store) (job : Job) (workerId : String) (leaseSeconds : Int) (now : Nat) :
    Except Failure (Option Job × Store) := do
  match ← job.scope with
  | none => return store.startJob job workerId leaseSeconds none now
  | some scope =>
    let locks ← locksForClaim store.locks job scope now
    match ← acquireResourceLock locks job.tenantId scope.resourceType.text scope.resourceId
        (jobLockOwner job.jobId (job.attempt + 1)) leaseSeconds now with
    -- the transaction commits although the lock is taken, and with it the removal above
    | (none, locks) => return (none, { store with locks })
    | (some lock, locks) =>
      return { store with locks }.startJob job workerId leaseSeconds (some lock.fencingToken) now

/-- `claim`. -/
def Store.claim (store : Store) (jobId workerId : String) (leaseSeconds : Int) (now : Nat) :
    Except Failure (Option Job × Store) := do
  if strip workerId = "" then throw .workerIdRequired
  match store.get jobId with
  | none => return (none, store)
  | some job =>
    if job.status.isTerminal then return (none, store)
    else if !(job.isAvailable now || job.isExpired now) then return (none, store)
    else if job.maxAttempts < job.attempt + 1 then
      let locks ← if job.status = .running then releaseJobLock store.locks job else pure store.locks
      return (none, { store with locks, jobs := writeJob store.jobs jobId (Job.exhaust now) })
    else store.lease job (strip workerId) leaseSeconds now

/-- The extension of the resource lock by a heartbeat: exactly one row must be written. -/
def heartbeatLock (locks : List LockRow) (job : Job) (expires : Nat) :
    Except Failure (List LockRow) := do
  match ← job.scope with
  | none => return locks
  | some scope =>
    if locks.countP (LockRow.isHeldBy job.tenantId scope job.lockOwner job.lockToken) ≠ 1 then
      throw .documentResourceLockLost
    return extendLock locks job.tenantId scope job.lockOwner job.lockToken expires

/-- `heartbeat`. -/
def Store.heartbeat (store : Store) (jobId workerId : String) (leaseToken : Nat) (leaseSeconds : Int)
    (now : Nat) : Except Failure Store := do
  match store.jobs.find? (Job.isLeasedTo jobId workerId leaseToken) with
  | none => throw .jobLeaseLost
  | some job =>
    let expires := leaseEnd now leaseSeconds
    let locks ← heartbeatLock store.locks job expires
    return { store with
      locks
      jobs := updateWhere (Job.isLeasedTo jobId workerId leaseToken)
        (fun job => { job with leaseExpiresAt := some expires, updatedAt := now }) store.jobs }

/-- The end of a lease by its holder: the row is written and the resource lock released. -/
def Store.endLease (store : Store) (jobId workerId : String) (leaseToken : Nat) (write : Job → Job) :
    Except Failure Store := do
  match store.jobs.find? (Job.isLeasedTo jobId workerId leaseToken) with
  | none => throw .jobLeaseLost
  | some job =>
    let locks ← releaseJobLock store.locks job
    return { store with
      locks
      jobs := updateWhere (Job.isLeasedTo jobId workerId leaseToken) write store.jobs }

/-- `complete`. -/
def Store.complete (store : Store) (jobId workerId : String) (leaseToken : Nat) (result : String)
    (now : Nat) : Except Failure Store :=
  store.endLease jobId workerId leaseToken fun job =>
    { job.leaveLease now with status := .succeeded, result, completedAt := some now }

/-- The arguments of `fail`. -/
structure JobFailure where
  workerId : String
  leaseToken : Nat
  message : String
  retryable : Bool
  backoffSeconds : Option Int
deriving Repr, DecidableEq

/-- `retryable and current.attempt < current.max_attempts`. -/
def JobFailure.shouldRetry (call : JobFailure) (current : Job) : Bool :=
  call.retryable && current.attempt < current.maxAttempts

/-- The seconds until the next attempt. -/
def JobFailure.delay (call : JobFailure) (current : Job) : Nat :=
  (max 1 (call.backoffSeconds.getD (min 300 (2 ^ (current.attempt - 1))))).toNat

/-- The columns that `fail` writes. -/
def JobFailure.record (call : JobFailure) (current : Job) (now : Nat) (job : Job) : Job :=
  if call.shouldRetry current then
    { job.leaveLease now with
      status := .queued
      availableAt := now + call.delay current * 1000000
      lastError := clip 1000 call.message
      completedAt := none }
  else
    { job.leaveLease now with
      status := if call.retryable then .deadLetter else .failed
      availableAt := now
      lastError := clip 1000 call.message
      completedAt := some now }

/-- `fail`, where `current` is the row that the call read first. -/
def Store.fail (store : Store) (current : Job) (call : JobFailure) (now : Nat) : Except Failure Store :=
  store.endLease current.jobId call.workerId call.leaseToken (call.record current now)

/-! ### Cancellation -/

/-- `cancel`: one statement, which leaves the resource lock. -/
def Store.cancel (store : Store) (jobId reason : String) (now : Nat) : Store :=
  { store with
    jobs := updateWhere (fun job => job.jobId == jobId && job.status.isOpen)
      (Job.cancelled reason now) store.jobs }

/-- `text LIKE fixed || '%'` where `fixed` has no wildcard: SQLite ignores the case of ASCII letters. -/
def likePrefix (fixed text : String) : Bool :=
  (fixed.toList.map Char.toLower).isPrefixOf (text.toList.map Char.toLower)

/-- Releases a job's lock, then deletes every lock whose owner reads `document-job:{job_id}:..`. -/
def revokeJobLocks (locks : List LockRow) (job : Job) : Except Failure (List LockRow) := do
  let locks ← releaseJobLock locks job
  return deleteWhere (fun row => likePrefix ("document-job:" ++ job.jobId ++ ":") row.ownerId) locks

/-- The work orders of a session's jobs, sorted and without repetitions. -/
def workOrderIds (rows : List Job) : List String :=
  ((rows.filterMap fun job => job.workOrderId.filter (· != "")).dedup).insertionSort (· ≤ ·)

/-- One row of `cancel_session`. -/
def Store.revokeJob (reason : String) (now : Nat) (store : Store) (job : Job) :
    Except Failure Store := do
  if job.status.isTerminal then return store
  let locks ← revokeJobLocks store.locks job
  return { store with
    locks
    jobs := writeJob store.jobs job.jobId (Job.cancelled reason now)
    outbox := updateWhere (fun row => row.jobId == job.jobId)
      (fun row => { row with
        status := .cancelled
        lastError := clip 1000 (if reason = "" then "cancelled" else reason)
        dispatchedAt := some now }) store.outbox }

/-- `cancel_session`. -/
def Store.cancelSession (store : Store) (sessionId reason : String) (now : Nat) :
    Except Failure (List String × Store) := do
  if strip sessionId = "" then return ([], store)
  let rows := store.jobs.filter fun job => job.sessionId == strip sessionId
  let store ← rows.foldlM (Store.revokeJob reason now) store
  return (workOrderIds rows, store)

/-- `cleanup_session`. -/
def Store.cleanupSession (store : Store) (sessionId : String) :
    Except Failure (List String × Store) := do
  if strip sessionId = "" then return ([], store)
  let rows := store.jobs.filter fun job => job.sessionId == strip sessionId
  let locks ← rows.foldlM revokeJobLocks store.locks
  return (workOrderIds rows,
    { locks
      outbox := deleteWhere (fun row => rows.any fun job => job.jobId == row.jobId) store.outbox
      jobs := deleteWhere (fun job => job.sessionId == strip sessionId) store.jobs })

/-- The statuses that `_mark_outbox` accepts. -/
inductive OutboxMark
  | sent
  | failed
  | pending
deriving Repr, DecidableEq

def OutboxMark.status : OutboxMark → OutboxStatus
  | .sent => .sent
  | .failed => .failed
  | .pending => .pending

/-- `_mark_outbox`. -/
def Store.markOutbox (store : Store) (jobId : String) (mark : OutboxMark) (error : String) (now : Nat) : Store :=
  { store with
    outbox := updateWhere (fun row => row.jobId == jobId)
      (fun row => { row with
        status := mark.status
        attempt := row.attempt + 1
        lastError := clip 1000 error
        dispatchedAt := if mark = .sent then some now else none }) store.outbox }

end HardwareDatabase.DocumentJobs
