/-
Module: HardwareDatabase.Memory.Jobs
Purpose: The reflection job queue of `src/src/memory/jobs.py`: one project job per session, one user job per consent
  event, leases with fencing tokens, retries, dead letters and cancellations.
Trusted boundary: none
-/
import HardwareDatabase.Memory.Rows
import HardwareDatabase.Python.Text
import HardwareDatabase.Relational.Table

namespace HardwareDatabase.Memory

open Relational

variable (tables : Tables)

/-- `get_job`. -/
def getJob (jobId : Nat) : Option Job :=
  tables.jobs.find? fun job => job.jobId == jobId

namespace Job

/-- `lease_owner = NULL, lease_token = NULL, lease_expires_at = NULL`. -/
def dropLease (job : Job) : Job :=
  { job with leaseOwner := none, leaseToken := none, leaseExpiresAt := none }

/-- `status = 'running' AND lease_token = ? AND generation = ?`. -/
def heldBy (token generation : Nat) (job : Job) : Bool :=
  job.status == .running && job.leaseToken == some token && job.generation == generation

/-- The row a cancellation leaves: a new generation without a lease. -/
def cancel (reason : String) (job : Job) : Job :=
  { job with status := .cancelled, generation := job.generation + 1, lastError := reason }.dropLease

end Job

/-! ### Enqueueing -/

/-- What a caller of the project enqueue functions passes. A caller that leaves `available_at` out
gets the current instant. -/
structure ReflectionRequest where
  sessionId : Nat
  departmentId : String
  kbId : String
  targetTurnId : String
  targetMessageId : Nat
  availableAt : Time
  sourceStartTurnId : Option String
  sourceStartMessageId : Option Nat
  force : Bool
deriving Repr, DecidableEq

/-- A project reflection writes memories of the session's project. -/
def ReflectionRequest.scope (request : ReflectionRequest) : Scope :=
  .project request.departmentId request.kbId

/-- `_message_order`: the message id is the high-watermark, the turn id breaks ties. -/
def messageOrder (turnId : String) (messageId : Nat) : Nat × String :=
  (messageId, turnId)

/-- The project job of a session: the unique index admits one. -/
def projectJob (sessionId : Nat) : Option Job :=
  tables.jobs.find? fun job => job.sessionId == sessionId && job.kind == .projectReflection

/-- `_insert_project_job`. -/
def insertProjectJob (request : ReflectionRequest) (now : Time) : Tables × Nat :=
  let job : Job :=
    { jobId := tables.nextId, sessionId := request.sessionId, kind := .projectReflection,
      scope := request.scope, consentEventId := none, consentPolicyVersion := none,
      consentRevokeGeneration := none, targetTurnId := request.targetTurnId,
      targetMessageId := request.targetMessageId, sourceStartTurnId := request.sourceStartTurnId,
      sourceStartMessageId := request.sourceStartMessageId, authorized := none, generation := 1,
      status := .pending, requestedAt := now, availableAt := request.availableAt,
      nextRetryAt := none, leaseOwner := none, leaseToken := none, leaseExpiresAt := none,
      claimedAt := none, completedAt := none, retryCount := 0, lastError := "" }
  ({ tables with jobs := tables.jobs ++ [job], nextId := tables.nextId + 1 }, tables.nextId)

/-- The columns that every reopening `UPDATE` writes. `retry_count` and `next_retry_at` are not
among them. -/
def Job.reopen (request : ReflectionRequest) (now : Time) (job : Job) : Job :=
  { job with
    scope := request.scope
    targetTurnId := request.targetTurnId
    targetMessageId := request.targetMessageId
    sourceStartTurnId := job.sourceStartTurnId <|> request.sourceStartTurnId
    sourceStartMessageId := job.sourceStartMessageId <|> request.sourceStartMessageId
    generation := job.generation + 1
    status := .pending
    availableAt := request.availableAt
    requestedAt := now
    completedAt := none
    lastError := "" }

/-- `UPDATE memory_jobs SET .. WHERE job_id = ?`. -/
def updateJob (jobId : Nat) (f : Job → Job) : Tables :=
  { tables with jobs := updateWhere (fun job => job.jobId == jobId) f tables.jobs }

/-- `MemoryJobRepository.enqueue_project_reflection`. -/
def enqueueProjectReflection (request : ReflectionRequest) (now : Time) : Tables × Nat :=
  match projectJob tables request.sessionId with
  | none => insertProjectJob tables request now
  | some existing =>
    let oldTarget := messageOrder existing.targetTurnId existing.targetMessageId
    let newTarget := messageOrder request.targetTurnId request.targetMessageId
    if Python.pairLe newTarget oldTarget then
      -- a duplicate callback neither moves the watermark back nor opens a generation
      if request.force then
        (updateJob tables existing.jobId fun job => (job.reopen request now).dropLease,
          existing.jobId)
      else
        (tables, existing.jobId)
    else
      (updateJob tables existing.jobId fun job => (job.reopen request now).dropLease,
        existing.jobId)

/-- `enqueue_project_reflection_in_connection`. The newer-target update leaves the lease columns. -/
def enqueueProjectReflectionInConnection (request : ReflectionRequest) (now : Time) : Tables × Nat :=
  match projectJob tables request.sessionId with
  | none => insertProjectJob tables request now
  | some existing =>
    let oldTarget := messageOrder existing.targetTurnId existing.targetMessageId
    let newTarget := messageOrder request.targetTurnId request.targetMessageId
    if Python.pairLe newTarget oldTarget then
      if request.force then
        (updateJob tables existing.jobId fun job => (job.reopen request now).dropLease,
          existing.jobId)
      else
        (tables, existing.jobId)
    else
      (updateJob tables existing.jobId fun job => job.reopen request now, existing.jobId)

/-- `enqueue_user_reflection`: one immutable job for a consent event. -/
def enqueueUserReflection (sessionId : Nat) (scope : Scope)
    (targetTurnId : String) (targetMessageId : Nat) (consent : ConsentEvent) (now : Time) : Tables × Nat :=
  let job : Job :=
    { jobId := tables.nextId, sessionId, kind := .userReflection, scope,
      consentEventId := some consent.consentEventId,
      consentPolicyVersion := some consent.policyVersion,
      consentRevokeGeneration := some consent.revokeGeneration, targetTurnId, targetMessageId,
      sourceStartTurnId := none, sourceStartMessageId := none,
      authorized :=
        some (consent.authorizedStart, consent.authorizedEnd, consent.authorizedSourceHash),
      generation := 1, status := .pending, requestedAt := now, availableAt := now,
      nextRetryAt := none, leaseOwner := none, leaseToken := none, leaseExpiresAt := none,
      claimedAt := none, completedAt := none, retryCount := 0, lastError := "" }
  ({ tables with jobs := tables.jobs ++ [job], nextId := tables.nextId + 1 }, tables.nextId)

/-! ### Claims and leases -/

/-- The `WHERE` clause of `claim_next` and `has_claimable`: `NULL` never compares. -/
def Job.claimable (now : Time) (job : Job) : Bool :=
  ((job.status == .pending || job.status == .retrying) && decide (job.availableAt ≤ now) &&
      job.nextRetryAt.all (· ≤ now)) ||
    (job.status == .running && job.leaseExpiresAt.any (· ≤ now))

/-- `ORDER BY CASE WHEN job_kind = 'user_reflection' THEN 0 ELSE 1 END, requested_at, job_id`; ids
compare as the texts that `uuid` gives them. -/
def Job.precedes (uuid : Nat → String) (left right : Job) : Bool :=
  let rank (job : Job) : Nat := if job.kind == .userReflection then 0 else 1
  decide (rank left < rank right) ||
    (rank left == rank right &&
      (decide (left.requestedAt < right.requestedAt) ||
        (left.requestedAt == right.requestedAt && decide (uuid left.jobId < uuid right.jobId))))

/-- The job that `claim_next` selects. -/
def nextClaimable (uuid : Nat → String) (tables : Tables) (now : Time) : Option Job :=
  firstBy (Job.precedes uuid) (tables.jobs.filter (Job.claimable now))

/-- The text stored with a dead letter: the last real failure is kept behind the generic reason. -/
def deadLetterReason (lastError : String) : String :=
  let previousError := Python.strip lastError
  let reason := "maximum memory job attempts exceeded"
  let reason :=
    if previousError != "" && previousError != reason then
      reason ++ "; last error: " ++ previousError
    else reason
  Python.clip 2000 reason

/-- The row of a job that ran out of attempts. -/
def Job.bury (attempts : Nat) (reason : String) (job : Job) : Job :=
  { job with status := .deadLetter, retryCount := attempts, lastError := reason }.dropLease

/-- The row of a claimed job. -/
def Job.leaseTo (workerId : String) (token attempts : Nat) (expires now : Time) (job : Job) : Job :=
  { job with
    status := .running
    leaseOwner := some workerId
    leaseToken := some token
    leaseExpiresAt := some expires
    claimedAt := some now
    retryCount := attempts
    nextRetryAt := none }

/-- `claim_next`: `now` is the instant of the selection, `clock` the one the lease is counted from. -/
def claimNext (uuid : Nat → String) (maxRetries : Nat) (tables : Tables) (workerId : String)
    (leaseSeconds : Nat) (now clock : Time) : Tables × Option Job :=
  let token := tables.nextId
  match nextClaimable uuid tables now with
  | none => (tables, none)
  | some current =>
    let maxAttempts := max 1 maxRetries
    if maxAttempts ≤ current.retryCount then
      (updateJob tables current.jobId
        (Job.bury current.retryCount (deadLetterReason current.lastError)), none)
    else
      let tables := { tables with nextId := tables.nextId + 1 }
      let tables := updateJob tables current.jobId
        (Job.leaseTo workerId token (current.retryCount + 1) (clock + leaseSeconds * 1000000) now)
      (tables, getJob tables current.jobId)

/-- `UPDATE memory_jobs SET .. WHERE job_id = ? AND status = 'running' AND lease_token = ? AND
generation = ?`: the fenced write of a lease holder. -/
def updateHeld (jobId token generation : Nat) (f : Job → Job) : Tables :=
  { tables with
    jobs := updateWhere (fun job => job.jobId == jobId && job.heldBy token generation) f
      tables.jobs }

def heartbeat (jobId token generation leaseSeconds : Nat) (clock : Time) : Tables :=
  updateHeld tables jobId token generation fun job =>
    { job with leaseExpiresAt := some (clock + leaseSeconds * 1000000) }

/-- `mark_completed`, and the completion statement of `_apply_job`. -/
def markCompleted (jobId token generation : Nat) (now : Time) : Tables :=
  updateHeld tables jobId token generation fun job =>
    { job with status := .completed, completedAt := some now }.dropLease

/-- The row of a job whose attempt failed. -/
def Job.giveBack (status : JobStatus) (error : String) (nextRetryAt : Option Time) (job : Job) : Job :=
  { job with status, lastError := error, nextRetryAt }.dropLease

/-- `mark_retry`. -/
def markRetry (maxRetries : Nat) (tables : Tables) (jobId token generation : Nat) (error : String)
    (retryAfterSeconds : Nat) (clock : Time) : Tables :=
  match tables.jobs.find? fun job => job.jobId == jobId && job.heldBy token generation with
  | none => tables
  | some row =>
    let error := Python.clip 2000 error
    if max 1 maxRetries ≤ row.retryCount then
      updateHeld tables jobId token generation (Job.giveBack .deadLetter error none)
    else
      updateHeld tables jobId token generation
        (Job.giveBack .retrying error (some (clock + retryAfterSeconds * 1000000)))

/-- `requeue_dead_letter`. -/
def requeueDeadLetter (jobId : Nat) (now : Time) : Tables :=
  { tables with
    jobs := updateWhere (fun job => job.jobId == jobId && job.status == .deadLetter)
      (fun job => { job with status := .pending, retryCount := 0, lastError := "",
                             nextRetryAt := none, availableAt := now })
      tables.jobs }

/-! ### Cancellation -/

/-- `MemoryWorker._cancel_job`. -/
def cancelJob (jobId token generation : Nat) (reason : String) : Tables :=
  updateHeld tables jobId token generation (Job.cancel (Python.clip 2000 reason))

/-- The cancellation of the open jobs that a revocation or an invalidation selects. -/
def cancelJobsWhere (selected : Job → Bool) (reason : String) : Tables :=
  { tables with
    jobs := updateWhere (fun job => selected job && job.status.isOpen) (Job.cancel reason)
      tables.jobs }

/-- Deleting the chat session cascades to its jobs and their checkpoints. -/
def dropSessionJobs (sessionId : Nat) : Tables :=
  { tables with
    jobs := deleteWhere (fun job => job.sessionId == sessionId) tables.jobs
    checkpoints := deleteWhere
      (fun checkpoint => tables.jobs.any fun job =>
        job.sessionId == sessionId && job.jobId == checkpoint.jobId)
      tables.checkpoints }

end HardwareDatabase.Memory
