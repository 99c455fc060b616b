/-
Module: HardwareDatabase.Memory.Invalidation
Purpose: Consent and source invalidation of `src/src/memory/jobs.py` and retention of `src/src/memory/retention.py`.
Trusted boundary: none
-/
import HardwareDatabase.Memory.Catalog
import HardwareDatabase.Memory.Jobs
import HardwareDatabase.Relational.Scope
import Mathlib.Data.List.Dedup

namespace HardwareDatabase.Memory

open Relational

/-! ### Scrubbing -/

variable (contentHash : Content → String)

/-- The tombstone of a privacy deletion. -/
def Record.redact (record : Record) : Record :=
  { record with
    content := .redacted
    contentHash := contentHash .redacted
    title := "已删除记忆"
    subject := none
    memoryType := "context" }

variable (tables : Tables)

/-- `UPDATE memory_records SET .. WHERE memory_id = ?`. -/
def updateRecord (memoryId : Nat) (f : Record → Record) : Tables :=
  { tables with
    records := updateWhere (fun record => record.memoryId == memoryId) f tables.records }

/-- `UPDATE memory_revisions SET before_content_json = NULL, after_content_json = NULL`. -/
def redactRevisions (memoryId : Nat) : Tables :=
  { tables with
    revisions := updateWhere (fun revision => revision.memoryId == memoryId)
      (fun revision => { revision with before := none, after := none }) tables.revisions }

/-- The row of a run whose output and snapshot reference are gone. -/
def Run.scrub (run : Run) : Run :=
  { run with outputPayload := none, snapshotRef := none }

/-- The row of a run that must not be replayed. -/
def Run.fail (run : Run) : Run :=
  { run.scrub with status := .failed }

/-- `UPDATE memory_reflection_runs SET output_payload_json = NULL, .., status = 'failed' WHERE p`. -/
def failRuns (p : Run → Bool) : Tables :=
  { tables with runs := updateWhere p Run.fail tables.runs }

/-- The key columns of `memory_reflection_runs`. -/
def runColumns : Columns Run Nat
  | "run_id" => some Run.runId
  | "job_id" => some Run.jobId
  | "generation" => some Run.generation
  | _ => none

/-- The key columns of `memory_run_items`: there is no `job_id`. -/
def runItemColumns : Columns RunItem Nat
  | "run_id" => some RunItem.runId
  | "item_ordinal" => some RunItem.itemOrdinal
  | _ => none

/-- `column IN (SELECT column FROM memory_run_items WHERE memory_id = ?)`. -/
def inRunItemsOf (column : String) (memoryId : Nat) (run : Run) : Bool :=
  inSubquery runItemColumns runColumns column column tables.runItems
    (fun item => item.memoryId == some memoryId) run

/-! ### One memory whose sources became invalid -/

/-- The classification of `apply_source_invalidation`. -/
def statusAfterInvalidation (record : Record) (validCount : Nat) : RecordStatus :=
  if record.scope.isUser then .deleted
  else if record.status = .verified then .provenanceMissing
  else if validCount ≠ 0 then .needsRebuild
  else .deleted

/-- The status columns that `apply_source_invalidation` writes. -/
def Record.demote (status : RecordStatus) (now : Time) (record : Record) : Record :=
  { record with
    status
    deletedAt := if status = .deleted then some now else record.deletedAt
    updatedAt := now }

/-- The statements of a privacy deletion: the record, its revisions and the outputs of the runs that
produced it. -/
def redactMemory (memoryId : Nat) : Tables :=
  let tables := updateRecord tables memoryId (Record.redact contentHash)
  let tables := redactRevisions tables memoryId
  failRuns tables (inRunItemsOf tables "run_id" memoryId)

/-- `apply_source_invalidation`. -/
def applySourceInvalidation (refId reason : String) (now : Time) (tables : Tables) (memoryId : Nat) : Tables :=
  match getRecord tables memoryId with
  | none => tables
  | some record =>
    let nextStatus := statusAfterInvalidation record (validSourceCount tables memoryId)
    let tables := updateRecord tables memoryId (Record.demote nextStatus now)
    let tables :=
      if record.scope.isUser then redactMemory contentHash tables memoryId else tables
    (unretiredProjections tables memoryId).foldl
      (retireRow record.currentRevision refId reason now) tables

/-- `UPDATE memory_records SET status = 'deleted', .. WHERE memory_id = ? AND status NOT IN
('deleted', 'rejected', 'superseded')`. -/
def deactivateRecord (memoryId : Nat) (now : Time) : Tables :=
  { tables with
    records := updateWhere
      (fun row => row.memoryId == memoryId && row.status != .deleted && row.status != .rejected &&
        row.status != .superseded)
      (Record.demote .deleted now) tables.records }

/-- `_invalidate_memory_in_transaction`. -/
def invalidateMemory (reason : String) (now : Time) (tables : Tables) (memoryId : Nat) : Tables :=
  match getRecord tables memoryId with
  | none => tables
  | some record =>
    let projections := unretiredProjections tables memoryId
    let tables := deactivateRecord tables memoryId now
    let tables := redactMemory contentHash tables memoryId
    projections.foldl (retireRow record.currentRevision reason reason now) tables

/-! ### Messages and sessions -/

/-- `UPDATE memory_sources SET source_valid = FALSE, invalidated_at = ? WHERE p AND source_valid`. -/
def invalidateSources (p : Source → Bool) (now : Time) : Tables :=
  { tables with
    sources := updateWhere (fun source => p source && source.sourceValid)
      (fun source => { source with sourceValid := false, invalidatedAt := some now })
      tables.sources }

/-- `UPDATE memory_sources SET source_valid = FALSE, invalidated_at = COALESCE(invalidated_at, ?)
WHERE memory_id = ?`. -/
def invalidateSourcesOf (memoryId : Nat) (now : Time) : Tables :=
  { tables with
    sources := updateWhere (fun source => source.memoryId == memoryId)
      (fun source => { source with
        sourceValid := false, invalidatedAt := source.invalidatedAt <|> some now })
      tables.sources }

/-- `SELECT DISTINCT memory_id FROM memory_sources WHERE p AND source_valid = TRUE`. -/
def validlySourced (p : Source → Bool) : List Nat :=
  ((tables.sources.filter fun source => p source && source.sourceValid).map Source.memoryId).dedup

/-- `job_id IN (SELECT job_id FROM memory_jobs WHERE session_id = ?)`. -/
def runOfSession (sessionId : Nat) (run : Run) : Bool :=
  tables.jobs.any fun job => job.sessionId == sessionId && job.jobId == run.jobId

/-- `invalidate_message_memory_in_connection`. -/
def invalidateMessageMemory (sessionId messageId : Nat) (reason : String) (now : Time) : Tables :=
  let refId := "message:" ++ toString sessionId ++ ":" ++ toString messageId
  let tables := cancelJobsWhere tables (fun job => job.sessionId == sessionId) reason
  let tables := failRuns tables fun run =>
    (run.status == .prepared || run.status == .outputPersisted) && runOfSession tables sessionId run
  let selected (source : Source) : Bool :=
    source.sessionId == sessionId && source.messageId == messageId
  let memoryIds := validlySourced tables selected
  let tables := invalidateSources tables selected now
  memoryIds.foldl (applySourceInvalidation contentHash refId reason now) tables

/-- The open consents of a session. -/
def openConsentsOfSession (sessionId : Nat) : List Nat :=
  (tables.consents.filter fun consent =>
    consent.sessionId == sessionId && consent.revokedAt.isNone).map ConsentEvent.consentEventId

/-- `UPDATE memory_consent_events SET revoked_at = ? WHERE consent_event_id IN (..) AND revoked_at
IS NULL`. -/
def revokeConsents (consentIds : List Nat) (now : Time) : Tables :=
  { tables with
    consents := updateWhere
      (fun consent => consentIds.contains consent.consentEventId && consent.revokedAt.isNone)
      (fun consent => { consent with revokedAt := some now }) tables.consents }

/-- `consent_event_id IN (..)`. -/
def underConsents (consentIds : List Nat) (consentEventId : Option Nat) : Bool :=
  consentEventId.any fun consentId => consentIds.contains consentId

/-- `invalidate_session_memory_in_connection`. -/
def invalidateSessionMemory (sessionId : Nat) (reason : String) (now : Time) : Tables :=
  let consentIds := openConsentsOfSession tables sessionId
  let tables := failRuns tables (runOfSession tables sessionId)
  let tables := revokeConsents tables consentIds now
  let tables := failRuns tables fun run => underConsents consentIds run.consentEventId
  let tables := cancelJobsWhere tables (fun job => job.sessionId == sessionId) reason
  let selected (source : Source) : Bool := source.sessionId == sessionId
  let memoryIds := validlySourced tables selected
  let tables := invalidateSources tables selected now
  memoryIds.foldl
    (applySourceInvalidation contentHash ("session:" ++ toString sessionId) reason now) tables

/-! ### Consent and settings -/

/-- `get_user_settings`. -/
def getUserSettings (userId : Nat) : UserSettings :=
  (tables.settings.find? fun row => row.userId == userId).getD
    { userId, optIn := false, policyVersion := "v1", revokeGeneration := 0 }

/-- The statements that `revoke_consent` and `_revoke_user_consent_in_transaction` share, for the
consents they select. -/
def withdrawConsents (consentIds : List Nat) (reason : String) (now : Time) : Tables :=
  let tables := revokeConsents tables consentIds now
  let tables := cancelJobsWhere tables
    (fun job => underConsents consentIds job.consentEventId) (Python.clip 2000 reason)
  let tables := failRuns tables fun run => underConsents consentIds run.consentEventId
  let selected (source : Source) : Bool := underConsents consentIds source.consentEventId
  let memoryIds := validlySourced tables selected
  let tables := invalidateSources tables selected now
  memoryIds.foldl (invalidateMemory contentHash reason now) tables

/-- `revoke_consent`. -/
def revokeConsent (userId consentEventId : Nat) (reason : String) (now : Time) : Tables :=
  if tables.consents.any fun consent =>
      consent.consentEventId == consentEventId && consent.userId == userId &&
        consent.revokedAt.isNone then
    withdrawConsents contentHash tables [consentEventId] reason now
  else tables

/-- `set_user_opt_in`: disabling revokes every open consent of the user. -/
def setUserOptIn (userId : Nat) (enabled : Bool) (policyVersion : String) (now : Time) : Tables :=
  let current := getUserSettings tables userId
  let row : UserSettings :=
    { userId, optIn := enabled, policyVersion,
      revokeGeneration := current.revokeGeneration + if enabled then 0 else 1 }
  let tables :=
    { tables with
      settings := (tables.settings.filter fun old => old.userId != userId) ++ [row] }
  if enabled then tables
  else
    let consentIds := (tables.consents.filter fun consent =>
      consent.userId == userId && consent.revokedAt.isNone).map ConsentEvent.consentEventId
    if consentIds.isEmpty then tables
    else withdrawConsents contentHash tables consentIds "account_opt_out" now

/-- `MemoryConsentManifest.validate_order` with the field constraints of its items. -/
def manifestValid (items : List ConsentSourceItem) : Bool :=
  items.map ConsentSourceItem.ordinal == List.range items.length &&
    decide ((items.map fun item => (item.turnId, item.messageId)).Nodup) &&
    items.all (fun item => item.turnId != "" && item.role != "" && item.contentHash != "") &&
    !items.isEmpty

/-- `validate_consent_for_job`. -/
def validateConsentForJob (manifestHash : List ConsentSourceItem → String) (tables : Tables)
    (job : Job) : Except String ConsentEvent := do
  let consentEventId ← match job.kind, job.consentEventId with
    | .userReflection, some consentEventId => .ok consentEventId
    | _, _ => .error "job is not a user reflection"
  let consent ← match tables.consents.find? (fun row => row.consentEventId == consentEventId) with
    | none => .error "consent is missing or revoked"
    | some consent =>
      if consent.revokedAt.isSome then .error "consent is missing or revoked" else .ok consent
  let settings := getUserSettings tables consent.userId
  if !settings.optIn ∨ some settings.policyVersion ≠ job.consentPolicyVersion ∨
      some settings.revokeGeneration ≠ job.consentRevokeGeneration then
    throw "user memory settings no longer authorize this job"
  if some (consent.authorizedStart, consent.authorizedEnd, consent.authorizedSourceHash) ≠
      job.authorized then
    throw "job consent bounds do not match immutable consent manifest"
  if job.sessionId ≠ consent.sessionId ∨ job.targetTurnId ≠ consent.turnId then
    throw "job target does not match immutable consent event"
  if !manifestValid consent.manifest then
    throw "consent source manifest is invalid"
  if manifestHash consent.manifest ≠ consent.authorizedSourceHash then
    throw "consent source manifest hash is invalid"
  return consent

/-- `create_consent_event` and `enqueue_user_reflection` in the transaction of
`create_user_consent`. `items` are the rows read for the requested messages, each of a completed
turn of the session, and `last` is the target among them. -/
def createUserConsent (manifestHash : List ConsentSourceItem → String) (tables : Tables)
    (userId sessionId : Nat) (items : List ConsentSourceItem) (now : Time) :
    Except String Tables := do
  if items.isEmpty ∨ 100 < items.length then
    throw "consent requires 1-100 message ids"
  let settings := getUserSettings tables userId
  if !settings.optIn then
    throw "user memory opt-in is required"
  if !manifestValid items then
    throw "manifest source items must be unique"
  let first := items.headD default
  let last := items.getLastD default
  let consent : ConsentEvent :=
    { consentEventId := tables.nextId, userId, sessionId, turnId := last.turnId,
      messageId := last.messageId, policyVersion := settings.policyVersion,
      revokeGeneration := settings.revokeGeneration, revokedAt := none,
      authorizedStart := (first.turnId, first.messageId),
      authorizedEnd := (last.turnId, last.messageId),
      authorizedSourceHash := manifestHash items, manifest := items }
  let tables :=
    { tables with consents := tables.consents ++ [consent], nextId := tables.nextId + 1 }
  return (enqueueUserReflection tables sessionId (.user userId) last.turnId last.messageId consent
    now).1

/-! ### Retention -/

/-- The records whose configured retention window has elapsed: every user memory, and project
memories that are already inactive. -/
def retentionExpired (cutoff : Time) (record : Record) : Bool :=
  decide (record.updatedAt < cutoff) &&
    (record.scope.isUser || record.status == .deleted || record.status == .rejected ||
      record.status == .superseded || record.status == .provenanceMissing)

/-- One expired record: its sources become invalid and it is redacted. -/
def expireRecord (now : Time) (tables : Tables) (memoryId : Nat) : Tables :=
  invalidateMemory contentHash "retention_expired" now (invalidateSourcesOf tables memoryId now)
    memoryId

/-- `expire_memory_records`. `uuid` gives the texts by which equally old records are ordered. -/
def expireMemoryRecords (uuid : Nat → String) (tables : Tables) (cutoff : Time) (limit : Nat) (now : Time) : Tables :=
  let older (left right : Record) : Bool :=
    decide (left.updatedAt < right.updatedAt) ||
      (left.updatedAt == right.updatedAt && decide (uuid left.memoryId ≤ uuid right.memoryId))
  let expired := ((tables.records.filter (retentionExpired cutoff)).mergeSort older).take
    (max 1 (min limit 5000))
  (expired.map Record.memoryId).foldl (expireRecord contentHash now) tables

end HardwareDatabase.Memory
