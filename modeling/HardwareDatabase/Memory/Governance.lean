/-
Module: HardwareDatabase.Memory.Governance
Purpose: The governance operations of `src/src/memory/service.py` on one memory. `manages` is the permission check of
  the caller, which looks at the scope of the record only.
Trusted boundary: none
-/
import HardwareDatabase.Memory.Invalidation

namespace HardwareDatabase.Memory

open Relational

variable (tables : Tables)

/-- The record a governance transaction works on: it exists, the caller manages it and the caller's
revision is current. -/
def requireManaged (manages : Scope → Bool) (memoryId expectedRevision : Nat) : Except String Record :=
  match getRecord tables memoryId with
  | none => .error "memory not found"
  | some record =>
    if !manages record.scope then .error "memory governance permission is required"
    else if record.currentRevision ≠ expectedRevision then
      .error "memory revision changed; refresh before retrying"
    else .ok record

/-- The row that `_insert_revision` writes: it names no projection. -/
def governanceRevision (memoryId revisionNo : Nat) (operation : String) (before after : Option Content) : Revision :=
  { memoryId, revisionNo, projectionId := none, before, after, operation }

/-! ### Drafts and verification -/

/-- `update_draft`. -/
def updateDraft (contentHash : Content → String) (tables : Tables) (manages : Scope → Bool)
    (memoryId : Nat) (semantic : Semantic) (expectedRevision : Nat) (now : Time) :
    Except String Tables := do
  let record ← requireManaged tables manages memoryId expectedRevision
  if record.status ≠ .candidate then
    throw "only candidate memory can be edited as a draft"
  match candidateProjection tables memoryId with
  | none => .error "candidate projection is fenced"
  | some projection =>
    if !projection.managerWritable then .error "candidate projection is fenced"
    else
      let nextFence := projection.fenceVersion + 1
      let tables := updateProjection tables projection.projectionId fun row =>
        { row with fenceVersion := nextFence }
      let (tables, _) ← prepareCandidate contentHash tables
        { content := semantic, scope := record.scope, memoryId := some memoryId, sources := [],
          expectedFence := some nextFence, projectionKey := none, runId := none,
          revisionOperation := some "draft_update" } now
      .ok tables

/-- The row of a verified projection that is about to be published. -/
def newVerified (projectionId : Nat) (record : Record) (revision : Nat) : Projection :=
  { projectionId, memoryId := record.memoryId, kind := .verified,
    path := { scope := record.scope, kind := .verified },
    storeKey := .verified record.memoryId revision, currentRevision := revision,
    currentContentHash := record.contentHash, active := false, managerWritable := false,
    fenceVersion := 1, retiredAt := none }

/-- `_queue_verified_projection`. -/
def queueVerifiedProjection (record : Record) (revision : Nat) (now : Time) : Except String Tables :=
  let row := newVerified tables.nextId record revision
  if tables.projections.any fun old => old.path == row.path && old.storeKey == row.storeKey then
    .error "UNIQUE constraint failed: memory_projections"
  else
    let operation : ProjectionOperation :=
      { operationId := tables.nextId + 1, memoryId := record.memoryId,
        projectionId := row.projectionId, expectedRevision := revision, expectedFence := 1,
        payload := { kind := record.memoryType, content := record.content,
                     contentHash := record.contentHash, runId := none },
        status := .pending, retryCount := 0, nextRetryAt := none, lastError := "",
        createdAt := now }
    .ok { tables with
      projections := tables.projections ++ [row]
      projectionOutbox := tables.projectionOutbox ++ [operation]
      nextId := tables.nextId + 2 }

/-- The row of a record whose verification was requested. -/
def Record.submit (revision : Nat) (now : Time) (record : Record) : Record :=
  { record with status := .verificationPending, currentRevision := revision, updatedAt := now }

/-- `verify`: the candidate projection is fenced, the verified one is queued. -/
def verify (tables : Tables) (manages : Scope → Bool) (memoryId expectedRevision : Nat)
    (evidence : List String) (now : Time) : Except String Tables := do
  if evidence.isEmpty then
    throw "verify requires evidence_refs"
  let record ← requireManaged tables manages memoryId expectedRevision
  if record.status ≠ .candidate then
    throw "only candidate memory can be verified"
  let _ ← namespaceFor record.scope .verified
  let revision := record.currentRevision + 1
  let tables := match candidateProjection tables memoryId with
    | none => tables
    | some candidate => fenceProjection tables candidate.projectionId candidate.fenceVersion
  let tables := updateRecord tables memoryId (Record.submit revision now)
  let tables := insertRevision tables
    (governanceRevision memoryId revision "verify" (some record.content) (some record.content))
  queueVerifiedProjection tables { record with currentRevision := revision } revision now

/-! ### Reject and delete -/

/-- The row of a record that a governance operation takes out of use. -/
def Record.govern (status : RecordStatus) (revision : Nat) (now : Time) (record : Record) : Record :=
  { record with
    status
    currentRevision := revision
    deletedAt := if status = .deleted then some now else record.deletedAt
    updatedAt := now }

/-- The tombstone that a scrubbing governance operation writes. -/
def Record.entomb (contentHash : Content → String) (status : RecordStatus) (revision : Nat)
    (now : Time) (record : Record) : Record :=
  { record.redact contentHash with
    status, currentRevision := revision, deletedAt := some now, updatedAt := now }

/-- `UPDATE memory_reflection_runs SET output_payload_json = NULL, encrypted_source_snapshot_ref =
NULL WHERE job_id IN (SELECT job_id FROM memory_run_items WHERE memory_id = ?)`. -/
def scrubRunsOf (memoryId : Nat) : Tables :=
  { tables with runs := updateWhere (inRunItemsOf tables "job_id" memoryId) Run.scrub tables.runs }

/-- `_retire_governed`. With `scrub` the record becomes a redacted tombstone, its sources become
invalid, and the outputs of the runs selected by the `job_id` subquery are removed. -/
def retireGoverned (contentHash : Content → String) (tables : Tables) (manages : Scope → Bool)
    (memoryId expectedRevision : Nat) (nextStatus : RecordStatus) (operation reason : String)
    (scrub : Bool) (now : Time) : Except String Tables := do
  let record ← requireManaged tables manages memoryId expectedRevision
  let revision := record.currentRevision + 1
  let tables := ((unretiredProjections tables memoryId).map Projection.projectionId).foldl
    (retireProjection reason now) tables
  if scrub then
    let tables := updateRecord tables memoryId (Record.entomb contentHash nextStatus revision now)
    let tables := invalidateSourcesOf tables memoryId now
    let tables := redactRevisions tables memoryId
    let tables := scrubRunsOf tables memoryId
    return insertRevision tables (governanceRevision memoryId revision operation none none)
  else
    let tables := updateRecord tables memoryId (Record.govern nextStatus revision now)
    return insertRevision tables
      (governanceRevision memoryId revision operation (some record.content) (some record.content))

def reject (contentHash : Content → String) (tables : Tables) (manages : Scope → Bool)
    (memoryId expectedRevision : Nat) (reason : String) (now : Time) : Except String Tables :=
  retireGoverned contentHash tables manages memoryId expectedRevision .rejected "reject" reason false
    now

/-- The four `DELETE` statements of the purge. -/
def purgeRows (memoryId : Nat) : Tables :=
  { tables with
    runItems := deleteWhere (fun item => item.memoryId == some memoryId) tables.runItems
    sources := deleteWhere (fun source => source.memoryId == memoryId) tables.sources
    revisions := deleteWhere (fun revision => revision.memoryId == memoryId) tables.revisions
    records := deleteWhere (fun record => record.memoryId == memoryId) tables.records }

/-- `_purge_deleted_record`. -/
def purgeDeletedRecord (memoryId : Nat) : Except String Tables :=
  match getRecord tables memoryId with
  | none => .ok tables
  | some record =>
    if record.status ≠ .deleted then
      .error "purge is only allowed for deleted tombstones"
    else .ok (purgeRows tables memoryId)

/-- `delete`: a failed purge leaves the tombstone and does not fail the call. -/
def delete (contentHash : Content → String) (tables : Tables) (manages : Scope → Bool)
    (memoryId expectedRevision : Nat) (reason : String) (now : Time) : Except String Tables := do
  let tables ← retireGoverned contentHash tables manages memoryId expectedRevision .deleted "delete"
    reason true now
  match purgeDeletedRecord tables memoryId with
  | .ok purged => return purged
  | .error _ => return tables

/-! ### Supersede -/

/-- The checks of `supersede` before its transaction: both memories are active, in one scope, and
the caller manages the old one. -/
def supersedePrecheck (manages : Scope → Bool) (memoryId replacementId : Nat) : Except String Unit :=
  if memoryId = replacementId then .error "a memory cannot supersede itself"
  else
    match getRecord tables memoryId, getRecord tables replacementId with
    | some old, some replacement =>
      if !manages old.scope then .error "memory governance permission is required"
      else if !old.status.isActive then .error "only active memory can be superseded"
      else if !replacement.status.isActive then .error "replacement memory must be active"
      else if old.scope ≠ replacement.scope then
        .error "replacement memory must have the same scope"
      else .ok ()
    | _, _ => .error "memory not found"

/-- The row of a record whose supersession was requested. -/
def Record.supersedeBy (replacementId revision : Nat) (now : Time) (record : Record) : Record :=
  { record with
    status := .supersedePending
    replacementId := some replacementId
    currentRevision := revision
    updatedAt := now }

/-- The transaction of `supersede`: of the earlier checks, permission and revision are repeated. -/
def supersede (tables : Tables) (manages : Scope → Bool)
    (memoryId replacementId expectedRevision : Nat) (now : Time) : Except String Tables := do
  let record ← requireManaged tables manages memoryId expectedRevision
  let revision := record.currentRevision + 1
  let tables := ((unretiredProjections tables memoryId).map Projection.projectionId).foldl
    (retireProjection "superseded" now) tables
  let tables := updateRecord tables memoryId (Record.supersedeBy replacementId revision now)
  return insertRevision tables
    (governanceRevision memoryId revision "supersede" (some record.content) (some record.content))

end HardwareDatabase.Memory
