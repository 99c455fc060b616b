/-
Module: HardwareDatabase.Memory.Catalog
Purpose: The catalog repository of `src/src/memory/catalog.py`. Rows are read and written in one transaction, so a
  compare-and-set on values just read always matches.
Trusted boundary: none
-/
import HardwareDatabase.Memory.Rows
import HardwareDatabase.Python.Text
import HardwareDatabase.Relational.Table

namespace HardwareDatabase.Memory

open Relational

/-! ### Reading -/

variable (contentHash : Content → String) (tables : Tables)

/-- `get_record`. -/
def getRecord (memoryId : Nat) : Option Record :=
  tables.records.find? fun record => record.memoryId == memoryId

/-- `get_projection`. -/
def getProjection (projectionId : Nat) : Option Projection :=
  tables.projections.find? fun projection => projection.projectionId == projectionId

/-- `get_projection_by_key`. -/
def getProjectionByKey (path : Namespace) (storeKey : StoreKey) : Option Projection :=
  tables.projections.find? fun projection =>
    projection.path == path && projection.storeKey == storeKey

/-- `memory_id = ? AND retired_at IS NULL`. -/
def Projection.unretiredOf (memoryId : Nat) (projection : Projection) : Bool :=
  projection.memoryId == memoryId && projection.retiredAt.isNone

/-- `SELECT * FROM memory_projections WHERE memory_id = ? AND retired_at IS NULL`. -/
def unretiredProjections (memoryId : Nat) : List Projection :=
  tables.projections.filter (Projection.unretiredOf memoryId)

/-- The unretired candidate projection of a memory: the partial unique index admits one. -/
def candidateProjection (memoryId : Nat) : Option Projection :=
  tables.projections.find? fun projection =>
    projection.unretiredOf memoryId && projection.kind == .candidate

/-- The number of valid sources of a memory. -/
def validSourceCount (memoryId : Nat) : Nat :=
  (tables.sources.filter fun source => source.memoryId == memoryId && source.sourceValid).length

/-- `namespace_for_user`, `namespace_for_project`. -/
def namespaceFor (scope : Scope) (kind : ProjectionKind) : Except String Namespace :=
  match scope with
  | .user _ => .ok { scope, kind }
  | .project departmentId kbId =>
    if departmentId = "" ∨ kbId = "" then
      .error "project memory requires a non-empty department_id and kb_id"
    else .ok { scope, kind }

/-! ### Retiring projections -/

/-- The row of a retired projection. -/
def Projection.retire (fence : Nat) (now : Time) (projection : Projection) : Projection :=
  { projection with
    active := false, managerWritable := false, fenceVersion := fence, retiredAt := some now }

/-- `UPDATE memory_projections SET .. WHERE projection_id = ? AND retired_at IS NULL`. -/
def updateProjection (projectionId : Nat) (f : Projection → Projection) : Tables :=
  { tables with
    projections := updateWhere
      (fun row => row.projectionId == projectionId && row.retiredAt.isNone) f tables.projections }

/-- The deletion request for a projection. -/
def deletionOf (projection : Projection) (operationId expectedRevision expectedFence : Nat)
    (sourceOrConsentId reason : String) (now : Time) : DeletionOperation :=
  { operationId, memoryId := projection.memoryId, sourceOrConsentId, expectedRevision, expectedFence,
    projectionId := projection.projectionId, path := projection.path,
    storeKey := projection.storeKey, reason, status := .pending, retryCount := 0,
    nextRetryAt := none, lastError := "", createdAt := now }

/-- Two rows with the idempotency key `delete:{memory}:{projection}:{fence}`. -/
def DeletionOperation.sameKey (left right : DeletionOperation) : Bool :=
  left.memoryId == right.memoryId && left.projectionId == right.projectionId &&
    left.expectedFence == right.expectedFence

/-- `INSERT OR IGNORE INTO memory_deletion_outbox`. -/
def queueDeletion (operation : DeletionOperation) : Tables :=
  { tables with
    deletionOutbox :=
      if tables.deletionOutbox.any operation.sameKey then tables.deletionOutbox
      else tables.deletionOutbox ++ [operation]
    nextId := tables.nextId + 1 }

/-- Fence one projection row that was just read and queue its physical deletion. The revision that
the deletion expects is the caller's. -/
def retireRow (expectedRevision : Nat) (sourceOrConsentId reason : String) (now : Time)
    (tables : Tables) (row : Projection) : Tables :=
  let nextFence := row.fenceVersion + 1
  let tables := updateProjection tables row.projectionId (Projection.retire nextFence now)
  queueDeletion tables
    (deletionOf row tables.nextId expectedRevision nextFence sourceOrConsentId reason now)

/-- `retire_projection`: the expected revision is the one of the projection. -/
def retireProjection (reason : String) (now : Time) (tables : Tables) (projectionId : Nat) : Tables :=
  match tables.projections.find? fun row =>
      row.projectionId == projectionId && row.retiredAt.isNone with
  | none => tables
  | some row => retireRow row.currentRevision reason reason now tables row

/-- `fence_projection`: unreadable and unwritable, but not retired. -/
def fenceProjection (projectionId expectedFence : Nat) : Tables :=
  { tables with
    projections := updateWhere
      (fun row => row.projectionId == projectionId && row.retiredAt.isNone &&
        row.fenceVersion == expectedFence)
      (fun row =>
        { row with active := false, managerWritable := false, fenceVersion := expectedFence + 1 })
      tables.projections }

/-! ### Staging a candidate -/

/-- A provenance edge to be inserted. -/
structure SourceRef where
  sessionId : Nat
  turnId : String
  messageId : Nat
  consentEventId : Option Nat
  sourceHash : String
  sourceRole : String
  contributionKind : String
deriving Repr, DecidableEq

/-- `_insert_source`. `UNIQUE(memory_id, session_id, turn_id, message_id, consent_event_id)` never
identifies rows whose consent is `NULL`. -/
def insertSource (memoryId : Nat) (tables : Tables) (source : SourceRef) : Except String Tables :=
  if Python.strip source.sourceHash = "" then
    .error "memory source requires a content hash"
  else
    let duplicate := source.consentEventId.isSome && tables.sources.any fun row =>
      row.memoryId == memoryId && row.sessionId == source.sessionId &&
        row.turnId == source.turnId && row.messageId == source.messageId &&
        row.consentEventId == source.consentEventId
    if duplicate then .ok tables
    else
      let row : Source :=
        { memoryId, sessionId := source.sessionId, turnId := source.turnId,
          messageId := source.messageId, consentEventId := source.consentEventId,
          sourceHash := Python.strip source.sourceHash, sourceRole := source.sourceRole,
          contributionKind := source.contributionKind, sourceValid := true, invalidatedAt := none }
      .ok { tables with sources := tables.sources ++ [row] }

/-- The provenance edges of one candidate, in order. -/
def insertSources (memoryId : Nat) : Tables → List SourceRef → Except String Tables
  | tables, [] => .ok tables
  | tables, source :: rest =>
    match insertSource memoryId tables source with
    | .error error => .error error
    | .ok tables => insertSources memoryId tables rest

/-- What a caller of `prepare_candidate` passes. -/
structure CandidateRequest where
  content : Semantic
  scope : Scope
  memoryId : Option Nat
  sources : List SourceRef
  expectedFence : Option Nat
  projectionKey : Option StoreKey
  runId : Option Nat
  revisionOperation : Option String
deriving Repr, DecidableEq

namespace Semantic

/-- `str(semantic.get("memory_type") or "context")`. -/
def catalogType (semantic : Semantic) : String :=
  if semantic.memoryType = "" then "context" else semantic.memoryType

/-- `str(semantic.get("title") or "未命名记忆").strip()`. -/
def catalogTitle (semantic : Semantic) : String :=
  Python.strip (if semantic.title = "" then "未命名记忆" else semantic.title)

/-- The stripped subject; an absent or empty one is `NULL`. -/
def catalogSubject (semantic : Semantic) : Option String :=
  match semantic.subject with
  | none => none
  | some subject => if subject = "" then none else some (Python.strip subject)

end Semantic

/-- The columns a candidate revision writes into its record. -/
def Record.stage (semantic : Semantic) (revision : Nat) (now : Time) (record : Record) : Record :=
  { record with
    status := .candidate
    currentRevision := revision
    contentHash := contentHash (.semantic semantic)
    memoryType := semantic.catalogType
    title := semantic.catalogTitle
    subject := semantic.catalogSubject
    content := .semantic semantic
    updatedAt := now
    deletedAt := none }

/-- The row of a new record. -/
def newRecord (request : CandidateRequest) (memoryId : Nat) (now : Time) : Record :=
  { memoryId, scope := request.scope, status := .candidate, currentRevision := 1,
    contentHash := contentHash (.semantic request.content),
    memoryType := request.content.catalogType, title := request.content.catalogTitle,
    subject := request.content.catalogSubject, content := .semantic request.content,
    replacementId := none, updatedAt := now, deletedAt := none }

/-- The first half of `prepare_candidate`: the record is updated or inserted. Returns the memory id,
the record before, and the unretired candidate projection that the revision goes to. -/
def stageRecord (request : CandidateRequest)
    (now : Time) : Except String (Tables × Nat × Option Record × Option Projection) :=
  match request.memoryId.bind (getRecord tables) with
  | some existing =>
    if existing.scope ≠ request.scope then
      .error "memory scope cannot change during a candidate update"
    else if existing.status ≠ .candidate ∧ existing.status ≠ .needsRebuild then
      .error ("memory " ++ toString existing.memoryId ++ " is not manager-writable: " ++
        existing.status.text)
    else
      let tables' :=
        { tables with
          records := updateWhere (fun record => record.memoryId == existing.memoryId)
            (Record.stage contentHash request.content (existing.currentRevision + 1) now)
            tables.records }
      match candidateProjection tables existing.memoryId with
      | none => .ok (tables', existing.memoryId, some existing, none)
      | some projection =>
        if !projection.managerWritable then
          .error "candidate projection is fenced"
        else if request.expectedFence.any (· ≠ projection.fenceVersion) then
          .error "candidate projection fence changed"
        else .ok (tables', existing.memoryId, some existing, some projection)
  | none =>
    let memoryId := request.memoryId.getD tables.nextId
    .ok ({ tables with
            records := tables.records ++ [newRecord contentHash request memoryId now]
            nextId := tables.nextId + 1 }, memoryId, none, none)

/-- The row of the candidate projection that gets a new revision. -/
def Projection.restage (revision : Nat) (digest : String) (row : Projection) : Projection :=
  { row with
    currentRevision := revision, currentContentHash := digest, active := false,
    managerWritable := true }

/-- The row of a new candidate projection. -/
def newCandidate (projectionId memoryId : Nat) (scope : Scope) (storeKey : StoreKey) (revision : Nat)
    (digest : String) : Projection :=
  { projectionId, memoryId, kind := .candidate, path := { scope, kind := .candidate }, storeKey,
    currentRevision := revision, currentContentHash := digest, active := false,
    managerWritable := true, fenceVersion := 1, retiredAt := none }

/-- The key of a new candidate projection: the proposed one, or one of the catalog. A rebuilt record
gets a key of its own, since the old one stays with the retired projection. -/
def freshStoreKey (request : CandidateRequest) (memoryId revision : Nat) (existing : Option Record) : StoreKey :=
  request.projectionKey.getD
    (if existing.any (·.status == .needsRebuild) then .candidate memoryId revision
    else .memory memoryId)

/-- The second half of `prepare_candidate`: the candidate projection gets the revision, or a new
projection is inserted. Returns the projection id and the fence the outbox row expects. -/
def stageProjection (request : CandidateRequest)
    (memoryId revision : Nat) (existing : Option Record) (projection : Option Projection) :
    Except String (Tables × Nat × Nat) :=
  let digest := contentHash (.semantic request.content)
  match projection with
  | some projection =>
    .ok (updateProjection tables projection.projectionId (Projection.restage revision digest),
      projection.projectionId, projection.fenceVersion)
  | none =>
    let row := newCandidate tables.nextId memoryId request.scope
      (freshStoreKey request memoryId revision existing) revision digest
    if tables.projections.any fun old => old.path == row.path && old.storeKey == row.storeKey then
      .error "UNIQUE constraint failed: memory_projections"
    else
      .ok ({ tables with projections := tables.projections ++ [row], nextId := tables.nextId + 1 },
        tables.nextId, 1)

/-- Two rows with the idempotency key `put:{projection}:{revision}:{hash}`. -/
def ProjectionOperation.sameKey (left right : ProjectionOperation) : Bool :=
  left.projectionId == right.projectionId && left.expectedRevision == right.expectedRevision &&
    left.payload.contentHash == right.payload.contentHash

/-- `INSERT OR IGNORE INTO memory_projection_outbox`. -/
def queueProjection (operation : ProjectionOperation) : Tables :=
  { tables with
    projectionOutbox :=
      if tables.projectionOutbox.any operation.sameKey then tables.projectionOutbox
      else tables.projectionOutbox ++ [operation]
    nextId := tables.nextId + 1 }

/-- `INSERT INTO memory_revisions`. -/
def insertRevision (row : Revision) : Tables :=
  { tables with revisions := tables.revisions ++ [row] }

/-- The revision row of a staged candidate. -/
def stagedRevision (request : CandidateRequest) (memoryId revision projectionId : Nat)
    (existing : Option Record) : Revision :=
  { memoryId, revisionNo := revision, projectionId := some projectionId,
    before := existing.map Record.content, after := some (.semantic request.content),
    operation := request.revisionOperation.getD (if revision = 1 then "create" else "update") }

/-- The publication request of a staged candidate. -/
def stagedOperation (request : CandidateRequest)
    (operationId memoryId revision projectionId fence : Nat) (now : Time) : ProjectionOperation :=
  { operationId, memoryId, projectionId, expectedRevision := revision, expectedFence := fence,
    payload := { kind := request.content.catalogType, content := .semantic request.content,
                 contentHash := contentHash (.semantic request.content), runId := request.runId },
    status := .pending, retryCount := 0, nextRetryAt := none, lastError := "", createdAt := now }

/-- What `prepare_candidate` returns: the ids and the revision of what it staged. -/
structure Staged where
  memoryId : Nat
  revision : Nat
  projectionId : Nat
  fence : Nat
deriving Repr, DecidableEq

/-- `prepare_candidate`. -/
def prepareCandidate (request : CandidateRequest) (now : Time) : Except String (Tables × Staged) := do
  let _ ← namespaceFor request.scope .candidate
  if request.content.catalogTitle = "" ∨ request.content.content = "" then
    throw "memory content must contain a non-empty title and content"
  let (tables, memoryId, existing, projection) ← stageRecord contentHash tables request now
  let revision := (existing.map Record.currentRevision).getD 0 + 1
  let (tables, projectionId, fence) ←
    stageProjection contentHash tables request memoryId revision existing projection
  let tables := insertRevision tables
    (stagedRevision request memoryId revision projectionId existing)
  let tables ← insertSources memoryId tables request.sources
  let tables := queueProjection tables
    (stagedOperation contentHash request tables.nextId memoryId revision projectionId fence now)
  return (tables, { memoryId, revision, projectionId, fence })

/-! ### Callbacks of the single writer -/

/-- The record of a verified projection becomes verified; its fenced candidate can go now that the
verified object is readable. -/
def publishVerified (memoryId expectedRevision : Nat) (now : Time) : Tables :=
  let tables :=
    { tables with
      records := updateWhere
        (fun record => record.memoryId == memoryId && record.status == .verificationPending &&
          record.currentRevision == expectedRevision)
        (fun record => { record with status := .verified, updatedAt := now }) tables.records }
  match candidateProjection tables memoryId with
  | none => tables
  | some candidate => retireProjection "verified" now tables candidate.projectionId

/-- `UPDATE memory_projection_outbox SET status = 'completed', .. WHERE operation_id = ? AND ..`. -/
def closeProjection (operationId : Nat) : Tables :=
  { tables with
    projectionOutbox := updateWhere
      (fun row => row.operationId == operationId && row.status.isOpen)
      (fun row => { row with status := .completed }) tables.projectionOutbox }

/-- `mark_projection_active`. `none` means that the catalog no longer wants the object. -/
def markProjectionActive (operationId projectionId expectedRevision expectedFence :
    Nat) (digest : String) (now : Time) : Option Tables := do
  let row ← tables.projectionOutbox.find? fun row => row.operationId == operationId
  let projection ← getProjection tables projectionId
  let record ← getRecord tables row.memoryId
  guard (projection.currentRevision = expectedRevision ∧ projection.fenceVersion = expectedFence)
  guard (projection.currentContentHash = digest ∧ record.contentHash = digest)
  guard (record.status.isActive ∨
    (record.status = .verificationPending ∧ projection.kind = .verified))
  guard projection.retiredAt.isNone
  let tables := updateProjection tables projectionId fun row => { row with active := true }
  let tables :=
    if projection.kind = .verified ∧ record.status = .verificationPending then
      publishVerified tables row.memoryId expectedRevision now
    else tables
  return closeProjection tables operationId

/-- `operation_id = ? AND status IN ('pending', 'running', 'retrying')`. -/
def DeletionOperation.openUnder (operationId : Nat) (row : DeletionOperation) : Bool :=
  row.operationId == operationId && row.status.isOpen

/-- `UPDATE memory_deletion_outbox SET status = 'completed', .. WHERE operation_id = ? AND ..`. -/
def closeDeletion (operationId : Nat) : Tables :=
  { tables with
    deletionOutbox := updateWhere (DeletionOperation.openUnder operationId)
      (fun row => { row with status := .completed }) tables.deletionOutbox }

/-- `UPDATE memory_records SET status = 'superseded', .. WHERE memory_id = ? AND status =
'supersede_pending'`. -/
def concludeSupersede (memoryId : Nat) (now : Time) : Tables :=
  { tables with
    records := updateWhere
      (fun record => record.memoryId == memoryId && record.status == .supersedePending)
      (fun record => { record with status := .superseded, updatedAt := now }) tables.records }

/-- `mark_projection_deleted`: the last deletion of a superseded memory completes the supersession. -/
def markProjectionDeleted (operationId : Nat) (now : Time) : Tables :=
  let completed := tables.deletionOutbox.any (DeletionOperation.openUnder operationId)
  let row := tables.deletionOutbox.find? fun row => row.operationId == operationId
  let tables := closeDeletion tables operationId
  match row with
  | none => tables
  | some row =>
    if completed && (unretiredProjections tables row.memoryId).isEmpty then
      concludeSupersede tables row.memoryId now
    else tables

end HardwareDatabase.Memory
