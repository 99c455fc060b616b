/-
Module: HardwareDatabase.Memory.Worker
Purpose: The single writer of `src/src/memory/worker.py`: reflection runs and the two outboxes with the physical store
  behind them. Each function is one transaction or one call of the store.
Trusted boundary: none
-/
import HardwareDatabase.Memory.Invalidation
import Mathlib.Algebra.Group.Nat.Defs

namespace HardwareDatabase.Memory

open Relational

/-- The functions the repository takes from its libraries, and its settings. -/
structure Environment where
  contentHash : Content → String
  manifestHash : List ConsentSourceItem → String
  uuid : Nat → String
  jobMaxRetries : Nat
  projectionMaxRetries : Nat

/-! ### Reflection runs -/

/-- `_run_key`. -/
def runKeyOf (job : Job) (sourceHash : String) : RunKey :=
  { kind := job.kind, consentEventId := job.consentEventId, scope := job.scope,
    targetTurnId := job.targetTurnId, targetMessageId := job.targetMessageId,
    generation := job.generation, authorized := job.authorized, sourceSnapshotHash := sourceHash }

variable (env : Environment) (tables : Tables)

/-- `save_run`: a run with the same key is reused. The lease is not looked at. -/
def saveRun (job : Job) (sourceHash : String) : Tables :=
  let key := runKeyOf job sourceHash
  if tables.runs.any fun run => run.runKey == key then tables
  else
    let run : Run :=
      { runId := tables.nextId, jobId := job.jobId, generation := job.generation, kind := job.kind,
        consentEventId := job.consentEventId, runKey := key, snapshotRef := some key,
        outputPayload := none, status := .prepared }
    { tables with runs := tables.runs ++ [run], nextId := tables.nextId + 1 }

/-- The job is still leased to the worker that claimed `snapshot`. -/
def heldJob (snapshot : Job) : Option Job :=
  (getJob tables snapshot.jobId).filter fun current =>
    current.status == .running && current.leaseToken == snapshot.leaseToken &&
      current.generation == snapshot.generation

/-- `persist_output_for_job`: the consent is checked in the transaction that writes the output. -/
def persistOutputForJob (snapshot : Job) (runId : Nat) (output : List OutputItem) : Except String Tables := do
  match heldJob tables snapshot with
  | none => return tables
  | some current =>
    if current.kind = .userReflection then
      let _ ← validateConsentForJob env.manifestHash tables current
    let selected (run : Run) : Bool :=
      run.runId == runId && run.jobId == snapshot.jobId && run.generation == snapshot.generation
    if !tables.runs.any selected then
      throw "reflection run does not belong to the claimed job generation"
    return { tables with
      runs := updateWhere (fun run => selected run && run.outputPayload.isNone)
        (fun run => { run with outputPayload := some output, status := .outputPersisted })
        tables.runs }

/-- One completed message of the reflected window. -/
structure SourceMessage where
  turnId : String
  messageId : Nat
  role : String
  contentHash : String
deriving Repr, DecidableEq

/-- The provenance edges of a reflection. -/
def sourceRefs (job : Job) (messages : List SourceMessage) : List SourceRef :=
  let user := job.kind == .userReflection
  messages.map fun message =>
    { sessionId := job.sessionId, turnId := message.turnId, messageId := message.messageId,
      consentEventId := if user then job.consentEventId else none,
      sourceHash := message.contentHash, sourceRole := message.role,
      contributionKind := if user then "user_consent" else "project_reflection" }

/-- `upsert_run_item`. -/
def upsertRunItem (item : RunItem) : Tables :=
  let sameKey (old : RunItem) : Bool :=
    old.runId == item.runId && old.itemOrdinal == item.itemOrdinal
  if tables.runItems.any sameKey then
    { tables with
      runItems := updateWhere sameKey
        (fun old => { item with
          memoryId := old.memoryId <|> item.memoryId
          revisionNo := old.revisionNo <|> item.revisionNo
          projectionId := old.projectionId <|> item.projectionId
          expectedFence := old.expectedFence <|> item.expectedFence }) tables.runItems }
  else { tables with runItems := tables.runItems ++ [item] }

/-- The candidate of the same scope with the same content, if there is one. -/
def duplicateCandidate (scope : Scope) (digest : String) : Option Nat :=
  (tables.records.find? fun record =>
    record.scope == scope && record.status == .candidate && record.deletedAt.isNone &&
      record.contentHash == digest).map Record.memoryId

/-- The memory an output item goes to, and the store key it may still use: the item's earlier run
row, an equal candidate, or the owner of the proposed key. -/
def targetMemory (scope : Scope) (previous : Option RunItem) (digest : String)
    (outputKey : Option StoreKey) : Option Nat × Option StoreKey :=
  match (previous.bind RunItem.memoryId) <|> duplicateCandidate tables scope digest with
  | some memoryId => (some memoryId, outputKey)
  | none =>
    match outputKey with
    | none => (none, none)
    | some storeKey =>
      match getProjectionByKey tables { scope, kind := .candidate } storeKey with
      | none => (none, some storeKey)
      | some projection =>
        let rebuilds := (getRecord tables projection.memoryId).any fun record =>
          record.scope.isUser == scope.isUser && record.status == .needsRebuild &&
            projection.kind == .candidate
        if rebuilds then (some projection.memoryId, none)
        else if projection.managerWritable && projection.retiredAt.isNone then
          (some projection.memoryId, some storeKey)
        -- a key that was used stays with its retired projection
        else (none, none)

/-- The fence that the candidate update expects. -/
def expectedFence (scope : Scope) (memoryId : Option Nat) (storeKey : Option StoreKey) : Option Nat :=
  match memoryId with
  | none => none
  | some memoryId =>
    match storeKey with
    | some storeKey =>
      (getProjectionByKey tables { scope, kind := .candidate } storeKey).map
        Projection.fenceVersion
    | none => (candidateProjection tables memoryId).map Projection.fenceVersion

/-- One output item of `_apply_job`. -/
def applyItem (job : Job) (run : Run) (messages : List SourceMessage)
    (now : Time) (tables : Tables) (item : OutputItem) (ordinal : Nat) : Except String Tables := do
  let previous := tables.runItems.find? fun old =>
    old.runId == run.runId && old.itemOrdinal == ordinal
  if previous.any fun old => old.status == "catalog_committed" && old.memoryId.isSome then
    return tables
  let digest := env.contentHash (.semantic item.semantic)
  let (memoryId, storeKey) := targetMemory tables job.scope previous digest item.outputKey
  let (tables, staged) ← prepareCandidate env.contentHash tables
    { content := item.semantic, scope := job.scope, memoryId,
      sources := sourceRefs job messages,
      expectedFence := expectedFence tables job.scope memoryId storeKey,
      projectionKey := if memoryId.isSome then none else storeKey, runId := some run.runId,
      revisionOperation := none } now
  return upsertRunItem tables
    { runId := run.runId, itemOrdinal := ordinal, outputItemHash := digest,
      plannedAction := "upsert_candidate", memoryId := some staged.memoryId,
      revisionNo := some staged.revision, projectionId := some staged.projectionId,
      expectedFence := some staged.fence, status := "catalog_committed" }

/-- The items of a run in order, numbered from `ordinal`. -/
def applyItems (env : Environment) (job : Job) (run : Run) (messages : List SourceMessage)
    (now : Time) : Tables → List OutputItem → Nat → Except String Tables
  | tables, [], _ => .ok tables
  | tables, item :: rest, ordinal =>
    match applyItem env job run messages now tables item ordinal with
    | .error error => .error error
    | .ok tables => applyItems env job run messages now tables rest (ordinal + 1)

/-- `UPDATE memory_reflection_runs SET status = 'catalog_committed' WHERE run_id = ? AND ..`. -/
def commitRun (runId : Nat) : Tables :=
  { tables with
    runs := updateWhere
      (fun run => run.runId == runId && (run.status == .prepared ||
        run.status == .outputPersisted || run.status == .catalogCommitted))
      (fun run => { run with status := .catalogCommitted }) tables.runs }

/-- `ensure_checkpoint`. -/
def ensureCheckpoint (jobId : Nat) : Tables :=
  if tables.checkpoints.any fun row => row.jobId == jobId then tables
  else
    { tables with
      checkpoints := tables.checkpoints ++
        [{ jobId, committedTurnId := none, committedMessageId := none, committedGeneration := 0,
           sourceFingerprint := none }] }

/-- `update_checkpoint_in_connection`, in the transaction that has just checked lease and consent. -/
def updateCheckpoint (job : Job) (sourceHash : String) : Except String Tables :=
  let selected (row : Checkpoint) : Bool :=
    row.jobId == job.jobId && decide (row.committedGeneration ≤ job.generation)
  if !tables.checkpoints.any selected then
    .error "memory checkpoint lease or generation CAS failed"
  else
    .ok { tables with
      checkpoints := updateWhere selected
        (fun row => { row with
          committedTurnId := some job.targetTurnId
          committedMessageId := some job.targetMessageId
          committedGeneration := job.generation
          sourceFingerprint := some sourceHash }) tables.checkpoints
      runs := updateWhere
        (fun run => run.jobId == job.jobId && run.generation == job.generation &&
          (run.status == .outputPersisted || run.status == .catalogCommitted ||
            run.status == .projected))
        (fun run => { run with status := .projected }) tables.runs }

/-- The second half of `_apply_job`: the items of the persisted output, the checkpoint and the
completion of the job. -/
def applyRun (snapshot current : Job)
    (messages : List SourceMessage) (sourceHash : String) (now : Time) : Except String Tables := do
  match tables.runs.find? (fun run => run.runKey == runKeyOf snapshot sourceHash) with
  | none => .error "reflection output was not durably persisted"
  | some run =>
    match run.outputPayload, snapshot.leaseToken with
    | some output, some token =>
      let tables ← applyItems env current run messages now tables output 0
      let tables := ensureCheckpoint (commitRun tables run.runId) snapshot.jobId
      let tables ← updateCheckpoint tables snapshot sourceHash
      return markCompleted tables snapshot.jobId token snapshot.generation now
    | _, _ => .error "reflection output was not durably persisted"

/-- `_apply_job`: one transaction that re-checks the lease and the consent before it writes. -/
def applyJob (snapshot : Job) (messages : List SourceMessage)
    (sourceHash : String) (now : Time) : Except String Tables := do
  match heldJob tables snapshot with
  | none => .error "memory job lease or generation changed"
  | some current =>
    if snapshot.kind = .userReflection then
      let consent ← validateConsentForJob env.manifestHash tables current
      let settings := getUserSettings tables consent.userId
      if !settings.optIn ∨ some settings.revokeGeneration ≠ current.consentRevokeGeneration then
        throw "user memory consent changed before apply"
    applyRun env tables snapshot current messages sourceHash now

/-! ### The physical store -/

/-- An object of the store. -/
structure StoreObject where
  path : Namespace
  storeKey : StoreKey
  content : Content
deriving Repr, DecidableEq

/-- `runtime.put`. -/
def putObject (store : List StoreObject) (object : StoreObject) : List StoreObject :=
  store.filter (fun old => !(old.path == object.path && old.storeKey == object.storeKey)) ++ [object]

/-- `runtime.delete`. -/
def deleteObject (store : List StoreObject) (path : Namespace) (storeKey : StoreKey) : List StoreObject :=
  store.filter fun old => !(old.path == path && old.storeKey == storeKey)

/-! ### Outboxes -/

/-- `status IN ('pending', 'retrying') AND (next_retry_at IS NULL OR next_retry_at <= ?)`. -/
def outboxDue (now : Time) (status : OutboxStatus) (nextRetryAt : Option Time) : Bool :=
  (status == .pending || status == .retrying) && nextRetryAt.all (· ≤ now)

/-- `_claim_outbox("memory_deletion_outbox")`. -/
def claimDeletion (now : Time) : Tables × Option DeletionOperation :=
  let precedes (left right : DeletionOperation) : Bool :=
    decide (left.createdAt < right.createdAt) || (left.createdAt == right.createdAt &&
      decide (env.uuid left.operationId < env.uuid right.operationId))
  match firstBy precedes (tables.deletionOutbox.filter fun row =>
      outboxDue now row.status row.nextRetryAt) with
  | none => (tables, none)
  | some row =>
    ({ tables with
      deletionOutbox := updateWhere (fun other => other.operationId == row.operationId)
        (fun other => { other with status := .running, lastError := "" })
        tables.deletionOutbox },
      some { row with status := .running, lastError := "" })

/-- `_claim_outbox("memory_projection_outbox")`. -/
def claimProjection (now : Time) : Tables × Option ProjectionOperation :=
  let precedes (left right : ProjectionOperation) : Bool :=
    decide (left.createdAt < right.createdAt) || (left.createdAt == right.createdAt &&
      decide (env.uuid left.operationId < env.uuid right.operationId))
  match firstBy precedes (tables.projectionOutbox.filter fun row =>
      outboxDue now row.status row.nextRetryAt) with
  | none => (tables, none)
  | some row =>
    ({ tables with
      projectionOutbox := updateWhere (fun other => other.operationId == row.operationId)
        (fun other => { other with status := .running, lastError := "" })
        tables.projectionOutbox },
      some { row with status := .running, lastError := "" })

/-- `_deletion_target_matches`: the reason why the request is skipped, or none. -/
def deletionSkipReason (item : DeletionOperation) : Option String :=
  let rows := tables.projections.filter fun row => row.projectionId == item.projectionId
  let matching := rows.filter fun row =>
    row.memoryId == item.memoryId && row.path == item.path && row.storeKey == item.storeKey
  match matching with
  | [projection] =>
    if projection.retiredAt.isNone then some "projection_not_retired"
    else if projection.currentRevision ≠ item.expectedRevision then
      some "projection_revision_changed"
    else if projection.fenceVersion ≠ item.expectedFence then some "projection_fence_changed"
    else none
  | _ => some "projection_identity_changed"

/-- The checks of `_process_projection_outbox` before the physical write: the reason why the request
is completed without one, or the projection to write. -/
def projectionTarget (item : ProjectionOperation) : Except String Projection :=
  match getProjection tables item.projectionId with
  | none => .error "orphan_projection"
  | some projection =>
    if (getRecord tables item.memoryId).isNone then .error "orphan_record"
    else if projection.currentRevision ≠ item.expectedRevision ∨
        projection.fenceVersion ≠ item.expectedFence then .error "stale_fence"
    else if projection.retiredAt.isSome then .error "retired_projection"
    else if env.contentHash item.payload.content ≠ item.payload.contentHash then
      .error "invalid_payload"
    else if env.contentHash item.payload.content ≠ projection.currentContentHash then
      .error "stale_content_hash"
    else .ok projection

/-- `_complete_projection_outbox`. -/
def completeProjection (operationId : Nat) (reason : String) : Tables :=
  { tables with
    projectionOutbox := updateWhere
      (fun row => row.operationId == operationId && row.status.isOpen)
      (fun row => { row with status := .completed, lastError := Python.clip 500 reason })
      tables.projectionOutbox }

/-- `_retry_time`. -/
def retryTime (retryCount : Nat) (clock : Time) : Time :=
  clock + min 3600 (max 5 (2 ^ min retryCount 8)) * 1000000

/-- `_outbox_retry("memory_deletion_outbox", ..)`. -/
def retryDeletion (operationId : Nat) (error : String) (clock : Time) : Tables :=
  { tables with
    deletionOutbox := updateWhere
      (fun row => row.operationId == operationId && row.status == .running)
      (fun row =>
        let retryCount := row.retryCount + 1
        let terminal := decide (max 1 env.projectionMaxRetries ≤ retryCount)
        { row with
          status := if terminal then .deadLetter else .retrying
          retryCount
          nextRetryAt := if terminal then none else some (retryTime retryCount clock)
          lastError := Python.clip 2000 error })
      tables.deletionOutbox }

/-- `_outbox_retry("memory_projection_outbox", ..)`. -/
def retryProjection (operationId : Nat) (error : String) (clock : Time) : Tables :=
  { tables with
    projectionOutbox := updateWhere
      (fun row => row.operationId == operationId && row.status == .running)
      (fun row =>
        let retryCount := row.retryCount + 1
        let terminal := decide (max 1 env.projectionMaxRetries ≤ retryCount)
        { row with
          status := if terminal then .deadLetter else .retrying
          retryCount
          nextRetryAt := if terminal then none else some (retryTime retryCount clock)
          lastError := Python.clip 2000 error })
      tables.projectionOutbox }

/-- `_requeue_stuck_outbox`: a new writer takes over what a crashed one left running. -/
def requeueStuckOutbox (now : Time) : Tables :=
  { tables with
    projectionOutbox := updateWhere (fun row => row.status == .running)
      (fun row => { row with status := .retrying, nextRetryAt := some now }) tables.projectionOutbox
    deletionOutbox := updateWhere (fun row => row.status == .running)
      (fun row => { row with status := .retrying, nextRetryAt := some now })
      tables.deletionOutbox }

/-- The object test of `reconcile_store`: only an active, unretired projection of an active record
with the same content hash keeps its object. -/
def reconcileKeeps (object : StoreObject) : Bool :=
  match getProjectionByKey tables object.path object.storeKey with
  | none => false
  | some projection =>
    projection.active && projection.retiredAt.isNone &&
      (getRecord tables projection.memoryId).any fun record =>
        record.status.isActive && object.content != .redacted &&
          env.contentHash object.content == projection.currentContentHash &&
          record.contentHash == projection.currentContentHash

end HardwareDatabase.Memory
