/-
Module: HardwareDatabase.ResultExports.Enqueue
Purpose: What a completed chat turn leaves for the export worker (`src/src/result_exports/store.py`), written through
  the caller's connection. An envelope is the JSON text that is stored.
Trusted boundary: none
-/
import HardwareDatabase.Python.Text
import Mathlib.Data.List.Dedup

namespace HardwareDatabase.ResultExports

/-- `EXPORT_FORMATS`. -/
inductive ExportFormat
  | md
  | xlsx
  | docx
  | pdf
  | pptx
deriving Repr, DecidableEq, Inhabited

/-- `EXPORT_CONTENT_SHAPES`. -/
inductive ContentShape
  | report
  | data
  | raw
deriving Repr, DecidableEq, Inhabited

/-- The validated intent persisted on a turn. `options` is the JSON text of the renderer options. -/
structure ExportPlan where
  formats : List ExportFormat
  contentShape : ContentShape
  title : Option String
  includeCitations : Bool
  organize : Bool
  options : String
deriving Repr, DecidableEq

/-- `options_json` of a job that a completed turn asks for. -/
structure JobOptions where
  base : String
  includeCitations : Bool
  organize : Bool
  renderTitle : Option String
deriving Repr, DecidableEq

/-- `EXPORT_JOB_STATUSES`. -/
inductive ExportJobStatus
  | queued
  | running
  | succeeded
  | failed
  | cancelled
  | deadLetter
deriving Repr, DecidableEq, Inhabited

/-- `result_snapshots`. -/
structure Snapshot where
  snapshotId : Nat
  ownerUserId : Nat
  tenantId : String
  departmentId : Option Nat
  knowledgeBaseName : String
  sessionId : Nat
  turnId : String
  assistantMessageId : Nat
  sourceHash : String
  envelope : String
  createdAt : Nat
deriving Repr, DecidableEq

/-- `result_export_jobs`, as inserted: the lease and artifact columns keep their defaults. -/
structure ExportJob where
  exportJobId : Nat
  snapshotId : Nat
  ownerUserId : Nat
  tenantId : String
  departmentId : Option Nat
  knowledgeBaseName : String
  sessionId : Nat
  assistantMessageId : Nat
  format : ExportFormat
  contentShape : ContentShape
  clientRequestId : String
  options : JobOptions
  status : ExportJobStatus
  maxAttempts : Nat
  availableAt : Nat
  createdAt : Nat
deriving Repr, DecidableEq

/-- `result_export_outbox`. -/
structure ExportOutboxRow where
  outboxId : Nat
  exportJobId : Nat
  availableAt : Nat
  createdAt : Nat
deriving Repr, DecidableEq

/-- The export tables. `nextId` is the supply of `uuid4` values. -/
structure ExportTables where
  snapshots : List Snapshot
  jobs : List ExportJob
  outbox : List ExportOutboxRow
  nextId : Nat
deriving Repr, DecidableEq

def ExportTables.empty : ExportTables :=
  { snapshots := [], jobs := [], outbox := [], nextId := 1 }

/-- What the export statements raise. -/
inductive ExportError
  | valueError (message : String)
  | keyError (message : String)
deriving Repr, DecidableEq

/-- What `complete_turn_result` passes for a turn that has a plan. -/
structure TurnExport where
  ownerUserId : Nat
  tenantId : String
  departmentId : Option Nat
  knowledgeBaseName : String
  sessionId : Nat
  turnId : String
  assistantMessageId : Nat
  envelope : String
  plan : ExportPlan
deriving Repr, DecidableEq

/-- `_as_id` of a number: zero is falsy and is refused like an empty text. -/
def asId (value : Nat) : Except ExportError Nat :=
  if value = 0 then .error (.valueError "export owner/source identifiers are required")
  else .ok value

/-- `_create_snapshot_in_connection`. The envelope's metadata names the same knowledge base as the
argument. -/
def createSnapshotInConnection (sha256 : String → String) (tables : ExportTables)
    (request : TurnExport) (now : Nat) : Except ExportError (ExportTables × Snapshot) := do
  let owner ← asId request.ownerUserId
  let session ← asId request.sessionId
  match tables.snapshots.find? fun row => row.ownerUserId == owner && row.turnId == request.turnId with
  | some existing =>
    if existing.envelope ≠ request.envelope then
      throw (.valueError "result snapshot is immutable")
    else
      return (tables, existing)
  | none =>
    let snapshot : Snapshot :=
      { snapshotId := tables.nextId, ownerUserId := owner, tenantId := request.tenantId,
        departmentId := request.departmentId,
        knowledgeBaseName := Python.strip request.knowledgeBaseName, sessionId := session,
        turnId := request.turnId, assistantMessageId := request.assistantMessageId,
        sourceHash := sha256 request.envelope, envelope := request.envelope, createdAt := now }
    return ({ tables with
              snapshots := tables.snapshots ++ [snapshot], nextId := tables.nextId + 1 }, snapshot)

/-- `_create_export_job_in_connection` for a format of a turn's plan. -/
def createExportJobInConnection (enabled : ExportFormat → Bool) (tables : ExportTables)
    (request : TurnExport) (snapshotId : Nat) (clientRequestId : String) (options : JobOptions)
    (now : Nat) (format : ExportFormat) : Except ExportError ExportTables := do
  let owner ← asId request.ownerUserId
  let session ← asId request.sessionId
  let requestId := Python.clip 128 clientRequestId
  if enabled format = false then
    throw (.valueError "export format is disabled")
  match tables.snapshots.find? fun row => row.snapshotId == snapshotId && row.ownerUserId == owner with
  | none => throw (.keyError "result snapshot not found")
  | some snapshot =>
    if snapshot.sessionId ≠ session then
      throw (.valueError "export session does not match result snapshot")
    match tables.jobs.find? fun row =>
        row.ownerUserId == owner && row.clientRequestId == requestId && row.format == format with
    | some existing =>
      if existing.snapshotId ≠ snapshotId ∨ existing.contentShape ≠ request.plan.contentShape ∨
          existing.options ≠ options then
        throw (.valueError "export idempotency key conflicts with existing payload")
      else
        return tables
    | none =>
      let job : ExportJob :=
        { exportJobId := tables.nextId, snapshotId, ownerUserId := owner,
          tenantId := request.tenantId,
          departmentId := request.departmentId <|> snapshot.departmentId,
          knowledgeBaseName := Python.strip
            (if request.knowledgeBaseName = "" then snapshot.knowledgeBaseName
              else request.knowledgeBaseName),
          sessionId := session, assistantMessageId := snapshot.assistantMessageId, format,
          contentShape := request.plan.contentShape, clientRequestId := requestId, options,
          status := .queued, maxAttempts := 3, availableAt := now, createdAt := now }
      let row : ExportOutboxRow :=
        { outboxId := tables.nextId + 1, exportJobId := job.exportJobId, availableAt := now,
          createdAt := now }
      return { tables with
               jobs := tables.jobs ++ [job], outbox := tables.outbox ++ [row],
               nextId := tables.nextId + 2 }

/-- `enqueue_completed_turn_in_connection`. -/
def enqueueCompletedTurnInConnection (sha256 : String → String) (enabled : ExportFormat → Bool)
    (tables : ExportTables) (request : TurnExport) (now : Nat) : Except ExportError ExportTables := do
  -- `dict.fromkeys` keeps the first occurrence of a format
  let formats := (request.plan.formats.filter enabled).reverse.dedup.reverse
  if 5 < formats.length then
    throw (.valueError "at most 5 export formats are allowed")
  let (tables, snapshot) ← createSnapshotInConnection sha256 tables request now
  let options : JobOptions :=
    { base := request.plan.options, includeCitations := request.plan.includeCitations,
      organize := request.plan.organize,
      renderTitle := (request.plan.title.filter (· ≠ "")).map (Python.clip 160) }
  formats.foldlM
    (fun tables format =>
      createExportJobInConnection enabled tables request snapshot.snapshotId
        ("turn-export-" ++ request.turnId) options now format)
    tables

end HardwareDatabase.ResultExports
