/-
Module: HardwareDatabase.DocumentTasks.Store
Purpose: `DocumentTaskStore` (`src/src/document_authoring/tasks.py`). Every function is the body of one transaction;
  writers change an unvalidated copy of the payload, readers validate. The stream events and the conversation pointers
  are left out. The random part of an event key comes from a counter; objects that are only stored are JSON text.
Trusted boundary: none
-/
import HardwareDatabase.Python.Text
import HardwareDatabase.Relational.Table

namespace HardwareDatabase.DocumentTasks

open Python (strip clip lowerAscii)
open Relational

/-- What a call raises. -/
inductive Failure
  -- KeyError and IntegrityError
  | taskNotFound
  | duplicateKey
  -- pydantic's ValidationError
  | invalidTask
  -- ValueError
  | unsupportedOrigin
  | unsupportedStatus
  | keyConflict
  | idsRequired (names : String)
  | boundToAnotherWorkOrder
  | workOrderDiffers
  | outputSpecRequired
  | planIdWithoutVersion
  | boundToAnotherPlan
deriving Repr, DecidableEq

/-- The message of an exception that the module words itself. -/
def Failure.text : Failure → String
  | .taskNotFound => "document task not found"
  | .unsupportedOrigin => "unsupported document task origin"
  | .unsupportedStatus => "unsupported document task status"
  | .keyConflict => "document task idempotency key conflicts with existing payload"
  | .idsRequired names => names ++ " required"
  | .boundToAnotherWorkOrder => "document task is already bound to another work order"
  | .workOrderDiffers => "task current work order differs from expected work order"
  | .outputSpecRequired => "output spec id and positive version are required"
  | .planIdWithoutVersion => "document plan id and version must be provided together"
  | .boundToAnotherPlan => "document task is already bound to another plan"
  | .duplicateKey | .invalidTask => ""

/-! ### Tasks -/

inductive Origin
  | chat
  | workbench
  | api
  | legacy
deriving Repr, DecidableEq

def Origin.text : Origin → String
  | .chat => "chat"
  | .workbench => "workbench"
  | .api => "api"
  | .legacy => "legacy"

inductive TaskStatus
  | planned
  | needsClarification
  | queued
  | running
  | waitingHuman
  | awaitingPlanConfirmation
  | awaitingRelease
  | completed
  | failed
  | cancelled
  | legacy
deriving Repr, DecidableEq

def TaskStatus.text : TaskStatus → String
  | .planned => "planned"
  | .needsClarification => "needs_clarification"
  | .queued => "queued"
  | .running => "running"
  | .waitingHuman => "waiting_human"
  | .awaitingPlanConfirmation => "awaiting_plan_confirmation"
  | .awaitingRelease => "awaiting_release"
  | .completed => "completed"
  | .failed => "failed"
  | .cancelled => "cancelled"
  | .legacy => "legacy"

/-- `TASK_ORIGINS`. -/
def taskOrigins : List Origin :=
  [.chat, .workbench, .api, .legacy]

/-- `TASK_STATUSES`. -/
def taskStatuses : List TaskStatus :=
  [.planned, .needsClarification, .queued, .running, .waitingHuman, .awaitingPlanConfirmation,
    .awaitingRelease, .completed, .failed, .cancelled, .legacy]

/-- `_validate_origin`. -/
def validateOrigin (origin : String) : Except Failure Origin :=
  match taskOrigins.find? fun known => known.text == lowerAscii (strip origin) with
  | some known => .ok known
  | none => .error .unsupportedOrigin

/-- `_validate_status`. -/
def validateStatus (status : String) : Except Failure TaskStatus :=
  match taskStatuses.find? fun known => known.text == lowerAscii (strip status) with
  | some known => .ok known
  | none => .error .unsupportedStatus

/-- `_normalize`: `str(value or "").strip() or None`. -/
def normalize (value : Option String) : Option String :=
  (value.map strip).filter (· != "")

/-- The planning pointers: the output specification and the plan, each with its version. -/
structure Pointers where
  outputSpecId : Option String
  outputSpecVersion : Option Int
  documentPlanId : Option String
  documentPlanVersion : Option Int
deriving Repr, DecidableEq

/-- Some pointer is set. -/
def Pointers.isBound (pointers : Pointers) : Bool :=
  pointers.outputSpecId.isSome || pointers.outputSpecVersion.isSome || pointers.documentPlanId.isSome ||
    pointers.documentPlanVersion.isSome

/-- A `DocumentTask`. -/
structure DocumentTask where
  taskId : String
  tenantId : String
  userId : String
  origin : Origin
  conversationId : Option String
  initiatingTurnId : Option String
  projectId : Option String
  knowledgeBaseName : Option String
  templateVersionId : Option String
  generationSessionId : Option String
  pointers : Pointers
  workOrderId : Option String
  currentRunId : Option String
  currentArtifactId : Option String
  artifactIds : List String
  status : TaskStatus
  idempotencyKey : Option String
  createdBy : String
  metadata : String
  createdAt : Nat
  updatedAt : Nat
deriving Repr, DecidableEq

/-- An identifier comes with its version, and a version is positive. -/
def Pointers.isValid (pointers : Pointers) : Bool :=
  pointers.outputSpecVersion.all (fun version => 1 ≤ version) &&
    pointers.documentPlanVersion.all (fun version => 1 ≤ version) &&
    pointers.outputSpecId.isNone == pointers.outputSpecVersion.isNone &&
    pointers.documentPlanId.isNone == pointers.documentPlanVersion.isNone

/-- What `DocumentTask.model_validate` checks: the version bounds and `validate_identity`. -/
def DocumentTask.isValid (task : DocumentTask) : Bool :=
  [task.taskId, task.tenantId, task.userId, task.createdBy].all (fun field => strip field != "") &&
    !(task.origin == .chat &&
      ((normalize task.conversationId).isNone || (normalize task.initiatingTurnId).isNone)) &&
    !(task.origin != .legacy && task.status == .legacy) &&
    task.pointers.isValid

/-- What `validate_identity` rewrites: the idempotency key and the list of artifacts. -/
def DocumentTask.normalized (task : DocumentTask) : DocumentTask :=
  { task with
    idempotencyKey := (task.idempotencyKey.map fun key => clip 256 (strip key)).filter (· != "")
    artifactIds := ((task.artifactIds.map strip).filter (· != "")).eraseDups }

/-- `DocumentTask.model_validate`. -/
def DocumentTask.validated (task : DocumentTask) : Except Failure DocumentTask :=
  if task.isValid then .ok task.normalized else .error .invalidTask

/-! ### Rows -/

/-- The columns of `document_tasks` besides the payload. -/
structure TaskColumns where
  taskId : String
  tenantId : String
  userId : String
  origin : Origin
  conversationId : Option String
  initiatingTurnId : Option String
  projectId : Option String
  knowledgeBaseName : Option String
  templateVersionId : Option String
  generationSessionId : Option String
  pointers : Pointers
  workOrderId : Option String
  status : TaskStatus
  idempotencyKey : Option String
  createdBy : String
  createdAt : Nat
  updatedAt : Nat
deriving Repr, DecidableEq

/-- The columns that the `INSERT` writes. -/
def DocumentTask.columns (task : DocumentTask) : TaskColumns :=
  { taskId := task.taskId, tenantId := task.tenantId, userId := task.userId, origin := task.origin,
    conversationId := task.conversationId, initiatingTurnId := task.initiatingTurnId,
    projectId := task.projectId, knowledgeBaseName := task.knowledgeBaseName,
    templateVersionId := task.templateVersionId, generationSessionId := task.generationSessionId,
    pointers := task.pointers, workOrderId := task.workOrderId, status := task.status,
    idempotencyKey := task.idempotencyKey, createdBy := task.createdBy, createdAt := task.createdAt,
    updatedAt := task.updatedAt }

/-- A row of `document_tasks`. -/
structure TaskRow where
  columns : TaskColumns
  payload : DocumentTask
deriving Repr, DecidableEq

/-- `_row_to_task`. -/
def TaskRow.read (row : TaskRow) : Except Failure DocumentTask :=
  row.payload.validated

/-- The unique key of a task event. The random part of a key is drawn from a counter, and different keys have
different texts: a restart keeps the text that joins its two identifiers. -/
inductive EventKey
  | workOrder (workOrderId : String)
  | workOrderRestart (joined : String)
  | run (runId : String)
  | artifact (artifactId : String)
  | statusChange (drawn : Nat)
  | plan (outputSpecId : String) (outputSpecVersion : Int)
  | planClear (drawn : Nat)
deriving Repr, DecidableEq

/-- The text of a key. -/
def EventKey.text : EventKey → String
  | .workOrder workOrderId => "work-order:" ++ workOrderId
  | .workOrderRestart joined => "work-order-restart:" ++ joined
  | .run runId => "run:" ++ runId
  | .artifact artifactId => "artifact:" ++ artifactId
  | .statusChange drawn => "status-change:" ++ toString drawn
  | .plan outputSpecId outputSpecVersion => "plan:" ++ outputSpecId ++ ":" ++ toString outputSpecVersion
  | .planClear drawn => "plan-clear:" ++ toString drawn

/-- What a task event reports. -/
inductive EventBody
  | workOrderBound (workOrderId : String)
  | workOrderRestarted (previous workOrderId : String)
  | runBound (runId : String)
  | artifactBound (artifactId : String)
  | statusChanged (before after : TaskStatus)
  | planBound (pointers : Pointers)
  | planCleared
deriving Repr, DecidableEq

/-- The type of an event. -/
def EventBody.type : EventBody → String
  | .workOrderBound _ => "work_order_bound"
  | .workOrderRestarted _ _ => "work_order_restarted"
  | .runBound _ => "run_bound"
  | .artifactBound _ => "artifact_bound"
  | .statusChanged _ _ => "status_changed"
  | .planBound _ => "plan_bound"
  | .planCleared => "plan_cleared"

/-- A row of `document_task_events`. -/
structure TaskEvent where
  taskId : String
  key : EventKey
  body : EventBody
  createdAt : Nat
deriving Repr, DecidableEq

/-- The two tables, and the number of random event keys drawn so far. -/
structure TaskStore where
  rows : List TaskRow
  events : List TaskEvent
  drawn : Nat
deriving Repr, DecidableEq, Inhabited

def TaskStore.empty : TaskStore :=
  { rows := [], events := [], drawn := 0 }

namespace TaskStore

variable (store : TaskStore)

/-- `SELECT * FROM document_tasks WHERE task_id = ?`. -/
def row? (taskId : String) : Option TaskRow :=
  store.rows.find? fun row => row.columns.taskId == taskId

/-- `_row_to_task` of the row, or the `KeyError`. -/
def get (taskId : String) : Except Failure DocumentTask :=
  match store.row? taskId with
  | none => .error .taskNotFound
  | some row => row.read

/-- An event of the task has the key. -/
def hasEvent (taskId : String) (key : EventKey) : Bool :=
  store.events.any fun event => event.taskId == taskId && event.key == key

end TaskStore

/-! ### Revisions -/

/-- What an operation writes: the payload, the columns beside `updated_at`, and the event. An event that is
inserted with `OR IGNORE` is dropped where its key exists. -/
structure Revision where
  payload : DocumentTask
  columns : TaskColumns → TaskColumns
  key : EventKey
  body : EventBody
  orIgnore : Bool

/-- The `UPDATE` of a row. -/
def Revision.row (revision : Revision) (row : TaskRow) : TaskRow :=
  { columns := { revision.columns row.columns with updatedAt := revision.payload.updatedAt }
    payload := revision.payload }

/-- The statements of an operation past its checks. -/
def TaskStore.write (store : TaskStore) (taskId : String) (revision : Revision) (eventAt : Nat) :
    Except Failure TaskStore :=
  let rows := updateWhere (fun row => row.columns.taskId == taskId) revision.row store.rows
  if store.hasEvent taskId revision.key then
    if revision.orIgnore then .ok { store with rows, drawn := store.drawn + 1 } else .error .duplicateKey
  else
    .ok { rows
          events := store.events ++
            [{ taskId, key := revision.key, body := revision.body, createdAt := eventAt }]
          drawn := store.drawn + 1 }

/-- The transaction that the operations on a task share: read and validate, decide, write. -/
def TaskStore.revise (store : TaskStore) (taskId : String) (eventAt : Nat)
    (decide : DocumentTask → Except Failure (Option Revision)) : Except Failure TaskStore := do
  let task ← store.get taskId
  match ← decide task with
  | none => return store
  | some revision => store.write taskId revision eventAt

/-! ### Operations -/

/-- The arguments of `create_task`, with the identifier and the instants that the model draws. -/
structure CreateCall where
  tenantId : String
  userId : String
  origin : String
  createdBy : String
  conversationId : Option String
  initiatingTurnId : Option String
  projectId : Option String
  knowledgeBaseName : Option String
  templateVersionId : Option String
  generationSessionId : Option String
  status : String
  outputSpecId : Option String
  outputSpecVersion : Option Int
  documentPlanId : Option String
  documentPlanVersion : Option Int
  idempotencyKey : Option String
  metadata : String
  uuid : String
  createdAt : Nat
  updatedAt : Nat
deriving Repr, DecidableEq

/-- The task that `create_task` builds before the validators of the model run. -/
def CreateCall.task (call : CreateCall) (origin : Origin) (status : TaskStatus) : DocumentTask :=
  { taskId := "document-task-" ++ call.uuid
    tenantId := strip call.tenantId
    userId := strip call.userId
    origin
    conversationId := normalize call.conversationId
    initiatingTurnId := normalize call.initiatingTurnId
    projectId := normalize call.projectId
    knowledgeBaseName := normalize call.knowledgeBaseName
    templateVersionId := normalize call.templateVersionId
    generationSessionId := normalize call.generationSessionId
    pointers :=
      { outputSpecId := normalize call.outputSpecId, outputSpecVersion := call.outputSpecVersion,
        documentPlanId := normalize call.documentPlanId, documentPlanVersion := call.documentPlanVersion }
    workOrderId := none
    currentRunId := none
    currentArtifactId := none
    artifactIds := []
    status
    idempotencyKey := normalize call.idempotencyKey
    createdBy := strip call.createdBy
    metadata := call.metadata
    createdAt := call.createdAt
    updatedAt := call.updatedAt }

/-- The fields that `_assert_idempotent_identity` compares. -/
def DocumentTask.identity (task : DocumentTask) : (String × String × Origin × String) × List (Option String) :=
  ((task.tenantId, task.userId, task.origin, task.createdBy),
    [task.conversationId, task.initiatingTurnId, task.projectId, task.knowledgeBaseName,
      task.templateVersionId, task.generationSessionId])

/-- The row of the same owner under an idempotency key. -/
def TaskStore.keyed? (store : TaskStore) (task : DocumentTask) : Option TaskRow :=
  task.idempotencyKey.bind fun key =>
    store.rows.find? fun row =>
      row.columns.tenantId == task.tenantId && row.columns.userId == task.userId &&
        row.columns.idempotencyKey == some key

/-- `create_task`. -/
def createTask (store : TaskStore) (call : CreateCall) : Except Failure TaskStore := do
  let origin ← validateOrigin call.origin
  let status ← validateStatus call.status
  let task ← (call.task origin status).validated
  match store.keyed? task with
  | some existing =>
    let current ← existing.read
    if current.identity ≠ task.identity then throw .keyConflict
    return store
  | none =>
    if store.rows.any fun row => row.columns.taskId == task.taskId then throw .duplicateKey
    return { store with rows := store.rows ++ [{ columns := task.columns, payload := task }] }

/-- `attach_work_order`. -/
def attachWorkOrder (store : TaskStore) (taskId workOrderId : String) (now eventAt : Nat) :
    Except Failure TaskStore :=
  if strip taskId = "" ∨ strip workOrderId = "" then .error (.idsRequired "task and work-order ids are")
  else
    store.revise (strip taskId) eventAt fun task =>
      if (task.workOrderId.filter (· != "")).isSome ∧ task.workOrderId ≠ some (strip workOrderId) then
        .error .boundToAnotherWorkOrder
      else if task.workOrderId = some (strip workOrderId) then .ok none
      else
        .ok (some
          { payload := { task with workOrderId := some (strip workOrderId), updatedAt := now }
            columns := fun columns => { columns with workOrderId := some (strip workOrderId) }
            key := .workOrder (strip workOrderId)
            body := .workOrderBound (strip workOrderId)
            orIgnore := false })

/-- `advance_work_order`. -/
def advanceWorkOrder (store : TaskStore) (taskId workOrderId expectedWorkOrderId : String)
    (now eventAt : Nat) : Except Failure TaskStore :=
  if strip taskId = "" ∨ strip workOrderId = "" ∨ strip expectedWorkOrderId = "" then
    .error (.idsRequired "task and expected work-order ids are")
  else
    store.revise (strip taskId) eventAt fun task =>
      if task.workOrderId ≠ some (strip expectedWorkOrderId) then .error .workOrderDiffers
      else if strip workOrderId = strip expectedWorkOrderId then .ok none
      else
        .ok (some
          { payload := { task with workOrderId := some (strip workOrderId), updatedAt := now }
            columns := fun columns => { columns with workOrderId := some (strip workOrderId) }
            key := .workOrderRestart (strip expectedWorkOrderId ++ ":" ++ strip workOrderId)
            body := .workOrderRestarted (strip expectedWorkOrderId) (strip workOrderId)
            orIgnore := false })

/-- `attach_run`. -/
def attachRun (store : TaskStore) (taskId runId : String) (now eventAt : Nat) : Except Failure TaskStore :=
  if strip taskId = "" ∨ strip runId = "" then .error (.idsRequired "task and run ids are")
  else
    store.revise (strip taskId) eventAt fun task =>
      if task.currentRunId = some (strip runId) then .ok none
      else
        .ok (some
          { payload := { task with currentRunId := some (strip runId), updatedAt := now }
            columns := id
            key := .run (strip runId)
            body := .runBound (strip runId)
            orIgnore := true })

/-- `attach_artifact`. -/
def attachArtifact (store : TaskStore) (taskId artifactId : String) (now eventAt : Nat) : Except Failure TaskStore :=
  if strip taskId = "" ∨ strip artifactId = "" then .error (.idsRequired "task and artifact ids are")
  else
    store.revise (strip taskId) eventAt fun task =>
      if strip artifactId ∈ task.artifactIds then .ok none
      else
        .ok (some
          { payload :=
              { task with
                currentArtifactId := some (strip artifactId)
                artifactIds := task.artifactIds ++ [strip artifactId]
                updatedAt := now }
            columns := id
            key := .artifact (strip artifactId)
            body := .artifactBound (strip artifactId)
            orIgnore := true })

/-- `update_status`. -/
def updateStatus (store : TaskStore) (taskId status : String) (now : Nat) : Except Failure TaskStore := do
  let normalized ← validateStatus status
  store.revise taskId now fun task =>
    if task.status = normalized then .ok none
    else
      .ok (some
        { payload := { task with status := normalized, updatedAt := now }
          columns := fun columns => { columns with status := normalized }
          key := .statusChange store.drawn
          body := .statusChanged task.status normalized
          orIgnore := false })

/-- The arguments of `bind_plan`. -/
structure PlanBinding where
  outputSpecId : String
  outputSpecVersion : Int
  documentPlanId : Option String
  documentPlanVersion : Option Int
deriving Repr, DecidableEq

/-- The checks that precede the read. -/
def PlanBinding.check (binding : PlanBinding) : Except Failure Unit :=
  if (normalize (some binding.outputSpecId)).isNone ∨ binding.outputSpecVersion < 1 then
    .error .outputSpecRequired
  else if (normalize binding.documentPlanId).isNone ≠ binding.documentPlanVersion.isNone then
    .error .planIdWithoutVersion
  else .ok ()

/-- The pointers that a binding requests. -/
def PlanBinding.requested (binding : PlanBinding) : Pointers :=
  { outputSpecId := normalize (some binding.outputSpecId)
    outputSpecVersion := some binding.outputSpecVersion
    documentPlanId := normalize binding.documentPlanId
    documentPlanVersion := binding.documentPlanVersion }

/-- `bind_plan`. -/
def bindPlan (store : TaskStore) (taskId : String) (binding : PlanBinding) (now eventAt : Nat) :
    Except Failure TaskStore := do
  binding.check
  store.revise taskId eventAt fun task =>
    if task.pointers.isBound then
      if task.pointers ≠ binding.requested then .error .boundToAnotherPlan else .ok none
    else
      .ok (some
        { payload := { task with pointers := binding.requested, updatedAt := now }
          columns := fun columns => { columns with pointers := binding.requested }
          key := .plan (strip binding.outputSpecId) binding.outputSpecVersion
          body := .planBound binding.requested
          orIgnore := false })

/-- The pointers without the plan. -/
def Pointers.withoutPlan (pointers : Pointers) : Pointers :=
  { pointers with documentPlanId := none, documentPlanVersion := none }

/-- `clear_plan`. -/
def clearPlan (store : TaskStore) (taskId : String) (now eventAt : Nat) : Except Failure TaskStore :=
  if strip taskId = "" then .error (.idsRequired "task id is")
  else
    store.revise (strip taskId) eventAt fun task =>
      if task.pointers.documentPlanId.isNone && task.pointers.documentPlanVersion.isNone then .ok none
      else
        .ok (some
          { payload := { task with pointers := task.pointers.withoutPlan, updatedAt := now }
            columns := fun columns => { columns with pointers := columns.pointers.withoutPlan }
            key := .planClear store.drawn
            body := .planCleared
            orIgnore := false })

/-- An operation of the store, with the instants that it writes. -/
inductive TaskOp
  | createTask (call : CreateCall)
  | attachWorkOrder (taskId workOrderId : String) (now eventAt : Nat)
  | advanceWorkOrder (taskId workOrderId expectedWorkOrderId : String) (now eventAt : Nat)
  | attachRun (taskId runId : String) (now eventAt : Nat)
  | attachArtifact (taskId artifactId : String) (now eventAt : Nat)
  | updateStatus (taskId status : String) (now : Nat)
  | bindPlan (taskId : String) (binding : PlanBinding) (now eventAt : Nat)
  | clearPlan (taskId : String) (now eventAt : Nat)
deriving Repr, DecidableEq

/-- The tables that an operation commits. -/
def TaskStore.apply (store : TaskStore) : TaskOp → Except Failure TaskStore
  | .createTask call => DocumentTasks.createTask store call
  | .attachWorkOrder taskId workOrderId now eventAt =>
    DocumentTasks.attachWorkOrder store taskId workOrderId now eventAt
  | .advanceWorkOrder taskId workOrderId expectedWorkOrderId now eventAt =>
    DocumentTasks.advanceWorkOrder store taskId workOrderId expectedWorkOrderId now eventAt
  | .attachRun taskId runId now eventAt => DocumentTasks.attachRun store taskId runId now eventAt
  | .attachArtifact taskId artifactId now eventAt =>
    DocumentTasks.attachArtifact store taskId artifactId now eventAt
  | .updateStatus taskId status now => DocumentTasks.updateStatus store taskId status now
  | .bindPlan taskId binding now eventAt => DocumentTasks.bindPlan store taskId binding now eventAt
  | .clearPlan taskId now eventAt => DocumentTasks.clearPlan store taskId now eventAt

end HardwareDatabase.DocumentTasks
