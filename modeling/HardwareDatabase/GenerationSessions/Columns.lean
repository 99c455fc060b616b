/-
Module: HardwareDatabase.GenerationSessions.Columns
Purpose: The rows of `document_generation_sessions` with the columns that `_update_session_row` fills, beside the
  payload. A brief that a caller passes has been validated.
Trusted boundary: none
-/
import HardwareDatabase.GenerationSessions.Store

namespace HardwareDatabase.GenerationSessions

open Python (strip)
open Relational

/-- What `GenerationBrief.model_validate` checks. -/
def Brief.isValid (brief : Brief) : Bool :=
  decide brief.allowedDerivations.Nodup && decide (0 ≤ brief.confidence ∧ brief.confidence ≤ 1)

/-- A brief that has been validated. -/
abbrev ValidBrief := { brief : Brief // brief.isValid = true }

/-- The columns of a session besides the payload. -/
structure SessionColumns where
  sessionId : String
  tenantId : String
  userId : String
  knowledgeBaseName : String
  templateVersionId : Option String
  contractVersion : ContractVersion
  outputSpecId : Option String
  outputSpecVersion : Option Int
  outputSpecDraft : Option String
  documentPlanId : Option String
  documentPlanVersion : Option Int
  status : Status
  createdAt : Nat
  updatedAt : Nat
deriving Repr, DecidableEq

/-- The columns that the `INSERT` writes. -/
def Session.columns (session : Session) : SessionColumns :=
  { sessionId := session.sessionId, tenantId := session.tenantId, userId := session.userId,
    knowledgeBaseName := session.knowledgeBaseName, templateVersionId := session.templateVersionId,
    contractVersion := session.contractVersion, outputSpecId := session.outputSpecId,
    outputSpecVersion := session.outputSpecVersion, outputSpecDraft := session.outputSpecDraft,
    documentPlanId := session.documentPlanId, documentPlanVersion := session.documentPlanVersion,
    status := session.status, createdAt := session.createdAt, updatedAt := session.updatedAt }

/-- The columns that `_update_session_row` writes. -/
def SessionColumns.updated (columns : SessionColumns) (session : Session) : SessionColumns :=
  { columns with
    templateVersionId := session.templateVersionId
    contractVersion := session.contractVersion
    outputSpecId := session.outputSpecId
    outputSpecVersion := session.outputSpecVersion
    outputSpecDraft := session.outputSpecDraft
    documentPlanId := session.documentPlanId
    documentPlanVersion := session.documentPlanVersion
    status := session.status
    updatedAt := session.updatedAt }

/-- A row of `document_generation_sessions`. -/
structure SessionRow where
  columns : SessionColumns
  payload : Session
deriving Repr, DecidableEq

/-- Reading a row validates its payload, the brief included. -/
def SessionRow.read (row : SessionRow) : Except Failure Session :=
  if row.payload.isReadable && row.payload.brief.isValid then .ok row.payload else .error .invalidSession

/-- The two tables. -/
structure SessionTable where
  rows : List SessionRow
  messages : List MessageRow
deriving Repr, DecidableEq

/-- The payloads, which the operations read. -/
def SessionTable.store (table : SessionTable) : Store :=
  { sessions := table.rows.map SessionRow.payload, messages := table.messages }

/-- The arguments of `create_session`, with the identifier and the instant that it makes up. -/
structure SessionCreation where
  tenantId : String
  userId : String
  knowledgeBaseName : String
  templateVersionId : Option String
  brief : ValidBrief
  conversationId : Option String
  initiatingTurnId : Option String
  documentTaskId : Option String
  contractVersion : ContractVersion
  status : Option String
  outputSpecId : Option String
  outputSpecVersion : Option Int
  outputSpecDraft : Option String
  documentPlanId : Option String
  documentPlanVersion : Option Int
  uuid : String
  now : Nat
  closureEnabled : Bool

/-- The status of a new session: `status or default`. -/
def SessionCreation.initialStatus (creation : SessionCreation) : Status :=
  match creation.status.filter (· != "") with
  | some text => Status.ofTextUnchecked text
  | none => if creation.contractVersion = .outputSpecV1 then .awaitingPlan else .needsClarification

/-- The session that `create_session` builds before the validators of the model run. -/
def SessionCreation.session (creation : SessionCreation) : Session :=
  { sessionId := "generation-session-" ++ creation.uuid
    tenantId := creation.tenantId
    userId := creation.userId
    knowledgeBaseName := creation.knowledgeBaseName
    templateVersionId := creation.templateVersionId
    contractVersion := creation.contractVersion
    status := creation.initialStatus
    brief := creation.brief.val
    conversationId := optional creation.conversationId
    initiatingTurnId := optional creation.initiatingTurnId
    documentTaskId := optional creation.documentTaskId
    workOrderId := none
    outputSpecId := optional creation.outputSpecId
    outputSpecVersion := creation.outputSpecVersion
    outputSpecDraft := creation.outputSpecDraft
    documentPlanId := optional creation.documentPlanId
    documentPlanVersion := creation.documentPlanVersion
    lastQuestionId := none
    clarificationRevision := 0
    createdAt := creation.now
    updatedAt := creation.now }

/-- `create_session`. -/
def SessionTable.createSession (table : SessionTable) (creation : SessionCreation) : Except Failure SessionTable :=
  if creation.contractVersion = .legacyBriefV1 ∧ creation.closureEnabled = true then
    .error .legacyWritesClosed
  else if !creation.session.isReadable then .error .invalidSession
  else if table.rows.any fun row => row.columns.sessionId == creation.session.sessionId then
    .error .duplicateKey
  else
    .ok { table with
      rows := table.rows ++ [{ columns := creation.session.columns, payload := creation.session }] }

/-- The row with the payload that a call has written. -/
def SessionRow.updated (row : SessionRow) (session : Session) : SessionRow :=
  { columns := row.columns.updated session, payload := session }

/-- A whole call on a session. Where it rewrites the payload, `_update_session_row` has written the
columns with it. -/
def SessionTable.perform (table : SessionTable) (call : Call) : Except Failure SessionTable :=
  match generationCalls.perform table.store call with
  | .error failure => .error failure
  | .ok store =>
    match store.row call.sessionId with
    | none => .ok { table with messages := store.messages }
    | some session =>
      if table.store.row call.sessionId = some session then
        .ok { table with messages := store.messages }
      else
        .ok
          { rows := updateWhere (fun row => row.columns.sessionId == call.sessionId)
              (fun row => row.updated session) table.rows
            messages := store.messages }

/-- The brief that a call passes, if it passes one, has been validated. -/
def Call.passesValidBrief (call : Call) : Bool :=
  match call.request with
  | .applyClarificationAnswer request => request.brief.isValid
  | _ => true

/-- An operation of the store. -/
inductive SessionOp
  | createSession (creation : SessionCreation)
  | call (call : { call : Call // call.passesValidBrief = true })

/-- The tables that an operation commits. -/
def SessionTable.apply (table : SessionTable) : SessionOp → Except Failure SessionTable
  | .createSession creation => table.createSession creation
  | .call call => table.perform call.val

end HardwareDatabase.GenerationSessions
