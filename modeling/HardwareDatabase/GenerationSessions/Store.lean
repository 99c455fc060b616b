/-
Module: HardwareDatabase.GenerationSessions.Store
Purpose: The operations of `GenerationSessionStore` on one session. A call first reads and checks; its second step
  writes back the whole payload computed from that. Identifiers and instants that a call makes up are arguments.
Trusted boundary: none
-/
import HardwareDatabase.GenerationSessions.Rows
import HardwareDatabase.Relational.TwoPhase

namespace HardwareDatabase.GenerationSessions

open Python (strip)
open Relational

/-! ### Calls -/

/-- The arguments of `append_message`; the request key of the message is as it was passed. -/
structure Posting where
  message : Message
  closureEnabled : Bool
deriving Repr, DecidableEq

/-- The message that `append_message` stores. -/
def Posting.stored (posting : Posting) : Message :=
  { posting.message with clientRequestId := optional posting.message.clientRequestId }

/-- The arguments of `apply_clarification_answer`. -/
structure AnswerRequest where
  questionId : String
  answer : String
  brief : Brief
  nextMessage : Message
  clientRequestId : Option String
  userMessageId : String
  userMessageAt : Nat
  closureEnabled : Bool
deriving Repr, DecidableEq

/-- The arguments of `bind_plan`. -/
structure PlanBinding where
  outputSpecId : String
  outputSpecVersion : Int
  documentPlanId : Option String
  documentPlanVersion : Option Int
  status : Option String
deriving Repr, DecidableEq

/-- The draft of `update_output_spec_draft`: the two entries that are read, and the whole as JSON. -/
structure Draft where
  outputSpecId : Option String
  version : Int
  json : String
deriving Repr, DecidableEq

/-- What a call asks for. -/
inductive Request
  | appendMessage (posting : Posting)
  | applyClarificationAnswer (request : AnswerRequest)
  | updateBrief (updates : BriefUpdates) (briefUpdatedAt : Nat) (closureEnabled : Bool)
  | setStatus (status : String)
  | confirm (closureEnabled : Bool)
  | bindDocumentTask (documentTaskId : String)
  | bindWorkOrder (workOrderId : String)
  | bindPlan (binding : PlanBinding)
  | updateOutputSpecDraft (draft : Draft) (expectedVersion : Int) (status : String)
  | clearPlan
deriving Repr, DecidableEq

/-- A call on a session, with the instant that it writes. -/
structure Call where
  sessionId : String
  now : Nat
  request : Request
deriving Repr, DecidableEq

/-! ### The first step -/

/-- `_guard_legacy_generation_write`. -/
def guardLegacyWrite (session : Session) (closureEnabled : Bool) : Except Failure Unit :=
  if session.contractVersion = .legacyBriefV1 ∧ closureEnabled = true then .error .legacyWritesClosed
  else .ok ()

/-- `current is not None and current != incoming`. -/
def differs {α : Type} [DecidableEq α] (current incoming : Option α) : Bool :=
  current.isSome && current != incoming

namespace PlanBinding

/-- One of the session's planning pointers is set and is not the requested one. -/
def conflicts (binding : PlanBinding) (session : Session) : Bool :=
  differs session.outputSpecId (optional (some binding.outputSpecId)) ||
    differs session.outputSpecVersion (some binding.outputSpecVersion) ||
    differs session.documentPlanId (optional binding.documentPlanId) ||
    differs session.documentPlanVersion binding.documentPlanVersion

/-- All four pointers are set. -/
def isComplete (session : Session) : Bool :=
  session.outputSpecId.isSome && session.outputSpecVersion.isSome && session.documentPlanId.isSome &&
    session.documentPlanVersion.isSome

/-- The checks that precede the read. -/
def check (binding : PlanBinding) : Except Failure Unit :=
  if (optional (some binding.outputSpecId)).isNone ∨ binding.outputSpecVersion < 1 then
    .error .outputSpecRequired
  else if (optional binding.documentPlanId).isNone ≠ binding.documentPlanVersion.isNone then
    .error .planIdWithoutVersion
  else .ok ()

/-- The status to write. -/
def newStatus (binding : PlanBinding) (session : Session) : Except Failure Status :=
  match binding.status with
  | none => .ok session.status
  | some text =>
    match Status.ofText (strip text) with
    | some status => .ok status
    | none => .error .unsupportedStatus

end PlanBinding

namespace Request

/-- The checks of the arguments that precede the read. -/
def check : Request → Except Failure Unit
  | .applyClarificationAnswer request =>
    if strip request.questionId = "" ∨ strip request.answer = "" then
      .error .questionAndAnswerRequired
    else .ok ()
  | .setStatus status =>
    if (Status.ofText (strip status)).isNone then .error .unsupportedStatus else .ok ()
  | .bindPlan binding => binding.check
  | _ => .ok ()

/-- The payload that a call computes from the session it read, or `none` where it returns the session as
it is. The answer to a clarification is computed in the second step. -/
def revise (session : Session) (now : Nat) : Request → Except Failure (Option Session)
  | .appendMessage posting => do
    guardLegacyWrite session posting.closureEnabled
    let lastQuestionId :=
      if posting.message.role = .assistant then posting.message.questionId else session.lastQuestionId
    return some { session with updatedAt := now, lastQuestionId }
  | .applyClarificationAnswer request => do
    guardLegacyWrite session request.closureEnabled
    return some session
  | .updateBrief updates briefUpdatedAt closureEnabled => do
    guardLegacyWrite session closureEnabled
    let brief ← session.brief.update updates briefUpdatedAt
    return some { session with brief, updatedAt := now }
  | .setStatus status =>
    let status := Status.ofTextUnchecked (strip status)
    if session.status = status then .ok none
    else .ok (some { session with status, updatedAt := now })
  | .confirm closureEnabled => do
    if session.contractVersion = .outputSpecV1 then throw .planRequired
    guardLegacyWrite session closureEnabled
    if session.status = .readyToGenerate ∧ session.brief.confirmed = true then return none
    return some { session with
      brief := { session.brief with confirmed := true, updatedAt := now }
      status := .readyToGenerate
      updatedAt := now }
  | .bindDocumentTask documentTaskId =>
    match optional (some documentTaskId) with
    | none => .error .documentTaskRequired
    | some taskId =>
      if differs (session.documentTaskId.filter (· != "")) (some taskId) then
        .error .boundToAnotherTask
      else .ok (some { session with documentTaskId := some taskId, updatedAt := now })
  | .bindWorkOrder workOrderId =>
    if differs (session.workOrderId.filter (· != "")) (some workOrderId) then
      .error .boundToAnotherWorkOrder
    else .ok (some { session with workOrderId := some workOrderId, updatedAt := now })
  | .bindPlan binding => do
    if binding.conflicts session then throw .boundToAnotherPlan
    if PlanBinding.isComplete session then return none
    let status ← binding.newStatus session
    return some { session with
      outputSpecId := optional (some binding.outputSpecId)
      outputSpecVersion := some binding.outputSpecVersion
      documentPlanId := optional binding.documentPlanId
      documentPlanVersion := binding.documentPlanVersion
      status
      updatedAt := now }
  | .updateOutputSpecDraft draft expectedVersion status => do
    if session.contractVersion ≠ .outputSpecV1 then throw .draftNeedsOutputSpec
    let currentVersion := session.outputSpecVersion.getD 0
    if currentVersion ≠ expectedVersion then throw (.versionMismatch expectedVersion currentVersion)
    if draft.version ≤ currentVersion then throw .versionMustAdvance
    return some { session with
      outputSpecId := (optional draft.outputSpecId).or session.outputSpecId
      outputSpecVersion := some draft.version
      outputSpecDraft := some draft.json
      documentPlanId := none
      documentPlanVersion := none
      status := Status.ofTextUnchecked status
      updatedAt := now }
  | .clearPlan =>
    if session.documentPlanId.isNone && session.documentPlanVersion.isNone then .ok none
    else
      .ok (some { session with documentPlanId := none, documentPlanVersion := none, updatedAt := now })

end Request

/-- The first step of a call: the session that it read, if it goes on to write. -/
def Store.look (store : Store) (call : Call) : Except Failure (Option Session) := do
  call.request.check
  let session ← store.getSession call.sessionId
  let revised ← call.request.revise session call.now
  return revised.map fun _ => session

/-! ### The second step -/

/-- `conn.execute("UPDATE ..")` of a revised payload. -/
def Store.writeSession (store : Store) (session : Session) : Except Failure Store := do
  let sessions ← updateSessionRow store.sessions session
  return { store with sessions }

/-- The answer of a brief that carries the request key. -/
def Brief.keyed (brief : Brief) (questionId : String) (requestId : Option String) : Brief :=
  match requestId, brief.clarificationAnswers.getLast? with
  | some key, some last =>
    if last.questionId = questionId then
      { brief with
        clarificationAnswers :=
          brief.clarificationAnswers.dropLast ++ [{ last with clientRequestId := some key }] }
    else brief
  | _, _ => brief

namespace AnswerRequest

def requestId (request : AnswerRequest) : Option String :=
  optional request.clientRequestId

/-- An earlier message under the request key is this answer. -/
def isReplayOf (request : AnswerRequest) (existing : Message) : Bool :=
  existing.role == .user && existing.questionId == some (strip request.questionId) &&
    strip ((existing.answer.filter (· != "")).getD existing.content) == strip request.answer

/-- The user's message. -/
def userMessage (request : AnswerRequest) : Message :=
  { messageId := request.userMessageId
    role := .user
    content := strip request.answer
    questionId := some (strip request.questionId)
    options := []
    answer := some (strip request.answer)
    reason := none
    clientRequestId := request.requestId
    createdAt := request.userMessageAt }

end AnswerRequest

/-- The question that awaits an answer: the last of the assistant's messages that has one. -/
def Store.pendingQuestion (store : Store) (sessionId : String) : Option String :=
  ((store.sessionMessages sessionId).reverse.find? fun message =>
    message.role == .assistant && message.questionId.any (· != "")).bind Message.questionId

/-- The transaction of `apply_clarification_answer` past the replay of a request key. -/
def Store.recordAnswer (store : Store) (sessionId : String) (current : Session)
    (request : AnswerRequest) (now : Nat) : Except Failure Store := do
  if current.status ≠ .needsClarification then throw .notAcceptingAnswers
  if store.pendingQuestion sessionId ≠ some (strip request.questionId) then
    throw .notTheCurrentQuestion
  let messages ← insertMessage store.messages
    { sessionId, clientRequestId := request.requestId, message := request.userMessage }
  let messages ← insertMessage messages
    { sessionId, clientRequestId := none, message := request.nextMessage }
  { store with messages }.writeSession
    { current with
      brief := request.brief.keyed (strip request.questionId) request.requestId
      lastQuestionId := request.nextMessage.questionId
      clarificationRevision := current.clarificationRevision + 1
      updatedAt := now }

/-- The transaction of `apply_clarification_answer`, which reads the session again. -/
def Store.applyAnswer (store : Store) (sessionId : String) (request : AnswerRequest) (now : Nat) :
    Except Failure Store := do
  let current ← store.getSession sessionId
  match request.requestId.bind fun key =>
      store.messages.find? fun row => row.sessionId == sessionId && row.clientRequestId == some key with
  | some existing =>
    if request.isReplayOf existing.message then return store else throw .idempotencyConflict
  | none => store.recordAnswer sessionId current request now

/-- The transaction of `append_message`. -/
def Store.appendMessage (store : Store) (sessionId : String) (posting : Posting) (revised : Session) :
    Except Failure Store := do
  let messages ← insertMessage store.messages
    { sessionId, clientRequestId := posting.stored.clientRequestId, message := posting.stored }
  { store with messages }.writeSession revised

/-- The second step of a call, from the session that it read. -/
def Store.write (store : Store) (call : Call) (session : Session) : Except Failure Store :=
  match call.request with
  | .applyClarificationAnswer request => store.applyAnswer call.sessionId request call.now
  | request =>
    match request.revise session call.now with
    | .error failure => .error failure
    | .ok none => .ok store
    | .ok (some revised) =>
      match request with
      | .appendMessage posting => store.appendMessage call.sessionId posting revised
      | _ => store.writeSession revised

/-- The calls on the session store. -/
def generationCalls : TwoPhase Store Call Session Failure where
  look := Store.look
  write := Store.write

end HardwareDatabase.GenerationSessions
