/-
Module: HardwareDatabase.GenerationSessions.Rows
Purpose: The rows of `GenerationSessionStore` (`src/src/document_authoring/generation_sessions.py`). A session here is
  its payload; reading validates it. Objects that are only stored are JSON text; instants are microseconds.
Trusted boundary: none
-/
import HardwareDatabase.Python.Text
import HardwareDatabase.Relational.Table
import Mathlib.Data.List.Sort

namespace HardwareDatabase.GenerationSessions

open Python (strip pairLe)
open Relational

/-- What a call raises. -/
inductive Failure
  -- KeyError and IntegrityError
  | sessionNotFound
  | duplicateKey
  -- pydantic's ValidationError
  | invalidSession
  | invalidBrief
  -- CompatibilityClosureError
  | legacyWritesClosed
  -- ValueError
  | questionAndAnswerRequired
  | idempotencyConflict
  | notAcceptingAnswers
  | notTheCurrentQuestion
  | documentTaskRequired
  | boundToAnotherTask
  | unsupportedStatus
  | planRequired
  | boundToAnotherWorkOrder
  | outputSpecRequired
  | planIdWithoutVersion
  | boundToAnotherPlan
  | draftNeedsOutputSpec
  | versionMismatch (expected current : Int)
  | versionMustAdvance
deriving Repr, DecidableEq

/-- The message of an exception that the module words itself. -/
def Failure.text : Failure → String
  | .sessionNotFound => "generation session not found"
  | .questionAndAnswerRequired => "clarification question and answer are required"
  | .idempotencyConflict => "clarification idempotency key conflicts with existing answer"
  | .notAcceptingAnswers => "generation session is not accepting clarification answers"
  | .notTheCurrentQuestion => "clarification answer does not match the current question"
  | .documentTaskRequired => "document task id is required"
  | .boundToAnotherTask => "generation session is already bound to another document task"
  | .unsupportedStatus => "unsupported generation session status"
  | .planRequired => "output_spec_v1 sessions require an accepted document plan"
  | .boundToAnotherWorkOrder => "generation session is already bound to another work order"
  | .outputSpecRequired => "output spec id and positive version are required"
  | .planIdWithoutVersion => "document plan id and version must be provided together"
  | .boundToAnotherPlan => "generation session is already bound to another plan"
  | .draftNeedsOutputSpec => "output spec drafts require output_spec_v1"
  | .versionMismatch expected current =>
    "expected output spec version " ++ toString expected ++ ", current version is " ++
      toString current
  | .versionMustAdvance => "output spec draft version must advance"
  | .duplicateKey | .invalidSession | .invalidBrief | .legacyWritesClosed => ""

/-- `_optional`: `str(value or "").strip() or None`. -/
def optional (value : Option String) : Option String :=
  (value.map strip).filter (· != "")

/-! ### Briefs -/

inductive MissingDataPolicy
  | markTbd
  | keepBlank
  | blockGeneration
deriving Repr, DecidableEq

inductive InferencePolicy
  | forbid
  | allowLabeled
  | allowLimited
deriving Repr, DecidableEq

/-- `ClarificationAnswer`. -/
structure Answer where
  questionId : String
  rawAnswer : String
  normalizedAnswer : Option String
  clientRequestId : Option String
  answeredAt : Nat
deriving Repr, DecidableEq

/-- `GenerationBrief`. -/
structure Brief where
  purpose : String
  scope : String
  sourcePolicy : String
  outputPolicy : String
  missingDataPolicy : Option MissingDataPolicy
  inferencePolicy : Option InferencePolicy
  clarificationAnswers : List Answer
  unresolvedRequirements : String
  resolvedFields : String
  allowedDerivations : List String
  confirmed : Bool
  confidence : Rat
  updatedAt : Nat
deriving Repr, DecidableEq, Inhabited

/-- The `updates` of `update_brief`, as the model parses them; `malformed` when some value does not
parse. -/
structure BriefUpdates where
  purpose : Option String
  scope : Option String
  sourcePolicy : Option String
  outputPolicy : Option String
  missingDataPolicy : Option (Option MissingDataPolicy)
  inferencePolicy : Option (Option InferencePolicy)
  clarificationAnswers : Option (List Answer)
  unresolvedRequirements : Option String
  resolvedFields : Option String
  allowedDerivations : Option (List String)
  confirmed : Option Bool
  confidence : Option Rat
  malformed : Bool
deriving Repr, DecidableEq

/-- `brief_payload.update(updates)` and `GenerationBrief.model_validate`. -/
def Brief.update (brief : Brief) (updates : BriefUpdates) (now : Nat) : Except Failure Brief :=
  let merged : Brief :=
    { purpose := updates.purpose.getD brief.purpose
      scope := updates.scope.getD brief.scope
      sourcePolicy := updates.sourcePolicy.getD brief.sourcePolicy
      outputPolicy := updates.outputPolicy.getD brief.outputPolicy
      missingDataPolicy := updates.missingDataPolicy.getD brief.missingDataPolicy
      inferencePolicy := updates.inferencePolicy.getD brief.inferencePolicy
      clarificationAnswers := updates.clarificationAnswers.getD brief.clarificationAnswers
      unresolvedRequirements := updates.unresolvedRequirements.getD brief.unresolvedRequirements
      resolvedFields := updates.resolvedFields.getD brief.resolvedFields
      allowedDerivations := updates.allowedDerivations.getD brief.allowedDerivations
      confirmed := updates.confirmed.getD brief.confirmed
      confidence := updates.confidence.getD brief.confidence
      updatedAt := now }
  if updates.malformed || !decide merged.allowedDerivations.Nodup ||
      !decide (0 ≤ merged.confidence ∧ merged.confidence ≤ 1) then
    .error .invalidBrief
  else .ok merged

/-! ### Messages -/

inductive Role
  | assistant
  | user
  | system
deriving Repr, DecidableEq

/-- `ClarificationMessage`. -/
structure Message where
  messageId : String
  role : Role
  content : String
  questionId : Option String
  options : List String
  answer : Option String
  reason : Option String
  clientRequestId : Option String
  createdAt : Nat
deriving Repr, DecidableEq

/-- `document_generation_messages`: the message, its session and the request key column. -/
structure MessageRow where
  sessionId : String
  clientRequestId : Option String
  message : Message
deriving Repr, DecidableEq

/-! ### Sessions -/

inductive ContractVersion
  | legacyBriefV1
  | outputSpecV1
deriving Repr, DecidableEq

/-- The status of a session. `unknown` is a text outside the literal type, which
`update_output_spec_draft` stores unchecked. -/
inductive Status
  | needsClarification
  | readyToGenerate
  | generating
  | completed
  | cancelled
  | awaitingPlan
  | awaitingPlanConfirmation
  | planned
  | blocked
  | unknown (text : String)
deriving Repr, DecidableEq

namespace Status

def text : Status → String
  | .needsClarification => "needs_clarification"
  | .readyToGenerate => "ready_to_generate"
  | .generating => "generating"
  | .completed => "completed"
  | .cancelled => "cancelled"
  | .awaitingPlan => "awaiting_plan"
  | .awaitingPlanConfirmation => "awaiting_plan_confirmation"
  | .planned => "planned"
  | .blocked => "blocked"
  | .unknown text => text

/-- The statuses of the literal type. -/
def known : List Status :=
  [.needsClarification, .readyToGenerate, .generating, .completed, .cancelled, .awaitingPlan,
    .awaitingPlanConfirmation, .planned, .blocked]

/-- Membership in the set of allowed statuses. -/
def ofText (text : String) : Option Status :=
  known.find? fun status => status.text == text

/-- The status that a text stands for, checked or not. -/
def ofTextUnchecked (text : String) : Status :=
  (ofText text).getD (.unknown text)

/-- The planning lifecycle, which legacy sessions do not have. -/
def isPlanning : Status → Bool
  | .awaitingPlan | .awaitingPlanConfirmation | .planned | .blocked => true
  | _ => false

end Status

/-- `GenerationSession` without its messages. -/
structure Session where
  sessionId : String
  tenantId : String
  userId : String
  knowledgeBaseName : String
  templateVersionId : Option String
  contractVersion : ContractVersion
  status : Status
  brief : Brief
  conversationId : Option String
  initiatingTurnId : Option String
  documentTaskId : Option String
  workOrderId : Option String
  outputSpecId : Option String
  outputSpecVersion : Option Int
  outputSpecDraft : Option String
  documentPlanId : Option String
  documentPlanVersion : Option Int
  lastQuestionId : Option String
  clarificationRevision : Nat
  createdAt : Nat
  updatedAt : Nat
deriving Repr, DecidableEq

/-- `GenerationSession.model_validate`: the literal status, the version bounds and
`validate_contract`. -/
def Session.isReadable (session : Session) : Bool :=
  Status.known.contains session.status &&
    session.outputSpecVersion.all (fun version => 1 ≤ version) &&
    session.documentPlanVersion.all (fun version => 1 ≤ version) &&
    !(session.contractVersion == .legacyBriefV1 && (optional session.templateVersionId).isNone) &&
    !(session.contractVersion == .legacyBriefV1 && session.status.isPlanning) &&
    session.outputSpecId.isNone == session.outputSpecVersion.isNone &&
    session.documentPlanId.isNone == session.documentPlanVersion.isNone &&
    !(session.outputSpecDraft.isSome && session.outputSpecId.isNone)

/-- The two tables. -/
structure Store where
  sessions : List Session
  messages : List MessageRow
deriving Repr, DecidableEq, Inhabited

/-- The row of a session. -/
def Store.row (store : Store) (sessionId : String) : Option Session :=
  store.sessions.find? fun session => session.sessionId == sessionId

/-- `get_session` without tenant and user, less the messages. -/
def Store.getSession (store : Store) (sessionId : String) : Except Failure Session :=
  match store.row sessionId with
  | none => .error .sessionNotFound
  | some session => if session.isReadable then .ok session else .error .invalidSession

/-- The messages of a session, `ORDER BY created_at, message_id`. -/
def Store.sessionMessages (store : Store) (sessionId : String) : List Message :=
  ((store.messages.filter fun row => row.sessionId == sessionId).map MessageRow.message).insertionSort
    fun left right => pairLe (left.createdAt, left.messageId) (right.createdAt, right.messageId) = true

/-- The `INSERT` of a message with its two unique indexes. -/
def insertMessage (messages : List MessageRow) (row : MessageRow) : Except Failure (List MessageRow) :=
  if messages.any fun other =>
      other.message.messageId == row.message.messageId ||
        (row.clientRequestId.any (· != "") && other.sessionId == row.sessionId &&
          other.clientRequestId == row.clientRequestId) then
    .error .duplicateKey
  else .ok (messages ++ [row])

/-- `_update_session_row`. -/
def updateSessionRow (sessions : List Session) (session : Session) : Except Failure (List Session) :=
  if sessions.any fun row => row.sessionId == session.sessionId then
    .ok (updateWhere (fun row => row.sessionId == session.sessionId) (fun _ => session) sessions)
  else .error .sessionNotFound

end HardwareDatabase.GenerationSessions
