/-
Module: HardwareDatabase.Conversation.Rows
Purpose: The rows of the conversation store (`src/src/core/conversation.py`). Session and message ids are never
  reused; instants are microseconds; `NULL` and the empty `active_turn_id` are `none`. Columns that no modelled
  statement reads are left out.
Trusted boundary: none
-/
import HardwareDatabase.Memory.Rows
import HardwareDatabase.ResultExports.Enqueue
import HardwareDatabase.Relational.Table

namespace HardwareDatabase.Conversation

open Memory (Time)
open ResultExports (ExportPlan ExportFormat ExportTables ExportError)

/-- The sentinel `kb_name` of general chat. -/
def generalChatKbName : String := "__general__"

/-- The title of a session that has none yet. -/
def untitled : String := "新对话"

/-- `chat_sessions`. -/
structure Session where
  id : Nat
  userId : Nat
  kbName : String
  departmentId : Option Nat
  kbId : Option Nat
  title : String
  /-- the next sequence value to hand to a new turn -/
  nextTurnSequence : Nat
  autoMemory : Bool
deriving Repr, DecidableEq, Inhabited

inductive Role
  | user
  | assistant
  | system
deriving Repr, DecidableEq, Inhabited

/-- `chat_messages`. -/
structure Message where
  id : Nat
  sessionId : Nat
  role : Role
  content : String
  editedAt : Option Time
deriving Repr, DecidableEq, Inhabited

/-- The statuses of a turn. -/
inductive TurnStatus
  | pending
  | streaming
  | cancelling
  | waitingForAttachments
  | completed
  | failed
  | cancelled
deriving Repr, DecidableEq, Inhabited

namespace TurnStatus

/-- `TURN_STATUSES_NON_TERMINAL`. -/
def isNonTerminal : TurnStatus → Bool
  | .pending | .streaming | .cancelling | .waitingForAttachments => true
  | _ => false

/-- `status IN ('streaming', 'cancelling')`: a worker has the turn. -/
def isRunning : TurnStatus → Bool
  | .streaming | .cancelling => true
  | _ => false

/-- `status IN ('completed', 'cancelled')`: the statuses that a completion does not overwrite. -/
def isSettled : TurnStatus → Bool
  | .completed | .cancelled => true
  | _ => false

/-- The status column's text. -/
def text : TurnStatus → String
  | .pending => "pending"
  | .streaming => "streaming"
  | .cancelling => "cancelling"
  | .waitingForAttachments => "waiting_for_attachments"
  | .completed => "completed"
  | .failed => "failed"
  | .cancelled => "cancelled"

theorem isNonTerminal_of_isRunning {status : TurnStatus} (running : status.isRunning = true) :
    status.isNonTerminal = true := by
  cases status <;> first | rfl | simp [isRunning] at running

end TurnStatus

/-- `chat_turns`. The summary is the JSON text that is stored. -/
structure Turn where
  id : Nat
  sessionId : Nat
  userMessageId : Nat
  assistantMessageId : Nat
  kbName : String
  departmentId : Option Nat
  kbId : Option Nat
  query : String
  queryMode : String
  status : TurnStatus
  clientRequestId : Option String
  /-- `NULL` in rows that were written before the column existed -/
  turnSequence : Option Nat
  cancelRequested : Bool
  lastEventSeq : Nat
  answer : String
  summary : String
  footer : String
  exportPlan : Option ExportPlan
  errorMessage : String
  workerId : String
  workerHeartbeatAt : Option Time
  retryCount : Nat
  createdAt : Time
  startedAt : Option Time
  finishedAt : Option Time
deriving Repr, DecidableEq, Inhabited

/-- A value of an event payload; nested objects are kept as their JSON text. -/
inductive PayloadValue
  | text (value : String)
  | flag (value : Bool)
  | number (value : Nat)
  | json (value : String)
deriving Repr, DecidableEq

abbrev Payload := List (String × PayloadValue)

/-- `chat_turn_events`. -/
structure TurnEvent where
  turnId : Nat
  seq : Nat
  eventType : String
  payload : Payload
  createdAt : Time
deriving Repr, DecidableEq

/-- `conversation_execution_state`: the lease, the fencing token, the generation and the checkpoint
pointers of a session. -/
structure ExecutionState where
  sessionId : Nat
  activeTurnId : Option Nat
  leaseOwner : String
  leaseExpiresAt : Option Time
  fencingToken : Nat
  generation : Nat
  recoverableCheckpointRef : String
  committedCheckpointRef : String
deriving Repr, DecidableEq, Inhabited

namespace ExecutionState

/-- The row that `INSERT .. (session_id, updated_at)` creates. -/
def fresh (sessionId : Nat) : ExecutionState :=
  { sessionId, activeTurnId := none, leaseOwner := "", leaseExpiresAt := none, fencingToken := 0,
    generation := 0, recoverableCheckpointRef := "", committedCheckpointRef := "" }

/-- `active_turn_id = '', lease_owner = '', lease_expires_at = NULL`. -/
def dropLease (state : ExecutionState) : ExecutionState :=
  { state with activeTurnId := none, leaseOwner := "", leaseExpiresAt := none }

end ExecutionState

/-- A claim that a worker was given: what it passes with its later writes. -/
structure Grant where
  sessionId : Nat
  turnId : Nat
  workerId : String
  fencingToken : Nat
  generation : Nat
deriving Repr, DecidableEq

/-- What the store has handed out so far, newest first. No operation reads it. -/
structure History where
  /-- the successful claims -/
  grants : List Grant
  /-- the turn sequence numbers, with their session -/
  allotted : List (Nat × Nat)
  /-- the turns that received events in the transaction that finished them -/
  finalized : List Nat
deriving Repr, DecidableEq

/-- The conversation database. -/
structure Store where
  sessions : List Session
  messages : List Message
  turns : List Turn
  events : List TurnEvent
  executionStates : List ExecutionState
  exports : ExportTables
  memory : Memory.Tables
  nextSessionId : Nat
  nextMessageId : Nat
  nextTurnId : Nat
  history : History
deriving Repr, DecidableEq

/-- The tables after `_init_db` on an empty database. -/
def Store.empty : Store :=
  { sessions := [], messages := [], turns := [], events := [], executionStates := [],
    exports := ExportTables.empty, memory := Memory.Tables.empty, nextSessionId := 1,
    nextMessageId := 1, nextTurnId := 1, history := { grants := [], allotted := [], finalized := [] } }

/-- Why a `StaleTurnOwner` is raised: `turn {turn_id} is owned by a newer attempt`, or a generation
that has moved on. -/
inductive StaleReason
  | newerAttempt (turnId : Nat)
  | revoked (message : String)
deriving Repr, DecidableEq

/-- What the operations raise. -/
inductive Failure
  | valueError (message : String)
  | permissionError (message : String)
  | keyError (message : String)
  | staleTurnOwner (reason : StaleReason)
  | exportFailed (error : ExportError)
deriving Repr, DecidableEq

/-- The settings, and the functions of other components that the store calls. -/
structure Environment where
  /-- `CONVERSATION_SERIALIZE_SAME_THREAD` -/
  serializeSameThread : Bool
  chatTurnLeaseSeconds : Nat
  chatTurnLeaseRenewSeconds : Nat
  chatTurnHeartbeatTtlSeconds : Nat
  waitingTurnMaxSeconds : Nat
  chatQueueDeadlineSeconds : Nat
  memoryEnabled : Bool
  memoryExtractionEnabled : Bool
  memoryDebounceSeconds : Nat
  /-- the text of a turn id -/
  uuid : Nat → String
  /-- the department of a user -/
  ownerDepartment : Nat → Option Nat
  contentHash : Memory.Content → String
  sha256 : String → String
  exportFormatEnabled : ExportFormat → Bool
  inferExportIntent : String → Option ExportPlan
  normalizeExportAnswer : String → Option ExportPlan → String
  envelopeFromTurn : Turn → String

/-! ### Instants -/

/-- `datetime(..)` of SQLite drops the fraction of a second. -/
def datetime (instant : Time) : Nat :=
  instant / 1000000

/-- `datetime(column) < datetime('now', '-N seconds')`: `NULL` never compares. -/
def olderThan (seconds : Nat) (dbNow : Time) (column : Option Time) : Bool :=
  column.any fun instant => decide (datetime instant + seconds < datetime dbNow)

/-- `_iso_after`. -/
def isoAfter (instant : Time) (seconds : Nat) : Time :=
  instant + seconds * 1000000

/-- `_lease_active`. -/
def leaseActive (expiresAt : Option Time) (now : Time) : Bool :=
  expiresAt.any fun expires => decide (now < expires)

/-! ### Statements -/

namespace Store

open Relational

/-- `SELECT * FROM chat_sessions WHERE id = ? AND user_id = ?`. -/
def getSession (store : Store) (userId sessionId : Nat) : Option Session :=
  store.sessions.find? fun session => session.id == sessionId && session.userId == userId

/-- `SELECT * FROM chat_turns WHERE id = ?`. -/
def turnById (store : Store) (turnId : Nat) : Option Turn :=
  store.turns.find? fun turn => turn.id == turnId

/-- The session of the row exists and belongs to the user. -/
def owns (store : Store) (userId : Nat) (turn : Turn) : Bool :=
  store.sessions.any fun session => session.id == turn.sessionId && session.userId == userId

/-- `get_turn`: the turn joined with its session. -/
def getTurn (store : Store) (userId turnId : Nat) : Option Turn :=
  store.turns.find? fun turn => turn.id == turnId && store.owns userId turn

/-- `UPDATE chat_turns SET .. WHERE id = ? AND p`. -/
def updateTurn (store : Store) (turnId : Nat) (p : Turn → Bool) (f : Turn → Turn) : Store :=
  { store with turns := updateWhere (fun turn => turn.id == turnId && p turn) f store.turns }

/-- `UPDATE chat_messages SET content = ? WHERE id = ?`. -/
def setContent (store : Store) (messageId : Nat) (content : String) : Store :=
  { store with
    messages := updateWhere (fun message => message.id == messageId)
      (fun message => { message with content }) store.messages }

/-- `UPDATE chat_messages SET content = ? WHERE id = ? AND content = ''`. -/
def fillBlank (store : Store) (messageId : Nat) (content : String) : Store :=
  { store with
    messages := updateWhere (fun message => message.id == messageId && message.content == "")
      (fun message => { message with content }) store.messages }

/-- The same with `(SELECT assistant_message_id FROM chat_turns WHERE id = ?)` for the message. -/
def fillBlankOf (store : Store) (turnId : Nat) (content : String) : Store :=
  match store.turnById turnId with
  | none => store
  | some turn => store.fillBlank turn.assistantMessageId content

/-- `SELECT COALESCE(MAX(turn_sequence), 0) FROM chat_turns WHERE session_id = ?`. -/
def maxTurnSequence (store : Store) (sessionId : Nat) : Nat :=
  coalesceMax Turn.turnSequence (store.turns.filter fun turn => turn.sessionId == sessionId)

/-- `SELECT * FROM conversation_execution_state WHERE session_id = ?`. -/
def executionState (store : Store) (sessionId : Nat) : Option ExecutionState :=
  store.executionStates.find? fun state => state.sessionId == sessionId

/-- `UPDATE conversation_execution_state SET .. WHERE p`. -/
def updateState (store : Store) (p : ExecutionState → Bool) (f : ExecutionState → ExecutionState) : Store :=
  { store with executionStates := updateWhere p f store.executionStates }

/-- `_ensure_execution_state`: a deleted session is not given a state again. -/
def ensureExecutionState (store : Store) (sessionId : Nat) : Store × Option ExecutionState :=
  match store.executionState sessionId with
  | some state => (store, some state)
  | none =>
    if store.sessions.any fun session => session.id == sessionId then
      ({ store with
         executionStates := store.executionStates ++ [ExecutionState.fresh sessionId] },
        some (ExecutionState.fresh sessionId))
    else (store, none)

/-- `_bump_session_generation`. -/
def bumpSessionGeneration (store : Store) (sessionId : Nat) : Store :=
  match store.ensureExecutionState sessionId with
  | (store, none) => store
  | (store, some _) =>
    store.updateState (fun state => state.sessionId == sessionId)
      fun state => { state with generation := state.generation + 1 }

/-- `_reset_execution_state`. -/
def resetExecutionState (store : Store) (sessionId : Nat) : Store :=
  match store.ensureExecutionState sessionId with
  | (store, none) => store
  | (store, some _) =>
    store.updateState (fun state => state.sessionId == sessionId)
      fun state =>
        { state.dropLease with
          generation := state.generation + 1
          recoverableCheckpointRef := ""
          committedCheckpointRef := "" }

/-- `UPDATE conversation_execution_state SET active_turn_id = '', .. WHERE session_id = ? AND
active_turn_id = ?`. -/
def releaseLease (store : Store) (sessionId turnId : Nat) : Store :=
  store.updateState
    (fun state => state.sessionId == sessionId && state.activeTurnId == some turnId)
    ExecutionState.dropLease

/-- `_append_turn_event_in_connection`. -/
def appendEvent (store : Store) (turnId : Nat) (eventType : String) (payload : Payload) (now : Time) :
    Except Failure Store :=
  match store.turnById turnId with
  | none => .error (.keyError "turn not found")
  | some turn =>
    let seq := turn.lastEventSeq + 1
    let event : TurnEvent := { turnId, seq, eventType, payload, createdAt := now }
    .ok ({ store with events := store.events ++ [event] }.updateTurn turnId (fun _ => true)
      fun turn => { turn with lastEventSeq := seq })

/-- The loop over the events that a transaction writes with a terminal status. -/
def appendTerminalEvents (store : Store) (turnId : Nat) (events : List (String × Payload))
    (now : Time) : Except Failure Store :=
  let finalized :=
    if events.isEmpty then store.history.finalized else turnId :: store.history.finalized
  events.foldlM (fun store event => store.appendEvent turnId event.1 event.2 now)
    { store with history := { store.history with finalized } }

/-- `_verify_turn_owner`. -/
def verifyTurnOwner (store : Store) (turnId : Nat) (workerId : String) (fencingToken : Nat) : Bool :=
  match store.turnById turnId with
  | none => false
  | some turn =>
    match store.executionState turn.sessionId with
    | none => false
    | some state =>
      state.activeTurnId == some turnId && state.leaseOwner == workerId &&
        state.fencingToken == fencingToken

/-- The fence of a write that may carry a token: only a token that is passed is checked. -/
def admits (store : Store) (turnId : Nat) (workerId : String) (fencingToken : Option Nat) : Bool :=
  fencingToken.all fun token => store.verifyTurnOwner turnId workerId token

end Store

end HardwareDatabase.Conversation
