/-
Module: HardwareDatabase.Conversation.Sessions
Purpose: The operations of `ConversationService` on sessions and messages, with the cascades of their deletion:
  construction with its backfills, creation, clearing, deletion, edits and the allocation of turn sequence numbers.
Trusted boundary: none
-/
import HardwareDatabase.Conversation.Rows
import HardwareDatabase.Memory.Invalidation
import Mathlib.Data.List.Sort

namespace HardwareDatabase.Conversation

open Memory (Time)
open Relational

/-! ### Turn requests -/

/-- What `create_turn` takes. `blocked` and `parseStatuses` are what the attachment service answered
for the attachments of the request. -/
structure TurnRequest where
  userId : Nat
  sessionId : Nat
  query : String
  clientRequestId : String
  queryMode : String
  blocked : List String
  parseStatuses : List String
deriving Repr, DecidableEq

/-- The idempotency key: absent when the text is blank. -/
def TurnRequest.key (request : TurnRequest) : Option String :=
  let text := Python.clip 128 (Python.strip request.clientRequestId)
  if text = "" then none else some text

/-- A turn waits while a required attachment is still parsing. -/
def TurnRequest.initialStatus (request : TurnRequest) : TurnStatus :=
  if request.parseStatuses.any fun status => status == "queued" || status == "running" then
    .waitingForAttachments
  else .pending

variable (env : Environment)

/-- The row that `create_turn` inserts. -/
def TurnRequest.row (request : TurnRequest) (session : Session) (turnId messageId sequence : Nat) (now : Time) : Turn :=
  let query := Python.strip request.query
  { id := turnId, sessionId := session.id, userMessageId := messageId,
    assistantMessageId := messageId + 1, kbName := session.kbName,
    departmentId := session.departmentId, kbId := session.kbId, query,
    queryMode := if request.queryMode = "deep" then "deep" else "fast",
    status := request.initialStatus, clientRequestId := request.key, turnSequence := some sequence,
    cancelRequested := false, lastEventSeq := 0, answer := "", summary := "{}", footer := "",
    exportPlan := env.inferExportIntent query, errorMessage := "", workerId := "",
    workerHeartbeatAt := none, retryCount := 0, createdAt := now, startedAt := none,
    finishedAt := none }

namespace Store

/-! ### Construction -/

/-- `MAX(turn_sequence) + 1`, which the counter of a session is reconciled to. -/
def reconciledSequence (store : Store) (session : Session) : Nat :=
  store.maxTurnSequence session.id + 1

/-- The rows that `_backfill_turn_sequences` numbers, `ORDER BY session_id, user_message_id, rowid`. -/
def unnumberedTurns (store : Store) : List Turn :=
  let before (left right : Turn) : Bool :=
    decide (left.sessionId < right.sessionId) ||
      (left.sessionId == right.sessionId && decide (left.userMessageId ≤ right.userMessageId))
  (store.turns.filter fun turn => turn.turnSequence.isNone).insertionSort (before · ·)

/-- One row of the numbering loop, with the counters of the sessions. -/
def numberTurn (progress : Store × (Nat → Nat)) (row : Turn) : Store × (Nat → Nat) :=
  let counter := progress.2 row.sessionId + 1
  (progress.1.updateTurn row.id (fun _ => true) fun turn => { turn with turnSequence := some counter },
    fun sessionId => if sessionId = row.sessionId then counter else progress.2 sessionId)

/-- `_backfill_turn_sequences`. -/
def backfillTurnSequences (store : Store) : Store :=
  let store := (store.unnumberedTurns.foldl numberTurn (store, store.maxTurnSequence)).1
  { store with
    sessions := updateWhere
      (fun session => decide (session.nextTurnSequence ≠ store.reconciledSequence session))
      (fun session => { session with nextTurnSequence := store.reconciledSequence session })
      store.sessions }

/-- The department backfill of `_init_db`. -/
def backfillDepartments (store : Store) : Store :=
  let sessions := updateWhere (fun session => session.departmentId.isNone)
    (fun session => { session with departmentId := env.ownerDepartment session.userId })
    store.sessions
  let sessionOf (turn : Turn) : Option Session :=
    sessions.find? fun session => session.id == turn.sessionId
  { store with
    sessions
    turns := updateWhere (fun turn => turn.departmentId.isNone)
      (fun turn =>
        { turn with
          departmentId := (sessionOf turn).bind Session.departmentId
          kbId := (sessionOf turn).bind Session.kbId })
      store.turns }

/-- `ConversationService.__init__`: a process initialises a database path once. -/
def construct (store : Store) (initialized : Bool) : Store :=
  if initialized then store else store.backfillTurnSequences.backfillDepartments env

/-! ### Sessions and messages -/

def createSession (store : Store) (userId : Nat) (kbName title : String) (departmentId kbId : Option Nat) : Store :=
  let session : Session :=
    { id := store.nextSessionId, userId, kbName,
      departmentId := departmentId <|> env.ownerDepartment userId, kbId, title,
      nextTurnSequence := 1, autoMemory := true }
  { store with
    sessions := store.sessions ++ [session], nextSessionId := store.nextSessionId + 1 }

/-- The title that the first user message gives a session. -/
def titleFrom (text : String) : String :=
  let title := Python.clip 32 (String.ofList (text.toList.map fun c => if c = '\n' then ' ' else c))
  if title = "" then untitled else title

/-- `add_message`. -/
def addMessage (store : Store) (userId sessionId : Nat) (role : Role) (content : String) :
    Except Failure Store := do
  match store.getSession userId sessionId with
  | none => throw (.permissionError "chat session does not belong to current user")
  | some _ =>
    let message : Message := { id := store.nextMessageId, sessionId, role, content, editedAt := none }
    let store :=
      { store with
        messages := store.messages ++ [message], nextMessageId := store.nextMessageId + 1 }
    if role = .user then
      return { store with
        sessions := updateWhere
          (fun session => session.id == sessionId && session.userId == userId &&
            session.title == untitled)
          (fun session => { session with title := titleFrom (Python.strip content) })
          store.sessions }
    else
      return store

/-- The turns that go with the messages of a session. -/
def cascadesWith (store : Store) (sessionId : Nat) (turn : Turn) : Bool :=
  store.messages.any fun message =>
    message.sessionId == sessionId &&
      (message.id == turn.userMessageId || message.id == turn.assistantMessageId)

/-- `DELETE FROM chat_messages WHERE session_id = ?` with its cascade. -/
def deleteMessages (store : Store) (sessionId : Nat) : Store :=
  { store with
    messages := deleteWhere (fun message => message.sessionId == sessionId) store.messages
    turns := deleteWhere (store.cascadesWith sessionId) store.turns
    events := deleteWhere
      (fun event => store.turns.any fun turn =>
        turn.id == event.turnId && store.cascadesWith sessionId turn)
      store.events }

/-- `clear_session`. -/
def clearSession (store : Store) (userId sessionId : Nat) (now : Time) : Store :=
  match store.getSession userId sessionId with
  | none => store
  | some _ =>
    let store :=
      { store with
        memory := Memory.invalidateSessionMemory env.contentHash store.memory sessionId
          "session_cleared" now }
    let store := store.deleteMessages sessionId
    let store :=
      { store with
        sessions := updateWhere
          (fun session => session.id == sessionId && session.userId == userId)
          (fun session => { session with title := untitled }) store.sessions }
    store.resetExecutionState sessionId

/-- `DELETE FROM chat_sessions WHERE id = ?` with its cascade. -/
def dropSession (store : Store) (sessionId : Nat) : Store :=
  let cascades (turn : Turn) : Bool :=
    turn.sessionId == sessionId || store.cascadesWith sessionId turn
  { store with
    sessions := deleteWhere (fun session => session.id == sessionId) store.sessions
    messages := deleteWhere (fun message => message.sessionId == sessionId) store.messages
    turns := deleteWhere cascades store.turns
    events := deleteWhere
      (fun event => store.turns.any fun turn => turn.id == event.turnId && cascades turn) store.events
    executionStates := deleteWhere (fun state => state.sessionId == sessionId) store.executionStates
    memory := Memory.dropSessionJobs store.memory sessionId }

/-- `delete_session`, once the attachment cleanup task is reserved. -/
def deleteSession (store : Store) (userId sessionId : Nat) (now : Time) : Store :=
  match store.getSession userId sessionId with
  | none => store
  | some _ =>
    let store :=
      { store with
        memory := Memory.invalidateSessionMemory env.contentHash store.memory sessionId
          "session_deleted" now }
    store.dropSession sessionId

/-! ### Reflection requests -/

/-- `MEMORY_ENABLED` and `MEMORY_EXTRACTION_ENABLED`, the instant that the debounce gives, and the
enqueue in the caller's transaction. Incomplete scopes are left alone. -/
def enqueueReflection (store : Store) (sessionId : Nat)
    (departmentId kbId : Option Nat) (target : Turn) (force : Bool) (now : Time) : Store :=
  if env.memoryEnabled && env.memoryExtractionEnabled then
    match departmentId, kbId with
    | some departmentId, some kbId =>
      let request : Memory.ReflectionRequest :=
        { sessionId, departmentId := toString departmentId, kbId := toString kbId,
          targetTurnId := env.uuid target.id, targetMessageId := target.assistantMessageId,
          availableAt := isoAfter (datetime now * 1000000) env.memoryDebounceSeconds,
          sourceStartTurnId := none, sourceStartMessageId := none, force }
      { store with
        memory := (Memory.enqueueProjectReflectionInConnection store.memory request now).1 }
    | _, _ => store
  else store

/-- `ORDER BY finished_at DESC, created_at DESC`, with `NULL` last. -/
def finishedLater (left right : Turn) : Bool :=
  let key (turn : Turn) : Nat := (turn.finishedAt.map (· + 1)).getD 0
  decide (key right < key left) || (key left == key right && decide (right.createdAt < left.createdAt))

/-- `_enqueue_project_reflection_guarded`. -/
def enqueueProjectReflectionGuarded (store : Store) (session : Session) (now : Time) : Store :=
  match firstBy finishedLater
      (store.turns.filter fun turn => turn.sessionId == session.id && turn.status == .completed) with
  | none => store
  | some turn =>
    store.enqueueReflection env session.id session.departmentId session.kbId turn true now

/-- `edit_message`. Redaction passes no content. -/
def editMessage (store : Store) (userId sessionId messageId : Nat)
    (content : Option String) (reason : String) (now : Time) : Except Failure Store := do
  if content.any fun text => Python.strip text == "" then
    throw (.valueError "edit_message requires new content or redact=True")
  match store.getSession userId sessionId with
  | none => throw (.permissionError "chat session does not belong to current user")
  | some session =>
    if store.messages.any fun message =>
        message.id == messageId && message.sessionId == session.id then
      let reason :=
        if reason ≠ "" then reason
        else if content.isNone then "message_redacted" else "message_edited"
      let store :=
        { store with
          memory := Memory.invalidateMessageMemory env.contentHash store.memory session.id messageId
            reason now }
      let store :=
        { store with
          messages := updateWhere (fun message => message.id == messageId)
            (fun message =>
              { message with content := content.getD "[已脱敏]", editedAt := some now })
            store.messages }
      if session.autoMemory then
        return store.enqueueProjectReflectionGuarded env session now
      else
        return store
    else
      throw (.keyError "message not found")

/-- `set_session_auto_extract`. -/
def setSessionAutoExtract (store : Store) (userId sessionId : Nat) (enabled : Bool) : Except Failure Store :=
  match store.getSession userId sessionId with
  | none => throw (.permissionError "chat session does not belong to current user")
  | some session =>
    let store :=
      { store with
        sessions := updateWhere (fun row => row.id == session.id)
          (fun row => { row with autoMemory := enabled }) store.sessions }
    if enabled then
      return store
    else
      return { store with
        memory := Memory.cancelJobsWhere store.memory
          (fun job => job.sessionId == session.id && job.kind == .projectReflection)
          "session_auto_extract_disabled" }

/-! ### Turn sequence numbers -/

/-- The number that a session hands out next: its counter, but never one that a surviving row uses. -/
def sequenceToAllot (store : Store) (session : Session) : Nat :=
  max (if 0 < session.nextTurnSequence then session.nextTurnSequence else 1)
    (store.maxTurnSequence session.id + 1)

/-- Hand out a number: the counter of the session moves past it. -/
def allot (store : Store) (sessionId sequence : Nat) (f : Session → Session) : Store :=
  { store with
    sessions := updateWhere (fun session => session.id == sessionId)
      (fun session => { f session with nextTurnSequence := sequence + 1 }) store.sessions
    history :=
      { store.history with allotted := (sessionId, sequence) :: store.history.allotted } }

/-- `allocate_turn_sequence`. -/
def allocateTurnSequence (store : Store) (sessionId : Nat) : Except Failure (Store × Nat) :=
  match store.sessions.find? fun session => session.id == sessionId with
  | none => throw (.keyError "session not found")
  | some session =>
    let allocated := store.sequenceToAllot session
    return (store.allot sessionId allocated id, allocated)

/-- The statements of `create_turn` for a request that was not seen before: the user message, its
blank assistant message, the counter and the turn. -/
def insertTurn (store : Store) (request : TurnRequest) (session : Session) (now : Time) : Store :=
  let sequence := store.sequenceToAllot session
  let query := Python.strip request.query
  let messageId := store.nextMessageId
  let turn := request.row env session store.nextTurnId messageId sequence now
  let store := store.allot session.id sequence fun row =>
    { row with title := if row.title = untitled then titleFrom query else row.title }
  { store with
    messages := store.messages ++
      [{ id := messageId, sessionId := session.id, role := .user, content := query, editedAt := none },
        { id := messageId + 1, sessionId := session.id, role := .assistant, content := "",
          editedAt := none }]
    turns := store.turns ++ [turn]
    nextMessageId := messageId + 2
    nextTurnId := store.nextTurnId + 1 }

/-- `create_turn`. A request that was seen before returns its turn. -/
def createTurn (store : Store) (request : TurnRequest) (now : Time) : Except Failure Store := do
  if Python.strip request.query = "" then
    throw (.valueError "query must not be empty")
  match store.getSession request.userId request.sessionId with
  | none => throw (.permissionError "chat session does not belong to current user")
  | some session =>
    if request.blocked ≠ [] then
      throw (.valueError
        ("attachment_unavailable: " ++ ", ".intercalate (request.blocked.take 10)))
    if request.key.isSome && store.turns.any fun turn =>
        turn.sessionId == session.id && turn.clientRequestId == request.key then
      return store
    else
      return store.insertTurn env request session now

end Store

end HardwareDatabase.Conversation
