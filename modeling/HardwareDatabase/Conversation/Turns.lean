/-
Module: HardwareDatabase.Conversation.Turns
Purpose: The life of a turn in `ConversationService`. A function that raises returns an error and its transaction is
  rolled back; a sweep runs one transaction per row and stops at the row that raises.
Trusted boundary: none
-/
import HardwareDatabase.Conversation.Sessions

namespace HardwareDatabase.Conversation

open Memory (Time)
open Relational

/-- The text of a turn that was stopped. -/
def stoppedText : String := "已停止生成"

/-- `worker_id = '', worker_heartbeat_at = NULL`. -/
def Turn.leaveWorker (turn : Turn) : Turn :=
  { turn with workerId := "", workerHeartbeatAt := none }

/-- `status = 'pending', worker_id = '', worker_heartbeat_at = NULL`. -/
def Turn.requeue (turn : Turn) : Turn :=
  { turn.leaveWorker with status := .pending }

/-- `status = ?, error_message = ?, finished_at = ?`. -/
def Turn.conclude (status : TurnStatus) (errorMessage : String) (now : Time) (turn : Turn) : Turn :=
  { turn with status, errorMessage, finishedAt := some now }

/-- The `WHERE` clause of the stale sweeps. -/
def Turn.isStale (seconds : Nat) (dbNow : Time) (turn : Turn) : Bool :=
  turn.status.isRunning && olderThan seconds dbNow turn.workerHeartbeatAt

variable (env : Environment)

/-- `max(30, int(stale_after_seconds or CHAT_TURN_HEARTBEAT_TTL_SECONDS))`. -/
def staleSeconds (staleAfterSeconds : Nat) : Nat :=
  max 30 (if staleAfterSeconds = 0 then env.chatTurnHeartbeatTtlSeconds else staleAfterSeconds)

/-- The two destinations that `transition_waiting_turn` accepts. -/
inductive WaitOutcome
  | pending
  | failed
deriving Repr, DecidableEq

/-- The destination that a status text names. -/
def WaitOutcome.ofStatus (status : String) : Option WaitOutcome :=
  if status = "pending" then some .pending
  else if status = "failed" then some .failed
  else none

/-- The selection of `expire_waiting_turns`. -/
def Turn.waitedOut (seconds : Nat) (dbNow : Time) (turn : Turn) : Bool :=
  turn.status == .waitingForAttachments && olderThan seconds dbNow (some turn.createdAt)

/-- The selection of `expire_queued_turns`. -/
def Turn.queuedOut (seconds : Nat) (dbNow : Time) (turn : Turn) : Bool :=
  turn.status == .pending && !turn.cancelRequested && olderThan seconds dbNow (some turn.createdAt)

/-- A turn of the same session that is not finished and comes first: `NULL` never compares. -/
def Turn.isBehind (turn prior : Turn) : Bool :=
  prior.sessionId == turn.sessionId && prior.status.isNonTerminal &&
    prior.turnSequence.any fun sequence => decide (sequence < turn.turnSequence.getD 0)

/-- The outcome of `claim_turn_result`. -/
inductive ClaimResult
  | claimed (grant : Grant)
  | blocked (blockerTurnId : Nat)
  | stale
  | cancelled
  | retryExhausted
  | noop
deriving Repr, DecidableEq

/-- The row of a turn that a worker starts. -/
def Turn.start (workerId : String) (now : Time) (turn : Turn) : Turn :=
  { turn with
    status := .streaming
    startedAt := some now
    workerId
    workerHeartbeatAt := some now
    retryCount := turn.retryCount + 1 }

/-- The row of a pending turn that is found cancelled: `COALESCE(NULLIF(error_message, ''), ..)`. -/
def Turn.stop (now : Time) (turn : Turn) : Turn :=
  (turn.conclude .cancelled (if turn.errorMessage = "" then stoppedText else turn.errorMessage)
    now).leaveWorker

/-- The arguments of `complete_turn_result`. -/
structure Completion where
  userId : Nat
  turnId : Nat
  answer : String
  summary : String
  footer : String
  workerId : String
  fencingToken : Option Nat
  expectedGeneration : Option Nat
  committedCheckpointRef : Option String
  terminalEventsBuilder : Turn → List (String × Payload)

/-- The columns of a completion. -/
def Turn.complete (call : Completion) (answer : String) (now : Time) (turn : Turn) : Turn :=
  { turn with
    status := .completed
    answer
    summary := call.summary
    footer := call.footer
    finishedAt := some now }.leaveWorker

/-- The arguments of `fail_turn_result`. -/
structure Abandonment where
  userId : Nat
  turnId : Nat
  message : String
  cancelled : Bool
  workerId : String
  fencingToken : Option Nat
  terminalEventsBuilder : Turn → List (String × Payload)

/-- The status after a cancel request. -/
def TurnStatus.afterCancel : TurnStatus → TurnStatus
  | .pending | .waitingForAttachments => .cancelled
  | .streaming => .cancelling
  | status => status

/-- The columns of a cancel request. -/
def Turn.requestCancel (now : Time) (turn : Turn) : Turn :=
  let unstarted := turn.status == .pending || turn.status == .waitingForAttachments
  { turn with
    cancelRequested := true
    status := TurnStatus.afterCancel turn.status
    finishedAt := if unstarted then some now else turn.finishedAt
    errorMessage := if unstarted then stoppedText else turn.errorMessage }

namespace Store

/-! ### The attachment wait -/

/-- `transition_waiting_turn`. The message of a failed wait is written whether or not the turn was
still waiting. -/
def transitionWaitingTurn (store : Store) (turnId : Nat) (outcome : WaitOutcome)
    (errorMessage : String) (now : Time) : Store × Bool :=
  let updated := store.turns.any fun turn =>
    turn.id == turnId && turn.status == .waitingForAttachments
  match outcome with
  | .pending =>
    (store.updateTurn turnId (fun turn => turn.status == .waitingForAttachments)
      (fun turn => { turn with status := .pending, errorMessage := "" }), updated)
  | .failed =>
    let store := store.updateTurn turnId (fun turn => turn.status == .waitingForAttachments)
      (Turn.conclude .failed (Python.clip 1000 errorMessage) now)
    (store.fillBlankOf turnId ("附件解析失败：" ++ Python.clip 400 errorMessage), updated)

/-- `transition_waiting_turn` with the check of its `to_status`. -/
def transitionWaitingTurnTo (store : Store) (turnId : Nat) (toStatus errorMessage : String)
    (now : Time) : Except Failure (Store × Bool) :=
  match WaitOutcome.ofStatus toStatus with
  | none => throw (.valueError "waiting turns can only transition to pending or failed")
  | some outcome => return store.transitionWaitingTurn turnId outcome errorMessage now

/-- `ORDER BY created_at, id LIMIT ?` of both queue sweeps. -/
def oldestFirst (limit : Nat) (turns : List Turn) : List Nat :=
  let before (left right : Turn) : Bool :=
    decide (left.createdAt < right.createdAt) ||
      (left.createdAt == right.createdAt && decide (env.uuid left.id ≤ env.uuid right.id))
  ((turns.insertionSort (before · ·)).take (max 1 (min limit 500))).map Turn.id

/-- One row of `expire_waiting_turns`. An error of the event is swallowed. -/
def expireWaitingTurn (store : Store) (maxWaitSeconds : Nat) (now : Time) (turnId : Nat) : Store :=
  match store.transitionWaitingTurn turnId .failed
      "附件解析等待超时，本轮请求已取消；可稍后重新发送。" now with
  | (store, false) => store
  | (store, true) =>
    match store.appendEvent turnId "attachment_wait_timeout"
        [("error_code", .text "attachment_wait_timeout"),
          ("wait_seconds", .number maxWaitSeconds)] now with
    | .ok store => store
    | .error _ => store

/-- `expire_waiting_turns`. -/
def expireWaitingTurns (store : Store) (maxWaitSeconds : Option Nat) (limit : Nat) (now dbNow : Time) : Store :=
  let seconds := max 1 (maxWaitSeconds.getD env.waitingTurnMaxSeconds)
  (oldestFirst env limit (store.turns.filter (Turn.waitedOut seconds dbNow))).foldl
    (fun store turnId => store.expireWaitingTurn seconds now turnId) store

/-! ### The queue -/

/-- One row of `expire_queued_turns`: the update is guarded by the status alone. -/
def expireQueuedTurn (store : Store) (maxQueueSeconds : Nat) (now : Time) (turnId : Nat) : Except Failure Store :=
  if store.turns.any fun turn => turn.id == turnId && turn.status == .pending then
    let store := store.updateTurn turnId (fun turn => turn.status == .pending)
      (Turn.conclude .failed "排队等待超时，本轮请求未执行；请稍后重试。" now)
    let store := store.fillBlankOf turnId "生成失败：排队等待超时"
    store.appendTerminalEvents turnId
      [("chat_queue_timeout",
        [("error_code", .text "chat_queue_timeout"), ("wait_seconds", .number maxQueueSeconds)])] now
  else .ok store

/-- The loop of `expire_queued_turns`: rows that are done stay done when a later one raises. -/
def expireQueuedRows (maxQueueSeconds : Nat) (now : Time) (store : Store) : List Nat → Store
  | [] => store
  | turnId :: rest =>
    match store.expireQueuedTurn maxQueueSeconds now turnId with
    | .ok store => expireQueuedRows maxQueueSeconds now store rest
    | .error _ => store

/-- `expire_queued_turns`. -/
def expireQueuedTurns (store : Store) (maxQueueSeconds : Option Nat) (limit : Nat) (now dbNow : Time) : Store :=
  let seconds := max 1 (maxQueueSeconds.getD env.chatQueueDeadlineSeconds)
  expireQueuedRows seconds now store
    (oldestFirst env limit (store.turns.filter (Turn.queuedOut seconds dbNow)))

/-! ### Abandoned turns -/

/-- The events of a turn that is stopped or given up without its worker. -/
def convergenceEvents (cancelled : Bool) (message : String) : List (String × Payload) :=
  if cancelled then
    [("error", [("message", .text stoppedText), ("cancelled", .flag true)]),
      ("turn_end", [("status", .text "cancelled")])]
  else
    [("error", [("message", .text message)]), ("turn_end", [("status", .text "failed")])]

/-- One row of `requeue_stale_turns`. -/
def convergeStaleTurn (store : Store) (now : Time) (row : Turn) : Except Failure Store :=
  if !row.cancelRequested && decide (row.retryCount < 3) then
    .ok (store.updateTurn row.id (fun turn => turn.status.isRunning) Turn.requeue)
  else
    let cancelled := row.cancelRequested
    let status : TurnStatus := if cancelled then .cancelled else .failed
    let message := if cancelled then stoppedText else "任务执行器失去心跳，超过最大重试次数"
    let store := store.updateTurn row.id (fun turn => turn.status.isRunning)
      fun turn => (turn.conclude status message now).leaveWorker
    let store := store.fillBlankOf row.id (if cancelled then stoppedText else "生成失败：" ++ message)
    store.appendTerminalEvents row.id (convergenceEvents cancelled message) now

/-- Drop the lease of every session whose active turn is not running. -/
def dropIdleLeases (store : Store) : Store :=
  store.updateState
    (fun state => state.activeTurnId.any fun active =>
      !(store.turns.any fun turn => turn.id == active && turn.status.isRunning))
    ExecutionState.dropLease

/-- `requeue_stale_turns`. -/
def requeueStaleTurns (store : Store) (staleAfterSeconds : Nat) (now dbNow : Time) : Except Failure Store := do
  let rows := store.turns.filter (Turn.isStale (staleSeconds env staleAfterSeconds) dbNow)
  let store ← rows.foldlM (fun store row => store.convergeStaleTurn now row) store
  return store.dropIdleLeases

/-! ### Claims -/

/-- A pending turn whose cancel was never finalised. -/
def convergeCancelled (store : Store) (turnId : Nat) (now : Time) : Except Failure Store :=
  let store := store.updateTurn turnId (fun turn => turn.status == .pending) (Turn.stop now)
  let store := store.fillBlankOf turnId stoppedText
  store.appendTerminalEvents turnId (convergenceEvents true stoppedText) now

/-- The turn that keeps `turn` queued: `ORDER BY turn_sequence LIMIT 1`. -/
def earlierTurn (store : Store) (turn : Turn) : Option Turn :=
  firstBy (fun left right => decide (left.turnSequence.getD 0 < right.turnSequence.getD 0))
    (store.turns.filter fun prior => prior.id != turn.id && Turn.isBehind turn prior)

/-- The per-session checks of a serialized claim: `none` lets the claim go on. -/
def sessionGate (store : Store) (turn : Turn) (now : Time) : Store × Option ClaimResult :=
  match store.ensureExecutionState turn.sessionId with
  | (store, none) => (store, some .stale)
  | (store, some state) =>
    match store.earlierTurn turn with
    | some earlier => (store, some (.blocked earlier.id))
    | none =>
      match state.activeTurnId with
      | none => (store, none)
      | some active =>
        if active ≠ turn.id ∧ leaseActive state.leaseExpiresAt now = true then
          if (store.turnById active).any fun other => other.status.isNonTerminal then
            (store, some (.blocked active))
          else
            -- a finished turn with a leftover lease is reclaimed
            (store.releaseLease turn.sessionId active, none)
        else (store, none)

/-- Record what the worker is given. -/
def grant (store : Store) (given : Grant) : Store :=
  { store with history := { store.history with grants := given :: store.history.grants } }

/-- The lease that a serialized claim takes, under a new fencing token. -/
def takeLease (store : Store) (turn : Turn) (workerId : String) (now : Time) : Store :=
  store.updateState (fun state => state.sessionId == turn.sessionId)
    fun state =>
      { state with
        activeTurnId := some turn.id
        leaseOwner := workerId
        leaseExpiresAt := some (isoAfter now (max 30 env.chatTurnLeaseSeconds))
        fencingToken := state.fencingToken + 1 }

/-- The statements of a claim that nothing holds back. `before` is what a rollback restores. -/
def startTurn (store before : Store) (turn : Turn) (workerId : String) (now : Time) : Store × ClaimResult :=
  let store := store.updateTurn turn.id (fun row => decide (row.retryCount < 3))
    (Turn.start workerId now)
  match store.turnById turn.id with
  | none => (store, .noop)
  | some claimed =>
    if claimed.workerId ≠ workerId then
      if 3 ≤ claimed.retryCount then
        (store.updateTurn turn.id (fun _ => true)
          (Turn.conclude .failed "Exceeded maximum chat retries" now), .retryExhausted)
      else (store, .noop)
    else if env.serializeSameThread then
      let store := store.takeLease env turn workerId now
      match store.ensureExecutionState turn.sessionId with
      | (_, none) => (before, .stale)
      | (store, some state) =>
        let given : Grant :=
          { sessionId := turn.sessionId, turnId := turn.id, workerId,
            fencingToken := state.fencingToken, generation := state.generation }
        (store.grant given, .claimed given)
    else
      let given : Grant :=
        { sessionId := turn.sessionId, turnId := turn.id, workerId, fencingToken := 0,
          generation := 0 }
      (store.grant given, .claimed given)

/-- The part of `claim_turn_result` for a pending turn that was not cancelled. -/
def claimPending (store before : Store) (turn : Turn) (workerId : String) (now : Time) : Store × ClaimResult :=
  if env.serializeSameThread then
    match store.sessionGate turn now with
    | (store, some result) => (store, result)
    | (store, none) => store.startTurn env before turn workerId now
  else store.startTurn env before turn workerId now

/-- `claim_turn_result`. -/
def claimTurnResult (before : Store) (userId turnId : Nat) (workerId : String)
    (staleAfterSeconds : Nat) (now dbNow : Time) : Except Failure (Store × ClaimResult) :=
  match before.getTurn userId turnId with
  | none => .ok (before, .noop)
  | some _ =>
    let store := before.updateTurn turnId (Turn.isStale (staleSeconds env staleAfterSeconds) dbNow)
      Turn.requeue
    match store.getTurn userId turnId with
    | none => .ok (store, .noop)
    | some turn =>
      if turn.status ≠ .pending then
        .ok (store,
          if turn.cancelRequested && turn.status == .cancelled then .cancelled else .noop)
      else if turn.cancelRequested then
        (store.convergeCancelled turnId now).map fun store => (store, .cancelled)
      else .ok (store.claimPending env before turn workerId now)

/-! ### The writes of a worker -/

/-- `release_turn_ownership`. -/
def releaseTurnOwnership (store : Store) (turnId : Nat) (workerId : String)
    (fencingToken : Option Nat) : Store × Bool :=
  match store.turnById turnId with
  | none => (store, false)
  | some turn =>
    if store.admits turnId workerId fencingToken then
      (store.releaseLease turn.sessionId turnId,
        store.executionStates.any fun state =>
          state.sessionId == turn.sessionId && state.activeTurnId == some turnId)
    else (store, false)

/-- `touch_turn_worker`. Only a fenced heartbeat renews the lease. -/
def touchTurnWorker (store : Store) (turnId : Nat) (workerId : String)
    (fencingToken : Option Nat) (now : Time) : Store × Bool :=
  let touched := store.updateTurn turnId
    (fun turn => turn.workerId == workerId && turn.status.isRunning)
    fun turn => { turn with workerHeartbeatAt := some now }
  match fencingToken with
  | none => (touched, true)
  | some token =>
    if store.verifyTurnOwner turnId workerId token then
      match touched.turnById turnId with
      | none => (touched, true)
      | some turn =>
        (touched.updateState
          (fun state => state.sessionId == turn.sessionId && state.activeTurnId == some turnId &&
            state.leaseOwner == workerId)
          (fun state =>
            { state with
              leaseExpiresAt := some (isoAfter now (max 5 env.chatTurnLeaseRenewSeconds)) }), true)
    else (store, false)

/-- The generation of a session, as the fenced writes read it. -/
def hasGeneration (store : Store) (sessionId generation : Nat) : Bool :=
  (store.executionState sessionId).any fun state => state.generation == generation

/-- `update_recoverable_checkpoint_ref`. -/
def updateRecoverableCheckpointRef (store : Store) (turnId : Nat) (workerId : String)
    (fencingToken : Nat) (ref : String) (expectedGeneration : Option Nat) :
    Except Failure (Store × Bool) := do
  match store.turnById turnId with
  | none => return (store, false)
  | some turn =>
    if store.verifyTurnOwner turnId workerId fencingToken = false then
      throw (.staleTurnOwner (.newerAttempt turnId))
    if expectedGeneration.any fun expected => !(store.hasGeneration turn.sessionId expected) then
      throw (.staleTurnOwner (.revoked "checkpoint pointer was revoked by cancel or takeover"))
    return (store.updateState (fun state => state.sessionId == turn.sessionId)
      (fun state => { state with recoverableCheckpointRef := ref }), true)

/-- `append_turn_event`. -/
def appendTurnEvent (store : Store) (turnId : Nat) (eventType : String) (payload : Payload)
    (workerId : String) (fencingToken : Option Nat) (now : Time) : Except Failure Store := do
  if store.admits turnId workerId fencingToken = false then
    throw (.staleTurnOwner (.newerAttempt turnId))
  store.appendEvent turnId eventType payload now

/-- The fence of a completion: the owner, the generation, and the committed checkpoint pointer. -/
def fenceCompletion (store : Store) (row : Turn) (call : Completion) : Except Failure Store := do
  match call.fencingToken with
  | none => return store
  | some token =>
    if store.verifyTurnOwner call.turnId call.workerId token = false then
      throw (.staleTurnOwner (.newerAttempt call.turnId))
    if call.expectedGeneration.any fun expected => !(store.hasGeneration row.sessionId expected) then
      throw (.staleTurnOwner (.revoked "turn completion was revoked by cancel or takeover"))
    match call.committedCheckpointRef with
    | none => return store
    | some ref =>
      return store.updateState (fun state => state.sessionId == row.sessionId)
        fun state => { state with committedCheckpointRef := ref }

/-- What `complete_turn_result` asks of the exports for a turn that has a plan. -/
def exportRequest (userId : Nat) (turn : Turn) (plan : ResultExports.ExportPlan) : ResultExports.TurnExport :=
  { ownerUserId := userId, tenantId := "default", departmentId := turn.departmentId,
    knowledgeBaseName := if turn.kbName = generalChatKbName then "" else turn.kbName,
    sessionId := turn.sessionId, turnId := env.uuid turn.id,
    assistantMessageId := turn.assistantMessageId, envelope := env.envelopeFromTurn turn, plan }

/-- The export request of a completed turn that has a plan. -/
def enqueueExports (store : Store) (userId : Nat) (turn : Turn) (now : Time) : Except Failure Store :=
  match turn.exportPlan with
  | none => .ok store
  | some plan =>
    match ResultExports.enqueueCompletedTurnInConnection env.sha256 env.exportFormatEnabled
        store.exports (exportRequest env userId turn plan) now with
    | .ok exports => .ok { store with exports }
    | .error error => .error (.exportFailed error)

/-- `complete_turn_result`. The message is written without looking at the status. -/
def completeTurnResult (store : Store) (call : Completion) (now : Time) : Except Failure (Store × Turn) := do
  match store.getTurn call.userId call.turnId with
  | none => throw (.keyError "turn not found")
  | some row =>
    let answer := env.normalizeExportAnswer call.answer row.exportPlan
    let autoMemory := store.sessions.any fun session =>
      session.id == row.sessionId && session.userId == call.userId && session.autoMemory
    let store ← store.fenceCompletion row call
    let store := store.setContent row.assistantMessageId answer
    -- completed and cancelled are not revived; a failed turn is taken over by a real result
    let store := store.updateTurn call.turnId (fun turn => !turn.status.isSettled)
      (Turn.complete call answer now)
    let completed := (store.turnById call.turnId).getD row
    let store ← store.appendTerminalEvents call.turnId (call.terminalEventsBuilder completed) now
    let store ← store.enqueueExports env call.userId completed now
    if autoMemory then
      return (store.enqueueReflection env row.sessionId row.departmentId row.kbId row false now,
        completed)
    else
      return (store, completed)

/-- The update of `fail_turn_result` applies to the row. -/
def failable (store : Store) (userId : Nat) (turn : Turn) : Bool :=
  turn.status.isNonTerminal && store.owns userId turn

/-- `fail_turn_result`: a turn that is already finished gives no result. -/
def failTurnResult (store : Store) (call : Abandonment) (now : Time) :
    Except Failure (Store × Option Turn) := do
  match store.getTurn call.userId call.turnId with
  | none => return (store, none)
  | some row =>
    if store.admits call.turnId call.workerId call.fencingToken = false then
      throw (.staleTurnOwner (.newerAttempt call.turnId))
    if store.turns.any fun turn => turn.id == call.turnId && store.failable call.userId turn then
      let status : TurnStatus := if call.cancelled then .cancelled else .failed
      let failed := store.updateTurn call.turnId (store.failable call.userId)
        fun turn => (turn.conclude status (Python.clip 1000 call.message) now).leaveWorker
      let failed := failed.fillBlank row.assistantMessageId
        (if call.cancelled then stoppedText else "生成失败：" ++ Python.clip 500 call.message)
      let finalized := (failed.turnById call.turnId).getD row
      let failed ← failed.appendTerminalEvents call.turnId (call.terminalEventsBuilder finalized) now
      return (failed, some finalized)
    else
      return (store, none)

/-! ### Cancellation -/

/-- `request_turn_cancel`. `existing` is the status that the read before the transaction returned:
other transactions may have committed since. -/
def requestTurnCancel (store : Store) (existing : Option TurnStatus) (userId turnId : Nat) (now : Time) : Store :=
  if existing.any TurnStatus.isNonTerminal then
    let target := store.getTurn userId turnId
    let store :=
      match target with
      | none => store
      | some turn =>
        if turn.status.isRunning then store.bumpSessionGeneration turn.sessionId else store
    let store := store.updateTurn turnId
      (fun turn => store.owns userId turn && turn.status.isNonTerminal) (Turn.requestCancel now)
    let store :=
      match store.turnById turnId with
      | none => store
      | some turn =>
        if turn.status = .cancelled then store.fillBlank turn.assistantMessageId stoppedText else store
    match target with
    | none => store
    | some turn =>
      if turn.status = .pending ∨ turn.status = .waitingForAttachments then
        store.releaseLease turn.sessionId turnId
      else store
  else store

end Store

end HardwareDatabase.Conversation
