/-
Module: HardwareDatabase.Harness.Store
Purpose: The statements of `DocumentAuthoringStore` on the harness tables
  (`src/src/document_authoring/work_order_store.py`, `harness/idempotency.py`). `sha256` is a parameter; instants and
  fresh identifiers are arguments. The foreign keys to `document_work_orders` are left out.
Trusted boundary: none
-/
import HardwareDatabase.Harness.Rows
import HardwareDatabase.Python.Text
import HardwareDatabase.Relational.Table

namespace HardwareDatabase.Harness

open Python (strip clip lowerAscii)
open Relational

/-! ### Idempotency keys -/

/-- A character inside a JSON text, with `ensure_ascii=False`. -/
def jsonCharacter (character : Char) : String :=
  if character = '"' then "\\\""
  else if character = '\\' then "\\\\"
  else if character = '\n' then "\\n"
  else if character = '\r' then "\\r"
  else if character = '\t' then "\\t"
  else if character.toNat = 8 then "\\b"
  else if character.toNat = 12 then "\\f"
  else if character.toNat < 32 then
    "\\u00" ++ (if character.toNat < 16 then "0" else "1") ++
      String.singleton (Nat.digitChar (character.toNat % 16))
  else String.singleton character

/-- A text as `json.dumps` prints it. -/
def jsonText (text : String) : String :=
  "\"" ++ String.join (text.toList.map jsonCharacter) ++ "\""

/-- `execution_event_key`: the digest of the key-sorted object of its two arguments. -/
def executionEventKey (sha256 : String → String) (actionKey eventType : String) : Except Failure String :=
  if actionKey = "" then .error .eventKeyWithoutAction
  else if eventType = "" then .error .eventKeyWithoutType
  else .ok (sha256 ("\x7b\"action_key\":" ++ jsonText actionKey ++ ",\"event_type\":" ++
    jsonText eventType ++ "\x7d"))

/-! ### Runs -/

variable (tables : Tables)

/-- `SELECT payload_json FROM harness_runs WHERE harness_run_id = ?`. -/
def Tables.run? (runId : String) : Option HarnessRun :=
  tables.runs.find? fun run => run.harnessRunId == runId

/-- `_get_run_for_update`. -/
def getRunForUpdate (runId : String) : Except Failure HarnessRun :=
  match tables.run? runId with
  | none => .error (.unknownRun runId)
  | some run => .ok run

/-- `UPDATE harness_runs SET status = ?, payload_json = ? WHERE harness_run_id = ?`. -/
def Tables.setRun (runId : String) (revised : HarnessRun) : Tables :=
  { tables with
    runs := updateWhere (fun run => run.harnessRunId == runId) (fun _ => revised) tables.runs }

/-- Whether the run is leased to this owner under this token at `now`. -/
def leaseActive (run : HarnessRun) (leaseOwner : String) (fencingToken now : Nat) : Bool :=
  run.status == .running && run.leaseOwner == some leaseOwner && run.fencingToken == fencingToken &&
    match run.leaseExpiresAt with
    | none => false
    | some expires => now < expires

/-- `_require_active_lease`. -/
def requireActiveLease (run : HarnessRun) (leaseOwner : String) (fencingToken now : Nat) : Except Failure Unit :=
  if leaseActive run leaseOwner fencingToken now then .ok () else .error .leaseLost

/-- `now + timedelta(seconds=lease_seconds)`. -/
def leaseEnd (now : Nat) (leaseSeconds : Int) : Nat :=
  (now + 1000000 * leaseSeconds).toNat

/-- `create_harness_run`. -/
def createHarnessRun (run : HarnessRun) : Except Failure Tables :=
  if tables.runs.any fun other => other.harnessRunId == run.harnessRunId then .error .duplicateKey
  else .ok { tables with runs := tables.runs ++ [run] }

/-- The run as `claim_harness_run` writes it. -/
def HarnessRun.claimed (run : HarnessRun) (leaseOwner : String) (leaseSeconds : Int) (now : Nat) : HarnessRun :=
  { run with
    status := .running, leaseOwner := some leaseOwner, fencingToken := run.fencingToken + 1,
    leaseExpiresAt := some (leaseEnd now leaseSeconds), heartbeatAt := some now, updatedAt := now,
    error := none, lastErrorCode := none }

/-- `claim_harness_run`. -/
def claimHarnessRun (runId leaseOwner : String) (leaseSeconds : Int) (now : Nat) : Except Failure Tables := do
  let current ← getRunForUpdate tables runId
  if current.status ∉ [RunStatus.planned, .queued, .retrying] then
    .error (.cannotClaim current.status)
  else if current.leaseExpiresAt.any fun expires => now < expires then .error .activeLease
  else .ok (tables.setRun runId (current.claimed leaseOwner leaseSeconds now))

/-- The fields that a caller of `update_harness_run_owned` passes; a missing one is left as it is. -/
structure RunUpdates where
  status : Option RunStatus := none
  currentNode : Option String := none
  unitStatuses : Option (List (String × String)) := none
  leaseOwner : Option (Option String) := none
  leaseExpiresAt : Option (Option Nat) := none
  heartbeatAt : Option (Option Nat) := none
  error : Option (Option RunError) := none
  lastErrorCode : Option (Option String) := none
  pendingHumanEvent : Option (Option PendingEvent) := none
  agentThreadId : Option (Option String) := none
deriving Repr, DecidableEq

/-- `current.model_copy(update={**updates, "updated_at": now})`. -/
def HarnessRun.updated (run : HarnessRun) (updates : RunUpdates) (now : Nat) : HarnessRun :=
  { run with
    status := updates.status.getD run.status
    currentNode := updates.currentNode.getD run.currentNode
    unitStatuses := updates.unitStatuses.getD run.unitStatuses
    leaseOwner := updates.leaseOwner.getD run.leaseOwner
    leaseExpiresAt := updates.leaseExpiresAt.getD run.leaseExpiresAt
    heartbeatAt := updates.heartbeatAt.getD run.heartbeatAt
    error := updates.error.getD run.error
    lastErrorCode := updates.lastErrorCode.getD run.lastErrorCode
    pendingHumanEvent := updates.pendingHumanEvent.getD run.pendingHumanEvent
    agentThreadId := updates.agentThreadId.getD run.agentThreadId
    updatedAt := now }

/-- `update_harness_run_owned`. -/
def updateHarnessRunOwned (runId owner : String) (token : Nat) (updates : RunUpdates)
    (now : Nat) : Except Failure Tables := do
  let current ← getRunForUpdate tables runId
  requireActiveLease current owner token now
  .ok (tables.setRun runId (current.updated updates now))

/-- `heartbeat_harness_run`. It reads the clock, and the update that it calls reads it again. -/
def heartbeatHarnessRun (runId leaseOwner : String) (fencingToken : Nat)
    (leaseSeconds : Int) (beatAt now : Nat) : Except Failure Tables :=
  updateHarnessRunOwned tables runId leaseOwner fencingToken
    { heartbeatAt := some (some beatAt), leaseExpiresAt := some (some (leaseEnd beatAt leaseSeconds)) }
    now

/-- The run as `request_harness_run_state` writes it. -/
def HarnessRun.revoked (run : HarnessRun) (target : RunStatus) (now : Nat) : HarnessRun :=
  { run with
    status := target, leaseOwner := none, leaseExpiresAt := none, heartbeatAt := some now,
    fencingToken := run.fencingToken + 1, updatedAt := now }

/-- `request_harness_run_state`. -/
def requestHarnessRunState (runId : String) (target : RunStatus) (now : Nat) : Except Failure Tables :=
  if target ∉ [RunStatus.paused, .cancelled] then .error .unsupportedTarget
  else do
    let current ← getRunForUpdate tables runId
    if current.status ∈ [RunStatus.completed, .cancelled] then .error (.cannotChange current.status)
    else .ok (tables.setRun runId (current.revoked target now))

/-- The run as `queue_harness_retry` writes it. -/
def HarnessRun.requeued (run : HarnessRun) (maxRetries now : Nat) : HarnessRun :=
  { run with
    status := .retrying, retryCount := run.retryCount + 1, maxRetries, leaseOwner := none,
    leaseExpiresAt := none, error := none, lastErrorCode := none, updatedAt := now }

/-- `queue_harness_retry`. -/
def queueHarnessRetry (runId : String) (maxRetries now : Nat) : Except Failure Tables := do
  let current ← getRunForUpdate tables runId
  if current.status ∉ [RunStatus.failed, .paused] then .error (.cannotRetry current.status)
  else if maxRetries ≤ current.retryCount then .error .retriesExhausted
  else .ok (tables.setRun runId (current.requeued maxRetries now))

/-! ### Execution events -/

/-- The event of a run under an idempotency key. -/
def Tables.event? (runId key : String) : Option ExecutionEvent :=
  tables.events.find? fun event => event.harnessRunId == runId && event.idempotencyKey == key

/-- `SELECT COALESCE(MAX(sequence), 0) + 1 FROM authoring_execution_events WHERE harness_run_id = ?`. -/
def Tables.nextSequence (runId : String) : Nat :=
  coalesceMax (fun event => some event.sequence)
    (tables.events.filter fun event => event.harnessRunId == runId) + 1

/-- `_put` on `authoring_execution_events`. -/
def Tables.putEvent (event : ExecutionEvent) : Except Failure Tables :=
  if (tables.events.any fun other => other.eventId == event.eventId) ||
      (tables.event? event.harnessRunId event.idempotencyKey).isSome then
    .error .duplicateKey
  else if (tables.run? event.harnessRunId).isNone then .error .missingReference
  else .ok { tables with events := tables.events ++ [event] }

/-- `append_execution_event`. -/
def appendExecutionEvent (event : ExecutionEvent) : Except Failure (ExecutionEvent × Tables) :=
  match tables.event? event.harnessRunId event.idempotencyKey with
  | some stored => .ok (stored, tables)
  | none => do
    let numbered := { event with sequence := tables.nextSequence event.harnessRunId }
    let after ← tables.putEvent numbered
    .ok (numbered, after)

/-! ### Human decisions -/

/-- A decision on a pending proposal. -/
inductive Decision
  | approve
  | reject
deriving Repr, DecidableEq

/-- The normalized text of a decision. -/
def Decision.text : Decision → String
  | .approve => "approve"
  | .reject => "reject"

/-- `str(decision or "").strip().casefold()`, where it is one of the two words. -/
def normalizedDecision (decision : String) : Option Decision :=
  if lowerAscii (strip decision) = "approve" then some .approve
  else if lowerAscii (strip decision) = "reject" then some .reject
  else none

/-- The arguments of `resolve_harness_human_decision`; `uuid` names the event that it may write. -/
structure DecisionCall where
  runId : String
  pendingEventId : String
  proposalHash : String
  decision : String
  decisionKey : String
  actorId : String
  tenantId : Option String
  uuid : String
deriving Repr, DecidableEq

/-- `entries[key] = value`. -/
def setEntry (entries : List (String × String)) (key value : String) : List (String × String) :=
  if entries.any fun entry => entry.1 == key then
    entries.map fun entry => if entry.1 == key then (key, value) else entry
  else entries ++ [(key, value)]

/-- The field that a pending event is about, stripped; empty where it names none. -/
def PendingEvent.field (pending : PendingEvent) : String :=
  strip (pending.fieldId.getD "")

/-- The run as an accepted decision leaves it. -/
def HarnessRun.decided (run : HarnessRun) (pending : PendingEvent) (decision : Decision) (now : Nat) : HarnessRun :=
  let approved := decision = .approve
  { run with
    status := if approved then .retrying else .failed
    currentNode := if approved then "agent_field_harness_resume" else "human_rejected"
    pendingHumanEvent := none
    unitStatuses :=
      if pending.field = "" then run.unitStatuses
      else setEntry run.unitStatuses ("field:" ++ pending.field)
        (if approved then "ready_to_render" else "requires_human")
    error :=
      if approved then none
      else some
        { type := "HumanDecisionRejected", message := "agent proposal was rejected by a human reviewer" }
    lastErrorCode := if approved then none else some "human_decision_rejected"
    updatedAt := now }

/-- The event that an accepted decision appends. -/
def decisionEvent (run : HarnessRun) (pending : PendingEvent) (call : DecisionCall)
    (decision : Decision) (eventKey : String) (now : Nat) : ExecutionEvent :=
  let approved := decision = .approve
  { eventId := "authoring-event-" ++ call.uuid
    eventType := .humanResumed
    tenantId := run.tenantId
    workOrderId := run.workOrderId
    harnessRunId := run.harnessRunId
    idempotencyKey := eventKey
    sequence := tables.nextSequence run.harnessRunId
    attempt := max 1 (run.retryCount + 1)
    executor := some "agent_field_harness"
    nodeName := some "agent_field_harness"
    fieldId := if pending.field = "" then none else some pending.field
    unitId := if pending.field = "" then none else some ("field:" ++ pending.field)
    status := if approved then .resumed else .rejected
    errorCode := if approved then none else some "human_decision_rejected"
    sanitizedPayload :=
      [("decision", decision.text), ("pending_event_id", call.pendingEventId),
        ("proposal_hash", call.proposalHash), ("actor_id", clip 200 call.actorId),
        ("agent_thread_id", clip 200 (run.agentThreadId.getD ""))]
    occurredAt := now }

/-- The expiry check of a pending event. -/
def checkExpiry (pending : PendingEvent) (now : Nat) : Except Failure Unit :=
  match pending.expiresAt with
  | .absent => .ok ()
  | .at instant => if instant ≤ now then .error .expiredEvent else .ok ()
  | .unreadable _ => .error .invalidExpiry

/-- The checks of a decision that no stored event answers; the result is the pending event. -/
def checkDecision (run : HarnessRun) (call : DecisionCall) (now : Nat) : Except Failure PendingEvent :=
  if call.tenantId.any fun tenantId => run.tenantId != tenantId then .error .otherTenant
  else if run.status ≠ .waitingHuman then .error (.notWaiting run.status)
  else
    match run.pendingHumanEvent with
    | none => .error .noPendingEvent
    | some pending =>
      if pending.eventId.getD "" ≠ call.pendingEventId then .error .otherPendingEvent
      else if pending.proposalHash.getD "" ≠ call.proposalHash then .error .otherProposal
      else do
        checkExpiry pending now
        .ok pending

/-- The key of the event that a decision writes, after the check of the decision itself. -/
def decisionEventKey (sha256 : String → String) (call : DecisionCall) : Except Failure (Decision × String) :=
  match normalizedDecision call.decision with
  | none => .error .unsupportedDecision
  | some decision => do
    let eventKey ← executionEventKey sha256 call.decisionKey "human_resumed"
    .ok (decision, eventKey)

/-- `resolve_harness_human_decision`. -/
def resolveHarnessHumanDecision (sha256 : String → String) (tables : Tables) (call : DecisionCall)
    (now : Nat) : Except Failure (HarnessRun × ExecutionEvent × Tables) := do
  let (decision, eventKey) ← decisionEventKey sha256 call
  let current ← getRunForUpdate tables call.runId
  match tables.event? call.runId eventKey with
  | some stored => .ok (current, stored, tables)
  | none =>
    let pending ← checkDecision current call now
    let updated := current.decided pending decision now
    let event := decisionEvent tables current pending call decision eventKey now
    let after ← (tables.setRun call.runId updated).putEvent event
    .ok (updated, event, after)

/-! ### Checkpoints, receipts and drafts -/

/-- `save_harness_checkpoint_owned`. -/
def saveHarnessCheckpointOwned (checkpoint : Checkpoint) (leaseOwner : String)
    (fencingToken now : Nat) : Except Failure Tables := do
  let run ← getRunForUpdate tables checkpoint.harnessRunId
  requireActiveLease run leaseOwner fencingToken now
  if tables.checkpoints.any fun row => row.checkpointId == checkpoint.checkpointId then
    .ok { tables with
      checkpoints :=
        updateWhere (fun row => row.checkpointId == checkpoint.checkpointId)
          (fun row =>
            { row with
              status := checkpoint.status, updatedAt := checkpoint.updatedAt,
              payload := checkpoint.payload })
          tables.checkpoints }
  else .ok { tables with checkpoints := tables.checkpoints ++ [checkpoint] }

/-- `SELECT payload_json FROM node_execution_receipts WHERE receipt_id = ?`. -/
def Tables.receipt? (receiptId : String) : Option Receipt :=
  tables.receipts.find? fun receipt => receipt.receiptId == receiptId

/-- `UPDATE node_execution_receipts SET status = ?, payload_json = ? WHERE receipt_id = ?`. -/
def Tables.setReceipt (receiptId : String) (revised : Receipt) : Tables :=
  { tables with
    receipts :=
      updateWhere (fun receipt => receipt.receiptId == receiptId) (fun _ => revised) tables.receipts }

/-- `_put` on `node_execution_receipts`: the primary key, the unique constraint and the unique index on
action keys. -/
def Tables.putReceipt (receipt : Receipt) : Except Failure Tables :=
  if tables.receipts.any fun other =>
      other.receiptId == receipt.receiptId || other.key == receipt.key ||
        (receipt.actionKey != "" && other.harnessRunId == receipt.harnessRunId &&
          other.actionKey == receipt.actionKey) then
    .error .duplicateKey
  else .ok { tables with receipts := tables.receipts ++ [receipt] }

/-- A receipt that `begin_node_execution_owned` starts again. -/
def Receipt.restarted (receipt : Receipt) (fencingToken : Nat) : Receipt :=
  { receipt with status := .started, fencingToken, error := none }

/-- `begin_node_execution_owned`. -/
def beginNodeExecutionOwned (receipt : Receipt) (leaseOwner : String)
    (fencingToken now : Nat) : Except Failure (Receipt × Tables) := do
  let run ← getRunForUpdate tables receipt.harnessRunId
  requireActiveLease run leaseOwner fencingToken now
  match tables.receipts.find? fun row => row.key == receipt.key with
  | some existing =>
    if existing.status = .committed then .ok (existing, tables)
    else
      .ok (existing.restarted fencingToken,
        tables.setReceipt existing.receiptId (existing.restarted fencingToken))
  | none => do
    let after ← tables.putReceipt receipt
    .ok (receipt, after)

/-- A receipt with its committed output; `content_hash` is the digest of the payload's JSON. -/
def Receipt.committedWith (sha256 : String → String) (receipt : Receipt) (fencingToken : Nat)
    (outputPayload : String) (now : Nat) : Receipt :=
  { receipt with
    status := .committed, fencingToken, outputPayload := some outputPayload,
    outputHash := some (sha256 outputPayload), error := none, committedAt := some now }

/-- `commit_node_execution_owned`. -/
def commitNodeExecutionOwned (sha256 : String → String) (tables : Tables)
    (receiptId harnessRunId leaseOwner : String) (fencingToken : Nat) (outputPayload : String)
    (now : Nat) : Except Failure (Receipt × Tables) := do
  let run ← getRunForUpdate tables harnessRunId
  requireActiveLease run leaseOwner fencingToken now
  match tables.receipt? receiptId with
  | none => .error (.unknownReceipt receiptId)
  | some current =>
    if current.status = .committed then .ok (current, tables)
    else
      let committed := current.committedWith sha256 fencingToken outputPayload now
      .ok (committed, tables.setReceipt receiptId committed)

/-- A receipt with the error of its node. -/
def Receipt.failedWith (receipt : Receipt) (fencingToken : Nat) (error : String) : Receipt :=
  { receipt with status := .failed, fencingToken, error := some error }

/-- `fail_node_execution_owned`. Unlike the two functions above it does not look at the status of the
receipt. -/
def failNodeExecutionOwned (receiptId harnessRunId leaseOwner : String)
    (fencingToken : Nat) (error : String) (now : Nat) : Except Failure Tables := do
  let run ← getRunForUpdate tables harnessRunId
  requireActiveLease run leaseOwner fencingToken now
  match tables.receipt? receiptId with
  | none => .error (.unknownReceipt receiptId)
  | some current => .ok (tables.setReceipt receiptId (current.failedWith fencingToken error))

/-- The upsert of one draft. -/
def upsertDraft (workOrderId harnessRunId : String) (drafts : List UnitDraft)
    (draft : String × String) : List UnitDraft :=
  if drafts.any fun row => row.harnessRunId == harnessRunId && row.unitId == draft.1 then
    updateWhere (fun row => row.harnessRunId == harnessRunId && row.unitId == draft.1)
      (fun row => { row with payload := draft.2 }) drafts
  else drafts ++ [{ workOrderId, harnessRunId, unitId := draft.1, payload := draft.2 }]

/-- The lease check of `save_unit_drafts`, which is made where one of the two arguments is given. -/
def checkDraftFence (harnessRunId : String) (leaseOwner : Option String)
    (fencingToken : Option Nat) (now : Nat) : Except Failure Unit :=
  match leaseOwner, fencingToken with
  | none, none => .ok ()
  | some owner, some token =>
    if owner = "" then .error .incompleteFence
    else do
      let run ← getRunForUpdate tables harnessRunId
      requireActiveLease run owner token now
  | _, _ => .error .incompleteFence

/-- `save_unit_drafts`; a draft is its unit and its JSON. -/
def saveUnitDrafts (workOrderId harnessRunId : String)
    (drafts : List (String × String)) (leaseOwner : Option String) (fencingToken : Option Nat)
    (now : Nat) : Except Failure Tables := do
  checkDraftFence tables harnessRunId leaseOwner fencingToken now
  if drafts ≠ [] ∧ (tables.run? harnessRunId).isNone then .error .missingReference
  else
    .ok { tables with drafts := drafts.foldl (upsertDraft workOrderId harnessRunId) tables.drafts }

end HardwareDatabase.Harness
