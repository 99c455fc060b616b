/-
Module: HardwareDatabase.Harness.Rows
Purpose: The rows of the harness tables of `DocumentAuthoringStore` (`src/src/document_authoring/work_order_store.py`,
  `models.py`). JSON that no statement looks into is text. The progress counters, plan references and hashes of a run,
  which no modelled statement reads, are left out.
Trusted boundary: none
-/

namespace HardwareDatabase.Harness

/-- The status of a harness run. -/
inductive RunStatus
  | planned
  | queued
  | running
  | paused
  | waitingHuman
  | retrying
  | failed
  | completed
  | cancelled
deriving Repr, DecidableEq

/-- The status as it is stored. -/
def RunStatus.text : RunStatus → String
  | .planned => "planned"
  | .queued => "queued"
  | .running => "running"
  | .paused => "paused"
  | .waitingHuman => "waiting_human"
  | .retrying => "retrying"
  | .failed => "failed"
  | .completed => "completed"
  | .cancelled => "cancelled"

/-- The `expires_at` entry of a pending event: missing or empty, an instant, or a text that
`datetime.fromisoformat` does not read. -/
inductive Expiry
  | absent
  | at (instant : Nat)
  | unreadable (text : String)
deriving Repr, DecidableEq

/-- The entries of a `pending_human_event` that the store reads. -/
structure PendingEvent where
  eventId : Option String
  proposalHash : Option String
  fieldId : Option String
  expiresAt : Expiry
deriving Repr, DecidableEq

/-- The `error` of a run. -/
structure RunError where
  type : String
  message : String
deriving Repr, DecidableEq

/-- A row of `harness_runs`. -/
structure HarnessRun where
  harnessRunId : String
  workOrderId : String
  tenantId : String
  status : RunStatus
  currentNode : String
  unitStatuses : List (String × String)
  retryCount : Nat
  maxRetries : Nat
  leaseOwner : Option String
  fencingToken : Nat
  leaseExpiresAt : Option Nat
  heartbeatAt : Option Nat
  error : Option RunError
  lastErrorCode : Option String
  pendingHumanEvent : Option PendingEvent
  agentThreadId : Option String
  updatedAt : Nat
deriving Repr, DecidableEq

/-- The status of a node's receipt. -/
inductive ReceiptStatus
  | started
  | committed
  | failed
deriving Repr, DecidableEq

/-- A row of `node_execution_receipts`. -/
structure Receipt where
  receiptId : String
  harnessRunId : String
  nodeName : String
  unitId : String
  inputFingerprint : String
  actionKey : String
  attempt : Nat
  fencingToken : Nat
  status : ReceiptStatus
  outputHash : Option String
  outputPayload : Option String
  error : Option String
  createdAt : Nat
  committedAt : Option Nat
deriving Repr, DecidableEq

/-- The columns of the unique constraint on receipts. -/
def Receipt.key (receipt : Receipt) : String × String × String × String :=
  (receipt.harnessRunId, receipt.nodeName, receipt.unitId, receipt.inputFingerprint)

/-- The status of a checkpoint. -/
inductive CheckpointStatus
  | active
  | paused
  | waitingHuman
  | failed
  | completed
  | cancelled
deriving Repr, DecidableEq

/-- A row of `harness_checkpoints`; `payload` is the whole checkpoint as JSON. -/
structure Checkpoint where
  checkpointId : String
  harnessRunId : String
  workOrderId : String
  status : CheckpointStatus
  updatedAt : Nat
  payload : String
deriving Repr, DecidableEq

/-- A row of `document_unit_drafts`. -/
structure UnitDraft where
  workOrderId : String
  harnessRunId : String
  unitId : String
  payload : String
deriving Repr, DecidableEq

/-- The type of an execution event. -/
inductive EventType
  | runStarted
  | agentStarted
  | agentSucceeded
  | agentFailed
  | toolCalled
  | toolSucceeded
  | toolRejected
  | llmCalled
  | llmSucceeded
  | llmFailed
  | proposalSubmitted
  | proposalAccepted
  | proposalRejected
  | missingMarked
  | draftPersisted
  | fallbackStarted
  | fallbackCompleted
  | humanWaiting
  | humanResumed
  | coverageEvaluated
  | unitReviewed
  | unitReworkRequested
  | preRenderReviewed
  | postRenderReviewed
  | releaseGated
  | runFinalized
deriving Repr, DecidableEq

/-- The status of an execution event. -/
inductive EventStatus
  | started
  | succeeded
  | failed
  | rejected
  | waiting
  | resumed
  | completed
deriving Repr, DecidableEq

/-- A row of `authoring_execution_events`. -/
structure ExecutionEvent where
  eventId : String
  eventType : EventType
  tenantId : String
  workOrderId : String
  harnessRunId : String
  idempotencyKey : String
  sequence : Nat
  attempt : Nat
  executor : Option String
  nodeName : Option String
  fieldId : Option String
  unitId : Option String
  status : EventStatus
  errorCode : Option String
  sanitizedPayload : List (String × String)
  occurredAt : Nat
deriving Repr, DecidableEq

/-- The harness tables. -/
structure Tables where
  runs : List HarnessRun
  receipts : List Receipt
  checkpoints : List Checkpoint
  drafts : List UnitDraft
  events : List ExecutionEvent
deriving Repr, DecidableEq

def Tables.empty : Tables :=
  { runs := [], receipts := [], checkpoints := [], drafts := [], events := [] }

/-! ### Exceptions -/

/-- What a call raises. -/
inductive Failure
  -- KeyError
  | unknownRun (runId : String)
  | unknownReceipt (receiptId : String)
  -- ValueError
  | cannotClaim (status : RunStatus)
  | unsupportedTarget
  | cannotChange (status : RunStatus)
  | cannotRetry (status : RunStatus)
  | retriesExhausted
  | unsupportedDecision
  | eventKeyWithoutAction
  | eventKeyWithoutType
  | notWaiting (status : RunStatus)
  | noPendingEvent
  | otherPendingEvent
  | otherProposal
  | expiredEvent
  | invalidExpiry
  | incompleteFence
  -- RuntimeError and HarnessLeaseLost
  | activeLease
  | leaseLost
  -- PermissionError
  | otherTenant
  -- IntegrityError
  | duplicateKey
  | missingReference
deriving Repr, DecidableEq

/-- The message of an exception that the module words itself. -/
def Failure.text : Failure → String
  | .unknownRun runId => "harness run not found: " ++ runId
  | .unknownReceipt receiptId => "node receipt not found: " ++ receiptId
  | .cannotClaim status => "harness run cannot be claimed from status " ++ status.text
  | .unsupportedTarget => "only paused or cancelled HarnessRun states may be requested"
  | .cannotChange status => "harness run cannot be changed from status " ++ status.text
  | .cannotRetry status => "harness run cannot be retried from status " ++ status.text
  | .retriesExhausted => "harness retry budget is exhausted"
  | .unsupportedDecision => "decision must be approve or reject"
  | .eventKeyWithoutAction => "event key requires a receipt action_key"
  | .eventKeyWithoutType => "event key requires an event type"
  | .notWaiting status => "harness run is not waiting for a human decision: " ++ status.text
  | .noPendingEvent => "harness run has no pending human event"
  | .otherPendingEvent => "pending human event does not match the HarnessRun"
  | .otherProposal => "proposal hash does not match the pending human event"
  | .expiredEvent => "pending human event has expired"
  | .invalidExpiry => "pending human event expiry is invalid"
  | .incompleteFence => "both lease_owner and fencing_token are required for fenced draft writes"
  | .activeLease => "harness run already has an active lease"
  | .leaseLost => "harness lease is no longer active"
  | .otherTenant => "human decision tenant does not match the HarnessRun"
  | .duplicateKey | .missingReference => ""

end HardwareDatabase.Harness
