/-
Module: HardwareDatabase.Memory.Rows
Purpose: The rows of the long-term memory control plane (`src/src/memory/catalog.py`). Identifiers from `uuid4` are
  numbers of a supply; instants are microseconds. Columns that no modelled statement reads are left out.
Trusted boundary: none
-/

namespace HardwareDatabase.Memory

/-- Instants in microseconds: ISO texts with one offset compare like the numbers they denote. -/
abbrev Time := Nat

/-- The owner of a memory, and what `scope_fingerprint` identifies. -/
inductive Scope
  | user (userId : Nat)
  | project (departmentId kbId : String)
deriving Repr, DecidableEq, Inhabited

namespace Scope

def isUser : Scope → Bool
  | .user _ => true
  | .project _ _ => false

end Scope

/-- `MEMORY_STATUSES`. -/
inductive RecordStatus
  | candidate
  | verificationPending
  | supersedePending
  | needsRebuild
  | verified
  | superseded
  | rejected
  | deleted
  | provenanceMissing
deriving Repr, DecidableEq, Inhabited

namespace RecordStatus

/-- The status column's text. -/
def text : RecordStatus → String
  | .candidate => "candidate"
  | .verificationPending => "verification_pending"
  | .supersedePending => "supersede_pending"
  | .needsRebuild => "needs_rebuild"
  | .verified => "verified"
  | .superseded => "superseded"
  | .rejected => "rejected"
  | .deleted => "deleted"
  | .provenanceMissing => "provenance_missing"

/-- `ACTIVE_MEMORY_STATUSES`. -/
def isActive : RecordStatus → Bool
  | .candidate | .verified => true
  | _ => false

end RecordStatus

/-- `PROJECTION_KINDS`. -/
inductive ProjectionKind
  | candidate
  | verified
deriving Repr, DecidableEq

/-- A validated `ProjectMemory` or `UserMemory`. `attributes` is the JSON of the fields that no
statement of the control plane looks into (confidence, tags, validity window). -/
structure Semantic where
  memoryType : String
  title : String
  content : String
  subject : Option String
  attributes : String
deriving Repr, DecidableEq, Inhabited

/-- A `content_json` text: the redacted object `{}` or a semantic payload. -/
inductive Content
  | redacted
  | semantic (value : Semantic)
deriving Repr, DecidableEq, Inhabited

/-- The leaf a projection is published under: `namespace_for_user`, `namespace_for_project`. -/
structure Namespace where
  scope : Scope
  kind : ProjectionKind
deriving Repr, DecidableEq

/-- A `store_key`. The first three forms are allocated by the catalog; `proposed` is a key that the
extraction model put forward and that has none of these forms. An empty key cannot be written. -/
inductive StoreKey
  | memory (memoryId : Nat)
  | candidate (memoryId revision : Nat)
  | verified (memoryId revision : Nat)
  | proposed (first : Char) (rest : String)
deriving Repr, DecidableEq

/-- `memory_records`. -/
structure Record where
  memoryId : Nat
  scope : Scope
  status : RecordStatus
  currentRevision : Nat
  contentHash : String
  memoryType : String
  title : String
  subject : Option String
  content : Content
  replacementId : Option Nat
  updatedAt : Time
  deletedAt : Option Time
deriving Repr, DecidableEq, Inhabited

/-- `memory_revisions`. -/
structure Revision where
  memoryId : Nat
  revisionNo : Nat
  projectionId : Option Nat
  before : Option Content
  after : Option Content
  operation : String
deriving Repr, DecidableEq

/-- `memory_sources`. -/
structure Source where
  memoryId : Nat
  sessionId : Nat
  turnId : String
  messageId : Nat
  consentEventId : Option Nat
  sourceHash : String
  sourceRole : String
  contributionKind : String
  sourceValid : Bool
  invalidatedAt : Option Time
deriving Repr, DecidableEq

/-- `memory_projections`. The backend column is `'sqlite'` in every row the repository writes. -/
structure Projection where
  projectionId : Nat
  memoryId : Nat
  kind : ProjectionKind
  path : Namespace
  storeKey : StoreKey
  currentRevision : Nat
  currentContentHash : String
  active : Bool
  managerWritable : Bool
  fenceVersion : Nat
  retiredAt : Option Time
deriving Repr, DecidableEq

/-- One item of an immutable consent manifest (`memory_consent_source_items`). -/
structure ConsentSourceItem where
  ordinal : Nat
  turnId : String
  messageId : Nat
  role : String
  contentHash : String
deriving Repr, DecidableEq, Inhabited

/-- `memory_consent_events` with its source items. -/
structure ConsentEvent where
  consentEventId : Nat
  userId : Nat
  sessionId : Nat
  turnId : String
  messageId : Nat
  policyVersion : String
  revokeGeneration : Nat
  revokedAt : Option Time
  authorizedStart : String × Nat
  authorizedEnd : String × Nat
  authorizedSourceHash : String
  manifest : List ConsentSourceItem
deriving Repr, DecidableEq

/-- `user_memory_settings`. -/
structure UserSettings where
  userId : Nat
  optIn : Bool
  policyVersion : String
  revokeGeneration : Nat
deriving Repr, DecidableEq

inductive JobKind
  | projectReflection
  | userReflection
deriving Repr, DecidableEq, Inhabited

/-- The statuses of `memory_jobs`. -/
inductive JobStatus
  | pending
  | running
  | retrying
  | completed
  | cancelled
  | deadLetter
deriving Repr, DecidableEq, Inhabited

namespace JobStatus

/-- `status IN ('pending', 'retrying', 'running')`: the job still has work to do. -/
def isOpen : JobStatus → Bool
  | .pending | .retrying | .running => true
  | _ => false

end JobStatus

/-- `memory_jobs`. `authorized` groups the five authorisation columns, which are `NULL` together. -/
structure Job where
  jobId : Nat
  sessionId : Nat
  kind : JobKind
  scope : Scope
  consentEventId : Option Nat
  consentPolicyVersion : Option String
  consentRevokeGeneration : Option Nat
  targetTurnId : String
  targetMessageId : Nat
  sourceStartTurnId : Option String
  sourceStartMessageId : Option Nat
  authorized : Option ((String × Nat) × (String × Nat) × String)
  generation : Nat
  status : JobStatus
  requestedAt : Time
  availableAt : Time
  nextRetryAt : Option Time
  leaseOwner : Option String
  leaseToken : Option Nat
  leaseExpiresAt : Option Time
  claimedAt : Option Time
  completedAt : Option Time
  retryCount : Nat
  lastError : String
deriving Repr, DecidableEq, Inhabited

/-- `memory_checkpoints`. -/
structure Checkpoint where
  jobId : Nat
  committedTurnId : Option String
  committedMessageId : Option Nat
  committedGeneration : Nat
  sourceFingerprint : Option String
deriving Repr, DecidableEq

/-- The statuses of `memory_reflection_runs`. -/
inductive RunStatus
  | prepared
  | outputPersisted
  | catalogCommitted
  | projected
  | failed
deriving Repr, DecidableEq

/-- One item of a persisted reflection output. -/
structure OutputItem where
  semantic : Semantic
  outputKey : Option StoreKey
deriving Repr, DecidableEq

/-- The payload that `_run_key` hashes: equal keys are equal payloads. -/
structure RunKey where
  kind : JobKind
  consentEventId : Option Nat
  scope : Scope
  targetTurnId : String
  targetMessageId : Nat
  generation : Nat
  authorized : Option ((String × Nat) × (String × Nat) × String)
  sourceSnapshotHash : String
deriving Repr, DecidableEq

/-- `memory_reflection_runs`. -/
structure Run where
  runId : Nat
  jobId : Nat
  generation : Nat
  kind : JobKind
  consentEventId : Option Nat
  runKey : RunKey
  snapshotRef : Option RunKey
  outputPayload : Option (List OutputItem)
  status : RunStatus
deriving Repr, DecidableEq

/-- `memory_run_items`. The table has no `job_id` column. -/
structure RunItem where
  runId : Nat
  itemOrdinal : Nat
  outputItemHash : String
  plannedAction : String
  memoryId : Option Nat
  revisionNo : Option Nat
  projectionId : Option Nat
  expectedFence : Option Nat
  status : String
deriving Repr, DecidableEq

/-- The statuses of both outboxes. -/
inductive OutboxStatus
  | pending
  | running
  | retrying
  | completed
  | deadLetter
deriving Repr, DecidableEq, Inhabited

namespace OutboxStatus

/-- `status IN ('pending', 'running', 'retrying')`. -/
def isOpen : OutboxStatus → Bool
  | .pending | .running | .retrying => true
  | _ => false

end OutboxStatus

/-- `payload_json` of a projection outbox row. -/
structure ProjectionPayload where
  kind : String
  content : Content
  contentHash : String
  runId : Option Nat
deriving Repr, DecidableEq, Inhabited

/-- `memory_projection_outbox`. Every row that is written is a `'put'`; its idempotency key
`put:{projection}:{revision}:{hash}` is determined by the columns kept here. -/
structure ProjectionOperation where
  operationId : Nat
  memoryId : Nat
  projectionId : Nat
  expectedRevision : Nat
  expectedFence : Nat
  payload : ProjectionPayload
  status : OutboxStatus
  retryCount : Nat
  nextRetryAt : Option Time
  lastError : String
  createdAt : Time
deriving Repr, DecidableEq, Inhabited

/-- `memory_deletion_outbox`. Every row that is written is a `'delete_projection'` whose payload
names the projection, its namespace and its key; the idempotency key
`delete:{memory}:{projection}:{fence}` is determined by the columns kept here. -/
structure DeletionOperation where
  operationId : Nat
  memoryId : Nat
  sourceOrConsentId : String
  expectedRevision : Nat
  expectedFence : Nat
  projectionId : Nat
  path : Namespace
  storeKey : StoreKey
  reason : String
  status : OutboxStatus
  retryCount : Nat
  nextRetryAt : Option Time
  lastError : String
  createdAt : Time
deriving Repr, DecidableEq

/-- The memory control plane. `nextId` is the supply of `uuid4` values. -/
structure Tables where
  records : List Record
  revisions : List Revision
  sources : List Source
  projections : List Projection
  consents : List ConsentEvent
  settings : List UserSettings
  jobs : List Job
  checkpoints : List Checkpoint
  runs : List Run
  runItems : List RunItem
  projectionOutbox : List ProjectionOperation
  deletionOutbox : List DeletionOperation
  nextId : Nat
deriving Repr, DecidableEq

namespace Tables

/-- The tables after `ensure_memory_schema` on an empty database. -/
def empty : Tables :=
  { records := [], revisions := [], sources := [], projections := [], consents := [],
    settings := [], jobs := [], checkpoints := [], runs := [], runItems := [],
    projectionOutbox := [], deletionOutbox := [], nextId := 1 }

end Tables

end HardwareDatabase.Memory
