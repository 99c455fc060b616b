/-
Module: HardwareDatabase.Memory.Service
Purpose: Runs of the memory control plane: any interleaving of transactions and of the steps of the single worker,
  with arbitrary clocks. The history beside the tables is read by no operation.
Trusted boundary: none
-/
import HardwareDatabase.Memory.Governance
import HardwareDatabase.Memory.Worker
import HardwareDatabase.Relational.Run

namespace HardwareDatabase.Memory

open Relational

/-- Where the single worker stands in the processing of an outbox row. -/
inductive WorkerPhase
  | idle
  | deletionClaimed (item : DeletionOperation)
  | deletionMatched (item : DeletionOperation)
  | deletionSkipped (item : DeletionOperation) (reason : String)
  | deletionDone (item : DeletionOperation)
  | projectionClaimed (item : ProjectionOperation)
  | projectionReady (item : ProjectionOperation) (projection : Projection)
  | projectionWritten (item : ProjectionOperation) (projection : Projection)
deriving Repr, DecidableEq

/-- The operations of the control plane. -/
inductive Op
  -- the user
  | setUserOptIn (userId : Nat) (enabled : Bool) (policyVersion : String) (now : Time)
  | createUserConsent (userId sessionId : Nat) (items : List ConsentSourceItem) (now : Time)
  | revokeConsent (userId consentEventId : Nat) (reason : String) (now : Time)
  -- the chat service
  | clearSession (sessionId : Nat) (now : Time)
  | deleteSession (sessionId : Nat) (now : Time)
  | editMessage (sessionId messageId : Nat) (reason : String) (now : Time)
  | enqueue (request : ReflectionRequest) (now : Time)
  | enqueueInConnection (request : ReflectionRequest) (now : Time)
  | disableAutoExtract (sessionId : Nat)
  -- governance
  | updateDraft (manages : Scope → Bool) (memoryId : Nat) (semantic : Semantic)
      (expectedRevision : Nat) (now : Time)
  | verify (manages : Scope → Bool) (memoryId expectedRevision : Nat) (evidence : List String)
      (now : Time)
  | reject (manages : Scope → Bool) (memoryId expectedRevision : Nat) (reason : String) (now : Time)
  | retireDeleted (manages : Scope → Bool) (memoryId expectedRevision : Nat) (reason : String)
      (now : Time)
  | purge (memoryId : Nat)
  | checkSupersede (manages : Scope → Bool) (memoryId replacementId expectedRevision : Nat)
  | supersede (manages : Scope → Bool) (memoryId replacementId expectedRevision : Nat) (now : Time)
  | expire (cutoff : Time) (limit : Nat) (now : Time)
  | requeueDeadLetter (jobId : Nat) (now : Time)
  -- reflection
  | claimNext (workerId : String) (leaseSeconds : Nat) (now clock : Time)
  | heartbeat (jobId token generation leaseSeconds : Nat) (clock : Time)
  | markRetry (jobId token generation : Nat) (error : String) (retryAfterSeconds : Nat)
      (clock : Time)
  | cancelJob (jobId token generation : Nat) (reason : String)
  | saveRun (job : Job) (sourceHash : String)
  | persistOutput (job : Job) (runId : Nat) (output : List OutputItem)
  | applyJob (job : Job) (messages : List SourceMessage) (sourceHash : String) (now : Time)
  -- the outboxes
  | claimDeletion (now : Time)
  | checkDeletion
  | deleteObject
  | completeDeletion (now : Time)
  | claimProjection (now : Time)
  | checkProjection
  | putObject
  | activateProjection (now : Time)
  | failOutbox (error : String) (clock : Time)
  | restart (now : Time)
  | reconcile (object : StoreObject)

/-- The control plane with the store, the worker and the callers between two transactions. -/
structure ServiceState where
  tables : Tables
  store : List StoreObject
  phase : WorkerPhase
  /-- the jobs that `claim_next` has returned -/
  claimed : List Job
  /-- the `supersede` calls that have passed their checks: memory, replacement, revision -/
  superseding : List (Nat × Nat × Nat)
  /-- the memories that have been rejected, deleted or superseded -/
  governed : List Nat
  /-- the consents and the memories that were sourced from them -/
  derived : List (Nat × Nat)
deriving Repr, DecidableEq

namespace RecordStatus

/-- Rejected, deleted or superseded. -/
def isGovernedAway : RecordStatus → Bool
  | .rejected | .deleted | .superseded => true
  | _ => false

/-- The statuses in which a memory is in use or on its way to be used. -/
def isWorking : RecordStatus → Bool
  | .needsRebuild | .candidate | .verificationPending | .verified => true
  | _ => false

end RecordStatus

namespace ServiceState

def start : ServiceState :=
  { tables := Tables.empty, store := [], phase := .idle, claimed := [], superseding := [],
    governed := [], derived := [] }

/-- The transaction of an operation that may raise. -/
def commit (state : ServiceState) : Except String Tables → ServiceState
  | .ok tables => { state with tables }
  | .error _ => state

/-- One operation, without the history. -/
def exec (env : Environment) (state : ServiceState) : Op → ServiceState
  | .setUserOptIn userId enabled policyVersion now =>
    { state with
      tables := setUserOptIn env.contentHash state.tables userId enabled policyVersion now }
  | .createUserConsent userId sessionId items now =>
    state.commit (createUserConsent env.manifestHash state.tables userId sessionId items now)
  | .revokeConsent userId consentEventId reason now =>
    { state with
      tables := revokeConsent env.contentHash state.tables userId consentEventId reason now }
  | .clearSession sessionId now =>
    { state with
      tables := invalidateSessionMemory env.contentHash state.tables sessionId "session_cleared"
        now }
  | .deleteSession sessionId now =>
    { state with
      tables := dropSessionJobs
        (invalidateSessionMemory env.contentHash state.tables sessionId "session_deleted" now)
        sessionId }
  | .editMessage sessionId messageId reason now =>
    { state with
      tables :=
        invalidateMessageMemory env.contentHash state.tables sessionId messageId reason now }
  | .enqueue request now =>
    { state with tables := (enqueueProjectReflection state.tables request now).1 }
  | .enqueueInConnection request now =>
    { state with tables := (enqueueProjectReflectionInConnection state.tables request now).1 }
  | .disableAutoExtract sessionId =>
    { state with
      tables := cancelJobsWhere state.tables
        (fun job => job.sessionId == sessionId && job.kind == .projectReflection)
        "session_auto_extract_disabled" }
  | .updateDraft manages memoryId semantic expectedRevision now =>
    state.commit
      (updateDraft env.contentHash state.tables manages memoryId semantic expectedRevision now)
  | .verify manages memoryId expectedRevision evidence now =>
    state.commit (verify state.tables manages memoryId expectedRevision evidence now)
  | .reject manages memoryId expectedRevision reason now =>
    state.commit
      (reject env.contentHash state.tables manages memoryId expectedRevision reason now)
  | .retireDeleted manages memoryId expectedRevision reason now =>
    state.commit
      (retireGoverned env.contentHash state.tables manages memoryId expectedRevision .deleted
        "delete" reason true now)
  | .purge memoryId => state.commit (purgeDeletedRecord state.tables memoryId)
  | .checkSupersede manages memoryId replacementId expectedRevision =>
    match supersedePrecheck state.tables manages memoryId replacementId with
    | .ok _ =>
      { state with
        superseding := (memoryId, replacementId, expectedRevision) :: state.superseding }
    | .error _ => state
  | .supersede manages memoryId replacementId expectedRevision now =>
    if (memoryId, replacementId, expectedRevision) ∈ state.superseding then
      state.commit
        (supersede state.tables manages memoryId replacementId expectedRevision now)
    else state
  | .expire cutoff limit now =>
    { state with
      tables := expireMemoryRecords env.contentHash env.uuid state.tables cutoff limit now }
  | .requeueDeadLetter jobId now =>
    { state with tables := requeueDeadLetter state.tables jobId now }
  | .claimNext workerId leaseSeconds now clock =>
    match claimNext env.uuid env.jobMaxRetries state.tables workerId leaseSeconds now clock with
    | (tables, none) => { state with tables }
    | (tables, some job) => { state with tables, claimed := job :: state.claimed }
  | .heartbeat jobId token generation leaseSeconds clock =>
    { state with tables := heartbeat state.tables jobId token generation leaseSeconds clock }
  | .markRetry jobId token generation error retryAfterSeconds clock =>
    { state with
      tables := markRetry env.jobMaxRetries state.tables jobId token generation error
        retryAfterSeconds clock }
  | .cancelJob jobId token generation reason =>
    { state with tables := cancelJob state.tables jobId token generation reason }
  | .saveRun job sourceHash =>
    if job ∈ state.claimed then { state with tables := saveRun state.tables job sourceHash }
    else state
  | .persistOutput job runId output =>
    if job ∈ state.claimed then
      state.commit (persistOutputForJob env state.tables job runId output)
    else state
  | .applyJob job messages sourceHash now =>
    if job ∈ state.claimed then
      state.commit (applyJob env state.tables job messages sourceHash now)
    else state
  | .claimDeletion now =>
    if state.phase = .idle then
      match claimDeletion env state.tables now with
      | (tables, none) => { state with tables }
      | (tables, some item) => { state with tables, phase := .deletionClaimed item }
    else state
  | .checkDeletion =>
    match state.phase with
    | .deletionClaimed item =>
      match deletionSkipReason state.tables item with
      | none => { state with phase := .deletionMatched item }
      | some reason => { state with phase := .deletionSkipped item reason }
    | _ => state
  | .deleteObject =>
    match state.phase with
    | .deletionMatched item =>
      { state with
        store := deleteObject state.store item.path item.storeKey
        phase := .deletionDone item }
    | _ => state
  | .completeDeletion now =>
    match state.phase with
    | .deletionDone item | .deletionSkipped item _ =>
      { state with
        tables := markProjectionDeleted state.tables item.operationId now, phase := .idle }
    | _ => state
  | .claimProjection now =>
    if state.phase = .idle then
      match claimProjection env state.tables now with
      | (tables, none) => { state with tables }
      | (tables, some item) => { state with tables, phase := .projectionClaimed item }
    else state
  | .checkProjection =>
    match state.phase with
    | .projectionClaimed item =>
      match projectionTarget env state.tables item with
      | .ok projection => { state with phase := .projectionReady item projection }
      | .error reason =>
        { state with
          tables := completeProjection state.tables item.operationId reason, phase := .idle }
    | _ => state
  | .putObject =>
    match state.phase with
    | .projectionReady item projection =>
      { state with
        store := putObject state.store
          { path := projection.path, storeKey := projection.storeKey,
            content := item.payload.content }
        phase := .projectionWritten item projection }
    | _ => state
  | .activateProjection now =>
    match state.phase with
    | .projectionWritten item projection =>
      match markProjectionActive state.tables item.operationId projection.projectionId
          item.expectedRevision item.expectedFence projection.currentContentHash now with
      | some tables => { state with tables, phase := .idle }
      | none =>
        { state with
          tables := completeProjection state.tables item.operationId "catalog_fence_changed"
          phase := .idle }
    | _ => state
  | .failOutbox error clock =>
    match state.phase with
    | .idle => state
    | .deletionClaimed item | .deletionMatched item | .deletionSkipped item _
    | .deletionDone item =>
      { state with
        tables := retryDeletion env state.tables item.operationId error clock, phase := .idle }
    | .projectionClaimed item | .projectionReady item _ | .projectionWritten item _ =>
      { state with
        tables := retryProjection env state.tables item.operationId error clock
        phase := .idle }
  | .restart now => { state with tables := requeueStuckOutbox state.tables now, phase := .idle }
  | .reconcile object =>
    if state.phase = .idle ∧ object ∈ state.store ∧
        reconcileKeeps env state.tables object = false then
      { state with store := deleteObject state.store object.path object.storeKey }
    else state

/-- Record what the tables show now. -/
def observe (state : ServiceState) : ServiceState :=
  { state with
    governed := (state.tables.records.filter fun record => record.status.isGovernedAway).map
      Record.memoryId ++ state.governed
    derived := state.tables.sources.filterMap (fun source =>
      source.consentEventId.map fun consentId => (consentId, source.memoryId)) ++ state.derived }

/-- One operation. -/
def step (env : Environment) (state : ServiceState) (op : Op) : ServiceState :=
  (state.exec env op).observe

end ServiceState

/-- The memory control plane. -/
def memoryService (env : Environment) : Machine ServiceState Op where
  init := ServiceState.start
  step := ServiceState.step env

/-! ### What an operation invalidates -/

/-- The sources that a session clear, a session deletion or a message edit invalidates. -/
def Op.invalidates : Op → Source → Bool
  | .clearSession sessionId _, source | .deleteSession sessionId _, source =>
    source.sessionId == sessionId
  | .editMessage sessionId messageId _ _, source =>
    source.sessionId == sessionId && source.messageId == messageId
  | _, _ => false

/-- The memories that lose a valid source. -/
def sourceInvalidated (tables : Tables) (op : Op) : List Nat :=
  validlySourced tables op.invalidates

/-- The number of valid sources that the operation leaves to a memory. -/
def sourcesLeft (tables : Tables) (op : Op) (memoryId : Nat) : Nat :=
  (tables.sources.filter fun source =>
    source.memoryId == memoryId && source.sourceValid && !op.invalidates source).length

end HardwareDatabase.Memory
