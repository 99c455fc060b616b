/-
Module: HardwareDatabase.ResultExports.Jobs
Purpose: The export jobs of `ResultExportStore` (`src/src/result_exports/store.py`) with their outbox rows and
  artifacts. `now` is the instant that the caller has read; the checks of a rendered file, the digest and the settings
  are parameters. The foreign keys never refuse a statement.
Trusted boundary: none
-/
import HardwareDatabase.ResultExports.Enqueue
import HardwareDatabase.Relational.Table

namespace HardwareDatabase.ResultExports

open Python (strip clip lowerAscii)
open Relational

/-! ### Rows -/

/-- A row of `result_snapshots`. -/
structure SnapshotRow where
  snapshotId : Nat
  ownerUserId : String
  tenantId : String
  departmentId : Option String
  knowledgeBaseName : String
  sessionId : String
  turnId : String
  assistantMessageId : Option Int
  schemaVersion : String
  sourceHash : String
  envelopeJson : String
  createdAt : Nat
deriving Repr, DecidableEq

/-- A row of `result_export_jobs`. -/
structure JobRow where
  exportJobId : Nat
  snapshotId : Nat
  ownerUserId : String
  tenantId : String
  departmentId : Option String
  knowledgeBaseName : String
  sessionId : String
  assistantMessageId : Option Int
  format : ExportFormat
  contentShape : ContentShape
  clientRequestId : String
  options : String
  status : ExportJobStatus
  attempt : Nat
  maxAttempts : Nat
  availableAt : Nat
  leaseOwner : Option String
  leaseToken : Nat
  leaseExpiresAt : Option Nat
  artifactId : Option Nat
  errorMessage : String
  createdAt : Nat
  updatedAt : Nat
  completedAt : Option Nat
deriving Repr, DecidableEq, Inhabited

/-- The status of an outbox row. -/
inductive OutboxStatus
  | pending
  | running
  | dispatched
  | failed
  | cancelled
deriving Repr, DecidableEq

/-- A row of `result_export_outbox`. -/
structure OutboxRow where
  outboxId : Nat
  exportJobId : Nat
  status : OutboxStatus
  attempt : Nat
  availableAt : Nat
  lastError : String
  createdAt : Nat
  dispatchedAt : Option Nat
deriving Repr, DecidableEq

/-- The name of a file in the export storage: `{artifact_id}.{extension}`. -/
structure StorageRef where
  artifactId : Nat
  extension : ExportFormat
deriving Repr, DecidableEq

/-- A row of `result_artifacts`. The empty storage reference is `none`. -/
structure ArtifactRow where
  artifactId : Nat
  exportJobId : Nat
  ownerUserId : String
  tenantId : String
  departmentId : Option String
  knowledgeBaseName : String
  sessionId : String
  format : ExportFormat
  filename : String
  mimeType : String
  size : Nat
  sha256 : String
  storageRef : Option StorageRef
  preview : String
  createdAt : Nat
  expiresAt : Option Nat
deriving Repr, DecidableEq

/-- The tables. `nextId` is the supply of `uuid4` values. -/
structure JobTables where
  snapshots : List SnapshotRow
  jobs : List JobRow
  outbox : List OutboxRow
  artifacts : List ArtifactRow
  nextId : Nat
deriving Repr, DecidableEq

/-- What a call raises. -/
inductive JobFailure
  -- ValueError
  | identifierRequired
  | unsupportedFormat (value : String)
  | formatDisabled (format : ExportFormat)
  | unsupportedShape (value : String)
  | sessionMismatch
  | keyConflict
  | workerRequired
  | tooLarge
  | formatMismatch
  | invalidPayload
  -- KeyError
  | snapshotNotFound
  -- RuntimeError
  | leaseLost
  -- IntegrityError
  | duplicateKey
deriving Repr, DecidableEq

/-- The values of `EXPORT_FORMATS`. -/
def ExportFormat.text : ExportFormat → String
  | .md => "md"
  | .xlsx => "xlsx"
  | .docx => "docx"
  | .pdf => "pdf"
  | .pptx => "pptx"

/-- The message of an exception that the module words itself; the checks of a payload have messages of
their own. -/
def JobFailure.text : JobFailure → String
  | .identifierRequired => "export owner/source identifiers are required"
  | .unsupportedFormat value => "unsupported export format: " ++ value
  | .formatDisabled format => "export format is disabled: " ++ format.text
  | .unsupportedShape value => "unsupported export content shape: " ++ value
  | .sessionMismatch => "export session does not match result snapshot"
  | .keyConflict => "export idempotency key conflicts with existing payload"
  | .workerRequired => "worker_id is required"
  | .tooLarge => "export artifact exceeds size limit"
  | .formatMismatch => "artifact format does not match export job"
  | .snapshotNotFound => "result snapshot not found"
  | .leaseLost => "export job lease lost"
  | .invalidPayload | .duplicateKey => ""

/-- The settings, and the code that looks at the bytes of a file. -/
structure Settings where
  enabled : ExportFormat → Bool
  maxRunningJobs : Int
  maxBytes : Int
  retentionDays : Int
  validPayload : ExportFormat → List UInt8 → String → Bool
  sha256 : List UInt8 → String

/-- One second in microseconds. -/
def oneSecond : Nat := 1000000

/-- The number of leases that a claim from the queue admits. -/
def Settings.runningLimit (settings : Settings) : Nat :=
  (max 1 settings.maxRunningJobs).toNat

/-! ### Creation -/

/-- `EXPORT_FORMAT_ALIASES` and the formats themselves. -/
def exportFormatAliases : List (String × ExportFormat) :=
  [("markdown", .md), ("md", .md), ("excel", .xlsx), ("xlsx", .xlsx), ("word", .docx), ("woed", .docx),
    ("docx", .docx), ("pdf", .pdf), ("powerpoint", .pptx), ("power-point", .pptx), ("ppt", .pptx),
    ("pptx", .pptx)]

/-- `normalize_export_format`. -/
def normalizeExportFormat (value : String) : Except JobFailure ExportFormat :=
  let normalized := String.ofList ((lowerAscii (strip value)).toList.dropWhile (· == '.'))
  match exportFormatAliases.find? fun entry => entry.1 == normalized with
  | some entry => .ok entry.2
  | none => .error (.unsupportedFormat value)

/-- `normalize_content_shape`. -/
def normalizeContentShape (value : String) : Except JobFailure ContentShape :=
  let normalized := lowerAscii (strip (if value = "" then "report" else value))
  if normalized = "report" then .ok .report
  else if normalized = "data" then .ok .data
  else if normalized = "raw" then .ok .raw
  else .error (.unsupportedShape value)

/-- `_as_id`. -/
def asText (value : String) : Except JobFailure String :=
  if strip value = "" then .error .identifierRequired else .ok (strip value)

/-- The arguments of `create_export_job`. Options are the text that a dictionary is stored as. -/
structure CreateJobCall where
  ownerUserId : String
  tenantId : Option String
  departmentId : Option String
  knowledgeBaseName : Option String
  sessionId : String
  snapshotId : Nat
  format : String
  contentShape : String
  clientRequestId : String
  options : String
  maxAttempts : Int
  availableAt : Option Nat
deriving Repr, DecidableEq

/-- `if not condition: raise failure`. -/
def require (condition : Prop) [Decidable condition] (failure : JobFailure) : Except JobFailure Unit :=
  if condition then .ok () else .error failure

/-- A text that is given and not empty. -/
def given (value : Option String) : Option String :=
  value.filter (· != "")

/-- `_create_export_job_in_connection`. -/
def createExportJob (settings : Settings) (tables : JobTables) (call : CreateJobCall) (now : Nat) :
    Except JobFailure JobTables := do
  let owner ← asText call.ownerUserId
  let session ← asText call.sessionId
  let requestId := clip 128 (← asText call.clientRequestId)
  let format ← normalizeExportFormat call.format
  require (settings.enabled format = true) (.formatDisabled format)
  let shape ← normalizeContentShape call.contentShape
  let available := call.availableAt.getD now
  match tables.snapshots.find? fun row => row.snapshotId == call.snapshotId && row.ownerUserId == owner with
  | none => throw .snapshotNotFound
  | some snapshot =>
    require (snapshot.sessionId = session) .sessionMismatch
    let tenant ← asText ((given call.tenantId).getD snapshot.tenantId)
    match tables.jobs.find? fun row =>
        row.ownerUserId == owner && row.clientRequestId == requestId && row.format == format with
    | some existing =>
      require (existing.snapshotId = call.snapshotId ∧ existing.contentShape = shape ∧
        existing.options = call.options) .keyConflict
      return tables
    | none =>
      let job : JobRow :=
        { exportJobId := tables.nextId, snapshotId := call.snapshotId, ownerUserId := owner,
          tenantId := tenant, departmentId := (given call.departmentId).or snapshot.departmentId,
          knowledgeBaseName :=
            strip ((given call.knowledgeBaseName).getD snapshot.knowledgeBaseName),
          sessionId := session, assistantMessageId := snapshot.assistantMessageId, format,
          contentShape := shape, clientRequestId := requestId, options := call.options,
          status := .queued, attempt := 0, maxAttempts := (max 1 (min call.maxAttempts 20)).toNat,
          availableAt := available, leaseOwner := none, leaseToken := 0, leaseExpiresAt := none,
          artifactId := none, errorMessage := "", createdAt := now, updatedAt := now,
          completedAt := none }
      let row : OutboxRow :=
        { outboxId := tables.nextId + 1, exportJobId := tables.nextId, status := .pending,
          attempt := 0, availableAt := available, lastError := "", createdAt := now,
          dispatchedAt := none }
      return { tables with
        jobs := tables.jobs ++ [job], outbox := tables.outbox ++ [row],
        nextId := tables.nextId + 2 }

/-! ### Leases -/

variable (tables : JobTables)

/-- `SELECT * FROM result_export_jobs WHERE export_job_id = ?`. -/
def JobTables.job? (jobId : Nat) : Option JobRow :=
  tables.jobs.find? fun row => row.exportJobId == jobId

/-- An update of a job and one of its outbox row. -/
def JobTables.updateJob (jobId : Nat) (job : JobRow → JobRow) (outbox : OutboxRow → OutboxRow) : JobTables :=
  { tables with
    jobs := updateWhere (fun row => row.exportJobId == jobId) job tables.jobs
    outbox := updateWhere (fun row => row.exportJobId == jobId) outbox tables.outbox }

/-- The job runs under a lease that has not expired. -/
def JobRow.leased (job : JobRow) (now : Nat) : Bool :=
  job.status == .running && job.leaseExpiresAt.any fun expires => now < expires

/-- The number of jobs that run under a lease that has not expired. -/
def JobTables.activeRunning (now : Nat) : Nat :=
  tables.jobs.countP fun job => job.leased now

/-- The end of a lease. -/
def leaseEnd (now : Nat) (leaseSeconds : Int) : Nat :=
  now + (max 5 leaseSeconds).toNat * oneSecond

/-- A queued job that is due. -/
def JobRow.isDue (job : JobRow) (now : Nat) : Bool :=
  job.status == .queued && job.availableAt ≤ now

/-- A running job whose lease has expired. -/
def JobRow.isAbandoned (job : JobRow) (now : Nat) : Bool :=
  job.status == .running && job.leaseExpiresAt.any fun expires => expires ≤ now

/-- The job after a claim. -/
def JobRow.claimed (job : JobRow) (worker : String) (expires now : Nat) : JobRow :=
  { job with
    status := .running, attempt := job.attempt + 1, leaseOwner := some worker,
    leaseToken := job.leaseToken + 1, leaseExpiresAt := some expires, updatedAt := now,
    errorMessage := "" }

/-- The job after its last attempt. -/
def JobRow.buried (job : JobRow) (now : Nat) : JobRow :=
  { job with
    status := .deadLetter, errorMessage := "maximum_attempts_exceeded", leaseOwner := none,
    leaseExpiresAt := none, completedAt := some now, updatedAt := now }

/-- `claim`. -/
def claim (settings : Settings) (tables : JobTables) (jobId : Nat) (workerId : String)
    (leaseSeconds : Int) (now : Nat) : Except JobFailure (JobTables × Option JobRow) :=
  if strip workerId = "" then .error .workerRequired
  else
    match tables.job? jobId with
    | none => .ok (tables, none)
    | some job =>
      -- a terminal job is neither due nor abandoned
      if !(job.isDue now || job.isAbandoned now) then .ok (tables, none)
      else if job.status = .queued ∧ settings.runningLimit ≤ tables.activeRunning now then
        .ok (tables, none)
      else if job.maxAttempts < job.attempt + 1 then
        .ok (tables.updateJob jobId (fun row => row.buried now)
          (fun row => { row with
            status := .failed, lastError := "maximum_attempts_exceeded", dispatchedAt := some now }),
          none)
      else
        .ok (tables.updateJob jobId
            (fun row => row.claimed (strip workerId) (leaseEnd now leaseSeconds) now) id,
          some (job.claimed (strip workerId) (leaseEnd now leaseSeconds) now))

/-- The job runs under the lease of a worker. -/
def JobRow.heldBy (job : JobRow) (workerId : String) (leaseToken : Nat) : Bool :=
  job.status == .running && job.leaseOwner == some workerId && job.leaseToken == leaseToken

/-- `heartbeat`. -/
def heartbeat (jobId : Nat) (workerId : String) (leaseToken : Nat)
    (leaseSeconds : Int) (now : Nat) : Except JobFailure JobTables :=
  if tables.jobs.any fun row => row.exportJobId == jobId && row.heldBy workerId leaseToken then
    .ok { tables with
      jobs :=
        updateWhere (fun row => row.exportJobId == jobId && row.heldBy workerId leaseToken)
          (fun row => { row with
            leaseExpiresAt := some (leaseEnd now leaseSeconds), updatedAt := now })
          tables.jobs }
  else .error .leaseLost

/-! ### The ends of a job -/

/-- The arguments of `publish_artifact`, with the extension and the safe name that it computes from the
file name before the first write. -/
structure PublishCall where
  jobId : Nat
  workerId : String
  leaseToken : Nat
  content : List UInt8
  extension : ExportFormat
  filename : String
  mimeType : String
  preview : String
deriving Repr, DecidableEq

/-- The row of a published file. -/
def PublishCall.artifact (call : PublishCall) (settings : Settings) (job : JobRow) (artifactId now : Nat) :
    ArtifactRow :=
  { artifactId, exportJobId := call.jobId, ownerUserId := job.ownerUserId, tenantId := job.tenantId,
    departmentId := job.departmentId, knowledgeBaseName := job.knowledgeBaseName,
    sessionId := job.sessionId, format := call.extension, filename := call.filename,
    mimeType := call.mimeType, size := call.content.length, sha256 := settings.sha256 call.content,
    storageRef := some { artifactId, extension := call.extension }, preview := call.preview,
    createdAt := now,
    expiresAt := some (now + (max 1 settings.retentionDays).toNat * (24 * 60 * 60 * oneSecond)) }

/-- The size check of `publish_artifact`, which precedes the file. -/
def PublishCall.fits (call : PublishCall) (settings : Settings) : Bool :=
  decide ((call.content.length : Int) ≤ max 1 settings.maxBytes)

/-- The transaction of `publish_artifact`. -/
def publishArtifact (settings : Settings) (tables : JobTables) (call : PublishCall) (artifactId now : Nat) :
    Except JobFailure JobTables :=
  match tables.job? call.jobId with
  | none => .error .leaseLost
  | some job =>
    if job.heldBy call.workerId call.leaseToken = false then .error .leaseLost
    else if call.extension ≠ job.format then .error .formatMismatch
    else if settings.validPayload job.format call.content call.mimeType = false then
      .error .invalidPayload
    else if tables.artifacts.any fun row =>
        row.artifactId == artifactId || row.exportJobId == call.jobId then
      .error .duplicateKey
    else
      let published : JobTables :=
        { tables with artifacts := tables.artifacts ++ [call.artifact settings job artifactId now] }
      .ok (published.updateJob call.jobId
        (fun row => { row with
          status := .succeeded, artifactId := some artifactId, leaseOwner := none,
          leaseExpiresAt := none, completedAt := some now, updatedAt := now })
        fun row => { row with status := .dispatched, dispatchedAt := some now })

/-- The arguments of `fail`. -/
structure FailCall where
  jobId : Nat
  workerId : String
  leaseToken : Nat
  message : String
  retryable : Bool
  backoffSeconds : Int
deriving Repr, DecidableEq

/-- The message that a failure records. -/
def FailCall.recorded (call : FailCall) : String :=
  clip 1000 (if call.message = "" then "export failed" else call.message)

/-- The failure leaves another attempt. -/
def FailCall.canRetry (call : FailCall) (job : JobRow) : Bool :=
  call.retryable && job.attempt < job.maxAttempts

/-- `fail`. -/
def fail (call : FailCall) (now : Nat) : Except JobFailure JobTables :=
  match tables.job? call.jobId with
  | none => .error .leaseLost
  | some job =>
    if job.heldBy call.workerId call.leaseToken = false then .error .leaseLost
    else
      let available := now + (max 0 call.backoffSeconds).toNat * oneSecond
      .ok (tables.updateJob call.jobId
        (fun row => { row with
          status := if call.canRetry job then .queued else .deadLetter
          availableAt := available
          errorMessage := call.recorded
          leaseOwner := none
          leaseExpiresAt := none
          completedAt := if call.canRetry job then none else some now
          updatedAt := now })
        fun row => { row with
          status := if call.canRetry job then .pending else .failed
          attempt := row.attempt + 1
          availableAt := available
          lastError := call.recorded
          dispatchedAt := if call.canRetry job then none else row.dispatchedAt })

/-- The row of a job of an owner. -/
def JobTables.owned? (ownerUserId : String) (jobId : Nat) : Option JobRow :=
  tables.jobs.find? fun row => row.exportJobId == jobId && row.ownerUserId == ownerUserId

/-- `cancel`. -/
def cancel (ownerUserId : String) (jobId : Nat) (reason : String) (now : Nat) : JobTables :=
  match tables.owned? ownerUserId jobId with
  | none => tables
  | some job =>
    if job.status = .queued ∨ job.status = .running then
      let recorded := clip 1000 (if reason = "" then "user cancelled" else reason)
      tables.updateJob jobId
        (fun row => { row with
          status := .cancelled, errorMessage := recorded, leaseOwner := none, leaseExpiresAt := none,
          completedAt := some now, updatedAt := now })
        fun row => { row with status := .cancelled, lastError := recorded, dispatchedAt := some now }
    else tables

/-- `retry`. -/
def retry (ownerUserId : String) (jobId : Nat) (now : Nat) : JobTables :=
  match tables.owned? ownerUserId jobId with
  | none => tables
  | some job =>
    if job.status = .failed ∨ job.status = .deadLetter ∨ job.status = .cancelled then
      tables.updateJob jobId
        (fun row => { row with
          status := .queued, attempt := 0, errorMessage := "", leaseOwner := none,
          leaseExpiresAt := none, completedAt := none, availableAt := now, updatedAt := now })
        fun row => { row with
          status := .pending, availableAt := now, lastError := "", dispatchedAt := none }
    else tables

/-! ### Retention and deletion -/

/-- An artifact whose file is due for removal. -/
def ArtifactRow.isExpired (row : ArtifactRow) (current : Nat) : Bool :=
  row.expiresAt.any (fun expires => expires ≤ current) && row.storageRef.isSome

/-- The rows that a retention sweep selects: the first by expiry and identifier. -/
def JobTables.expired (current : Nat) (limit : Int) : List ArtifactRow :=
  ((tables.artifacts.filter fun row => row.isExpired current).mergeSort fun left right =>
      decide (left.expiresAt.getD 0 < right.expiresAt.getD 0 ∨
        left.expiresAt.getD 0 = right.expiresAt.getD 0 ∧ left.artifactId ≤ right.artifactId)).take
    (max 1 (min limit 1000)).toNat

/-- The transaction of `cleanup_expired`: the rows lose their storage references, whose files are unlinked
afterwards. -/
def expireArtifacts (current : Nat) (limit : Int) : JobTables × List StorageRef :=
  let expired := tables.expired current limit
  ({ tables with
      artifacts :=
        updateWhere (fun row => expired.any fun other => other.artifactId == row.artifactId)
          (fun row => { row with storageRef := none, expiresAt := some current }) tables.artifacts },
    expired.filterMap ArtifactRow.storageRef)

/-- The jobs of a session. -/
def JobTables.ofSession (sessionId : String) (jobId : Nat) : Bool :=
  tables.jobs.any fun job => job.exportJobId == jobId && job.sessionId == sessionId

/-- The cancelling transaction of `cleanup_session`. -/
def cancelSession (sessionId : String) (now : Nat) : JobTables :=
  { tables with
    jobs := updateWhere (fun job => job.sessionId == sessionId)
      (fun job =>
        let open_ := job.status == .queued || job.status == .running
        { job with
          status := if open_ then .cancelled else job.status
          leaseOwner := none
          leaseExpiresAt := none
          completedAt := if open_ then some now else job.completedAt
          updatedAt := now })
      tables.jobs
    outbox := updateWhere (fun row => tables.ofSession sessionId row.exportJobId)
      (fun row =>
        let open_ := row.status == .pending || row.status == .running
        { row with
          status := if open_ then .cancelled else row.status
          lastError := if open_ then "session deleted" else row.lastError
          dispatchedAt := if open_ then some now else row.dispatchedAt })
      tables.outbox }

/-- The storage references of a session. -/
def sessionRefs (sessionId : String) : List StorageRef :=
  (tables.artifacts.filter fun row => row.sessionId == sessionId).filterMap ArtifactRow.storageRef

/-- The deleting transaction of `cleanup_session`. -/
def deleteSession (sessionId : String) : JobTables :=
  { tables with
    outbox := deleteWhere (fun row => tables.ofSession sessionId row.exportJobId) tables.outbox
    artifacts := deleteWhere (fun row => row.sessionId == sessionId) tables.artifacts
    jobs := deleteWhere (fun job => job.sessionId == sessionId) tables.jobs
    snapshots := deleteWhere (fun row => row.sessionId == sessionId) tables.snapshots }

end HardwareDatabase.ResultExports
