/-
Module: HardwareDatabase.Sandbox.Store
Purpose: `SandboxTaskStore` (`src/src/sandbox/task_store.py`). Every operation is one `BEGIN IMMEDIATE` transaction.
  `clock` is the instant that it reads, `now` one that the call has read before; a row that was read before is an
  argument.
Trusted boundary: none
-/
import HardwareDatabase.Sandbox.Tasks
import Mathlib.Data.List.Sort

namespace HardwareDatabase.Sandbox

open Python (strip clip lowerAscii Dict)
open Relational

/-! ### Statements -/

variable (env : Environment) (db : Database)

/-- `_select`. -/
def Database.task? (taskId : String) : Option Task :=
  db.tasks.find? fun task => task.taskId == taskId

/-- `_select`, or the exception of a missing task. -/
def Database.require (taskId : String) : Except Failure Task :=
  match db.task? taskId with
  | some task => .ok task
  | none => .error (.taskNotFound ("sandbox task not found: " ++ taskId))

/-- `UPDATE sandbox_tasks SET .. WHERE ..`. -/
def Database.update (selects : Task → Bool) (rewrite : Task → Task) : Database :=
  { db with tasks := updateWhere selects rewrite db.tasks }

/-- An update that must meet one row. -/
def Database.updateOne (selects : Task → Bool) (rewrite : Task → Task) (failure : Failure) : Except Failure Database :=
  if db.tasks.countP selects = 1 then .ok (db.update selects rewrite) else .error failure

/-- The row that `_event` inserts. -/
def TaskEvent.stored (event : TaskEvent) : TaskEvent :=
  { event with
    action := clip 100 event.action, actorId := clip 128 event.actorId, leaseOwner := clip 128 event.leaseOwner }

/-- `_event`. -/
def Database.record (event : TaskEvent) : Database :=
  { db with events := db.events ++ [event.stored] }

/-- The row of a task under the revision that was read. -/
def Task.isAt (task : Task) (taskId : String) (revision : Nat) : Bool :=
  task.taskId == taskId && task.revision == revision

/-- `value or default` of two texts. -/
def orText (value default : String) : String :=
  if value = "" then default else value

/-! ### Creation -/

/-- The characters of a bounded opaque reference. -/
def isReferenceChar (character : Char) : Bool :=
  "ABCDEFGHIJKLMNOPQRSTUVWXYZabcdefghijklmnopqrstuvwxyz0123456789._:-".toList.contains character

/-- The reference that `create` accepts as the name of a task. -/
def isReference (taskId : String) : Bool :=
  taskId != "" && taskId.length ≤ 128 && taskId.toList.all isReferenceChar

/-- The row that `create` inserts. -/
def admittedTask (spec : SandboxTaskSpec) (taskId : String) (now : Nat) : Task where
  taskId
  requestFingerprint := env.fingerprint spec
  admission := spec
  deadlineAt := orText spec.deadlineAt (env.iso (now + (max 1 env.taskTimeoutSeconds).toNat * 1000000))
  createdAt := now
  outputManifest := []
  status := .admitted
  desiredState := "running"
  observedState := ""
  cleanupState := "pending"
  executionId := ""
  backendRef := ""
  leaseOwner := ""
  leaseExpiresAt := none
  fencingToken := 0
  attempt := 0
  errorCode := ""
  revision := 0
  updatedAt := now
  startedAt := none
  finishedAt := none

/-- `create` of a validated specification; `drawn` is the name that `uuid4` makes. -/
def create (env : Environment) (db : Database) (spec : SandboxTaskSpec) (taskId drawn actorId : String)
    (now : Nat) : Except Failure (Database × Task) :=
  let taskId := strip (orText taskId drawn)
  if isReference taskId = false then .error (.valueError "task_id must be a bounded opaque reference")
  else
    match db.tasks.find? fun task =>
        task.admission.ownerId == spec.ownerId && task.admission.idempotencyKey == spec.idempotencyKey with
    | some existing =>
      if existing.requestFingerprint ≠ env.fingerprint spec then
        .error (.idempotencyConflict "idempotency key was already used for another task")
      else .ok (db, existing)
    | none =>
      if (db.task? taskId).isSome then .error .integrityError
      else
        let task := admittedTask env spec taskId now
        let inserted := { db with tasks := db.tasks ++ [task] }
        .ok (inserted.record
          { taskId, action := "sandbox.task_submit", fromStatus := none, toStatus := .admitted,
            actorId := orText actorId spec.ownerId, revision := 0 }, task)

/-! ### Transitions -/

/-- The arguments of `transition`. -/
structure TransitionCall where
  taskId : String
  toStatus : String
  expectedRevision : Option Int := none
  leaseOwner : Option String := none
  fencingToken : Option Int := none
  requireLease : Bool := false
  actorId : String := ""
  action : String := "sandbox.task_transition"
  observedState : Option String := none
  cleanupState : Option String := none
  desiredState : Option String := none
  executionId : Option String := none
  backendRef : Option String := none
  outputManifest : Option Dict := none
  errorCode : Option String := none
deriving Repr

/-- The refusal of a revision that is not the expected one. -/
def Task.checkRevision (task : Task) (expectedRevision : Option Int) : Except Failure Unit :=
  if expectedRevision.any (· != (task.revision : Int)) then .error (.taskConflict "task revision changed")
  else .ok ()

/-- The lease check of a call that asks for it. -/
def TransitionCall.checkLease (call : TransitionCall) (task : Task) (clock : Nat) : Except Failure Unit :=
  if call.requireLease then task.assertLease call.leaseOwner call.fencingToken clock else .ok ()

/-- The refusal of a repeated status that brings another manifest. -/
def TransitionCall.checkRepeated (call : TransitionCall) (task : Task) : Except Failure Unit :=
  if call.outputManifest.any fun manifest => !Python.Dict.equals manifest task.outputManifest then
    .error (.taskConflict "task already has a different result manifest")
  else .ok ()

/-- The refusal of a move that `_TRANSITIONS` does not list. -/
def Task.checkEdge (task : Task) (target : TaskStatus) : Except Failure Unit :=
  if target ∈ task.status.transitions then .ok ()
  else if task.status.isTerminal then
    .error (.taskAlreadyTerminal ("task is already terminal: " ++ task.status.text))
  else .error (.invalidTransition ("cannot transition " ++ task.status.text ++ " -> " ++ target.text))

/-- The manifest that a transition writes; a success must bring committed artifacts. -/
def TransitionCall.manifest (env : Environment) (call : TransitionCall) (task : Task) (target : TaskStatus) :
    Except Failure (Option Dict) :=
  if target = .succeeded then
    let given := manifestOr (call.outputManifest.getD []) task.outputManifest
    let manifest := safeManifest env given
    if overflows env given then .error .overflowError
    else if manifest.isEmpty || !manifestCommitted env manifest then
      .error (.taskConflict "task cannot succeed before committed output artifacts are recorded")
    else .ok (some manifest)
  else if call.outputManifest.any (overflows env) then .error .overflowError
  else .ok call.outputManifest

/-- Whether the lease ends with the move to a status. -/
def TaskStatus.endsLease (status : TaskStatus) : Bool :=
  status.isTerminal || status.isUncertain

/-- The row that a transition writes. -/
def TransitionCall.moved (call : TransitionCall) (target : TaskStatus)
    (manifest : Option Dict) (clock : Nat) (task : Task) : Task :=
  { task with
    status := target
    updatedAt := clock
    revision := task.revision + 1
    observedState := (call.observedState.map (clip 200)).getD task.observedState
    cleanupState := (call.cleanupState.map (clip 50)).getD task.cleanupState
    desiredState := (call.desiredState.map (clip 50)).getD task.desiredState
    executionId := (call.executionId.map (clip 256)).getD task.executionId
    backendRef := (call.backendRef.map (clip 256)).getD task.backendRef
    outputManifest := (manifest.map (safeManifest env)).getD task.outputManifest
    errorCode := (call.errorCode.map (clip 80)).getD task.errorCode
    finishedAt := if target.isTerminal then some clock else task.finishedAt
    leaseOwner := if target.endsLease then "" else task.leaseOwner
    leaseExpiresAt := if target.endsLease then none else task.leaseExpiresAt }

/-- The event of a transition. -/
def TransitionCall.event (call : TransitionCall) (task : Task) (target : TaskStatus) : TaskEvent where
  taskId := call.taskId
  action := call.action
  fromStatus := some task.status
  toStatus := target
  actorId := call.actorId
  leaseOwner := orText (call.leaseOwner.getD "") task.leaseOwner
  fencingToken := call.fencingToken.getD task.fencingToken
  revision := task.revision + 1

/-- The write of a transition, after its checks of the row. -/
def TransitionCall.move (call : TransitionCall) (db : Database) (task : Task)
    (target : TaskStatus) (clock : Nat) : Except Failure (Database × Task) := do
  task.checkEdge target
  let manifest ← call.manifest env task target
  let written ← db.updateOne (·.isAt call.taskId task.revision) (call.moved env target manifest clock)
    (.taskConflict "task revision changed")
  return (written.record (call.event task target), call.moved env target manifest clock task)

/-- `transition`. -/
def transition (call : TransitionCall) (clock : Nat) : Except Failure (Database × Task) :=
  match TaskStatus.named? (strip call.toStatus) with
  | none => .error (.invalidTransition ("unknown task status: " ++ strip call.toStatus))
  | some target => do
    let task ← db.require call.taskId
    task.checkRevision call.expectedRevision
    call.checkLease task clock
    if task.status = target then do
      call.checkRepeated task
      return (db, task)
    else call.move env db task target clock

/-- The call of `complete`. -/
def completeCall (taskId leaseOwner : String) (fencingToken : Int) (outputManifest : Dict)
    (expectedRevision : Option Int) (actorId : String) : TransitionCall where
  taskId
  toStatus := "succeeded"
  expectedRevision
  leaseOwner := some leaseOwner
  fencingToken := some fencingToken
  requireLease := true
  actorId := orText actorId leaseOwner
  action := "sandbox.task_complete"
  outputManifest := some outputManifest
  observedState := some "succeeded"
  cleanupState := some "complete"

/-- The call of `fail`. -/
def failCall (taskId leaseOwner : String) (fencingToken : Int) (errorCode : String)
    (expectedRevision : Option Int) : TransitionCall where
  taskId
  toStatus := "failed"
  expectedRevision
  leaseOwner := some leaseOwner
  fencingToken := some fencingToken
  requireLease := true
  actorId := leaseOwner
  action := "sandbox.task_failed"
  errorCode := some errorCode
  observedState := some "failed"
  cleanupState := some "complete"

/-- The call of `mark_unknown`. -/
def markUnknownCall (taskId : String) (leaseOwner : Option String) (fencingToken : Option Int)
    (reason : String) : TransitionCall where
  taskId
  toStatus := "unknown"
  leaseOwner
  fencingToken
  requireLease := leaseOwner.isSome
  actorId := orText (leaseOwner.getD "") "reconciler"
  action := "sandbox.task_unknown"
  observedState := some reason
  cleanupState := some "unknown"
  errorCode := some "unknown_execution"

/-- The call of `timeout`. -/
def timeoutCall (taskId leaseOwner : String) (fencingToken : Int) : TransitionCall where
  taskId
  toStatus := "timed_out"
  leaseOwner := some leaseOwner
  fencingToken := some fencingToken
  requireLease := true
  actorId := leaseOwner
  action := "sandbox.task_timeout"
  desiredState := some "cancelled"
  observedState := some "timed_out"
  cleanupState := some "unknown"
  errorCode := some "timeout"

/-- The outcomes that a reconciliation may report. -/
def reconciliationOutcomes : List String :=
  ["succeeded", "failed", "cancelled", "cleanup_pending", "unknown", "reconcile_required"]

/-- A status that a reconciliation starts from. -/
def TaskStatus.awaitsReconciliation (status : TaskStatus) : Bool :=
  status.isUncertain || status == .cancelRequested || status == .timedOut

/-- The call of `reconcile_outcome` about the row that it has read. -/
def reconcileCall (task : Task) (target executionId : String) (outputManifest : Option Dict)
    (cleanupState actorId : String) : TransitionCall where
  taskId := task.taskId
  toStatus := target
  actorId
  action := "sandbox.task_reconcile"
  executionId := some (orText executionId task.executionId)
  outputManifest
  cleanupState := some cleanupState
  observedState := some ("reconciled:" ++ target)

/-- `reconcile_outcome`, after it has read `task`. -/
def reconcileOutcome (task : Task) (outcome executionId : String)
    (outputManifest : Option Dict) (cleanupState actorId : String) (clock : Nat) : Except Failure (Database × Task) :=
  let target := lowerAscii (strip outcome)
  if reconciliationOutcomes.contains target = false then
    .error (.valueError "unsupported reconciliation outcome")
  else if task.status.awaitsReconciliation = false then
    if task.status.text = target then .ok (db, task)
    else .error (.invalidTransition ("task is not awaiting reconciliation: " ++ task.status.text))
  else if target = "succeeded" ∧
      overflows env (manifestOr (outputManifest.getD []) task.outputManifest) = true then
    .error .overflowError
  else if target = "succeeded" ∧
      manifestCommitted env (safeManifest env (manifestOr (outputManifest.getD []) task.outputManifest)) =
        false then
    .error (.taskConflict "reconciliation cannot mark success without committed artifacts")
  else transition env db (reconcileCall task target executionId outputManifest cleanupState actorId) clock

/-! ### Claims and leases -/

/-- The seconds of a lease. -/
def leaseDuration (leaseSeconds : Option Int) : Nat :=
  let seconds := leaseSeconds.getD 0
  (max 1 (if seconds = 0 then env.taskLeaseSeconds else seconds)).toNat

/-- The end of a lease that starts at `now`. -/
def leaseEnd (leaseSeconds : Option Int) (now : Nat) : Nat :=
  now + leaseDuration env leaseSeconds * 1000000

/-- A row that the limits count at an instant. -/
def Task.isActiveAt (task : Task) (now : Nat) : Bool :=
  task.status.isRunningLike && task.leaseExpiresAt.any (now < ·)

/-- The counted rows that a condition selects. -/
def Database.active (selects : Task → Bool) (now : Nat) : Nat :=
  db.tasks.countP fun task => selects task && task.isActiveAt now

/-- `max(1, int(settings.SANDBOX_MAX_CONCURRENT))`. -/
def Environment.globalLimit : Nat :=
  (max 1 env.maxConcurrent).toNat

/-- `max(1, int(settings.SANDBOX_MAX_CONCURRENT_PER_USER))`. -/
def Environment.userLimit : Nat :=
  (max 1 env.maxConcurrentPerUser).toNat

/-- `max(1, int(settings.SANDBOX_MAX_CONCURRENT_PER_DEPARTMENT))`. -/
def Environment.departmentLimit : Nat :=
  (max 1 env.maxConcurrentPerDepartment).toNat

/-- The limits leave room for one more task. -/
def Database.hasRoom (task : Task) (now : Nat) : Bool :=
  db.active (fun _ => true) now < env.globalLimit &&
    db.active (fun other => other.admission.ownerId == task.admission.ownerId) now < env.userLimit &&
    db.active (fun other => other.admission.departmentId == task.admission.departmentId) now <
      env.departmentLimit

/-- The row of a task whose deadline has passed before its claim. -/
def Task.overdue (now : Nat) (task : Task) : Task :=
  { task with
    status := .expired, desiredState := "cancelled", errorCode := "deadline_expired",
    finishedAt := some now, revision := task.revision + 1, updatedAt := now }

/-- The event of an expiry. -/
def expiryEvent (task : Task) (actorId : String) : TaskEvent where
  taskId := task.taskId
  action := "sandbox.task_expire"
  fromStatus := some task.status
  toStatus := .expired
  actorId
  revision := task.revision + 1

/-- The row of a claimed task. -/
def Task.claimedBy (owner : String) (now expires : Nat) (task : Task) : Task :=
  { task with
    status := .running, leaseOwner := owner, leaseExpiresAt := some expires,
    fencingToken := task.fencingToken + 1, attempt := task.attempt + 1, revision := task.revision + 1,
    startedAt := task.startedAt.or (some now), updatedAt := now, observedState := "" }

/-- The event of a claim. -/
def claimEvent (task : Task) (owner actorId : String) : TaskEvent where
  taskId := task.taskId
  action := "sandbox.task_start"
  fromStatus := some task.status
  toStatus := .running
  actorId := orText actorId owner
  leaseOwner := owner
  fencingToken := task.fencingToken + 1
  revision := task.revision + 1

/-- Another worker holds the task. -/
def Task.isHeldByOther (task : Task) (owner : String) (now : Nat) : Bool :=
  task.leaseOwner != "" && task.leaseExpiresAt.any (now < ·) && task.leaseOwner != owner

/-- A waiting row under the revision that was read. -/
def Task.isWaitingAt (task : Task) (taskId : String) (revision : Nat) : Bool :=
  task.isAt taskId revision && task.status.isWaiting

/-- `claim` of the row that it has read. -/
def claimRow (task : Task) (owner : String) (leaseSeconds : Option Int)
    (actorId : String) (now : Nat) : Except Failure (Database × Option Task) :=
  if task.status.isWaiting = false then
    if task.status.endsLease then .ok (db, none)
    else .error (.invalidTransition ("cannot claim task in " ++ task.status.text))
  else if (env.parseTime task.deadlineAt).any (· ≤ now) then
    let written := db.update (·.isWaitingAt task.taskId task.revision) (Task.overdue now)
    .ok (written.record (expiryEvent task "scheduler"), none)
  else if task.isHeldByOther owner now then .ok (db, none)
  else if db.hasRoom env task now = false then .ok (db, none)
  else do
    let claimed := Task.claimedBy owner now (leaseEnd env leaseSeconds now)
    let written ← db.updateOne (·.isWaitingAt task.taskId task.revision) claimed
      (.taskConflict "task was claimed by another worker")
    return (written.record (claimEvent task owner actorId), some (claimed task))

/-- `claim`. -/
def claim (env : Environment) (db : Database) (taskId workerId : String) (leaseSeconds : Option Int)
    (actorId : String) (now : Nat) : Except Failure (Database × Option Task) :=
  if strip workerId = "" then .error (.valueError "worker_id is required")
  else do
    let task ← db.require taskId
    claimRow env db task (strip workerId) leaseSeconds actorId now

/-- The row of the holder of a lease. -/
def Task.isHeldAt (task : Task) (taskId : String) (revision : Nat) (leaseOwner : String)
    (fencingToken : Int) : Bool :=
  task.isAt taskId revision && task.leaseOwner == leaseOwner && (task.fencingToken : Int) == fencingToken

/-- The row under a renewed lease. -/
def Task.renewed (now expires : Nat) (task : Task) : Task :=
  { task with leaseExpiresAt := some expires, revision := task.revision + 1, updatedAt := now }

/-- `renew_lease`. -/
def renewLease (taskId leaseOwner : String) (fencingToken : Int)
    (leaseSeconds : Option Int) (now clock : Nat) : Except Failure (Database × Task) := do
  let task ← db.require taskId
  task.assertLease (some leaseOwner) (some fencingToken) clock
  let renewed := Task.renewed now (leaseEnd env leaseSeconds now)
  let written ← db.updateOne (·.isHeldAt taskId task.revision leaseOwner fencingToken) renewed
    (.leaseLost "task lease changed while renewing")
  return (written, renewed task)

/-! ### Cancellation -/

/-- The row of a task that is to be cancelled once it is known. -/
def Task.cancellationDesired (clock : Nat) (task : Task) : Task :=
  { task with desiredState := "cancelled", updatedAt := clock, revision := task.revision + 1 }

/-- The status that a cancellation moves to: a task that nothing runs is cancelled at once. -/
def TaskStatus.cancelTarget (status : TaskStatus) : TaskStatus :=
  if status.isWaiting then .cancelled else .cancelRequested

/-- The row that a cancellation writes. -/
def Task.cancelledTo (target : TaskStatus) (clock : Nat) (task : Task) : Task :=
  { task with
    desiredState := "cancelled"
    status := target
    errorCode := orText task.errorCode "cancel_requested"
    finishedAt := if target = .cancelled then some clock else task.finishedAt
    leaseOwner := if target = .cancelled then "" else task.leaseOwner
    leaseExpiresAt := if target = .cancelled then none else task.leaseExpiresAt
    revision := task.revision + 1
    updatedAt := clock }

/-- The event of a cancellation. -/
def cancelEvent (task : Task) (target : TaskStatus) (actorId leaseOwner : String) : TaskEvent where
  taskId := task.taskId
  action := "sandbox.task_cancel"
  fromStatus := some task.status
  toStatus := target
  actorId
  leaseOwner
  fencingToken := task.fencingToken
  revision := task.revision + 1

/-- `request_cancel` of the row that it has read. -/
def cancelRow (task : Task) (actorId : String) (clock : Nat) : Except Failure (Database × Task) :=
  if task.status.isTerminal then .ok (db, task)
  else if task.status.isUncertain || task.status == .timedOut then
    if task.desiredState = "cancelled" then .ok (db, task)
    else
      let written := db.update (·.isAt task.taskId task.revision) (Task.cancellationDesired clock)
      .ok (written.record (cancelEvent task task.status actorId ""), task.cancellationDesired clock)
  else if task.status = .cancelRequested then .ok (db, task)
  else
    let target := task.status.cancelTarget
    if target ∉ task.status.transitions then
      .error (.invalidTransition ("cannot cancel task in " ++ task.status.text))
    else do
      let written ← db.updateOne (·.isAt task.taskId task.revision) (Task.cancelledTo target clock)
        (.taskConflict "task revision changed")
      return (written.record (cancelEvent task target actorId task.leaseOwner), task.cancelledTo target clock)

/-- `request_cancel`. -/
def requestCancel (taskId actorId : String) (clock : Nat) : Except Failure (Database × Task) := do
  let task ← db.require taskId
  cancelRow db task actorId clock

/-! ### Observations -/

/-- The arguments of `record_observation`. -/
structure ObservationCall where
  taskId : String
  leaseOwner : String
  fencingToken : Int
  observedState : String
  executionId : String := ""
  backendRef : String := ""
  cleanupState : String := ""
  expectedRevision : Option Int := none
deriving Repr

/-- The row that an observation writes. -/
def ObservationCall.observed (call : ObservationCall) (clock : Nat) (task : Task) : Task :=
  { task with
    observedState := clip 200 call.observedState
    executionId := if call.executionId = "" then task.executionId else clip 256 call.executionId
    backendRef := if call.backendRef = "" then task.backendRef else clip 256 call.backendRef
    cleanupState := if call.cleanupState = "" then task.cleanupState else clip 50 call.cleanupState
    revision := task.revision + 1
    updatedAt := clock }

/-- An event that keeps the status of a task. -/
def noteEvent (task : Task) (action actorId leaseOwner : String) (fencingToken : Int) : TaskEvent where
  taskId := task.taskId
  action
  fromStatus := some task.status
  toStatus := task.status
  actorId
  leaseOwner
  fencingToken
  revision := task.revision + 1

/-- `record_observation`. -/
def recordObservation (call : ObservationCall) (clock : Nat) : Except Failure (Database × Task) := do
  let task ← db.require call.taskId
  task.checkRevision call.expectedRevision
  task.assertLease (some call.leaseOwner) (some call.fencingToken) clock
  let written ← db.updateOne (·.isHeldAt call.taskId task.revision call.leaseOwner call.fencingToken)
    (call.observed clock) (.leaseLost "task lease changed while recording observation")
  return (written.record
    (noteEvent task "sandbox.task_observe" call.leaseOwner call.leaseOwner call.fencingToken),
    call.observed clock task)

/-- The states of a cleanup. -/
def cleanupStates : List String :=
  ["pending", "running", "complete", "unknown"]

/-- The lease check of a cleanup that names an owner. -/
def checkOptionalLease (task : Task) (leaseOwner : Option String) (fencingToken : Option Int) (clock : Nat) :
    Except Failure Unit :=
  if leaseOwner.isSome then task.assertLease leaseOwner fencingToken clock else .ok ()

/-- The row that a cleanup writes. -/
def Task.cleaned (cleanupState : String) (clock : Nat) (task : Task) : Task :=
  { task with cleanupState, revision := task.revision + 1, updatedAt := clock }

/-- The row that a cleanup meets. -/
def Task.isCleanable (task : Task) (taskId : String) (revision : Nat) (leaseOwner : Option String)
    (fencingToken : Option Int) : Bool :=
  task.isAt taskId revision &&
    (leaseOwner.isNone ||
      leaseOwner == some task.leaseOwner && fencingToken == some (task.fencingToken : Int))

/-- `set_cleanup_state`, after it has read `earlier` at the instant `now`. -/
def setCleanupState (earlier : Task) (cleanupState : String) (leaseOwner : Option String)
    (fencingToken : Option Int) (actorId : String) (now clock : Nat) : Except Failure (Database × Task) :=
  if cleanupStates.contains cleanupState = false then .error (.valueError "invalid cleanup state")
  else do
    checkOptionalLease earlier leaseOwner fencingToken now
    let task ← db.require earlier.taskId
    checkOptionalLease task leaseOwner fencingToken clock
    let written ← db.updateOne (·.isCleanable task.taskId task.revision leaseOwner fencingToken)
      (Task.cleaned cleanupState clock) (.leaseLost "task changed while updating cleanup state")
    return (written.record
      (noteEvent task "sandbox.task_cleanup" actorId (orText (leaseOwner.getD "") task.leaseOwner)
        (fencingToken.getD task.fencingToken)), task.cleaned cleanupState clock)

/-! ### Sweeps -/

/-- `max(1, min(int(limit), 1000))`. -/
def sweepLimit (limit : Int) : Nat :=
  (max 1 (min limit 1000)).toNat

/-- A row whose lease has expired. -/
def Task.isAbandoned (task : Task) (now : Nat) : Bool :=
  task.status.isRunningLike && task.leaseExpiresAt.any (· ≤ now)

/-- The status of an abandoned task: one that a runner knows is unknown. -/
def Task.abandonedStatus (task : Task) : TaskStatus :=
  if task.executionId = "" then .reconcileRequired else .unknown

/-- The row that the lease sweep writes. -/
def Task.abandoned (target : TaskStatus) (now : Nat) (task : Task) : Task :=
  { task with
    status := target, observedState := "lease_expired", cleanupState := "unknown", leaseOwner := "",
    leaseExpiresAt := none, errorCode := "lease_expired", revision := task.revision + 1, updatedAt := now }

/-- The event of an abandoned task. -/
def abandonedEvent (task : Task) : TaskEvent where
  taskId := task.taskId
  action := "sandbox.task_unknown"
  fromStatus := some task.status
  toStatus := task.abandonedStatus
  actorId := "reconciler"
  leaseOwner := task.leaseOwner
  fencingToken := task.fencingToken
  revision := task.revision + 1

/-- One row of the lease sweep. -/
def abandon (now : Nat) (db : Database) (task : Task) : Database :=
  (db.update (·.isAt task.taskId task.revision) (Task.abandoned task.abandonedStatus now)).record
    (abandonedEvent task)

/-- The rows that the lease sweep selects. -/
def Database.abandonedTasks (now : Nat) (limit : Int) : List Task :=
  ((db.tasks.filter (·.isAbandoned now)).insertionSort (·.updatedAt ≤ ·.updatedAt)).take (sweepLimit limit)

/-- `reconcile_expired_leases`; `now` is what the text of the instant reads. -/
def reconcileExpiredLeases (now : Nat) (limit : Int) : Database × List Task :=
  let rows := db.abandonedTasks now limit
  let swept := rows.foldl (abandon now) db
  (swept, rows.filterMap fun task => swept.task? task.taskId)

/-- A waiting row whose deadline has passed as a text. -/
def Task.isOverdueText (task : Task) (text : String) : Bool :=
  task.status.isWaiting && task.deadlineAt != "" && task.deadlineAt ≤ text

/-- One row of the deadline sweep; a row that the update does not meet is passed over. -/
def expireRow (now : Nat) (db : Database) (task : Task) : Database :=
  if db.tasks.countP (·.isWaitingAt task.taskId task.revision) = 1 then
    (db.update (·.isWaitingAt task.taskId task.revision) (Task.overdue now)).record
      (expiryEvent task "reconciler")
  else db

/-- The rows that the deadline sweep selects. -/
def Database.overdueTasks (now : Nat) (limit : Int) : List Task :=
  ((db.tasks.filter (·.isOverdueText (env.iso now))).insertionSort (·.deadlineAt ≤ ·.deadlineAt)).take
    (sweepLimit limit)

/-- `expire_deadlines`. -/
def expireDeadlines (now : Nat) (limit : Int) : Database × List Task :=
  let rows := db.overdueTasks env now limit
  let swept := rows.foldl (expireRow now) db
  (swept, rows.filterMap fun task => swept.task? task.taskId)

end HardwareDatabase.Sandbox
