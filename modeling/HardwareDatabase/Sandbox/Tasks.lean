/-
Module: HardwareDatabase.Sandbox.Tasks
Purpose: The rows of the sandbox task ledger (`src/src/sandbox/models.py`, `src/src/sandbox/task_store.py`). A column
  with an ISO text of one zone holds the instant. The error message, the metadata and the instant of an event are left
  out: no operation reads them.
Trusted boundary: none
-/
import HardwareDatabase.Python.Text
import HardwareDatabase.Python.Value
import HardwareDatabase.Relational.Table
import Mathlib.Algebra.Group.Int.Defs

namespace HardwareDatabase.Sandbox

open Python (strip clip lowerAscii Value Dict)
open Relational

/-! ### Statuses -/

/-- `TASK_STATUSES`. -/
inductive TaskStatus
  | admitted
  | queued
  | running
  | collecting
  | succeeded
  | rejected
  | timedOut
  | cancelRequested
  | cancelled
  | failed
  | expired
  | unknown
  | cleanupPending
  | reconcileRequired
deriving Repr, DecidableEq

namespace TaskStatus

def text : TaskStatus → String
  | .admitted => "admitted"
  | .queued => "queued"
  | .running => "running"
  | .collecting => "collecting"
  | .succeeded => "succeeded"
  | .rejected => "rejected"
  | .timedOut => "timed_out"
  | .cancelRequested => "cancel_requested"
  | .cancelled => "cancelled"
  | .failed => "failed"
  | .expired => "expired"
  | .unknown => "unknown"
  | .cleanupPending => "cleanup_pending"
  | .reconcileRequired => "reconcile_required"

/-- The statuses in the order of `TASK_STATUSES`. -/
def all : List TaskStatus :=
  [.admitted, .queued, .running, .collecting, .succeeded, .rejected, .timedOut, .cancelRequested, .cancelled,
    .failed, .expired, .unknown, .cleanupPending, .reconcileRequired]

/-- The status that a text names. -/
def named? (name : String) : Option TaskStatus :=
  all.find? fun status => status.text == name

/-- `TERMINAL_TASK_STATUSES`. -/
def isTerminal : TaskStatus → Bool
  | .succeeded | .rejected | .cancelled | .failed | .expired => true
  | _ => false

/-- `UNCERTAIN_TASK_STATUSES`. -/
def isUncertain : TaskStatus → Bool
  | .unknown | .cleanupPending | .reconcileRequired => true
  | _ => false

/-- The statuses that the limits count. -/
def isRunningLike : TaskStatus → Bool
  | .running | .collecting | .cancelRequested | .timedOut => true
  | _ => false

/-- The statuses that `claim` takes a task from. -/
def isWaiting : TaskStatus → Bool
  | .admitted | .queued => true
  | _ => false

/-- `_TRANSITIONS`. -/
def transitions : TaskStatus → List TaskStatus
  | .admitted => [.queued, .rejected, .expired, .cancelRequested, .cancelled]
  | .queued => [.running, .rejected, .expired, .cancelRequested, .cancelled, .reconcileRequired]
  | .running => [.collecting, .failed, .timedOut, .cancelRequested, .unknown, .reconcileRequired]
  | .collecting => [.succeeded, .failed, .cleanupPending, .unknown, .reconcileRequired]
  | .cancelRequested => [.cancelled, .unknown, .cleanupPending, .reconcileRequired]
  | .timedOut => [.cleanupPending, .unknown, .reconcileRequired]
  | .unknown => [.cleanupPending, .reconcileRequired, .succeeded, .failed, .cancelled]
  | .cleanupPending => [.cleanupPending, .reconcileRequired, .succeeded, .failed, .cancelled, .unknown]
  | .reconcileRequired => [.cleanupPending, .succeeded, .failed, .cancelled, .unknown]
  | .rejected | .expired | .succeeded | .cancelled | .failed => []

theorem transitions_eq_nil_iff (status : TaskStatus) : status.transitions = [] ↔ status.isTerminal = true := by
  cases status <;> simp [transitions, isTerminal]

theorem isWaiting_apart {status : TaskStatus} (waiting : status.isWaiting = true) :
    status.isTerminal = false ∧ status.isUncertain = false ∧ status.isRunningLike = false := by
  cases status <;> simp_all [isWaiting, isTerminal, isUncertain, isRunningLike]

end TaskStatus

/-! ### Rows -/

/-- A `SandboxTaskSpec` as `validate_task_spec` leaves it. -/
structure SandboxTaskSpec where
  idempotencyKey : String
  ownerId : String
  departmentId : String
  bundleRef : String
  bundleDigest : String
  profileRef : String
  policySnapshotHash : String
  capabilitySnapshotHash : String := ""
  kind : String := "task"
  networkPolicyRef : String := ""
  requiredCapabilities : List String := []
  inputArtifactIds : List String := []
  parameters : Dict := []
  deadlineAt : String := ""
  skillRef : String := ""
  skillContentDigest : String := ""
deriving Repr

/-- A `SandboxTask`, which is a row of `sandbox_tasks`: what was admitted and what has become of it. -/
structure Task where
  taskId : String
  requestFingerprint : String
  admission : SandboxTaskSpec
  deadlineAt : String
  createdAt : Nat
  outputManifest : Dict
  status : TaskStatus
  desiredState : String
  observedState : String
  cleanupState : String
  executionId : String
  backendRef : String
  leaseOwner : String
  leaseExpiresAt : Option Nat
  fencingToken : Nat
  attempt : Nat
  errorCode : String
  revision : Nat
  updatedAt : Nat
  startedAt : Option Nat
  finishedAt : Option Nat
deriving Repr

/-- A row of `sandbox_task_events`. The first event of a task comes from no status. -/
structure TaskEvent where
  taskId : String
  action : String
  fromStatus : Option TaskStatus
  toStatus : TaskStatus
  actorId : String := ""
  leaseOwner : String := ""
  fencingToken : Int := 0
  revision : Nat
deriving Repr, DecidableEq

/-- The two tables. -/
structure Database where
  tasks : List Task
  events : List TaskEvent
deriving Repr

def Database.empty : Database :=
  { tasks := [], events := [] }

/-- What the store reads from its settings and from the standard library. -/
structure Environment where
  /-- `SandboxTaskSpec.fingerprint`, a digest of the fields of the specification. -/
  fingerprint : SandboxTaskSpec → String
  /-- `datetime.isoformat`. -/
  iso : Nat → String
  /-- `_parse_time`. -/
  parseTime : String → Option Nat
  /-- `str(value)`. -/
  str : Value → String
  /-- `int(value)`; there is none where it raises `TypeError` or `ValueError`. -/
  int : Value → Option Int
  /-- An infinite float, for which `int` raises `OverflowError`. -/
  isInfinite : Value → Bool
  taskTimeoutSeconds : Int
  taskLeaseSeconds : Int
  maxConcurrent : Int
  maxConcurrentPerUser : Int
  maxConcurrentPerDepartment : Int

/-! ### Exceptions -/

/-- What a call raises, with its message. -/
inductive Failure
  | valueError (message : String)
  | integrityError
  | taskNotFound (message : String)
  | taskConflict (message : String)
  | idempotencyConflict (message : String)
  | invalidTransition (message : String)
  | leaseLost (message : String)
  | taskAlreadyTerminal (message : String)
  | overflowError
deriving Repr, DecidableEq

/-! ### Manifests -/

/-- `value or default` of a manifest. -/
def manifestOr (value default : Dict) : Dict :=
  if value.isEmpty then default else value

/-- `manifest.get(key, default)`. -/
def Dict.getOr (manifest : Dict) (key : String) (default : Value) : Value :=
  if manifest.any (fun entry => entry.1 == key) then Python.Dict.get manifest key else default

variable (env : Environment)

/-- `str(item.get(key) or "")`. -/
def Dict.textOf (item : Dict) (key : String) : String :=
  let value := Python.Dict.get item key
  if value.truthy then env.str value else ""

/-- The keys that an item of a manifest keeps. -/
def manifestKeys : List String :=
  ["artifact_id", "sha256", "state", "role", "filename", "media_type", "size"]

/-- What an item of a manifest keeps under a key. -/
def keepKey (raw : Dict) (item : Dict) (key : String) : Dict :=
  if raw.any (fun entry => entry.1 == key) then
    if key = "size" then
      match env.int (Python.Dict.get raw key) with
      | none => item
      | some size => Python.Dict.assign key (.int (max 0 (min size (2 ^ 63 - 1)))) item
    else Python.Dict.assign key (.string (clip 256 (Dict.textOf env raw key))) item
  else item

/-- An item of a manifest that names its artifact. -/
def safeItem? (raw : Value) : Option Value :=
  raw.dict?.bind fun entries =>
    let item := manifestKeys.foldl (keepKey env entries) []
    if (Python.Dict.get item "artifact_id").truthy then some (.object item) else none

/-- The items that `items` or `artifacts` list; one dictionary is a list of one. -/
def listed? (manifest : Dict) (default : Value) : Option (List Value) :=
  match Dict.getOr manifest "items" (Dict.getOr manifest "artifacts" default) with
  | .object entries => some [.object entries]
  | .array items => some items
  | _ => none

/-- Sanitising the manifest raises: the size of an item is infinite. -/
def overflows (manifest : Dict) : Bool :=
  ((listed? manifest (.array [])).getD []).take 256 |>.any fun raw => (raw.dict?.getD []).any fun entry =>
    entry.1 == "size" && env.isInfinite entry.2

/-- What `_safe_manifest` returns, where no size is infinite. -/
def safeManifest (manifest : Dict) : Dict :=
  match listed? manifest (.array []) with
  | none => []
  | some items => [("items", .array ((items.take 256).filterMap (safeItem? env)))]

/-- `".." in text`. -/
def hasDoubleDot : List Char → Bool
  | '.' :: '.' :: _ => true
  | _ :: rest => hasDoubleDot rest
  | [] => false

/-- An artifact reference without a path in it. -/
def isArtifactRef (artifactId : String) : Bool :=
  artifactId != "" && !artifactId.toList.contains '/' && !artifactId.toList.contains '\\' &&
    !hasDoubleDot artifactId.toList

/-- `text.removeprefix("sha256:")`. -/
def withoutScheme (text : String) : List Char :=
  if "sha256:".toList.isPrefixOf text.toList then text.toList.drop 7 else text.toList

/-- The digits of a digest. -/
def isHexDigit (character : Char) : Bool :=
  "0123456789abcdef".toList.contains character

/-- A digest of sixty-four digits. -/
def isDigest (text : String) : Bool :=
  let digits := withoutScheme (lowerAscii text)
  digits.length == 64 && digits.all isHexDigit

/-- An item of a manifest that the broker has committed. -/
def itemCommitted (item : Value) : Bool :=
  match item.dict? with
  | none => false
  | some entries =>
    ["committed", "consumed"].contains (Dict.textOf env entries "state") &&
      isArtifactRef (Dict.textOf env entries "artifact_id") && isDigest (Dict.textOf env entries "sha256")

/-- `_manifest_committed`. -/
def manifestCommitted (manifest : Dict) : Bool :=
  !manifest.isEmpty &&
    match listed? manifest (.object manifest) with
    | none => false
    | some items => !items.isEmpty && items.all (itemCommitted env)

/-! ### Leases -/

/-- `_assert_lease` at the instant it reads. -/
def Task.assertLease (task : Task) (leaseOwner : Option String) (fencingToken : Option Int) (clock : Nat) :
    Except Failure Unit :=
  match leaseOwner, fencingToken with
  | some owner, some token =>
    if owner = "" then .error (.leaseLost "lease owner and fencing token are required")
    else if task.leaseOwner ≠ owner ∨ (task.fencingToken : Int) ≠ token then
      .error (.leaseLost "task lease or fencing token is stale")
    else if task.leaseExpiresAt.any (clock < ·) then .ok ()
    else .error (.leaseLost "task lease has expired")
  | _, _ => .error (.leaseLost "lease owner and fencing token are required")

/-- The lease of a task is that of the owner and the token, and it has not expired. -/
def Task.IsLeasedTo (task : Task) (owner : String) (token : Int) (clock : Nat) : Prop :=
  owner ≠ "" ∧ task.leaseOwner = owner ∧ (task.fencingToken : Int) = token ∧
    ∃ expires, task.leaseExpiresAt = some expires ∧ clock < expires

theorem Task.assertLease_eq_ok_iff {task : Task} {leaseOwner : Option String} {fencingToken : Option Int}
    {clock : Nat} : task.assertLease leaseOwner fencingToken clock = .ok () ↔
      ∃ owner token, leaseOwner = some owner ∧ fencingToken = some token ∧ task.IsLeasedTo owner token clock := by
  cases leaseOwner with
  | none => simp [assertLease]
  | some owner =>
    cases fencingToken with
    | none => simp [assertLease]
    | some token =>
      simp only [assertLease, IsLeasedTo]
      constructor
      · intro passed
        split at passed
        · cases passed
        · split at passed
          · cases passed
          · split at passed
            · rename_i named current live
              obtain ⟨expires, stored, later⟩ := Option.any_eq_true _ _ |>.mp live
              refine ⟨owner, token, rfl, rfl, named, ?_, ?_, expires, stored, by simpa using later⟩
              · exact Classical.not_not.mp fun other => current (.inl other)
              · exact Classical.not_not.mp fun other => current (.inr other)
            · cases passed
      · rintro ⟨_, _, ⟨⟩, ⟨⟩, named, same, sameToken, expires, stored, later⟩
        simp [named, same, sameToken, stored, later]

end HardwareDatabase.Sandbox
