/-
Module: HardwareDatabase.Governor.Store
Purpose: The permit table and the audit trail of `SqliteQuotaStore` (`src/src/core/concurrency/resource_governor.py`).
  `now` is the instant that the process reads, `clock` the one that the database reads: its `datetime` compares whole
  seconds.
Trusted boundary: none
-/
import HardwareDatabase.Python.Text
import HardwareDatabase.Relational.Table

namespace HardwareDatabase.Governor

open Python (strip clip lowerAscii)
open Relational

/-! ### Rows -/

/-- The state of a permit. -/
inductive PermitState
  | active
  | uncertain
  | released
deriving Repr, DecidableEq

/-- A row of `resource_permits`. An instant that is not set is the empty text in the table. -/
structure Permit where
  permitId : String
  resource : String
  interactive : Bool
  ownerId : String
  attemptId : String
  weight : Nat
  state : PermitState
  expiresAt : Nat
  uncertainSince : Option Nat
  escalatedAt : Option Nat
  recoveryReason : String
deriving Repr, DecidableEq

/-- What an audit entry records. -/
inductive AuditAction
  | finish
  | finishUncertain
  | releaseUncertain
deriving Repr, DecidableEq

/-- A row of `resource_permit_audit`. -/
structure AuditEntry where
  permitId : String
  resource : String
  action : AuditAction
  evidence : String
  reason : String
  operator : String
  previousState : PermitState
  recordedAt : Nat
deriving Repr, DecidableEq

/-- The two tables. -/
structure Tables where
  permits : List Permit
  audit : List AuditEntry
deriving Repr, DecidableEq

def Tables.empty : Tables :=
  { permits := [], audit := [] }

/-- What a call raises. -/
inductive Failure
  -- IntegrityError
  | duplicateKey
  -- ValueError
  | unsupportedOutcome (outcome : String)
  | finishNeedsEvidence (evidence : String)
  | releaseNeedsEvidence (evidence : String)
deriving Repr, DecidableEq

/-- The message of an exception that the module words itself. `repr` is the quoting of the host language. -/
def Failure.text (repr : String → String) : Failure → String
  | .duplicateKey => ""
  | .unsupportedOutcome outcome => "unsupported finish outcome: " ++ repr outcome
  | .finishNeedsEvidence evidence =>
    "finish requires a recognized downstream end evidence; got " ++
      repr (if evidence = "" then "<empty>" else evidence)
  | .releaseNeedsEvidence evidence =>
    "release requires a recognized downstream end evidence; got " ++
      repr (if evidence = "" then "<empty>" else evidence)

/-- `VALID_RELEASE_EVIDENCE`. -/
def validReleaseEvidence : List String :=
  ["downstream_completed", "downstream_cancelled", "server_deadline_passed", "operator_verified_restart",
    "operator_verified_cancel"]

/-- The whole seconds that `datetime` compares. -/
def second (instant : Nat) : Nat :=
  instant / 1000000

variable (tables : Tables)

/-- `SELECT * FROM resource_permits WHERE permit_id = ?`. -/
def Tables.permit? (permitId : String) : Option Permit :=
  tables.permits.find? fun permit => permit.permitId == permitId

/-- An update of the permits that leaves the audit trail. -/
def Tables.updatePermits (selects : Permit → Bool) (write : Permit → Permit) : Tables :=
  { tables with permits := updateWhere selects write tables.permits }

def Tables.record (entry : AuditEntry) : Tables :=
  { tables with audit := tables.audit ++ [entry] }

/-! ### Leases -/

/-- The isolation of a permit keeps the instant at which it was first isolated. -/
def Permit.isolate (permit : Permit) (now : Nat) : Permit :=
  { permit with state := .uncertain, uncertainSince := permit.uncertainSince.or (some now) }

/-- The lease of an active permit has run out. -/
def Permit.expired (permit : Permit) (clock : Nat) : Bool :=
  permit.state == .active && decide (second permit.expiresAt < second clock)

/-- `reap_expired`. -/
def reapExpired (now clock : Nat) : Tables :=
  tables.updatePermits (fun permit => permit.expired clock) fun permit => permit.isolate now

/-- An isolated permit that has waited for longer than the escalation window. -/
def Permit.overdue (permit : Permit) (threshold clock : Nat) : Bool :=
  permit.state == .uncertain && permit.escalatedAt.isNone &&
    permit.uncertainSince.any fun since => decide (second since + threshold < second clock)

/-- `maintain`. -/
def maintain (escalateSeconds : Int) (now clock : Nat) : Tables :=
  (reapExpired tables now clock).updatePermits
    (fun permit => permit.overdue (max 60 escalateSeconds).toNat clock)
    fun permit => { permit with escalatedAt := some now }

/-- The end of a lease that starts `now`. -/
def leaseEnd (leaseSeconds : Int) (now : Nat) : Nat :=
  now + (max 30 leaseSeconds).toNat * 1000000

/-- `renew`. -/
def renew (permitId : String) (leaseSeconds : Int) (now : Nat) : Tables :=
  tables.updatePermits (fun permit => permit.permitId == permitId && permit.state == .active)
    fun permit => { permit with expiresAt := leaseEnd leaseSeconds now }

/-! ### Admission -/

/-- An active permit of a resource. -/
def Permit.activeOn (resource : String) (permit : Permit) : Bool :=
  permit.resource == resource && permit.state == .active

/-- An active background permit of a resource. -/
def Permit.backgroundOn (resource : String) (permit : Permit) : Bool :=
  permit.activeOn resource && !permit.interactive

/-- An active interactive permit of a resource. -/
def Permit.interactiveOn (resource : String) (permit : Permit) : Bool :=
  permit.activeOn resource && permit.interactive

/-- The sum of the weights of the active permits. -/
def Tables.activeWeight (resource : String) : Nat :=
  sumWhere (Permit.activeOn resource) Permit.weight tables.permits

/-- The sum of the weights of the active background permits. -/
def Tables.backgroundWeight (resource : String) : Nat :=
  sumWhere (Permit.backgroundOn resource) Permit.weight tables.permits

/-- A permit of the resource is isolated beyond the escalation window. -/
def Tables.escalated (resource : String) : Bool :=
  tables.permits.any fun permit =>
    permit.resource == resource && permit.state == .uncertain && permit.escalatedAt.isSome

/-- The resource has room for one more permit. -/
def Tables.hasRoom (resource : String) (capacity reservedInteractive : Int) (interactive : Bool) : Bool :=
  !(decide (capacity ≤ tables.activeWeight resource) ||
    !interactive && decide (max 0 (capacity - reservedInteractive) ≤ tables.backgroundWeight resource))

/-- A call of `try_acquire`: the lease of the calling process, the identifier it draws and the instants.
`locked` says that another process holds the write lock. -/
structure AcquireCall where
  resource : String
  interactive : Bool
  ownerId : String
  attemptId : String
  leaseSeconds : Int
  uuid : String
  now : Nat
  clock : Nat
  locked : Bool
deriving Repr, DecidableEq

/-- The row that an admission inserts. -/
def AcquireCall.permit (call : AcquireCall) : Permit :=
  { permitId := call.uuid, resource := call.resource, interactive := call.interactive,
    ownerId := call.ownerId, attemptId := call.attemptId, weight := 1, state := .active,
    expiresAt := leaseEnd call.leaseSeconds call.now, uncertainSince := none, escalatedAt := none,
    recoveryReason := "" }

/-- `try_acquire`. A refusal commits what the reaping has changed. -/
def tryAcquire (call : AcquireCall) (capacity reservedInteractive : Int) : Except Failure (Tables × Option String) :=
  if call.locked then .ok (tables, none)
  else
    let reaped := reapExpired tables call.now call.clock
    if reaped.escalated call.resource then .ok (reaped, none)
    else if !reaped.hasRoom call.resource capacity reservedInteractive call.interactive then
      .ok (reaped, none)
    else if reaped.permits.any fun permit => permit.permitId == call.uuid then .error .duplicateKey
    else .ok ({ reaped with permits := reaped.permits ++ [call.permit] }, some call.uuid)

/-! ### The ends of a permit -/

/-- A permit that has not been released. -/
def Permit.isHeld (permitId : String) (permit : Permit) : Bool :=
  permit.permitId == permitId && (permit.state == .active || permit.state == .uncertain)

/-- `release`. -/
def release (permitId : String) : Tables :=
  tables.updatePermits (Permit.isHeld permitId) fun permit => { permit with state := .released }

/-- The outcome that a confirmation states. -/
inductive FinishOutcome
  | completed
  | cancelled
  | uncertain
deriving Repr, DecidableEq

/-- The outcome that a text names. -/
def FinishOutcome.ofText (outcome : String) : Option FinishOutcome :=
  if lowerAscii (strip outcome) = "completed" then some .completed
  else if lowerAscii (strip outcome) = "cancelled" then some .cancelled
  else if lowerAscii (strip outcome) = "uncertain" then some .uncertain
  else none

/-- A call of `finish`. -/
structure FinishCall where
  permitId : String
  outcome : String
  evidence : String
  reason : String
  now : Nat
deriving Repr, DecidableEq

/-- The checks of `finish` before its transaction: the outcome, and the evidence to record. The evidence of
an uncertain end is recorded as it is. -/
def FinishCall.check (call : FinishCall) : Except Failure (FinishOutcome × String) :=
  match FinishOutcome.ofText call.outcome with
  | none => .error (.unsupportedOutcome (lowerAscii (strip call.outcome)))
  | some .uncertain => .ok (.uncertain, call.evidence)
  | some outcome =>
    if strip call.evidence ∈ validReleaseEvidence then .ok (outcome, strip call.evidence)
    else .error (.finishNeedsEvidence (strip call.evidence))

/-- The audit entry of a confirmation. -/
def FinishCall.entry (call : FinishCall) (permit : Permit) (action : AuditAction) (evidence : String) : AuditEntry :=
  { permitId := call.permitId, resource := permit.resource, action, evidence,
    reason := clip 500 call.reason, operator := "", previousState := permit.state,
    recordedAt := call.now }

/-- The transaction of `finish`. -/
def finishChecked (call : FinishCall) (outcome : FinishOutcome) (evidence : String) : Tables × Bool :=
  match tables.permit? call.permitId with
  | none => (tables, false)
  | some permit =>
    if permit.state = .released then (tables, true)
    else if outcome = .uncertain then
      ((tables.updatePermits (Permit.isHeld call.permitId) fun row =>
          { row.isolate call.now with recoveryReason := clip 500 call.reason }).record
        (call.entry permit .finishUncertain evidence), true)
    else
      ((tables.updatePermits (Permit.isHeld call.permitId) fun row =>
          { row with state := .released, recoveryReason := clip 500 call.reason }).record
        (call.entry permit .finish evidence), true)

/-- `finish`. -/
def finish (call : FinishCall) : Except Failure (Tables × Bool) :=
  match call.check with
  | .error failure => .error failure
  | .ok (outcome, evidence) => .ok (finishChecked tables call outcome evidence)

/-- A call of `release_uncertain`. -/
structure RecoveryCall where
  permitId : String
  evidence : String
  reason : String
  operator : String
  now : Nat
deriving Repr, DecidableEq

/-- The audit entry of a recovery. -/
def RecoveryCall.entry (call : RecoveryCall) (permit : Permit) : AuditEntry :=
  { permitId := call.permitId, resource := permit.resource, action := .releaseUncertain,
    evidence := strip call.evidence, reason := clip 500 call.reason, operator := call.operator,
    previousState := permit.state, recordedAt := call.now }

/-- `release_uncertain`. -/
def releaseUncertain (call : RecoveryCall) : Except Failure (Tables × Bool) :=
  if strip call.evidence ∉ validReleaseEvidence then
    .error (.releaseNeedsEvidence (strip call.evidence))
  else
    match tables.permit? call.permitId with
    | none => .ok (tables, false)
    | some permit =>
      if permit.state ≠ .uncertain then .ok (tables, false)
      else
        .ok ((tables.updatePermits
            (fun row => row.permitId == call.permitId && row.state == .uncertain) fun row =>
              { row with state := .released, recoveryReason := clip 500 call.reason }).record
          (call.entry permit), true)

end HardwareDatabase.Governor
