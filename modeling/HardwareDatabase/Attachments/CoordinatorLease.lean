/-
Module: HardwareDatabase.Attachments.CoordinatorLease
Purpose: The election of the coordinator (`src/src/attachments/coordinator_lease.py`). Instants are microseconds, read
  before a transaction begins; the column `updated_at`, which nothing reads, is left out. What the two sweeps find
  comes with the call.
Trusted boundary: none
-/
import HardwareDatabase.Relational.Lease
import HardwareDatabase.Relational.Run
import Mathlib.Logic.Function.Basic

namespace HardwareDatabase.Attachments

open Relational

/-! ### The lease store -/

/-- The table `coordinator_leases` under its primary key. -/
abbrev Leases := String → Option (Lease String)

/-- `now + timedelta(seconds=max(1, int(lease_seconds)))`. -/
def expiry (now : Nat) (leaseSeconds : Int) : Nat :=
  now + (max 1 leaseSeconds).toNat * 1000000

/-- `CoordinatorLeaseStore.try_acquire`. -/
def tryAcquire (leases : Leases) (scope ownerId : String) (leaseSeconds : Int) (now : Nat) : Leases × Option Int :=
  let acquired := Lease.acquire (leases scope) ownerId now (expiry now leaseSeconds)
  (Function.update leases scope acquired.1, acquired.2)

/-- `CoordinatorLeaseStore.renew`. -/
def renew (leases : Leases) (scope ownerId : String) (token leaseSeconds : Int) (now : Nat) : Leases × Bool :=
  let renewed := Lease.renew (leases scope) ownerId token (expiry now leaseSeconds)
  (Function.update leases scope renewed.1, renewed.2)

/-- `CoordinatorLeaseStore.release`. -/
def release (leases : Leases) (scope ownerId : String) (token : Int) : Leases × Bool :=
  let released := Lease.release "" (leases scope) ownerId token
  (Function.update leases scope released.1, released.2)

/-! ### The control loop -/

/-- A candidate: its worker id, the scope of its lease store and its lease time. -/
structure Coordinator where
  workerId : String
  scope : String := "attachment-waiting-turns"
  leaseSeconds : Int := 15
deriving Repr

/-- The table, with the `_token` of every candidate. -/
structure State where
  leases : Leases
  tokens : Nat → Option Int

def State.init : State :=
  { leases := fun _ => none, tokens := fun _ => none }

/-- What a call hands out: the token that it has acquired, whether it has scanned, and its truth value. -/
structure Report where
  granted : Option Int := none
  scanned : Bool := false
  result : Bool := false
deriving Repr, DecidableEq

section Loop

variable (coordinators : Nat → Coordinator)

/-- `AttachmentCoordinatorLoop.run_once`, with what the two sweeps find. -/
def runOnce (state : State) (candidate now reconciled expired : Nat) : State × Report :=
  let coordinator := coordinators candidate
  let leaseSeconds := max 5 coordinator.leaseSeconds
  let didWork := decide (0 < reconciled) || decide (0 < expired)
  match state.tokens candidate with
  | none =>
    let acquired := tryAcquire state.leases coordinator.scope coordinator.workerId leaseSeconds now
    match acquired.2 with
    | none => ({ state with leases := acquired.1 }, {})
    | some token =>
      ({ leases := acquired.1, tokens := Function.update state.tokens candidate (some token) },
        { granted := some token, scanned := true, result := didWork })
  | some token =>
    let renewed := renew state.leases coordinator.scope coordinator.workerId token leaseSeconds now
    if renewed.2 then ({ state with leases := renewed.1 }, { scanned := true, result := didWork })
    else ({ leases := renewed.1, tokens := Function.update state.tokens candidate none }, {})

/-- `AttachmentCoordinatorLoop.yield_lease`, with which `stop` ends as well; the release may raise. -/
def yieldLease (state : State) (candidate : Nat) (raises : Bool) : State × Report :=
  let coordinator := coordinators candidate
  match state.tokens candidate with
  | none => (state, {})
  | some token =>
    let released := release state.leases coordinator.scope coordinator.workerId token
    ({ leases := if raises then state.leases else released.1
       tokens := Function.update state.tokens candidate none }, {})

/-- A call of a candidate: of the store under its own worker id, or of its loop. -/
inductive Op
  | tryAcquire (candidate : Nat) (leaseSeconds : Int) (now : Nat)
  | renew (candidate : Nat) (token leaseSeconds : Int) (now : Nat)
  | release (candidate : Nat) (token : Int)
  | runOnce (candidate now reconciled expired : Nat)
  | yieldLease (candidate : Nat) (raises : Bool)
deriving Repr

/-- The candidate that calls. -/
def Op.candidate : Op → Nat
  | .tryAcquire candidate _ _ | .renew candidate _ _ _ | .release candidate _ | .runOnce candidate _ _ _
  | .yieldLease candidate _ => candidate

/-- One call. -/
def perform (state : State) : Op → State × Report
  | .tryAcquire candidate leaseSeconds now =>
    let coordinator := coordinators candidate
    let acquired :=
      Attachments.tryAcquire state.leases coordinator.scope coordinator.workerId leaseSeconds now
    ({ state with leases := acquired.1 }, { granted := acquired.2 })
  | .renew candidate token leaseSeconds now =>
    let coordinator := coordinators candidate
    let renewed :=
      Attachments.renew state.leases coordinator.scope coordinator.workerId token leaseSeconds now
    ({ state with leases := renewed.1 }, { result := renewed.2 })
  | .release candidate token =>
    let coordinator := coordinators candidate
    let released := Attachments.release state.leases coordinator.scope coordinator.workerId token
    ({ state with leases := released.1 }, { result := released.2 })
  | .runOnce candidate now reconciled expired => runOnce coordinators state candidate now reconciled expired
  | .yieldLease candidate raises => yieldLease coordinators state candidate raises

/-- The interleavings of the candidates. -/
def elections : Machine State Op where
  init := .init
  step state op := (perform coordinators state op).1

/-- The tokens of a scope that a call is granted. -/
def grantsOf (scope : String) (state : State) (op : Op) : List (Nat × Int) :=
  if (coordinators op.candidate).scope = scope then
    (perform coordinators state op).2.granted.toList.map (op.candidate, ·)
  else []

/-- The tokens of a scope that were granted in a run, oldest first, each with its candidate. -/
def grants (scope : String) (ops : List Op) : List (Nat × Int) :=
  (elections coordinators).emitted (grantsOf coordinators scope) ops

end Loop

end HardwareDatabase.Attachments
