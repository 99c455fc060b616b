/-
Module: HardwareDatabase.Limiter.Admission
Purpose: The buckets of `AdmissionController` (`src/src/core/concurrency/admission.py`). A request touches its key,
  which forgets the keys that were touched longest ago, and then asks for one token.
Trusted boundary: none
-/
import HardwareDatabase.Limiter.TokenBucket
import Mathlib.Logic.Function.Basic

namespace HardwareDatabase.Limiter.Admission

open Relational

/-! ### Keys -/

/-- `_MAX_BUCKET_KEYS`. -/
def maxBucketKeys : Nat :=
  10000

/-- `_limiter._buckets` and `_seen`, whose first key was touched longest ago. -/
structure Controller where
  buckets : String → Option TokenBucket
  seen : List (String × ℚ)

/-- The bucket that `_touch` configures. -/
def configured (ratePerMinute clock : ℚ) : TokenBucket :=
  .create (max (1 / 1000) (ratePerMinute / 60)) (some (max 1 (min ratePerMinute 10))) clock

/-- The loop of `_touch`: the first keys are forgotten with their buckets. -/
def prune (buckets : String → Option TokenBucket) : List (String × ℚ) → Controller
  | [] => { buckets, seen := [] }
  | stale :: rest =>
    if maxBucketKeys < (stale :: rest).length then prune (Function.update buckets stale.1 none) rest
    else { buckets, seen := stale :: rest }

/-- `_touch`. -/
def Controller.touch (controller : Controller) (key : String) (now ratePerMinute clock : ℚ) : Controller :=
  let buckets :=
    match controller.buckets key with
    | none => Function.update controller.buckets key (some (configured ratePerMinute clock))
    | some _ => controller.buckets
  prune buckets (controller.seen.filter (fun entry => entry.1 ≠ key) ++ [(key, now)])

/-! ### Requests -/

/-- The clock, the controller and the key of the request that has touched and not yet asked. -/
structure State where
  clock : ℚ
  controller : Controller
  current : Option String

/-- A step: time passes, a request touches its key, or it asks the bucket. A request begins when the one before it
has ended. -/
inductive Op
  | advance (elapsed : ℚ≥0)
  | touch (key : String) (now ratePerMinute : ℚ)
  | ask

namespace State

/-- One step. A key without a bucket is not limited. -/
def step (state : State) : Op → State
  | .advance elapsed => { state with clock := state.clock + elapsed }
  | .touch key now ratePerMinute =>
    match state.current with
    | some _ => state
    | none =>
      { state with
        controller := state.controller.touch key now ratePerMinute state.clock
        current := some key }
  | .ask =>
    match state.current with
    | none => state
    | some key =>
      match state.controller.buckets key with
      | none => { state with current := none }
      | some bucket =>
        { state with
          controller.buckets :=
            Function.update state.controller.buckets key (some (bucket.waitRound 1 state.clock).1)
          current := none }

/-- The readings at which a step admits a request on a key. -/
def admits (key : String) (state : State) : Op → List ℚ
  | .ask =>
    if state.current = some key then
      match state.controller.buckets key with
      | none => [state.clock]
      | some bucket => if (bucket.waitRound 1 state.clock).2 = none then [state.clock] else []
    else []
  | _ => []

/-- The readings at which a step forgets a key. -/
def evicts (key : String) (state : State) (op : Op) : List ℚ :=
  if (state.controller.buckets key).isSome ∧ ((state.step op).controller.buckets key).isNone then [state.clock]
  else []

end State

/-- Sequences of requests. -/
def admission (started : ℚ) : Machine State Op where
  init := { clock := started, controller := { buckets := fun _ => none, seen := [] }, current := none }
  step := State.step

/-- How many readings lie in a window. -/
def countWithin (start stop : ℚ) (readings : List ℚ) : Nat :=
  readings.countP fun reading => start ≤ reading ∧ reading ≤ stop

variable (started : ℚ) (key : String) (start stop : ℚ) (ops : List Op)

/-- How many requests on a key are admitted in a window. -/
def admitted : Nat :=
  countWithin start stop ((admission started).emitted (State.admits key) ops)

/-- How often a key is forgotten in a window. -/
def evictions : Nat :=
  countWithin start stop ((admission started).emitted (State.evicts key) ops)

end HardwareDatabase.Limiter.Admission
