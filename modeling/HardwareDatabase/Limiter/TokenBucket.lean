/-
Module: HardwareDatabase.Limiter.TokenBucket
Purpose: The local token bucket (`src/src/core/concurrency/rate_limiter.py`) over exact rationals, and the
  interleavings of its calls: the lock makes each section one step.
Trusted boundary: none
-/
import HardwareDatabase.Relational.Budget
import HardwareDatabase.Relational.Calls
import Mathlib.Algebra.Order.Field.Rat
import Mathlib.Data.NNRat.Defs
import Mathlib.Tactic.NormNum

namespace HardwareDatabase.Limiter

open Relational

/-- A bucket of tokens. -/
structure TokenBucket where
  rate : ℚ
  capacity : ℚ
  tokens : ℚ
  updated : ℚ
deriving Repr, DecidableEq

namespace TokenBucket

/-! ### Sections -/

/-- `TokenBucket(rate_per_second, burst=burst)` at a reading of the clock. -/
def create (ratePerSecond : ℚ) (burst : Option ℚ) (now : ℚ) : TokenBucket :=
  let rate := max (1 / 10000) ratePerSecond
  let capacity := max rate (burst.getD rate)
  { rate, capacity, tokens := capacity, updated := now }

/-- `_refill`. -/
def refill (bucket : TokenBucket) (now : ℚ) : TokenBucket :=
  let elapsed := max 0 (now - bucket.updated)
  if elapsed ≤ 0 then bucket
  else { bucket with tokens := min bucket.capacity (bucket.tokens + elapsed * bucket.rate), updated := now }

/-- What a grant may lack, `1e-9`. -/
def tolerance : ℚ :=
  1 / 1000000000

/-- The tokens leave the bucket. -/
def spend (bucket : TokenBucket) (tokens : ℚ≥0) : TokenBucket :=
  { bucket with tokens := bucket.tokens - tokens }

/-- The section of `take`: whether the tokens are taken. -/
def take (bucket : TokenBucket) (tokens : ℚ≥0) (now : ℚ) : TokenBucket × Bool :=
  let filled := bucket.refill now
  if filled.tokens + tolerance < tokens then (filled, false) else (filled.spend tokens, true)

/-- The section of `wait`: the tokens are taken, or the time that the missing ones need. -/
def waitRound (bucket : TokenBucket) (tokens : ℚ≥0) (now : ℚ) : TokenBucket × Option ℚ :=
  let filled := bucket.refill now
  if tokens ≤ filled.tokens + tolerance then (filled.spend tokens, none)
  else (filled, some ((tokens - filled.tokens) / filled.rate))

/-! ### Calls -/

/-- A call of `wait` before its section, after a section without tokens, and asleep. -/
inductive Waiting
  | round (tokens : ℚ≥0) (deadline : ℚ)
  | denied (tokens : ℚ≥0) (deadline sleepFor : ℚ)
  | asleep (tokens : ℚ≥0) (deadline wakes : ℚ)

/-- The clock, the bucket and the calls of `wait` that run. -/
structure State where
  clock : ℚ
  bucket : TokenBucket
  waits : Calls Waiting

/-- A step: time passes, the bucket is looked at, a call of `take`, a call of `wait` begins, runs its section, looks
at the time, or has slept. The tokens that a caller asks for are `max(0.0, float(tokens))`. -/
inductive Op
  | advance (elapsed : ℚ≥0)
  | tokensAvailable
  | take (tokens : ℚ)
  | wait (tokens timeout : ℚ)
  | round (call : Nat)
  | look (call : Nat)
  | wake (call : Nat)

namespace State

/-- One step. -/
def step (state : State) : Op → State
  | .advance elapsed => { state with clock := state.clock + elapsed }
  | .tokensAvailable => { state with bucket := state.bucket.refill state.clock }
  | .take tokens => { state with bucket := (state.bucket.take tokens.toNNRat state.clock).1 }
  | .wait tokens timeout =>
    { state with waits := state.waits.enter (some (.round tokens.toNNRat (state.clock + max 0 timeout))) }
  | .round call =>
    match state.waits.phase call with
    | some (.round tokens deadline) =>
      let (bucket, missing) := state.bucket.waitRound tokens state.clock
      { state with bucket, waits := state.waits.moveTo call (missing.map (.denied tokens deadline)) }
    | _ => state
  | .look call =>
    match state.waits.phase call with
    | some (.denied tokens deadline sleepFor) =>
      let remaining := deadline - state.clock
      if remaining ≤ 0 then { state with waits := state.waits.moveTo call none }
      else
        let wakes := state.clock + min (min sleepFor remaining) (1 / 4)
        { state with waits := state.waits.moveTo call (some (.asleep tokens deadline wakes)) }
    | _ => state
  | .wake call =>
    match state.waits.phase call with
    | some (.asleep tokens deadline wakes) =>
      if wakes ≤ state.clock then
        { state with waits := state.waits.moveTo call (some (.round tokens deadline)) }
      else state
    | _ => state

/-- What a step grants, at the reading of its section. -/
def grants (state : State) : Op → List (ℚ × ℚ)
  | .take tokens =>
    if (state.bucket.take tokens.toNNRat state.clock).2 then [(state.clock, tokens.toNNRat)] else []
  | .round call =>
    match state.waits.phase call with
    | some (.round tokens _) =>
      if (state.bucket.waitRound tokens state.clock).2 = none then [(state.clock, tokens)] else []
    | _ => []
  | _ => []

end State

/-- The interleavings of the calls on a bucket that has just been made. -/
def calls (ratePerSecond : ℚ) (burst : Option ℚ) (created : ℚ) : Machine State Op where
  init := { clock := created, bucket := create ratePerSecond burst created, waits := .empty }
  step := State.step

variable (ratePerSecond : ℚ) (burst : Option ℚ) (created : ℚ)

/-- What is granted in a run from one reading of the clock to another, both included. -/
def granted (start stop : ℚ) (ops : List Op) : ℚ :=
  spentWithin start stop ((calls ratePerSecond burst created).emitted State.grants ops)

/-- How many grants there are among them. -/
def grantCount (start stop : ℚ) (ops : List Op) : Nat :=
  (((calls ratePerSecond burst created).emitted State.grants ops).filter fun grant =>
    start ≤ grant.1 ∧ grant.1 ≤ stop).length

end TokenBucket

end HardwareDatabase.Limiter
