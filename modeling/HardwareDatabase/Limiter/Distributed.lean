/-
Module: HardwareDatabase.Limiter.Distributed
Purpose: The distributed rate limiter (`src/src/core/concurrency/distributed_limiter.py`) on one key, over exact
  rationals. A call asks Redis for the time and sends its script later; one without Redis ends without a script.
Trusted boundary: none
-/
import HardwareDatabase.Relational.Budget
import HardwareDatabase.Relational.Calls
import Mathlib.Algebra.Order.Field.Rat
import Mathlib.Tactic.NormNum

namespace HardwareDatabase.Limiter

open Relational

/-! ### Scripts -/

/-- Which script a call sends. -/
inductive Lua
  | rate
  | token
deriving Repr, DecidableEq

/-- A script with its arguments, as the two calls bound them. -/
structure Script where
  lua : Lua
  rate : ℚ
  burst : ℚ
  cost : ℚ
  ttlMs : Nat
  rate_pos : 0 < rate
  burst_pos : 0 < burst
  cost_pos : 0 < cost
  cost_rate : lua = .rate → cost = 1

/-- The hash under a key, with the instant of the script that wrote it, from which its TTL counts. -/
structure Bucket where
  tokens : ℚ
  ts : ℚ
  written : Nat
  ttlMs : Nat
deriving Repr, DecidableEq

/-- `float(seconds) + float(micros) / 1_000_000`. -/
def seconds (micros : Nat) : ℚ :=
  (micros : ℚ) / 1000000

/-- The TTL of the key has not passed. -/
def Bucket.isLive (bucket : Bucket) (clock : Nat) : Bool :=
  clock < bucket.written + bucket.ttlMs * 1000

/-- The tokens that a script starts from: those of the hash with the refill since its timestamp, or the burst. -/
def refill (stored : Option Bucket) (script : Script) (now : ℚ) : ℚ :=
  match stored with
  | none => min script.burst (script.burst + max 0 (now - now) * script.rate)
  | some bucket => min script.burst (bucket.tokens + max 0 (now - bucket.ts) * script.rate)

/-- `HMSET` and `PEXPIRE`. -/
def store (script : Script) (tokens now : ℚ) (clock : Nat) : Bucket :=
  { tokens, ts := now, written := clock, ttlMs := script.ttlMs }

/-- `_RATE_LUA`. -/
def rateLua (stored : Option Bucket) (script : Script) (now : ℚ) (clock : Nat) : Bucket × Bool :=
  let tokens := refill stored script now
  if 1 ≤ tokens then (store script (tokens - 1) now clock, true) else (store script tokens now clock, false)

/-- `_TOKEN_LUA`. -/
def tokenLua (stored : Option Bucket) (script : Script) (now : ℚ) (clock : Nat) : Bucket × Bool :=
  let tokens := refill stored script now
  if script.cost ≤ script.burst ∧ script.cost ≤ tokens then
    (store script (tokens - script.cost) now clock, true)
  else (store script tokens now clock, false)

/-! ### Calls -/

/-- A call with its arguments. -/
inductive Request
  | allow (ratePerMinute burst : ℚ) (ttlSeconds : Int)
  | allowTokens (ratePerMinute : ℚ) (cost : Int) (burst : Option ℚ) (ttlSeconds : Int)
deriving Repr

/-- `max(0.001, float(rate_per_minute) / 60.0)`. -/
def perSecond (ratePerMinute : ℚ) : ℚ :=
  max (1 / 1000) (ratePerMinute / 60)

theorem perSecond_pos (ratePerMinute : ℚ) : 0 < perSecond ratePerMinute :=
  lt_max_of_lt_left (by norm_num)

/-- `max(1000, int(ttl_seconds) * 1000)`. -/
def ttlMs (ttlSeconds : Int) : Nat :=
  (max 1000 (ttlSeconds * 1000)).toNat

/-- The script that a call sends; a call for no tokens is allowed without one. -/
def Request.script : Request → Option Script
  | .allow ratePerMinute burst ttlSeconds =>
    some
      { lua := .rate
        rate := perSecond ratePerMinute
        burst := max 1 (min burst 1000)
        cost := 1
        ttlMs := ttlMs ttlSeconds
        rate_pos := perSecond_pos ratePerMinute
        burst_pos := lt_max_of_lt_left one_pos
        cost_pos := one_pos
        cost_rate := fun _ => rfl }
  | .allowTokens ratePerMinute cost burst ttlSeconds =>
    let requested := cost.toNat
    if positive : 0 < requested then
      some
        { lua := .token
          rate := perSecond ratePerMinute
          burst := min (max (requested : ℚ) (burst.getD ratePerMinute)) 10000000
          cost := requested
          ttlMs := ttlMs ttlSeconds
          rate_pos := perSecond_pos ratePerMinute
          burst_pos := lt_min (lt_max_of_lt_left (Nat.cast_pos.mpr positive)) (by norm_num)
          cost_pos := Nat.cast_pos.mpr positive
          cost_rate := nofun }
    else none

/-- A call between its time and its script. -/
structure Pending where
  script : Script
  now : Nat

/-- The clock of Redis, the key and the calls that run. -/
structure State where
  clock : Nat
  key : Option Bucket
  calls : Calls Pending

def State.init : State :=
  { clock := 0, key := none, calls := .empty }

/-- A step: time passes, a call asks for the time, its script runs, or it is given up. -/
inductive Op
  | advance (micros : Nat)
  | request (request : Request)
  | eval (call : Nat)
  | giveUp (call : Nat)
deriving Repr

namespace State

/-- The hash that a script finds. -/
def stored (state : State) : Option Bucket :=
  state.key.filter fun bucket => bucket.isLive state.clock

/-- The script of a call runs. -/
def run (state : State) (pending : Pending) : Bucket × Bool :=
  match pending.script.lua with
  | .rate => rateLua state.stored pending.script (seconds pending.now) state.clock
  | .token => tokenLua state.stored pending.script (seconds pending.now) state.clock

/-- One step. -/
def step (state : State) : Op → State
  | .advance micros => { state with clock := state.clock + micros }
  | .request request =>
    { state with calls := state.calls.enter (request.script.map fun script => { script, now := state.clock }) }
  | .eval call =>
    match state.calls.phase call with
    | none => state
    | some pending =>
      { state with key := some (state.run pending).1, calls := state.calls.moveTo call none }
  | .giveUp call => { state with calls := state.calls.moveTo call none }

/-- What a step grants: the amount, at the instant of the clock. -/
def grants (state : State) : Op → List (ℚ × ℚ)
  | .eval call =>
    match state.calls.phase call with
    | none => []
    | some pending =>
      if (state.run pending).2 then [(seconds state.clock, pending.script.cost)] else []
  | _ => []

end State

/-- The interleavings of the calls on a key. -/
def limiter : Machine State Op where
  init := .init
  step := State.step

/-- What is granted in a run from one instant to another, both included. -/
def granted (start stop : ℚ) (ops : List Op) : ℚ :=
  spentWithin start stop (limiter.emitted State.grants ops)

end HardwareDatabase.Limiter
