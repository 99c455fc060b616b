/-
Module: HardwareDatabase.Evaluation.Control
Purpose: The controllers of one evaluation run (`EvaluationRunController`, `src/src/evaluation/run_control.py`). Every
  call to `RunStateStore` is a step, and a controller process has at most one live worker. The run has its state file;
  the check points that the calls clear are left out.
Trusted boundary: none
-/
import HardwareDatabase.Evaluation.Worker
import HardwareDatabase.Relational.Calls
import HardwareDatabase.Relational.Run

namespace HardwareDatabase.Evaluation

open Python (Value Dict)
open Relational

/-- What a call of several steps does next. -/
inductive Phase
  -- `resume` has queued the run, then `_refresh_progress` has loaded it
  | refreshing
  | counting
  -- `start_scoring` has checked the run, asked for the scoring, requested it
  | scoringChecked (controller : Nat) (force : Bool)
  | requestingScoring (controller : Nat)
  | starting (controller : Nat)
deriving Repr, DecidableEq

/-- What a step reads from elsewhere: the snapshot counts and the verdict of the collection check, which are
`none` when reading them raises, and what a worker that is started will get. -/
structure Outside where
  counts : Option RunState.Counts
  verdict : Option String
  execution : Execution
deriving Repr

/-- The state file, the live workers of the controllers and the calls that have not ended. -/
structure ControlState where
  run : RunState
  workers : Nat → Option (Work RunState)
  calls : Calls Phase

/-- A step: a call of a user, the next step of one, or the next step of a worker. -/
inductive Op
  | pause (now : Nat)
  | cancel (now : Nat)
  | loadForDisplay (controller now : Nat)
  | start (controller : Nat) (execution : Execution)
  | resume (mode : String) (now : Nat)
  | startScoring (controller : Nat) (force : Bool)
  | proceed (call now : Nat) (outside : Outside)
  | work (controller now : Nat)
deriving Repr

/-- What the claims of users are about: accepted requests, and the writes and exceptions of the calls. -/
inductive Event
  | pauseAccepted
  | cancelAccepted
  | restarted
  | wrote (call : Nat)
  | raised (call : Nat)
deriving Repr, DecidableEq

namespace ControlState

/-- A worker thread begins. -/
def spawn (state : ControlState) (controller : Nat) (execution : Execution) : ControlState :=
  { state with workers := Function.update state.workers controller (some (execute execution)) }

/-- A call begins; it has ended if there is nothing left to do. -/
def enter (state : ControlState) (phase : Option Phase) : ControlState :=
  { state with calls := state.calls.enter phase }

/-- A call goes on, or ends. -/
def moveTo (state : ControlState) (call : Nat) (phase : Option Phase) : ControlState :=
  { state with calls := state.calls.moveTo call phase }

/-- The check that `start_scoring` makes on the run that it has loaded. -/
def checkScoring (run : RunState) : Except Failure Unit :=
  match run.status with
  | .failed =>
    if 0 < run.totalSamples ∧ run.completedSamples = run.totalSamples ∧ 0 < run.successfulSamples then
      .ok ()
    else .error .collectionIncomplete
  | .collected => .ok ()
  | other => .error (.cannot "start scoring" other)

/-- The verdict of the collection check lets the scoring begin. -/
def checkVerdict (verdict : Option String) (force : Bool) : Except Failure Unit :=
  match verdict with
  | none => .error .unreadable
  | some verdict =>
    if (verdict = "" ∨ verdict = "fail") ∧ !force then .error .collectionFailed else .ok ()

/-- `resume` up to its first write. -/
def queue (run : RunState) (mode : String) (now : Nat) : Except Failure RunState :=
  if mode ≠ "continue" ∧ mode ≠ "restart" then .error .unknownMode else run.queue mode now

/-- The next step of a call, with its events. -/
def proceed (state : ControlState) (call now : Nat) (outside : Outside) : ControlState × List Event :=
  match state.calls.phase call with
  | none => (state, [])
  | some .refreshing => (state.moveTo call (some .counting), [])
  | some .counting =>
    match outside.counts with
    | none => (state.moveTo call none, [.raised call])
    | some counts =>
      ({ state.moveTo call none with run := state.run.withCounts counts now }, [.wrote call])
  | some (.scoringChecked controller force) =>
    match checkVerdict outside.verdict force with
    | .error _ => (state.moveTo call none, [.raised call])
    | .ok () =>
      ({ state.moveTo call (some (.requestingScoring controller)) with
          run := state.run.withScoringRequested now },
        [.wrote call])
  | some (.requestingScoring controller) =>
    match state.run.requestScoring now with
    | .error _ => (state.moveTo call none, [.raised call])
    | .ok run =>
      ({ state.moveTo call (some (.starting controller)) with run }, [.restarted, .wrote call])
  | some (.starting controller) =>
    if (state.workers controller).isSome then (state.moveTo call none, [.raised call])
    else ((state.moveTo call none).spawn controller outside.execution, [])

/-- The next step of a worker: it makes its call, or its thread ends. -/
def work (state : ControlState) (controller now : Nat) : ControlState :=
  match state.workers controller with
  | none => state
  | some program =>
    match program.pending with
    | none => { state with workers := Function.update state.workers controller none }
    | some call =>
      let answer := call.apply state.run now
      { state with
        run := answer.toOption.getD state.run
        workers := Function.update state.workers controller (some (program.answered answer)) }

/-- One step, with its events. -/
def perform (state : ControlState) : Op → ControlState × List Event
  | .pause now =>
    match state.run.requestPause now with
    | .error _ => (state, [])
    | .ok run => ({ state with run }, [.pauseAccepted])
  | .cancel now =>
    match state.run.requestCancel now with
    | .error _ => (state, [])
    | .ok run => ({ state with run }, [.cancelAccepted])
  | .loadForDisplay controller now =>
    if (state.workers controller).isSome then (state, [])
    else ({ state with run := state.run.markOrphanedAsPaused now }, [])
  | .start controller execution =>
    if (state.workers controller).isSome then (state, []) else (state.spawn controller execution, [])
  | .resume mode now =>
    match queue state.run mode now with
    | .error _ => (state.enter none, [.raised state.calls.next])
    | .ok run =>
      ({ state.enter (some .refreshing) with run }, [.restarted, .wrote state.calls.next])
  | .startScoring controller force =>
    match checkScoring state.run with
    | .error _ => (state.enter none, [.raised state.calls.next])
    | .ok () => (state.enter (some (.scoringChecked controller force)), [])
  | .proceed call now outside => state.proceed call now outside
  | .work controller now => (state.work controller now, [])

/-- One step. -/
def step (state : ControlState) (op : Op) : ControlState :=
  (state.perform op).1

/-- The events of a step. -/
def events (state : ControlState) (op : Op) : List Event :=
  (state.perform op).2

end ControlState

/-- The interleavings of the controllers on a run that has just been created. -/
def evaluation (mode : Mode) (config : Dict) (totalSamples : Nat) (verified : Bool) (created : Nat) :
    Machine ControlState Op where
  init :=
    { run := .created mode config totalSamples verified created, workers := fun _ => none, calls := .empty }
  step := ControlState.step

end HardwareDatabase.Evaluation
