/-
Module: HardwareDatabase.Evaluation.Worker
Purpose: The worker of an evaluation run (`_execute_impl`, `src/src/evaluation/run_control.py`) as a program of calls
  to `RunStateStore`. What it gets from elsewhere comes with its execution; the contents of the reports are left out.
Trusted boundary: none
-/
import HardwareDatabase.Evaluation.RunState
import HardwareDatabase.Relational.Program

namespace HardwareDatabase.Evaluation

open Python (Value Dict)
open Relational

/-- A call of the worker to `RunStateStore`. -/
inductive WorkerCall
  | load
  | recordCounts (counts : RunState.Counts)
  | markRunning (stage : RunStage)
  | recordServiceMetadata (config metadata : Dict)
  | markFailed (errorMessage : String)
  | beginSample (sampleId question : String)
  | recordSnapshotManifest (sha256 : String) (verified : Bool)
  | markPaused
  | markCancelled
  | markCollected (qcVerdict : String)
  | updateScoringProgress (completedGroups totalGroups : Nat) (items : Option (Nat × Nat))
  | setStage (stage : RunStage)
  | publishPartialReport (reportPath : String)
  | completeReportOrHandleControl (reportPath : String)
deriving Repr

/-- The state that a call leaves in the file, and returns. -/
def WorkerCall.apply (state : RunState) (now : Nat) : WorkerCall → Except Failure RunState
  | .load => .ok state
  | .recordCounts counts => .ok (state.withCounts counts now)
  | .markRunning stage => state.markRunning stage now
  | .recordServiceMetadata config metadata => .ok (state.withServiceMetadata config metadata now)
  | .markFailed errorMessage => state.markFailed errorMessage now
  | .beginSample sampleId question => state.beginSample sampleId question now
  | .recordSnapshotManifest sha256 verified =>
    .ok { state with snapshotSha256 := sha256, snapshotOwnershipVerified := verified, updatedAt := now }
  | .markPaused => state.markPaused now
  | .markCancelled => state.markCancelled now
  | .markCollected qcVerdict => state.markCollected qcVerdict now
  | .updateScoringProgress completed total items =>
    .ok (state.updateScoringProgress completed total items now)
  | .setStage stage => .ok { state with stage, updatedAt := now }
  | .publishPartialReport reportPath => .ok (state.publishPartialReport reportPath "" now)
  | .completeReportOrHandleControl reportPath => state.completeReportOrHandleControl reportPath now

/-- A program of the worker. -/
abbrev Work := Program WorkerCall (Except Failure RunState) Bool

/-- A callback of `collect`. -/
inductive CollectCallback
  | beforeSample (sampleId question : String)
  -- the counts that `_refresh_progress` reads; there are none when the file cannot be read
  | afterSample (counts : Option RunState.Counts)
deriving Repr

/-- A callback of `score`. -/
inductive ScoreCallback
  | checkpoint (completedGroups totalGroups : Nat) (written : Bool)
  | itemCheckpoint (completedItems totalItems : Nat) (report : Option Bool)
  | shouldStop
deriving Repr

/-- What the worker gets from elsewhere. What raises is `none` or `false`. -/
structure Execution where
  counts : Option RunState.Counts
  samplesLoaded : Bool
  serviceBuilt : Bool
  publicMetadata : Dict
  preflightAnswered : Bool
  preflightErrors : Option String
  collection : List CollectCallback
  snapshotsLoaded : Bool
  manifestWritten : Bool
  manifest : Option (String × Bool)
  qcVerdict : Option String
  scoringPreflightAnswered : Bool
  scoringErrors : Option String
  totalItems : Nat
  scoring : List ScoreCallback
  scored : Bool
  scoringMetadata : Dict
  /-- The four writes of the reports: when a request is found after scoring, after the scoring, when a request is
  found after that, and on the exception path. -/
  requestedWritten : Bool
  reportsWritten : Bool
  overtakenWritten : Bool
  failureWritten : Bool
  reportPath : String
deriving Repr

/-- A call of the worker; its exception is raised. -/
def store (checkpointed : Bool) (call : WorkerCall) : Work RunState :=
  .call call fun
    | .ok state => .done state
    | .error _ => .fail checkpointed

/-- Work outside the store that may raise. -/
def requires (checkpointed fine : Bool) : Work Unit :=
  if fine then .done () else .fail checkpointed

/-- `_refresh_progress`. -/
def refreshProgress (counts : Option RunState.Counts) : Work RunState := do
  let _ ← store false .load
  match counts with
  | none => .fail false
  | some counts => store false (.recordCounts counts)

/-- `_record_service_metadata`. -/
def recordServiceMetadata (checkpointed : Bool) (metadata : Dict) : Work RunState := do
  let state ← store checkpointed .load
  if metadata.isEmpty then return state
  else store checkpointed (.recordServiceMetadata (Dict.update state.evaluationConfig metadata) metadata)

/-- `collect` with its callbacks; after a sample that may not begin no further one does. -/
def collect : Bool → List CollectCallback → Work Unit
  | _, [] => .done ()
  | submitting, .beforeSample sampleId question :: rest => do
    if submitting then
      let state ← store false (.beginSample sampleId question)
      collect (state.status = .running) rest
    else collect submitting rest
  | submitting, .afterSample counts :: rest => do
    let _ ← refreshProgress counts
    collect submitting rest

/-- `_checkpoint`. -/
def checkpoint : Work Bool := do
  let state ← store false .load
  match state.status with
  | .pauseRequested =>
    let _ ← store false .markPaused
    return false
  | .cancelRequested =>
    let _ ← store false .markCancelled
    return false
  | _ => return true

/-- The callbacks of `score`; the result says whether there has been a checkpoint. -/
def score : Bool → List ScoreCallback → Work Bool
  | checkpointed, [] => .done checkpointed
  | _, .checkpoint completedGroups totalGroups written :: rest => do
    let _ ← store true (.updateScoringProgress completedGroups totalGroups none)
    let _ ← store true .load
    requires true written
    let _ ← store true .load
    score true rest
  | _, .itemCheckpoint completedItems totalItems report :: rest => do
    let state ← store true .load
    let _ ← store true (.updateScoringProgress state.scoringCompletedGroups state.scoringTotalGroups
      (some (completedItems, totalItems)))
    match report with
    | none => score true rest
    | some written =>
      let _ ← store true .load
      requires true written
      score true rest
  | checkpointed, .shouldStop :: rest => do
    let _ ← store checkpointed .load
    score checkpointed rest

/-- A pause or a cancellation has been requested. -/
def RunStatus.isRequested (status : RunStatus) : Bool :=
  status == .pauseRequested || status == .cancelRequested

/-- `len(DEFAULT_STANDARD_METRICS)`. -/
def standardMetricCount : Nat := 5

/-- The scoring phase of `_execute_impl`. -/
def executeScoring (execution : Execution) : Work RunState := do
  requires false execution.scoringPreflightAnswered
  match execution.scoringErrors with
  | some errors => store false (.markFailed ("evaluation scoring preflight failed: " ++ errors))
  | none =>
    let _ ← store false (.updateScoringProgress 0 standardMetricCount (some (0, execution.totalItems)))
    let _ ← store false (.setStage .scoring)
    let _ ← store false .load
    let checkpointed ← score false execution.scoring
    requires checkpointed execution.scored
    let state ← recordServiceMetadata checkpointed execution.scoringMetadata
    if state.status.isRequested then
      requires checkpointed execution.requestedWritten
      store checkpointed (.publishPartialReport execution.reportPath)
    else
      let _ ← store checkpointed (.setStage .reporting)
      -- the summary and its numbers of groups
      let _ ← store checkpointed .load
      let _ ← store checkpointed .load
      let _ ← store checkpointed .load
      requires checkpointed execution.reportsWritten
      let state ← store checkpointed .load
      if state.status.isRequested then
        requires checkpointed execution.overtakenWritten
        store checkpointed (.publishPartialReport execution.reportPath)
      else store checkpointed (.completeReportOrHandleControl execution.reportPath)

/-- The collection phase of `_execute_impl`. -/
def executeCollection (execution : Execution) : Work RunState := do
  let state ← refreshProgress execution.counts
  match state.status with
  | .queued =>
    let _ ← store false (.markRunning .collecting)
  | .running | .pauseRequested | .cancelRequested => pure ()
  | _ => Program.fail false
  let _ ← store false .load
  requires false execution.samplesLoaded
  let _ ← store false .load
  requires false execution.serviceBuilt
  let state ← recordServiceMetadata false execution.publicMetadata
  requires false execution.preflightAnswered
  match state.mode, execution.preflightErrors with
  | .online, some errors => store false (.markFailed ("evaluation preflight failed: " ++ errors))
  | mode, _ =>
    if mode = .online then
      collect true execution.collection
    requires false execution.snapshotsLoaded
    let _ ← store false .load
    requires false execution.manifestWritten
    match execution.manifest with
    | none => pure ()
    | some (sha256, verified) =>
      let _ ← store false (.recordSnapshotManifest sha256 verified)
    if !(← checkpoint) then store false .load
    else
      let state ← store false .load
      if state.status = .paused ∨ state.status = .cancelled then store false .load
      else
        let state ← store false .load
        if state.mode = .online ∧ !(state.evaluationConfig.get "scoring_requested").truthy then
          match execution.qcVerdict with
          | none => .fail false
          | some verdict => store false (.markCollected verdict)
        else executeScoring execution

/-- The exception path of `_execute_impl`. -/
def handleFailure (execution : Execution) (checkpointed : Bool) : Work RunState :=
  let closing : Work RunState :=
    (store false (.markFailed "evaluation worker failed; see application logs")).tryCatch fun _ =>
      store false .load
  if checkpointed then
    Program.tryCatch
      (do
        let _ ← store true .load
        let _ ← store true .load
        let _ ← store true .load
        requires true execution.failureWritten
        store true (.publishPartialReport execution.reportPath))
      fun _ => closing
  else closing

/-- `_execute_impl`. -/
def executeImpl (execution : Execution) : Work RunState :=
  (executeCollection execution).tryCatch (handleFailure execution)

/-- `execute`. -/
def execute (execution : Execution) : Work RunState := do
  let _ ← store false .load
  executeImpl execution

end HardwareDatabase.Evaluation
