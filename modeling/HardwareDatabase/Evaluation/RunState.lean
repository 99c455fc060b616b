/-
Module: HardwareDatabase.Evaluation.RunState
Purpose: The state of an evaluation run and the guarded changes of `RunStateStore`
  (`src/src/evaluation/run_control.py`). The identity of the run and the data of its data set, which no change
  touches, are left out.
Trusted boundary: none
-/
import HardwareDatabase.Python.Value

namespace HardwareDatabase.Evaluation

open Python (Value Dict)

inductive Mode
  | online
  | offline
deriving Repr, DecidableEq

inductive RunStatus
  | queued
  | running
  | pauseRequested
  | paused
  | collected
  | cancelRequested
  | cancelled
  | completed
  | failed
deriving Repr, DecidableEq

inductive RunStage
  | idle
  | collecting
  | collected
  | scoring
  | reporting
deriving Repr, DecidableEq

/-- What a call raises. -/
inductive Failure
  -- ValueError
  | cannot (action : String) (status : RunStatus)
  | cancelledCannotContinue
  | unknownMode
  | collectionIncomplete
  | collectionFailed
  | unreadable
  -- RuntimeError
  | alreadyRunning
deriving Repr, DecidableEq

/-- An `EvaluationRunState`. -/
structure RunState where
  mode : Mode
  status : RunStatus
  stage : RunStage
  evaluationConfig : Dict
  totalSamples : Nat
  completedSamples : Nat
  successfulSamples : Nat
  failedSamples : Nat
  scoringCompletedGroups : Nat
  scoringTotalGroups : Nat
  scoringCompletedItems : Nat
  scoringTotalItems : Nat
  currentSampleId : String
  currentQuestion : String
  snapshotSha256 : String
  snapshotOwnershipVerified : Bool
  llmModel : String
  embeddingModel : String
  startedAt : Option Nat
  updatedAt : Nat
  finishedAt : Option Nat
  errorMessage : String
  reportPath : String
deriving Repr

namespace RunState

/-- The state that `create_online_run` and `create_offline_run` store. -/
def created (mode : Mode) (config : Dict) (totalSamples : Nat) (verified : Bool) (now : Nat) : RunState where
  mode
  status := .queued
  stage := .idle
  evaluationConfig := config
  totalSamples
  completedSamples := 0
  successfulSamples := 0
  failedSamples := 0
  scoringCompletedGroups := 0
  scoringTotalGroups := 0
  scoringCompletedItems := 0
  scoringTotalItems := 0
  currentSampleId := ""
  currentQuestion := ""
  snapshotSha256 := ""
  snapshotOwnershipVerified := verified
  llmModel := ""
  embeddingModel := ""
  startedAt := none
  updatedAt := now
  finishedAt := none
  errorMessage := ""
  reportPath := ""

/-- `_finish`; an argument that is not given leaves its field. -/
def finish (state : RunState) (status : RunStatus) (errorMessage reportPath : Option String) (now : Nat) : RunState :=
  { state with
    status
    stage := .idle
    currentSampleId := ""
    currentQuestion := ""
    finishedAt := some now
    errorMessage := errorMessage.getD state.errorMessage
    reportPath := reportPath.getD state.reportPath
    updatedAt := now }

/-- `_request_pause`. -/
def requestPause (state : RunState) (now : Nat) : Except Failure RunState :=
  match state.status with
  | .pauseRequested => .ok state
  | .queued | .running => .ok { state with status := .pauseRequested, updatedAt := now }
  | other => .error (.cannot "request pause" other)

/-- `_request_cancel`. -/
def requestCancel (state : RunState) (now : Nat) : Except Failure RunState :=
  match state.status with
  | .cancelRequested => .ok state
  | .collected => .ok (state.finish .cancelled none none now)
  | .queued | .running | .pauseRequested => .ok { state with status := .cancelRequested, updatedAt := now }
  | .paused => .ok (state.finish .cancelled none none now)
  | other => .error (.cannot "request cancellation" other)

/-- `_mark_running`. -/
def markRunning (state : RunState) (stage : RunStage) (now : Nat) : Except Failure RunState :=
  if state.status = .queued then
    .ok { state with status := .running, stage, startedAt := state.startedAt.or (some now), updatedAt := now }
  else .error (.cannot "mark running" state.status)

/-- `_mark_paused`. -/
def markPaused (state : RunState) (now : Nat) : Except Failure RunState :=
  if state.status = .pauseRequested then
    .ok { state with status := .paused, stage := .idle, updatedAt := now }
  else .error (.cannot "mark paused" state.status)

/-- `_mark_cancelled`. -/
def markCancelled (state : RunState) (now : Nat) : Except Failure RunState :=
  match state.status with
  | .cancelRequested | .paused | .collected => .ok (state.finish .cancelled none none now)
  | other => .error (.cannot "mark cancelled" other)

/-- `_begin_sample`. -/
def beginSample (state : RunState) (sampleId question : String) (now : Nat) : Except Failure RunState :=
  match state.status with
  | .pauseRequested => state.markPaused now
  | .cancelRequested => state.markCancelled now
  | .running =>
    .ok
      { state with
        stage := .collecting
        currentSampleId := sampleId
        currentQuestion := question
        updatedAt := now }
  | other => .error (.cannot "begin sample" other)

/-- `_mark_collected`. -/
def markCollected (state : RunState) (qcVerdict : String) (now : Nat) : Except Failure RunState :=
  match state.status with
  | .running | .pauseRequested | .cancelRequested =>
    .ok
      { state with
        status := .collected
        stage := .collected
        currentSampleId := ""
        currentQuestion := ""
        finishedAt := some now
        evaluationConfig :=
          if qcVerdict = "" then state.evaluationConfig
          else Dict.assign "collection_qc_verdict" (.string qcVerdict) state.evaluationConfig
        updatedAt := now }
  | other => .error (.cannot "mark collected" other)

/-- `_request_scoring`. -/
def requestScoring (state : RunState) (now : Nat) : Except Failure RunState :=
  match state.status with
  | .collected | .failed =>
    .ok
      { state with
        status := .queued
        stage := .idle
        finishedAt := none
        errorMessage := ""
        updatedAt := now }
  | other => .error (.cannot "start scoring" other)

/-- `_mark_completed`. -/
def markCompleted (state : RunState) (reportPath : String) (now : Nat) : Except Failure RunState :=
  match state.status with
  | .queued | .running => .ok (state.finish .completed none (some reportPath) now)
  | other => .error (.cannot "mark completed" other)

/-- `_mark_failed`. -/
def markFailed (state : RunState) (errorMessage : String) (now : Nat) : Except Failure RunState :=
  match state.status with
  | .queued | .running | .pauseRequested | .cancelRequested =>
    .ok (state.finish .failed (some errorMessage) none now)
  | other => .error (.cannot "mark failed" other)

/-- `complete_report_or_handle_control`. -/
def completeReportOrHandleControl (state : RunState) (reportPath : String) (now : Nat) : Except Failure RunState :=
  match state.status with
  | .queued | .running => state.markCompleted reportPath now
  | .pauseRequested => state.markPaused now
  | .cancelRequested => state.markCancelled now
  | other => .error (.cannot "finalize report" other)

/-- `publish_partial_report`. -/
def publishPartialReport (state : RunState) (reportPath errorMessage : String) (now : Nat) : RunState :=
  match state.status with
  | .pauseRequested => state.finish .paused none (some reportPath) now
  | .cancelRequested => state.finish .cancelled none (some reportPath) now
  | _ =>
    state.finish .failed
      (some (if errorMessage = "" then "evaluation worker failed; see application logs" else errorMessage))
      (some reportPath) now

/-- `_mark_orphaned_as_paused`. -/
def markOrphanedAsPaused (state : RunState) (now : Nat) : RunState :=
  match state.status with
  | .queued | .running | .pauseRequested | .cancelRequested =>
    { state with status := .paused, stage := .idle, updatedAt := now }
  | _ => state

/-- What the snapshot file says of the collected samples. -/
structure Counts where
  completedSamples : Nat
  successfulSamples : Nat
  failedSamples : Nat
deriving Repr, DecidableEq

/-- The change of `_refresh_progress`. -/
def withCounts (state : RunState) (counts : Counts) (now : Nat) : RunState :=
  { state with
    completedSamples := counts.completedSamples
    successfulSamples := counts.successfulSamples
    failedSamples := counts.failedSamples
    currentSampleId := ""
    currentQuestion := ""
    updatedAt := now }

/-- `update_scoring_progress`; items that are not given stay. -/
def updateScoringProgress (state : RunState) (completedGroups totalGroups : Nat)
    (items : Option (Nat × Nat)) (now : Nat) : RunState :=
  { state with
    scoringCompletedGroups := completedGroups
    scoringTotalGroups := totalGroups
    scoringCompletedItems := (items.map Prod.fst).getD state.scoringCompletedItems
    scoringTotalItems := (items.map Prod.snd).getD state.scoringTotalItems
    updatedAt := now }

/-- `str(metadata.get(key) or current)`. -/
def modelName (metadata : Dict) (key current : String) : String :=
  (((metadata.get key).orElse (.string current)).text?).getD ""

/-- The change of `_record_service_metadata`, whose configuration was made from an earlier load. -/
def withServiceMetadata (state : RunState) (config metadata : Dict) (now : Nat) : RunState :=
  { state with
    evaluationConfig := config
    llmModel := modelName metadata "llm_model" state.llmModel
    embeddingModel := modelName metadata "embedding_model" state.embeddingModel
    updatedAt := now }

/-- The change of `resume`. -/
def queue (state : RunState) (mode : String) (now : Nat) : Except Failure RunState :=
  if state.status ≠ .paused ∧ state.status ≠ .cancelled then .error (.cannot "resume run" state.status)
  else if mode = "continue" ∧ state.status = .cancelled then .error .cancelledCannotContinue
  else
    .ok
      { state with
        status := .queued
        stage := .idle
        currentSampleId := ""
        currentQuestion := ""
        finishedAt := none
        errorMessage := ""
        reportPath := ""
        evaluationConfig := Dict.assign "scoring_resume" (.string mode) state.evaluationConfig
        updatedAt := now }

/-- The change that `start_scoring` makes before it requests the scoring. -/
def withScoringRequested (state : RunState) (now : Nat) : RunState :=
  { state with
    evaluationConfig := Dict.assign "scoring_requested" (.bool true) state.evaluationConfig
    updatedAt := now }

end RunState

end HardwareDatabase.Evaluation
