/-
Module: HardwareDatabase.Evaluation.Gates
Purpose: The threshold gate over the results of an evaluation (`src/src/evaluation/gates.py`, with the metric names of
  `cohorts.py`), on exact scores.
Trusted boundary: none
-/
import HardwareDatabase.Python.Groups
import Mathlib.Data.Rat.Floor

namespace HardwareDatabase.Evaluation

open Python

/-! ### Results -/

/-- `MetricStatus`. -/
inductive MetricStatus where
  | success
  | failed
  | notApplicable
deriving Repr, DecidableEq

/-- `MetricResult`, as the gate reads it. -/
structure MetricResult where
  metricName : String
  score : Option ℚ := none
  status : MetricStatus := .success
deriving Repr, DecidableEq

/-- `SampleResult`, as the gate reads it. -/
structure SampleResult where
  sampleId : String
  critical : Bool := false
  metrics : List MetricResult := []
deriving Repr, DecidableEq

/-- `RAGAS_METRICS`. -/
def ragasMetrics : List String :=
  ["answer_correctness", "faithfulness", "answer_relevancy", "context_precision", "context_recall"]

/-- `is_ragas_metric`. -/
def isRagasMetric (metricName : String) : Bool :=
  ragasMetrics.contains metricName

/-- `DEFAULT_THRESHOLDS`. -/
def defaultThresholds : OrderedDict String ℚ :=
  .ofEntries
    [("answer_correctness", 3 / 4), ("faithfulness", 3 / 4), ("evidence_consistency", 3 / 4),
      ("answer_relevancy", 7 / 10), ("context_precision", 7 / 10), ("context_recall", 7 / 10),
      ("forbidden_claims", 1)]

/-- `DOCUMENT_GENERATION_HARD_ZERO_METRICS`. -/
def documentGenerationHardZeroMetrics : List String :=
  ["fixed_content_overwrite_rate", "source_scope_violation_count", "unsupported_required_field_fill_count"]

/-! ### Failures -/

/-- A failure of the gate. -/
inductive GateFailure where
  | evaluationFailed (sampleId metricName : String)
  | hardZero (sampleId metricName : String) (score : ℚ)
  | criticalBelow (sampleId metricName : String) (score threshold : ℚ)
  | below (metricName : String) (score threshold : ℚ)
deriving Repr, DecidableEq

/-- `f"{value:.3f}"`: a half goes to the even neighbour. -/
def fixed3 (value : ℚ) : String :=
  let scaled := |value| * 1000
  let whole := ⌊scaled⌋.toNat
  let thousandths :=
    if 1 / 2 < scaled - whole ∨ (scaled - whole = 1 / 2 ∧ whole % 2 = 1) then whole + 1 else whole
  let digits := toString (thousandths % 1000)
  (if value < 0 then "-" else "") ++ toString (thousandths / 1000) ++ "." ++
    String.ofList (List.replicate (3 - digits.length) '0') ++ digits

/-- The text of a failure. -/
def GateFailure.text : GateFailure → String
  | .evaluationFailed sampleId metricName => "critical sample " ++ sampleId ++ ": " ++ metricName ++ " evaluation failed"
  | .hardZero sampleId metricName score => sampleId ++ ": " ++ metricName ++ " must be 0.0, got " ++ fixed3 score
  | .criticalBelow sampleId metricName score threshold =>
    "critical sample " ++ sampleId ++ ": " ++ metricName ++ " " ++ fixed3 score ++ " < " ++ fixed3 threshold
  | .below metricName score threshold => metricName ++ ": " ++ fixed3 score ++ " < " ++ fixed3 threshold

/-- The metric that a failure is about. -/
def GateFailure.metricName : GateFailure → String
  | .evaluationFailed _ metricName | .hardZero _ metricName _ | .criticalBelow _ metricName _ _
  | .below metricName _ _ => metricName

/-- `GateResult`; the failures keep their data. -/
structure GateResult where
  passed : Bool
  exitCode : Int
  metricScores : List (String × ℚ)
  metricCounts : List (String × Nat)
  failures : List GateFailure
deriving Repr, DecidableEq

/-! ### The gate -/

/-- The arguments of `evaluate_gate` besides the results, with the active thresholds. -/
structure Gate where
  thresholds : OrderedDict String ℚ := defaultThresholds
  failOnThreshold : Bool := false
  sampleCohorts : Option (OrderedDict String String) := none
  minCoverage : ℚ := 4 / 5

namespace Gate

variable (gate : Gate)

/-- The sample is in the cohort `non_retrieval`. -/
def nonRetrieval (sampleId : String) : Bool :=
  match gate.sampleCohorts with
  | none => false
  | some cohorts => cohorts.get? sampleId == some "non_retrieval"

/-- The metrics of a sample that the loop does not skip. -/
def visited (sample : SampleResult) : List MetricResult :=
  sample.metrics.filter fun metric => !(gate.nonRetrieval sample.sampleId && isRagasMetric metric.metricName)

/-- The score that a metric contributes. -/
def scoreOf (metric : MetricResult) : Option ℚ :=
  if metric.status = .success then metric.score else none

/-- What the loop appends to the failures for one metric of a sample. -/
def metricFailures (sample : SampleResult) (metric : MetricResult) : List GateFailure :=
  let threshold := gate.thresholds.get? metric.metricName
  (if sample.critical = true ∧ metric.status = .failed ∧ threshold.isSome = true then
    [.evaluationFailed sample.sampleId metric.metricName] else []) ++
  match scoreOf metric with
  | none => []
  | some score =>
    (if metric.metricName ∈ documentGenerationHardZeroMetrics ∧ score ≠ 0 then
      [.hardZero sample.sampleId metric.metricName score] else []) ++
    match threshold with
    | none => []
    | some threshold =>
      if sample.critical = true ∧ score < threshold then
        [.criticalBelow sample.sampleId metric.metricName score threshold] else []

/-- What the loop appends to the failures. -/
def sampleFailures (results : List SampleResult) : List GateFailure :=
  results.flatMap fun sample => (gate.visited sample).flatMap (gate.metricFailures sample)

/-- The pairs that the loop appends to `scores`. -/
def recorded (results : List SampleResult) : List (String × ℚ) :=
  results.flatMap fun sample => (gate.visited sample).filterMap fun metric =>
    (scoreOf metric).map fun score => (metric.metricName, score)

/-- `scores`. -/
def scores (results : List SampleResult) : OrderedDict String (List (String × ℚ)) :=
  grouped Prod.fst (gate.recorded results)

/-- `needed`. -/
def needed (sampleTotal : Nat) : Nat :=
  if sampleTotal = 0 then 0 else max 1 ⌈gate.minCoverage * sampleTotal⌉.toNat

/-- `sum(values) / len(values)`. -/
def mean (values : List (String × ℚ)) : ℚ :=
  (values.map Prod.snd).sum / values.length

/-- The check of one threshold. -/
def thresholdFailures (results : List SampleResult) (entry : String × ℚ) : List GateFailure :=
  match (gate.scores results).get? entry.1 with
  | none => []
  | some values =>
    if results ≠ [] ∧ values.length < gate.needed results.length then []
    else if mean values < entry.2 then [.below entry.1 (mean values) entry.2] else []

/-- `evaluate_gate`. -/
def evaluateGate (results : List SampleResult) : GateResult :=
  let failures := gate.sampleFailures results ++ gate.thresholds.entries.flatMap (gate.thresholdFailures results)
  { passed := failures.isEmpty
    exitCode := if gate.failOnThreshold && !failures.isEmpty then 2 else 0
    metricScores := (gate.scores results).entries.map fun entry => (entry.1, mean entry.2)
    metricCounts := (gate.scores results).entries.map fun entry => (entry.1, entry.2.length)
    failures }

end Gate

end HardwareDatabase.Evaluation
