/-
Module: HardwareDatabase.Proofs.GateCoverage
Purpose: Samples that no RAGAS metric applies to raise the number of scores that a threshold needs: failures survive
  them exactly while the scores are still as many.
Trusted boundary: none
-/
import HardwareDatabase.Evaluation.Gates

namespace HardwareDatabase.Evaluation

open Python

variable {failure : GateFailure}

namespace Gate

variable {gate : Gate} {before after results : List SampleResult} {sample : SampleResult} {metricName : String}

/-! ### Samples outside retrieval -/

/-- The RAGAS metrics of the sample are skipped or not applicable. -/
def Inapplicable (gate : Gate) (sample : SampleResult) : Prop :=
  gate.nonRetrieval sample.sampleId = true ∨
    ∀ metric ∈ sample.metrics, isRagasMetric metric.metricName = true → metric.status = .notApplicable

/-- The second list has samples more than the first, which no RAGAS metric applies to. -/
inductive Adds (gate : Gate) : List SampleResult → List SampleResult → Prop
  | nil : Adds gate [] []
  | keep (sample : SampleResult) {before after : List SampleResult} :
      Adds gate before after → Adds gate (sample :: before) (sample :: after)
  | add {sample : SampleResult} {before after : List SampleResult} :
      gate.Inapplicable sample → Adds gate before after → Adds gate before (sample :: after)

/-- The scores of a metric. -/
def scored (gate : Gate) (results : List SampleResult) (metricName : String) : List (String × ℚ) :=
  (gate.recorded results).filter fun entry => decide (entry.1 = metricName)

/-- The metric applies to the sample. -/
def Eligible (gate : Gate) (sample : SampleResult) (metricName : String) : Prop :=
  gate.nonRetrieval sample.sampleId = false ∧
    ∀ metric ∈ sample.metrics, metric.metricName = metricName → metric.status ≠ .notApplicable

/-- Every sample that the metric applies to has a successful score, and their mean is below the threshold. -/
structure ScoredLow (gate : Gate) (results : List SampleResult) (entry : String × ℚ) : Prop where
  complete : ∀ sample ∈ results, gate.Eligible sample entry.1 →
    ∃ metric ∈ sample.metrics, metric.metricName = entry.1 ∧ (scoreOf metric).isSome = true
  filled : gate.scored results entry.1 ≠ []
  low : mean (gate.scored results entry.1) < entry.2

/-- The failures of RAGAS metrics are not removed, and a mean below its threshold makes the gate fail. -/
structure SeesFailures (gate : Gate) (before after : List SampleResult) : Prop where
  kept : ∀ failure ∈ (gate.evaluateGate before).failures, isRagasMetric failure.metricName = true →
    failure ∈ (gate.evaluateGate after).failures
  failing : ∀ entry ∈ gate.thresholds.entries, isRagasMetric entry.1 = true → gate.ScoredLow after entry →
    (∃ score, GateFailure.below entry.1 score entry.2 ∈ (gate.evaluateGate after).failures) ∧
      (gate.evaluateGate after).passed = false

/-- The scores of each RAGAS metric that fails are as many as are needed for all samples. -/
structure StillCovered (gate : Gate) (before after : List SampleResult) : Prop where
  failed : ∀ entry ∈ gate.thresholds.entries, isRagasMetric entry.1 = true → gate.scored before entry.1 ≠ [] →
    gate.needed before.length ≤ (gate.scored before entry.1).length → mean (gate.scored before entry.1) < entry.2 →
      gate.needed after.length ≤ (gate.scored before entry.1).length
  scoredLow : ∀ entry ∈ gate.thresholds.entries, isRagasMetric entry.1 = true → gate.ScoredLow after entry →
    gate.needed after.length ≤ (gate.scored after entry.1).length

/-! ### Scores -/

private theorem scored_cons : gate.scored (sample :: results) metricName =
    gate.scored [sample] metricName ++ gate.scored results metricName := by
  simp only [scored, recorded, List.flatMap_cons, List.flatMap_nil, List.append_nil, List.filter_append]

private theorem Inapplicable.scored (inapplicable : gate.Inapplicable sample) (ragas : isRagasMetric metricName = true) :
    gate.scored [sample] metricName = [] := by
  refine List.filter_eq_nil_iff.mpr fun entry member => ?_
  simp only [recorded, List.flatMap_cons, List.flatMap_nil, List.append_nil, List.mem_filterMap] at member
  obtain ⟨metric, seen, recordedAs⟩ := member
  obtain ⟨score, has, rfl⟩ := Option.map_eq_some_iff.mp recordedAs
  obtain ⟨present, unskipped⟩ := List.mem_filter.mp seen
  simp only [decide_eq_true_eq]
  rintro rfl
  rcases inapplicable with outside | inapplicable
  · simp [outside, ragas] at unskipped
  · simp [scoreOf, inapplicable metric present ragas] at has

private theorem Adds.scored (adds : gate.Adds before after) (ragas : isRagasMetric metricName = true) :
    gate.scored after metricName = gate.scored before metricName := by
  induction adds with
  | nil => rfl
  | keep sample _ ih =>
    rw [scored_cons, ih, ← scored_cons]
  | add inapplicable _ ih =>
    rw [scored_cons, inapplicable.scored ragas, List.nil_append, ih]

private theorem Adds.sampleFailures (adds : gate.Adds before after) :
    ∀ failure ∈ gate.sampleFailures before, failure ∈ gate.sampleFailures after := by
  induction adds with
  | nil => exact fun _ member => member
  | keep sample _ ih =>
    intro failure member
    rcases List.mem_append.mp member with here | later
    · exact List.mem_append_left _ here
    · exact List.mem_append_right _ (ih failure later)
  | add _ _ ih =>
    exact fun failure member => List.mem_append_right _ (ih failure member)

/-! ### Thresholds -/

private theorem getD_scores : ((gate.scores results).get? metricName).getD [] = gate.scored results metricName :=
  group_eq_filter Prod.fst (gate.recorded results) metricName

private theorem one_le_needed (some : results ≠ []) : 1 ≤ gate.needed results.length := by
  rw [needed, if_neg fun none => some (List.length_eq_zero_iff.mp none)]
  exact Nat.le_max_left _ _

private theorem mem_thresholdFailures {entry : String × ℚ} : failure ∈ gate.thresholdFailures results entry ↔
      (gate.scored results entry.1 ≠ [] ∧ gate.needed results.length ≤ (gate.scored results entry.1).length ∧
        mean (gate.scored results entry.1) < entry.2) ∧
      failure = .below entry.1 (mean (gate.scored results entry.1)) entry.2 := by
  have values : ((gate.scores results).get? entry.1).getD [] = gate.scored results entry.1 := getD_scores
  rw [thresholdFailures]
  cases looked : (gate.scores results).get? entry.1 with
  | none =>
    rw [looked, Option.getD_none] at values
    simp [← values]
  | some =>
    rw [looked, Option.getD_some] at values
    subst values
    by_cases empty : results = []
    · have vacant : gate.scored results entry.1 = [] := by rw [empty]; rfl
      rw [empty] at looked
      cases looked
    · have one : 1 ≤ gate.needed results.length := one_le_needed empty
      dsimp only
      split
      · rename_i few
        constructor
        · exact fun member => absurd member List.not_mem_nil
        · rintro ⟨⟨-, enough, -⟩, -⟩
          exact absurd few.2 (not_lt.mpr enough)
      · rename_i covered
        have enough := not_lt.mp fun few => covered ⟨empty, few⟩
        have filled : gate.scored results entry.1 ≠ [] := List.ne_nil_of_length_pos (one.trans enough)
        split
        · rename_i low
          simp [filled, enough, low]
        · rename_i high
          simp [high]

private theorem mem_failures : failure ∈ (gate.evaluateGate results).failures ↔ failure ∈ gate.sampleFailures results ∨
      ∃ entry ∈ gate.thresholds.entries, failure ∈ gate.thresholdFailures results entry := by
  simp only [evaluateGate, List.mem_append, List.mem_flatMap]

private theorem not_passed (member : failure ∈ (gate.evaluateGate results).failures) :
    (gate.evaluateGate results).passed = false := by
  have filled : (gate.evaluateGate results).failures ≠ [] := List.ne_nil_of_mem member
  exact List.isEmpty_eq_false_iff.mpr filled

private theorem below_notMem_sampleFailures {score threshold : ℚ} :
    GateFailure.below metricName score threshold ∉ gate.sampleFailures results := by
  intro member
  obtain ⟨sample, -, member⟩ := List.mem_flatMap.mp member
  obtain ⟨metric, -, member⟩ := List.mem_flatMap.mp member
  rw [metricFailures] at member
  rcases List.mem_append.mp member with failed | member
  · split at failed <;> simp at failed
  · split at member
    · cases member
    · rcases List.mem_append.mp member with zero | critical
      · split at zero <;> simp at zero
      · split at critical
        · cases critical
        · split at critical <;> simp at critical

private theorem below_mem_failures {score threshold : ℚ} :
    GateFailure.below metricName score threshold ∈ (gate.evaluateGate results).failures ↔
      (metricName, threshold) ∈ gate.thresholds.entries ∧
        GateFailure.below metricName score threshold ∈ gate.thresholdFailures results (metricName, threshold) := by
  rw [mem_failures, or_iff_right below_notMem_sampleFailures]
  constructor
  · rintro ⟨entry, member, failed⟩
    cases (mem_thresholdFailures.mp failed).2
    exact ⟨member, failed⟩
  · exact fun ⟨member, failed⟩ => ⟨_, member, failed⟩

/-- Samples that no RAGAS metric applies to leave the failures of these metrics visible exactly if the scores of each
metric that fails are still as many as are needed. -/
theorem sees_failures_iff (gate : Gate) {before after : List SampleResult} (adds : gate.Adds before after) :
    gate.SeesFailures before after ↔ gate.StillCovered before after := by
  constructor
  · rintro ⟨kept, failing⟩
    constructor
    · intro entry member ragas filled enough low
      have failed : GateFailure.below entry.1 (mean (gate.scored before entry.1)) entry.2 ∈
          (gate.evaluateGate before).failures :=
        mem_failures.mpr (.inr ⟨entry, member, mem_thresholdFailures.mpr ⟨⟨filled, enough, low⟩, rfl⟩⟩)
      have still := (mem_thresholdFailures.mp (below_mem_failures.mp (kept _ failed ragas)).2).1.2.1
      rwa [adds.scored ragas] at still
    · intro entry member ragas scoredLow
      obtain ⟨⟨score, failed⟩, -⟩ := failing entry member ragas scoredLow
      exact (mem_thresholdFailures.mp (below_mem_failures.mp failed).2).1.2.1
  · rintro ⟨failed, scoredLow⟩
    constructor
    · intro failure member ragas
      rcases mem_failures.mp member with single | ⟨entry, known, below⟩
      · exact mem_failures.mpr (.inl (adds.sampleFailures failure single))
      · obtain ⟨⟨filled, enough, low⟩, rfl⟩ := mem_thresholdFailures.mp below
        have same : gate.scored after entry.1 = gate.scored before entry.1 := adds.scored ragas
        refine mem_failures.mpr (.inr ⟨entry, known, mem_thresholdFailures.mpr ?_⟩)
        rw [same]
        exact ⟨⟨filled, failed entry known ragas filled enough low, low⟩, rfl⟩
    · intro entry member ragas low
      have reported : GateFailure.below entry.1 (mean (gate.scored after entry.1)) entry.2 ∈
          (gate.evaluateGate after).failures :=
        mem_failures.mpr (.inr ⟨entry, member,
          mem_thresholdFailures.mpr ⟨⟨low.filled, scoredLow entry member ragas low, low.low⟩, rfl⟩⟩)
      exact ⟨⟨_, reported⟩, not_passed reported⟩

/-! ### Two samples outside retrieval -/

/-- A sample with a low score. -/
def lowSample (sampleId : String) : SampleResult where
  sampleId
  metrics := [{ metricName := "faithfulness", score := some (1 / 2) }]

/-- A sample that no RAGAS metric applies to. -/
def smallTalk (sampleId : String) : SampleResult where
  sampleId
  metrics := [{ metricName := "faithfulness", status := .notApplicable }]

/-- Five samples with low scores. -/
def lowRun : List SampleResult :=
  [lowSample "1", lowSample "2", lowSample "3", lowSample "4", lowSample "5"]

/-- The gate with one threshold. -/
def faithfulGate : Gate where
  thresholds := .ofEntries [("faithfulness", 3 / 4)]

private theorem smallTalk_inapplicable (sampleId : String) : faithfulGate.Inapplicable (smallTalk sampleId) := by
  refine .inr fun metric member _ => ?_
  obtain rfl := List.mem_singleton.mp member
  rfl

private theorem entries_faithfulGate {entry : String × ℚ} (member : entry ∈ faithfulGate.thresholds.entries) :
    entry = ("faithfulness", 3 / 4) := by
  have entries : faithfulGate.thresholds.entries = [("faithfulness", 3 / 4)] := by decide +kernel
  rw [entries] at member
  exact List.mem_singleton.mp member

/-- With one sample more the gate still fails. -/
theorem one_more_sample_is_seen : faithfulGate.SeesFailures lowRun (smallTalk "6" :: lowRun) := by
  have adds : faithfulGate.Adds lowRun (smallTalk "6" :: lowRun) :=
    .add (smallTalk_inapplicable "6") (.keep _ (.keep _ (.keep _ (.keep _ (.keep _ .nil)))))
  refine (sees_failures_iff faithfulGate adds).mpr ⟨?_, ?_⟩
  · intro entry member _ _ _ _
    obtain rfl := entries_faithfulGate member
    decide +kernel
  · intro entry member _ _
    obtain rfl := entries_faithfulGate member
    decide +kernel

/-- With two samples more the gate passes. -/
theorem two_more_samples_blind_the_gate : faithfulGate.Adds lowRun (smallTalk "6" :: smallTalk "7" :: lowRun) ∧
      (faithfulGate.evaluateGate lowRun).passed = false ∧
      (faithfulGate.evaluateGate (smallTalk "6" :: smallTalk "7" :: lowRun)).passed = true ∧
      ¬ faithfulGate.SeesFailures lowRun (smallTalk "6" :: smallTalk "7" :: lowRun) := by
  have adds : faithfulGate.Adds lowRun (smallTalk "6" :: smallTalk "7" :: lowRun) :=
    .add (smallTalk_inapplicable "6") (.add (smallTalk_inapplicable "7")
      (.keep _ (.keep _ (.keep _ (.keep _ (.keep _ .nil))))))
  refine ⟨adds, by decide +kernel, by decide +kernel, fun sees => ?_⟩
  have failed : GateFailure.below "faithfulness" (1 / 2) (3 / 4) ∈ (faithfulGate.evaluateGate lowRun).failures := by
    decide +kernel
  have removed : GateFailure.below "faithfulness" (1 / 2) (3 / 4) ∉
      (faithfulGate.evaluateGate (smallTalk "6" :: smallTalk "7" :: lowRun)).failures := by
    decide +kernel
  exact removed (sees.kept _ failed (by decide))

end Gate

end HardwareDatabase.Evaluation
