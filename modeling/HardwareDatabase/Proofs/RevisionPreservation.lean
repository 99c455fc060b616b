/-
Module: HardwareDatabase.Proofs.RevisionPreservation
Purpose: When the units that a compiled revision lists as preserved are those that its diff reuses.
Trusted boundary: none
-/
import HardwareDatabase.Replanning.RevisionPlans
import HardwareDatabase.Proofs.PlanReuse
import Mathlib.Data.List.Sort

namespace HardwareDatabase.Replanning

open Python
open Relational (eq_ok_of_mapError exists_of_bind_eq_ok exists_of_map_eq_ok saturate_eq_sweeps Joined)

/-! ### Revised units -/

/-- A target unit that the revision changes, outside the names of the lifecycle fields. -/
def Revised (isAlnum : Char → Bool) (patch : RevisionPatch) (plan : DocumentPlan) (targets : List String)
    (unitId : String) : Prop :=
  ∃ unit ∈ plan.semanticUnits, unit.unitId = unitId ∧ ¬ unit.SameContent (patch.reviseUnit isAlnum targets unit)

/-- The task of the unit is the task of a revised unit or depends on it, directly or not. -/
def DependsOnRevised (isAlnum : Char → Bool) (patch : RevisionPatch) (plan : DocumentPlan) (targets : List String)
    (unitId : String) : Prop :=
  ∃ source ∈ plan.unitTasks, Revised isAlnum patch plan targets source.unitId ∧
    ∃ task ∈ plan.unitTasks, task.unitId = unitId ∧
      Relation.ReflTransGen (Joined plan.childEdges) source.taskId task.taskId

section Child

variable {isAlnum : Char → Bool} {patch : RevisionPatch} {plan child : DocumentPlan} {targets : List String}

private theorem RevisionPatch.unitId_reviseUnit (unit : SemanticUnitPlan) :
    (patch.reviseUnit isAlnum targets unit).unitId = unit.unitId := by
  rw [reviseUnit]
  split <;> rfl

private theorem RevisionPatch.unitIds_childPlan : (patch.childPlan isAlnum plan targets).unitIds = plan.unitIds := by
  rw [DocumentPlan.unitIds, DocumentPlan.unitIds, childPlan, List.map_map]
  exact List.map_congr_left fun unit _ => unitId_reviseUnit unit

private theorem RevisionPatch.childEdges_childPlan :
    (patch.childPlan isAlnum plan targets).childEdges = plan.childEdges := by
  rw [DocumentPlan.childEdges, DocumentPlan.childEdges, childPlan, List.flatMap_map]
  rfl

private theorem RevisionPatch.mem_tasks_childPlan {task : UnitTaskSpec} :
    task ∈ (patch.childPlan isAlnum plan targets).unitTasks ↔
      ∃ old ∈ plan.unitTasks, patch.reviseTask plan old = task :=
  List.mem_map

private theorem RevisionPatch.mem_units_childPlan {unit : SemanticUnitPlan} (other : unit.unitId ∉ targets) :
    unit ∈ (patch.childPlan isAlnum plan targets).semanticUnits ↔ unit ∈ plan.semanticUnits := by
  have kept : patch.reviseUnit isAlnum targets unit = unit := if_neg other
  constructor
  · intro member
    obtain ⟨old, there, rfl⟩ := List.mem_map.mp member
    rw [unitId_reviseUnit] at other
    rw [show patch.reviseUnit isAlnum targets old = old from if_neg other]
    exact there
  · intro member
    exact List.mem_map.mpr ⟨unit, member, kept⟩

/-! ### What the diff detects -/

private theorem RevisionPatch.sameSetting_childPlan :
    SameSetting plan (patch.childPlan isAlnum plan targets) where
  specKeys _ := Iff.rfl
  specFields key old new oldThere newThere := by
    rw [Prod.mk.inj (List.inj_on_of_nodup_map (distinct_of_mapping plan.outputSpecSummary) oldThere newThere rfl) |>.2]
    exact fun _ _ => rfl
  specHash := rfl
  layout := LayoutContract.bare_eq_iff.mp rfl
  rendering _ _ := rfl
  snapshot := rfl
  snapshotHash := rfl
  versions := rfl
  approval _ _ := rfl
  unitReview _ _ := rfl
  documentReview _ _ := rfl

variable (formed : plan.WellFormed)

include formed

private theorem unitChanged_childPlan_iff {unitId : String} :
    UnitChanged plan (patch.childPlan isAlnum plan targets) unitId ↔ Revised isAlnum patch plan targets unitId := by
  constructor
  · rintro ⟨old, there, new, newThere, rfl, same, apart⟩
    obtain ⟨origin, originThere, rfl⟩ := List.mem_map.mp newThere
    rw [RevisionPatch.unitId_reviseUnit] at same
    obtain rfl := formed.eq_of_unitId originThere there same
    exact ⟨origin, there, rfl, apart⟩
  · rintro ⟨unit, there, rfl, apart⟩
    exact ⟨unit, there, _, List.mem_map_of_mem there, rfl, RevisionPatch.unitId_reviseUnit unit, apart⟩

/-- The diff detects the revised targets and nothing else. -/
theorem detected_childPlan_iff {unitId : String} (there : unitId ∈ plan.unitIds) :
    Detected plan (patch.childPlan isAlnum plan targets) unitId ↔ Revised isAlnum patch plan targets unitId := by
  rw [Detected, unitChanged_childPlan_iff formed]
  refine ⟨?_, Or.inl⟩
  rintro (revised | ⟨old, oldLast, new, newLast, apart⟩ | ⟨old, oldThere, new, newThere, same, -, apart⟩ |
    ⟨upstream, task, taskThere, -, apart⟩ | absent | apart)
  · exact revised
  · cases Option.mem_unique oldLast newLast
    exact absurd (CoverageRequirement.bare_eq_iff.mp rfl) apart
  · obtain ⟨origin, originThere, rfl⟩ := RevisionPatch.mem_tasks_childPlan.mp newThere
    obtain rfl := formed.eq_of_taskId oldThere originThere same
    exact absurd (List.Perm.refl _) apart
  · exact absurd Iff.rfl apart
  · exact absurd there absent
  · exact absurd RevisionPatch.sameSetting_childPlan apart

private theorem reached_childPlan_iff {unitId : String} : Reached plan (patch.childPlan isAlnum plan targets) unitId ↔
      DependsOnRevised isAlnum patch plan targets unitId := by
  constructor
  · intro reached
    induction reached with
    | detected there changed =>
      rw [RevisionPatch.unitIds_childPlan] at there
      obtain ⟨task, taskThere, rfl⟩ := formed.exists_task there
      exact ⟨task, taskThere, (detected_childPlan_iff formed there).mp changed, task, taskThere, rfl, .refl⟩
    | downstream upstreamThere there edge _ ih =>
      obtain ⟨upstream, upstreamOld, rfl⟩ := RevisionPatch.mem_tasks_childPlan.mp upstreamThere
      obtain ⟨task, taskOld, rfl⟩ := RevisionPatch.mem_tasks_childPlan.mp there
      obtain ⟨source, sourceThere, revised, last, lastThere, same, path⟩ := ih
      obtain rfl := formed.eq_of_taskUnit lastThere upstreamOld same
      rw [RevisionPatch.childEdges_childPlan] at edge
      exact ⟨source, sourceThere, revised, task, taskOld, rfl, path.tail edge⟩
  · rintro ⟨source, sourceThere, revised, task, taskThere, rfl, path⟩
    have along : ∀ node, Relation.ReflTransGen (Joined plan.childEdges) source.taskId node →
        ∀ task ∈ plan.unitTasks, task.taskId = node →
          Reached plan (patch.childPlan isAlnum plan targets) task.unitId := by
      intro node path
      induction path with
      | refl =>
        intro task there same
        obtain rfl := formed.eq_of_taskId there sourceThere same
        have known := formed.known _ (List.mem_map.mpr ⟨task, there, rfl⟩)
        exact .detected (RevisionPatch.unitIds_childPlan.symm ▸ known)
          ((detected_childPlan_iff formed known).mpr revised)
      | tail _ edge ih =>
        rintro task there rfl
        obtain ⟨⟨upstream, upstreamThere, rfl⟩, -⟩ := formed.exists_of_edge edge
        refine @Reached.downstream _ _ (patch.reviseTask plan upstream) (patch.reviseTask plan task)
          (RevisionPatch.mem_tasks_childPlan.mpr ⟨upstream, upstreamThere, rfl⟩)
          (RevisionPatch.mem_tasks_childPlan.mpr ⟨task, there, rfl⟩) ?_ (ih upstream upstreamThere rfl)
        rw [RevisionPatch.childEdges_childPlan]
        exact edge
    exact along _ path task taskThere rfl

end Child

/-! ### Compiled revisions -/

section Compiled

variable {Digest : Type} [DecidableEq Digest] {sha256 : Value → Digest} {hex : Digest → String}
  {str : Value → String} {isAlnum : Char → Bool} {spec : Option OutputSpec} {patch : RevisionPatch}
  {targets : List String} {result : RevisionPlanCompilation}

/-- What a compilation returns, besides the scope. -/
structure Compiled (sha256 : Value → Digest) (isAlnum : Char → Bool) (plan : DocumentPlan) (patch : RevisionPatch)
    (targets : List String) (result : RevisionPlanCompilation) : Prop where
  valid : (patch.childPlan isAlnum plan targets).validatePlan = .ok ()
  child : ∃ planHash, result.childPlan = { patch.childPlan isAlnum plan targets with planHash }
  diff : diffDocumentPlans sha256 plan (patch.childPlan isAlnum plan targets) = .ok result.planDiff
  preserved : result.preservedUnitIds = plan.unitIds.filter fun unitId => decide (unitId ∉ targets)

private theorem compiled_of_compile {plan : DocumentPlan}
    (resolved : resolveRevisionTargets str plan spec patch = .ok targets)
    (done : compileRevisionPlan sha256 hex str isAlnum plan spec patch = .ok result) :
    Compiled sha256 isAlnum plan patch targets result := by
  obtain ⟨_, -, done⟩ := exists_of_bind_eq_ok done
  obtain ⟨_, -, done⟩ := exists_of_bind_eq_ok done
  obtain ⟨found, same, done⟩ := exists_of_bind_eq_ok done
  cases same.symm.trans resolved
  obtain ⟨_, -, done⟩ := exists_of_bind_eq_ok done
  obtain ⟨child, validated, done⟩ := exists_of_bind_eq_ok done
  obtain ⟨diff, compared, done⟩ := exists_of_bind_eq_ok done
  obtain ⟨scope, -, done⟩ := exists_of_bind_eq_ok done
  cases done
  obtain ⟨_, valid, validated⟩ := exists_of_bind_eq_ok validated
  obtain ⟨planHash, -, validated⟩ := exists_of_bind_eq_ok validated
  cases validated
  exact ⟨eq_ok_of_mapError valid, ⟨_, rfl⟩, eq_ok_of_mapError compared, rfl⟩

/-- The units that a compiled revision lists as preserved are reused by its diff, and the units that are no targets
are the same in both plans, exactly when no unit but the targets depends on a revised target. -/
theorem preserved_units_are_reused_iff (collisionFree : CollisionFree sha256) (parent : ValidPlan)
    (resolved : resolveRevisionTargets str parent.plan spec patch = .ok targets)
    (done : compileRevisionPlan sha256 hex str isAlnum parent.plan spec patch = .ok result) :
    ((∀ unitId ∈ result.preservedUnitIds, unitId ∈ result.planDiff.reusedUnitIds) ∧
        ∀ unit : SemanticUnitPlan, unit.unitId ∉ targets →
          (unit ∈ result.childPlan.semanticUnits ↔ unit ∈ parent.plan.semanticUnits)) ↔
      ∀ unitId ∈ parent.plan.unitIds, unitId ∉ targets →
        ¬ DependsOnRevised isAlnum patch parent.plan targets unitId := by
  have compiled := compiled_of_compile resolved done
  have formed := parent.wellFormed
  have childFormed := ValidPlan.wellFormed ⟨patch.childPlan isAlnum parent.plan targets, compiled.valid⟩
  have reused : ∀ unitId, unitId ∈ result.planDiff.reusedUnitIds ↔
      unitId ∈ parent.plan.unitIds ∧ ¬ DependsOnRevised isAlnum patch parent.plan targets unitId := by
    intro unitId
    rw [mem_reusedUnitIds_iff collisionFree formed childFormed compiled.diff, RevisionPatch.unitIds_childPlan,
      reached_childPlan_iff formed]
    exact ⟨fun ⟨there, _, spared⟩ => ⟨there, spared⟩, fun ⟨there, spared⟩ => ⟨there, there, spared⟩⟩
  have others : ∀ unit : SemanticUnitPlan, unit.unitId ∉ targets →
      (unit ∈ result.childPlan.semanticUnits ↔ unit ∈ parent.plan.semanticUnits) := by
    intro unit other
    obtain ⟨planHash, child⟩ := compiled.child
    rw [child]
    exact RevisionPatch.mem_units_childPlan other
  rw [and_iff_left others, compiled.preserved]
  simp only [List.mem_filter, decide_eq_true_iff, reused]
  exact ⟨fun all unitId there other => (all unitId ⟨there, other⟩).2,
    fun all unitId ⟨there, other⟩ => ⟨there, all unitId there other⟩⟩

end Compiled

/-! ### Two units -/

/-- A plan with the unit `b`, whose task may depend on that of the unit `a`. -/
def twoUnits (dependencies : List String) : DocumentPlan where
  documentPlanId := "p"
  version := 1
  status := .accepted
  outputSpecId := "s"
  outputSpecVersion := 1
  outputSpecHash := "h"
  sourceSnapshotId := "s"
  sourceSnapshotHash := "h"
  domainStrategyId := "g"
  domainStrategyVersion := "1"
  layoutAdapterId := "l"
  layoutAdapterVersion := "1"
  rendererCapabilityId := "r"
  rendererCapabilityVersion := "1"
  layoutContract := .structureContract "r" "1" []
  semanticUnits := [{ unitId := "a", kind := .section }, { unitId := "b", kind := .section }]
  coverageContract := [{ requirementId := "c", unitId := "b", kind := .section }]
  unitTasks :=
    [{ taskId := "s", unitId := "a", planVersion := 1, actionKey := "a" },
      { taskId := "t", unitId := "b", planVersion := 1, dependencies, actionKey := "b" }]

/-- The text of a digest, which is not looked into. -/
def digestText (_ : Value) : String := "digest"

/-- Such a plan with the hash that its validator sets. -/
def acceptedUnits (dependencies : List String) : DocumentPlan :=
  { twoUnits dependencies with planHash := some "digest" }

/-- A revision of the unit `a`. -/
def patchOfA : RevisionPatch where
  patchId := "q"
  revisionId := "r"
  parentPlanHash := "digest"
  operation := .fieldUpdate
  instruction := "x"
  targetUnitIds := ["a"]

/-- The revision of `a` in such a plan, with the values as their own digests. -/
def revisionOfA (dependencies : List String) : Except RevisionError RevisionPlanCompilation :=
  compileRevisionPlan (id : Value → Value) digestText (fun _ => "") Char.isAlphanum (acceptedUnits dependencies) none
    patchOfA

/-- The plan whose units do not depend on each other. -/
def lonePlan : ValidPlan where
  plan := acceptedUnits []
  valid := by decide +kernel

/-- Where `b` does not depend on `a`, it is reused. -/
theorem lone_unit_is_preserved :
    ∃ result, revisionOfA [] = .ok result ∧ validatedChild id digestText (twoUnits []) = .ok lonePlan.plan ∧
      (((∀ unitId ∈ result.preservedUnitIds, unitId ∈ result.planDiff.reusedUnitIds) ∧
          ∀ unit : SemanticUnitPlan, unit.unitId ∉ ["a"] →
            (unit ∈ result.childPlan.semanticUnits ↔ unit ∈ lonePlan.plan.semanticUnits)) ↔
        ∀ unitId ∈ lonePlan.plan.unitIds, unitId ∉ ["a"] →
          ¬ DependsOnRevised Char.isAlphanum patchOfA lonePlan.plan ["a"] unitId) := by
  have made : (revisionOfA []).map (·.preservedUnitIds) = .ok ["b"] := by decide +kernel
  obtain ⟨result, done, -⟩ := exists_of_map_eq_ok made
  exact ⟨result, done, rfl, preserved_units_are_reused_iff (fun _ _ _ _ same => same) lonePlan (by decide +kernel) done⟩

/-- Where it depends on `a`, it is listed as preserved and not reused. -/
theorem dependent_unit_is_listed_as_preserved : ∃ result, revisionOfA ["s"] = .ok result ∧
      validatedChild id digestText (twoUnits ["s"]) = .ok (acceptedUnits ["s"]) ∧
      (acceptedUnits ["s"]).isExecutable = true ∧ "b" ∈ result.preservedUnitIds ∧ "b" ∉
        result.planDiff.reusedUnitIds := by
  have made : (revisionOfA ["s"]).map (fun result => (result.preservedUnitIds, result.planDiff.reusedUnitIds)) =
      .ok (["b"], []) := by
    simp only [revisionOfA, compileRevisionPlan, compileAffectedSubgraph, diffDocumentPlans, Comparison.planDiff,
      Comparison.reasonCodes, Comparison.reusedUnitIds, Comparison.affectedUnitIds, Comparison.affectedTaskIds,
      saturate_eq_sweeps, PlanDiff.normalizeDiff, uniqueIds, sortedSet, List.mergeSort_eq_insertionSort]
    decide +kernel
  obtain ⟨result, done, lists⟩ := exists_of_map_eq_ok made
  obtain ⟨preserved, reused⟩ := Prod.mk.inj lists
  refine ⟨result, done, rfl, by decide +kernel, ?_, ?_⟩
  · rw [preserved]
    exact List.mem_cons_self
  · rw [reused]
    exact List.not_mem_nil

end HardwareDatabase.Replanning
