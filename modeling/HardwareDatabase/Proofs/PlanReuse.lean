/-
Module: HardwareDatabase.Proofs.PlanReuse
Purpose: When it is sound to reuse the units that the diff of two plans lists as reused.
Trusted boundary: none
-/
import HardwareDatabase.Proofs.PlanComparison

namespace HardwareDatabase.Replanning

open Python Value
open Relational (exists_of_bind_eq_ok exists_of_map_eq_ok mem_saturate_iff Joined)

/-! ### Detected changes -/

/-- The task of a unit has other dependencies than in the parent. -/
def DependenciesChanged (parent child : DocumentPlan) (unitId : String) : Prop :=
  ∃ old ∈ parent.unitTasks, ∃ new ∈ child.unitTasks,
    old.taskId = new.taskId ∧ new.unitId = unitId ∧ ¬ old.dependencies.Perm new.dependencies

/-- Only one of the plans declares an edge to the task of a unit. -/
def EdgesChanged (parent child : DocumentPlan) (unitId : String) : Prop :=
  ∃ upstream, ∃ task ∈ child.unitTasks, task.unitId = unitId ∧
    ¬ ((upstream, task.taskId) ∈ child.declaredEdges ↔ (upstream, task.taskId) ∈ parent.declaredEdges)

/-- The diff sees a change of the unit itself. -/
def Detected (parent child : DocumentPlan) (unitId : String) : Prop :=
  UnitChanged parent child unitId ∨ CoverageChanged parent child unitId ∨
    DependenciesChanged parent child unitId ∨ EdgesChanged parent child unitId ∨ unitId ∉ parent.unitIds ∨
    ¬ SameSetting parent child

/-- A detected change reaches the unit along the dependencies of the child. -/
inductive Reached (parent child : DocumentPlan) : String → Prop
  | detected {unitId : String} (there : unitId ∈ child.unitIds) (changed : Detected parent child unitId) :
      Reached parent child unitId
  | downstream {upstream task : UnitTaskSpec} (upstreamThere : upstream ∈ child.unitTasks)
      (there : task ∈ child.unitTasks) (edge : (upstream.taskId, task.taskId) ∈ child.childEdges)
      (reached : Reached parent child upstream.unitId) : Reached parent child task.unitId

/-! ### Tasks and units -/

variable {taskId unitId : String} {task left right : UnitTaskSpec}

section Tasks

variable {plan : DocumentPlan} (formed : plan.WellFormed)

include formed

theorem DocumentPlan.WellFormed.get?_unitOfTask : plan.unitOfTask.get? taskId = some unitId ↔
      ∃ task ∈ plan.unitTasks, task.taskId = taskId ∧ task.unitId = unitId := by
  have distinct : ((plan.unitTasks.map fun task => (task.taskId, task.unitId)).map Prod.fst).Nodup := by
    rw [List.map_map]
    exact formed.tasks
  rw [DocumentPlan.unitOfTask, OrderedDict.get?_ofEntries_iff distinct, List.mem_map]
  simp only [Prod.mk.injEq]

theorem DocumentPlan.WellFormed.get?_taskByUnit : plan.taskByUnit.get? unitId = some taskId ↔
      ∃ task ∈ plan.unitTasks, task.unitId = unitId ∧ task.taskId = taskId := by
  have distinct : ((plan.unitTasks.map fun task => (task.unitId, task.taskId)).map Prod.fst).Nodup := by
    rw [List.map_map]
    exact formed.taskUnits
  rw [DocumentPlan.taskByUnit, OrderedDict.get?_ofEntries_iff distinct, List.mem_map]
  simp only [Prod.mk.injEq]

theorem DocumentPlan.WellFormed.get?_sortedDependencies (there : task ∈ plan.unitTasks) :
    plan.sortedDependencies.get? task.taskId =
      some (task.dependencies.mergeSort fun left right => decide (left ≤ right)) := by
  have distinct : ((plan.unitTasks.map fun task => (task.taskId,
      task.dependencies.mergeSort fun left right => decide (left ≤ right))).map Prod.fst).Nodup := by
    rw [List.map_map]
    exact formed.tasks
  rw [DocumentPlan.sortedDependencies, OrderedDict.get?_ofEntries_iff distinct]
  exact List.mem_map.mpr ⟨task, there, rfl⟩

theorem DocumentPlan.WellFormed.eq_of_taskId (leftThere : left ∈ plan.unitTasks)
    (rightThere : right ∈ plan.unitTasks) (same : left.taskId = right.taskId) : left = right :=
  List.inj_on_of_nodup_map formed.tasks leftThere rightThere same

theorem DocumentPlan.WellFormed.eq_of_taskUnit (leftThere : left ∈ plan.unitTasks)
    (rightThere : right ∈ plan.unitTasks) (same : left.unitId = right.unitId) : left = right :=
  List.inj_on_of_nodup_map formed.taskUnits leftThere rightThere same

theorem DocumentPlan.WellFormed.eq_of_unitId {left right : SemanticUnitPlan} (leftThere : left ∈ plan.semanticUnits)
    (rightThere : right ∈ plan.semanticUnits) (same : left.unitId = right.unitId) : left = right :=
  List.inj_on_of_nodup_map formed.units leftThere rightThere same

theorem DocumentPlan.WellFormed.exists_task (there : unitId ∈ plan.unitIds) :
    ∃ task ∈ plan.unitTasks, task.unitId = unitId :=
  List.mem_map.mp (formed.served unitId there)

theorem DocumentPlan.WellFormed.exists_of_edge {upstream : String} (edge : (upstream, taskId) ∈ plan.childEdges) :
    (∃ task ∈ plan.unitTasks, task.taskId = upstream) ∧ ∃ task ∈ plan.unitTasks, task.taskId = taskId := by
  rcases List.mem_append.mp edge with declared | depends
  · obtain ⟨edge, member, same⟩ := List.mem_map.mp declared
    obtain ⟨upstreamKnown, downstreamKnown⟩ := formed.edges edge member
    cases same
    exact ⟨List.mem_map.mp upstreamKnown, List.mem_map.mp downstreamKnown⟩
  · obtain ⟨task, member, listed⟩ := List.mem_flatMap.mp depends
    obtain ⟨dependency, needed, same⟩ := List.mem_map.mp listed
    cases same
    exact ⟨List.mem_map.mp (formed.dependencies task member upstream needed), task, member, rfl⟩

end Tasks

variable {comparison : Comparison}

section Detecting

variable {parent child : DocumentPlan} (parentFormed : parent.WellFormed) (childFormed : child.WellFormed)

include parentFormed childFormed

theorem mem_dependencyChanged_iff :
    unitId ∈ dependencyChanged parent child ↔ DependenciesChanged parent child unitId := by
  have keyed {taskId unitId : String} : (taskId, unitId) ∈ child.unitOfTask.entries ↔
      ∃ task ∈ child.unitTasks, task.taskId = taskId ∧ task.unitId = unitId := by
    rw [OrderedDict.mem_entries_iff, childFormed.get?_unitOfTask]
  rw [dependencyChanged, List.mem_map]
  constructor
  · rintro ⟨⟨taskId, unit⟩, member, rfl⟩
    obtain ⟨entry, changed⟩ := List.mem_filter.mp member
    obtain ⟨new, newThere, rfl, rfl⟩ := keyed.mp entry
    rw [Bool.and_eq_true, OrderedDict.contains_iff, decide_eq_true_iff] at changed
    obtain ⟨⟨oldUnit, known⟩, apart⟩ := changed
    obtain ⟨old, oldThere, same, -⟩ := parentFormed.get?_unitOfTask.mp known
    rw [← same, parentFormed.get?_sortedDependencies oldThere, same,
      childFormed.get?_sortedDependencies newThere, Option.getD_some, Option.getD_some, Ne, mergeSort_eq_iff] at apart
    exact ⟨old, oldThere, new, newThere, same, rfl, apart⟩
  · rintro ⟨old, oldThere, new, newThere, same, rfl, apart⟩
    refine ⟨(new.taskId, new.unitId), List.mem_filter.mpr ⟨keyed.mpr ⟨new, newThere, rfl, rfl⟩, ?_⟩, rfl⟩
    rw [Bool.and_eq_true, OrderedDict.contains_iff, decide_eq_true_iff]
    refine ⟨⟨old.unitId, parentFormed.get?_unitOfTask.mpr ⟨old, oldThere, same, rfl⟩⟩, ?_⟩
    rw [← same, parentFormed.get?_sortedDependencies oldThere, same,
      childFormed.get?_sortedDependencies newThere, Option.getD_some, Option.getD_some, Ne, mergeSort_eq_iff]
    exact apart

omit parentFormed in
theorem mem_edgeChanged_iff : unitId ∈ edgeChanged parent child ↔ EdgesChanged parent child unitId := by
  rw [edgeChanged, List.mem_filterMap]
  simp only [childFormed.get?_unitOfTask, List.mem_append, List.mem_filter, decide_eq_true_iff]
  constructor
  · rintro ⟨⟨upstream, taskId⟩, only, task, there, rfl, rfl⟩
    refine ⟨upstream, task, there, rfl, ?_⟩
    rcases only with ⟨inChild, notParent⟩ | ⟨inParent, notChild⟩
    · exact fun same => notParent (same.mp inChild)
    · exact fun same => notChild (same.mpr inParent)
  · rintro ⟨upstream, task, there, rfl, apart⟩
    refine ⟨(upstream, task.taskId), ?_, task, there, rfl, rfl⟩
    by_cases inChild : (upstream, task.taskId) ∈ child.declaredEdges
    · refine Or.inl ⟨inChild, fun inParent => apart ⟨fun _ => inParent, fun _ => inChild⟩⟩
    · refine Or.inr ⟨?_, inChild⟩
      by_contra notParent
      exact apart ⟨fun there => absurd there inChild, fun there => absurd there notParent⟩

section

variable (detects : Detects comparison parent child)
include detects

theorem mem_directlyAffected_iff (there : unitId ∈ child.unitIds) :
    unitId ∈ comparison.directlyAffected parent child ↔ Detected parent child unitId := by
  have planwide : (unitId ∈ if comparison.planwide then child.unitIds else []) ↔ ¬ SameSetting parent child := by
    rw [← detects.setting]
    split
    · rename_i affected
      simp [there, affected]
    · rename_i spared
      simp [spared]
  simp only [Comparison.directlyAffected, Comparison.allChangedUnits, dependencyChangedUnits, addedUnits,
    List.mem_append, mem_sortedSet, List.mem_filter, decide_eq_true_iff, detects.units, detects.coverage,
    mem_dependencyChanged_iff parentFormed childFormed, mem_edgeChanged_iff childFormed, planwide, there,
    true_and, Detected]
  tauto

theorem exists_source_iff : taskId ∈ (comparison.directlyAffected parent child).filterMap child.taskByUnit.get? ↔
      ∃ task ∈ child.unitTasks, task.taskId = taskId ∧ Detected parent child task.unitId := by
  rw [List.mem_filterMap]
  simp only [childFormed.get?_taskByUnit]
  constructor
  · rintro ⟨unitId, affected, task, there, rfl, rfl⟩
    have known := childFormed.known _ (List.mem_map.mpr ⟨task, there, rfl⟩)
    exact ⟨task, there, rfl, (mem_directlyAffected_iff parentFormed childFormed detects known).mp affected⟩
  · rintro ⟨task, there, rfl, changed⟩
    have known := childFormed.known _ (List.mem_map.mpr ⟨task, there, rfl⟩)
    exact ⟨task.unitId, (mem_directlyAffected_iff parentFormed childFormed detects known).mpr changed, task, there,
      rfl, rfl⟩

theorem mem_affectedTaskIds_iff (there : task ∈ child.unitTasks) :
    task.taskId ∈ comparison.affectedTaskIds parent child ↔ Reached parent child task.unitId := by
  rw [Comparison.affectedTaskIds, mem_saturate_iff]
  constructor
  · rintro ⟨source, start, path⟩
    have along : ∀ node, Relation.ReflTransGen (Joined child.childEdges) source node →
        ∀ task ∈ child.unitTasks, task.taskId = node → Reached parent child task.unitId := by
      intro node path
      induction path with
      | refl =>
        intro task there same
        obtain ⟨first, firstThere, firstId, changed⟩ :=
          (exists_source_iff parentFormed childFormed detects).mp start
        obtain rfl := childFormed.eq_of_taskId there firstThere (same.trans firstId.symm)
        exact .detected (childFormed.known _ (List.mem_map.mpr ⟨task, there, rfl⟩)) changed
      | tail _ edge ih =>
        rintro task there rfl
        obtain ⟨⟨upstream, upstreamThere, rfl⟩, -⟩ := childFormed.exists_of_edge edge
        exact .downstream upstreamThere there edge (ih upstream upstreamThere rfl)
    exact along _ path task there rfl
  · have along : ∀ unitId, Reached parent child unitId → ∀ task ∈ child.unitTasks, task.unitId = unitId →
        ∃ source ∈ (comparison.directlyAffected parent child).filterMap child.taskByUnit.get?,
          Relation.ReflTransGen (Joined child.childEdges) source task.taskId := by
      intro unitId reached
      induction reached with
      | detected _ changed =>
        rintro task there rfl
        exact ⟨task.taskId, (exists_source_iff parentFormed childFormed detects).mpr
          ⟨task, there, rfl, changed⟩, .refl⟩
      | downstream upstreamThere downstreamThere edge _ ih =>
        intro task there same
        obtain rfl := childFormed.eq_of_taskUnit there downstreamThere same
        obtain ⟨source, start, path⟩ := ih _ upstreamThere rfl
        exact ⟨source, start, path.tail edge⟩
    intro reached
    exact along _ reached task there rfl

theorem mem_affectedUnitIds_iff (there : unitId ∈ child.unitIds) :
    unitId ∈ comparison.affectedUnitIds parent child ↔ Reached parent child unitId := by
  obtain ⟨task, taskThere, rfl⟩ := childFormed.exists_task there
  rw [Comparison.affectedUnitIds, List.mem_append, List.mem_filterMap, List.mem_filter]
  constructor
  · rintro (⟨taskId, affected, owner⟩ | ⟨affected, -⟩)
    · obtain ⟨other, otherThere, rfl, sameUnit⟩ := childFormed.get?_unitOfTask.mp owner
      obtain rfl := childFormed.eq_of_taskUnit otherThere taskThere sameUnit
      exact (mem_affectedTaskIds_iff parentFormed childFormed detects otherThere).mp affected
    · exact .detected there ((mem_directlyAffected_iff parentFormed childFormed detects there).mp affected)
  · intro reached
    exact Or.inl ⟨task.taskId, (mem_affectedTaskIds_iff parentFormed childFormed detects taskThere).mpr reached,
      childFormed.get?_unitOfTask.mpr ⟨task, taskThere, rfl, rfl⟩⟩

end

end Detecting

theorem mem_of_uniqueIds {label : String} {limit : Nat} {values ids : List String}
    (done : uniqueIds label limit values = .ok ids) (named : ∀ value ∈ values, strip value = value)
    {value : String} : value ∈ ids ↔ value ∈ values := by
  simp only [uniqueIds] at done
  split at done
  · cases done
    have same : values.map strip = values := by
      conv_rhs => rw [← List.map_id values]
      exact List.map_congr_left named
    rw [List.mem_mergeSort, same]
  · cases done

/-- What the validators of a diff make of its sets. -/
structure PlanDiff.Normalizes (given result : PlanDiff) : Prop where
  changedSpecFields :
    uniqueIds "changed_spec_fields" 10000 given.changedSpecFields = .ok result.changedSpecFields
  addedUnitIds : uniqueIds "added_unit_ids" 100000 given.addedUnitIds = .ok result.addedUnitIds
  removedUnitIds : uniqueIds "removed_unit_ids" 100000 given.removedUnitIds = .ok result.removedUnitIds
  changedUnitIds : uniqueIds "changed_unit_ids" 100000 given.changedUnitIds = .ok result.changedUnitIds
  changedCoverage : uniqueIds "changed_coverage" 100000 given.changedCoverage = .ok result.changedCoverage
  changedLayout : uniqueIds "changed_layout" 1000 given.changedLayout = .ok result.changedLayout
  changedSourceVersions :
    uniqueIds "changed_source_versions" 1000 given.changedSourceVersions = .ok result.changedSourceVersions
  changedPolicyVersions :
    uniqueIds "changed_policy_versions" 1000 given.changedPolicyVersions = .ok result.changedPolicyVersions
  directlyAffectedUnitIds :
    uniqueIds "directly_affected_unit_ids" 100000 given.directlyAffectedUnitIds = .ok result.directlyAffectedUnitIds
  affectedUnitIds : uniqueIds "affected_unit_ids" 100000 given.affectedUnitIds = .ok result.affectedUnitIds
  affectedTaskIds : uniqueIds "affected_task_ids" 100000 given.affectedTaskIds = .ok result.affectedTaskIds
  dependencyClosure : uniqueIds "dependency_closure" 100000 given.dependencyClosure = .ok result.dependencyClosure
  reusedUnitIds : uniqueIds "reused_unit_ids" 100000 given.reusedUnitIds = .ok result.reusedUnitIds
  scopeReasonCodes : uniqueIds "scope_reason_codes" 64 given.scopeReasonCodes = .ok result.scopeReasonCodes

theorem PlanDiff.normalizes_of_normalizeDiff {given result : PlanDiff} (done : given.normalizeDiff = .ok result) :
    given.Normalizes result := by
  obtain ⟨_, changedSpecFields, done⟩ := exists_of_bind_eq_ok done
  obtain ⟨_, addedUnitIds, done⟩ := exists_of_bind_eq_ok done
  obtain ⟨_, removedUnitIds, done⟩ := exists_of_bind_eq_ok done
  obtain ⟨_, changedUnitIds, done⟩ := exists_of_bind_eq_ok done
  obtain ⟨_, changedCoverage, done⟩ := exists_of_bind_eq_ok done
  obtain ⟨_, changedLayout, done⟩ := exists_of_bind_eq_ok done
  obtain ⟨_, changedSourceVersions, done⟩ := exists_of_bind_eq_ok done
  obtain ⟨_, changedPolicyVersions, done⟩ := exists_of_bind_eq_ok done
  obtain ⟨_, directlyAffectedUnitIds, done⟩ := exists_of_bind_eq_ok done
  obtain ⟨_, affectedUnitIds, done⟩ := exists_of_bind_eq_ok done
  obtain ⟨_, affectedTaskIds, done⟩ := exists_of_bind_eq_ok done
  obtain ⟨_, dependencyClosure, done⟩ := exists_of_bind_eq_ok done
  obtain ⟨_, reusedUnitIds, done⟩ := exists_of_bind_eq_ok done
  obtain ⟨_, scopeReasonCodes, done⟩ := exists_of_bind_eq_ok done
  cases done
  exact
    { changedSpecFields, addedUnitIds, removedUnitIds, changedUnitIds, changedCoverage, changedLayout,
      changedSourceVersions, changedPolicyVersions, directlyAffectedUnitIds, affectedUnitIds, affectedTaskIds,
      dependencyClosure, reusedUnitIds, scopeReasonCodes }

variable {parent child : DocumentPlan}

theorem normalizes_of_diff {Digest : Type} [DecidableEq Digest] {sha256 : Value → Digest}
    {diff : PlanDiff} (done : diffDocumentPlans sha256 parent child = .ok diff) :
    ∃ comparison, compare sha256 parent child = .ok comparison ∧
      (comparison.planDiff parent child).Normalizes diff := by
  obtain ⟨comparison, compared, done⟩ := exists_of_bind_eq_ok done
  exact ⟨comparison, compared, PlanDiff.normalizes_of_normalizeDiff done⟩

theorem mem_reusedUnitIds_of_normalizes {parent child : DocumentPlan} (formed : parent.WellFormed)
    {comparison : Comparison} {diff : PlanDiff} (normal : (comparison.planDiff parent child).Normalizes diff)
    {unitId : String} : unitId ∈ diff.reusedUnitIds ↔ unitId ∈ comparison.reusedUnitIds parent child := by
  refine (mem_of_uniqueIds normal.reusedUnitIds ?_).trans mem_sortedSet
  intro value member
  have listed := List.mem_of_mem_filter (mem_sortedSet.mp member)
  exact (formed.unitNames value listed).1

theorem mem_reusedUnitIds_iff {Digest : Type} [DecidableEq Digest] {sha256 : Value → Digest}
    (collisionFree : CollisionFree sha256) (parentFormed : parent.WellFormed)
    (childFormed : child.WellFormed) {diff : PlanDiff} (done : diffDocumentPlans sha256 parent child = .ok diff) :
    unitId ∈ diff.reusedUnitIds ↔ unitId ∈ parent.unitIds ∧ unitId ∈ child.unitIds ∧ ¬ Reached parent child unitId := by
  obtain ⟨comparison, compared, normal⟩ := normalizes_of_diff done
  have detects := detects_of_compare collisionFree parentFormed.units childFormed.units compared
  rw [mem_reusedUnitIds_of_normalizes parentFormed normal, Comparison.reusedUnitIds,
    List.mem_filter, Bool.and_eq_true, decide_eq_true_iff, decide_eq_true_iff]
  refine and_congr_right fun _ => and_congr_right fun there => not_congr ?_
  exact mem_affectedUnitIds_iff parentFormed childFormed detects there

/-! ### Sound reuse -/

/-- A task without the version and the key that each plan gives it. -/
def UnitTaskSpec.unversioned (task : UnitTaskSpec) : UnitTaskSpec :=
  { task with planVersion := 0, actionKey := "" }

/-- A task without the dependencies either. -/
def UnitTaskSpec.undeclared (task : UnitTaskSpec) : UnitTaskSpec :=
  { task.unversioned with dependencies := [] }

/-- The output of a unit may be reused: unit, requirements and task are the same in both plans, and the tasks that
it depends on, directly or not, are tasks of reused units. -/
structure Reusable (parent child : DocumentPlan) (reused : List String) (unitId : String) : Prop where
  sameUnit : ∃ unit, unit.unitId = unitId ∧ unit ∈ parent.semanticUnits ∧ unit ∈ child.semanticUnits
  sameCoverage : ∀ item : CoverageRequirement, item.unitId = unitId →
    (item ∈ parent.coverageContract ↔ item ∈ child.coverageContract)
  sameTask : ∃ old ∈ parent.unitTasks, ∃ new ∈ child.unitTasks,
    old.unitId = unitId ∧ new.unitId = unitId ∧ old.unversioned = new.unversioned
  upstream : ∀ plan ∈ [parent, child], ∀ task ∈ plan.unitTasks, task.unitId = unitId →
    ∀ source, Relation.TransGen (Joined plan.childEdges) source task.taskId →
      ∃ needed ∈ plan.unitTasks, needed.taskId = source ∧ needed.unitId ∈ reused

/-- The requirements of a unit, in the order of the contract. -/
def DocumentPlan.requirementsOf (plan : DocumentPlan) (unitId : String) : List CoverageRequirement :=
  plan.coverageContract.filter fun item => decide (item.unitId = unitId)

/-- What the comparison leaves out of a unit is the same in both plans. -/
structure LeftOutSame (parent child : DocumentPlan) (unitId : String) : Prop where
  /-- the output schema, under the names of lifecycle fields too -/
  schema : ∀ old ∈ parent.semanticUnits, ∀ new ∈ child.semanticUnits, old.unitId = unitId → new.unitId = unitId →
    old.outputSchema = new.outputSchema
  /-- requirements in both plans or in none -/
  covered : parent.requirementsOf unitId = [] ↔ child.requirementsOf unitId = []
  /-- the requirements before the last one, in any order -/
  earlier : ∀ item, item ∈ (parent.requirementsOf unitId).dropLast ↔ item ∈ (child.requirementsOf unitId).dropLast
  /-- the key schema of the last requirement, under the names of lifecycle fields too -/
  lastKeys : ∀ old ∈ parent.lastRequirement unitId, ∀ new ∈ child.lastRequirement unitId,
    old.rowKeySchema = new.rowKeySchema
  /-- everything of the task but its dependencies, and the order in which these are listed -/
  task : ∀ old ∈ parent.unitTasks, ∀ new ∈ child.unitTasks, old.unitId = unitId → new.unitId = unitId →
    old.undeclared = new.undeclared ∧
      (old.dependencies.Perm new.dependencies → old.dependencies = new.dependencies)

/-! ### Requirements -/

variable {plan : DocumentPlan}

theorem mem_requirementsOf {item : CoverageRequirement} :
    item ∈ plan.requirementsOf unitId ↔ item ∈ plan.coverageContract ∧ item.unitId = unitId := by
  rw [DocumentPlan.requirementsOf, List.mem_filter, decide_eq_true_iff]

theorem getLast?_requirementsOf (plan : DocumentPlan) (unitId : String) :
    (plan.requirementsOf unitId).getLast? = plan.lastRequirement unitId := by
  rw [DocumentPlan.requirementsOf, DocumentPlan.lastRequirement, List.getLast?_filter]

theorem DocumentPlan.WellFormed.eq_of_kind {plan : DocumentPlan} (formed : plan.WellFormed) {unitId : String}
    {left right : CoverageRequirement} (leftThere : left ∈ plan.requirementsOf unitId)
    (rightThere : right ∈ plan.requirementsOf unitId) (same : left.kind = right.kind) : left = right := by
  obtain ⟨leftListed, leftUnit⟩ := mem_requirementsOf.mp leftThere
  obtain ⟨rightListed, rightUnit⟩ := mem_requirementsOf.mp rightThere
  exact List.inj_on_of_nodup_map formed.coverage leftListed rightListed
    (Prod.ext (leftUnit.trans rightUnit.symm) same)

theorem DocumentPlan.WellFormed.nodup_requirementsOf (formed : plan.WellFormed)
    (unitId : String) : (plan.requirementsOf unitId).Nodup :=
  (List.Nodup.of_map _ formed.coverage).filter _

theorem CoverageRequirement.eq_iff_of_sameContent {left right : CoverageRequirement}
    (same : left.SameContent right) : left = right ↔ left.rowKeySchema = right.rowKeySchema := by
  constructor
  · rintro rfl
    rfl
  · intro keys
    obtain ⟨requirementId, unitId, kind, required, rowKeys, requiredColumns, rowIdentityFields, -, rowOrder,
      duplicatePolicy, minEvidenceItems⟩ := same
    cases left
    cases right
    simp_all

/-- Lists that end in items of one kind have the same items exactly if their ends are the same, and what is
before them. -/
theorem same_items_iff {before after : List CoverageRequirement} {last newest : CoverageRequirement}
    (nodup : (before ++ [last]).Nodup) (otherNodup : (after ++ [newest]).Nodup)
    (kinds : ∀ item ∈ after ++ [newest], item.kind = newest.kind → item = newest) (sameKind : last.kind = newest.kind) :
    (∀ item, item ∈ before ++ [last] ↔ item ∈ after ++ [newest]) ↔
      last = newest ∧ ∀ item, item ∈ before ↔ item ∈ after := by
  constructor
  · intro same
    have sameLast : last = newest := kinds last ((same last).mp (by simp)) sameKind
    subst sameLast
    refine ⟨rfl, ?_⟩
    intro item
    have apart : ∀ items : List CoverageRequirement, (items ++ [last]).Nodup → item ∈ items → item ≠ last := by
      rintro items distinct member rfl
      exact (List.disjoint_of_nodup_append distinct) member List.mem_cons_self
    have whole := same item
    simp only [List.mem_append, List.mem_singleton] at whole
    constructor
    · intro member
      exact (whole.mp (Or.inl member)).resolve_right (apart before nodup member)
    · intro member
      exact (whole.mpr (Or.inl member)).resolve_right (apart after otherNodup member)
  · rintro ⟨rfl, same⟩ item
    simp only [List.mem_append, same]

theorem sameCoverage_iff (parentFormed : parent.WellFormed)
    (childFormed : child.WellFormed) (unchanged : ¬ CoverageChanged parent child unitId) :
    (∀ item : CoverageRequirement, item.unitId = unitId →
        (item ∈ parent.coverageContract ↔ item ∈ child.coverageContract)) ↔
      (parent.requirementsOf unitId = [] ↔ child.requirementsOf unitId = []) ∧
        (∀ item, item ∈ (parent.requirementsOf unitId).dropLast ↔ item ∈ (child.requirementsOf unitId).dropLast) ∧
        ∀ old ∈ parent.lastRequirement unitId, ∀ new ∈ child.lastRequirement unitId,
          old.rowKeySchema = new.rowKeySchema := by
  have listed : (∀ item : CoverageRequirement, item.unitId = unitId →
      (item ∈ parent.coverageContract ↔ item ∈ child.coverageContract)) ↔
      ∀ item, item ∈ parent.requirementsOf unitId ↔ item ∈ child.requirementsOf unitId := by
    refine forall_congr' fun item => ?_
    rw [mem_requirementsOf, mem_requirementsOf]
    tauto
  rw [listed]
  have childKinds := fun left (there : left ∈ child.requirementsOf unitId) right rightThere =>
    @DocumentPlan.WellFormed.eq_of_kind _ childFormed _ left right there rightThere
  have parentNodup := parentFormed.nodup_requirementsOf unitId
  have childNodup := childFormed.nodup_requirementsOf unitId
  have parentLast := getLast?_requirementsOf parent unitId
  have childLast := getLast?_requirementsOf child unitId
  generalize parent.requirementsOf unitId = olds at *
  generalize child.requirementsOf unitId = news at *
  rcases List.eq_nil_or_concat' olds with rfl | ⟨before, last, rfl⟩
  · rcases List.eq_nil_or_concat' news with rfl | ⟨after, newest, rfl⟩
    · simp [← parentLast]
    · refine iff_of_false ?_ ?_
      · intro same
        simpa using (same newest).mpr (by simp)
      · rintro ⟨covered, -⟩
        simp at covered
  · rcases List.eq_nil_or_concat' news with rfl | ⟨after, newest, rfl⟩
    · refine iff_of_false ?_ ?_
      · intro same
        simpa using (same last).mp (by simp)
      · rintro ⟨covered, -⟩
        simp at covered
    · have sameContent : last.SameContent newest := by
        by_contra apart
        exact unchanged ⟨last, by simp [← parentLast], newest, by simp [← childLast], apart⟩
      rw [same_items_iff parentNodup childNodup
        (fun item there => childKinds item there newest (by simp)) sameContent.kind,
        CoverageRequirement.eq_iff_of_sameContent sameContent]
      simp [← parentLast, ← childLast, and_comm]

/-! ### The reused units -/

theorem SemanticUnitPlan.eq_of_sameContent {left right : SemanticUnitPlan} (same : left.SameContent right)
    (schema : left.outputSchema = right.outputSchema) : left = right := by
  obtain ⟨unitId, kind, required, -, sourceCapabilities, reviewerId, reviewerPolicyId⟩ := same
  cases left
  cases right
  simp_all

theorem UnitTaskSpec.unversioned_eq
    (rest : left.undeclared = right.undeclared) (dependencies : left.dependencies = right.dependencies) :
    left.unversioned = right.unversioned := by
  cases left
  cases right
  simp_all [UnitTaskSpec.unversioned, UnitTaskSpec.undeclared]

theorem UnitTaskSpec.taskId_eq (same : left.undeclared = right.undeclared) : left.taskId = right.taskId := by
  have ids := congrArg UnitTaskSpec.taskId same
  exact ids

theorem UnitTaskSpec.undeclared_eq (same : left.unversioned = right.unversioned) :
    left.undeclared = right.undeclared ∧ left.dependencies = right.dependencies := by
  have dependencies := congrArg UnitTaskSpec.dependencies same
  exact ⟨by rw [UnitTaskSpec.undeclared, same, UnitTaskSpec.undeclared], dependencies⟩

/-- Every edge to the task of a reused unit comes from the task of a reused unit. -/
def Supplied (plan : DocumentPlan) (reused : List String) : Prop :=
  ∀ task ∈ plan.unitTasks, task.unitId ∈ reused → ∀ source, (source, task.taskId) ∈ plan.childEdges →
    ∃ needed ∈ plan.unitTasks, needed.taskId = source ∧ needed.unitId ∈ reused

/-- What the task of a reused unit depends on, directly or not, are tasks of reused units. -/
theorem Supplied.transitively {reused : List String} (supplied : Supplied plan reused)
    (there : task ∈ plan.unitTasks) (listed : task.unitId ∈ reused) {source : String}
    (path : Relation.TransGen (Joined plan.childEdges) source task.taskId) :
    ∃ needed ∈ plan.unitTasks, needed.taskId = source ∧ needed.unitId ∈ reused := by
  induction path using Relation.TransGen.head_induction_on with
  | single edge => exact supplied task there listed _ edge
  | head edge _ ih =>
    obtain ⟨needed, neededThere, rfl, neededListed⟩ := ih
    exact supplied needed neededThere neededListed _ edge

section Reuse

variable {parent child : DocumentPlan} (parentFormed : parent.WellFormed) (childFormed : child.WellFormed)
  {reused : List String}
  (listed : ∀ unitId, unitId ∈ reused ↔
    unitId ∈ parent.unitIds ∧ unitId ∈ child.unitIds ∧ ¬ Reached parent child unitId)

include parentFormed childFormed listed

omit parentFormed in
theorem supplied_child : Supplied child reused := by
  intro task there reusedUnit source edge
  obtain ⟨-, -, spared⟩ := (listed _).mp reusedUnit
  obtain ⟨⟨needed, neededThere, rfl⟩, -⟩ := childFormed.exists_of_edge edge
  have neededSpared : ¬ Reached parent child needed.unitId :=
    fun reached => spared (.downstream neededThere there edge reached)
  have inChild := childFormed.known _ (List.mem_map.mpr ⟨needed, neededThere, rfl⟩)
  have inParent : needed.unitId ∈ parent.unitIds := by
    by_contra added
    exact neededSpared (.detected inChild (Or.inr (Or.inr (Or.inr (Or.inr (Or.inl added))))))
  exact ⟨needed, neededThere, rfl, (listed _).mpr ⟨inParent, inChild, neededSpared⟩⟩

omit parentFormed childFormed in
theorem sameTask_of_leftOut (reusedUnit : unitId ∈ reused)
    (same : LeftOutSame parent child unitId) {old new : UnitTaskSpec} (oldThere : old ∈ parent.unitTasks)
    (newThere : new ∈ child.unitTasks) (oldUnit : old.unitId = unitId) (newUnit : new.unitId = unitId) :
    old.unversioned = new.unversioned := by
  obtain ⟨-, inChild, spared⟩ := (listed _).mp reusedUnit
  obtain ⟨rest, order⟩ := same.task old oldThere new newThere oldUnit newUnit
  have sameId := UnitTaskSpec.taskId_eq rest
  have permuted : old.dependencies.Perm new.dependencies := by
    by_contra apart
    exact spared (.detected inChild
      (Or.inr (Or.inr (Or.inl ⟨old, oldThere, new, newThere, sameId, newUnit, apart⟩))))
  exact UnitTaskSpec.unversioned_eq rest (order permuted)

theorem supplied_parent (same : ∀ unitId ∈ reused, LeftOutSame parent child unitId) : Supplied parent reused := by
  intro old there reusedUnit source edge
  obtain ⟨-, inChild, spared⟩ := (listed _).mp reusedUnit
  obtain ⟨new, newThere, sameUnit⟩ := childFormed.exists_task inChild
  have sameTask := sameTask_of_leftOut listed reusedUnit (same _ reusedUnit) there newThere
    rfl sameUnit
  obtain ⟨rest, sameDependencies⟩ := UnitTaskSpec.undeclared_eq sameTask
  have sameId := UnitTaskSpec.taskId_eq rest
  have childEdge : (source, new.taskId) ∈ child.childEdges := by
    rcases List.mem_append.mp edge with declared | depends
    · refine List.mem_append_left _ ?_
      by_contra absent
      refine spared (.detected inChild (Or.inr (Or.inr (Or.inr (Or.inl ⟨source, new, newThere, sameUnit, ?_⟩)))))
      intro both
      exact absent (both.mpr (sameId ▸ declared))
    · refine List.mem_append_right _ ?_
      obtain ⟨task, taskThere, needed⟩ := List.mem_flatMap.mp depends
      obtain ⟨dependency, neededThere, pair⟩ := List.mem_map.mp needed
      obtain ⟨rfl, taskId⟩ := Prod.mk.inj pair
      obtain rfl := parentFormed.eq_of_taskId taskThere there taskId
      rw [sameDependencies] at neededThere
      exact List.mem_flatMap.mpr ⟨new, newThere, List.mem_map.mpr ⟨dependency, neededThere, rfl⟩⟩
  obtain ⟨needed, neededThere, rfl, neededListed⟩ :=
    supplied_child childFormed listed new newThere (sameUnit ▸ reusedUnit) source childEdge
  obtain ⟨inParent, -, -⟩ := (listed _).mp neededListed
  obtain ⟨origin, originThere, originUnit⟩ := parentFormed.exists_task inParent
  have sameOrigin := sameTask_of_leftOut listed neededListed (same _ neededListed)
    originThere neededThere originUnit rfl
  exact ⟨origin, originThere, UnitTaskSpec.taskId_eq (UnitTaskSpec.undeclared_eq sameOrigin).1,
    originUnit ▸ neededListed⟩

theorem reusable_of_leftOut (same : ∀ unitId ∈ reused, LeftOutSame parent child unitId)
    (reusedUnit : unitId ∈ reused) : Reusable parent child reused unitId := by
  obtain ⟨inParent, inChild, spared⟩ := (listed _).mp reusedUnit
  obtain ⟨oldUnit, oldUnitThere, oldUnitName⟩ := List.mem_map.mp inParent
  obtain ⟨newUnit, newUnitThere, newUnitName⟩ := List.mem_map.mp inChild
  obtain ⟨oldTask, oldTaskThere, oldTaskUnit⟩ := parentFormed.exists_task inParent
  obtain ⟨newTask, newTaskThere, newTaskUnit⟩ := childFormed.exists_task inChild
  have leftOut := same unitId reusedUnit
  have sameUnit : oldUnit = newUnit := by
    refine SemanticUnitPlan.eq_of_sameContent ?_
      (leftOut.schema oldUnit oldUnitThere newUnit newUnitThere oldUnitName newUnitName)
    by_contra apart
    exact spared (.detected inChild
      (Or.inl ⟨oldUnit, oldUnitThere, newUnit, newUnitThere, oldUnitName, newUnitName, apart⟩))
  have covered : ¬ CoverageChanged parent child unitId :=
    fun changed => spared (.detected inChild (Or.inr (Or.inl changed)))
  refine
    { sameUnit := ⟨oldUnit, oldUnitName, oldUnitThere, sameUnit ▸ newUnitThere⟩
      sameCoverage := (sameCoverage_iff parentFormed childFormed covered).mpr
        ⟨leftOut.covered, leftOut.earlier, leftOut.lastKeys⟩
      sameTask := ⟨oldTask, oldTaskThere, newTask, newTaskThere, oldTaskUnit, newTaskUnit,
        sameTask_of_leftOut listed reusedUnit leftOut oldTaskThere newTaskThere
          oldTaskUnit newTaskUnit⟩
      upstream := ?_ }
  intro plan either task there taskUnit source path
  rcases List.mem_cons.mp either with rfl | either
  · exact (supplied_parent parentFormed childFormed listed same).transitively there (taskUnit ▸ reusedUnit) path
  · obtain rfl := List.mem_singleton.mp either
    exact (supplied_child childFormed listed).transitively there (taskUnit ▸ reusedUnit) path

omit listed in
theorem leftOut_of_reusable (inChild : unitId ∈ child.unitIds)
    (spared : ¬ Reached parent child unitId) (reusable : Reusable parent child reused unitId) :
    LeftOutSame parent child unitId := by
  have uncovered : ¬ CoverageChanged parent child unitId :=
    fun changed => spared (.detected inChild (Or.inr (Or.inl changed)))
  obtain ⟨covered, earlier, lastKeys⟩ :=
    (sameCoverage_iff parentFormed childFormed uncovered).mp reusable.sameCoverage
  refine { schema := ?_, covered, earlier, lastKeys, task := ?_ }
  · intro old oldThere new newThere oldName newName
    obtain ⟨unit, name, inOld, inNew⟩ := reusable.sameUnit
    rw [parentFormed.eq_of_unitId oldThere inOld (oldName.trans name.symm),
      childFormed.eq_of_unitId newThere inNew (newName.trans name.symm)]
  · intro old oldThere new newThere oldUnit newUnit
    obtain ⟨oldTask, oldTaskThere, newTask, newTaskThere, oldTaskUnit, newTaskUnit, same⟩ := reusable.sameTask
    rw [parentFormed.eq_of_taskUnit oldThere oldTaskThere (oldUnit.trans oldTaskUnit.symm),
      childFormed.eq_of_taskUnit newThere newTaskThere (newUnit.trans newTaskUnit.symm)]
    obtain ⟨rest, dependencies⟩ := UnitTaskSpec.undeclared_eq same
    exact ⟨rest, fun _ => dependencies⟩

end Reuse

/-- Whatever a diff lists as reused may be reused exactly if, for each unit of both plans that no detected change
reaches, what the comparison leaves out is the same in both plans. -/
theorem reuse_is_sound_iff {Digest : Type} [DecidableEq Digest] {sha256 : Value → Digest}
    (collisionFree : CollisionFree sha256) (parent child : ValidPlan) {diff : PlanDiff}
    (done : diffDocumentPlans sha256 parent.plan child.plan = .ok diff) :
    (∀ unitId ∈ diff.reusedUnitIds, Reusable parent.plan child.plan diff.reusedUnitIds unitId) ↔
      ∀ unitId ∈ parent.plan.unitIds, unitId ∈ child.plan.unitIds →
        ¬ Reached parent.plan child.plan unitId → LeftOutSame parent.plan child.plan unitId := by
  have parentFormed := parent.wellFormed
  have childFormed := child.wellFormed
  have listed : ∀ unitId, unitId ∈ diff.reusedUnitIds ↔ unitId ∈ parent.plan.unitIds ∧
      unitId ∈ child.plan.unitIds ∧ ¬ Reached parent.plan child.plan unitId :=
    fun _ => mem_reusedUnitIds_iff collisionFree parentFormed childFormed done
  constructor
  · intro sound unitId inParent inChild spared
    exact leftOut_of_reusable parentFormed childFormed inChild spared
      (sound unitId ((listed unitId).mpr ⟨inParent, inChild, spared⟩))
  · intro same unitId reusedUnit
    refine reusable_of_leftOut parentFormed childFormed listed ?_ reusedUnit
    intro unitId reusedUnit
    obtain ⟨inParent, inChild, spared⟩ := (listed unitId).mp reusedUnit
    exact same unitId inParent inChild spared

/-! ### A table of pins -/

/-- A version of a plan with one table, whose rows are required besides the table as a whole. -/
def pinPlan (version : Nat) (rows : List String) : DocumentPlan where
  documentPlanId := "plan"
  version := version
  outputSpecId := "spec"
  outputSpecVersion := 1
  outputSpecHash := "sha256:spec"
  sourceSnapshotId := "snapshot"
  sourceSnapshotHash := "sha256:snapshot"
  domainStrategyId := "general"
  domainStrategyVersion := "1"
  layoutAdapterId := "structure"
  layoutAdapterVersion := "1"
  rendererCapabilityId := "docx"
  rendererCapabilityVersion := "1"
  layoutContract := .structureContract "report" "1" ["pins"]
  semanticUnits := [{ unitId := "pins", kind := .table }]
  coverageContract :=
    [{ requirementId := "rows", unitId := "pins", kind := .table, rowKeys := rows, requiredColumns := ["pin"] },
      { requirementId := "whole", unitId := "pins", kind := .artifact }]
  unitTasks := [{ taskId := "fill", unitId := "pins", planVersion := version, actionKey := toString version }]

/-- The first plan. -/
def firstPlan : ValidPlan where
  plan := pinPlan 1 ["1"]
  valid := by decide +kernel

/-- The plan with another version. -/
def nextPlan : ValidPlan where
  plan := pinPlan 2 ["1"]
  valid := by decide +kernel

/-- The plan with another row. -/
def grownPlan : ValidPlan where
  plan := pinPlan 2 ["1", "2"]
  valid := by decide +kernel

/-- A plan that only has another version reuses the table, and may. -/
theorem next_version_reuses_table :
    ∃ diff, diffDocumentPlans (id : Value → Value) firstPlan.plan nextPlan.plan = .ok diff ∧
      Reusable firstPlan.plan nextPlan.plan diff.reusedUnitIds "pins" := by
  have reused : (diffDocumentPlans (id : Value → Value) firstPlan.plan nextPlan.plan).map (·.reusedUnitIds) =
      .ok ["pins"] := by decide +kernel
  obtain ⟨diff, done, listed⟩ := exists_of_map_eq_ok reused
  refine ⟨diff, done, (reuse_is_sound_iff (fun _ _ _ _ same => same) firstPlan nextPlan done).mpr ?_ "pins" ?_⟩
  · intro unitId inParent _ _
    obtain rfl : unitId = "pins" := List.mem_singleton.mp inParent
    exact
      { schema := by decide +kernel
        covered := by decide +kernel
        earlier := fun _ => Iff.rfl
        lastKeys := by decide +kernel
        task := by decide +kernel }
  · rw [listed]
    exact List.mem_singleton_self _

/-- A plan that requires another row of the table reuses the table too, for the last requirement of the unit is the
same. -/
theorem grown_table_is_reused : firstPlan.plan.isExecutable = true ∧ grownPlan.plan.isExecutable = true ∧
      ∃ diff, diffDocumentPlans (id : Value → Value) firstPlan.plan grownPlan.plan = .ok diff ∧
        "pins" ∈ diff.reusedUnitIds ∧ ¬ Reusable firstPlan.plan grownPlan.plan diff.reusedUnitIds "pins" := by
  have reused : (diffDocumentPlans (id : Value → Value) firstPlan.plan grownPlan.plan).map (·.reusedUnitIds) =
      .ok ["pins"] := by decide +kernel
  obtain ⟨diff, done, listed⟩ := exists_of_map_eq_ok reused
  refine ⟨by decide +kernel, by decide +kernel, diff, done, by rw [listed]; exact List.mem_singleton_self _, ?_⟩
  intro reusable
  have kept := (reusable.sameCoverage
    { requirementId := "rows", unitId := "pins", kind := .table, rowKeys := ["1"], requiredColumns := ["pin"] }
    rfl).mp (by decide +kernel)
  exact absurd kept (by decide +kernel)

end HardwareDatabase.Replanning
