/-
Module: HardwareDatabase.Proofs.AffectedClosure
Purpose: The affected tasks of a diff are those that depend on the task of a changed or added unit; the passes that
  find them end, whatever the order of the edges, and a unit of both plans is either affected or reused.
Trusted boundary: none
-/
import HardwareDatabase.Proofs.PlanReuse
import Mathlib.Data.List.Sort

namespace HardwareDatabase.Replanning

open Python
open Relational (exists_of_bind_eq_ok exists_of_map_eq_ok mem_saturate_iff Joined sweep saturate sweep_saturate
  exists_sweeps saturate_eq_sweeps missing targetsOf)

/-! ### Dependencies -/

/-- A plan whose requirements name their units by ids as well. -/
structure NamedPlan extends ValidPlan where
  named : ∀ item ∈ plan.coverageContract, NonEmptyId item.unitId

/-- A task depends on another: it says so itself, or an edge of the plan does. -/
def DocumentPlan.Feeds (plan : DocumentPlan) (upstream downstream : String) : Prop :=
  (∃ edge ∈ plan.dependencyEdges, edge.upstreamTaskId = upstream ∧ edge.downstreamTaskId = downstream) ∨
    ∃ task ∈ plan.unitTasks, task.taskId = downstream ∧ upstream ∈ task.dependencies

variable {plan : DocumentPlan}

private theorem DocumentPlan.mem_childEdges_iff {upstream downstream : String} :
    (upstream, downstream) ∈ plan.childEdges ↔ plan.Feeds upstream downstream := by
  rw [DocumentPlan.childEdges, List.mem_append]
  refine or_congr ?_ ?_
  · simp [DocumentPlan.declaredEdges, DependencyEdge.pair]
  · simp only [List.mem_flatMap, List.mem_map, Prod.mk.injEq]
    constructor
    · rintro ⟨task, there, dependency, listed, rfl, rfl⟩
      exact ⟨task, there, rfl, listed⟩
    · rintro ⟨task, there, rfl, listed⟩
      exact ⟨task, there, upstream, listed, rfl, rfl⟩

private theorem joined_eq_feeds {edges : List (String × String)}
    (same : ∀ upstream downstream, (upstream, downstream) ∈ edges ↔ plan.Feeds upstream downstream) :
    Joined edges = plan.Feeds := by
  funext upstream downstream
  exact propext (same upstream downstream)

private theorem ValidPlan.taskNames (valid : ValidPlan) : ∀ taskId ∈ valid.plan.taskIds, NonEmptyId taskId := by
  obtain ⟨plan, passed⟩ := valid
  obtain ⟨⟨⟩, -, passed⟩ := exists_of_bind_eq_ok passed
  obtain ⟨⟨⟩, named, -⟩ := exists_of_bind_eq_ok passed
  exact Planning.ensure_eq_ok named

/-! ### What is changed or added -/

/-- The diff has a change that concerns the whole plan. -/
def PlanDiff.Planwide (diff : PlanDiff) : Prop :=
  diff.changedSpecFields ≠ [] ∨ diff.changedLayout ≠ [] ∨ diff.changedSourceVersions ≠ [] ∨
    diff.changedPolicyVersions ≠ []

/-- The diff lists a unit of the child as changed or added, or changes the whole plan. -/
def PlanDiff.ChangedOrAdded (diff : PlanDiff) (unitId : String) : Prop :=
  unitId ∈ diff.changedUnitIds ∨ unitId ∈ diff.changedCoverage ∨ unitId ∈ diff.addedUnitIds ∨ diff.Planwide

private theorem uniqueIds_eq_nil {label : String} {limit : Nat} {values ids : List String}
    (done : uniqueIds label limit values = .ok ids) : ids = [] ↔ values = [] := by
  simp only [uniqueIds] at done
  split at done
  · cases done
    rw [← List.length_eq_zero_iff, List.length_mergeSort, List.length_map, List.length_eq_zero_iff]
  · cases done

variable {unitId : String}

section Listed

variable {Digest : Type} [DecidableEq Digest] {sha256 : Value → Digest} {parent child : NamedPlan}
  {comparison : Comparison} {diff : PlanDiff}

/-- The units that the comparison finds are units of the parent, and so are those whose requirements it finds. -/
theorem named_of_compare (compared : compare sha256 parent.plan child.plan = .ok comparison) :
    (∀ unitId ∈ comparison.changedUnits, NonEmptyId unitId) ∧
      ∀ unitId ∈ comparison.changedCoverage, NonEmptyId unitId := by
  obtain ⟨changedUnits, units, compared⟩ := exists_of_bind_eq_ok compared
  obtain ⟨changedCoverage, coverage, compared⟩ := exists_of_bind_eq_ok compared
  obtain ⟨_, -, compared⟩ := exists_of_bind_eq_ok compared
  obtain ⟨_, -, compared⟩ := exists_of_bind_eq_ok compared
  obtain ⟨_, -, compared⟩ := exists_of_bind_eq_ok compared
  cases compared
  constructor
  · intro unitId member
    have listed := List.mem_of_mem_filter ((mem_of_selectM units).mp member).1
    obtain ⟨dump, found⟩ := OrderedDict.mem_keys_iff.mp listed
    obtain ⟨unit, there, rfl, -⟩ := (get?_unitDumps parent.wellFormed.units).mp found
    exact parent.wellFormed.unitNames _ (List.mem_map.mpr ⟨unit, there, rfl⟩)
  · intro unitId member
    have listed := List.mem_of_mem_filter ((mem_of_selectM coverage).mp member).1
    obtain ⟨dump, found⟩ := OrderedDict.mem_keys_iff.mp listed
    rw [get?_coverageDumps] at found
    obtain ⟨item, last, -⟩ := Option.map_eq_some_iff.mp found
    rw [DocumentPlan.lastRequirement] at last
    have there := List.mem_reverse.mp (List.mem_of_find?_eq_some last)
    have owner : item.unitId = unitId := by simpa using List.find?_some last
    exact owner ▸ parent.named item there

private theorem mem_unitIds_of_dependencyChanged
    (changed : unitId ∈ dependencyChangedUnits parent.plan child.plan) : unitId ∈ child.plan.unitIds := by
  have formed := child.wellFormed
  have owned {taskId : String} (found : child.plan.unitOfTask.get? taskId = some unitId) :
      unitId ∈ child.plan.unitIds := by
    obtain ⟨task, there, -, rfl⟩ := formed.get?_unitOfTask.mp found
    exact formed.known _ (List.mem_map.mpr ⟨task, there, rfl⟩)
  rw [dependencyChangedUnits, mem_sortedSet, List.mem_append] at changed
  rcases changed with ofTask | ofEdge
  · obtain ⟨⟨taskId, owner⟩, entry, rfl⟩ := List.mem_map.mp ofTask
    exact owned (OrderedDict.mem_entries_iff.mp (List.mem_of_mem_filter entry))
  · obtain ⟨pair, -, found⟩ := List.mem_filterMap.mp ofEdge
    exact owned found

variable (compared : compare sha256 parent.plan child.plan = .ok comparison)
  (normal : (comparison.planDiff parent.plan child.plan).Normalizes diff)

include normal in
private theorem mem_addedUnitIds_iff :
    unitId ∈ diff.addedUnitIds ↔ unitId ∈ child.plan.unitIds ∧ unitId ∉ parent.plan.unitIds := by
  have listed : unitId ∈ diff.addedUnitIds ↔ unitId ∈ addedUnits parent.plan child.plan := by
    refine (mem_of_uniqueIds normal.addedUnitIds ?_).trans mem_sortedSet
    intro value member
    have added := List.mem_of_mem_filter (mem_sortedSet.mp member)
    exact (child.wellFormed.unitNames value added).1
  rw [listed, addedUnits, List.mem_filter, decide_eq_true_iff]

include normal in
private theorem planwide_of_normalizes : diff.Planwide ↔ comparison.planwide := by
  have versions := uniqueIds_eq_nil normal.changedPolicyVersions
  rw [Comparison.planDiff, ← List.length_eq_zero_iff (l := List.mergeSort _ _), List.length_mergeSort,
    List.length_eq_zero_iff] at versions
  rw [PlanDiff.Planwide, Comparison.planwide]
  exact or_congr (not_congr (uniqueIds_eq_nil normal.changedSpecFields))
    (or_congr (not_congr (uniqueIds_eq_nil normal.changedLayout))
      (or_congr (not_congr (uniqueIds_eq_nil normal.changedSourceVersions)) (not_congr versions)))

include compared in
private theorem named_allChangedUnits : ∀ unitId ∈ comparison.allChangedUnits parent.plan child.plan, NonEmptyId
    unitId := by
  intro unitId member
  rcases List.mem_append.mp (mem_sortedSet.mp member) with ofHash | ofDependency
  · exact (named_of_compare compared).1 unitId ofHash
  · exact child.wellFormed.unitNames unitId (mem_unitIds_of_dependencyChanged ofDependency)

include compared in
private theorem named_directlyAffected :
    ∀ unitId ∈ comparison.directlyAffected parent.plan child.plan, NonEmptyId unitId := by
  intro unitId member
  simp only [Comparison.directlyAffected, List.mem_append] at member
  rcases member with ((changed | covered) | added) | planwide
  · exact named_allChangedUnits compared unitId changed
  · exact (named_of_compare compared).2 unitId covered
  · exact child.wellFormed.unitNames unitId (List.mem_of_mem_filter added)
  · split at planwide
    · exact child.wellFormed.unitNames unitId planwide
    · cases planwide

include compared normal in
/-- What the comparison finds to be directly affected is what the diff lists as changed or added. -/
theorem mem_directlyAffected_iff_listed (there : unitId ∈ child.plan.unitIds) :
    unitId ∈ comparison.directlyAffected parent.plan child.plan ↔ diff.ChangedOrAdded unitId := by
  have changed : unitId ∈ diff.changedUnitIds ↔ unitId ∈ comparison.allChangedUnits parent.plan child.plan :=
    mem_of_uniqueIds normal.changedUnitIds fun value member => (named_allChangedUnits compared value member).1
  have covered : unitId ∈ diff.changedCoverage ↔ unitId ∈ comparison.changedCoverage := by
    refine (mem_of_uniqueIds normal.changedCoverage ?_).trans mem_sortedSet
    intro value member
    exact ((named_of_compare compared).2 value (mem_sortedSet.mp member)).1
  have added : unitId ∈ diff.addedUnitIds ↔ unitId ∈ addedUnits parent.plan child.plan := by
    rw [mem_addedUnitIds_iff normal, addedUnits, List.mem_filter, decide_eq_true_iff]
  have planwide : (unitId ∈ if comparison.planwide then child.plan.unitIds else []) ↔ diff.Planwide := by
    rw [planwide_of_normalizes normal]
    split
    · rename_i affected
      simp [there, affected]
    · rename_i spared
      simp [spared]
  rw [Comparison.directlyAffected, List.mem_append, List.mem_append, List.mem_append, ← changed, ← covered, ← added,
    planwide, or_assoc, or_assoc, PlanDiff.ChangedOrAdded]

include compared normal in
private theorem mem_start_iff {taskId : String} :
    taskId ∈ (comparison.directlyAffected parent.plan child.plan).filterMap child.plan.taskByUnit.get? ↔
      ∃ source ∈ child.plan.unitTasks, diff.ChangedOrAdded source.unitId ∧ source.taskId = taskId := by
  have formed := child.wellFormed
  have known {task : UnitTaskSpec} (there : task ∈ child.plan.unitTasks) : task.unitId ∈ child.plan.unitIds :=
    formed.known _ (List.mem_map.mpr ⟨task, there, rfl⟩)
  rw [List.mem_filterMap]
  simp only [formed.get?_taskByUnit]
  constructor
  · rintro ⟨unitId, affected, task, there, rfl, rfl⟩
    exact ⟨task, there, (mem_directlyAffected_iff_listed compared normal (known there)).mp affected, rfl⟩
  · rintro ⟨task, there, changed, rfl⟩
    exact ⟨task.unitId, (mem_directlyAffected_iff_listed compared normal (known there)).mpr changed, task, there, rfl,
      rfl⟩

end Listed

/-! ### The closure

The code sweeps over the edges until a sweep adds nothing; the result is what is reachable, in whatever order the
edges come. -/

/-- What a diff says about the tasks and the units of the child. -/
structure AffectedClosure (parent child : DocumentPlan) (diff : PlanDiff) : Prop where
  /-- the units that only the child has are added -/
  added : ∀ unitId, unitId ∈ diff.addedUnitIds ↔ unitId ∈ child.unitIds ∧ unitId ∉ parent.unitIds
  /-- a unit of the child is directly affected when it is changed or added -/
  direct : ∀ unitId ∈ child.unitIds, unitId ∈ diff.directlyAffectedUnitIds ↔ diff.ChangedOrAdded unitId
  /-- a task is affected when it depends, directly or not, on the task of a unit that is changed or added -/
  tasks : ∀ taskId, taskId ∈ diff.affectedTaskIds ↔ taskId ∈ child.taskIds ∧
    ∃ source ∈ child.unitTasks, diff.ChangedOrAdded source.unitId ∧
      Relation.ReflTransGen child.Feeds source.taskId taskId
  disjoint : ∀ unitId ∈ diff.reusedUnitIds, unitId ∉ diff.affectedUnitIds
  covering : ∀ unitId, unitId ∈ parent.unitIds → unitId ∈ child.unitIds →
    unitId ∈ diff.reusedUnitIds ∨ unitId ∈ diff.affectedUnitIds
  /-- in whatever order the edges come, the passes end, and have found the affected tasks -/
  ends : ∀ edges start, (∀ upstream downstream, (upstream, downstream) ∈ edges ↔ child.Feeds upstream downstream) →
    (∀ taskId, taskId ∈ start ↔
      ∃ source ∈ child.unitTasks, diff.ChangedOrAdded source.unitId ∧ source.taskId = taskId) →
    ∃ passes ≤ child.unitTasks.length,
      sweep edges ((sweep edges)^[passes] start) = (sweep edges)^[passes] start ∧
        ∀ taskId, taskId ∈ (sweep edges)^[passes] start ↔ taskId ∈ diff.affectedTaskIds

private theorem DocumentPlan.WellFormed.mem_taskIds_of_path (formed : plan.WellFormed)
    {source : UnitTaskSpec} (there : source ∈ plan.unitTasks) {taskId : String}
    (path : Relation.ReflTransGen plan.Feeds source.taskId taskId) : taskId ∈ plan.taskIds := by
  cases path with
  | refl => exact List.mem_map.mpr ⟨source, there, rfl⟩
  | tail _ edge =>
    obtain ⟨-, task, member, rfl⟩ := formed.exists_of_edge (DocumentPlan.mem_childEdges_iff.mpr edge)
    exact List.mem_map.mpr ⟨task, member, rfl⟩

private theorem DocumentPlan.WellFormed.card_missing_le (formed : plan.WellFormed) {edges : List (String × String)}
    (same : ∀ upstream downstream, (upstream, downstream) ∈ edges ↔ plan.Feeds upstream downstream)
    (start : List String) : (missing (targetsOf edges) start).card ≤ plan.unitTasks.length := by
  have within : missing (targetsOf edges) start ⊆ plan.taskIds.toFinset := by
    intro taskId member
    obtain ⟨listed, -⟩ := Finset.mem_sdiff.mp member
    obtain ⟨⟨upstream, downstream⟩, edge, rfl⟩ := List.mem_map.mp (List.mem_toFinset.mp listed)
    have declared := DocumentPlan.mem_childEdges_iff.mpr ((same upstream downstream).mp edge)
    obtain ⟨-, task, there, taskId⟩ := formed.exists_of_edge declared
    exact List.mem_toFinset.mpr (List.mem_map.mpr ⟨task, there, taskId⟩)
  calc (missing (targetsOf edges) start).card
      ≤ plan.taskIds.toFinset.card := Finset.card_le_card within
    _ ≤ plan.taskIds.length := List.toFinset_card_le _
    _ = plan.unitTasks.length := List.length_map _

/-- The tasks that a diff lists as affected are those of the child that depend, directly or not, on the task of a
changed or added unit; its reused and its affected units are disjoint and cover the units of both plans; and the
passes that find the tasks come to an end. -/
theorem affected_tasks_are_reachable {Digest : Type} [DecidableEq Digest] {sha256 : Value → Digest}
    (parent child : NamedPlan) {diff : PlanDiff} (done : diffDocumentPlans sha256 parent.plan child.plan = .ok diff) :
    AffectedClosure parent.plan child.plan diff := by
  obtain ⟨comparison, compared, normal⟩ := normalizes_of_diff done
  have formed := child.wellFormed
  have found (edges : List (String × String)) (start : List String)
      (same : ∀ upstream downstream, (upstream, downstream) ∈ edges ↔ child.plan.Feeds upstream downstream)
      (starts : ∀ taskId, taskId ∈ start ↔
        ∃ source ∈ child.plan.unitTasks, diff.ChangedOrAdded source.unitId ∧ source.taskId = taskId)
      (taskId : String) : taskId ∈ saturate edges start ↔ ∃ source ∈ child.plan.unitTasks,
        diff.ChangedOrAdded source.unitId ∧ Relation.ReflTransGen child.plan.Feeds source.taskId taskId := by
    rw [mem_saturate_iff, joined_eq_feeds same]
    simp only [starts]
    constructor
    · rintro ⟨_, ⟨source, there, changed, rfl⟩, path⟩
      exact ⟨source, there, changed, path⟩
    · rintro ⟨source, there, changed, path⟩
      exact ⟨source.taskId, ⟨source, there, changed, rfl⟩, path⟩
  have affected (taskId : String) := found child.plan.childEdges _
    (fun _ _ => DocumentPlan.mem_childEdges_iff) (fun _ => mem_start_iff compared normal) taskId
  have listed (taskId : String) :
      taskId ∈ diff.affectedTaskIds ↔ taskId ∈ comparison.affectedTaskIds parent.plan child.plan := by
    refine (mem_of_uniqueIds normal.affectedTaskIds ?_).trans mem_sortedSet
    intro value member
    obtain ⟨source, there, -, path⟩ := (affected value).mp (mem_sortedSet.mp member)
    exact (child.taskNames value (formed.mem_taskIds_of_path there path)).1
  have units (unitId : String) :
      unitId ∈ diff.affectedUnitIds ↔ unitId ∈ comparison.affectedUnitIds parent.plan child.plan := by
    refine (mem_of_uniqueIds normal.affectedUnitIds ?_).trans mem_sortedSet
    intro value member
    have known : value ∈ child.plan.unitIds := by
      rcases List.mem_append.mp (mem_sortedSet.mp member) with ofTask | direct
      · obtain ⟨taskId, -, owner⟩ := List.mem_filterMap.mp ofTask
        obtain ⟨task, there, -, rfl⟩ := formed.get?_unitOfTask.mp owner
        exact formed.known _ (List.mem_map.mpr ⟨task, there, rfl⟩)
      · exact of_decide_eq_true (List.mem_filter.mp direct).2
    exact (formed.unitNames value known).1
  have reused (unitId : String) := @mem_reusedUnitIds_of_normalizes _ _ parent.wellFormed _ _ normal unitId
  refine
    { added := fun _ => mem_addedUnitIds_iff normal
      direct := ?_, tasks := ?_, disjoint := ?_, covering := ?_, ends := ?_ }
  · intro unitId there
    rw [← mem_directlyAffected_iff_listed compared normal there]
    refine (mem_of_uniqueIds normal.directlyAffectedUnitIds ?_).trans mem_sortedSet
    intro value member
    exact (named_directlyAffected compared value (mem_sortedSet.mp member)).1
  · intro taskId
    rw [listed]
    refine (affected taskId).trans ⟨?_, fun both => both.2⟩
    rintro ⟨source, there, changed, path⟩
    exact ⟨formed.mem_taskIds_of_path there path, source, there, changed, path⟩
  · intro unitId isReused isAffected
    have spared := (List.mem_filter.mp ((reused unitId).mp isReused)).2
    rw [Bool.and_eq_true, decide_eq_true_iff, decide_eq_true_iff] at spared
    exact spared.2 ((units unitId).mp isAffected)
  · intro unitId inParent inChild
    by_cases isAffected : unitId ∈ diff.affectedUnitIds
    · exact Or.inr isAffected
    · refine Or.inl ((reused unitId).mpr (List.mem_filter.mpr ⟨inParent, ?_⟩))
      rw [Bool.and_eq_true, decide_eq_true_iff, decide_eq_true_iff]
      exact ⟨inChild, fun member => isAffected ((units unitId).mpr member)⟩
  · intro edges start same starts
    obtain ⟨passes, bound, result⟩ := exists_sweeps edges start
    refine ⟨passes, bound.trans (formed.card_missing_le same start), ?_, ?_⟩
    · rw [result]
      exact sweep_saturate edges start
    · intro taskId
      rw [result, listed]
      exact (found edges start same starts taskId).trans (affected taskId).symm

/-! ### A chain of tables -/

/-- A version of a plan whose nets are filled from its pins and whose notes stand alone. -/
def chainPlan (version : Nat) (pins : UnitKind) : DocumentPlan :=
  { pinPlan version ["1"] with
    semanticUnits :=
      [{ unitId := "pins", kind := pins }, { unitId := "nets", kind := .table }, { unitId := "list", kind := .list },
        { unitId := "notes", kind := .section }]
    dependencyEdges := [{ upstreamTaskId := "fill nets", downstreamTaskId := "fill list" }]
    unitTasks :=
      [{ taskId := "fill pins", unitId := "pins", planVersion := version, actionKey := "pins" },
        { taskId := "fill nets", unitId := "nets", planVersion := version, dependencies := ["fill pins"],
          actionKey := "nets" },
        { taskId := "fill list", unitId := "list", planVersion := version, actionKey := "list" },
        { taskId := "write notes", unitId := "notes", planVersion := version, actionKey := "notes" }] }

/-- The plan with its pins in a table. -/
def tablePlan : NamedPlan where
  plan := chainPlan 1 .table
  valid := by decide +kernel
  named := by decide +kernel

/-- The plan with its pins in a list. -/
def listPlan : NamedPlan where
  plan := chainPlan 2 .list
  valid := by decide +kernel
  named := by decide +kernel

/-- Another kind of pins affects the nets and the list after them, and leaves the notes. -/
theorem list_plan_reuses_notes :
    ∃ diff, diffDocumentPlans (id : Value → Value) tablePlan.plan listPlan.plan = .ok diff ∧
      diff.affectedTaskIds = ["fill list", "fill nets", "fill pins"] ∧ diff.reusedUnitIds = ["notes"] ∧
      AffectedClosure tablePlan.plan listPlan.plan diff := by
  have result : (diffDocumentPlans (id : Value → Value) tablePlan.plan listPlan.plan).map
      (fun diff => (diff.affectedTaskIds, diff.reusedUnitIds)) =
      .ok (["fill list", "fill nets", "fill pins"], ["notes"]) := by
    simp only [diffDocumentPlans, Comparison.planDiff, Comparison.reasonCodes, Comparison.reusedUnitIds,
      Comparison.affectedUnitIds, Comparison.affectedTaskIds, saturate_eq_sweeps, PlanDiff.normalizeDiff, uniqueIds,
      sortedSet, List.mergeSort_eq_insertionSort]
    decide +kernel
  obtain ⟨diff, done, listed⟩ := exists_of_map_eq_ok result
  obtain ⟨affected, reused⟩ := Prod.mk.inj listed
  exact ⟨diff, done, affected, reused, affected_tasks_are_reachable tablePlan listPlan done⟩

/-! ### A plan that is issued again -/

/-- The plan under another id and version, with the version and other action keys in its tasks. -/
def DocumentPlan.reissued (plan : DocumentPlan) (documentPlanId : String) (version : Nat)
    (actionKey : UnitTaskSpec → String) : DocumentPlan :=
  { plan with
    documentPlanId, version
    unitTasks := plan.unitTasks.map fun task => { task with planVersion := version, actionKey := actionKey task } }

section Reissued

variable {Digest : Type} [DecidableEq Digest] {sha256 : Value → Digest}

private theorem not_differs_self (value : Value) : differs sha256 value value ≠ .ok true := by
  intro differ
  obtain ⟨left, first, differ⟩ := exists_of_bind_eq_ok differ
  obtain ⟨right, second, differ⟩ := exists_of_bind_eq_ok differ
  cases first.symm.trans second
  simp [pure, Except.pure] at differ

private theorem selectM_eq_nil {α : Type} {condition : α → Except Failure Bool} {items selected : List α}
    (done : selectM condition items = .ok selected) (never : ∀ item ∈ items, condition item ≠ .ok true) :
    selected = [] := by
  apply List.eq_nil_iff_forall_not_mem.mpr
  intro item member
  obtain ⟨there, chosen⟩ := (mem_of_selectM done).mp member
  exact never item there chosen

private theorem changedKeys_self {entries : OrderedDict String Value} {changed : List String}
    (done : changedKeys sha256 entries entries = .ok changed) : changed = [] :=
  selectM_eq_nil done fun _ _ => not_differs_self _

private theorem changedMappingKeys_self {mapping : Mapping} {changed : List String}
    (done : changedMappingKeys sha256 mapping mapping = .ok changed) : changed = [] := by
  obtain ⟨differing, listed, done⟩ := exists_of_bind_eq_ok done
  cases changedKeys_self listed
  cases done
  have known (entries : OrderedDict String Value) : entries.keys.filter (fun key => !entries.contains key) = [] := by
    apply List.filter_eq_nil_iff.mpr
    intro key member
    simp [OrderedDict.contains_iff.mpr (OrderedDict.mem_keys_iff.mp member)]
  rw [known]
  simp [sortedSet]

private theorem mem_zip_self {α : Type} {items : List α} {pair : α × α} (member : pair ∈ items.zip items) :
    pair.1 = pair.2 := by
  induction items with
  | nil => cases member
  | cons first rest ih =>
    rcases List.mem_cons.mp member with rfl | later
    · rfl
    · exact ih later

private theorem compare_reissued {documentPlanId : String} {version : Nat}
    {actionKey : UnitTaskSpec → String} {comparison : Comparison}
    (compared : compare sha256 plan (plan.reissued documentPlanId version actionKey) = .ok comparison) :
    comparison = ⟨[], [], [], [], [], []⟩ := by
  obtain ⟨changedUnits, units, compared⟩ := exists_of_bind_eq_ok compared
  obtain ⟨changedCoverage, coverage, compared⟩ := exists_of_bind_eq_ok compared
  obtain ⟨changedSpecFields, spec, compared⟩ := exists_of_bind_eq_ok compared
  obtain ⟨changedLayout, layout, compared⟩ := exists_of_bind_eq_ok compared
  obtain ⟨changedPolicies, policies, compared⟩ := exists_of_bind_eq_ok compared
  cases compared
  have fields : changedSpecFields = [] := by
    obtain ⟨fields, keys, spec⟩ := exists_of_bind_eq_ok spec
    cases changedMappingKeys_self keys
    cases spec
    exact if_neg fun other => other.1 rfl
  have layouts : changedLayout = [] := by
    obtain ⟨differ, first, layout⟩ := exists_of_bind_eq_ok layout
    cases differ with
    | true => exact absurd first (not_differs_self _)
    | false =>
      obtain ⟨differ, second, layout⟩ := exists_of_bind_eq_ok layout
      cases differ with
      | true => exact absurd second (not_differs_self _)
      | false =>
        cases layout
        rfl
  have reviews : changedPolicies = [] := by
    obtain ⟨changed, listed, policies⟩ := exists_of_bind_eq_ok policies
    cases policies
    rw [selectM_eq_nil listed]
    · rfl
    · intro pair member
      rw [mem_zip_self member]
      exact not_differs_self _
  have versions : compareVersions plan (plan.reissued documentPlanId version actionKey) = [] := by
    rw [compareVersions, List.filter_eq_nil_iff.mpr]
    · rfl
    · intro pair member
      simp [mem_zip_self member]
  rw [changedKeys_self units, changedKeys_self coverage, fields, layouts, reviews, versions]
  simp [compareSources, DocumentPlan.reissued]

/-- The diff shows no change, affects nothing and gives no reason: its lists are empty but for the reused units. -/
structure PlanDiff.ShowsNothing (diff : PlanDiff) : Prop where
  spec : diff.changedSpecFields = []
  layout : diff.changedLayout = []
  sources : diff.changedSourceVersions = []
  policies : diff.changedPolicyVersions = []
  units : diff.changedUnitIds = []
  coverage : diff.changedCoverage = []
  added : diff.addedUnitIds = []
  removed : diff.removedUnitIds = []
  direct : diff.directlyAffectedUnitIds = []
  affectedTasks : diff.affectedTaskIds = []
  affectedUnits : diff.affectedUnitIds = []
  closure : diff.dependencyClosure = []
  reasons : diff.scopeReasonCodes = []

/-- A plan that is issued again under another id and version, with other action keys, shows no change whatever the
hash function is, affects no unit and no task, and every unit of it is reused. -/
theorem reissued_plan_is_reused (plan : ValidPlan) {documentPlanId : String} {version : Nat}
    {actionKey : UnitTaskSpec → String} {diff : PlanDiff}
    (done : diffDocumentPlans sha256 plan.plan (plan.plan.reissued documentPlanId version actionKey) = .ok diff) :
    diff.ShowsNothing ∧ ∀ unitId, unitId ∈ diff.reusedUnitIds ↔ unitId ∈ plan.plan.unitIds := by
  obtain ⟨comparison, compared, normal⟩ := normalizes_of_diff done
  cases compare_reissued compared
  let child := plan.plan.reissued documentPlanId version actionKey
  have unitOfTask : child.unitOfTask = plan.plan.unitOfTask := by
    simp [child, DocumentPlan.unitOfTask, DocumentPlan.reissued, Function.comp_def]
  have dependencies : child.sortedDependencies = plan.plan.sortedDependencies := by
    simp [child, DocumentPlan.sortedDependencies, DocumentPlan.reissued, Function.comp_def]
  have edges : edgeChanged plan.plan child = [] := by
    have same : child.declaredEdges = plan.plan.declaredEdges := rfl
    rw [edgeChanged, same, List.filter_eq_nil_iff.mpr fun pair member => by simp [member]]
    rfl
  have unchanged : dependencyChangedUnits plan.plan child = [] := by
    rw [dependencyChangedUnits, edges, dependencyChanged, dependencies]
    simp [sortedSet]
  have added : addedUnits plan.plan child = [] :=
    List.filter_eq_nil_iff.mpr fun unitId (member : unitId ∈ plan.plan.unitIds) => by simp [member]
  have removed : addedUnits child plan.plan = [] :=
    List.filter_eq_nil_iff.mpr fun unitId (member : unitId ∈ child.unitIds) => by simp [member]
  have direct : Comparison.directlyAffected ⟨[], [], [], [], [], []⟩ plan.plan child = [] := by
    simp [Comparison.directlyAffected, Comparison.allChangedUnits, Comparison.planwide, unchanged, added, sortedSet]
  have tasks : Comparison.affectedTaskIds ⟨[], [], [], [], [], []⟩ plan.plan child = [] := by
    apply List.eq_nil_iff_forall_not_mem.mpr
    intro taskId member
    rw [Comparison.affectedTaskIds, direct, mem_saturate_iff] at member
    simp at member
  have units : Comparison.affectedUnitIds ⟨[], [], [], [], [], []⟩ plan.plan child = [] := by
    simp [Comparison.affectedUnitIds, tasks, direct]
  have reasons : Comparison.reasonCodes ⟨[], [], [], [], [], []⟩ plan.plan child = [] := by
    simp [Comparison.reasonCodes, Comparison.allChangedUnits, unchanged, added, removed, tasks, units, sortedSet]
  have nothing {ids : List String} (none : ids = []) : sortedSet ids = [] := by
    simp [none, sortedSet]
  constructor
  · constructor
    case spec => exact (uniqueIds_eq_nil normal.changedSpecFields).mpr rfl
    case layout => exact (uniqueIds_eq_nil normal.changedLayout).mpr rfl
    case sources => exact (uniqueIds_eq_nil normal.changedSourceVersions).mpr rfl
    case policies => exact (uniqueIds_eq_nil normal.changedPolicyVersions).mpr (List.mergeSort_nil ..)
    case units => exact (uniqueIds_eq_nil normal.changedUnitIds).mpr (nothing unchanged)
    case coverage => exact (uniqueIds_eq_nil normal.changedCoverage).mpr (nothing rfl)
    case added => exact (uniqueIds_eq_nil normal.addedUnitIds).mpr (nothing added)
    case direct => exact (uniqueIds_eq_nil normal.directlyAffectedUnitIds).mpr (nothing direct)
    case affectedTasks => exact (uniqueIds_eq_nil normal.affectedTaskIds).mpr (nothing tasks)
    case affectedUnits => exact (uniqueIds_eq_nil normal.affectedUnitIds).mpr (nothing units)
    case removed => exact (uniqueIds_eq_nil normal.removedUnitIds).mpr (nothing removed)
    case closure => exact (uniqueIds_eq_nil normal.dependencyClosure).mpr (nothing tasks)
    case reasons => exact (uniqueIds_eq_nil normal.scopeReasonCodes).mpr (nothing reasons)
  · intro unitId
    rw [mem_reusedUnitIds_of_normalizes plan.wellFormed normal, Comparison.reusedUnitIds, units]
    simp [DocumentPlan.reissued, DocumentPlan.unitIds]

end Reissued

/-- The plan with its tables, issued again. -/
def tablesAgain : DocumentPlan :=
  tablePlan.plan.reissued "tables" 2 fun task => "fill " ++ task.unitId

/-- Nothing is affected, and the unit of the nets is reused. -/
theorem reissued_table_plan_is_reused :
    ∃ diff, diffDocumentPlans (id : Value → Value) tablePlan.plan tablesAgain = .ok diff ∧ diff.ShowsNothing ∧
      "nets" ∈ diff.reusedUnitIds := by
  have result : (diffDocumentPlans (id : Value → Value) tablePlan.plan tablesAgain).map
      PlanDiff.affectedTaskIds = .ok [] := by
    simp only [diffDocumentPlans, Comparison.planDiff, Comparison.reasonCodes, Comparison.reusedUnitIds,
      Comparison.affectedUnitIds, Comparison.affectedTaskIds, saturate_eq_sweeps, PlanDiff.normalizeDiff, uniqueIds,
      sortedSet, List.mergeSort_eq_insertionSort]
    decide +kernel
  obtain ⟨diff, done, -⟩ := exists_of_map_eq_ok result
  obtain ⟨nothing, reused⟩ := reissued_plan_is_reused tablePlan.toValidPlan done
  exact ⟨diff, done, nothing, (reused "nets").mpr (by decide +kernel)⟩

end HardwareDatabase.Replanning
