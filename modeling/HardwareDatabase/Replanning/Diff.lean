/-
Module: HardwareDatabase.Replanning.Diff
Purpose: `diff_document_plans` (`src/src/document_authoring/planning/diff.py`). The sets are lists; the hash of the
  diff itself is left out.
Trusted boundary: none
-/
import HardwareDatabase.Replanning.Models
import HardwareDatabase.Python.OrderedDict
import HardwareDatabase.Relational.Reach

namespace HardwareDatabase.Replanning

open Python
open Relational (saturate)

/-! ### The diff -/

/-- A `PlanDiff`. -/
structure PlanDiff where
  parentPlanId : String
  parentPlanVersion : Nat
  childPlanId : String
  childPlanVersion : Nat
  changedSpecFields : List String
  addedUnitIds : List String
  removedUnitIds : List String
  changedUnitIds : List String
  changedCoverage : List String
  changedLayout : List String
  changedSourceVersions : List String
  changedPolicyVersions : List String
  directlyAffectedUnitIds : List String
  affectedUnitIds : List String
  affectedTaskIds : List String
  dependencyClosure : List String
  reusedUnitIds : List String
  scopeReasonCodes : List String
deriving Repr, DecidableEq

/-- A field `list[NonEmptyId]` with `_unique_strings`, sorted. -/
def uniqueIds (label : String) (limit : Nat) (values : List String) : Except Failure (List String) :=
  let stripped := values.map strip
  if stripped.length ≤ limit ∧ (∀ value ∈ stripped, NonEmptyId value) ∧ stripped.Nodup then
    .ok (stripped.mergeSort fun left right => decide (left ≤ right))
  else .error (.invalidDiff label)

/-- The validators of `PlanDiff`. -/
def PlanDiff.normalizeDiff (diff : PlanDiff) : Except Failure PlanDiff := do
  let changedSpecFields ← uniqueIds "changed_spec_fields" 10000 diff.changedSpecFields
  let addedUnitIds ← uniqueIds "added_unit_ids" 100000 diff.addedUnitIds
  let removedUnitIds ← uniqueIds "removed_unit_ids" 100000 diff.removedUnitIds
  let changedUnitIds ← uniqueIds "changed_unit_ids" 100000 diff.changedUnitIds
  let changedCoverage ← uniqueIds "changed_coverage" 100000 diff.changedCoverage
  let changedLayout ← uniqueIds "changed_layout" 1000 diff.changedLayout
  let changedSourceVersions ← uniqueIds "changed_source_versions" 1000 diff.changedSourceVersions
  let changedPolicyVersions ← uniqueIds "changed_policy_versions" 1000 diff.changedPolicyVersions
  let directlyAffectedUnitIds ← uniqueIds "directly_affected_unit_ids" 100000 diff.directlyAffectedUnitIds
  let affectedUnitIds ← uniqueIds "affected_unit_ids" 100000 diff.affectedUnitIds
  let affectedTaskIds ← uniqueIds "affected_task_ids" 100000 diff.affectedTaskIds
  let dependencyClosure ← uniqueIds "dependency_closure" 100000 diff.dependencyClosure
  let reusedUnitIds ← uniqueIds "reused_unit_ids" 100000 diff.reusedUnitIds
  let scopeReasonCodes ← uniqueIds "scope_reason_codes" 64 diff.scopeReasonCodes
  return { diff with
    changedSpecFields, addedUnitIds, removedUnitIds, changedUnitIds, changedCoverage, changedLayout,
    changedSourceVersions, changedPolicyVersions, directlyAffectedUnitIds, affectedUnitIds,
    affectedTaskIds, dependencyClosure, reusedUnitIds, scopeReasonCodes }

/-! ### Comparing the parts -/

section Compare

variable {Digest : Type} [DecidableEq Digest] (sha256 : Value → Digest)

/-- A comprehension whose condition may raise. -/
def selectM {α : Type} (condition : α → Except Failure Bool) : List α → Except Failure (List α)
  | [] => .ok []
  | item :: rest => do
    let selected ← condition item
    let later ← selectM condition rest
    return if selected then item :: later else later

/-- `planning_content_hash(left) != planning_content_hash(right)`. -/
def differs (left right : Value) : Except Failure Bool := do
  let leftHash ← planningContentHash sha256 left
  let rightHash ← planningContentHash sha256 right
  return decide (leftHash ≠ rightHash)

/-- The keys of both dictionaries whose values differ. -/
def changedKeys (left right : OrderedDict String Value) : Except Failure (List String) :=
  selectM (fun key => differs sha256 ((left.get? key).getD .null) ((right.get? key).getD .null))
    (left.keys.filter right.contains)

/-- `_changed_mapping_keys`. -/
def changedMappingKeys (left right : Mapping) : Except Failure (List String) := do
  let leftEntries := OrderedDict.ofEntries left.entries
  let rightEntries := OrderedDict.ofEntries right.entries
  let changed ← changedKeys sha256 leftEntries rightEntries
  return sortedSet (changed ++ (leftEntries.keys.filter fun key => !rightEntries.contains key) ++
    (rightEntries.keys.filter fun key => !leftEntries.contains key))

/-- `parent_units`. -/
def DocumentPlan.unitDumps (plan : DocumentPlan) : OrderedDict String Value :=
  .ofEntries (plan.semanticUnits.map fun unit => (unit.unitId, unit.dump))

/-- `parent_coverage`: the last requirement of a unit. -/
def DocumentPlan.coverageDumps (plan : DocumentPlan) : OrderedDict String Value :=
  .ofEntries (plan.coverageContract.map fun item => (item.unitId, item.dump))

/-- The version labels of the strategy, the layout adapter and the renderer. -/
def DocumentPlan.versionLabels (plan : DocumentPlan) : List (String × String) :=
  [("domain_strategy", plan.domainStrategyId ++ "@" ++ plan.domainStrategyVersion),
    ("layout_adapter", plan.layoutAdapterId ++ "@" ++ plan.layoutAdapterVersion),
    ("renderer", plan.rendererCapabilityId ++ "@" ++ plan.rendererCapabilityVersion)]

/-- The policies. -/
def DocumentPlan.policies (plan : DocumentPlan) : List (String × Value) :=
  [("approval_policy", plan.approvalPolicy.value),
    ("unit_review_policy", plan.unitReviewPolicy.value),
    ("document_review_policy", plan.documentReviewPolicy.value)]

/-- The differences of the two plans that the hashes show. -/
structure Comparison where
  changedUnits : List String
  changedCoverage : List String
  changedSpecFields : List String
  changedLayout : List String
  changedSourceVersions : List String
  changedPolicyVersions : List String
deriving Repr, DecidableEq

/-- The changes of the output specification. -/
def compareSpec (parent child : DocumentPlan) : Except Failure (List String) := do
  let fields ← changedMappingKeys sha256 parent.outputSpecSummary child.outputSpecSummary
  return if parent.outputSpecHash ≠ child.outputSpecHash ∧ fields = [] then ["output_spec"] else fields

/-- The changes of the layout. -/
def compareLayout (parent child : DocumentPlan) : Except Failure (List String) := do
  if ← differs sha256 parent.layoutContract.dump child.layoutContract.dump then
    return ["layout_contract"]
  if ← differs sha256 parent.renderSpec.value child.renderSpec.value then
    return ["layout_contract"]
  return []

/-- The changes of the sources. -/
def compareSources (parent child : DocumentPlan) : List String :=
  if parent.sourceSnapshotId ≠ child.sourceSnapshotId ∨ parent.sourceSnapshotHash ≠ child.sourceSnapshotHash then
    [parent.sourceSnapshotId ++ "→" ++ child.sourceSnapshotId]
  else []

/-- The changes of the versions. -/
def compareVersions (parent child : DocumentPlan) : List String :=
  ((parent.versionLabels.zip child.versionLabels).filter fun pair => decide (pair.1.2 ≠ pair.2.2)).map fun pair =>
    pair.1.1 ++ ":" ++ pair.1.2 ++ "→" ++ pair.2.2

/-- The changes of the policies. -/
def comparePolicies (parent child : DocumentPlan) : Except Failure (List String) := do
  let changed ← selectM (fun pair => differs sha256 pair.1.2 pair.2.2) (parent.policies.zip child.policies)
  return changed.map fun pair => pair.1.1

/-- The comparisons of the parts by their hashes. -/
def compare (parent child : DocumentPlan) : Except Failure Comparison := do
  let changedUnits ← changedKeys sha256 parent.unitDumps child.unitDumps
  let changedCoverage ← changedKeys sha256 parent.coverageDumps child.coverageDumps
  let changedSpecFields ← compareSpec sha256 parent child
  let changedLayout ← compareLayout sha256 parent child
  let changedPolicies ← comparePolicies sha256 parent child
  return {
    changedUnits, changedCoverage, changedSpecFields, changedLayout
    changedSourceVersions := compareSources parent child
    changedPolicyVersions := compareVersions parent child ++ changedPolicies }

end Compare

/-! ### Dependencies -/

namespace DocumentPlan

variable (plan : DocumentPlan)

/-- `child_task_units`. -/
def unitOfTask : OrderedDict String String :=
  .ofEntries (plan.unitTasks.map fun task => (task.taskId, task.unitId))

/-- `task_by_unit`. -/
def taskByUnit : OrderedDict String String :=
  .ofEntries (plan.unitTasks.map fun task => (task.unitId, task.taskId))

/-- `child_dependencies`. -/
def sortedDependencies : OrderedDict String (List String) :=
  .ofEntries (plan.unitTasks.map fun task =>
    (task.taskId, task.dependencies.mergeSort fun left right => decide (left ≤ right)))

/-- `child_edges_declared`. -/
def declaredEdges : List (String × String) :=
  plan.dependencyEdges.map (·.pair)

/-- `child_edges`. -/
def childEdges : List (String × String) :=
  plan.declaredEdges ++
    plan.unitTasks.flatMap fun task => task.dependencies.map fun dependency => (dependency, task.taskId)

end DocumentPlan

/-- The units of the child whose task is in both plans with other dependencies. -/
def dependencyChanged (parent child : DocumentPlan) : List String :=
  (child.unitOfTask.entries.filter fun entry =>
      parent.unitOfTask.contains entry.1 &&
        decide ((parent.sortedDependencies.get? entry.1).getD [] ≠
          (child.sortedDependencies.get? entry.1).getD [])).map Prod.snd

/-- The ends of an edge are compared one by one. -/
local instance lawfulBEqEdge : LawfulBEq (String × String) := inferInstance

/-- The units of the child at the end of an edge that only one of the plans declares. -/
def edgeChanged (parent child : DocumentPlan) : List String :=
  (child.declaredEdges.filter (fun pair => decide (pair ∉ parent.declaredEdges)) ++
      parent.declaredEdges.filter fun pair => decide (pair ∉ child.declaredEdges)).filterMap fun pair =>
    child.unitOfTask.get? pair.2

/-- `dependency_changed_units`. -/
def dependencyChangedUnits (parent child : DocumentPlan) : List String :=
  sortedSet (dependencyChanged parent child ++ edgeChanged parent child)

/-! ### What is affected -/

/-- `set(child_units) - set(parent_units)`. -/
def addedUnits (parent child : DocumentPlan) : List String :=
  child.unitIds.filter fun unitId => decide (unitId ∉ parent.unitIds)

namespace Comparison

variable (comparison : Comparison) (parent child : DocumentPlan)

/-- A change of the specification, of the layout, of the sources or of a policy affects the whole child. -/
def planwide : Prop :=
  comparison.changedSpecFields ≠ [] ∨ comparison.changedLayout ≠ [] ∨
    comparison.changedSourceVersions ≠ [] ∨ comparison.changedPolicyVersions ≠ []

instance : Decidable comparison.planwide :=
  inferInstanceAs (Decidable (_ ∨ _ ∨ _ ∨ _))

/-- `changed_units`, with the units whose dependencies changed. -/
def allChangedUnits : List String :=
  sortedSet (comparison.changedUnits ++ dependencyChangedUnits parent child)

/-- `directly_affected`. -/
def directlyAffected : List String :=
  comparison.allChangedUnits parent child ++ comparison.changedCoverage ++ addedUnits parent child ++
    if comparison.planwide then child.unitIds else []

/-- `affected_task_ids`. -/
def affectedTaskIds : List String :=
  saturate child.childEdges ((comparison.directlyAffected parent child).filterMap child.taskByUnit.get?)

/-- `affected_unit_ids`. -/
def affectedUnitIds : List String :=
  (comparison.affectedTaskIds parent child).filterMap child.unitOfTask.get? ++
    (comparison.directlyAffected parent child).filter fun unitId => decide (unitId ∈ child.unitIds)

/-- `reused_unit_ids`. -/
def reusedUnitIds : List String :=
  parent.unitIds.filter fun unitId =>
    decide (unitId ∈ child.unitIds) && decide (unitId ∉ comparison.affectedUnitIds parent child)

/-- `reason_codes`. -/
def reasonCodes : List String :=
  (if comparison.changedSpecFields ≠ [] then ["spec_change"] else []) ++
    (if comparison.changedLayout ≠ [] then ["layout_change"] else []) ++
    (if comparison.changedSourceVersions ≠ [] then ["source_change"] else []) ++
    (if comparison.changedPolicyVersions ≠ [] then ["policy_change"] else []) ++
    (if dependencyChangedUnits parent child ≠ [] then ["dependency_change"] else []) ++
    (if comparison.changedCoverage ≠ [] then ["coverage_change"] else []) ++
    (if comparison.allChangedUnits parent child ≠ [] then ["unit_change"] else []) ++
    (if addedUnits parent child ≠ [] then ["unit_added"] else []) ++
    (if addedUnits child parent ≠ [] then ["unit_removed"] else []) ++
    (if comparison.affectedTaskIds parent child = [] ∧ comparison.affectedUnitIds parent child ≠ [] then
      ["unbound_unit"] else [])

/-- The arguments of `PlanDiff`. -/
def planDiff : PlanDiff where
  parentPlanId := parent.documentPlanId
  parentPlanVersion := parent.version
  childPlanId := child.documentPlanId
  childPlanVersion := child.version
  changedSpecFields := comparison.changedSpecFields
  addedUnitIds := sortedSet (addedUnits parent child)
  removedUnitIds := sortedSet (addedUnits child parent)
  changedUnitIds := comparison.allChangedUnits parent child
  changedCoverage := sortedSet comparison.changedCoverage
  changedLayout := comparison.changedLayout
  changedSourceVersions := comparison.changedSourceVersions
  changedPolicyVersions := comparison.changedPolicyVersions.mergeSort fun left right => decide (left ≤ right)
  directlyAffectedUnitIds := sortedSet (comparison.directlyAffected parent child)
  affectedUnitIds := sortedSet (comparison.affectedUnitIds parent child)
  affectedTaskIds := sortedSet (comparison.affectedTaskIds parent child)
  dependencyClosure := sortedSet (comparison.affectedTaskIds parent child)
  reusedUnitIds := sortedSet (comparison.reusedUnitIds parent child)
  scopeReasonCodes := sortedSet (comparison.reasonCodes parent child)

end Comparison

/-- `diff_document_plans`. -/
def diffDocumentPlans {Digest : Type} [DecidableEq Digest] (sha256 : Value → Digest)
    (parent child : DocumentPlan) : Except Failure PlanDiff := do
  let comparison ← compare sha256 parent child
  (comparison.planDiff parent child).normalizeDiff

end HardwareDatabase.Replanning
