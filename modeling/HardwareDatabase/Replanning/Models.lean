/-
Module: HardwareDatabase.Replanning.Models
Purpose: The document plan and its parts (`src/src/document_authoring/planning/models.py`) with their JSON dumps and
  validators. The texts are stripped; the length limits, the forbidden keys of the mappings and the check of a given
  `plan_hash` are left out.
Trusted boundary: none
-/
import HardwareDatabase.Replanning.ContentHash
import HardwareDatabase.Planning.TaskGraph
import HardwareDatabase.Python.Text

namespace HardwareDatabase.Replanning

open Python
open Planning (ensure ensure_eq_ok)
open Relational (exists_of_bind_eq_ok)

/-! ### Enumerations -/

/-- `SemanticUnitPlan.kind`. -/
inductive UnitKind
  | section
  | paragraph
  | table
  | list
  | field
  | reviewItem
deriving Repr, DecidableEq

def UnitKind.text : UnitKind → String
  | .section => "section"
  | .paragraph => "paragraph"
  | .table => "table"
  | .list => "list"
  | .field => "field"
  | .reviewItem => "review_item"

/-- `CoverageRequirement.kind`. -/
inductive CoverageKind
  | section
  | scalar
  | paragraph
  | table
  | crossUnit
  | artifact
deriving Repr, DecidableEq

def CoverageKind.text : CoverageKind → String
  | .section => "section"
  | .scalar => "scalar"
  | .paragraph => "paragraph"
  | .table => "table"
  | .crossUnit => "cross_unit"
  | .artifact => "artifact"

/-- `row_order`. -/
inductive RowOrder
  | declared
  | stableKey
  | input
deriving Repr, DecidableEq

def RowOrder.text : RowOrder → String
  | .declared => "declared"
  | .stableKey => "stable_key"
  | .input => "input"

/-- `duplicate_policy`. -/
inductive DuplicatePolicy
  | reject
  | allow
deriving Repr, DecidableEq

def DuplicatePolicy.text : DuplicatePolicy → String
  | .reject => "reject"
  | .allow => "allow"

/-- `PlanIssue.severity`. -/
inductive Severity
  | info
  | warning
  | error
  | critical
deriving Repr, DecidableEq

def Severity.text : Severity → String
  | .info => "info"
  | .warning => "warning"
  | .error => "error"
  | .critical => "critical"

/-- `DocumentPlan.status`. -/
inductive PlanStatus
  | proposed
  | accepted
  | stale
  | blocked
deriving Repr, DecidableEq

def PlanStatus.text : PlanStatus → String
  | .proposed => "proposed"
  | .accepted => "accepted"
  | .stale => "stale"
  | .blocked => "blocked"

/-! ### Models -/

/-- A `SemanticUnitPlan`. -/
structure SemanticUnitPlan where
  unitId : String
  kind : UnitKind
  required : Bool := true
  outputSchema : Mapping := .empty
  sourceCapabilities : List String := []
  reviewerId : Option String := none
  reviewerPolicyId : Option String := none
deriving Repr, DecidableEq

/-- A `CoverageRequirement`. -/
structure CoverageRequirement where
  requirementId : String
  unitId : String
  kind : CoverageKind
  required : Bool := true
  rowKeys : List String := []
  requiredColumns : List String := []
  rowIdentityFields : List String := []
  rowKeySchema : Mapping := .empty
  rowOrder : RowOrder := .declared
  duplicatePolicy : DuplicatePolicy := .reject
  minEvidenceItems : Nat := 0
deriving Repr, DecidableEq

/-- A `UnitTaskSpec`. -/
structure UnitTaskSpec where
  taskId : String
  unitId : String
  planVersion : Nat
  dependencies : List String := []
  barrier : Option String := none
  inputSchema : Mapping := .empty
  outputSchema : Mapping := .empty
  rowScope : Option String := none
  allowedSources : List String := []
  allowedRetrievers : List String := []
  allowedTools : List String := []
  budget : Mapping := .empty
  maxAttempts : Nat := 3
  timeoutSeconds : Nat := 300
  actionKey : String
deriving Repr, DecidableEq

/-- A `DependencyEdge`. -/
structure DependencyEdge where
  upstreamTaskId : String
  downstreamTaskId : String
deriving Repr, DecidableEq

/-- `DependencyEdge` as a pair of task ids. -/
def DependencyEdge.pair (edge : DependencyEdge) : String × String :=
  (edge.upstreamTaskId, edge.downstreamTaskId)

/-- A `PlanIssue`, with what `derive_blocking` has made of `blocking`. -/
structure PlanIssue where
  code : String
  severity : Severity := .warning
  message : String
  path : Option String := none
  blocking : Bool := severity matches .error | .critical
deriving Repr, DecidableEq

/-- A `TemplateContract` or a `StructureContract`. -/
inductive LayoutContract
  | templateContract (templateVersionId templateSchemaId templateSchemaVersion : String)
      (bindings tableSchemas : Mapping)
  | structureContract (structureProfileId structureProfileVersion : String) (components : List String)
deriving Repr, DecidableEq

/-- A `DocumentPlan`. -/
structure DocumentPlan where
  documentPlanId : String
  version : Nat
  status : PlanStatus := .proposed
  outputSpecId : String
  outputSpecVersion : Nat
  outputSpecHash : String
  outputSpecSummary : Mapping := .empty
  sourceSnapshotId : String
  sourceSnapshotHash : String
  domainStrategyId : String
  domainStrategyVersion : String
  layoutAdapterId : String
  layoutAdapterVersion : String
  rendererCapabilityId : String
  rendererCapabilityVersion : String
  layoutContract : LayoutContract
  semanticUnits : List SemanticUnitPlan
  dependencyEdges : List DependencyEdge := []
  coverageContract : List CoverageRequirement
  unitTasks : List UnitTaskSpec
  requiredCapabilities : List String := []
  resolvedCapabilities : List String := []
  issues : List PlanIssue := []
  retrievalSpecs : List Mapping := []
  unitReviewPolicy : Mapping := .empty
  documentReviewPolicy : Mapping := .empty
  renderSpec : Mapping := .empty
  approvalPolicy : Mapping := .empty
  planHash : Option String := none
deriving Repr, DecidableEq

/-! ### `model_dump(mode="json")` -/

/-- A list of texts. -/
def texts (values : List String) : Value :=
  .array (values.map .string)

/-- A text that may be missing. -/
def text? : Option String → Value
  | none => .null
  | some value => .string value

def count (value : Nat) : Value :=
  .int value

def SemanticUnitPlan.dump (unit : SemanticUnitPlan) : Value :=
  .object
    [("kind", .string unit.kind.text),
      ("output_schema", unit.outputSchema.value),
      ("required", .bool unit.required),
      ("reviewer_id", text? unit.reviewerId),
      ("reviewer_policy_id", text? unit.reviewerPolicyId),
      ("source_capabilities", texts unit.sourceCapabilities),
      ("unit_id", .string unit.unitId)]

def CoverageRequirement.dump (requirement : CoverageRequirement) : Value :=
  .object
    [("duplicate_policy", .string requirement.duplicatePolicy.text),
      ("kind", .string requirement.kind.text),
      ("min_evidence_items", count requirement.minEvidenceItems),
      ("required", .bool requirement.required),
      ("required_columns", texts requirement.requiredColumns),
      ("requirement_id", .string requirement.requirementId),
      ("row_identity_fields", texts requirement.rowIdentityFields),
      ("row_key_schema", requirement.rowKeySchema.value),
      ("row_keys", texts requirement.rowKeys),
      ("row_order", .string requirement.rowOrder.text),
      ("unit_id", .string requirement.unitId)]

def UnitTaskSpec.dump (task : UnitTaskSpec) : Value :=
  .object
    [("action_key", .string task.actionKey),
      ("allowed_retrievers", texts task.allowedRetrievers),
      ("allowed_sources", texts task.allowedSources),
      ("allowed_tools", texts task.allowedTools),
      ("barrier", text? task.barrier),
      ("budget", task.budget.value),
      ("dependencies", texts task.dependencies),
      ("input_schema", task.inputSchema.value),
      ("max_attempts", count task.maxAttempts),
      ("output_schema", task.outputSchema.value),
      ("plan_version", count task.planVersion),
      ("row_scope", text? task.rowScope),
      ("task_id", .string task.taskId),
      ("timeout_seconds", count task.timeoutSeconds),
      ("unit_id", .string task.unitId)]

def DependencyEdge.dump (edge : DependencyEdge) : Value :=
  .object
    [("downstream_task_id", .string edge.downstreamTaskId),
      ("upstream_task_id", .string edge.upstreamTaskId)]

def PlanIssue.dump (issue : PlanIssue) : Value :=
  .object
    [("blocking", .bool issue.blocking),
      ("code", .string issue.code),
      ("message", .string issue.message),
      ("path", text? issue.path),
      ("severity", .string issue.severity.text)]

def LayoutContract.dump : LayoutContract → Value
  | .templateContract templateVersionId templateSchemaId templateSchemaVersion bindings tableSchemas =>
    .object
      [("bindings", bindings.value),
        ("kind", .string "template"),
        ("table_schemas", tableSchemas.value),
        ("template_schema_id", .string templateSchemaId),
        ("template_schema_version", .string templateSchemaVersion),
        ("template_version_id", .string templateVersionId)]
  | .structureContract structureProfileId structureProfileVersion components =>
    .object
      [("components", texts components),
        ("kind", .string "structure"),
        ("structure_profile_id", .string structureProfileId),
        ("structure_profile_version", .string structureProfileVersion)]

def DocumentPlan.dump (plan : DocumentPlan) : Value :=
  .object
    [("approval_policy", plan.approvalPolicy.value),
      ("coverage_contract", .object [("requirements", .array (plan.coverageContract.map (·.dump)))]),
      ("dependency_edges", .array (plan.dependencyEdges.map (·.dump))),
      ("document_plan_id", .string plan.documentPlanId),
      ("document_review_policy", plan.documentReviewPolicy.value),
      ("domain_strategy_id", .string plan.domainStrategyId),
      ("domain_strategy_version", .string plan.domainStrategyVersion),
      ("issues", .array (plan.issues.map (·.dump))),
      ("layout_adapter_id", .string plan.layoutAdapterId),
      ("layout_adapter_version", .string plan.layoutAdapterVersion),
      ("layout_contract", plan.layoutContract.dump),
      ("output_spec_hash", .string plan.outputSpecHash),
      ("output_spec_id", .string plan.outputSpecId),
      ("output_spec_summary", plan.outputSpecSummary.value),
      ("output_spec_version", count plan.outputSpecVersion),
      ("plan_hash", text? plan.planHash),
      ("render_spec", plan.renderSpec.value),
      ("renderer_capability_id", .string plan.rendererCapabilityId),
      ("renderer_capability_version", .string plan.rendererCapabilityVersion),
      ("required_capabilities", texts plan.requiredCapabilities),
      ("resolved_capabilities", texts plan.resolvedCapabilities),
      ("retrieval_specs", .array (plan.retrievalSpecs.map (·.value))),
      ("semantic_units", .array (plan.semanticUnits.map (·.dump))),
      ("source_snapshot_hash", .string plan.sourceSnapshotHash),
      ("source_snapshot_id", .string plan.sourceSnapshotId),
      ("status", .string plan.status.text),
      ("unit_review_policy", plan.unitReviewPolicy.value),
      ("unit_tasks", .array (plan.unitTasks.map (·.dump))),
      ("version", count plan.version)]

/-- `expected_hash`. -/
def DocumentPlan.contentHash {Digest : Type} (sha256 : Value → Digest) (plan : DocumentPlan) :
    Except Failure Digest :=
  planningContentHash sha256 plan.dump ["plan_hash"]

/-! ### Validators -/

/-- What a `NonEmptyId` is, with the blanks around it stripped. -/
def NonEmptyId (text : String) : Prop :=
  strip text = text ∧ text ≠ "" ∧ text.length ≤ 256

instance (text : String) : Decidable (NonEmptyId text) :=
  inferInstanceAs (Decidable (_ ∧ _ ∧ _))

namespace DocumentPlan

variable (plan : DocumentPlan)

/-- `semantic_ids`. -/
def unitIds : List String :=
  plan.semanticUnits.map (·.unitId)

/-- `task_ids`. -/
def taskIds : List String :=
  plan.unitTasks.map (·.taskId)

/-- `task_units`. -/
def taskUnits : List String :=
  plan.unitTasks.map (·.unitId)

/-- `validate_requirements` and `validate_plan`, with the ids of the units and of the tasks. -/
def validatePlan : Except String Unit := do
  ensure (∀ unitId ∈ plan.unitIds, NonEmptyId unitId) "unit_id"
  ensure (∀ taskId ∈ plan.taskIds, NonEmptyId taskId) "task_id"
  ensure (plan.coverageContract.map fun item => (item.unitId, item.kind)).Nodup
    "coverage requirements must be unique per unit and kind"
  ensure plan.unitIds.Nodup "semantic unit IDs must be unique"
  ensure plan.taskIds.Nodup "unit task IDs must be unique"
  ensure plan.taskUnits.Nodup "each semantic unit may have only one unit task"
  ensure (∀ unitId ∈ plan.taskUnits, unitId ∈ plan.unitIds) "unit tasks reference unknown units"
  ensure (∀ unitId ∈ plan.unitIds, unitId ∈ plan.taskUnits) "semantic units without tasks"
  ensure (∀ task ∈ plan.unitTasks, ∀ dependency ∈ task.dependencies, dependency ∈ plan.taskIds)
    "dependency references unknown task IDs"
  ensure (∀ task ∈ plan.unitTasks, task.planVersion = plan.version)
    "unit task plan_version must match DocumentPlan.version"
  ensure (∀ edge ∈ plan.dependencyEdges, edge.upstreamTaskId ≠ edge.downstreamTaskId)
    "dependency edges may not contain self dependencies"
  ensure (∀ edge ∈ plan.dependencyEdges,
      edge.upstreamTaskId ∈ plan.taskIds ∧ edge.downstreamTaskId ∈ plan.taskIds)
    "dependency edge references an unknown task"

/-- `unresolved_capabilities`, in the order of the plan. -/
def unresolvedCapabilities : List String :=
  plan.requiredCapabilities.filter fun capability => decide (capability ∉ plan.resolvedCapabilities)

/-- `has_blocking_issues`. -/
def hasBlockingIssues : Bool :=
  plan.issues.any (·.blocking)

/-- `is_executable`. -/
def isExecutable : Bool :=
  !plan.hasBlockingIssues && plan.unresolvedCapabilities.isEmpty

end DocumentPlan

/-- A plan that has passed its validators. -/
structure ValidPlan where
  plan : DocumentPlan
  valid : plan.validatePlan = .ok ()

/-! ### What the validators say -/

/-- Units and tasks have ids of their own and belong to each other; dependencies lead to tasks of the plan; a
unit has one requirement of a kind. -/
structure DocumentPlan.WellFormed (plan : DocumentPlan) : Prop where
  unitNames : ∀ unitId ∈ plan.unitIds, NonEmptyId unitId
  coverage : (plan.coverageContract.map fun item => (item.unitId, item.kind)).Nodup
  units : plan.unitIds.Nodup
  tasks : plan.taskIds.Nodup
  taskUnits : plan.taskUnits.Nodup
  known : ∀ unitId ∈ plan.taskUnits, unitId ∈ plan.unitIds
  served : ∀ unitId ∈ plan.unitIds, unitId ∈ plan.taskUnits
  dependencies : ∀ task ∈ plan.unitTasks, ∀ dependency ∈ task.dependencies, dependency ∈ plan.taskIds
  edges : ∀ edge ∈ plan.dependencyEdges,
    edge.upstreamTaskId ∈ plan.taskIds ∧ edge.downstreamTaskId ∈ plan.taskIds

theorem ValidPlan.wellFormed (valid : ValidPlan) : valid.plan.WellFormed := by
  obtain ⟨plan, passed⟩ := valid
  obtain ⟨⟨⟩, unitNames, passed⟩ := exists_of_bind_eq_ok passed
  obtain ⟨⟨⟩, -, passed⟩ := exists_of_bind_eq_ok passed
  obtain ⟨⟨⟩, coverage, passed⟩ := exists_of_bind_eq_ok passed
  obtain ⟨⟨⟩, units, passed⟩ := exists_of_bind_eq_ok passed
  obtain ⟨⟨⟩, tasks, passed⟩ := exists_of_bind_eq_ok passed
  obtain ⟨⟨⟩, taskUnits, passed⟩ := exists_of_bind_eq_ok passed
  obtain ⟨⟨⟩, known, passed⟩ := exists_of_bind_eq_ok passed
  obtain ⟨⟨⟩, served, passed⟩ := exists_of_bind_eq_ok passed
  obtain ⟨⟨⟩, dependencies, passed⟩ := exists_of_bind_eq_ok passed
  obtain ⟨⟨⟩, -, passed⟩ := exists_of_bind_eq_ok passed
  obtain ⟨⟨⟩, -, passed⟩ := exists_of_bind_eq_ok passed
  exact
    { unitNames := ensure_eq_ok unitNames
      coverage := ensure_eq_ok coverage
      units := ensure_eq_ok units
      tasks := ensure_eq_ok tasks
      taskUnits := ensure_eq_ok taskUnits
      known := ensure_eq_ok known
      served := ensure_eq_ok served
      dependencies := ensure_eq_ok dependencies
      edges := ensure_eq_ok passed }

end HardwareDatabase.Replanning
