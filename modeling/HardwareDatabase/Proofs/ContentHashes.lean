/-
Module: HardwareDatabase.Proofs.ContentHashes
Purpose: Two planning values with one content hash have in common what they show outside the entries with the names of
  lifecycle fields.
Trusted boundary: none
-/
import HardwareDatabase.Replanning.Models

namespace HardwareDatabase.Replanning

open Python Value

/-- Two values show the same at every path that avoids the names of the lifecycle fields. -/
def ShowSame (left right : Value) : Prop :=
  ∀ path, Avoids hashExcludedFields path → shown path left = shown path right

/-- The value as it is hashed. -/
abbrev bare (value : Value) : Value :=
  value.without hashExcludedFields

theorem bare_eq_iff {left right : Value} (leftOrdered : left.KeyOrdered) (rightOrdered : right.KeyOrdered) :
    bare left = bare right ↔ ShowSame left right :=
  without_eq_iff leftOrdered rightOrdered

theorem Mapping.bare_eq_iff {left right : Mapping} :
    bare left.value = bare right.value ↔ ShowSame left.value right.value :=
  Replanning.bare_eq_iff left.keyOrdered right.keyOrdered

/-! ### The parts of a dump -/

theorem withoutEntries_cons {keys : List String} {name : String} (kept : name ∉ keys) (value : Value) (rest : Dict) :
    withoutEntries keys ((name, value) :: rest) = (name, value.without keys) :: withoutEntries keys rest :=
  if_neg kept

@[simp] theorem withoutEntries_nil (keys : List String) : withoutEntries keys [] = [] := rfl

@[simp] theorem without_string (keys : List String) (text : String) :
    (Value.string text).without keys = .string text := rfl

@[simp] theorem without_bool (keys : List String) (value : Bool) : (Value.bool value).without keys = .bool value := rfl

@[simp] theorem without_count (keys : List String) (value : Nat) : (count value).without keys = count value := rfl

@[simp] theorem without_text? (keys : List String) (value : Option String) :
    (text? value).without keys = text? value := by
  cases value with
  | none => rfl
  | some => rfl

@[simp] theorem without_texts (keys : List String) (values : List String) :
    (texts values).without keys = texts values := by
  rw [texts, without_array, List.map_map]
  rfl

@[simp] theorem count_inj {left right : Nat} : count left = count right ↔ left = right := by
  rw [count, count, Value.int.injEq, Int.natCast_inj]

@[simp] theorem text?_inj {left right : Option String} : text? left = text? right ↔ left = right := by
  cases left with
  | none =>
    cases right with
    | none => simp
    | some => simp [text?]
  | some =>
    cases right with
    | none => simp [text?]
    | some => simp [text?]

@[simp] theorem texts_inj {left right : List String} : texts left = texts right ↔ left = right := by
  have injective : Function.Injective Value.string := fun _ _ same => Value.string.inj same
  rw [texts, texts, Value.array.injEq]
  exact (List.map_injective_iff.mpr injective).eq_iff

@[simp] theorem UnitKind.text_inj {left right : UnitKind} : left.text = right.text ↔ left = right := by
  cases left <;> cases right <;> simp [UnitKind.text]

@[simp] theorem CoverageKind.text_inj {left right : CoverageKind} : left.text = right.text ↔ left = right := by
  cases left <;> cases right <;> simp [CoverageKind.text]

@[simp] theorem RowOrder.text_inj {left right : RowOrder} : left.text = right.text ↔ left = right := by
  cases left <;> cases right <;> simp [RowOrder.text]

@[simp] theorem DuplicatePolicy.text_inj {left right : DuplicatePolicy} : left.text = right.text ↔ left = right := by
  cases left <;> cases right <;> simp [DuplicatePolicy.text]

@[simp] theorem Severity.text_inj {left right : Severity} : left.text = right.text ↔ left = right := by
  cases left <;> cases right <;> simp [Severity.text]

/-! ### Dumps are in key order -/

@[simp] theorem keyOrdered_string (text : String) : (Value.string text).KeyOrdered := rfl

@[simp] theorem keyOrdered_bool (value : Bool) : (Value.bool value).KeyOrdered := rfl

@[simp] theorem keyOrdered_count (value : Nat) : (count value).KeyOrdered := rfl

@[simp] theorem keyOrdered_text? (value : Option String) : (text? value).KeyOrdered := by
  cases value with
  | none => rfl
  | some => rfl

@[simp] theorem keyOrdered_texts (values : List String) : (texts values).KeyOrdered := by
  rw [texts, keyOrdered_array]
  intro item member
  obtain ⟨text, -, rfl⟩ := List.mem_map.mp member
  exact keyOrdered_string text

@[simp] theorem keyOrdered_mapping (mapping : Mapping) : mapping.value.KeyOrdered :=
  mapping.keyOrdered

theorem keyOrdered_map {α : Type} {dump : α → Value} (each : ∀ item, (dump item).KeyOrdered) (items : List α) :
    (Value.array (items.map dump)).KeyOrdered := by
  rw [keyOrdered_array]
  intro value member
  obtain ⟨item, -, rfl⟩ := List.mem_map.mp member
  exact each item

@[simp] theorem SemanticUnitPlan.keyOrdered_dump (unit : SemanticUnitPlan) : unit.dump.KeyOrdered := by
  refine keyOrdered_object.mpr ⟨Dict.sorted_of_chain ?_, by simp⟩
  repeat refine .cons_cons (Dict.lt_of_chars (by decide)) ?_
  exact .singleton _

@[simp] theorem CoverageRequirement.keyOrdered_dump (item : CoverageRequirement) : item.dump.KeyOrdered := by
  refine keyOrdered_object.mpr ⟨Dict.sorted_of_chain ?_, by simp⟩
  repeat refine .cons_cons (Dict.lt_of_chars (by decide)) ?_
  exact .singleton _

@[simp] theorem UnitTaskSpec.keyOrdered_dump (task : UnitTaskSpec) : task.dump.KeyOrdered := by
  refine keyOrdered_object.mpr ⟨Dict.sorted_of_chain ?_, by simp⟩
  repeat refine .cons_cons (Dict.lt_of_chars (by decide)) ?_
  exact .singleton _

@[simp] theorem DependencyEdge.keyOrdered_dump (edge : DependencyEdge) : edge.dump.KeyOrdered := by
  refine keyOrdered_object.mpr ⟨Dict.sorted_of_chain ?_, by simp⟩
  repeat refine .cons_cons (Dict.lt_of_chars (by decide)) ?_
  exact .singleton _

@[simp] theorem PlanIssue.keyOrdered_dump (issue : PlanIssue) : issue.dump.KeyOrdered := by
  refine keyOrdered_object.mpr ⟨Dict.sorted_of_chain ?_, by simp⟩
  repeat refine .cons_cons (Dict.lt_of_chars (by decide)) ?_
  exact .singleton _

@[simp] theorem LayoutContract.keyOrdered_dump (layout : LayoutContract) : layout.dump.KeyOrdered := by
  cases layout with
  | templateContract =>
    refine keyOrdered_object.mpr ⟨Dict.sorted_of_chain ?_, by simp⟩
    repeat refine .cons_cons (Dict.lt_of_chars (by decide)) ?_
    exact .singleton _
  | structureContract =>
    refine keyOrdered_object.mpr ⟨Dict.sorted_of_chain ?_, by simp⟩
    repeat refine .cons_cons (Dict.lt_of_chars (by decide)) ?_
    exact .singleton _

theorem DocumentPlan.keyOrdered_dump (plan : DocumentPlan) : plan.dump.KeyOrdered := by
  have coverage : (Value.object
      [("requirements", .array (plan.coverageContract.map (·.dump)))]).KeyOrdered := by
    refine keyOrdered_object.mpr ⟨List.pairwise_singleton _ _, ?_⟩
    simp [keyOrdered_map]
  refine keyOrdered_object.mpr ⟨Dict.sorted_of_chain ?_, by simp [keyOrdered_map, coverage]⟩
  repeat refine .cons_cons (Dict.lt_of_chars (by decide)) ?_
  exact .singleton _

/-! ### Units and requirements -/

/-- Two units agree but for what their output schemas hold under the names of lifecycle fields. -/
structure SemanticUnitPlan.SameContent (left right : SemanticUnitPlan) : Prop where
  unitId : left.unitId = right.unitId
  kind : left.kind = right.kind
  required : left.required = right.required
  outputSchema : ShowSame left.outputSchema.value right.outputSchema.value
  sourceCapabilities : left.sourceCapabilities = right.sourceCapabilities
  reviewerId : left.reviewerId = right.reviewerId
  reviewerPolicyId : left.reviewerPolicyId = right.reviewerPolicyId

theorem SemanticUnitPlan.bare_eq_iff {left right : SemanticUnitPlan} :
    bare left.dump = bare right.dump ↔ left.SameContent right := by
  simp (disch := decide) only [SemanticUnitPlan.dump, without_object, withoutEntries_cons, withoutEntries_nil,
    without_string, without_bool, without_text?, without_texts, Mapping.bare_eq_iff, Value.object.injEq,
    List.cons.injEq, Prod.mk.injEq, Value.string.injEq, Value.bool.injEq, text?_inj, texts_inj,
    UnitKind.text_inj, true_and, and_true]
  constructor
  · rintro ⟨kind, outputSchema, required, reviewerId, reviewerPolicyId, sourceCapabilities, unitId⟩
    exact { unitId, kind, required, outputSchema, sourceCapabilities, reviewerId, reviewerPolicyId }
  · intro same
    exact ⟨same.kind, same.outputSchema, same.required, same.reviewerId, same.reviewerPolicyId,
      same.sourceCapabilities, same.unitId⟩

/-- Two requirements agree but for what their key schemas hold under the names of lifecycle fields. -/
structure CoverageRequirement.SameContent (left right : CoverageRequirement) : Prop where
  requirementId : left.requirementId = right.requirementId
  unitId : left.unitId = right.unitId
  kind : left.kind = right.kind
  required : left.required = right.required
  rowKeys : left.rowKeys = right.rowKeys
  requiredColumns : left.requiredColumns = right.requiredColumns
  rowIdentityFields : left.rowIdentityFields = right.rowIdentityFields
  rowKeySchema : ShowSame left.rowKeySchema.value right.rowKeySchema.value
  rowOrder : left.rowOrder = right.rowOrder
  duplicatePolicy : left.duplicatePolicy = right.duplicatePolicy
  minEvidenceItems : left.minEvidenceItems = right.minEvidenceItems

theorem CoverageRequirement.bare_eq_iff {left right : CoverageRequirement} :
    bare left.dump = bare right.dump ↔ left.SameContent right := by
  simp (disch := decide) only [CoverageRequirement.dump, without_object, withoutEntries_cons, withoutEntries_nil,
    without_string, without_bool, without_count, without_texts, Mapping.bare_eq_iff, Value.object.injEq,
    List.cons.injEq, Prod.mk.injEq, Value.string.injEq, Value.bool.injEq, count_inj, texts_inj,
    CoverageKind.text_inj, RowOrder.text_inj, DuplicatePolicy.text_inj, true_and, and_true]
  constructor
  · rintro ⟨duplicatePolicy, kind, minEvidenceItems, required, requiredColumns, requirementId, rowIdentityFields,
      rowKeySchema, rowKeys, rowOrder, unitId⟩
    exact
      { requirementId, unitId, kind, required, rowKeys, requiredColumns, rowIdentityFields, rowKeySchema
        rowOrder, duplicatePolicy, minEvidenceItems }
  · intro same
    exact ⟨same.duplicatePolicy, same.kind, same.minEvidenceItems, same.required, same.requiredColumns,
      same.requirementId, same.rowIdentityFields, same.rowKeySchema, same.rowKeys, same.rowOrder, same.unitId⟩

/-! ### Plans -/

/-- Two tasks agree but for what their mappings hold under the names of lifecycle fields. -/
structure UnitTaskSpec.SameContent (left right : UnitTaskSpec) : Prop where
  taskId : left.taskId = right.taskId
  unitId : left.unitId = right.unitId
  planVersion : left.planVersion = right.planVersion
  dependencies : left.dependencies = right.dependencies
  barrier : left.barrier = right.barrier
  inputSchema : ShowSame left.inputSchema.value right.inputSchema.value
  outputSchema : ShowSame left.outputSchema.value right.outputSchema.value
  rowScope : left.rowScope = right.rowScope
  allowedSources : left.allowedSources = right.allowedSources
  allowedRetrievers : left.allowedRetrievers = right.allowedRetrievers
  allowedTools : left.allowedTools = right.allowedTools
  budget : ShowSame left.budget.value right.budget.value
  maxAttempts : left.maxAttempts = right.maxAttempts
  timeoutSeconds : left.timeoutSeconds = right.timeoutSeconds
  actionKey : left.actionKey = right.actionKey

theorem UnitTaskSpec.bare_eq_iff {left right : UnitTaskSpec} :
    bare left.dump = bare right.dump ↔ left.SameContent right := by
  simp (disch := decide) only [UnitTaskSpec.dump, without_object, withoutEntries_cons, withoutEntries_nil,
    without_string, without_count, without_texts, without_text?, Mapping.bare_eq_iff, Value.object.injEq,
    List.cons.injEq, Prod.mk.injEq, Value.string.injEq, count_inj, texts_inj, text?_inj, true_and, and_true]
  constructor
  · rintro ⟨actionKey, allowedRetrievers, allowedSources, allowedTools, barrier, budget, dependencies, inputSchema,
      maxAttempts, outputSchema, planVersion, rowScope, taskId, timeoutSeconds, unitId⟩
    exact
      { taskId, unitId, planVersion, dependencies, barrier, inputSchema, outputSchema, rowScope, allowedSources
        allowedRetrievers, allowedTools, budget, maxAttempts, timeoutSeconds, actionKey }
  · intro same
    exact ⟨same.actionKey, same.allowedRetrievers, same.allowedSources, same.allowedTools, same.barrier,
      same.budget, same.dependencies, same.inputSchema, same.maxAttempts, same.outputSchema, same.planVersion,
      same.rowScope, same.taskId, same.timeoutSeconds, same.unitId⟩

theorem DependencyEdge.bare_eq_iff {left right : DependencyEdge} : bare left.dump = bare right.dump ↔ left = right := by
  obtain ⟨upstream, downstream⟩ := left
  obtain ⟨otherUpstream, otherDownstream⟩ := right
  simp (disch := decide) only [DependencyEdge.dump, without_object, withoutEntries_cons, withoutEntries_nil,
    without_string, Value.object.injEq, List.cons.injEq, Prod.mk.injEq, Value.string.injEq, true_and, and_true,
    DependencyEdge.mk.injEq]
  exact and_comm

theorem PlanIssue.bare_eq_iff {left right : PlanIssue} : bare left.dump = bare right.dump ↔ left = right := by
  obtain ⟨code, severity, message, path, blocking⟩ := left
  obtain ⟨otherCode, otherSeverity, otherMessage, otherPath, otherBlocking⟩ := right
  simp (disch := decide) only [PlanIssue.dump, without_object, withoutEntries_cons, withoutEntries_nil,
    without_string, without_bool, without_text?, Value.object.injEq, List.cons.injEq, Prod.mk.injEq,
    Value.string.injEq, Value.bool.injEq, text?_inj, Severity.text_inj, true_and, and_true, PlanIssue.mk.injEq]
  constructor
  · rintro ⟨blocking, code, message, path, severity⟩
    exact ⟨code, severity, message, path, blocking⟩
  · rintro ⟨code, severity, message, path, blocking⟩
    exact ⟨blocking, code, message, path, severity⟩

/-- Two layout contracts agree but for what their mappings hold under the names of lifecycle fields. -/
def LayoutContract.SameContent : LayoutContract → LayoutContract → Prop
  | .templateContract version schema schemaVersion bindings tables,
      .templateContract otherVersion otherSchema otherSchemaVersion otherBindings otherTables =>
      version = otherVersion ∧ schema = otherSchema ∧ schemaVersion = otherSchemaVersion ∧
        ShowSame bindings.value otherBindings.value ∧ ShowSame tables.value otherTables.value
  | .structureContract profile version components, .structureContract otherProfile otherVersion otherComponents =>
    profile = otherProfile ∧ version = otherVersion ∧ components = otherComponents
  | _, _ => False

theorem LayoutContract.bare_eq_iff {left right : LayoutContract} :
    bare left.dump = bare right.dump ↔ left.SameContent right := by
  cases left with
  | templateContract version schema schemaVersion bindings tables =>
    cases right with
    | templateContract =>
      simp (disch := decide) only [LayoutContract.dump, LayoutContract.SameContent, without_object,
        withoutEntries_cons, withoutEntries_nil, without_string, Mapping.bare_eq_iff, Value.object.injEq,
        List.cons.injEq, Prod.mk.injEq, Value.string.injEq, true_and, and_true]
      constructor
      · rintro ⟨bindings, tables, schema, schemaVersion, version⟩
        exact ⟨version, schema, schemaVersion, bindings, tables⟩
      · rintro ⟨version, schema, schemaVersion, bindings, tables⟩
        exact ⟨bindings, tables, schema, schemaVersion, version⟩
    | structureContract =>
      simp (disch := decide) [LayoutContract.dump, LayoutContract.SameContent, withoutEntries_cons]
  | structureContract profile version components =>
    cases right with
    | templateContract =>
      simp (disch := decide) [LayoutContract.dump, LayoutContract.SameContent, withoutEntries_cons]
    | structureContract =>
      simp (disch := decide) only [LayoutContract.dump, LayoutContract.SameContent, without_object,
        withoutEntries_cons, withoutEntries_nil, without_string, without_texts, Value.object.injEq,
        List.cons.injEq, Prod.mk.injEq, Value.string.injEq, texts_inj, true_and, and_true]
      constructor
      · rintro ⟨components, profile, version⟩
        exact ⟨profile, version, components⟩
      · rintro ⟨profile, version, components⟩
        exact ⟨components, profile, version⟩

theorem bareItems_eq_iff {α : Type} {dump : α → Value} {related : α → α → Prop}
    (each : ∀ {left right : α}, bare (dump left) = bare (dump right) ↔ related left right) {lefts rights : List α} :
    (lefts.map dump).map bare = (rights.map dump).map bare ↔ List.Forall₂ related lefts rights := by
  rw [List.map_map, List.map_map, ← List.forall₂_eq_eq_eq, List.forall₂_map_left_iff, List.forall₂_map_right_iff]
  constructor
  · exact List.Forall₂.imp fun _ _ => each.mp
  · exact List.Forall₂.imp fun _ _ => each.mpr

/-- Two plans agree but for their status, their hash and what their mappings hold under the names of lifecycle
fields. -/
structure DocumentPlan.SameContent (left right : DocumentPlan) : Prop where
  documentPlanId : left.documentPlanId = right.documentPlanId
  version : left.version = right.version
  outputSpecId : left.outputSpecId = right.outputSpecId
  outputSpecVersion : left.outputSpecVersion = right.outputSpecVersion
  outputSpecHash : left.outputSpecHash = right.outputSpecHash
  outputSpecSummary : ShowSame left.outputSpecSummary.value right.outputSpecSummary.value
  sourceSnapshotId : left.sourceSnapshotId = right.sourceSnapshotId
  sourceSnapshotHash : left.sourceSnapshotHash = right.sourceSnapshotHash
  domainStrategyId : left.domainStrategyId = right.domainStrategyId
  domainStrategyVersion : left.domainStrategyVersion = right.domainStrategyVersion
  layoutAdapterId : left.layoutAdapterId = right.layoutAdapterId
  layoutAdapterVersion : left.layoutAdapterVersion = right.layoutAdapterVersion
  rendererCapabilityId : left.rendererCapabilityId = right.rendererCapabilityId
  rendererCapabilityVersion : left.rendererCapabilityVersion = right.rendererCapabilityVersion
  layoutContract : left.layoutContract.SameContent right.layoutContract
  semanticUnits : List.Forall₂ SemanticUnitPlan.SameContent left.semanticUnits right.semanticUnits
  dependencyEdges : left.dependencyEdges = right.dependencyEdges
  coverageContract : List.Forall₂ CoverageRequirement.SameContent left.coverageContract right.coverageContract
  unitTasks : List.Forall₂ UnitTaskSpec.SameContent left.unitTasks right.unitTasks
  requiredCapabilities : left.requiredCapabilities = right.requiredCapabilities
  resolvedCapabilities : left.resolvedCapabilities = right.resolvedCapabilities
  issues : left.issues = right.issues
  retrievalSpecs : List.Forall₂ (fun left right => ShowSame left.value right.value)
    left.retrievalSpecs right.retrievalSpecs
  unitReviewPolicy : ShowSame left.unitReviewPolicy.value right.unitReviewPolicy.value
  documentReviewPolicy : ShowSame left.documentReviewPolicy.value right.documentReviewPolicy.value
  renderSpec : ShowSame left.renderSpec.value right.renderSpec.value
  approvalPolicy : ShowSame left.approvalPolicy.value right.approvalPolicy.value

theorem withoutEntries_excluded {keys : List String} {name : String} (left : name ∈ keys) (value : Value)
    (rest : Dict) : withoutEntries keys ((name, value) :: rest) = withoutEntries keys rest :=
  if_pos left

theorem DocumentPlan.bare_eq_iff {left right : DocumentPlan} :
    bare left.dump = bare right.dump ↔ left.SameContent right := by
  simp (disch := decide) only [DocumentPlan.dump, bare, without_object, without_array, withoutEntries_cons,
    withoutEntries_excluded, withoutEntries_nil, without_string, without_count, without_texts, Value.object.injEq,
    Value.array.injEq, List.cons.injEq, Prod.mk.injEq, Value.string.injEq, count_inj, texts_inj, true_and, and_true]
  rw [Mapping.bare_eq_iff, Mapping.bare_eq_iff, Mapping.bare_eq_iff, Mapping.bare_eq_iff, Mapping.bare_eq_iff,
    LayoutContract.bare_eq_iff, bareItems_eq_iff CoverageRequirement.bare_eq_iff,
    bareItems_eq_iff DependencyEdge.bare_eq_iff, bareItems_eq_iff PlanIssue.bare_eq_iff,
    bareItems_eq_iff Mapping.bare_eq_iff, bareItems_eq_iff SemanticUnitPlan.bare_eq_iff,
    bareItems_eq_iff UnitTaskSpec.bare_eq_iff, List.forall₂_eq_eq_eq, List.forall₂_eq_eq_eq]
  constructor
  · rintro ⟨approvalPolicy, coverageContract, dependencyEdges, documentPlanId, documentReviewPolicy,
      domainStrategyId, domainStrategyVersion, issues, layoutAdapterId, layoutAdapterVersion, layoutContract,
      outputSpecHash, outputSpecId, outputSpecSummary, outputSpecVersion, renderSpec, rendererCapabilityId,
      rendererCapabilityVersion, requiredCapabilities, resolvedCapabilities, retrievalSpecs, semanticUnits,
      sourceSnapshotHash, sourceSnapshotId, unitReviewPolicy, unitTasks, version⟩
    exact
      { documentPlanId, version, outputSpecId, outputSpecVersion, outputSpecHash, outputSpecSummary
        sourceSnapshotId, sourceSnapshotHash, domainStrategyId, domainStrategyVersion, layoutAdapterId
        layoutAdapterVersion, rendererCapabilityId, rendererCapabilityVersion, layoutContract, semanticUnits
        dependencyEdges, coverageContract, unitTasks, requiredCapabilities, resolvedCapabilities, issues
        retrievalSpecs, unitReviewPolicy, documentReviewPolicy, renderSpec, approvalPolicy }
  · intro same
    exact ⟨same.approvalPolicy, same.coverageContract, same.dependencyEdges, same.documentPlanId,
      same.documentReviewPolicy, same.domainStrategyId, same.domainStrategyVersion, same.issues,
      same.layoutAdapterId, same.layoutAdapterVersion, same.layoutContract, same.outputSpecHash,
      same.outputSpecId, same.outputSpecSummary, same.outputSpecVersion, same.renderSpec,
      same.rendererCapabilityId, same.rendererCapabilityVersion, same.requiredCapabilities,
      same.resolvedCapabilities, same.retrievalSpecs, same.semanticUnits, same.sourceSnapshotHash,
      same.sourceSnapshotId, same.unitReviewPolicy, same.unitTasks, same.version⟩

/-! ### Hashes

Under a collision-free digest two plans have one hash if and only if they agree but for the names left out. -/

theorem mem_excluded_plan (name : String) : name ∈ hashExcludedFields ++ ["plan_hash"] ↔ name ∈ hashExcludedFields := by
  simp only [hashExcludedFields, List.mem_append, List.mem_cons, List.not_mem_nil, or_false]
  tauto

section Hashes

variable {Digest : Type} {sha256 : Value → Digest}

/-- Where SHA-256 over canonical JSON is injective, two values have the same content hash exactly if they show the
same at every path that avoids the names of the lifecycle fields and the names that the caller excludes; two plans,
exactly if they agree but for their status, their hash and what stands under those names. -/
theorem content_hash_shows_the_rest (collisionFree : CollisionFree sha256) :
    (∀ (exclude : List String) (left right : Value) (first second : Digest), left.KeyOrdered → right.KeyOrdered →
        planningContentHash sha256 left exclude = .ok first → planningContentHash sha256 right exclude = .ok second →
        (first = second ↔ ∀ path, Avoids (hashExcludedFields ++ exclude) path → shown path left = shown path right)) ∧
      ∀ (left right : DocumentPlan) (first second : Digest), left.contentHash sha256 = .ok first →
        right.contentHash sha256 = .ok second → (first = second ↔ left.SameContent right) := by
  constructor
  · intro exclude left right first second leftOrdered rightOrdered leftHash rightHash
    rw [planningContentHash_eq_iff collisionFree leftOrdered rightOrdered leftHash rightHash]
    exact without_eq_iff leftOrdered rightOrdered
  · intro left right first second leftHash rightHash
    have excluded := without_congr mem_excluded_plan
    rw [planningContentHash_eq_iff collisionFree left.keyOrdered_dump right.keyOrdered_dump leftHash rightHash,
      excluded, excluded]
    exact DocumentPlan.bare_eq_iff

/-- A mapping with a column more has another hash. -/
theorem added_column_is_hashed : planningContentHash id (.object [("columns", .array [.string "net"])]) ≠
      planningContentHash id (.object [("columns", .array [.string "net", .string "pin"])]) := by
  intro same
  have shows := (@content_hash_shows_the_rest _ id fun _ _ _ _ same => same).1 []
    (.object [("columns", .array [.string "net"])]) (.object [("columns", .array [.string "net", .string "pin"])])
    _ _ (by decide +kernel) (by decide +kernel) rfl rfl
  have hashes := Except.ok.inj same
  have found := (shows.mp hashes) [.key "columns", .item 1] (by simp [hashExcludedFields])
  cases found

end Hashes

/-- A unit whose rows have a status that must be open. -/
def openUnit : SemanticUnitPlan where
  unitId := "findings"
  kind := .table
  outputSchema := ⟨[("properties", .object [("status", .object [("const", .string "open")])])], by decide +kernel⟩

/-- The unit whose rows have a status that must be closed. -/
def closedUnit : SemanticUnitPlan where
  unitId := "findings"
  kind := .table
  outputSchema := ⟨[("properties", .object [("status", .object [("const", .string "closed")])])], by decide +kernel⟩

/-- Output schemas that say something else about a property named `status`, and the units that have them, are hashed
alike. -/
theorem nested_status_is_not_hashed : openUnit.outputSchema.value ≠ closedUnit.outputSchema.value ∧
      ∀ (Digest : Type) (sha256 : Value → Digest),
        (∃ hash, planningContentHash sha256 openUnit.outputSchema.value = .ok hash ∧
          planningContentHash sha256 closedUnit.outputSchema.value = .ok hash) ∧
        ∃ hash, planningContentHash sha256 openUnit.dump = .ok hash ∧
          planningContentHash sha256 closedUnit.dump = .ok hash := by
  refine ⟨?_, fun Digest sha256 => ⟨⟨_, rfl, rfl⟩, ⟨_, rfl, rfl⟩⟩⟩
  intro same
  have status := congrArg (shown [.key "properties", .key "status", .key "const"]) same
  have texts : some (Value.string "open") = some (Value.string "closed") := status
  simp at texts

end HardwareDatabase.Replanning
