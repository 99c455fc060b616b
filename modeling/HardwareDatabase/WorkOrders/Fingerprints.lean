/-
Module: HardwareDatabase.WorkOrders.Fingerprints
Purpose: The input fingerprint of a work order (`src/src/document_authoring/models.py`). `content_hash` is a
  parameter. The field `input_fingerprint` is kept apart: every preimage leaves it out.
Trusted boundary: none
-/
import HardwareDatabase.Planning.TaskGraph
import HardwareDatabase.Replanning.Models
import HardwareDatabase.WorkOrders.Store

namespace HardwareDatabase.WorkOrders

open Planning (ensure)
open Python
open Replanning (Mapping texts)

/-! ### Fields -/

inductive TargetFormat
  | xlsm
  | xlsx
  | markdown
  | docx
  | pdf
deriving Repr, DecidableEq

inductive ExecutionMode
  | internalHarness
  | deterministicOnly
  | externalAgent
deriving Repr, DecidableEq

/-- The fields of a work order, in the order of the class. -/
inductive Field
  | workOrderId | tenantId | scopeType | knowledgeBaseName | resourceDepartmentId | knowledgeBaseId | projectId
  | baselineId | baselineContentHash | sourceSetSnapshotId | sourceScopeSnapshot | attachmentRefsSnapshot
  | kbScopeSnapshot | templateVersionId | documentSchemaId | documentSchemaVersion | templateSchemaId
  | templateSchemaVersion | retrievalPolicyVersion | rendererPolicyVersion | targetFormat | executionMode
  | harnessPolicyId | harnessPolicyVersion | unitStatuses | status | taskId | revisionId | generationSessionId
  | generationBrief | outputSpecId | outputSpecVersion | outputSpecHash | documentPlanId | documentPlanVersion
  | documentPlanHash | restartOfWorkOrderId | requestedExecutor | inputFingerprintVersion | errorCode
  | errorMessage | retryable | nextActions | projectSnapshotVersion | evidenceMatrixId | validationReportId
  | createdBy | createdAt | updatedAt | idempotencyKey | runManifestId | lockVersion
deriving Repr, DecidableEq

namespace Field

/-- The fields in the order of their names, in which a dictionary is hashed. -/
def all : List Field :=
  [.attachmentRefsSnapshot, .baselineContentHash, .baselineId, .createdAt, .createdBy, .documentPlanHash,
   .documentPlanId, .documentPlanVersion, .documentSchemaId, .documentSchemaVersion, .errorCode, .errorMessage,
   .evidenceMatrixId, .executionMode, .generationBrief, .generationSessionId, .harnessPolicyId,
   .harnessPolicyVersion, .idempotencyKey, .inputFingerprintVersion, .kbScopeSnapshot, .knowledgeBaseId,
   .knowledgeBaseName, .lockVersion, .nextActions, .outputSpecHash, .outputSpecId, .outputSpecVersion,
   .projectId, .projectSnapshotVersion, .rendererPolicyVersion, .requestedExecutor, .resourceDepartmentId,
   .restartOfWorkOrderId, .retrievalPolicyVersion, .retryable, .revisionId, .runManifestId, .scopeType,
   .sourceScopeSnapshot, .sourceSetSnapshotId, .status, .targetFormat, .taskId, .templateSchemaId,
   .templateSchemaVersion, .templateVersionId, .tenantId, .unitStatuses, .updatedAt, .validationReportId,
   .workOrderId]

def name : Field → String
  | .workOrderId => "work_order_id"
  | .tenantId => "tenant_id"
  | .scopeType => "scope_type"
  | .knowledgeBaseName => "knowledge_base_name"
  | .resourceDepartmentId => "resource_department_id"
  | .knowledgeBaseId => "knowledge_base_id"
  | .projectId => "project_id"
  | .baselineId => "baseline_id"
  | .baselineContentHash => "baseline_content_hash"
  | .sourceSetSnapshotId => "source_set_snapshot_id"
  | .sourceScopeSnapshot => "source_scope_snapshot"
  | .attachmentRefsSnapshot => "attachment_refs_snapshot"
  | .kbScopeSnapshot => "kb_scope_snapshot"
  | .templateVersionId => "template_version_id"
  | .documentSchemaId => "document_schema_id"
  | .documentSchemaVersion => "document_schema_version"
  | .templateSchemaId => "template_schema_id"
  | .templateSchemaVersion => "template_schema_version"
  | .retrievalPolicyVersion => "retrieval_policy_version"
  | .rendererPolicyVersion => "renderer_policy_version"
  | .targetFormat => "target_format"
  | .executionMode => "execution_mode"
  | .harnessPolicyId => "harness_policy_id"
  | .harnessPolicyVersion => "harness_policy_version"
  | .unitStatuses => "unit_statuses"
  | .status => "status"
  | .taskId => "task_id"
  | .revisionId => "revision_id"
  | .generationSessionId => "generation_session_id"
  | .generationBrief => "generation_brief"
  | .outputSpecId => "output_spec_id"
  | .outputSpecVersion => "output_spec_version"
  | .outputSpecHash => "output_spec_hash"
  | .documentPlanId => "document_plan_id"
  | .documentPlanVersion => "document_plan_version"
  | .documentPlanHash => "document_plan_hash"
  | .restartOfWorkOrderId => "restart_of_work_order_id"
  | .requestedExecutor => "requested_executor"
  | .inputFingerprintVersion => "input_fingerprint_version"
  | .errorCode => "error_code"
  | .errorMessage => "error_message"
  | .retryable => "retryable"
  | .nextActions => "next_actions"
  | .projectSnapshotVersion => "project_snapshot_version"
  | .evidenceMatrixId => "evidence_matrix_id"
  | .validationReportId => "validation_report_id"
  | .createdBy => "created_by"
  | .createdAt => "created_at"
  | .updatedAt => "updated_at"
  | .idempotencyKey => "idempotency_key"
  | .runManifestId => "run_manifest_id"
  | .lockVersion => "lock_version"

end Field

/-- The type that a field is declared with; an instant is its text. -/
inductive Kind
  | text | optionalText | integer | optionalPositive | optionalBool | texts | mapping | textMapping | mappings
  | scopeType | targetFormat | executionMode | optionalMode | status
deriving Repr, DecidableEq

/-- The values of a type. -/
@[reducible] def Kind.Content : Kind → Type
  | .text => String
  | .optionalText => Option String
  | .integer => Int
  | .optionalPositive => Option {version : Nat // 1 ≤ version}
  | .optionalBool => Option Bool
  | .texts => List String
  | .mapping => Mapping
  | .textMapping => {mapping : Mapping // ∀ entry ∈ mapping.entries, ∃ text, entry.2 = .string text}
  | .mappings => List Mapping
  | .scopeType => ScopeType
  | .targetFormat => TargetFormat
  | .executionMode => ExecutionMode
  | .optionalMode => Option ExecutionMode
  | .status => OrderStatus

namespace Field

@[reducible] def kind : Field → Kind
  | .scopeType => .scopeType
  | .knowledgeBaseName | .resourceDepartmentId | .knowledgeBaseId | .projectId | .baselineId | .harnessPolicyId
  | .harnessPolicyVersion | .taskId | .revisionId | .generationSessionId | .outputSpecId | .outputSpecHash
  | .documentPlanId | .documentPlanHash | .restartOfWorkOrderId | .errorCode | .errorMessage
  | .projectSnapshotVersion | .evidenceMatrixId | .validationReportId | .idempotencyKey | .runManifestId =>
    .optionalText
  | .attachmentRefsSnapshot => .mappings
  | .kbScopeSnapshot | .generationBrief => .mapping
  | .unitStatuses => .textMapping
  | .targetFormat => .targetFormat
  | .executionMode => .executionMode
  | .status => .status
  | .outputSpecVersion | .documentPlanVersion => .optionalPositive
  | .requestedExecutor => .optionalMode
  | .inputFingerprintVersion | .lockVersion => .integer
  | .retryable => .optionalBool
  | .nextActions => .texts
  | _ => .text

/-- The default of a field that has one. -/
def default (now : String) : (field : Field) → Option field.kind.Content
  | .tenantId => some "default"
  | .scopeType => some .project
  | .knowledgeBaseName | .resourceDepartmentId | .knowledgeBaseId | .harnessPolicyId | .harnessPolicyVersion
  | .taskId | .revisionId | .generationSessionId | .outputSpecId | .outputSpecVersion | .outputSpecHash
  | .documentPlanId | .documentPlanVersion | .documentPlanHash | .restartOfWorkOrderId | .requestedExecutor
  | .errorCode | .errorMessage | .retryable | .projectSnapshotVersion | .evidenceMatrixId | .validationReportId
  | .idempotencyKey | .runManifestId => some none
  | .sourceScopeSnapshot => some ""
  | .attachmentRefsSnapshot | .nextActions => some []
  | .kbScopeSnapshot | .generationBrief => some .empty
  | .unitStatuses => some ⟨.empty, by simp [Mapping.empty]⟩
  | .status => some .planned
  | .inputFingerprintVersion => some 1
  | .createdAt | .updatedAt => some now
  | .lockVersion => some 0
  | _ => none

theorem mem_all (field : Field) : field ∈ all := by
  cases field <;> decide

end Field

/-! ### The JSON of a field -/

def ScopeType.text : ScopeType → String
  | .project => "project"
  | .knowledgeBase => "knowledge_base"

def TargetFormat.text : TargetFormat → String
  | .xlsm => "xlsm"
  | .xlsx => "xlsx"
  | .markdown => "markdown"
  | .docx => "docx"
  | .pdf => "pdf"

def ExecutionMode.text : ExecutionMode → String
  | .internalHarness => "internal_harness"
  | .deterministicOnly => "deterministic_only"
  | .externalAgent => "external_agent"

def OrderStatus.text : OrderStatus → String
  | .planned => "planned"
  | .retrieving => "retrieving"
  | .readyToDraft => "ready_to_draft"
  | .drafting => "drafting"
  | .waitingHumanInput => "waiting_human_input"
  | .validating => "validating"
  | .waitingHumanApproval => "waiting_human_approval"
  | .readyToRender => "ready_to_render"
  | .rendering => "rendering"
  | .blocked => "blocked"
  | .paused => "paused"
  | .complete => "complete"
  | .failed => "failed"
  | .cancelled => "cancelled"

/-- `None` is written as `null`. -/
def nullable {α : Type} (write : α → Value) : Option α → Value
  | none => .null
  | some value => write value

/-- What `model_dump(mode="json")` writes for a field. -/
def Kind.json : (kind : Kind) → kind.Content → Value
  | .text, value => .string value
  | .optionalText, value => nullable .string value
  | .integer, value => .int value
  | .optionalPositive, value => nullable (fun version => .int version.val) value
  | .optionalBool, value => nullable .bool value
  | .texts, values => Replanning.texts values
  | .mapping, value => value.value
  | .textMapping, value => value.val.value
  | .mappings, values => .array (values.map (·.value))
  | .scopeType, value => .string value.text
  | .targetFormat, value => .string value.text
  | .executionMode, value => .string value.text
  | .optionalMode, value => nullable (fun mode => .string mode.text) value
  | .status, value => .string value.text

/-! ### Work orders -/

/-- A `DocumentWorkOrder`, with the content of each field; the empty `input_fingerprint` is `none`. -/
structure DocumentWorkOrder (Digest : Type) where
  value : (field : Field) → field.kind.Content
  inputFingerprint : Option Digest

/-- What a work order is built from; a field that is not given takes its default. -/
structure GivenFields (Digest : Type) where
  value : (field : Field) → Option field.kind.Content
  inputFingerprint : Option Digest

/-- Why no work order is built: fields that are required, or the error of the validator. -/
inductive Rejection
  | required (fields : List Field)
  | invalid (message : String)
deriving Repr, DecidableEq

/-- `text or ""` has characters. -/
def given (text : Option String) : Bool :=
  text.getD "" != ""

namespace DocumentWorkOrder

variable {Digest : Type}

def scope (order : DocumentWorkOrder Digest) : ScopeType :=
  order.value .scopeType

def version (order : DocumentWorkOrder Digest) : Int :=
  order.value .inputFingerprintVersion

/-- The JSON of a field. -/
def json (order : DocumentWorkOrder Digest) (field : Field) : Value :=
  field.kind.json (order.value field)

/-- `model_dump()`. -/
def dump (order : DocumentWorkOrder Digest) : GivenFields Digest :=
  ⟨fun field => some (order.value field), order.inputFingerprint⟩

end DocumentWorkOrder

section Fingerprint

variable {Digest : Type} [DecidableEq Digest] (contentHash : Value → Digest) (order : DocumentWorkOrder Digest)

/-! ### What is left out of a preimage -/

/-- The fields that the validator leaves out of every preimage, unless the version takes them back. -/
def alwaysExcluded : List Field :=
  [.createdAt, .updatedAt, .lockVersion, .status, .unitStatuses, .evidenceMatrixId, .validationReportId,
   .runManifestId, .errorCode, .errorMessage, .retryable, .nextActions, .requestedExecutor,
   .inputFingerprintVersion, .revisionId, .outputSpecId, .outputSpecVersion, .outputSpecHash, .documentPlanId,
   .documentPlanVersion, .documentPlanHash]

/-- The fields that are left out while they say nothing; the source writes this out three times. -/
def unsaidFields : List Field :=
  (if order.scope = .project then [.scopeType, .knowledgeBaseName] else []) ++
  (if (order.value .generationSessionId : Option String) = none ∧ order.value .generationBrief = .empty then
    [.generationSessionId, .generationBrief] else []) ++
  (if (order.value .restartOfWorkOrderId : Option String) = none then [.restartOfWorkOrderId] else []) ++
  (if (order.value .sourceScopeSnapshot : String) = "" then [.sourceScopeSnapshot] else []) ++
  (if (order.value .attachmentRefsSnapshot : List Mapping) = [] then [.attachmentRefsSnapshot] else []) ++
  (if (order.value .kbScopeSnapshot : Mapping) = .empty then [.kbScopeSnapshot] else [])

/-- `excluded.difference_update(fields)`. -/
def discard (excluded fields : List Field) : List Field :=
  excluded.filter (· ∉ fields)

def planningReferences : List Field :=
  [.outputSpecId, .outputSpecVersion, .outputSpecHash, .documentPlanId, .documentPlanVersion, .documentPlanHash]

/-- `excluded` in the validator. -/
def excludedFields : List Field :=
  let excluded := alwaysExcluded ++ unsaidFields order
  if 3 ≤ order.version then discard excluded (.requestedExecutor :: planningReferences)
  else if 2 ≤ order.version then discard excluded [.requestedExecutor]
  else excluded

/-- `compatibility_excluded`. -/
def compatibilityExcluded : List Field :=
  let excluded := discard (excludedFields order) [.sourceScopeSnapshot, .attachmentRefsSnapshot, .kbScopeSnapshot]
  if 2 ≤ order.version then discard excluded [.requestedExecutor] else excluded

/-! ### Preimages -/

/-- `model_dump(mode="json", exclude=excluded)`. -/
def modelDump (excluded : List Field) : List (Field × Value) :=
  (Field.all.filter (· ∉ excluded)).map fun field => (field, order.json field)

/-- `if "task_id" in payload: payload["task_id"] = None`. -/
def clearTask (payload : List (Field × Value)) : List (Field × Value) :=
  payload.map fun entry => if entry.1 = .taskId then (entry.1, .null) else entry

def object (payload : List (Field × Value)) : Value :=
  .object (payload.map fun entry => (entry.1.name, entry.2))

def tagged (version : Int) (payload : List (Field × Value)) : Value :=
  .object [("frozen_inputs", object payload), ("input_fingerprint_version", .int version)]

/-- The value that is hashed for a payload. -/
def preimage (version : Int) (payload : List (Field × Value)) : Value :=
  if 3 ≤ version then tagged 3 payload else if 2 ≤ version then tagged 2 payload else object payload

def strictPreimage : Value :=
  preimage order.version (clearTask (modelDump order (excludedFields order)))

def compatibilityPreimage : Value :=
  preimage order.version (modelDump order (compatibilityExcluded order))

def legacyCompatibilityPreimage : Value :=
  preimage order.version (modelDump order (compatibilityExcluded order ++ [.taskId]))

def strictLegacyPreimage : Value :=
  preimage order.version (modelDump order (excludedFields order ++ [.taskId]))

/-! ### The validator -/

/-- The accepted plan that a fingerprint of the third version binds. -/
def hasPlanningReferences : Bool :=
  given (order.value .outputSpecId) && (order.value .outputSpecVersion).isSome &&
    given (order.value .outputSpecHash) && given (order.value .documentPlanId) &&
    (order.value .documentPlanVersion).isSome && given (order.value .documentPlanHash)

def checkScope : Except String Unit :=
  match order.scope with
  | .project => do
    ensure (given (order.value .projectId) ∧ given (order.value .baselineId))
      "project-scoped work orders require project_id and baseline_id"
    ensure ((order.value .knowledgeBaseName : Option String) = none)
      "project-scoped work orders cannot name a knowledge base"
  | .knowledgeBase => do
    ensure (given (order.value .knowledgeBaseName)) "knowledge-base work orders require knowledge_base_name"
    ensure ((order.value .projectId : Option String) = none ∧ (order.value .baselineId : Option String) = none)
      "knowledge-base work orders cannot name a project or baseline"
    ensure ((order.value .baselineContentHash : String) = "")
      "knowledge-base work orders cannot bind a baseline content hash"

def checkFields : Except String Unit := do
  ensure ((order.value .sourceScopeSnapshot : String) ∈
      ["", "auto", "attachment_only", "knowledge_base_only", "attachment_and_knowledge_base"])
    "unsupported document source scope snapshot"
  checkScope order
  ensure ((order.value .executionMode : ExecutionMode) = .deterministicOnly ∨
      given (order.value .harnessPolicyId) ∧ given (order.value .harnessPolicyVersion))
    "Harness-backed work orders require a frozen HarnessPolicy version"
  ensure ((order.value .requestedExecutor : Option ExecutionMode) = none ∨
      order.value .requestedExecutor = some (order.value .executionMode))
    "requested_executor conflicts with execution_mode"

/-- What the version of the fingerprint asks for. -/
def checkVersion : Except String Unit :=
  if 3 ≤ order.version then do
    ensure ((order.value .requestedExecutor).isSome) "v3 input fingerprints require requested_executor"
    ensure (hasPlanningReferences order)
      "v3 input fingerprints require accepted OutputSpec and DocumentPlan references"
  else if 2 ≤ order.version then
    ensure ((order.value .requestedExecutor).isSome) "v2 input fingerprints require requested_executor"
  else .ok ()

/-- `DocumentWorkOrder.calculate_input_fingerprint`. -/
def calculateInputFingerprint : Except String (DocumentWorkOrder Digest) := do
  checkFields order
  checkVersion order
  let expected := contentHash (strictPreimage order)
  match order.inputFingerprint with
  | none => return { order with inputFingerprint := some expected }
  | some fingerprint =>
    ensure (fingerprint = expected ∨ order.version < 3 ∧
        (fingerprint = contentHash (compatibilityPreimage order) ∨
          fingerprint = contentHash (legacyCompatibilityPreimage order) ∨
          fingerprint = contentHash (strictLegacyPreimage order)))
      "work order input_fingerprint does not match frozen inputs"
    return order

/-- `DocumentWorkOrder(**fields)` and `model_validate`, at an instant. -/
def construct (now : String) (fields : GivenFields Digest) : Except Rejection (DocumentWorkOrder Digest) :=
  if complete : ∀ field ∈ Field.all, ((fields.value field).or (field.default now)).isSome = true then
    (calculateInputFingerprint contentHash
      ⟨fun field => ((fields.value field).or (field.default now)).get (complete field field.mem_all),
        fields.inputFingerprint⟩).mapError .invalid
  else
    .error (.required (Field.all.filter fun field => ((fields.value field).or (field.default now)).isNone))

/-! ### The fingerprints of the callers -/

/-- `compute_input_fingerprint_v2`. -/
def computeInputFingerprintV2 : Except String Digest := do
  ensure ((order.value .requestedExecutor).isSome) "v2 input fingerprints require requested_executor"
  let excluded : List Field :=
    [.createdAt, .updatedAt, .lockVersion, .status, .unitStatuses, .evidenceMatrixId, .validationReportId,
     .runManifestId, .errorCode, .errorMessage, .retryable, .nextActions, .inputFingerprintVersion, .revisionId,
     .outputSpecId, .outputSpecVersion, .outputSpecHash, .documentPlanId, .documentPlanVersion,
     .documentPlanHash] ++ unsaidFields order
  return contentHash (tagged 2 (clearTask (modelDump order excluded)))

/-- `compute_input_fingerprint_v3`. -/
def computeInputFingerprintV3 : Except String Digest := do
  ensure ((order.value .requestedExecutor).isSome) "v3 input fingerprints require requested_executor"
  ensure (hasPlanningReferences order) "v3 input fingerprints require accepted planning references"
  let excluded : List Field :=
    [.createdAt, .updatedAt, .lockVersion, .status, .unitStatuses, .evidenceMatrixId, .validationReportId,
     .runManifestId, .errorCode, .errorMessage, .retryable, .nextActions, .inputFingerprintVersion,
     .revisionId] ++ unsaidFields order
  return contentHash (tagged 3 (clearTask (modelDump order excluded)))

end Fingerprint

end HardwareDatabase.WorkOrders
