/-
Module: HardwareDatabase.Planning.Coverage
Purpose: The evaluation of a coverage contract against drafts (`src/src/document_authoring/planning/coverage.py`). The
  hashes are left out; the value of an assertion is its text, and of the evidence registry the ids are kept.
Trusted boundary: none
-/
import HardwareDatabase.Python.Locations
import HardwareDatabase.Python.OrderedDict
import Mathlib.Algebra.GroupWithZero.Nat

namespace HardwareDatabase.Coverage

open Python

/-! ### Contracts -/

inductive RequirementKind where
  | sectionUnit | scalar | paragraph | table | crossUnit | artifact
deriving Repr, DecidableEq

inductive RowOrder where
  | declared | stableKey | input
deriving Repr, DecidableEq

inductive DuplicatePolicy where
  | reject | allow
deriving Repr, DecidableEq

/-- A `CoverageRequirement`, with what its validators establish. -/
structure CoverageRequirement where
  requirementId : String
  unitId : String
  kind : RequirementKind
  required : Bool := true
  rowKeys : List String := []
  requiredColumns : List String := []
  rowOrder : RowOrder := .declared
  duplicatePolicy : DuplicatePolicy := .reject
  minEvidenceItems : Nat := 0
  rowKeysUnique : rowKeys.Nodup
  rowKeysFilled : ∀ key ∈ rowKeys, key ≠ "" ∧ strip key = key
  tableColumns : kind = .table → required = true → requiredColumns ≠ []
  tableOnly : kind ≠ .table → rowKeys = [] ∧ requiredColumns = []

/-! ### Drafts -/

structure DraftAssertion where
  text : String
  value : Option String := none
  consistencyKey : Option String := none
  evidenceIds : List String := []

structure TypedTableRow where
  rowKey : String := ""
  cells : OrderedDict String String
  evidenceIds : List String := []
  cellEvidenceIds : OrderedDict String (List String) := .empty

inductive TypedKind where
  | scalar | enumeration | table
deriving Repr, DecidableEq

structure TypedFieldValue where
  kind : TypedKind
  evidenceIds : List String := []
  rows : List TypedTableRow := []

inductive ValidationStatus where
  | pending | supported | partially | unsupported | requiresHuman
deriving Repr, DecidableEq

structure DocumentUnitDraft where
  unitId : String
  content : Option String := none
  typedValue : Option TypedFieldValue := none
  assertions : List DraftAssertion := []
  evidenceIds : List String := []
  validationStatus : ValidationStatus := .pending

/-! ### Findings -/

structure ReviewIssue where
  code : String
  severity : String
  blocking : Bool
  unitId : Option String
  rowKey : Option String
  columnId : Option String
  evidenceIds : List String
  suggestedAction : String
deriving Repr, DecidableEq

inductive Status where
  | complete | partially | missing | unsupported | conflicting
deriving Repr, DecidableEq

structure CoverageRequirementResult where
  requirementId : String
  unitId : String
  kind : RequirementKind
  required : Bool
  status : Status
  expectedCount : Nat
  coveredCount : Nat := 0
  missingCount : Nat := 0
  unsupportedCount : Nat := 0
  duplicateCount : Nat := 0
  missingRowKeys : List String := []
  unexpectedRowKeys : List String := []
  missingColumns : List String := []
  evidenceIds : List String := []
  issues : List ReviewIssue
deriving Repr, DecidableEq

/-- `_unique_strings`. -/
def uniqueStrings (label : String) (values : List String) : Except String (List String) :=
  let normalized := values.map strip
  if ¬ normalized.Nodup then .error (label ++ " entries must be unique")
  else if "" ∈ normalized then .error (label ++ " entries must be non-empty")
  else .ok normalized

/-- `value.strip() if value is not None and value.strip() else None`. -/
def cleanText (value : Option String) : Option String :=
  (value.map strip).filter (· != "")

/-- `ReviewIssue.normalize_and_hash`, without the hash. -/
def ReviewIssue.normalize (issue : ReviewIssue) : Except String ReviewIssue := do
  if strip issue.code = "" then throw "review issues require a code"
  let evidenceIds ← uniqueStrings "evidence_ids" issue.evidenceIds
  return { issue with code := strip issue.code, unitId := cleanText issue.unitId, rowKey := cleanText issue.rowKey
                      columnId := cleanText issue.columnId, evidenceIds }

/-- `CoverageRequirementResult.normalize_and_hash`, without the hash; its issues are made before it. -/
def CoverageRequirementResult.normalize (result : CoverageRequirementResult) :
    Except String CoverageRequirementResult := do
  let issues ← result.issues.mapM ReviewIssue.normalize
  let evidenceIds ← uniqueStrings "evidence_ids" result.evidenceIds
  let missingRowKeys ← uniqueStrings "missing_row_keys" result.missingRowKeys
  let unexpectedRowKeys ← uniqueStrings "unexpected_row_keys" result.unexpectedRowKeys
  let missingColumns ← uniqueStrings "missing_columns" result.missingColumns
  return { result with issues, evidenceIds, missingRowKeys, unexpectedRowKeys, missingColumns }

section Requirement

variable (requirement : CoverageRequirement)

/-- `_issue`. -/
def makeIssue (code suggestedAction : String) (evidenceIds : List String := [])
    (rowKey columnId : Option String := none) :
    ReviewIssue where
  code
  severity := if requirement.required then "error" else "warning"
  blocking := requirement.required
  unitId := some requirement.unitId
  rowKey
  columnId
  evidenceIds
  suggestedAction

/-- The issue of a draft that was not found to be supported. -/
def draftIssues (draft : DocumentUnitDraft) : List ReviewIssue :=
  if draft.validationStatus ∈ [.unsupported, .requiresHuman, .partially] then
    [makeIssue requirement "draft_not_supported" "rework_unit_draft"]
  else []

/-- The status that the issues give. -/
def statusOf (unsupportedCodes : List String) (other : Status) (issues : List ReviewIssue) : Status :=
  if issues = [] then .complete
  else if issues.any fun issue => unsupportedCodes.contains issue.code then .unsupported
  else other

/-- `left - right`, sorted. -/
def without (left right : List String) : List String :=
  sortedSet (left.filter fun item => !right.contains item)

/-! ### Tables -/

variable (draft : DocumentUnitDraft) (typed : TypedFieldValue) (evidence : List String)

/-- `[row.row_key.strip() for row in rows]`. -/
def actualKeys : List String :=
  typed.rows.map fun row => strip row.rowKey

def missingKeys : List String :=
  requirement.rowKeys.filter fun key => !(actualKeys typed).contains key

def unexpectedKeys : List String :=
  (actualKeys typed).filter fun key =>
    !requirement.rowKeys.isEmpty && key != "" && !requirement.rowKeys.contains key

def duplicateKeys : List String :=
  sortedSet ((actualKeys typed).filter fun key => key != "" && decide (1 < (actualKeys typed).count key))

/-- The issues of the keys and of their order. -/
def keyIssues : List ReviewIssue :=
  let expected := requirement.rowKeys
  let actual := actualKeys typed
  (if expected = [] then []
    else (actual.filter (· == "")).map fun _ =>
      makeIssue requirement "row_identity_missing" "return_server_owned_row_key") ++
  ((missingKeys requirement typed).map fun key =>
    makeIssue requirement "missing_row" "retrieve_and_draft_missing_row" [] (some key)) ++
  ((unexpectedKeys requirement typed).map fun key =>
    makeIssue requirement "unexpected_row" "remove_row_outside_frozen_scope" [] (some key)) ++
  (if requirement.duplicatePolicy = .reject then
    (duplicateKeys typed).map fun key =>
      makeIssue requirement "duplicate_row_key" "deduplicate_row_identity" [] (some key)
  else []) ++
  (if expected ≠ [] ∧ requirement.rowOrder = .declared ∧ actual ≠ expected then
    [makeIssue requirement "row_order_mismatch" "sort_by_declared_row_key_order"]
  else []) ++
  if expected = [] ∧ requirement.rowOrder = .stableKey ∧ ("" ∈ actual ∨
      actual.filter (· != "") ≠ (actual.filter (· != "")).mergeSort fun left right => decide (left ≤ right)) then
    [makeIssue requirement "row_order_mismatch" "sort_by_stable_row_key"]
  else []

/-- `row.row_key.strip() or None`. -/
def rowKeyOf (row : TypedTableRow) : Option String :=
  cleanText (some row.rowKey)

/-- `set(row.cell_evidence_ids.get(column, row_ids))`. -/
def cellIds (row : TypedTableRow) (column : String) : List String :=
  (row.cellEvidenceIds.get? column).getD row.evidenceIds

def missingColumnsOf (row : TypedTableRow) : List String :=
  without requirement.requiredColumns row.cells.keys

def unknownColumnsOf (row : TypedTableRow) : List String :=
  if requirement.requiredColumns = [] then [] else without row.cells.keys requirement.requiredColumns

/-- The issues of a cell. -/
def cellIssues (row : TypedTableRow) (cell : String × String) : List ReviewIssue :=
  let foreign := without (cellIds row cell.1) row.evidenceIds
  let unknown := without (cellIds row cell.1) evidence
  (if foreign = [] then []
    else [makeIssue requirement "cell_evidence_ownership" "bind_cell_evidence_to_row" foreign (rowKeyOf row)
      (some cell.1)]) ++
  (if unknown = [] then []
    else [makeIssue requirement "unknown_evidence" "reload_frozen_evidence" unknown (rowKeyOf row) (some cell.1)]) ++
  if strip cell.2 = "" then
    [makeIssue requirement "empty_required_cell" "return_non_empty_table_cell" [] (rowKeyOf row) (some cell.1)]
  else []

/-- The issues of a row. -/
def rowIssues (row : TypedTableRow) : List ReviewIssue :=
  let unknown := without row.evidenceIds evidence
  let outside := without row.evidenceIds (typed.evidenceIds ++ draft.evidenceIds)
  (if unknown = [] then []
    else [makeIssue requirement "unknown_evidence" "reload_frozen_evidence" unknown (rowKeyOf row)]) ++
  (if outside = [] then []
    else [makeIssue requirement "evidence_ownership" "bind_row_evidence_to_current_unit" outside (rowKeyOf row)]) ++
  ((missingColumnsOf requirement row).map fun column =>
    makeIssue requirement "missing_required_column" "return_required_table_cell" [] (rowKeyOf row) (some column)) ++
  ((unknownColumnsOf requirement row).map fun column =>
    makeIssue requirement "unexpected_column" "remove_unregistered_table_column" [] (rowKeyOf row) (some column)) ++
  row.cells.entries.flatMap (cellIssues requirement evidence row)

/-- The row adds to `valid_rows`. -/
def countsAsValid (row : TypedTableRow) : Bool :=
  missingColumnsOf requirement row = [] && unknownColumnsOf requirement row = [] && row.evidenceIds ≠ [] &&
    row.cells.entries.all (fun cell => decide (cellIssues requirement evidence row cell = [])) &&
    (requirement.rowKeys.isEmpty || requirement.rowKeys.any fun key => rowKeyOf row == some key)

/-- The result with the fields of the requirement. -/
def resultOf (status : Status) (expectedCount : Nat) (issues : List ReviewIssue) : CoverageRequirementResult where
  requirementId := requirement.requirementId
  unitId := requirement.unitId
  kind := requirement.kind
  required := requirement.required
  status
  expectedCount
  issues

/-- `len(items) or fallback`. -/
def lengthOr {α : Type} (items : List α) (fallback : Nat) : Nat :=
  if items = [] then fallback else items.length

/-- `_evaluate_table` for a table. -/
def evaluateRows : Except String CoverageRequirementResult :=
  let issues := keyIssues requirement typed ++ typed.rows.flatMap (rowIssues requirement draft typed evidence) ++
    draftIssues requirement draft
  let status := statusOf ["table_scalarized", "row_identity_missing", "unknown_evidence", "evidence_ownership",
    "cell_evidence_ownership", "draft_not_supported"] .partially issues
  let missing := missingKeys requirement typed
  let missingCount := missing.length + if typed.rows = [] then 1 else 0
  CoverageRequirementResult.normalize
    { resultOf requirement status (lengthOr requirement.rowKeys (max 1 typed.rows.length)) issues with
      coveredCount := typed.rows.countP (countsAsValid requirement evidence)
      missingCount := if status = .complete then 0 else missingCount
      unsupportedCount := if status = .unsupported then 1 else 0
      duplicateCount := (duplicateKeys typed).length
      missingRowKeys := missing
      unexpectedRowKeys := unexpectedKeys requirement typed
      missingColumns := sortedSet (typed.rows.flatMap (missingColumnsOf requirement))
      evidenceIds := sortedSet (typed.rows.flatMap fun row =>
        row.evidenceIds ++ row.cells.keys.flatMap (cellIds row)) }

/-- `_evaluate_table`. -/
def evaluateTable : Except String CoverageRequirementResult :=
  match draft.typedValue.filter (·.kind = .table) with
  | some typed => evaluateRows requirement draft typed evidence
  | none =>
    CoverageRequirementResult.normalize
      { resultOf requirement .unsupported (lengthOr requirement.rowKeys 1)
          [makeIssue requirement "table_scalarized" "return_typed_table_rows"] with
        missingCount := lengthOr requirement.rowKeys 1
        unsupportedCount := 1
        missingRowKeys := requirement.rowKeys }

/-! ### Other units -/

/-- The issues of the typed value of a unit that is not a table. -/
def typedIssues : List ReviewIssue :=
  match draft.typedValue with
  | none =>
    if requirement.kind ∈ [.scalar, .paragraph, .sectionUnit, .artifact] ∧
        ¬ (requirement.kind = .paragraph ∧ strip (draft.content.getD "") ≠ "") then
      [makeIssue requirement "missing_typed_value" "return_typed_candidate"]
    else []
  | some typed =>
    if requirement.kind = .scalar ∧ typed.kind = .table then
      [makeIssue requirement "table_scalarized" "return_scalar_candidate"]
    else
      let unknown := without typed.evidenceIds evidence
      let outside := without typed.evidenceIds draft.evidenceIds
      (if unknown = [] ∧ outside = [] then []
        else [makeIssue requirement (if unknown = [] then "evidence_ownership" else "unknown_evidence")
          "bind_evidence_to_current_unit" (if unknown = [] then outside else unknown)]) ++
      if typed.evidenceIds.dedup.length < requirement.minEvidenceItems then
        [makeIssue requirement "insufficient_evidence" "retrieve_more_evidence" (sortedSet typed.evidenceIds)]
      else []

/-- The issues of a unit that is not a table. -/
def unitIssues : List ReviewIssue :=
  (if draft.evidenceIds = [] then [makeIssue requirement "missing_evidence" "retrieve_evidence"] else []) ++
  (if without draft.evidenceIds evidence = [] then []
    else [makeIssue requirement "unknown_evidence" "reload_frozen_evidence" (without draft.evidenceIds evidence)]) ++
  typedIssues requirement draft evidence ++ draftIssues requirement draft

/-- `_evaluate_requirement` for a draft that is there, of a unit that is not a table. -/
def evaluateUnit : Except String CoverageRequirementResult :=
  let issues := unitIssues requirement draft evidence
  let status := statusOf ["unknown_evidence", "evidence_ownership", "table_scalarized", "draft_not_supported"]
    .missing issues
  CoverageRequirementResult.normalize
    { resultOf requirement status 1 issues with
      coveredCount := if status = .complete then 1 else 0
      missingCount := if status = .complete then 0 else 1
      unsupportedCount := if status = .unsupported then 1 else 0
      evidenceIds := sortedSet draft.evidenceIds }

/-- The result for a unit without a draft. -/
def evaluateMissing : Except String CoverageRequirementResult :=
  let expected := if requirement.kind = .table then lengthOr requirement.rowKeys 1 else 1
  CoverageRequirementResult.normalize
    { resultOf requirement .missing expected [makeIssue requirement "missing_requirement" "retrieve_and_draft_unit"] with
      missingCount := expected
      missingRowKeys := if requirement.kind = .table then requirement.rowKeys else [] }

/-- What the drafts say under the key of the requirement: the texts with their evidence. -/
def observations (drafts : OrderedDict String DocumentUnitDraft) : List (String × List String) :=
  drafts.entries.flatMap fun entry => entry.2.assertions.filterMap fun assertion =>
    let value := strip (assertion.value.getD assertion.text)
    if assertion.consistencyKey = some requirement.unitId ∧ value ≠ "" then some (value, assertion.evidenceIds)
    else none

/-- `_evaluate_cross_unit`. -/
def evaluateCrossUnit (drafts : OrderedDict String DocumentUnitDraft) : Except String CoverageRequirementResult :=
  let found := observations requirement drafts
  let evidenceIds := sortedSet (found.flatMap Prod.snd)
  let values := (found.map Prod.fst).dedup
  let status := if 1 < values.length then .conflicting else if values = [] then .missing else .complete
  let issues :=
    if 1 < values.length then
      [makeIssue requirement "cross_unit_conflict" "resolve_cross_unit_conflict" evidenceIds]
    else if values = [] then [makeIssue requirement "missing_cross_unit_fact" "retrieve_cross_unit_evidence"]
    else []
  CoverageRequirementResult.normalize
    { resultOf requirement status 1 issues with
      coveredCount := if status = .complete then 1 else 0
      missingCount := if status = .missing then 1 else 0
      evidenceIds }

/-! ### Contracts against drafts -/

/-- `unit_id.removeprefix("field:").removeprefix("review:")`. -/
def plainUnitId (unitId : String) : String :=
  withoutStart "review:" (withoutStart "field:" unitId)

/-- `_draft_map`. -/
def draftMap (drafts : List DocumentUnitDraft) : OrderedDict String DocumentUnitDraft :=
  drafts.foldl (fun known draft => (known.assign draft.unitId draft).assign (plainUnitId draft.unitId) draft) .empty

/-- `_draft_for_unit`. -/
def draftForUnit (drafts : OrderedDict String DocumentUnitDraft) (unitId : String) : Option DocumentUnitDraft :=
  (drafts.get? unitId).or (drafts.get? (plainUnitId unitId))

/-- `_evaluate_requirement`. -/
def evaluateRequirement (drafts : OrderedDict String DocumentUnitDraft) : Except String CoverageRequirementResult :=
  if requirement.kind = .crossUnit then evaluateCrossUnit requirement drafts
  else
    match draftForUnit drafts requirement.unitId with
    | none => evaluateMissing requirement
    | some draft =>
      if requirement.kind = .table then evaluateTable requirement draft evidence
      else evaluateUnit requirement draft evidence

end Requirement

/-- A `CoverageReport`, without the plan and the hash. -/
structure CoverageReport where
  requirementResults : OrderedDict String CoverageRequirementResult
  expectedCount : Nat
  coveredCount : Nat
  missingCount : Nat
  unsupportedCount : Nat
  duplicateCount : Nat

/-- `evaluate`: the ids of the registry are the evidence. -/
def evaluate (requirements : List CoverageRequirement) (drafts : List DocumentUnitDraft) (registry : List String) :
    Except String CoverageReport := do
  let evidence := (registry.map strip).filter (· != "")
  let results ← requirements.foldlM (fun results requirement => do
    let result ← evaluateRequirement requirement evidence (draftMap drafts)
    return results.assign requirement.requirementId result) .empty
  let values := results.entries.map Prod.snd
  return {
    requirementResults := results
    expectedCount := requirements.length
    coveredCount := values.countP (·.status = .complete)
    missingCount := (values.map (·.missingCount)).sum
    unsupportedCount := (values.map (·.unsupportedCount)).sum
    duplicateCount := (values.map (·.duplicateCount)).sum }

end HardwareDatabase.Coverage
