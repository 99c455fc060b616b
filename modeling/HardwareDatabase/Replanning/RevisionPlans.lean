/-
Module: HardwareDatabase.Replanning.RevisionPlans
Purpose: The compilation of a revision into a child plan (`src/src/document_authoring/planning/revision.py`). The
  length limits and the hashes of the diff and of the scope are left out; which characters beyond ASCII are letters or
  digits is a parameter.
Trusted boundary: none
-/
import HardwareDatabase.Replanning.Diff
import HardwareDatabase.Replanning.RevisionTargets
import HardwareDatabase.Python.Patterns

namespace HardwareDatabase.Replanning

open Python

/-! ### Expressions -/

/-- A word, whatever the case of its letters. -/
def word (letters : String) : Pattern :=
  .word ignoringCase letters.toList

/-- One of several words. -/
def oneOf (first : String) (others : List String) : Pattern :=
  others.foldl (fun pattern letters => .alt pattern (word letters)) (word first)

/-- One of several characters. -/
def oneChar (characters : String) : Pattern :=
  .one fun character => decide (character ∈ characters.toList)

/-- `\s*`. -/
def blanks : Pattern :=
  .many 0 none true (.one isSpace)

/-- `\s+`. -/
def someBlanks : Pattern :=
  .many 1 none true (.one isSpace)

/-- `.+?`. -/
def someChars : Pattern :=
  .many 1 none false (.one fun character => character != '\n')

/-- The words for tables and lists. -/
def tableWords : Pattern :=
  oneOf "表格" ["列表", "清单", "table", "list"]

/-- `_STRUCTURE_CHANGE_PATTERN`. -/
def structureChangePattern : Pattern :=
  .alt (.seq tableWords (.seq blanks (word "化")))
    (.seq (oneOf "改成" ["改为", "换成", "变成", "转成"])
      (.seq (.many 0 (some 12) false (.one fun character => decide (character ∉ "，。；!？,.;!?".toList)))
        tableWords))

/-- `_VISUAL_PRESERVE_PATTERN`. -/
def visualPreservePattern : Pattern :=
  .alt (oneOf "分页" ["版式", "排版", "页码", "视觉", "页面布局", "layout", "pagination"])
    (.seq (word "page") (.seq blanks (word "break")))

/-- The first of `_TEXT_REPLACEMENT_PATTERNS`, in the parts before, in and behind its two groups. -/
def chineseReplacement : List Pattern :=
  [.seq (oneOf "将" ["把"]) (.seq blanks
      (.seq (.many 0 (some 1) true (.many 0 (some 80) false
        (.one fun character => decide (character ∉ "\"“「『".toList)))) (oneChar "\"“「『"))),
    someChars,
    .seq (oneChar "\"”」』") (.seq blanks (.seq (oneOf "替换为" ["替换成", "改为", "改成", "换成"])
      (.seq blanks (oneChar "\"“「『")))),
    someChars,
    oneChar "\"”」』"]

/-- The second of `_TEXT_REPLACEMENT_PATTERNS`, which starts at the start of a word. -/
def englishReplacement : List Pattern :=
  [.seq (word "replace") (.seq someBlanks (oneChar "\"‘")),
    someChars,
    .seq (oneChar "\"’") (.seq someBlanks (.seq (oneOf "with" ["by"]) (.seq someBlanks (oneChar "\"‘")))),
    someChars,
    oneChar "\"’"]

/-! ### The text edit -/

/-- A `RevisionTextEdit`. -/
structure TextEdit where
  before : String
  after : String
deriving Repr, DecidableEq

/-- `RevisionTextEdit(before=..., after=...)`, where it does not raise. -/
def TextEdit.validate (before after : String) : Option TextEdit :=
  let bounded (text : String) := 1 ≤ text.length ∧ text.length ≤ 2000 ∧ strip text ≠ ""
  if bounded before ∧ bounded after ∧ strip before ≠ strip after then
    some { before := strip before, after := strip after }
  else none

/-- `text_edit.model_dump(mode="json")`. -/
def TextEdit.dump (edit : TextEdit) : Value :=
  .object [("after", .string edit.after), ("before", .string edit.before), ("kind", .string "replace_text")]

theorem TextEdit.keyOrdered_dump (edit : TextEdit) : edit.dump.KeyOrdered := by
  refine Value.keyOrdered_object.mpr ⟨Dict.sorted_of_chain ?_, by simp [Value.KeyOrdered, Value.keyOrdered]⟩
  repeat refine .cons_cons (Dict.lt_of_chars (by decide)) ?_
  exact .singleton _

/-- The groups of a match. -/
def editOf : List (List Char) → Option TextEdit
  | [_, before, _, after, _] => TextEdit.validate (String.ofList before) (String.ofList after)
  | _ => none

/-- `parse_revision_text_edit`: the first expression that matches decides. `isAlnum` is `str.isalnum` of one
character. -/
def parseRevisionTextEdit (isAlnum : Char → Bool) (instruction : String) : Option TextEdit :=
  let text := (strip instruction).toList
  let boundary (before : Option Char) := !before.any fun character => isAlnum character || character == '_'
  match searchParts chineseReplacement (fun _ => true) none text with
  | some parts => editOf parts
  | none => (searchParts englishReplacement boundary none text).bind editOf

/-! ### The child plan -/

/-- The entries with a value under a key, in key order. -/
def assignSorted (key : String) (value : Value) : Dict → Dict
  | [] => [(key, value)]
  | entry :: rest =>
    if key < entry.1 then (key, value) :: entry :: rest
    else if entry.1 = key then (key, value) :: rest
    else entry :: assignSorted key value rest

theorem mem_assignSorted {key : String} {value : Value} {entries : Dict} {entry : String × Value}
    (member : entry ∈ assignSorted key value entries) : entry = (key, value) ∨ entry ∈ entries := by
  induction entries with
  | nil => exact Or.inl (List.mem_singleton.mp member)
  | cons first rest ih =>
    rw [assignSorted] at member
    split at member
    · exact List.mem_cons.mp member
    · split at member
      · exact (List.mem_cons.mp member).imp_right (List.mem_cons_of_mem _)
      · rcases List.mem_cons.mp member with rfl | later
        · exact Or.inr List.mem_cons_self
        · exact (ih later).imp_right (List.mem_cons_of_mem _)

theorem sorted_assignSorted {key : String} {value : Value} {entries : Dict} (sorted : entries.Sorted) :
    (assignSorted key value entries).Sorted := by
  induction entries with
  | nil => exact List.pairwise_singleton _ _
  | cons first rest ih =>
    obtain ⟨after, restSorted⟩ := List.pairwise_cons.mp sorted
    rw [assignSorted]
    split
    · rename_i before
      refine List.pairwise_cons.mpr ⟨fun entry member => ?_, sorted⟩
      rcases List.mem_cons.mp member with rfl | later
      · exact before
      · exact lt_trans before (after entry later)
    · rename_i notBefore
      split
      · rename_i same
        exact List.pairwise_cons.mpr ⟨fun entry member => same ▸ after entry member, restSorted⟩
      · rename_i apart
        refine List.pairwise_cons.mpr ⟨fun entry member => ?_, ih restSorted⟩
        rcases mem_assignSorted member with rfl | later
        · exact lt_of_le_of_ne (not_lt.mp notBefore) apart
        · exact after entry later

/-- `mapping[key] = value`. -/
def Mapping.assign (mapping : Mapping) (key : String) (value : Value) (ordered : value.KeyOrdered) : Mapping where
  entries := assignSorted key value mapping.entries
  ordered := by
    obtain ⟨sorted, each⟩ := Value.keyOrdered_object.mp mapping.ordered
    refine Value.keyOrdered_object.mpr ⟨sorted_assignSorted sorted, fun entry member => ?_⟩
    rcases mem_assignSorted member with rfl | before
    · exact ordered
    · exact each entry before

def RevisionOperation.text : RevisionOperation → String
  | .fieldUpdate => "field_update"
  | .sectionUpdate => "section_update"
  | .fullRegeneration => "full_regeneration"

namespace RevisionPatch

variable (isAlnum : Char → Bool) (patch : RevisionPatch) (plan : DocumentPlan) (targets : List String)

/-- The output schema of a target. -/
def reviseSchema (schema : Mapping) : Mapping :=
  let instructed := schema.assign "revision_instruction" (.string (strip patch.instruction)) rfl
  let revised := (instructed.assign "revision_id" (.string patch.revisionId) rfl).assign "revision_operation"
    (.string patch.operation.text) rfl
  match parseRevisionTextEdit isAlnum (strip patch.instruction) with
  | some edit => revised.assign "revision_edit" edit.dump edit.keyOrdered_dump
  | none => revised

/-- A unit of the child. -/
def reviseUnit (unit : SemanticUnitPlan) : SemanticUnitPlan :=
  if unit.unitId ∈ targets then { unit with outputSchema := patch.reviseSchema isAlnum unit.outputSchema } else unit

/-- The id of the child. -/
def childPlanId : String :=
  plan.documentPlanId ++ ":" ++ patch.patchId

/-- A task of the child. -/
def reviseTask (task : UnitTaskSpec) : UnitTaskSpec :=
  { task with
    planVersion := plan.version + 1
    actionKey := "document-plan:" ++ patch.childPlanId plan ++ ":" ++ task.unitId ++ ":v" ++
      toString (plan.version + 1) }

/-- The child plan, before its hash is set. -/
def childPlan : DocumentPlan :=
  { plan with
    documentPlanId := patch.childPlanId plan
    version := plan.version + 1
    status := .proposed
    semanticUnits := plan.semanticUnits.map (patch.reviseUnit isAlnum targets)
    unitTasks := plan.unitTasks.map (patch.reviseTask plan)
    planHash := none }

end RevisionPatch

/-! ### The compilation -/

/-- An `AffectedSubgraph`. -/
structure AffectedSubgraph where
  childPlanId : String
  childPlanVersion : Nat
  directlyAffectedUnitIds : List String
  affectedUnitIds : List String
  affectedTaskIds : List String
  reusedUnitIds : List String
  dependencyClosure : List String
  reasonCodes : List String
deriving Repr, DecidableEq

/-- `compile_affected_subgraph`, for a diff. -/
def compileAffectedSubgraph (child : DocumentPlan) (diff : PlanDiff) : Except Failure AffectedSubgraph := do
  let directlyAffectedUnitIds ← uniqueIds "directly_affected_unit_ids" 100000 diff.directlyAffectedUnitIds
  let affectedUnitIds ← uniqueIds "affected_unit_ids" 100000 diff.affectedUnitIds
  let affectedTaskIds ← uniqueIds "affected_task_ids" 100000 diff.affectedTaskIds
  let reusedUnitIds ← uniqueIds "reused_unit_ids" 100000 diff.reusedUnitIds
  let dependencyClosure ← uniqueIds "dependency_closure" 100000 diff.dependencyClosure
  let reasonCodes ← uniqueIds "reason_codes" 64 diff.scopeReasonCodes
  return {
    childPlanId := child.documentPlanId, childPlanVersion := child.version
    directlyAffectedUnitIds, affectedUnitIds, affectedTaskIds, reusedUnitIds, dependencyClosure, reasonCodes }

/-- A `RevisionPlanCompilation`. -/
structure RevisionPlanCompilation where
  patchId : String
  childPlan : DocumentPlan
  planDiff : PlanDiff
  affectedScope : AffectedSubgraph
  targetUnitIds : List String
  preservedUnitIds : List String

/-- The requests for which there is no child plan. -/
def refuseUnsupported (plan : DocumentPlan) (patch : RevisionPatch) (targets : List String) :
    Except RevisionError Unit :=
  let unsupported := (plan.semanticUnits.filter fun unit =>
    unit.unitId ∈ targets ∧ unit.kind ≠ .table ∧ unit.kind ≠ .list).map (·.unitId)
  if structureChangePattern.search patch.instruction.toList ∧ unsupported ≠ [] then
    .error (.notExecutable ("结构变更修订暂不支持（目标单元: " ++ ", ".intercalate unsupported ++
      "）；请转为新建文档或拆分章节"))
  else if visualPreservePattern.search patch.instruction.toList then
    .error (.notExecutable "视觉/版式保留能力未开放；内容修订不承诺分页与版式不变，请转为新建文档或走独立排版流程")
  else .ok ()

/-- A revision that the parent plan allows. -/
def requireParent (allowed : Prop) [Decidable allowed] (message : String) : Except RevisionError Unit :=
  if allowed then .ok () else .error (.notExecutable message)

section Compile

variable {Digest : Type} [DecidableEq Digest] (sha256 : Value → Digest) (hex : Digest → String)

/-- `DocumentPlan.model_validate`, which sets the hash of the plan. -/
def validatedChild (child : DocumentPlan) : Except RevisionError DocumentPlan := do
  child.validatePlan.mapError .valueError
  let planHash ← (child.contentHash sha256).mapError .planning
  return { child with planHash := some (hex planHash) }

/-- `compile_revision_plan`; `hex` is the text of a digest. -/
def compileRevisionPlan (str : Value → String) (isAlnum : Char → Bool) (plan : DocumentPlan)
    (spec : Option OutputSpec) (patch : RevisionPatch) : Except RevisionError RevisionPlanCompilation := do
  requireParent (plan.status = .accepted) "父文档计划不是已接受状态，不能冻结修订基线"
  requireParent (plan.planHash = some patch.parentPlanHash) "修订基线计划 hash 与当前计划不一致"
  let targets ← resolveRevisionTargets str plan spec patch
  refuseUnsupported plan patch targets
  let child ← validatedChild sha256 hex (patch.childPlan isAlnum plan targets)
  let planDiff ← (diffDocumentPlans sha256 plan child).mapError .planning
  let affectedScope ← (compileAffectedSubgraph child planDiff).mapError .planning
  return {
    patchId := patch.patchId, childPlan := child, planDiff, affectedScope, targetUnitIds := targets
    preservedUnitIds := plan.unitIds.filter fun unitId => decide (unitId ∉ targets) }

end Compile

end HardwareDatabase.Replanning
