/-
Module: HardwareDatabase.Proofs.CoverageReports
Purpose: When the evaluation of a coverage contract returns a report: no list of a result may have an entry twice or a
  blank one.
Trusted boundary: none
-/
import HardwareDatabase.Proofs.CoverageHonesty

namespace HardwareDatabase.Coverage

open Python Relational

/-! ### Ids -/

/-- Ids that are not blank and stay apart without their blanks. -/
structure Distinguishable (ids : List String) : Prop where
  filled : ∀ id ∈ ids, strip id ≠ ""
  apart : ∀ id ∈ ids, ∀ other ∈ ids, strip id = strip other → id = other

variable {ids : List String}

private theorem Distinguishable.subset {part : List String} (distinguishable : Distinguishable ids)
    (within : part ⊆ ids) :
    Distinguishable part :=
  ⟨fun id member => distinguishable.filled id (within member),
    fun id member other among => distinguishable.apart id (within member) other (within among)⟩

private theorem distinguishable_nil : Distinguishable [] :=
  ⟨nofun, nofun⟩

variable {values : List String}

private theorem uniqueStrings_iff {label : String} :
    (∃ unique, uniqueStrings label values = .ok unique) ↔ (values.map strip).Nodup ∧ "" ∉ values.map strip := by
  unfold uniqueStrings
  by_cases nodup : (values.map strip).Nodup
  · rw [if_neg (not_not.mpr nodup)]
    by_cases blank : "" ∈ values.map strip
    · rw [if_pos blank]
      exact ⟨nofun, fun both => absurd blank both.2⟩
    · rw [if_neg blank]
      exact ⟨fun _ => ⟨nodup, blank⟩, fun _ => ⟨_, rfl⟩⟩
  · rw [if_pos nodup]
    exact ⟨nofun, fun both => absurd both.1 nodup⟩

private theorem uniqueStrings_iff_of_nodup {label : String} (nodup : values.Nodup) :
    (∃ unique, uniqueStrings label values = .ok unique) ↔ Distinguishable values := by
  rw [uniqueStrings_iff, List.nodup_map_iff_inj_on nodup]
  simp only [List.mem_map, not_exists, not_and]
  exact ⟨fun ⟨apart, filled⟩ => ⟨filled, fun id member other among => apart id member other among⟩,
    fun ⟨filled, apart⟩ => ⟨fun id member other among => apart id member other among, filled⟩⟩

private theorem nodup_sortedSet (ids : List String) : (sortedSet ids).Nodup :=
  (List.mergeSort_perm _ _).nodup_iff.mpr (List.nodup_dedup ids)

private theorem distinguishable_sortedSet : Distinguishable (sortedSet ids) ↔ Distinguishable ids :=
  ⟨fun sorted => sorted.subset fun _ => mem_sortedSet.mpr, fun plain => plain.subset fun _ => mem_sortedSet.mp⟩

private theorem uniqueStrings_iff_of_stripped {label : String}
    (stripped : ∀ value ∈ values, value ≠ "" ∧ strip value = value) :
    (∃ unique, uniqueStrings label values = .ok unique) ↔ values.Nodup := by
  have same : values.map strip = values := by
    conv_rhs => rw [← List.map_id values]
    exact List.map_congr_left fun value member => (stripped value member).2
  rw [uniqueStrings_iff, same]
  exact and_iff_left fun blank => (stripped "" blank).1 rfl

/-! ### Results -/

/-- The codes of the issues. -/
def issueCodes : List String :=
  ["draft_not_supported", "row_identity_missing", "missing_row", "unexpected_row", "duplicate_row_key",
    "row_order_mismatch", "cell_evidence_ownership", "unknown_evidence", "empty_required_cell", "evidence_ownership",
    "missing_required_column", "unexpected_column", "table_scalarized", "missing_typed_value",
    "insufficient_evidence", "missing_evidence", "missing_requirement", "cross_unit_conflict",
    "missing_cross_unit_fact"]

private theorem strip_issueCodes : ∀ code ∈ issueCodes, strip code ≠ "" := by
  decide +kernel

private theorem issue_normalize_iff {issue : ReviewIssue} (known : issue.code ∈ issueCodes) :
    (∃ made, issue.normalize = .ok made) ↔ ∃ unique, uniqueStrings "evidence_ids" issue.evidenceIds = .ok unique := by
  rw [ReviewIssue.normalize, if_neg (strip_issueCodes _ known)]
  cases uniqueStrings "evidence_ids" issue.evidenceIds with
  | error => exact ⟨nofun, nofun⟩
  | ok => exact ⟨fun _ => ⟨_, rfl⟩, fun _ => ⟨_, rfl⟩⟩

private theorem exists_bind_iff {ε α β : Type} {first : Except ε α} {second : α → Except ε β} :
    (∃ value, (first >>= second) = .ok value) ↔ ∃ middle, first = .ok middle ∧ ∃ value, second middle = .ok value := by
  constructor
  · rintro ⟨value, done⟩
    obtain ⟨middle, before, after⟩ := exists_of_bind_eq_ok done
    exact ⟨middle, before, value, after⟩
  · rintro ⟨middle, rfl, value, after⟩
    exact ⟨value, after⟩

/-- The issues are taken. -/
def Taken (issues : List ReviewIssue) : Prop :=
  ∀ issue ∈ issues, ∃ made, issue.normalize = .ok made

variable {result : CoverageRequirementResult}

private theorem normalize_iff : (∃ made, result.normalize = .ok made) ↔
      Taken result.issues ∧ (∃ unique, uniqueStrings "evidence_ids" result.evidenceIds = .ok unique) ∧
        (∃ unique, uniqueStrings "missing_row_keys" result.missingRowKeys = .ok unique) ∧
        (∃ unique, uniqueStrings "unexpected_row_keys" result.unexpectedRowKeys = .ok unique) ∧
        ∃ unique, uniqueStrings "missing_columns" result.missingColumns = .ok unique := by
  rw [CoverageRequirementResult.normalize, Taken, ← exists_mapM_eq_ok_iff]
  simp only [exists_bind_iff]
  constructor
  · rintro ⟨_, first, _, second, _, third, _, fourth, _, fifth, -⟩
    exact ⟨⟨_, first⟩, ⟨_, second⟩, ⟨_, third⟩, ⟨_, fourth⟩, ⟨_, fifth⟩⟩
  · rintro ⟨⟨_, first⟩, ⟨_, second⟩, ⟨_, third⟩, ⟨_, fourth⟩, ⟨_, fifth⟩⟩
    exact ⟨_, first, _, second, _, third, _, fourth, _, fifth, _, rfl⟩

/-- What the contract validator establishes of the columns. -/
def ColumnsValid (requirement : CoverageRequirement) : Prop :=
  requirement.requiredColumns.Nodup ∧ ∀ column ∈ requirement.requiredColumns, column ≠ "" ∧ strip column = column

variable {requirement : CoverageRequirement} {draft : DocumentUnitDraft} {typed : TypedFieldValue}
  {evidence : List String} {drafts : OrderedDict String DocumentUnitDraft}

/-! ### Tables -/

/-- The evidence that a table names. -/
def tableIds (typed : TypedFieldValue) : List String :=
  typed.rows.flatMap fun row => row.evidenceIds ++ row.cells.keys.flatMap (cellIds row)

/-- The evidence of a table can be told apart, and no two of its rows have one unexpected key. -/
structure ReportableTable (requirement : CoverageRequirement) (typed : TypedFieldValue) : Prop where
  keys : (unexpectedKeys requirement typed).Nodup
  ids : Distinguishable (tableIds typed)

/-- An issue has a code of the evaluation, and each of its ids once, which are among some others. -/
structure Fine (allowed : List String) (issue : ReviewIssue) : Prop where
  code : issue.code ∈ issueCodes
  nodup : issue.evidenceIds.Nodup
  within : issue.evidenceIds ⊆ allowed

variable {issues : List ReviewIssue} {allowed : List String}

private theorem taken_of_fine (fine : ∀ issue ∈ issues, Fine allowed issue) (apart : Distinguishable allowed) :
    Taken issues :=
  fun issue member => (issue_normalize_iff (fine issue member).code).mpr
    ((uniqueStrings_iff_of_nodup (fine issue member).nodup).mpr (apart.subset (fine issue member).within))

variable {code action : String}

private theorem fine_plain {rowKey columnId : Option String}
    (known : code ∈ issueCodes) : Fine allowed (makeIssue requirement code action [] rowKey columnId) :=
  ⟨known, List.nodup_nil, List.nil_subset allowed⟩

variable {left right : List String}

private theorem fine_without {rowKey columnId : Option String} (known : code ∈ issueCodes) (within : left ⊆ allowed) :
    Fine allowed (makeIssue requirement code action (without left right) rowKey columnId) := by
  refine ⟨known, nodup_sortedSet _, fun id member => within ?_⟩
  exact List.mem_of_mem_filter (mem_sortedSet.mp member)

variable {property : ReviewIssue → Prop}

private theorem forall_mem_unless {condition : Prop} [Decidable condition] (all : ∀ issue ∈ issues, property issue) :
    ∀ issue ∈ if condition then [] else issues, property issue := by
  split
  · exact nofun
  · exact all

private theorem forall_mem_if {condition : Prop} [Decidable condition] (all : ∀ issue ∈ issues, property issue) :
    ∀ issue ∈ if condition then issues else [], property issue := by
  split
  · exact all
  · exact nofun

private theorem forall_mem_one {issue : ReviewIssue} (fine : property issue) : ∀ other ∈ [issue], property other :=
  List.forall_mem_singleton.mpr fine

private theorem fine_keyIssues (allowed : List String) : ∀ issue ∈ keyIssues requirement typed, Fine allowed issue := by
  simp only [keyIssues, List.forall_mem_append]
  refine ⟨⟨⟨⟨⟨?_, ?_⟩, ?_⟩, ?_⟩, ?_⟩, ?_⟩
  · exact forall_mem_unless (List.forall_mem_map.mpr fun _ _ => fine_plain (by simp [issueCodes]))
  · exact List.forall_mem_map.mpr fun _ _ => fine_plain (by simp [issueCodes])
  · exact List.forall_mem_map.mpr fun _ _ => fine_plain (by simp [issueCodes])
  · exact forall_mem_if (List.forall_mem_map.mpr fun _ _ => fine_plain (by simp [issueCodes]))
  · exact forall_mem_if (forall_mem_one (fine_plain (by simp [issueCodes])))
  · exact forall_mem_if (forall_mem_one (fine_plain (by simp [issueCodes])))

private theorem fine_draftIssues (allowed : List String) : ∀ issue ∈ draftIssues requirement draft, Fine allowed issue :=
  forall_mem_if (forall_mem_one (fine_plain (by simp [issueCodes])))

private theorem fine_rowIssues {row : TypedTableRow} (member : row ∈ typed.rows) :
    ∀ issue ∈ rowIssues requirement draft typed evidence row, Fine (tableIds typed) issue := by
  have rowIds : row.evidenceIds ⊆ tableIds typed := fun id there =>
    List.mem_flatMap.mpr ⟨row, member, List.mem_append_left _ there⟩
  simp only [rowIssues, List.forall_mem_append]
  refine ⟨⟨⟨⟨?_, ?_⟩, ?_⟩, ?_⟩, ?_⟩
  · exact forall_mem_unless (forall_mem_one (fine_without (by simp [issueCodes]) rowIds))
  · exact forall_mem_unless (forall_mem_one (fine_without (by simp [issueCodes]) rowIds))
  · exact List.forall_mem_map.mpr fun _ _ => fine_plain (by simp [issueCodes])
  · exact List.forall_mem_map.mpr fun _ _ => fine_plain (by simp [issueCodes])
  · refine List.forall_mem_flatMap.mpr fun cell inside => ?_
    have ids : cellIds row cell.1 ⊆ tableIds typed := fun id named =>
      List.mem_flatMap.mpr ⟨row, member, List.mem_append_right _
        (List.mem_flatMap.mpr ⟨cell.1, List.mem_map_of_mem inside, named⟩)⟩
    simp only [cellIssues, List.forall_mem_append]
    refine ⟨⟨?_, ?_⟩, ?_⟩
    · exact forall_mem_unless (forall_mem_one (fine_without (by simp [issueCodes]) ids))
    · exact forall_mem_unless (forall_mem_one (fine_without (by simp [issueCodes]) ids))
    · exact forall_mem_if (forall_mem_one (fine_plain (by simp [issueCodes])))

private theorem fine_tableIssues :
    ∀ issue ∈ keyIssues requirement typed ++ typed.rows.flatMap (rowIssues requirement draft typed evidence) ++
      draftIssues requirement draft, Fine (tableIds typed) issue := by
  simp only [List.forall_mem_append, List.forall_mem_flatMap]
  exact ⟨⟨fine_keyIssues _, fun row member => fine_rowIssues member⟩, fine_draftIssues _⟩

private theorem normalize_iff_of_fine
    (fine : ∀ issue ∈ result.issues, Fine allowed issue) (ids : result.evidenceIds = sortedSet allowed)
    (missingRows : result.missingRowKeys.Nodup ∧ ∀ key ∈ result.missingRowKeys, key ≠ "" ∧ strip key = key)
    (unexpected : ∀ key ∈ result.unexpectedRowKeys, key ≠ "" ∧ strip key = key)
    (columns : result.missingColumns.Nodup ∧ ∀ column ∈ result.missingColumns, column ≠ "" ∧ strip column = column) :
    (∃ made, result.normalize = .ok made) ↔ result.unexpectedRowKeys.Nodup ∧ Distinguishable allowed := by
  rw [normalize_iff, ids, uniqueStrings_iff_of_nodup (nodup_sortedSet _),
    uniqueStrings_iff_of_stripped missingRows.2, uniqueStrings_iff_of_stripped unexpected,
    uniqueStrings_iff_of_stripped columns.2, distinguishable_sortedSet]
  constructor
  · rintro ⟨-, apart, -, once, -⟩
    exact ⟨once, apart⟩
  · rintro ⟨once, apart⟩
    exact ⟨taken_of_fine fine apart, apart, missingRows.1, once, columns.1⟩

private theorem rowKeys_valid (requirement : CoverageRequirement) : requirement.rowKeys.Nodup ∧
    ∀ key ∈ requirement.rowKeys, key ≠ "" ∧ strip key = key :=
  ⟨requirement.rowKeysUnique, requirement.rowKeysFilled⟩

private theorem nothing_valid : ([] : List String).Nodup ∧ ∀ key ∈ ([] : List String), key ≠ "" ∧ strip key = key :=
  ⟨List.nodup_nil, nofun⟩

private theorem evaluateRows_iff (columns : ColumnsValid requirement) :
    (∃ result, evaluateRows requirement draft typed evidence = .ok result) ↔ ReportableTable requirement typed := by
  have missing : (missingKeys requirement typed).Nodup ∧
      ∀ key ∈ missingKeys requirement typed, key ≠ "" ∧ strip key = key :=
    ⟨requirement.rowKeysUnique.filter _, fun key member => requirement.rowKeysFilled key (List.mem_of_mem_filter member)⟩
  have unexpected : ∀ key ∈ unexpectedKeys requirement typed, key ≠ "" ∧ strip key = key := by
    intro key member
    obtain ⟨there, filled⟩ := List.mem_filter.mp member
    obtain ⟨row, -, rfl⟩ := List.mem_map.mp there
    simp only [Bool.and_eq_true, bne_iff_ne] at filled
    exact ⟨filled.1.2, strip_strip _⟩
  have absent : (sortedSet (typed.rows.flatMap (missingColumnsOf requirement))).Nodup ∧
      ∀ column ∈ sortedSet (typed.rows.flatMap (missingColumnsOf requirement)), column ≠ "" ∧ strip column = column := by
    refine ⟨nodup_sortedSet _, fun column member => ?_⟩
    obtain ⟨row, -, there⟩ := List.mem_flatMap.mp (mem_sortedSet.mp member)
    exact columns.2 column (List.mem_of_mem_filter (mem_sortedSet.mp there))
  rw [evaluateRows, normalize_iff_of_fine fine_tableIssues rfl missing unexpected absent]
  exact ⟨fun ⟨keys, ids⟩ => ⟨keys, ids⟩, fun table => ⟨table.keys, table.ids⟩⟩

/-! ### Other units -/

/-- The evidence that the issues of a typed value report can be told apart: what is unknown, or else what the unit does
not name, and all of it where it is too little. -/
structure ReportableTyped (requirement : CoverageRequirement) (draft : DocumentUnitDraft) (typed : TypedFieldValue)
    (evidence : List String) : Prop where
  unknown : Distinguishable (typed.evidenceIds.filter fun id => !evidence.contains id)
  outside : (∀ id ∈ typed.evidenceIds, id ∈ evidence) →
    Distinguishable (typed.evidenceIds.filter fun id => !draft.evidenceIds.contains id)
  few : typed.evidenceIds.dedup.length < requirement.minEvidenceItems → Distinguishable typed.evidenceIds

/-- The evidence of a unit can be told apart, and what the issues of its typed value report. -/
structure ReportableUnit (requirement : CoverageRequirement) (draft : DocumentUnitDraft) (evidence : List String) :
    Prop where
  ids : Distinguishable draft.evidenceIds
  typed : ∀ typed ∈ draft.typedValue, ¬ (requirement.kind = .scalar ∧ typed.kind = .table) →
    ReportableTyped requirement draft typed evidence

private theorem taken_append {first second : List ReviewIssue} : Taken (first ++ second) ↔ Taken first ∧ Taken second :=
  List.forall_mem_append

private theorem taken_nil : Taken [] :=
  nofun

private theorem taken_one_iff (known : code ∈ issueCodes) :
    Taken [makeIssue requirement code action (sortedSet ids)] ↔ Distinguishable ids := by
  refine List.forall_mem_singleton.trans ((issue_normalize_iff known).trans ?_)
  exact (uniqueStrings_iff_of_nodup (nodup_sortedSet ids)).trans distinguishable_sortedSet

private theorem without_eq_nil : without left right = [] ↔ (left.filter fun id => !right.contains id) = [] := by
  simp [without_eq_nil_iff, List.filter_eq_nil_iff]

private theorem taken_without_iff (known : code ∈ issueCodes) :
    Taken (if without left right = [] then [] else [makeIssue requirement code action (without left right)]) ↔
      Distinguishable (left.filter fun id => !right.contains id) := by
  split
  · rename_i none
    rw [without_eq_nil.mp none]
    exact iff_of_true taken_nil distinguishable_nil
  · exact taken_one_iff known

private theorem taken_typedIssues_iff : Taken (typedIssues requirement draft evidence) ↔
    ∀ typed ∈ draft.typedValue, ¬ (requirement.kind = .scalar ∧ typed.kind = .table) →
      ReportableTyped requirement draft typed evidence := by
  cases shape : draft.typedValue with
  | none =>
    refine iff_of_true (taken_of_fine ?_ distinguishable_nil) nofun
    rw [typedIssues, shape]
    exact forall_mem_if (forall_mem_one (fine_plain (by simp [issueCodes])))
  | some typed =>
    rw [typedIssues, shape]
    simp only [Option.mem_def, Option.some.injEq, forall_eq']
    split
    · rename_i scalarized
      exact iff_of_true (taken_of_fine (forall_mem_one (fine_plain (by simp [issueCodes]))) distinguishable_nil)
        fun other => absurd scalarized other
    · rename_i other
      have bound : Taken (if without typed.evidenceIds evidence = [] ∧
            without typed.evidenceIds draft.evidenceIds = [] then []
          else [makeIssue requirement
            (if without typed.evidenceIds evidence = [] then "evidence_ownership" else "unknown_evidence")
            "bind_evidence_to_current_unit"
            (if without typed.evidenceIds evidence = [] then without typed.evidenceIds draft.evidenceIds
            else without typed.evidenceIds evidence)]) ↔
          Distinguishable (typed.evidenceIds.filter fun id => !evidence.contains id) ∧
            ((∀ id ∈ typed.evidenceIds, id ∈ evidence) →
              Distinguishable (typed.evidenceIds.filter fun id => !draft.evidenceIds.contains id)) := by
        by_cases known : without typed.evidenceIds evidence = []
        · simp only [known, true_and, if_true]
          rw [taken_without_iff (by simp [issueCodes]), without_eq_nil.mp known, and_iff_right distinguishable_nil]
          exact ⟨fun apart _ => apart, fun apart => apart (without_eq_nil_iff.mp known)⟩
        · simp only [known, false_and, if_false]
          refine (taken_one_iff (by simp [issueCodes])).trans (and_iff_left fun all => ?_).symm
          exact absurd (without_eq_nil_iff.mpr all) known
      have few : Taken (if typed.evidenceIds.dedup.length < requirement.minEvidenceItems then
            [makeIssue requirement "insufficient_evidence" "retrieve_more_evidence" (sortedSet typed.evidenceIds)]
          else []) ↔
          (typed.evidenceIds.dedup.length < requirement.minEvidenceItems → Distinguishable typed.evidenceIds) := by
        split
        · rename_i less
          exact (taken_one_iff (by simp [issueCodes])).trans (imp_iff_right less).symm
        · rename_i enough
          exact iff_of_true taken_nil fun less => absurd less enough
      rw [taken_append, bound, few]
      exact ⟨fun ⟨⟨unknown, outside⟩, few⟩ _ => ⟨unknown, outside, few⟩,
        fun reportable => ⟨⟨(reportable other).unknown, (reportable other).outside⟩, (reportable other).few⟩⟩

private theorem evaluateUnit_iff :
    (∃ result, evaluateUnit requirement draft evidence = .ok result) ↔ ReportableUnit requirement draft evidence := by
  have absent : Taken (if draft.evidenceIds = [] then
      [makeIssue requirement "missing_evidence" "retrieve_evidence"] else []) :=
    taken_of_fine (forall_mem_if (forall_mem_one (fine_plain (by simp [issueCodes])))) distinguishable_nil
  rw [evaluateUnit, normalize_iff]
  dsimp only [resultOf]
  rw [uniqueStrings_iff_of_nodup (nodup_sortedSet _), distinguishable_sortedSet, unitIssues, taken_append,
    taken_append, taken_append, taken_typedIssues_iff, taken_without_iff (by simp [issueCodes])]
  constructor
  · rintro ⟨⟨⟨-, typed⟩, -⟩, ids, -⟩
    exact ⟨ids, typed⟩
  · rintro ⟨ids, typed⟩
    have issues := taken_of_fine (@fine_draftIssues requirement draft []) distinguishable_nil
    exact ⟨⟨⟨⟨absent, ids.subset (List.filter_subset_self _)⟩, typed⟩, issues⟩, ids, ⟨_, rfl⟩, ⟨_, rfl⟩, ⟨_, rfl⟩⟩

/-! ### Contracts -/

/-- A requirement whose result can be made: the evidence of its draft can be told apart, or for a fact of several
units that of the assertions under its key, and no two rows have one unexpected key. -/
def Reportable (requirement : CoverageRequirement) (evidence : List String)
    (drafts : OrderedDict String DocumentUnitDraft) : Prop :=
  if requirement.kind = .crossUnit then Distinguishable ((observations requirement drafts).flatMap Prod.snd)
  else ∀ draft ∈ draftForUnit drafts requirement.unitId,
    if requirement.kind = .table then
      ∀ typed ∈ draft.typedValue, typed.kind = .table → ReportableTable requirement typed
    else ReportableUnit requirement draft evidence

private theorem normalize_plain (fine : ∀ issue ∈ result.issues, Fine [] issue)
    (rows : result.missingRowKeys.Nodup ∧ ∀ key ∈ result.missingRowKeys, key ≠ "" ∧ strip key = key)
    (ids : result.evidenceIds = []) (unexpected : result.unexpectedRowKeys = [])
    (columns : result.missingColumns = []) : ∃ made, result.normalize = .ok made := by
  refine (normalize_iff_of_fine fine (ids.trans (by simp [sortedSet])) rows ?_ ?_).mpr ⟨?_, distinguishable_nil⟩
  · rw [unexpected]
    exact List.forall_mem_nil _
  · rw [columns]
    exact nothing_valid
  · rw [unexpected]
    exact List.nodup_nil

private theorem evaluateTable_iff (columns : ColumnsValid requirement) :
    (∃ result, evaluateTable requirement draft evidence = .ok result) ↔
      ∀ typed ∈ draft.typedValue, typed.kind = .table → ReportableTable requirement typed := by
  have scalarized : (∃ result, evaluateTable requirement draft evidence = .ok result) ∨
      ∃ typed, draft.typedValue = some typed ∧ typed.kind = .table := by
    cases shape : draft.typedValue.filter (·.kind = .table) with
    | none =>
      left
      rw [evaluateTable, shape]
      exact normalize_plain (forall_mem_one (fine_plain (by simp [issueCodes]))) (rowKeys_valid requirement) rfl rfl
        rfl
    | some typed =>
      obtain ⟨there, table⟩ := Option.filter_eq_some_iff.mp shape
      exact Or.inr ⟨typed, there, of_decide_eq_true table⟩
  by_cases table : ∃ typed, draft.typedValue = some typed ∧ typed.kind = .table
  · obtain ⟨typed, there, kind⟩ := table
    have shape : draft.typedValue.filter (·.kind = .table) = some typed :=
      Option.filter_eq_some_iff.mpr ⟨there, decide_eq_true kind⟩
    rw [evaluateTable, shape]
    simp only [there, Option.mem_def, Option.some.injEq, forall_eq', kind, true_imp_iff]
    exact evaluateRows_iff columns
  · exact iff_of_true (scalarized.resolve_right table) fun typed there kind => absurd ⟨typed, there, kind⟩ table

private theorem evaluateMissing_ok : ∃ result, evaluateMissing requirement = .ok result := by
  refine normalize_plain (forall_mem_one (fine_plain (by simp [issueCodes]))) ?_ rfl rfl rfl
  dsimp only
  split
  · exact rowKeys_valid requirement
  · exact nothing_valid

private theorem evaluateCrossUnit_iff : (∃ result, evaluateCrossUnit requirement drafts = .ok result) ↔
      Distinguishable ((observations requirement drafts).flatMap Prod.snd) := by
  rw [evaluateCrossUnit, normalize_iff_of_fine ?_ rfl nothing_valid (fun _ none => absurd none List.not_mem_nil)
    nothing_valid]
  · exact and_iff_right List.nodup_nil
  · dsimp only [resultOf]
    split
    · refine forall_mem_one ⟨by simp [makeIssue, issueCodes], nodup_sortedSet _, fun id => mem_sortedSet.mp⟩
    · exact forall_mem_if (forall_mem_one (fine_plain (by simp [issueCodes])))

private theorem evaluateRequirement_iff (columns : ColumnsValid requirement) :
    (∃ result, evaluateRequirement requirement evidence drafts = .ok result) ↔
      Reportable requirement evidence drafts := by
  rw [evaluateRequirement, Reportable]
  split
  · exact evaluateCrossUnit_iff
  · cases draftForUnit drafts requirement.unitId with
    | none => exact iff_of_true evaluateMissing_ok (by simp)
    | some =>
      simp only [Option.mem_def, Option.some.injEq, forall_eq']
      split
      · exact evaluateTable_iff columns
      · exact evaluateUnit_iff

private theorem exists_foldlM_iff {σ ε α β : Type} {outcome : α → Except ε β} {add : σ → α → β → σ} {items : List α} :
    ∀ start, (∃ final, items.foldlM (fun state item => do
      let value ← outcome item
      return add state item value) start = .ok final) ↔ ∀ item ∈ items, ∃ value, outcome item = .ok value := by
  induction items with
  | nil => exact fun start => iff_of_true ⟨start, rfl⟩ nofun
  | cons item rest ih =>
    intro start
    rw [List.forall_mem_cons, List.foldlM_cons, exists_bind_iff]
    constructor
    · rintro ⟨state, one, others⟩
      obtain ⟨value, done, -⟩ := exists_of_bind_eq_ok one
      exact ⟨⟨value, done⟩, (ih state).mp others⟩
    · rintro ⟨⟨value, done⟩, others⟩
      exact ⟨add start item value, by rw [done]; rfl, (ih _).mpr others⟩

/-- The evaluation of a contract returns a report when the results of all its requirements can be made. -/
theorem evaluate_reports_iff {requirements : List CoverageRequirement} {drafts : List DocumentUnitDraft}
    {registry : List String} (columns : ∀ requirement ∈ requirements, ColumnsValid requirement) :
    (∃ report, evaluate requirements drafts registry = .ok report) ↔
      ∀ requirement ∈ requirements, Reportable requirement (registryIds registry) (draftMap drafts) := by
  have results : (∃ report, evaluate requirements drafts registry = .ok report) ↔ ∀ requirement ∈ requirements,
      ∃ result, evaluateRequirement requirement (registryIds registry) (draftMap drafts) = .ok result := by
    rw [← exists_foldlM_iff, evaluate, exists_bind_iff]
    constructor
    · rintro ⟨results, done, -⟩
      exact ⟨results, done⟩
    · rintro ⟨results, done⟩
      exact ⟨results, done, _, rfl⟩
  rw [results]
  exact forall₂_congr fun requirement member => evaluateRequirement_iff (columns requirement member)

/-- A draft with as many rows for an interface that the contract does not know. -/
def strayDraft (rows : Nat) : DocumentUnitDraft :=
  { interfaceDraft 0 with
    typedValue := some
      { kind := .table, evidenceIds := ["e2"], rows := List.replicate rows { interfaceRow with rowKey := "J9" } } }

/-- One row of an unexpected key is reported. -/
theorem one_stray_key_is_reported : ∃ report, evaluate [interfaces .reject] [strayDraft 1] ["e2"] = .ok report := by
  refine (evaluate_reports_iff (List.forall_mem_singleton.mpr ⟨List.nodup_singleton _, by decide⟩)).mpr
    (List.forall_mem_singleton.mpr ?_)
  rw [Reportable, if_neg (by decide), show draftForUnit _ _ = some (strayDraft 1) by rfl]
  rintro draft ⟨⟩
  rw [if_pos (by decide)]
  rintro typed ⟨⟩ -
  exact ⟨by decide, by decide, by decide⟩

/-- The message of a failure. -/
def failureOf {α : Type} : Except String α → Option String
  | .error message => some message
  | .ok _ => none

/-- Two rows of one unexpected key: the result lists the key twice, and its validator raises. -/
theorem repeated_stray_key_raises : failureOf (evaluate [interfaces .reject] [strayDraft 2] ["e2"]) =
      some "unexpected_row_keys entries must be unique" := by
  decide +kernel

end HardwareDatabase.Coverage
