/-
Module: HardwareDatabase.Proofs.CoverageHonesty
Purpose: What a requirement that is reported as complete says of its draft.
Trusted boundary: none
-/
import HardwareDatabase.Planning.Coverage
import HardwareDatabase.Relational.Table

namespace HardwareDatabase.Coverage

open Python Relational

variable {requirement : CoverageRequirement} {draft : DocumentUnitDraft} {typed : TypedFieldValue}
  {evidence : List String} {result : CoverageRequirementResult}

/-! ### Evidence -/

/-- The row names evidence, which is known and bound to the unit, and its cells name evidence of the row. -/
structure Backed (draft : DocumentUnitDraft) (typed : TypedFieldValue) (evidence : List String)
    (row : TypedTableRow) : Prop where
  named : row.evidenceIds ≠ []
  known : ∀ id ∈ row.evidenceIds, id ∈ evidence
  owned : ∀ id ∈ row.evidenceIds, id ∈ typed.evidenceIds ∨ id ∈ draft.evidenceIds
  cells : ∀ column ∈ row.cells.keys, ∀ id ∈ cellIds row column, id ∈ row.evidenceIds

/-- No key stands in two rows. -/
def SingleKeys (typed : TypedFieldValue) : Prop :=
  ∀ key ∈ actualKeys typed, key ≠ "" → (actualKeys typed).count key = 1

/-- What a complete table is. -/
structure CoveredTable (requirement : CoverageRequirement) (draft : DocumentUnitDraft) (typed : TypedFieldValue)
    (evidence : List String) (result : CoverageRequirementResult) : Prop where
  counted : result.coveredCount = typed.rows.countP (countsAsValid requirement evidence)
  backed : ∀ row ∈ typed.rows, countsAsValid requirement evidence row = true → Backed draft typed evidence row
  present : ∀ key ∈ requirement.rowKeys, key ∈ actualKeys typed
  inside : requirement.rowKeys ≠ [] → ∀ key ∈ actualKeys typed, key ∈ requirement.rowKeys
  once : requirement.duplicatePolicy = .reject → ∀ key ∈ requirement.rowKeys, (actualKeys typed).count key = 1
  counts : requirement.duplicatePolicy = .reject ∨ SingleKeys typed → typed.rows ≠ [] →
    (∀ row ∈ typed.rows, row.evidenceIds ≠ []) → result.coveredCount = result.expectedCount

/-- What a complete unit is that is not a table. -/
structure CoveredUnit (draft : DocumentUnitDraft) (evidence : List String) (result : CoverageRequirementResult) :
    Prop where
  counts : result.coveredCount = result.expectedCount
  named : draft.evidenceIds ≠ []
  known : ∀ id ∈ draft.evidenceIds, id ∈ evidence

/-- What a complete requirement says of the drafts. -/
def Covered (requirement : CoverageRequirement) (evidence : List String)
    (drafts : OrderedDict String DocumentUnitDraft) (result : CoverageRequirementResult) : Prop :=
  if requirement.kind = .crossUnit then result.coveredCount = result.expectedCount
  else ∃ draft, draftForUnit drafts requirement.unitId = some draft ∧
    if requirement.kind = .table then
      ∃ typed, draft.typedValue = some typed ∧ CoveredTable requirement draft typed evidence result
    else CoveredUnit draft evidence result

/-! ### Results -/

theorem normalize_spec {made : CoverageRequirementResult} (normalized : result.normalize = .ok made) :
    made.status = result.status ∧ made.expectedCount = result.expectedCount ∧
      made.coveredCount = result.coveredCount := by
  obtain ⟨_, -, rest⟩ := exists_of_bind_eq_ok normalized
  obtain ⟨_, -, rest⟩ := exists_of_bind_eq_ok rest
  obtain ⟨_, -, rest⟩ := exists_of_bind_eq_ok rest
  obtain ⟨_, -, rest⟩ := exists_of_bind_eq_ok rest
  obtain ⟨_, -, rest⟩ := exists_of_bind_eq_ok rest
  cases rest
  exact ⟨rfl, rfl, rfl⟩

theorem statusOf_eq_complete_iff {codes : List String} {other : Status} {issues : List ReviewIssue}
    (different : other ≠ .complete) : statusOf codes other issues = .complete ↔ issues = [] := by
  rw [statusOf]
  split
  · simpa
  · rename_i some
    refine iff_of_false ?_ some
    split
    · decide
    · exact different

theorem without_eq_nil_iff {left right : List String} : without left right = [] ↔ ∀ item ∈ left, item ∈ right := by
  rw [List.eq_nil_iff_forall_not_mem]
  simp [without, mem_sortedSet]

/-! ### Rows without issues -/

theorem row_of_no_issues {row : TypedTableRow} (clean : rowIssues requirement draft typed evidence row = []) :
    (row.evidenceIds ≠ [] → Backed draft typed evidence row) ∧
      (countsAsValid requirement evidence row = true ↔ row.evidenceIds ≠ [] ∧
        (requirement.rowKeys = [] ∨ strip row.rowKey ≠ "" ∧ strip row.rowKey ∈ requirement.rowKeys)) := by
  simp only [rowIssues, List.append_eq_nil_iff, ite_eq_left_iff, List.cons_ne_nil, imp_false, not_not,
    List.map_eq_nil_iff, List.flatMap_eq_nil_iff] at clean
  obtain ⟨⟨⟨⟨unknown, outside⟩, missing⟩, extra⟩, cells⟩ := clean
  rw [without_eq_nil_iff] at unknown outside
  constructor
  · intro named
    refine ⟨named, unknown, fun id member => List.mem_append.mp (outside id member), ?_⟩
    intro column there id member
    obtain ⟨cell, inside, rfl⟩ := List.mem_map.mp there
    have free := cells cell inside
    simp only [cellIssues, List.append_eq_nil_iff, ite_eq_left_iff, List.cons_ne_nil, imp_false, not_not] at free
    exact without_eq_nil_iff.mp free.1.1 id member
  · have key : requirement.rowKeys.any (fun key => rowKeyOf row == some key) = true ↔
        strip row.rowKey ≠ "" ∧ strip row.rowKey ∈ requirement.rowKeys := by
      simp only [List.any_eq_true, beq_iff_eq, rowKeyOf, cleanText, Option.map_some, Option.filter_eq_some_iff,
        Option.some.injEq, bne_iff_ne]
      constructor
      · rintro ⟨_, there, rfl, filled⟩
        exact ⟨filled, there⟩
      · rintro ⟨filled, there⟩
        exact ⟨_, there, rfl, filled⟩
    have every : (row.cells.entries.all fun cell => decide (cellIssues requirement evidence row cell = [])) = true :=
      List.all_eq_true.mpr fun cell inside => decide_eq_true (cells cell inside)
    simp [countsAsValid, missing, extra, key, every, List.isEmpty_iff]

theorem keys_of_no_issues (clean : keyIssues requirement typed = []) :
    (∀ key ∈ requirement.rowKeys, key ∈ actualKeys typed) ∧
      (requirement.rowKeys ≠ [] → ∀ key ∈ actualKeys typed, key ≠ "" ∧ key ∈ requirement.rowKeys) ∧
      (requirement.duplicatePolicy = .reject → SingleKeys typed) := by
  simp only [keyIssues, List.append_eq_nil_iff, List.map_eq_nil_iff] at clean
  obtain ⟨⟨⟨⟨⟨blank, missing⟩, unexpected⟩, duplicates⟩, -⟩, -⟩ := clean
  refine ⟨fun key there => ?_, fun some key member => ?_, fun policy key member filled => ?_⟩
  · simpa [missingKeys] using List.filter_eq_nil_iff.mp missing key there
  · rw [if_neg some, List.map_eq_nil_iff, List.filter_eq_nil_iff] at blank
    have filled : key ≠ "" := by simpa using blank key member
    have known := List.filter_eq_nil_iff.mp unexpected key member
    simp only [Bool.and_eq_true, Bool.not_eq_true', bne_iff_ne, List.isEmpty_eq_false_iff, ne_eq, not_and,
      Bool.not_eq_false, List.contains_iff_mem] at known
    exact ⟨filled, known ⟨some, filled⟩⟩
  · rw [if_pos policy, List.map_eq_nil_iff, duplicateKeys, List.eq_nil_iff_forall_not_mem] at duplicates
    have few := duplicates key
    rw [mem_sortedSet, List.mem_filter] at few
    have positive := List.count_pos_iff.mpr member
    have bounded : ¬ 1 < (actualKeys typed).count key := fun more => few ⟨member, by simp [filled, more]⟩
    omega

theorem length_rowKeys (present : ∀ key ∈ requirement.rowKeys, key ∈ actualKeys typed)
    (inside : ∀ key ∈ actualKeys typed, key ∈ requirement.rowKeys)
    (once : ∀ key ∈ actualKeys typed, (actualKeys typed).count key = 1) :
    requirement.rowKeys.length = typed.rows.length := by
  have distinct : (actualKeys typed).Nodup := List.nodup_iff_count_eq_one.mpr once
  have permuted : requirement.rowKeys.Perm (actualKeys typed) :=
    (List.perm_ext_iff_of_nodup requirement.rowKeysUnique distinct).mpr fun key => ⟨present key, inside key⟩
  rw [permuted.length_eq, actualKeys, List.length_map]

theorem coveredTable_of_complete (evaluated : evaluateRows requirement draft typed evidence = .ok result)
    (complete : result.status = .complete) : CoveredTable requirement draft typed evidence result := by
  obtain ⟨status, expected, counted⟩ := normalize_spec evaluated
  have clean := (statusOf_eq_complete_iff (by decide)).mp (status.symm.trans complete)
  simp only [List.append_eq_nil_iff, List.flatMap_eq_nil_iff] at clean
  obtain ⟨⟨keys, rows⟩, -⟩ := clean
  obtain ⟨present, inside, once⟩ := keys_of_no_issues keys
  refine ⟨counted, ?_, present, fun some key member => (inside some key member).2, ?_, ?_⟩
  · intro row member valid
    obtain ⟨backed, valid_iff⟩ := row_of_no_issues (rows row member)
    exact backed (valid_iff.mp valid).1
  · intro policy key there
    exact once policy key (present key there) (requirement.rowKeysFilled key there).1
  · intro single some named
    have single : SingleKeys typed := single.elim once id
    have all : typed.rows.countP (countsAsValid requirement evidence) = typed.rows.length := by
      refine List.countP_eq_length.mpr fun row member => (row_of_no_issues (rows row member)).2.mpr
        ⟨named row member, ?_⟩
      by_cases free : requirement.rowKeys = []
      · exact .inl free
      · exact .inr (inside free _ (List.mem_map_of_mem member))
    have size : lengthOr requirement.rowKeys (max 1 typed.rows.length) = typed.rows.length := by
      rw [lengthOr]
      split
      · exact Nat.max_eq_right (List.length_pos_iff.mpr some)
      · rename_i free
        exact length_rowKeys present (fun key member => (inside free key member).2)
          fun key member => single key member (inside free key member).1
    rw [counted, expected]
    exact all.trans size.symm

theorem coveredUnit_of_complete (evaluated : evaluateUnit requirement draft evidence = .ok result)
    (complete : result.status = .complete) : CoveredUnit draft evidence result := by
  obtain ⟨status, expected, counted⟩ := normalize_spec evaluated
  have completed := status.symm.trans complete
  have clean := (statusOf_eq_complete_iff (by decide)).mp completed
  simp only [unitIssues, List.append_eq_nil_iff, ite_eq_left_iff, ite_eq_right_iff, List.cons_ne_nil, imp_false,
    not_not] at clean
  obtain ⟨⟨⟨named, known⟩, -⟩, -⟩ := clean
  exact ⟨by rw [counted, expected]; exact if_pos completed, named, without_eq_nil_iff.mp known⟩

/-! ### Contracts -/

theorem covered_of_complete {drafts : OrderedDict String DocumentUnitDraft}
    (evaluated : evaluateRequirement requirement evidence drafts = .ok result)
    (complete : result.status = .complete) : Covered requirement evidence drafts result := by
  rw [evaluateRequirement] at evaluated
  unfold Covered
  split at evaluated
  · rename_i cross
    obtain ⟨status, expected, counted⟩ := normalize_spec evaluated
    rw [if_pos cross, counted, expected]
    exact if_pos (status.symm.trans complete)
  · rename_i own
    rw [if_neg own]
    cases found : draftForUnit drafts requirement.unitId with
    | none =>
      rw [found] at evaluated
      obtain ⟨status, -⟩ := normalize_spec evaluated
      exact absurd (status.symm.trans complete) (by simp [resultOf])
    | some draft =>
      rw [found] at evaluated
      refine ⟨draft, rfl, ?_⟩
      dsimp only at evaluated
      split at evaluated
      · rename_i table
        rw [if_pos table]
        rw [evaluateTable] at evaluated
        split at evaluated
        · rename_i typed shape
          exact ⟨typed, (Option.filter_eq_some_iff.mp shape).1, coveredTable_of_complete evaluated complete⟩
        · obtain ⟨status, -⟩ := normalize_spec evaluated
          exact absurd (status.symm.trans complete) (by simp [resultOf])
      · rename_i other
        rw [if_neg other]
        exact coveredUnit_of_complete evaluated complete

/-- The ids of a registry. -/
def registryIds (registry : List String) : List String :=
  (registry.map strip).filter (· != "")

/-- A requirement that a report shows as complete is covered. -/
theorem complete_is_covered {requirements : List CoverageRequirement} {drafts : List DocumentUnitDraft}
    {registry : List String} {report : CoverageReport} {id : String}
    (evaluated : evaluate requirements drafts registry = .ok report)
    (found : report.requirementResults.get? id = some result) (complete : result.status = .complete) :
    ∃ requirement ∈ requirements, requirement.requirementId = id ∧
      Covered requirement (registryIds registry) (draftMap drafts) result := by
  obtain ⟨results, looped, made⟩ := exists_of_bind_eq_ok evaluated
  cases made
  -- each entry comes from a requirement
  have entries : ∀ id result, results.get? id = some result → ∃ requirement ∈ requirements,
      requirement.requirementId = id ∧
        evaluateRequirement requirement (registryIds registry) (draftMap drafts) = .ok result := by
    refine foldlM_keeps (fun known : OrderedDict String CoverageRequirementResult => ∀ id result,
      known.get? id = some result → ∃ requirement ∈ requirements, requirement.requirementId = id ∧
        evaluateRequirement requirement (registryIds registry) (draftMap drafts) = .ok result) ?_ ?_ looped
    · intro known after requirement member inv step id result shown
      obtain ⟨own, done, assigned⟩ := exists_of_bind_eq_ok step
      cases assigned
      rw [OrderedDict.get?_assign] at shown
      split at shown
      · rename_i same
        cases shown
        exact ⟨requirement, member, same.symm, done⟩
      · exact inv id result shown
    · intro id result shown
      cases shown
  obtain ⟨requirement, member, own, done⟩ := entries id result found
  exact ⟨requirement, member, own, covered_of_complete done complete⟩

/-- A contract for one interface, with one column. -/
def interfaces (policy : DuplicatePolicy) : CoverageRequirement where
  requirementId := "interfaces"
  unitId := "interfaces"
  kind := .table
  rowKeys := ["J1"]
  requiredColumns := ["pin"]
  rowOrder := .input
  duplicatePolicy := policy
  rowKeysUnique := List.nodup_singleton _
  rowKeysFilled := by decide
  tableColumns := by simp
  tableOnly := by simp

/-- A row for the interface. -/
def interfaceRow : TypedTableRow where
  rowKey := "J1"
  cells := .ofEntries [("pin", "P13.0")]
  evidenceIds := ["e2"]

/-- A draft with as many rows for the interface. -/
def interfaceDraft (rows : Nat) : DocumentUnitDraft where
  unitId := "field:interfaces"
  evidenceIds := ["e2"]
  typedValue := some { kind := .table, evidenceIds := ["e2"], rows := List.replicate rows interfaceRow }

/-- What a report shows of a requirement: its status, and the counts. -/
def shownCounts (report : Except String CoverageReport) (id : String) : Option (Status × Nat × Nat) :=
  (report.toOption.bind fun report => report.requirementResults.get? id).map fun result =>
    (result.status, result.coveredCount, result.expectedCount)

theorem exists_of_shownCounts {requirements : List CoverageRequirement} {drafts : List DocumentUnitDraft}
    {registry : List String} {id : String} {status : Status} {covered expected : Nat}
    (shown : shownCounts (evaluate requirements drafts registry) id = some (status, covered, expected)) :
    ∃ report result, evaluate requirements drafts registry = .ok report ∧
      report.requirementResults.get? id = some result ∧
        result.status = status ∧ result.coveredCount = covered ∧ result.expectedCount = expected := by
  rw [shownCounts, Option.map_eq_some_iff] at shown
  obtain ⟨result, found, counts⟩ := shown
  obtain ⟨report, evaluated, found⟩ := Option.bind_eq_some_iff.mp found
  cases done : evaluate requirements drafts registry with
  | error =>
    rw [done] at evaluated
    cases evaluated
  | ok =>
    rw [done] at evaluated
    cases evaluated
    cases counts
    exact ⟨_, result, rfl, found, rfl, rfl, rfl⟩

/-- A table with its one row. -/
theorem interface_is_covered : ∃ result, result.status = .complete ∧
    ∃ requirement ∈ [interfaces .reject], requirement.requirementId = "interfaces" ∧
      Covered requirement (registryIds ["e1", "e2"]) (draftMap [interfaceDraft 1]) result := by
  obtain ⟨report, result, evaluated, found, complete, -, -⟩ := @exists_of_shownCounts [interfaces .reject]
    [interfaceDraft 1] ["e1", "e2"] "interfaces" .complete 1 1 (by decide +kernel)
  exact ⟨result, complete, complete_is_covered evaluated found complete⟩

/-- Where duplicates are allowed, a table with two rows of its one key is complete, and two rows of one are counted. -/
theorem allowed_duplicates_are_complete :
    shownCounts (evaluate [interfaces .allow] [interfaceDraft 2] ["e1", "e2"]) "interfaces" = some (.complete, 2, 1) ∧
      ((interfaceDraft 2).typedValue.map fun typed => (actualKeys typed).count "J1") = some 2 := by
  decide +kernel

end HardwareDatabase.Coverage
