/-
Module: HardwareDatabase.Proofs.DeleteFrame
Purpose: The frame of `MemoryService.delete`: the subquery that selects the runs to scrub refers to each run's own
  column.
Trusted boundary: none
-/
import HardwareDatabase.Memory.Governance
import HardwareDatabase.Proofs.Retirement
import HardwareDatabase.Proofs.Staging

namespace HardwareDatabase.Memory

open Relational

/-- The run has a run item for the memory. -/
def hasItemFor (tables : Tables) (memoryId : Nat) (run : Run) : Bool :=
  tables.runItems.any fun item => item.memoryId == some memoryId && item.runId == run.runId

/-- The rows that belong to other memories, and the runs without an item for this one, are the same
rows in the same order. -/
structure DeleteFrame (tables after : Tables) (memoryId : Nat) : Prop where
  runs : after.runs.filter (fun run => !hasItemFor tables memoryId run) =
    tables.runs.filter fun run => !hasItemFor tables memoryId run
  records : after.records.filter (fun record => record.memoryId != memoryId) =
    tables.records.filter fun record => record.memoryId != memoryId
  revisions : after.revisions.filter (fun revision => revision.memoryId != memoryId) =
    tables.revisions.filter fun revision => revision.memoryId != memoryId
  sources : after.sources.filter (fun source => source.memoryId != memoryId) =
    tables.sources.filter fun source => source.memoryId != memoryId
  projections : after.projections.filter (fun projection => projection.memoryId != memoryId) =
    tables.projections.filter fun projection => projection.memoryId != memoryId

/-- The tables after a call of `delete`: a failed call rolls back. -/
def afterDelete (contentHash : Content → String) (tables : Tables) (manages : Scope → Bool)
    (memoryId expectedRevision : Nat) (reason : String) (now : Time) : Tables :=
  match delete contentHash tables manages memoryId expectedRevision reason now with
  | .ok tables => tables
  | .error _ => tables

theorem inRunItemsOf_job_id (tables : Tables) (memoryId : Nat) (run : Run) :
    inRunItemsOf tables "job_id" memoryId run = true ↔ ∃ item ∈ tables.runItems, item.memoryId = some memoryId := by
  have own : runColumns "job_id" = some Run.jobId := rfl
  have missing : runItemColumns "job_id" = none := rfl
  rw [inRunItemsOf, inSubquery_of_outer own missing]
  simp

variable {record : Record} {memoryId expectedRevision : Nat} {manages : Scope → Bool} {tables : Tables}

theorem requireManaged_memoryId (managed : requireManaged tables manages memoryId expectedRevision = .ok record) :
    getRecord tables memoryId = some record := by
  unfold requireManaged at managed
  cases found : getRecord tables memoryId with
  | none => simp [found] at managed
  | some =>
    simp only [found] at managed
    split at managed
    · cases managed
    · split at managed
      · cases managed
      · cases managed
        rfl

theorem delete_ok (contentHash : Content → String) (reason : String) (now : Time)
    (unique : UniqueOn Projection.projectionId tables.projections)
    (managed : requireManaged tables manages memoryId expectedRevision = .ok record) :
    ∃ after, delete contentHash tables manages memoryId expectedRevision reason now = .ok after ∧
      after.runs = updateWhere (inRunItemsOf tables "job_id" memoryId) Run.scrub tables.runs ∧
      after.records = deleteWhere (fun record => record.memoryId == memoryId)
        (updateWhere (fun record => record.memoryId == memoryId)
          (Record.entomb contentHash .deleted (record.currentRevision + 1) now) tables.records) ∧
      after.revisions = deleteWhere (fun revision => revision.memoryId == memoryId)
        (updateWhere (fun revision => revision.memoryId == memoryId)
          (fun revision => { revision with before := none, after := none }) tables.revisions ++
          [{ memoryId, revisionNo := record.currentRevision + 1, projectionId := none,
             before := none, after := none, operation := "delete" }]) ∧
      after.sources = deleteWhere (fun source => source.memoryId == memoryId)
        (updateWhere (fun source => source.memoryId == memoryId) (fun source => { source with
            sourceValid := false, invalidatedAt := source.invalidatedAt <|> some now })
          tables.sources) ∧
      after.projections =
        updateWhere (Projection.unretiredOf memoryId) (Projection.retired now)
          tables.projections := by
  have frame := retireAll_withoutProjections Projection.currentRevision reason reason now tables
    memoryId
  have retired := retireAll_projections Projection.currentRevision reason reason now unique memoryId
  have records := congrArg Tables.records frame
  have revisions := congrArg Tables.revisions frame
  have sources := congrArg Tables.sources frame
  have runs := congrArg Tables.runs frame
  have runItems := congrArg Tables.runItems frame
  simp only [Tables.withoutProjections] at records revisions sources runs runItems
  obtain ⟨member, sameId⟩ := mem_of_getRecord (requireManaged_memoryId managed)
  simp only [delete, retireGoverned, managed, governed_retirement_eq unique, bind, Except.bind,
    pure, Except.pure, if_true]
  generalize retireAll Projection.currentRevision reason reason now tables memoryId = base at *
  -- the tombstone just written is found again, so the purge goes through
  have purged : ∀ state : Tables, state.records = updateWhere (fun row => row.memoryId == memoryId)
        (Record.entomb contentHash .deleted (record.currentRevision + 1) now) tables.records →
      purgeDeletedRecord state memoryId = .ok (purgeRows state memoryId) := by
    intro state rewritten
    rw [purgeDeletedRecord]
    cases found : getRecord state memoryId with
    | none =>
      have missing := List.find?_eq_none.mp found
      rw [rewritten] at missing
      have absent := missing _ (mem_updateWhere_of_mem member)
      simp [sameId, Record.entomb, Record.redact] at absent
    | some row =>
      obtain ⟨rowMember, rowId⟩ := mem_of_getRecord found
      rw [rewritten] at rowMember
      have dead : row.status = .deleted := by
        rcases mem_updateWhere.mp rowMember with ⟨old, _, _, rfl⟩ | ⟨_, skipped⟩
        · rfl
        · simp [rowId] at skipped
      simp [dead]
  rw [purged _ (by rw [← records]; rfl)]
  refine ⟨_, rfl, ?_, ?_, ?_, ?_, ?_⟩
  · have sameItems : inRunItemsOf base "job_id" memoryId = inRunItemsOf tables "job_id" memoryId := by
      funext run
      simp only [inRunItemsOf, runItems]
    rw [← sameItems, ← runs]
    rfl
  · rw [← records]
    rfl
  · rw [← revisions]
    rfl
  · rw [← sources]
    rfl
  · rw [← retired]
    rfl

theorem delete_frames_rows (contentHash : Content → String) {after : Tables} {reason : String}
    {now : Time} (unique : UniqueOn Projection.projectionId tables.projections)
    (managed : requireManaged tables manages memoryId expectedRevision = .ok record)
    (deleted : delete contentHash tables manages memoryId expectedRevision reason now = .ok after) :
    after.records.filter (fun record => record.memoryId != memoryId) =
        tables.records.filter (fun record => record.memoryId != memoryId) ∧
      after.revisions.filter (fun revision => revision.memoryId != memoryId) =
        tables.revisions.filter (fun revision => revision.memoryId != memoryId) ∧
      after.sources.filter (fun source => source.memoryId != memoryId) =
        tables.sources.filter (fun source => source.memoryId != memoryId) ∧
      after.projections.filter (fun projection => projection.memoryId != memoryId) =
        tables.projections.filter (fun projection => projection.memoryId != memoryId) := by
  obtain ⟨result, accepted, _, records, revisions, sources, projections⟩ :=
    delete_ok contentHash reason now unique managed
  have same : result = after := Except.ok.inj (accepted.symm.trans deleted)
  subst same
  rw [records, revisions, sources, projections]
  refine ⟨?_, ?_, ?_, ?_⟩
  · rw [filter_deleteWhere _ (by simp), filter_updateWhere _ (by simp) (by simp [Record.entomb, Record.redact])]
  · rw [filter_deleteWhere _ (by simp), List.filter_append, filter_updateWhere _ (by simp) (by simp)]
    simp
  · rw [filter_deleteWhere _ (by simp), filter_updateWhere _ (by simp) (by simp)]
  · apply filter_updateWhere
    · intro projection _ selected
      simp only [Projection.unretiredOf, Bool.and_eq_true, beq_iff_eq] at selected
      simp [selected.1]
    · intro projection _ selected
      simp only [Projection.unretiredOf, Bool.and_eq_true, beq_iff_eq] at selected
      simp [Projection.retired, Projection.retire, selected.1]

/-- A call of `delete` leaves every other memory's rows and every run without an item for the memory
alone exactly when it is refused, the memory has no run item, or those runs hold no output and no
snapshot reference. -/
theorem delete_frame_iff (contentHash : Content → String) (tables : Tables)
    (manages : Scope → Bool) (memoryId expectedRevision : Nat) (reason : String) (now : Time)
    (unique : UniqueOn Projection.projectionId tables.projections) : DeleteFrame tables
        (afterDelete contentHash tables manages memoryId expectedRevision reason now) memoryId ↔
      (∀ record, requireManaged tables manages memoryId expectedRevision ≠ .ok record) ∨
      (∀ item ∈ tables.runItems, item.memoryId ≠ some memoryId) ∨
      (∀ run ∈ tables.runs, hasItemFor tables memoryId run = false →
        run.outputPayload = none ∧ run.snapshotRef = none) := by
  cases managed : requireManaged tables manages memoryId expectedRevision with
  | error =>
    have refused : afterDelete contentHash tables manages memoryId expectedRevision reason now =
        tables := by
      simp only [afterDelete, delete, retireGoverned, managed, bind, Except.bind]
    rw [refused]
    constructor
    · exact fun _ => Or.inl (fun record => by simp)
    · exact fun _ => ⟨rfl, rfl, rfl, rfl, rfl⟩
  | ok record =>
    obtain ⟨after, accepted, runs, _⟩ := delete_ok contentHash reason now unique managed
    have result : afterDelete contentHash tables manages memoryId expectedRevision reason now =
        after := by
      simp only [afterDelete, accepted]
    rw [result]
    obtain ⟨otherRecords, otherRevisions, otherSources, otherProjections⟩ :=
      delete_frames_rows contentHash unique managed accepted
    by_cases hasItem : ∃ item ∈ tables.runItems, item.memoryId = some memoryId
    · -- the subquery selects every run
      have everyRun : after.runs = tables.runs.map Run.scrub := by
        rw [runs, updateWhere]
        apply List.map_congr_left
        intro run _
        rw [if_pos ((inRunItemsOf_job_id tables memoryId run).mpr hasItem)]
      have scrubbedFilter :
          after.runs.filter (fun run => !hasItemFor tables memoryId run) =
            (tables.runs.filter fun run => !hasItemFor tables memoryId run).map Run.scrub := by
        rw [everyRun, List.filter_map]
        rfl
      constructor
      · intro frame
        right
        right
        intro run member untouched
        have listed : run ∈ tables.runs.filter fun run => !hasItemFor tables memoryId run := by
          simp [member, untouched]
        have kept := scrubbedFilter.symm.trans frame.runs
        have fixed := List.map_inj_left.mp (kept.trans (List.map_id _).symm) run listed
        rw [id] at fixed
        rw [← fixed]
        exact ⟨rfl, rfl⟩
      · rintro (refused | noItem | scrubbed)
        · exact absurd rfl (refused record)
        · obtain ⟨item, member, same⟩ := hasItem
          exact absurd same (noItem item member)
        · refine ⟨?_, otherRecords, otherRevisions, otherSources, otherProjections⟩
          rw [scrubbedFilter]
          apply (List.map_congr_left _).trans (List.map_id _)
          intro run listed
          obtain ⟨member, untouched⟩ := List.mem_filter.mp listed
          obtain ⟨noOutput, noReference⟩ := scrubbed run member (by simpa using untouched)
          cases run
          simp_all [Run.scrub]
    · have noRun : after.runs = tables.runs := by
        rw [runs]
        apply updateWhere_eq_self
        intro run _ selected
        exact absurd ((inRunItemsOf_job_id tables memoryId run).mp selected) hasItem
      constructor
      · intro _
        right
        left
        intro item member same
        exact hasItem ⟨item, member, same⟩
      · intro _
        exact ⟨by rw [noRun], otherRecords, otherRevisions, otherSources, otherProjections⟩

/-- A run of one project session whose output is waiting to be applied. -/
def waitingRun (runId jobId : Nat) (turnId : String) : Run :=
  let key : RunKey :=
    { kind := .projectReflection, consentEventId := none, scope := .project "hw" "kb",
      targetTurnId := turnId, targetMessageId := 2, generation := 1, authorized := none,
      sourceSnapshotHash := "hash" }
  { runId, jobId, generation := 1, kind := .projectReflection, consentEventId := none, runKey := key,
    snapshotRef := some key, outputPayload := some [], status := .outputPersisted }

/-- A candidate memory with one run item, and the run of another session. -/
def twoRuns (items : List RunItem) : Tables :=
  { Tables.empty with
    records :=
      [{ memoryId := 1, scope := .project "hw" "kb", status := .candidate, currentRevision := 1,
         contentHash := "hash", memoryType := "fact", title := "title", subject := none,
         content := .semantic default, replacementId := none, updatedAt := 1, deletedAt := none }]
    runs := [waitingRun 11 21 "turn-a", waitingRun 12 22 "turn-b"]
    runItems := items
    nextId := 30 }

/-- The run item that ties run 11 to the memory. -/
def itemOfMemory : RunItem :=
  { runId := 11, itemOrdinal := 0, outputItemHash := "hash", plannedAction := "upsert_candidate",
    memoryId := some 1, revisionNo := some 1, projectionId := some 3, expectedFence := some 1,
    status := "catalog_committed" }

/-- Without a run item for the deleted memory the other session's run survives. -/
theorem delete_frame_iff_without_items : UniqueOn Projection.projectionId (twoRuns []).projections ∧
      (DeleteFrame (twoRuns [])
          (afterDelete (fun _ => "hash") (twoRuns []) (fun _ => true) 1 1 "privacy" 5) 1 ↔
        (∀ record, requireManaged (twoRuns []) (fun _ => true) 1 1 ≠ .ok record) ∨
        (∀ item ∈ (twoRuns []).runItems, item.memoryId ≠ some 1) ∨
        (∀ run ∈ (twoRuns []).runs, hasItemFor (twoRuns []) 1 run = false →
          run.outputPayload = none ∧ run.snapshotRef = none)) :=
  have unique : UniqueOn Projection.projectionId (twoRuns []).projections := by
    simp [twoRuns, Tables.empty]
  ⟨unique, delete_frame_iff (fun _ => "hash") (twoRuns []) (fun _ => true) 1 1 "privacy" 5 unique⟩

/-- Deleting a memory with a run item wipes the waiting output of a run that has none. -/
theorem delete_wipes_other_run : ¬ DeleteFrame (twoRuns [itemOfMemory])
      (afterDelete (fun _ => "hash") (twoRuns [itemOfMemory]) (fun _ => true) 1 1 "privacy" 5) 1 := by
  intro frame
  have kept := frame.runs
  revert kept
  decide

end HardwareDatabase.Memory
