/-
Module: HardwareDatabase.Proofs.ReflectionCommits
Purpose: Reflection outputs are committed once: a committed generation is closed, a superseded worker writes nothing,
  and a replay adds nothing.
Trusted boundary: none
-/
import HardwareDatabase.Proofs.JobSteps

namespace HardwareDatabase.Memory

open Relational

/-! ### The history of commits -/

/-- What an operation commits: the job and the generation of an accepted `_apply_job`. -/
def commitsOf (env : Environment) (state : ServiceState) : Op → List (Nat × Nat)
  | .applyJob job messages sourceHash now =>
    if job ∈ state.claimed then
      match applyJob env state.tables job messages sourceHash now with
      | .ok _ => [(job.jobId, job.generation)]
      | .error _ => []
    else []
  | _ => []

/-- The commits of a run, oldest first. -/
def reflectionCommits (env : Environment) (ops : List Op) : List (Nat × Nat) :=
  (memoryService env).emitted (commitsOf env) ops

/-- The jobs of the committed generations are past them or completed in them. -/
structure CommitsSettled (state : ServiceState) (history : List (Nat × Nat)) : Prop where
  catalog : CatalogOk state.tables
  jobs : JobsOk state.tables
  once : history.Nodup
  known : ∀ commit ∈ history, commit.1 < state.tables.nextId
  settled : ∀ commit ∈ history, ∀ job ∈ state.tables.jobs, job.jobId = commit.1 →
    commit.2 < job.generation ∨ (job.generation = commit.2 ∧ job.status = .completed)

variable {snapshot : Job}

namespace CommitsSettled

variable {env : Environment} {state : ServiceState} {history : List (Nat × Nat)}

section

variable (settled : CommitsSettled state history)
include settled

private theorem finished {commit : Nat × Nat} (committed : commit ∈ history) : Finished state.tables commit.1 commit.2 :=
  ⟨settled.known commit committed, settled.settled commit committed⟩

private theorem uncommitted {current : Job}
    (held : heldJob state.tables snapshot = some current) : (snapshot.jobId, snapshot.generation) ∉ history := by
  intro committed
  have ended := settled.finished committed
  rw [ended.heldJob] at held
  cases held

private theorem settled_after (env : Environment) (op : Op) :
    ∀ commit ∈ history, ∀ job ∈ (state.exec env op).tables.jobs, job.jobId = commit.1 →
      commit.2 < job.generation ∨ (job.generation = commit.2 ∧ job.status = .completed) := by
  have advance := exec_jobsAdvance env state op settled.catalog settled.jobs
  intro commit committed
  exact ((settled.finished committed).advance advance).ended

private theorem step (op : Op) : CommitsSettled ((memoryService env).step state op)
    (history ++ commitsOf env state op) := by
  have advance := exec_jobsAdvance env state op settled.catalog settled.jobs
  have catalog := settled.catalog.steps (exec_catalogSteps env state op settled.catalog)
  have jobs := advance.jobsOk settled.jobs
  have earlier := settled.settled_after env op
  have known : ∀ commit ∈ history, commit.1 < (state.exec env op).tables.nextId :=
    fun commit committed => Nat.lt_of_lt_of_le (settled.known commit committed) advance.supply
  have silent (nothing : commitsOf env state op = []) :
      CommitsSettled ((memoryService env).step state op) (history ++ commitsOf env state op) := by
    rw [nothing, List.append_nil]
    exact ⟨catalog, jobs, settled.once, known, earlier⟩
  cases op with
  | applyJob job messages sourceHash now =>
    by_cases claimed : job ∈ state.claimed
    · cases outcome : applyJob env state.tables job messages sourceHash now with
      | error => exact silent (by simp [commitsOf, outcome])
      | ok after =>
        have emitted : commitsOf env state (.applyJob job messages sourceHash now) =
            [(job.jobId, job.generation)] := by simp [commitsOf, claimed, outcome]
        have tables : (state.exec env (.applyJob job messages sourceHash now)).tables =
            after := by simp [ServiceState.exec, claimed, outcome, ServiceState.commit]
        obtain ⟨current, token, held, _, _⟩ := applyJob_jobs outcome
        have ended : Finished (state.exec env (.applyJob job messages sourceHash now)).tables
            job.jobId job.generation := by
          have supply := advance.supply
          rw [tables] at supply ⊢
          exact applyJob_finishes settled.jobs supply outcome
        rw [emitted]
        refine ⟨catalog, jobs, ?_, ?_, ?_⟩
        · apply List.Nodup.append settled.once (List.nodup_singleton _)
          simpa [List.disjoint_singleton] using settled.uncommitted held
        · intro commit committed
          rcases List.mem_append.mp committed with old | new
          · exact known commit old
          · rw [List.mem_singleton.mp new]
            exact ended.known
        · intro commit committed
          rcases List.mem_append.mp committed with old | new
          · exact earlier commit old
          · rw [List.mem_singleton.mp new]
            exact ended.ended
    · exact silent (by simp [commitsOf, claimed])
  | _ => exact silent rfl

end

end CommitsSettled

private theorem commitsSettled_run (env : Environment) (ops : List Op) :
    CommitsSettled ((memoryService env).run ops) (reflectionCommits env ops) := by
  apply Machine.history_invariant CommitsSettled
  · constructor
    case catalog => exact catalogOk_empty
    case jobs => exact jobsOk_run env []
    case once => exact List.nodup_nil
    case known => simp
    case settled => simp
  · exact fun state history op settled => settled.step op

/-! ### Workers that lost their job

The writes of a worker test the generation of its job, so one that was superseded writes nothing. -/

/-- Everything but the reflection runs and the id supply. -/
def Tables.withoutRuns (tables : Tables) : Tables :=
  { tables with runs := [], nextId := 0 }

/-- The worker that claimed `snapshot` lost the job: the row is gone, or its lease token or its
generation is another. -/
def Superseded (tables : Tables) (snapshot : Job) : Prop :=
  ∀ current ∈ tables.jobs, current.jobId = snapshot.jobId →
    current.leaseToken ≠ snapshot.leaseToken ∨ current.generation ≠ snapshot.generation

instance decidableSuperseded (tables : Tables) (snapshot : Job) : Decidable (Superseded tables snapshot) :=
  inferInstanceAs (Decidable (∀ current ∈ tables.jobs, current.jobId = snapshot.jobId →
    current.leaseToken ≠ snapshot.leaseToken ∨ current.generation ≠ snapshot.generation))

/-- The writes of the worker that claimed `snapshot`. -/
def Op.WritesFor (snapshot : Job) : Op → Prop
  | .applyJob job _ _ _ | .persistOutput job _ _ | .saveRun job _ => job = snapshot
  | .heartbeat jobId token generation _ _ | .markRetry jobId token generation _ _ _
  | .cancelJob jobId token generation _ =>
    jobId = snapshot.jobId ∧ some token = snapshot.leaseToken ∧ generation = snapshot.generation
  | _ => False

variable {tables : Tables}

section

variable (superseded : Superseded tables snapshot)
include superseded

private theorem heldJob_of_superseded : heldJob tables snapshot = none := by
  cases held : heldJob tables snapshot with
  | none => rfl
  | some current =>
    obtain ⟨member, same, _, token, generation⟩ := mem_of_heldJob held
    rcases superseded current member same with other | other
    · exact absurd token other
    · exact absurd generation other

private theorem updateHeld_of_superseded {token : Nat} (leased : some token = snapshot.leaseToken) (f : Job → Job) :
    updateHeld tables snapshot.jobId token snapshot.generation f = tables := by
  have same : updateWhere (fun job => job.jobId == snapshot.jobId &&
      job.heldBy token snapshot.generation) f tables.jobs = tables.jobs := by
    apply updateWhere_eq_self
    intro job member selected
    simp only [Bool.and_eq_true, Job.heldBy, beq_iff_eq] at selected
    rcases superseded job member selected.1 with other | other
    · exact absurd (selected.2.1.2.trans leased) other
    · exact absurd selected.2.2 other
  simp only [updateHeld, same]

private theorem markRetry_of_superseded {token : Nat} (leased : some token = snapshot.leaseToken)
    (maxRetries : Nat) (error : String) (retryAfterSeconds : Nat) (clock : Time) :
    markRetry maxRetries tables snapshot.jobId token snapshot.generation error retryAfterSeconds clock = tables := by
  unfold markRetry
  split
  · rfl
  · simp only
    split <;> exact updateHeld_of_superseded superseded leased _

end

private theorem writes_of_superseded (env : Environment) {state : ServiceState} {op : Op}
    (superseded : Superseded state.tables snapshot) (writes : op.WritesFor snapshot) :
    (state.exec env op).tables.withoutRuns = state.tables.withoutRuns := by
  have lost := heldJob_of_superseded superseded
  cases op with
  | applyJob =>
    cases writes
    simp only [ServiceState.exec]
    split
    · simp [applyJob, lost, ServiceState.commit]
    · rfl
  | persistOutput =>
    cases writes
    simp only [ServiceState.exec]
    split
    · simp [persistOutputForJob, lost, ServiceState.commit, pure, Except.pure]
    · rfl
  | saveRun =>
    simp only [ServiceState.exec]
    split
    · unfold saveRun
      simp only
      split <;> rfl
    · rfl
  | heartbeat =>
    obtain ⟨rfl, leased, rfl⟩ := writes
    simp only [ServiceState.exec, heartbeat, updateHeld_of_superseded superseded leased]
  | markRetry =>
    obtain ⟨rfl, leased, rfl⟩ := writes
    simp only [ServiceState.exec, markRetry_of_superseded superseded leased]
  | cancelJob =>
    obtain ⟨rfl, leased, rfl⟩ := writes
    simp only [ServiceState.exec, cancelJob, updateHeld_of_superseded superseded leased]
  | _ => exact writes.elim

/-! ### Replayed outputs -/

/-- The item of the run has been committed to the catalog. -/
def itemCommitted (tables : Tables) (runId ordinal : Nat) : Bool :=
  (tables.runItems.find? fun old => old.runId == runId && old.itemOrdinal == ordinal).any
    fun old => old.status == "catalog_committed" && old.memoryId.isSome

/-- The items of an output, numbered from `ordinal`, that are not committed yet. -/
def pendingItems (tables : Tables) (runId : Nat) (output : List OutputItem) (ordinal : Nat) :
    List (OutputItem × Nat) :=
  (output.zipIdx ordinal).filter fun entry => !itemCommitted tables runId entry.2

/-- What a commit adds for the given items: one revision each, and a record at most. -/
structure Additions (tables after : Tables) (items : List (OutputItem × Nat)) : Prop where
  added : ∃ revisions newIds,
    after.revisions = tables.revisions ++ revisions ∧
    List.Forall₂ (fun (entry : OutputItem × Nat) (revision : Revision) =>
      revision.after = some (.semantic entry.1.semantic)) items revisions ∧
    after.records.map Record.memoryId = tables.records.map Record.memoryId ++ newIds ∧
    List.Sublist newIds (revisions.map Revision.memoryId)

private theorem Additions.nothing (tables : Tables) : Additions tables tables [] :=
  ⟨[], [], by simp, List.Forall₂.nil, by simp, List.Sublist.refl _⟩

private theorem Additions.trans {middle after : Tables} {first second : List (OutputItem × Nat)}
    (earlier : Additions tables middle first) (later : Additions middle after second) :
    Additions tables after (first ++ second) := by
  obtain ⟨firstRevisions, firstIds, revisions, paired, records, named⟩ := earlier
  obtain ⟨secondRevisions, secondIds, revisions', paired', records', named'⟩ := later
  refine ⟨firstRevisions ++ secondRevisions, firstIds ++ secondIds, ?_, ?_, ?_, ?_⟩
  · rw [revisions', revisions, List.append_assoc]
  · exact List.rel_append paired paired'
  · rw [records', records, List.append_assoc]
  · rw [List.map_append]
    exact named.append named'

variable {now : Time}

private theorem prepareCandidate_revision {contentHash : Content → String} {after : Tables}
    {request : CandidateRequest} {staged : Staged}
    (prepared : prepareCandidate contentHash tables request now = .ok (after, staged)) :
    ∃ existing, after.revisions = tables.revisions ++
      [stagedRevision request staged.memoryId staged.revision staged.projectionId existing] := by
  obtain ⟨recorded, projected, sourced, existing, projection, stagedRecord, _, stagedProjection,
    inserted, rfl⟩ := prepareCandidate_stages prepared
  have recordedRevisions := eq_of_frame Tables.revisions (stageRecord_spec stagedRecord).1
    (fun _ => rfl)
  have projectedRevisions := eq_of_frame Tables.revisions (stageProjection_spec stagedProjection).1
    (fun _ => rfl)
  have sourcedRevisions := eq_of_frame Tables.revisions (insertSources_spec inserted).1
    (fun _ => rfl)
  refine ⟨existing, ?_⟩
  show sourced.revisions = _
  rw [sourcedRevisions]
  simp only [insertRevision]
  rw [projectedRevisions, recordedRevisions]

variable {ordinal : Nat}

private theorem Additions.of_prepared {contentHash : Content → String} {after : Tables}
    {request : CandidateRequest} {staged : Staged} {item : OutputItem} (content : request.content = item.semantic)
    (prepared : prepareCandidate contentHash tables request now = .ok (after, staged)) :
    Additions tables after [(item, ordinal)] := by
  obtain ⟨existing, revisions⟩ := prepareCandidate_revision prepared
  have spec := prepareCandidate_spec contentHash prepared
  have paired : List.Forall₂ (fun (entry : OutputItem × Nat) (revision : Revision) =>
      revision.after = some (.semantic entry.1.semantic)) [(item, ordinal)]
      [stagedRevision request staged.memoryId staged.revision staged.projectionId existing] := by
    refine List.Forall₂.cons ?_ List.Forall₂.nil
    simp [stagedRevision, content]
  rcases spec.record with ⟨row, _, _, _, _, _, records⟩ | ⟨_, _, _, records⟩
  · refine ⟨_, [], revisions, paired, ?_, List.nil_sublist _⟩
    rw [records, map_updateWhere]
    · simp
    · exact fun _ => rfl
  · refine ⟨_, [staged.memoryId], revisions, paired, ?_, ?_⟩
    · rw [records, List.map_append]
      rfl
    · exact List.Sublist.refl _

private theorem find?_upsertRunItem {item : RunItem} {runId : Nat}
    (other : ¬(item.runId = runId ∧ item.itemOrdinal = ordinal)) :
    (upsertRunItem tables item).runItems.find? (fun old => old.runId == runId && old.itemOrdinal == ordinal) =
      tables.runItems.find? (fun old => old.runId == runId && old.itemOrdinal == ordinal) := by
  have unselected : (item.runId == runId && item.itemOrdinal == ordinal) = false := by
    by_contra selected
    simp only [Bool.not_eq_false, Bool.and_eq_true, beq_iff_eq] at selected
    exact other selected
  unfold upsertRunItem
  simp only
  split
  · apply find?_updateWhere
    · intro row own
      simp only [Bool.and_eq_true, beq_iff_eq] at own
      rw [own.1, own.2]
      exact unselected
    · exact fun _ _ => unselected
  · rw [List.find?_append]
    simp [unselected]

variable {messages : List SourceMessage} {env : Environment}

/-- One output item: a committed one changes nothing, another one is staged and noted under its own
ordinal. -/
theorem applyItem_additions {job : Job} {run : Run} {item : OutputItem} {after : Tables}
    (applied : applyItem env job run messages now tables item ordinal = .ok after) :
    (itemCommitted tables run.runId ordinal = true ∧ after = tables) ∨
    (itemCommitted tables run.runId ordinal = false ∧ Additions tables after [(item, ordinal)] ∧
      ∀ other, other ≠ ordinal → after.runItems.find? (fun old => old.runId == run.runId && old.itemOrdinal == other) =
          tables.runItems.find? (fun old => old.runId == run.runId && old.itemOrdinal == other)) := by
  unfold applyItem at applied
  simp only [bind, Except.bind, pure, Except.pure] at applied
  split at applied
  next committed =>
    cases applied
    exact Or.inl ⟨committed, rfl⟩
  next uncommitted =>
    right
    split at applied
    · cases applied
    next _ outcome prepared =>
      obtain ⟨middle, staged⟩ := outcome
      cases applied
      refine ⟨by simpa [itemCommitted] using uncommitted, ?_, ?_⟩
      · obtain ⟨revisions, newIds, added⟩ := (Additions.of_prepared rfl prepared).added
        refine ⟨revisions, newIds, ?_⟩
        rw [eq_of_frame Tables.revisions (upsertRunItem_frame middle _) (fun _ => rfl),
          eq_of_frame Tables.records (upsertRunItem_frame middle _) (fun _ => rfl)]
        exact added
      · intro other different
        rw [find?_upsertRunItem]
        · rw [(prepareCandidate_spec env.contentHash prepared).runItems]
        · rintro ⟨_, same⟩
          exact different same.symm

private theorem applyItems_additions {job : Job} {run : Run} {items : List OutputItem} :
    ∀ {tables after : Tables} {ordinal : Nat}, applyItems env job run messages now tables items ordinal = .ok after →
      Additions tables after (pendingItems tables run.runId items ordinal) ∧
        ∀ other, itemCommitted tables run.runId other = true →
          after.runItems.find? (fun old => old.runId == run.runId && old.itemOrdinal == other) =
            tables.runItems.find? (fun old => old.runId == run.runId && old.itemOrdinal == other) := by
  induction items with
  | nil =>
    intro tables after ordinal applied
    cases applied
    exact ⟨Additions.nothing tables, fun _ _ => rfl⟩
  | cons item rest ih =>
    intro tables after ordinal applied
    obtain ⟨middle, first, others⟩ := exists_of_applyItems_cons applied
    obtain ⟨restAdded, restKept⟩ := ih others
    rcases applyItem_additions first with ⟨committed, rfl⟩ | ⟨uncommitted, added, kept⟩
    · refine ⟨?_, restKept⟩
      rw [pendingItems, List.zipIdx_cons, List.filter_cons_of_neg (by simp [committed])]
      exact restAdded
    · -- the ordinals that follow are untouched by this item
      have later : pendingItems middle run.runId rest (ordinal + 1) =
          pendingItems tables run.runId rest (ordinal + 1) := by
        apply List.filter_congr
        intro entry member
        have bound : ordinal + 1 ≤ entry.2 := (List.mem_zipIdx member).1
        simp only [itemCommitted, kept entry.2 (by omega)]
      refine ⟨?_, ?_⟩
      · rw [pendingItems, List.zipIdx_cons, List.filter_cons_of_pos (by simp [uncommitted])]
        rw [later] at restAdded
        exact added.trans restAdded
      · intro other committed
        have different : other ≠ ordinal := by
          rintro rfl
          rw [committed] at uncommitted
          cases uncommitted
        have same := kept other different
        rw [restKept other (by simp only [itemCommitted, same]; exact committed), same]

private theorem applyJob_additions {after : Tables} {sourceHash : String}
    (applied : applyJob env tables snapshot messages sourceHash now = .ok after) : ∃ run output,
      tables.runs.find? (fun run => run.runKey == runKeyOf snapshot sourceHash) = some run ∧
      run.outputPayload = some output ∧ Additions tables after (pendingItems tables run.runId output 0) ∧
      ∀ ordinal, itemCommitted tables run.runId ordinal = true →
        after.runItems.find? (fun old => old.runId == run.runId && old.itemOrdinal == ordinal) =
          tables.runItems.find? (fun old => old.runId == run.runId && old.itemOrdinal == ordinal) := by
  obtain ⟨current, _, _, ran⟩ := applyJob_cases applied
  obtain ⟨run, output, token, middle, checked, found, _, payload, items, checkpoint, rfl⟩ :=
    applyRun_cases ran
  obtain ⟨added, kept⟩ := applyItems_additions items
  have ensured := (ensureCheckpoint_catalog (commitRun middle run.runId) snapshot.jobId).1
  have catalog : (markCompleted checked snapshot.jobId token snapshot.generation now).catalog =
      middle.catalog := (updateCheckpoint_catalog checkpoint).1.trans ensured
  simp only [Tables.catalog, Prod.mk.injEq] at catalog
  obtain ⟨records, revisions, _, runItems⟩ := catalog
  refine ⟨run, output, found, payload, ?_, ?_⟩
  · obtain ⟨newRevisions, newIds, additions⟩ := added.added
    refine ⟨newRevisions, newIds, ?_⟩
    rw [records, revisions]
    exact additions
  · rw [runItems]
    exact kept

/-! ### Exactly once -/

/-- Reflection commits are fenced and exactly-once. In every run, a generation of a job is committed
at most once; a worker whose lease token or generation has moved on changes no row of the catalog,
the run items, the checkpoints or the jobs; and a commit adds exactly one revision for each item of
the persisted output that its run had not committed, a record only together with such a revision,
and leaves the committed run items as they were. -/
theorem reflection_commits_exactly_once (env : Environment) (ops : List Op) : (reflectionCommits env ops).Nodup ∧
    (∀ (snapshot : Job) (op : Op), Superseded ((memoryService env).run ops).tables snapshot → op.WritesFor snapshot →
      ((memoryService env).run (ops ++ [op])).tables.withoutRuns = ((memoryService env).run ops).tables.withoutRuns) ∧
    (∀ (job : Job) (messages : List SourceMessage) (sourceHash : String) (now : Time) (after : Tables),
      applyJob env ((memoryService env).run ops).tables job messages sourceHash now = .ok after → ∃ run output,
        ((memoryService env).run ops).tables.runs.find?
          (fun run => run.runKey == runKeyOf job sourceHash) = some run ∧
        run.outputPayload = some output ∧ Additions ((memoryService env).run ops).tables after
          (pendingItems ((memoryService env).run ops).tables run.runId output 0) ∧
        ∀ ordinal, itemCommitted ((memoryService env).run ops).tables run.runId ordinal = true →
          after.runItems.find? (fun old => old.runId == run.runId && old.itemOrdinal == ordinal) =
            ((memoryService env).run ops).tables.runItems.find?
              (fun old => old.runId == run.runId && old.itemOrdinal == ordinal)) := by
  refine ⟨(commitsSettled_run env ops).once, ?_, ?_⟩
  · intro snapshot op superseded writes
    rw [Machine.run_concat]
    exact writes_of_superseded env superseded writes
  · intro job messages sourceHash now after applied
    exact applyJob_additions applied

/-- A carried-out reflection is one commit, after which the worker that made it holds the job no
longer: a late heartbeat finds no row. -/
theorem reflection_commits_exactly_once_sample : reflectionCommits sampleEnvironment projectReflected = [(1, 1)] ∧
    Superseded ((memoryService sampleEnvironment).run projectReflected).tables claimedProjectJob ∧
    ((memoryService sampleEnvironment).run (projectReflected ++ [.heartbeat 1 2 1 180 9])).tables.withoutRuns =
      ((memoryService sampleEnvironment).run projectReflected).tables.withoutRuns := by
  have lost : Superseded ((memoryService sampleEnvironment).run projectReflected).tables
      claimedProjectJob := by decide
  refine ⟨by decide, lost, ?_⟩
  apply (reflection_commits_exactly_once sampleEnvironment projectReflected).2.1 claimedProjectJob
  · exact lost
  · exact ⟨by decide, by decide, by decide⟩

end HardwareDatabase.Memory
