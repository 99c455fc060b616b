/-
Module: HardwareDatabase.Proofs.Staging
Purpose: What an accepted `prepare_candidate` does, table by table.
Trusted boundary: none
-/
import HardwareDatabase.Memory.Catalog

namespace HardwareDatabase.Memory

open Relational

variable {memoryId : Nat} {tables : Tables}

theorem mem_of_getRecord {record : Record} (found : getRecord tables memoryId = some record) :
    record ∈ tables.records ∧ record.memoryId = memoryId := by
  have selected := List.find?_some found
  exact ⟨List.mem_of_find?_eq_some found, by simpa using selected⟩

theorem getRecord_of_mem {record : Record}
    (unique : UniqueOn Record.memoryId tables.records) (member : record ∈ tables.records) :
    getRecord tables record.memoryId = some record :=
  unique.find?_eq member

theorem not_mem_of_getRecord_none (missing : getRecord tables memoryId = none) :
    ∀ record ∈ tables.records, record.memoryId ≠ memoryId := by
  intro record member
  have skipped := List.find?_eq_none.mp missing record member
  simpa using skipped

theorem candidateProjection_spec {projection : Projection}
    (found : candidateProjection tables memoryId = some projection) :
    projection ∈ tables.projections ∧ projection.memoryId = memoryId ∧
      projection.retiredAt = none ∧ projection.kind = .candidate := by
  have selected := List.find?_some found
  simp only [Projection.unretiredOf, Bool.and_eq_true, beq_iff_eq, Option.isNone_iff_eq_none] at selected
  exact ⟨List.mem_of_find?_eq_some found, selected.1.1, selected.1.2, selected.2⟩

theorem not_mem_of_candidateProjection_none
    (missing : candidateProjection tables memoryId = none) {projection : Projection}
    (member : projection ∈ tables.projections) (owner : projection.memoryId = memoryId)
    (unretired : projection.retiredAt = none) : projection.kind ≠ .candidate := by
  intro candidate
  have skipped := List.find?_eq_none.mp missing projection member
  simp [Projection.unretiredOf, owner, unretired, candidate] at skipped

/-! ### Provenance edges -/

/-- Everything but the sources. -/
def Tables.withoutSources (tables : Tables) : Tables :=
  { tables with sources := [] }

theorem insertSource_spec {after : Tables} {ref : SourceRef} (inserted : insertSource memoryId tables ref = .ok after) :
    after.withoutSources = tables.withoutSources ∧ (∀ source ∈ tables.sources, source ∈ after.sources) ∧
      ∀ source ∈ after.sources, source ∈ tables.sources ∨ (source.memoryId = memoryId ∧ source.sourceValid = true ∧
          source.sessionId = ref.sessionId ∧ source.consentEventId = ref.consentEventId) := by
  unfold insertSource at inserted
  split at inserted
  · cases inserted
  · simp only at inserted
    split at inserted
    · cases inserted
      exact ⟨rfl, fun _ member => member, fun _ member => Or.inl member⟩
    · cases inserted
      refine ⟨rfl, fun source member => List.mem_append_left _ member, ?_⟩
      intro source member
      rcases List.mem_append.mp member with old | new
      · exact Or.inl old
      · rw [List.mem_singleton.mp new]
        exact Or.inr ⟨rfl, rfl, rfl, rfl⟩

theorem insertSources_spec {refs : List SourceRef} :
    ∀ {tables after : Tables}, insertSources memoryId tables refs = .ok after →
      after.withoutSources = tables.withoutSources ∧ (∀ source ∈ tables.sources, source ∈ after.sources) ∧
      ∀ source ∈ after.sources, source ∈ tables.sources ∨ (source.memoryId = memoryId ∧ source.sourceValid = true ∧
          ∃ ref ∈ refs, source.sessionId = ref.sessionId ∧ source.consentEventId = ref.consentEventId) := by
  induction refs with
  | nil =>
    intro tables after inserted
    cases inserted
    exact ⟨rfl, fun _ member => member, fun _ member => Or.inl member⟩
  | cons ref rest ih =>
    intro tables after inserted
    simp only [insertSources] at inserted
    cases first : insertSource memoryId tables ref with
    | error => simp [first] at inserted
    | ok =>
      simp only [first] at inserted
      obtain ⟨frame, kept, added⟩ := insertSource_spec first
      obtain ⟨restFrame, restKept, restAdded⟩ := ih inserted
      refine ⟨restFrame.trans frame, fun source member => restKept _ (kept _ member), ?_⟩
      intro source member
      rcases restAdded source member with earlier | ⟨owner, valid, other, otherMember, same⟩
      · rcases added source earlier with old | ⟨owner, valid, same⟩
        · exact Or.inl old
        · exact Or.inr ⟨owner, valid, ref, by simp, same⟩
      · exact Or.inr ⟨owner, valid, other, by simp [otherMember], same⟩

/-! ### The staged candidate -/

/-- The effect of an accepted `prepare_candidate`. -/
structure PrepareSpec (contentHash : Content → String) (tables after : Tables)
    (request : CandidateRequest) (staged : Staged) (now : Time) : Prop where
  record :
    (∃ existing, request.memoryId.bind (getRecord tables) = some existing ∧
      existing.scope = request.scope ∧
      (existing.status = .candidate ∨ existing.status = .needsRebuild) ∧
      staged.memoryId = existing.memoryId ∧ staged.revision = existing.currentRevision + 1 ∧
      after.records = updateWhere (fun record => record.memoryId == existing.memoryId)
        (Record.stage contentHash request.content (existing.currentRevision + 1) now)
        tables.records) ∨
    (request.memoryId.bind (getRecord tables) = none ∧
      staged.memoryId = request.memoryId.getD tables.nextId ∧ staged.revision = 1 ∧
      after.records = tables.records ++ [newRecord contentHash request staged.memoryId now])
  projection :
    (∃ projection, candidateProjection tables staged.memoryId = some projection ∧
      after.projections = updateWhere
        (fun row => row.projectionId == projection.projectionId && row.retiredAt.isNone)
        (Projection.restage staged.revision (contentHash (.semantic request.content)))
        tables.projections) ∨
    ((candidateProjection tables staged.memoryId = none ∨
        request.memoryId.bind (getRecord tables) = none) ∧
      ∃ projectionId storeKey, tables.nextId ≤ projectionId ∧ projectionId < after.nextId ∧
        (∀ other ∈ tables.projections,
          (other.path, other.storeKey) ≠ ({ scope := request.scope, kind := .candidate }, storeKey)) ∧
        after.projections = tables.projections ++
          [newCandidate projectionId staged.memoryId request.scope storeKey staged.revision
            (contentHash (.semantic request.content))])
  grows : tables.nextId ≤ after.nextId
  freshRecord : request.memoryId = none → staged.memoryId < after.nextId
  sources : (∀ source ∈ tables.sources, source ∈ after.sources) ∧
    ∀ source ∈ after.sources, source ∈ tables.sources ∨
      (source.memoryId = staged.memoryId ∧ source.sourceValid = true ∧
        ∃ ref ∈ request.sources, source.sessionId = ref.sessionId ∧
          source.consentEventId = ref.consentEventId)
  revisions : ∃ row, row.memoryId = staged.memoryId ∧ after.revisions = tables.revisions ++ [row]
  outbox : (∀ operation ∈ tables.projectionOutbox, operation ∈ after.projectionOutbox) ∧
    (∀ operation ∈ after.projectionOutbox, operation ∈ tables.projectionOutbox ∨
      (operation.memoryId = staged.memoryId ∧ operation.projectionId = staged.projectionId ∧
        operation.payload.content = .semantic request.content)) ∧
    ∃ operation ∈ after.projectionOutbox, operation.projectionId = staged.projectionId
  consents : after.consents = tables.consents
  settings : after.settings = tables.settings
  jobs : after.jobs = tables.jobs
  runs : after.runs = tables.runs
  runItems : after.runItems = tables.runItems
  deletionOutbox : after.deletionOutbox = tables.deletionOutbox

/-- Everything but the records and the id supply. -/
def Tables.withoutRecords (tables : Tables) : Tables :=
  { tables with records := [], nextId := 0 }

variable {now : Time} {request : CandidateRequest} {contentHash : Content → String}

theorem stageRecord_spec {middle : Tables} {existing : Option Record}
    {projection : Option Projection} (staged : stageRecord contentHash tables request now =
      .ok (middle, memoryId, existing, projection)) : middle.withoutRecords = tables.withoutRecords ∧
    ((∃ record, existing = some record ∧ request.memoryId.bind (getRecord tables) = some record ∧
        record.scope = request.scope ∧ (record.status = .candidate ∨ record.status = .needsRebuild) ∧
        memoryId = record.memoryId ∧ projection = candidateProjection tables record.memoryId ∧
        middle.records = updateWhere (fun row => row.memoryId == record.memoryId)
          (Record.stage contentHash request.content (record.currentRevision + 1) now) tables.records ∧
        middle.nextId = tables.nextId) ∨ (existing = none ∧ request.memoryId.bind (getRecord tables) = none ∧
        memoryId = request.memoryId.getD tables.nextId ∧ projection = none ∧
        middle.records = tables.records ++ [newRecord contentHash request memoryId now] ∧
        middle.nextId = tables.nextId + 1)) := by
  unfold stageRecord at staged
  cases found : request.memoryId.bind (getRecord tables) with
  | none =>
    simp only [found] at staged
    cases staged
    exact ⟨rfl, Or.inr ⟨rfl, rfl, rfl, rfl, rfl, rfl⟩⟩
  | some record =>
    simp only [found] at staged
    split at staged
    · cases staged
    next sameScope =>
      split at staged
      · cases staged
      next writable =>
        have status : record.status = .candidate ∨ record.status = .needsRebuild := by
          by_contra neither
          exact writable (not_or.mp neither)
        have scope : record.scope = request.scope := not_not.mp sameScope
        cases owned : candidateProjection tables record.memoryId with
        | none =>
          simp only [owned] at staged
          cases staged
          exact ⟨rfl, Or.inl ⟨record, rfl, rfl, scope, status, rfl, owned.symm, rfl, rfl⟩⟩
        | some =>
          simp only [owned] at staged
          split at staged
          · cases staged
          · split at staged
            · cases staged
            · cases staged
              exact ⟨rfl, Or.inl ⟨record, rfl, rfl, scope, status, rfl, owned.symm, rfl, rfl⟩⟩

/-- Everything but the projections and the id supply. -/
def Tables.withoutProjectionRows (tables : Tables) : Tables :=
  { tables with projections := [], nextId := 0 }

theorem stageProjection_spec {after : Tables} {revision : Nat} {existing : Option Record}
    {projection : Option Projection} {projectionId fence : Nat}
    (staged : stageProjection contentHash tables request memoryId revision existing projection =
      .ok (after, projectionId, fence)) :
    after.withoutProjectionRows = tables.withoutProjectionRows ∧ tables.nextId ≤ after.nextId ∧
    ((∃ candidate, projection = some candidate ∧ projectionId = candidate.projectionId ∧ after.projections = updateWhere
          (fun row => row.projectionId == candidate.projectionId && row.retiredAt.isNone)
          (Projection.restage revision (contentHash (.semantic request.content)))
          tables.projections) ∨ (projection = none ∧ projectionId = tables.nextId ∧ projectionId < after.nextId ∧
        ∃ storeKey, (∀ other ∈ tables.projections, (other.path, other.storeKey) ≠
              ({ scope := request.scope, kind := .candidate }, storeKey)) ∧
          after.projections = tables.projections ++
            [newCandidate projectionId memoryId request.scope storeKey revision
              (contentHash (.semantic request.content))])) := by
  unfold stageProjection at staged
  cases projection with
  | some candidate =>
    simp only at staged
    cases staged
    exact ⟨rfl, Nat.le_refl _, Or.inl ⟨candidate, rfl, rfl, rfl⟩⟩
  | none =>
    simp only at staged
    split at staged
    · cases staged
    next free =>
      cases staged
      refine ⟨rfl, Nat.le_succ _, Or.inr ⟨rfl, rfl, Nat.lt_succ_self _, _, ?_, rfl⟩⟩
      intro other member same
      apply free
      simp only [List.any_eq_true, Bool.and_eq_true, beq_iff_eq]
      exact ⟨other, member, congrArg Prod.fst same, congrArg Prod.snd same⟩

theorem queueProjection_spec (tables : Tables) (operation : ProjectionOperation) :
    (∀ old ∈ tables.projectionOutbox, old ∈ (queueProjection tables operation).projectionOutbox) ∧
    (∀ row ∈ (queueProjection tables operation).projectionOutbox, row ∈ tables.projectionOutbox ∨ row = operation) ∧
    ∃ row ∈ (queueProjection tables operation).projectionOutbox, row.projectionId = operation.projectionId := by
  simp only [queueProjection]
  split
  next queued =>
    refine ⟨fun _ member => member, fun _ member => Or.inl member, ?_⟩
    obtain ⟨row, member, sameKey⟩ := List.any_eq_true.mp queued
    simp only [ProjectionOperation.sameKey, Bool.and_eq_true, beq_iff_eq] at sameKey
    exact ⟨row, member, sameKey.1.1.symm⟩
  next =>
    refine ⟨fun _ member => List.mem_append_left _ member, ?_, ?_⟩
    · intro row member
      rcases List.mem_append.mp member with old | new
      · exact Or.inl old
      · exact Or.inr (List.mem_singleton.mp new)
    · exact ⟨operation, by simp, rfl⟩

theorem prepareCandidate_stages {after : Tables} {staged : Staged}
    (prepared : prepareCandidate contentHash tables request now = .ok (after, staged)) :
    ∃ recorded projected sourced existing projection, stageRecord contentHash tables request now =
        .ok (recorded, staged.memoryId, existing, projection) ∧
      staged.revision = (existing.map Record.currentRevision).getD 0 + 1 ∧
      stageProjection contentHash recorded request staged.memoryId staged.revision existing
        projection = .ok (projected, staged.projectionId, staged.fence) ∧
      insertSources staged.memoryId (insertRevision projected
        (stagedRevision request staged.memoryId staged.revision staged.projectionId existing))
        request.sources = .ok sourced ∧
      after = queueProjection sourced (stagedOperation contentHash request sourced.nextId
        staged.memoryId staged.revision staged.projectionId staged.fence now) := by
  unfold prepareCandidate at prepared
  simp only [bind, Except.bind, pure, Except.pure, throw, throwThe, MonadExceptOf.throw] at prepared
  split at prepared
  · cases prepared
  split at prepared
  · cases prepared
  split at prepared
  · cases prepared
  next _ outcome stagedRecord =>
    obtain ⟨recorded, memoryId, existing, projection⟩ := outcome
    simp only at prepared stagedRecord
    split at prepared
    · cases prepared
    next _ outcome stagedProjection =>
      obtain ⟨projected, projectionId, fence⟩ := outcome
      simp only at prepared stagedProjection
      split at prepared
      · cases prepared
      next _ sourced inserted =>
        cases prepared
        exact ⟨recorded, projected, sourced, existing, projection, stagedRecord, rfl, stagedProjection, inserted, rfl⟩

theorem prepareCandidate_spec (contentHash : Content → String) {after : Tables} {staged : Staged}
    (prepared : prepareCandidate contentHash tables request now = .ok (after, staged)) :
    PrepareSpec contentHash tables after request staged now := by
  obtain ⟨recorded, projected, sourced, existing, projection, stagedRecord, revisionEq,
    stagedProjection, inserted, rfl⟩ := prepareCandidate_stages prepared
  obtain ⟨memoryId, revision, projectionId, fence⟩ := staged
  dsimp only at revisionEq stagedRecord stagedProjection inserted ⊢
  subst revisionEq
  obtain ⟨recordFrame, recordCases⟩ := stageRecord_spec stagedRecord
  obtain ⟨projectionFrame, grows, projectionCases⟩ := stageProjection_spec stagedProjection
  obtain ⟨sourceFrame, sourcesKept, sourcesAdded⟩ := insertSources_spec inserted
  let operation := stagedOperation contentHash request sourced.nextId memoryId
    ((existing.map Record.currentRevision).getD 0 + 1) projectionId fence now
  obtain ⟨outboxKept, outboxAdded, outboxOwn⟩ := queueProjection_spec sourced operation
  -- each stage leaves the columns it does not write
  have same {β : Type} (part : Tables → β)
      (records : ∀ t : Tables, part t.withoutRecords = part t)
      (projections : ∀ t : Tables, part t.withoutProjectionRows = part t)
      (sources : ∀ t : Tables, part t.withoutSources = part t)
      (revisions : ∀ t row, part (insertRevision t row) = part t) :
      part sourced = part tables := by
    rw [eq_of_frame part sourceFrame sources, revisions,
      eq_of_frame part projectionFrame projections, eq_of_frame part recordFrame records]
  have outbox := same Tables.projectionOutbox (fun _ => rfl) (fun _ => rfl) (fun _ => rfl)
    (fun _ _ => rfl)
  have recordedProjections := eq_of_frame Tables.projections recordFrame (fun _ => rfl)
  have sourcedProjections := eq_of_frame Tables.projections sourceFrame (fun _ => rfl)
  have sourcedNext := eq_of_frame Tables.nextId sourceFrame (fun _ => rfl)
  have insertedRecords := eq_of_frame Tables.records sourceFrame (fun _ => rfl)
  have projectedRecords := eq_of_frame Tables.records projectionFrame (fun _ => rfl)
  have sourcedRecords : sourced.records = recorded.records :=
    insertedRecords.trans projectedRecords
  have projectedSources : projected.sources = tables.sources :=
    (eq_of_frame Tables.sources projectionFrame (fun _ => rfl)).trans
      (eq_of_frame Tables.sources recordFrame (fun _ => rfl))
  have projectedRevisions : projected.revisions = tables.revisions :=
    (eq_of_frame Tables.revisions projectionFrame (fun _ => rfl)).trans
      (eq_of_frame Tables.revisions recordFrame (fun _ => rfl))
  have recordedNext : tables.nextId ≤ recorded.nextId := by
    rcases recordCases with ⟨_, _, _, _, _, _, _, _, next⟩ | ⟨_, _, _, _, _, next⟩ <;> omega
  constructor
  case record =>
    rcases recordCases with
      ⟨record, rfl, found, scope, status, owner, _, rows, _⟩ |
        ⟨rfl, missing, owner, _, rows, _⟩
    · exact Or.inl ⟨record, found, scope, status, owner, rfl, sourcedRecords.trans rows⟩
    · exact Or.inr ⟨missing, owner, rfl, sourcedRecords.trans rows⟩
  case projection =>
    rcases projectionCases with ⟨candidate, rfl, _, rows⟩ | ⟨rfl, fresh, below, storeKey, free, rows⟩
    · -- only an existing record comes with its candidate projection
      rcases recordCases with ⟨record, _, _, _, _, owner, owned, _⟩ | ⟨_, _, _, owned, _⟩
      · left
        refine ⟨candidate, by rw [owner]; exact owned.symm, ?_⟩
        exact sourcedProjections.trans (rows.trans (by rw [recordedProjections]))
      · cases owned
    · right
      refine ⟨?_, projectionId, storeKey, by omega, ?_, ?_, ?_⟩
      · rcases recordCases with ⟨record, _, _, _, _, owner, owned, _⟩ | ⟨_, missing, _⟩
        · exact Or.inl (by rw [owner]; exact owned.symm)
        · exact Or.inr missing
      · have queued : (queueProjection sourced operation).nextId = sourced.nextId + 1 := rfl
        have inserted : (insertRevision projected (stagedRevision request memoryId
          ((existing.map Record.currentRevision).getD 0 + 1) projectionId existing)).nextId =
            projected.nextId := rfl
        simp only [operation] at queued
        omega
      · rwa [recordedProjections] at free
      · exact sourcedProjections.trans (rows.trans (by rw [recordedProjections]))
  case grows =>
    have queued : (queueProjection sourced operation).nextId = sourced.nextId + 1 := rfl
    have inserted : (insertRevision projected (stagedRevision request memoryId
      ((existing.map Record.currentRevision).getD 0 + 1) projectionId existing)).nextId =
        projected.nextId := rfl
    simp only [operation] at queued
    omega
  case freshRecord =>
    intro unnamed
    have queued : (queueProjection sourced operation).nextId = sourced.nextId + 1 := rfl
    have inserted : (insertRevision projected (stagedRevision request memoryId
      ((existing.map Record.currentRevision).getD 0 + 1) projectionId existing)).nextId =
        projected.nextId := rfl
    simp only [operation] at queued
    rcases recordCases with ⟨_, _, found, _⟩ | ⟨_, _, owner, _, _, _⟩
    · simp [unnamed] at found
    · simp only [unnamed, Option.getD_none] at owner
      simp only
      omega
  case sources =>
    rw [← projectedSources]
    exact ⟨sourcesKept, sourcesAdded⟩
  case revisions =>
    have rows := eq_of_frame Tables.revisions sourceFrame (fun _ => rfl)
    refine ⟨stagedRevision request memoryId ((existing.map Record.currentRevision).getD 0 + 1)
      projectionId existing, rfl, ?_⟩
    rw [← projectedRevisions]
    exact rows
  case outbox =>
    rw [← outbox]
    refine ⟨outboxKept, ?_, outboxOwn⟩
    intro row member
    rcases outboxAdded row member with old | rfl
    · exact Or.inl old
    · exact Or.inr ⟨rfl, rfl, rfl⟩
  case consents =>
    exact same Tables.consents (fun _ => rfl) (fun _ => rfl) (fun _ => rfl) (fun _ _ => rfl)
  case settings =>
    exact same Tables.settings (fun _ => rfl) (fun _ => rfl) (fun _ => rfl) (fun _ _ => rfl)
  case jobs =>
    exact same Tables.jobs (fun _ => rfl) (fun _ => rfl) (fun _ => rfl) (fun _ _ => rfl)
  case runs =>
    exact same Tables.runs (fun _ => rfl) (fun _ => rfl) (fun _ => rfl) (fun _ _ => rfl)
  case runItems =>
    exact same Tables.runItems (fun _ => rfl) (fun _ => rfl) (fun _ => rfl) (fun _ _ => rfl)
  case deletionOutbox =>
    exact same Tables.deletionOutbox (fun _ => rfl) (fun _ => rfl) (fun _ => rfl)
      (fun _ _ => rfl)

end HardwareDatabase.Memory
