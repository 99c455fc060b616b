/-
Module: HardwareDatabase.Proofs.ProjectionTargets
Purpose: Every row of the projection outbox names a projection of its own memory, and no two rows share an operation
  id.
Trusted boundary: none
-/
import HardwareDatabase.Memory.CatalogCalls
import HardwareDatabase.Proofs.JobSteps

namespace HardwareDatabase.Memory

open Relational

/-- Operation ids are unique, all ids were taken from the supply, a row's projection belongs to the row's
memory, and a row carries a semantic content. -/
structure TargetsOk (tables : Tables) : Prop where
  unique : (tables.targets.map Prod.fst).Nodup
  known : ∀ target ∈ tables.targets, target.1 < tables.nextId ∧ target.2.2.1 < tables.nextId
  owners : ∀ target ∈ tables.targets, ∀ projection ∈ tables.projections,
    projection.projectionId = target.2.2.1 → projection.memoryId = target.2.1
  carried : ∀ target ∈ tables.targets, ∃ semantic, target.2.2.2 = .semantic semantic

/-! ### Where projections come from -/

/-- A projection keeps its id and its memory, or it has a new id. -/
def ProjectionsTraced (tables after : Tables) : Prop :=
  ∀ projection ∈ after.projections,
    (∃ old ∈ tables.projections, old.projectionId = projection.projectionId ∧
      old.memoryId = projection.memoryId) ∨ tables.nextId ≤ projection.projectionId

variable {tables : Tables}

theorem ProjectionsTraced.of_same {after : Tables}
    (projections : after.projections = tables.projections) : ProjectionsTraced tables after := by
  intro projection member
  rw [projections] at member
  exact Or.inl ⟨projection, member, rfl, rfl⟩

theorem ProjectionsTraced.of_update {after : Tables} {p : Projection → Bool} {f : Projection → Projection}
    (projections : after.projections = updateWhere p f tables.projections)
    (sameIds : ∀ row, (f row).projectionId = row.projectionId)
    (sameOwners : ∀ row, (f row).memoryId = row.memoryId) : ProjectionsTraced tables after := by
  intro projection member
  rw [projections] at member
  rcases mem_updateWhere.mp member with ⟨old, oldMember, _, rfl⟩ | ⟨kept, _⟩
  · exact Or.inl ⟨old, oldMember, (sameIds old).symm, (sameOwners old).symm⟩
  · exact Or.inl ⟨projection, kept, rfl, rfl⟩

theorem ProjectionsTraced.of_insert {after : Tables} {row : Projection}
    (fresh : tables.nextId ≤ row.projectionId) (projections : after.projections = tables.projections ++ [row]) :
    ProjectionsTraced tables after := by
  intro projection member
  rw [projections] at member
  rcases List.mem_append.mp member with old | new
  · exact Or.inl ⟨projection, old, rfl, rfl⟩
  · rw [List.mem_singleton.mp new]
    exact Or.inr fresh

theorem ProjectionsTraced.trans {middle after : Tables} (grows : tables.nextId ≤ middle.nextId)
    (first : ProjectionsTraced tables middle) (second : ProjectionsTraced middle after) :
    ProjectionsTraced tables after := by
  intro projection member
  rcases second projection member with ⟨old, oldMember, sameId, sameOwner⟩ | fresh
  · rcases first old oldMember with ⟨oldest, oldestMember, firstId, firstOwner⟩ | fresh
    · exact Or.inl ⟨oldest, oldestMember, firstId.trans sameId, firstOwner.trans sameOwner⟩
    · exact Or.inr (by rw [← sameId]; exact fresh)
  · exact Or.inr (Nat.le_trans grows fresh)

variable {contentHash : Content → String}

theorem CatalogStep.projections_traced {rebuilds : Nat → Prop} {after : Tables} (ok : CatalogOk tables)
    (change : CatalogStep contentHash rebuilds tables after) : ProjectionsTraced tables after := by
  cases change with
  | quiet frame => exact ProjectionsTraced.of_same (congrArg (fun parts => parts.2.2.1) frame)
  | withdraw withdrawn =>
    obtain ⟨now, projections⟩ := withdrawn.projections
    exact ProjectionsTraced.of_update projections (fun _ => rfl) (fun _ => rfl)
  | purge => exact ProjectionsTraced.of_same rfl
  | stage _ prepared =>
    rcases prepared.projection with ⟨_, _, projections⟩ | ⟨_, _, _, fresh, _, _, projections⟩
    · exact ProjectionsTraced.of_update projections (fun _ => rfl) (fun _ => rfl)
    · exact ProjectionsTraced.of_insert fresh projections
  | note _ =>
    exact ProjectionsTraced.of_same
      (eq_of_frame Tables.projections (upsertRunItem_frame tables _) (fun _ => rfl))
  | touch _ keeps =>
    apply ProjectionsTraced.of_update
    · rfl
    · exact fun row => congrArg Prod.fst (keeps row)
    · exact fun row => congrArg (fun parts => parts.2.1) (keeps row)
  | submit submitted =>
    obtain ⟨projectionId, fresh, _, _, projections⟩ := submitted.projections
    exact ProjectionsTraced.of_insert fresh projections
  | publish =>
    exact ProjectionsTraced.of_update (CatalogOk.publishVerified_spec ok _ _ _).2.1
      (fun _ => rfl) (fun _ => rfl)
  | conclude => exact ProjectionsTraced.of_same rfl

theorem CatalogSteps.projections_traced {rebuilds : Nat → Prop}
    {after : Tables} (ok : CatalogOk tables) (chain : CatalogSteps contentHash rebuilds tables after) :
    ProjectionsTraced tables after ∧ tables.nextId ≤ after.nextId := by
  induction chain with
  | refl => exact ⟨ProjectionsTraced.of_same rfl, Nat.le_refl _⟩
  | tail earlier change ih =>
    obtain ⟨traced, grows⟩ := ih
    have okMiddle := ok.steps earlier
    exact ⟨traced.trans grows (change.projections_traced okMiddle), Nat.le_trans grows (change.grows okMiddle)⟩

/-! ### Changes of the outbox -/

namespace TargetsOk

variable {tables after : Tables}

theorem of_same (ok : TargetsOk tables) (traced : ProjectionsTraced tables after)
    (grows : tables.nextId ≤ after.nextId) (targets : after.targets = tables.targets) : TargetsOk after := by
  constructor
  case unique =>
    rw [targets]
    exact ok.unique
  case known =>
    rw [targets]
    intro target member
    obtain ⟨operation, projection⟩ := ok.known target member
    exact ⟨Nat.lt_of_lt_of_le operation grows, Nat.lt_of_lt_of_le projection grows⟩
  case owners =>
    rw [targets]
    intro target member projection projectionMember same
    rcases traced projection projectionMember with ⟨old, oldMember, sameId, sameOwner⟩ | fresh
    · rw [← sameOwner]
      exact ok.owners target member old oldMember (sameId.trans same)
    · have bound := (ok.known target member).2
      omega
  case carried =>
    rw [targets]
    exact ok.carried

theorem add (ok : TargetsOk tables) (okAfter : CatalogOk after)
    (traced : ProjectionsTraced tables after) {target : Nat × Nat × Nat × Content}
    (fresh : tables.nextId ≤ target.1) (bound : target.1 < after.nextId)
    (owner : ∃ projection ∈ after.projections, projection.projectionId = target.2.2.1 ∧
      projection.memoryId = target.2.1) (carries : ∃ semantic, target.2.2.2 = .semantic semantic)
    (targets : after.targets = tables.targets ++ [target]) : TargetsOk after := by
  have grows : tables.nextId ≤ after.nextId := Nat.le_of_lt (Nat.lt_of_le_of_lt fresh bound)
  obtain ⟨own, ownMember, ownId, ownMemory⟩ := owner
  constructor
  case unique =>
    rw [targets, List.map_append]
    apply List.Nodup.append ok.unique (List.nodup_singleton _)
    rw [List.disjoint_singleton]
    intro used
    obtain ⟨old, oldMember, same⟩ := List.mem_map.mp used
    have below := (ok.known old oldMember).1
    omega
  case known =>
    rw [targets]
    intro other member
    rcases List.mem_append.mp member with old | new
    · obtain ⟨operation, projection⟩ := ok.known other old
      exact ⟨Nat.lt_of_lt_of_le operation grows, Nat.lt_of_lt_of_le projection grows⟩
    · rw [List.mem_singleton.mp new]
      refine ⟨bound, ?_⟩
      rw [← ownId]
      exact okAfter.projectionIds own ownMember
  case owners =>
    rw [targets]
    intro other member projection projectionMember same
    rcases List.mem_append.mp member with old | new
    · rcases traced projection projectionMember with ⟨past, pastMember, sameId, sameOwner⟩ | later
      · rw [← sameOwner]
        exact ok.owners other old past pastMember (sameId.trans same)
      · have below := (ok.known other old).2
        omega
    · rw [List.mem_singleton.mp new] at same ⊢
      have sameRow := okAfter.projectionKeys.eq_of_key projectionMember ownMember
        (same.trans ownId.symm)
      rw [sameRow]
      exact ownMemory
  case carried =>
    rw [targets]
    intro other member
    rcases List.mem_append.mp member with old | new
    · exact ok.carried other old
    · rw [List.mem_singleton.mp new]
      exact carries

end TargetsOk

/-! ### Staged and verified candidates -/

variable {now : Time}

theorem prepareCandidate_target {after : Tables} {request : CandidateRequest} {staged : Staged}
    (prepared : prepareCandidate contentHash tables request now = .ok (after, staged)) :
    ((after.targets = tables.targets ∧ ∃ target ∈ tables.targets, target.2.2.1 = staged.projectionId) ∨
      ∃ operationId, tables.nextId ≤ operationId ∧ operationId < after.nextId ∧ after.targets = tables.targets ++
          [(operationId, staged.memoryId, staged.projectionId, .semantic request.content)]) ∧
    ∃ projection ∈ after.projections, projection.projectionId = staged.projectionId ∧
      projection.memoryId = staged.memoryId := by
  obtain ⟨recorded, projected, sourced, existing, projection, stagedRecord, _, stagedProjection,
    inserted, rfl⟩ := prepareCandidate_stages prepared
  obtain ⟨recordFrame, recordCases⟩ := stageRecord_spec stagedRecord
  obtain ⟨projectionFrame, projectedGrows, projectionCases⟩ := stageProjection_spec stagedProjection
  have sourceFrame := (insertSources_spec inserted).1
  have outbox : sourced.projectionOutbox = tables.projectionOutbox := by
    rw [eq_of_frame Tables.projectionOutbox sourceFrame (fun _ => rfl)]
    show projected.projectionOutbox = _
    rw [eq_of_frame Tables.projectionOutbox projectionFrame (fun _ => rfl),
      eq_of_frame Tables.projectionOutbox recordFrame (fun _ => rfl)]
  have recordedGrows : tables.nextId ≤ recorded.nextId := by
    rcases recordCases with ⟨_, _, _, _, _, _, _, _, same⟩ | ⟨_, _, _, _, _, next⟩
    · exact Nat.le_of_eq same.symm
    · rw [next]
      exact Nat.le_succ _
  have grows : tables.nextId ≤ sourced.nextId := by
    rw [eq_of_frame Tables.nextId sourceFrame (fun _ => rfl)]
    exact Nat.le_trans recordedGrows projectedGrows
  constructor
  · simp only [Tables.targets, queueProjection, outbox]
    split
    next present =>
      -- a row with the same idempotency key is for the same projection
      obtain ⟨row, member, same⟩ := List.any_eq_true.mp present
      simp only [ProjectionOperation.sameKey, Bool.and_eq_true, beq_iff_eq] at same
      exact Or.inl ⟨rfl, row.target, List.mem_map_of_mem member, same.1.1.symm⟩
    · exact Or.inr ⟨sourced.nextId, grows, Nat.lt_succ_self _, by simp [ProjectionOperation.target, stagedOperation]⟩
  · show ∃ row ∈ sourced.projections, _
    rw [eq_of_frame Tables.projections sourceFrame (fun _ => rfl)]
    show ∃ row ∈ projected.projections, _
    have recordedProjections : recorded.projections = tables.projections :=
      eq_of_frame Tables.projections recordFrame (fun _ => rfl)
    rcases projectionCases with
      ⟨candidate, present, same, projections⟩ | ⟨_, _, _, storeKey, _, projections⟩
    · -- the candidate of the memory is staged again
      rcases recordCases with ⟨record, _, _, _, _, owner, found, _⟩ | ⟨_, _, _, none, _⟩
      · obtain ⟨member, candidateOwner, isOpen, _⟩ :=
          candidateProjection_spec (found.symm.trans present)
        refine ⟨Projection.restage staged.revision (contentHash (.semantic request.content))
          candidate, ?_, same.symm, candidateOwner.trans owner.symm⟩
        rw [projections, recordedProjections]
        exact mem_updateWhere.mpr (Or.inl ⟨candidate, member, by simp [isOpen], rfl⟩)
      · rw [none] at present
        cases present
    · refine ⟨newCandidate staged.projectionId staged.memoryId request.scope storeKey staged.revision
        (contentHash (.semantic request.content)), ?_, rfl, rfl⟩
      rw [projections]
      exact List.mem_append_right _ (List.mem_singleton_self _)

theorem verify_target {after : Tables} {manages : Scope → Bool}
    {memoryId expectedRevision : Nat} {evidence : List String}
    (verified : verify tables manages memoryId expectedRevision evidence now = .ok after) :
    ∃ record ∈ tables.records, record.status = .candidate ∧
      after.targets = tables.targets ++ [(tables.nextId + 1, memoryId, tables.nextId, record.content)] ∧
      after.nextId = tables.nextId + 2 ∧ ∃ projection ∈ after.projections, projection.projectionId = tables.nextId ∧
        projection.memoryId = memoryId := by
  obtain ⟨record, found, candidate, queued⟩ := verify_cases verified
  obtain ⟨member, same⟩ := mem_of_getRecord found
  have fenced : (fenceCandidate tables memoryId).nextId = tables.nextId ∧
      (fenceCandidate tables memoryId).projectionOutbox = tables.projectionOutbox := by
    unfold fenceCandidate
    split <;> exact ⟨rfl, rfl⟩
  unfold queueVerifiedProjection at queued
  simp only at queued
  split at queued
  · cases queued
  · cases queued
    refine ⟨record, member, candidate, ?_, ?_, _, List.mem_append_right _ (List.mem_singleton_self _), fenced.1, same⟩
    · simp only [Tables.targets, insertRevision, updateRecord, fenced.1, fenced.2, List.map_append,
        List.map_singleton, ProjectionOperation.target, same, newVerified]
    · simp only [insertRevision, updateRecord, fenced.1]

/-! ### Every operation -/

/-- The targets stay well formed and none is lost. -/
structure TargetsGrow (tables after : Tables) : Prop where
  ok : TargetsOk after
  kept : ∀ target ∈ tables.targets, target ∈ after.targets

theorem TargetsGrow.trans {middle after : Tables} (first : TargetsGrow tables middle)
    (second : TargetsGrow middle after) : TargetsGrow tables after :=
  ⟨second.ok, fun target member => second.kept target (first.kept target member)⟩

theorem TargetsGrow.of_same {after : Tables} (ok : TargetsOk tables)
    (traced : ProjectionsTraced tables after) (grows : tables.nextId ≤ after.nextId)
    (targets : after.targets = tables.targets) : TargetsGrow tables after :=
  ⟨ok.of_same traced grows targets, fun target member => by rw [targets]; exact member⟩

theorem TargetsGrow.of_prepared {after : Tables}
    {request : CandidateRequest} {staged : Staged} (okCatalog : CatalogOk tables)
    (ok : TargetsOk tables) (known : ∀ memoryId, request.memoryId = some memoryId →
      Known tables memoryId) (prepared : prepareCandidate contentHash tables request now = .ok (after, staged)) :
    TargetsGrow tables after := by
  have spec := prepareCandidate_spec contentHash prepared
  have stage : CatalogStep contentHash (fun _ => False) tables after := CatalogStep.stage known spec
  have traced := stage.projections_traced okCatalog
  obtain ⟨⟨same, _⟩ | ⟨operationId, fresh, bound, added⟩, owner⟩ := prepareCandidate_target prepared
  · exact TargetsGrow.of_same ok traced spec.grows same
  · refine ⟨ok.add (okCatalog.step stage) traced fresh bound owner ⟨_, rfl⟩ added, ?_⟩
    intro target member
    rw [added]
    exact List.mem_append_left _ member

theorem upsertRunItem_targets (tables : Tables) (item : RunItem) :
    (upsertRunItem tables item).targets = tables.targets :=
  congrArg (List.map ProjectionOperation.target)
    (eq_of_frame Tables.projectionOutbox (upsertRunItem_frame tables item) (fun _ => rfl))

theorem TargetsGrow.of_upsert (ok : TargetsOk tables) (item : RunItem) :
    TargetsGrow tables (upsertRunItem tables item) := by
  have frame := upsertRunItem_frame tables item
  apply TargetsGrow.of_same ok
  · exact ProjectionsTraced.of_same (eq_of_frame Tables.projections frame (fun _ => rfl))
  · exact Nat.le_of_eq (eq_of_frame Tables.nextId frame (fun _ => rfl)).symm
  · exact upsertRunItem_targets tables item

theorem applyItems_targets {env : Environment} {job : Job} {run : Run}
    {messages : List SourceMessage} {items : List OutputItem} :
    ∀ {tables after : Tables} {ordinal : Nat}, CatalogOk tables → TargetsOk tables →
      applyItems env job run messages now tables items ordinal = .ok after → TargetsGrow tables after := by
  induction items with
  | nil =>
    intro tables after ordinal _ ok applied
    cases applied
    exact ⟨ok, fun _ member => member⟩
  | cons item rest ih =>
    intro tables after ordinal okCatalog ok applied
    obtain ⟨middle, first, others⟩ := exists_of_applyItems_cons applied
    have chain : SteadySteps env.contentHash (fun _ => False) tables middle :=
      applyItem_steps okCatalog first
    have here : TargetsGrow tables middle := by
      rcases applyItem_cases first with
        rfl | ⟨staging, _, _, row, known, prepared, _, _, _, _, _, rfl⟩
      · exact ⟨ok, fun _ member => member⟩
      · have staged := TargetsGrow.of_prepared okCatalog ok known prepared
        exact staged.trans (TargetsGrow.of_upsert staged.ok row)
    exact here.trans (ih (okCatalog.steady chain) here.ok others)

theorem applyJob_targets {env : Environment} {after : Tables} {snapshot : Job}
    {messages : List SourceMessage} {sourceHash : String} (okCatalog : CatalogOk tables)
    (ok : TargetsOk tables) (applied : applyJob env tables snapshot messages sourceHash now = .ok after) :
    TargetsGrow tables after := by
  obtain ⟨current, _, _, ran⟩ := applyJob_cases applied
  obtain ⟨run, output, token, middle, checked, _, _, _, items, checkpoint, rfl⟩ := applyRun_cases ran
  have grown := applyItems_targets okCatalog ok items
  obtain ⟨ensured, ensuredNext⟩ :=
    ensureCheckpoint_catalog (commitRun middle run.runId) snapshot.jobId
  obtain ⟨updated, updatedNext⟩ := updateCheckpoint_catalog checkpoint
  have catalog : checked.catalog = middle.catalog := updated.trans ensured
  have outbox : checked.projectionOutbox = middle.projectionOutbox := by
    unfold updateCheckpoint at checkpoint
    simp only at checkpoint
    split at checkpoint
    · cases checkpoint
    · cases checkpoint
      unfold ensureCheckpoint
      split <;> rfl
  refine grown.trans (TargetsGrow.of_same grown.ok ?_ ?_ ?_)
  · exact ProjectionsTraced.of_same (congrArg (fun parts => parts.2.2.1) catalog)
  · show middle.nextId ≤ checked.nextId
    rw [updatedNext, ensuredNext]
    exact Nat.le_refl _
  · exact congrArg (List.map ProjectionOperation.target) outbox

theorem withdrawConsents_targets (contentHash : Content → String) (tables : Tables)
    (consentIds : List Nat) (reason : String) (now : Time) :
    (withdrawConsents contentHash tables consentIds reason now).targets = tables.targets :=
  foldl_keeps Tables.targets (fun middle memoryId =>
    targets_of_control (invalidateMemory_control contentHash reason now middle memoryId)) _ _

theorem invalidateMessageMemory_targets (contentHash : Content → String) (tables : Tables)
    (sessionId messageId : Nat) (reason : String) (now : Time) :
    (invalidateMessageMemory contentHash tables sessionId messageId reason now).targets = tables.targets :=
  foldl_keeps Tables.targets (fun middle memoryId =>
    targets_of_control (applySourceInvalidation_control contentHash _ reason now middle memoryId)) _ _

theorem invalidateSessionMemory_targets (contentHash : Content → String) (tables : Tables)
    (sessionId : Nat) (reason : String) (now : Time) :
    (invalidateSessionMemory contentHash tables sessionId reason now).targets = tables.targets :=
  foldl_keeps Tables.targets (fun middle memoryId =>
    targets_of_control (applySourceInvalidation_control contentHash _ reason now middle memoryId)) _ _

theorem setUserOptIn_targets (contentHash : Content → String) (tables : Tables) (userId : Nat)
    (enabled : Bool) (policyVersion : String) (now : Time) :
    (setUserOptIn contentHash tables userId enabled policyVersion now).targets = tables.targets := by
  obtain ⟨settings, written | ⟨_, withdrawn⟩⟩ :=
    setUserOptIn_cases contentHash tables userId enabled policyVersion now
  · rw [written]
    rfl
  · rw [withdrawn]
    exact withdrawConsents_targets contentHash { tables with settings } _ _ now

theorem revokeConsent_targets (contentHash : Content → String) (tables : Tables)
    (userId consentEventId : Nat) (reason : String) (now : Time) :
    (revokeConsent contentHash tables userId consentEventId reason now).targets = tables.targets := by
  unfold revokeConsent
  split
  · exact withdrawConsents_targets contentHash tables _ reason now
  · rfl

theorem enqueueProjectReflection_targets (tables : Tables) (request : ReflectionRequest) (now : Time) :
    (enqueueProjectReflection tables request now).1.targets = tables.targets := by
  unfold enqueueProjectReflection
  split
  · rfl
  · simp only
    split
    · split <;> rfl
    · rfl

theorem enqueueInConnection_targets (tables : Tables) (request : ReflectionRequest) (now : Time) :
    (enqueueProjectReflectionInConnection tables request now).1.targets = tables.targets := by
  unfold enqueueProjectReflectionInConnection
  split
  · rfl
  · simp only
    split
    · split <;> rfl
    · rfl

theorem createUserConsent_targets {manifestHash : List ConsentSourceItem → String}
    {after : Tables} {userId sessionId : Nat} {items : List ConsentSourceItem}
    (created : createUserConsent manifestHash tables userId sessionId items now = .ok after) :
    after.targets = tables.targets := by
  unfold createUserConsent at created
  simp only [bind, Except.bind, pure, Except.pure, throw, throwThe, MonadExceptOf.throw] at created
  split at created
  · cases created
  split at created
  · cases created
  split at created
  · cases created
  cases created
  rfl

theorem claimNext_targets (uuid : Nat → String) (maxRetries : Nat) (tables : Tables)
    (workerId : String) (leaseSeconds : Nat) (now clock : Time) :
    (claimNext uuid maxRetries tables workerId leaseSeconds now clock).1.targets = tables.targets := by
  unfold claimNext
  simp only
  split
  · rfl
  · split <;> rfl

theorem markRetry_targets (maxRetries : Nat) (tables : Tables) (jobId token generation : Nat)
    (error : String) (retryAfterSeconds : Nat) (clock : Time) :
    (markRetry maxRetries tables jobId token generation error retryAfterSeconds clock).targets = tables.targets := by
  unfold markRetry
  split
  · rfl
  · simp only
    split <;> rfl

theorem claimProjection_cases (env : Environment) (tables : Tables) (now : Time) :
    claimProjection env tables now = (tables, none) ∨
    ∃ row ∈ tables.projectionOutbox, ∃ item, (claimProjection env tables now).2 = some item ∧
      item.target = row.target := by
  unfold claimProjection
  simp only
  split
  · exact Or.inl rfl
  next row selected => exact Or.inr ⟨row, (List.mem_filter.mp (mem_of_firstBy selected)).1, _, rfl, rfl⟩

theorem commit_targetsGrow {state : ServiceState} {result : Except String Tables} (ok : TargetsOk state.tables)
    (accepted : ∀ after, result = .ok after → TargetsGrow state.tables after) :
    TargetsGrow state.tables (state.commit result).tables := by
  cases result with
  | error => exact ⟨ok, fun _ member => member⟩
  | ok after => exact accepted after rfl

theorem exec_targets (env : Environment) (state : ServiceState) (op : Op)
    (okCatalog : CatalogOk state.tables) (ok : TargetsOk state.tables) :
    TargetsGrow state.tables (state.exec env op).tables := by
  obtain ⟨traced, grows⟩ := CatalogSteps.projections_traced okCatalog
    (exec_catalogSteps env state op okCatalog)
  have unchanged : (state.exec env op).tables.targets = state.tables.targets →
      TargetsGrow state.tables (state.exec env op).tables :=
    fun targets => TargetsGrow.of_same ok traced grows targets
  have okAfter := okCatalog.steps (exec_catalogSteps env state op okCatalog)
  cases op with
  | setUserOptIn userId enabled policyVersion now =>
    exact unchanged (setUserOptIn_targets env.contentHash _ _ _ _ now)
  | createUserConsent =>
    exact unchanged (commit_keeps Tables.targets fun _ created => createUserConsent_targets created)
  | revokeConsent userId consentEventId reason now =>
    exact unchanged (revokeConsent_targets env.contentHash _ _ _ _ now)
  | clearSession sessionId now =>
    exact unchanged (invalidateSessionMemory_targets env.contentHash _ _ _ now)
  | deleteSession sessionId now =>
    exact unchanged (invalidateSessionMemory_targets env.contentHash _ _ _ now)
  | editMessage sessionId messageId reason now =>
    exact unchanged (invalidateMessageMemory_targets env.contentHash _ _ _ _ now)
  | enqueue request now => exact unchanged (enqueueProjectReflection_targets _ request now)
  | enqueueInConnection request now => exact unchanged (enqueueInConnection_targets _ request now)
  | disableAutoExtract => exact unchanged rfl
  | updateDraft =>
    apply commit_targetsGrow ok
    intro after updated
    obtain ⟨record, projectionId, fence, request, staged, found, named, _, prepared⟩ :=
      updateDraft_cases updated
    obtain ⟨member, owner⟩ := mem_of_getRecord found
    -- the fence moves first
    have fencing : CatalogStep env.contentHash (fun _ => False) state.tables
        (updateProjection state.tables projectionId fun row =>
          { row with fenceVersion := fence }) := by
      apply CatalogStep.touch
      · intro row selected
        simp only [Bool.and_eq_true, Option.isNone_iff_eq_none] at selected
        exact selected.2
      · exact fun _ => rfl
    have fenced : TargetsOk (updateProjection state.tables projectionId fun row =>
        { row with fenceVersion := fence }) :=
      ok.of_same (fencing.projections_traced okCatalog) (Nat.le_refl _) rfl
    have prepare := TargetsGrow.of_prepared (okCatalog.step fencing) fenced ?_ prepared
    · exact ⟨prepare.ok, fun target kept => prepare.kept target kept⟩
    · intro other own
      rw [named] at own
      cases own
      exact Or.inr (Or.inl ⟨record, member, owner⟩)
  | verify manages memoryId expectedRevision evidence now =>
    simp only [ServiceState.exec] at traced okAfter ⊢
    cases outcome : verify state.tables manages memoryId expectedRevision evidence now with
    | error => exact ⟨ok, fun _ member => member⟩
    | ok after =>
      rw [outcome] at traced okAfter
      obtain ⟨record, recordMember, candidate, targets, next, owner⟩ := verify_target outcome
      have okTargets : TargetsOk after := by
        refine ok.add okAfter traced ?_ ?_ ?_ ?_ targets
        · exact Nat.le_succ _
        · show state.tables.nextId + 1 < after.nextId
          rw [next]
          exact Nat.lt_succ_self _
        · exact owner
        · exact okCatalog.written record recordMember candidate
      refine ⟨okTargets, ?_⟩
      intro target member
      show target ∈ after.targets
      rw [targets]
      exact List.mem_append_left _ member
  | requeueDeadLetter => exact unchanged rfl
  | claimNext workerId leaseSeconds now clock =>
    have same := claimNext_targets env.uuid env.jobMaxRetries state.tables workerId leaseSeconds now
      clock
    apply unchanged
    simp only [ServiceState.exec]
    split
    next tables claimed => exact (by rw [claimed] at same; exact same)
    next tables job claimed => exact (by rw [claimed] at same; exact same)
  | heartbeat => exact unchanged rfl
  | markRetry =>
    exact unchanged (markRetry_targets _ _ _ _ _ _ _ _)
  | cancelJob => exact unchanged rfl
  | applyJob =>
    simp only [ServiceState.exec]
    split
    · exact commit_targetsGrow ok fun _ applied => applyJob_targets okCatalog ok applied
    · exact ⟨ok, fun _ member => member⟩
  | _ => exact unchanged (targets_of_work (exec_work env state _ rfl))

end HardwareDatabase.Memory
