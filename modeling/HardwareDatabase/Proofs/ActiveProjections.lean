/-
Module: HardwareDatabase.Proofs.ActiveProjections
Purpose: In every reachable state an active projection is unretired, its record is a candidate or verified as it is,
  both have one content hash, and no memory has two active projections.
Trusted boundary: none
-/
import HardwareDatabase.Proofs.ProjectionTargets

namespace HardwareDatabase.Memory

open Relational

/-- The record status that a projection of the kind is served for. -/
def ProjectionKind.recordStatus : ProjectionKind → RecordStatus
  | .candidate => .candidate
  | .verified => .verified

/-- The record vouches for the projection. -/
def VouchesFor (record : Record) (projection : Projection) : Prop :=
  record.memoryId = projection.memoryId ∧ record.status = projection.kind.recordStatus ∧
    projection.currentContentHash = record.contentHash

/-- Active projections are vouched for, and a memory has one unretired verified projection at most. -/
structure ActiveOk (tables : Tables) : Prop where
  trusted : ∀ projection ∈ tables.projections, projection.active = true →
    ∃ record ∈ tables.records, VouchesFor record projection
  oneVerified : ∀ left ∈ tables.projections, ∀ right ∈ tables.projections,
    left.retiredAt = none → right.retiredAt = none → left.kind = .verified →
    right.kind = .verified → left.memoryId = right.memoryId → left = right

private theorem activeOk_empty : ActiveOk Tables.empty := by
  constructor <;> simp [Tables.empty]

variable {row : Projection} {memoryId expectedRevision : Nat} {record : Record} {now : Time} {p : Projection → Bool}

namespace ActiveOk

variable {contentHash : Content → String} {rebuilds : Nat → Prop} {tables after : Tables}

private theorem of_origin (ok : ActiveOk tables)
    (rows : ∀ row ∈ after.projections, row.active = true → row ∈ tables.projections)
    (records : ∀ row ∈ after.projections, row.active = true → ∀ record ∈ tables.records,
      VouchesFor record row → record ∈ after.records)
    (verified : ∀ row ∈ after.projections, row.retiredAt = none → row.kind = .verified →
      row ∈ tables.projections) : ActiveOk after := by
  constructor
  case trusted =>
    intro row member active
    obtain ⟨record, recordMember, vouches⟩ := ok.trusted row (rows row member active) active
    exact ⟨record, records row member active record recordMember vouches, vouches⟩
  case oneVerified =>
    intro left leftMember right rightMember leftOpen rightOpen leftKind rightKind
    exact ok.oneVerified left (verified left leftMember leftOpen leftKind) right
      (verified right rightMember rightOpen rightKind) leftOpen rightOpen leftKind rightKind

private theorem of_same (ok : ActiveOk tables) (projections : after.projections = tables.projections)
    (records : after.records = tables.records) : ActiveOk after := by
  apply ok.of_origin
  · rw [projections]
    exact fun _ member _ => member
  · rw [records]
    exact fun _ _ _ _ member _ => member
  · rw [projections]
    exact fun _ member _ _ => member

private theorem unretired (okCatalog : CatalogOk tables) (member : row ∈ tables.projections)
    (active : row.active = true) : row.retiredAt = none := by
  by_contra retired
  have shut := okCatalog.shut row member retired
  rw [active] at shut
  cases shut

private theorem withdraw (okCatalog : CatalogOk tables) (ok : ActiveOk tables)
    {permitted : Prop} (withdrawn : Withdrawn permitted tables after memoryId) : ActiveOk after := by
  obtain ⟨f, _, _, _, _, _, records⟩ := withdrawn.records
  obtain ⟨now, projections⟩ := withdrawn.projections
  have kept : ∀ row ∈ after.projections, row.retiredAt = none →
      row ∈ tables.projections ∧ row.memoryId ≠ memoryId := by
    rw [projections]
    exact fun row member isOpen => CatalogOk.mem_retired member isOpen
  have isOpen : ∀ row ∈ after.projections, row.active = true → row.retiredAt = none :=
    fun row member active => unretired (okCatalog.withdraw withdrawn) member active
  apply ok.of_origin
  · exact fun row member active => (kept row member (isOpen row member active)).1
  · intro row member active record recordMember vouches
    rw [records]
    apply CatalogOk.mem_of_other recordMember
    rw [vouches.1]
    exact (kept row member (isOpen row member active)).2
  · exact fun row member here _ => (kept row member here).1

private theorem purge (okCatalog : CatalogOk tables) (ok : ActiveOk tables)
    (member : record ∈ tables.records) (deleted : record.status = .deleted) :
    ActiveOk (purgeRows tables record.memoryId) := by
  apply ok.of_origin
  · exact fun _ rowMember _ => rowMember
  · intro row _ _ other otherMember vouches
    refine mem_deleteWhere.mpr ⟨otherMember, ?_⟩
    by_contra selected
    simp only [Bool.not_eq_false, beq_iff_eq] at selected
    have same := okCatalog.recordKeys.eq_of_key otherMember member selected
    have status := vouches.2.1
    rw [same, deleted] at status
    cases kind : row.kind <;> simp [kind, ProjectionKind.recordStatus] at status
  · exact fun _ rowMember _ _ => rowMember

private theorem conclude (ok : ActiveOk tables) (memoryId : Nat) (now : Time) :
    ActiveOk (concludeSupersede tables memoryId now) := by
  apply ok.of_origin
  · exact fun _ member _ => member
  · intro row _ _ record member vouches
    refine mem_updateWhere.mpr (Or.inr ⟨member, ?_⟩)
    by_contra selected
    simp only [Bool.not_eq_false, Bool.and_eq_true, beq_iff_eq] at selected
    have status := vouches.2.1
    rw [selected.2] at status
    cases kind : row.kind <;> simp [kind, ProjectionKind.recordStatus] at status
  · exact fun _ member _ _ => member

private theorem stage (okCatalog : CatalogOk tables) (ok : ActiveOk tables) {request : CandidateRequest}
    {staged : Staged} (known : ∀ memoryId, request.memoryId = some memoryId → Known tables memoryId)
    (prepared : PrepareSpec contentHash tables after request staged now) : ActiveOk after := by
  -- the staged row is inactive, and every other active row belongs to another memory
  have active : ∀ row ∈ after.projections, row.active = true →
      row ∈ tables.projections ∧ row.memoryId ≠ staged.memoryId := by
    intro row member active
    rcases CatalogOk.staged_projection okCatalog known prepared with
      ⟨candidate, candidateMember, owner, isOpen, kind, projections⟩ | ⟨none, _, _, _, _, _, projections⟩
    · rw [projections] at member
      rcases mem_updateWhere.mp member with ⟨old, _, _, rfl⟩ | ⟨kept, skipped⟩
      · cases active
      · refine ⟨kept, ?_⟩
        intro own
        have rowOpen := unretired okCatalog kept active
        have rowKind := CatalogOk.unretired_of_staged okCatalog known prepared kept rowOpen own
        have same := okCatalog.oneCandidate row kept candidate candidateMember rowOpen isOpen rowKind
          kind (own.trans owner.symm)
        simp [same, isOpen] at skipped
    · rw [projections] at member
      rcases List.mem_append.mp member with old | new
      · exact ⟨old, none row old (unretired okCatalog old active)⟩
      · rw [List.mem_singleton.mp new] at active
        cases active
  apply ok.of_origin
  · exact fun row member here => (active row member here).1
  · intro row member here record recordMember vouches
    have other : record.memoryId ≠ staged.memoryId := by
      rw [vouches.1]
      exact (active row member here).2
    rcases CatalogOk.staged_record okCatalog known prepared with
      ⟨existing, _, owner, _, _, _, records⟩ | ⟨_, _, _, records⟩
    · rw [records]
      apply CatalogOk.mem_of_other recordMember
      rw [owner]
      exact other
    · rw [records]
      exact List.mem_append_left _ recordMember
  · intro row member isOpen verified
    rcases CatalogOk.staged_projection okCatalog known prepared with
      ⟨candidate, candidateMember, _, _, kind, projections⟩ | ⟨_, _, _, _, _, _, projections⟩
    · rw [projections] at member
      rcases mem_updateWhere.mp member with ⟨old, oldMember, selected, rfl⟩ | ⟨kept, _⟩
      · simp only [Bool.and_eq_true, beq_iff_eq] at selected
        have same := okCatalog.projectionKeys.eq_of_key oldMember candidateMember selected.1
        rw [same] at verified
        exact absurd (kind.symm.trans verified) (by decide)
      · exact kept
    · rw [projections] at member
      rcases List.mem_append.mp member with old | new
      · exact old
      · rw [List.mem_singleton.mp new] at verified
        cases verified

private theorem steadyStep (okCatalog : CatalogOk tables) (ok : ActiveOk tables)
    (change : SteadyStep contentHash rebuilds tables after) : ActiveOk after := by
  cases change with
  | quiet frame =>
    exact ok.of_same (congrArg (fun parts => parts.2.2.1) frame) (congrArg Prod.fst frame)
  | withdraw withdrawn => exact withdraw okCatalog ok withdrawn
  | purge member deleted => exact purge okCatalog ok member deleted
  | stage known prepared => exact stage okCatalog ok known prepared
  | @note item =>
    have frame := upsertRunItem_frame tables item
    exact ok.of_same (eq_of_frame Tables.projections frame (fun _ => rfl))
      (eq_of_frame Tables.records frame (fun _ => rfl))
  | conclude => exact ok.conclude _ _

private theorem steady (okCatalog : CatalogOk tables) (ok : ActiveOk tables)
    (chain : SteadySteps contentHash rebuilds tables after) : ActiveOk after := by
  induction chain with
  | refl => exact ok
  | tail earlier change ih =>
    exact steadyStep (okCatalog.steady earlier) ih change

/-! ### Changes in place -/

private theorem calm (ok : ActiveOk tables) {f : Projection → Projection}
    (projections : after.projections = updateWhere p f tables.projections)
    (records : after.records = tables.records) (keeps : ∀ row, (f row).identity = row.identity)
    (sameHash : ∀ row, (f row).currentContentHash = row.currentContentHash)
    (calms : ∀ row, (f row).active = true → row.active = true) : ActiveOk after := by
  have origin : ∀ row ∈ after.projections, ∃ old ∈ tables.projections,
      row = (if p old then f old else old) ∧ row.identity = old.identity ∧
      row.currentContentHash = old.currentContentHash ∧
      (row.active = true → old.active = true) := by
    rw [projections]
    intro row member
    obtain ⟨old, oldMember, rfl⟩ := exists_of_mem_updateWhere member
    refine ⟨old, oldMember, rfl, CatalogOk.touched_identity keeps old, ?_, ?_⟩
    · split
      · exact sameHash old
      · rfl
    · split
      · exact calms old
      · exact fun active => active
  constructor
  case trusted =>
    intro row member active
    obtain ⟨old, oldMember, _, same, hash, wasActive⟩ := origin row member
    simp only [Projection.identity, Prod.mk.injEq] at same
    obtain ⟨record, recordMember, vouches⟩ := ok.trusted old oldMember (wasActive active)
    refine ⟨record, by rw [records]; exact recordMember, ?_⟩
    rw [VouchesFor, same.2.1, same.2.2.1, hash]
    exact vouches
  case oneVerified =>
    intro left leftMember right rightMember leftOpen rightOpen leftKind rightKind sameMemory
    obtain ⟨leftOld, leftOldMember, leftEq, leftSame, _⟩ := origin left leftMember
    obtain ⟨rightOld, rightOldMember, rightEq, rightSame, _⟩ := origin right rightMember
    simp only [Projection.identity, Prod.mk.injEq] at leftSame rightSame
    have sameOld : leftOld = rightOld := by
      apply ok.oneVerified leftOld leftOldMember rightOld rightOldMember
      · rw [← leftSame.2.2.2.2.2, leftOpen]
      · rw [← rightSame.2.2.2.2.2, rightOpen]
      · rw [← leftSame.2.2.1, leftKind]
      · rw [← rightSame.2.2.1, rightKind]
      · rw [← leftSame.2.1, ← rightSame.2.1, sameMemory]
    rw [leftEq, rightEq, sameOld]

private theorem updateDraft (okCatalog : CatalogOk tables) (ok : ActiveOk tables) {manages : Scope → Bool}
    {semantic : Semantic}
    (updated : Memory.updateDraft contentHash tables manages memoryId semantic expectedRevision now =
      .ok after) : ActiveOk after := by
  obtain ⟨record, projectionId, fence, request, staged, found, named, _, prepared⟩ :=
    updateDraft_cases updated
  obtain ⟨member, owner⟩ := mem_of_getRecord found
  have okFenced : CatalogOk (updateProjection tables projectionId fun row =>
      { row with fenceVersion := fence }) := by
    apply okCatalog.touch
    · intro row selected
      simp only [Bool.and_eq_true, Option.isNone_iff_eq_none] at selected
      exact selected.2
    · exact fun _ => rfl
  have fenced : ActiveOk (updateProjection tables projectionId fun row =>
      { row with fenceVersion := fence }) := by
    apply ok.calm
    · rfl
    · rfl
    · exact fun _ => rfl
    · exact fun _ => rfl
    · exact fun _ active => active
  apply stage okFenced fenced
  · intro other own
    rw [named] at own
    cases own
    exact Or.inr (Or.inl ⟨record, member, owner⟩)
  · exact prepareCandidate_spec contentHash prepared

private theorem fence (ok : ActiveOk tables) (projectionId expectedFence : Nat) :
    ActiveOk (fenceProjection tables projectionId expectedFence) := by
  apply ok.calm
  · rfl
  · rfl
  · exact fun _ => rfl
  · exact fun _ => rfl
  · exact fun _ active => by cases active

section

variable (okCatalog : CatalogOk tables)
include okCatalog

/-- Once the candidate is fenced, no projection of the memory under verification is active. -/
theorem inactive_of_fenced (member : record ∈ tables.records) (candidate : record.status = .candidate) :
    ∀ row ∈ (fenceCandidate tables record.memoryId).projections, row.active = true →
      row.memoryId ≠ record.memoryId := by
  -- an unretired projection of a candidate record is its candidate projection
  have isCandidate : ∀ row ∈ tables.projections, row.active = true →
      row.memoryId = record.memoryId → row.retiredAt = none ∧ row.kind = .candidate := by
    intro row rowMember active own
    have isOpen := unretired okCatalog rowMember active
    obtain ⟨owner, ownerMember, same, live⟩ := okCatalog.live row rowMember isOpen
    have sameRecord := okCatalog.recordKeys.eq_of_key ownerMember member (same.trans own)
    rw [sameRecord] at live
    refine ⟨isOpen, ?_⟩
    cases kind : row.kind with
    | candidate => rfl
    | verified => simp [LiveUnder, kind, candidate] at live
  intro row rowMember active own
  unfold fenceCandidate at rowMember
  split at rowMember
  next none =>
    obtain ⟨isOpen, kind⟩ := isCandidate row rowMember active own
    exact not_mem_of_candidateProjection_none none rowMember own isOpen kind
  next found foundEq =>
    obtain ⟨foundMember, foundOwner, foundOpen, foundKind⟩ := candidateProjection_spec foundEq
    rcases mem_updateWhere.mp rowMember with ⟨old, _, _, rfl⟩ | ⟨kept, skipped⟩
    · cases active
    · obtain ⟨isOpen, kind⟩ := isCandidate row kept active own
      have same := okCatalog.oneCandidate row kept found foundMember isOpen foundOpen kind foundKind
        (own.trans foundOwner.symm)
      simp [same, foundOpen] at skipped

private theorem submit (ok : ActiveOk tables) (submitted : Submitted tables after record now)
    (inactive : ∀ row ∈ tables.projections, row.active = true → row.memoryId ≠ record.memoryId) : ActiveOk after := by
  obtain ⟨projectionId, _, _, _, projections⟩ := submitted.projections
  -- a candidate record has no unretired verified projection yet
  have noVerified : ∀ row ∈ tables.projections, row.retiredAt = none → row.kind = .verified →
      row.memoryId ≠ record.memoryId := by
    intro row member isOpen kind own
    obtain ⟨owner, ownerMember, same, live⟩ := okCatalog.live row member isOpen
    have sameRecord := okCatalog.recordKeys.eq_of_key ownerMember submitted.member (same.trans own)
    rw [sameRecord] at live
    simp [LiveUnder, kind, submitted.candidate] at live
  have old : ∀ row ∈ after.projections, row.active = true → row ∈ tables.projections := by
    rw [projections]
    intro row member active
    rcases List.mem_append.mp member with old | new
    · exact old
    · rw [List.mem_singleton.mp new] at active
      cases active
  constructor
  case trusted =>
    intro row member active
    obtain ⟨owner, ownerMember, vouches⟩ := ok.trusted row (old row member active) active
    refine ⟨owner, ?_, vouches⟩
    rw [submitted.records]
    apply CatalogOk.mem_of_other ownerMember
    rw [vouches.1]
    exact inactive row (old row member active) active
  case oneVerified =>
    rw [projections]
    intro left leftMember right rightMember leftOpen rightOpen leftKind rightKind same
    rcases List.mem_append.mp leftMember with leftOld | leftNew
    · rcases List.mem_append.mp rightMember with rightOld | rightNew
      · exact ok.oneVerified left leftOld right rightOld leftOpen rightOpen leftKind rightKind same
      · rw [List.mem_singleton.mp rightNew] at same
        exact absurd same (noVerified left leftOld leftOpen leftKind)
    · rcases List.mem_append.mp rightMember with rightOld | rightNew
      · rw [List.mem_singleton.mp leftNew] at same
        exact absurd same.symm (noVerified right rightOld rightOpen rightKind)
      · rw [List.mem_singleton.mp leftNew, List.mem_singleton.mp rightNew]

private theorem verify (ok : ActiveOk tables) {manages : Scope → Bool} {evidence : List String}
    (verified : Memory.verify tables manages memoryId expectedRevision evidence now = .ok after) : ActiveOk after := by
  obtain ⟨record, member, rfl, candidate, submitted⟩ := verify_submitted verified
  have fencing : CatalogSteps (fun _ => "") (fun _ => False) tables
      (fenceCandidate tables record.memoryId) := fenceCandidate_steps tables record.memoryId
  have okFenced := okCatalog.steps fencing
  have fenced : ActiveOk (fenceCandidate tables record.memoryId) := by
    unfold fenceCandidate
    split
    · exact ok
    · exact ok.fence _ _
  exact submit okFenced fenced submitted (inactive_of_fenced okCatalog member candidate)

/-! ### Activation -/

private theorem mem_activated {projectionId : Nat} {projection : Projection}
    (found : getProjection tables projectionId = some projection) (member : row ∈ (updateProjection tables projectionId
      fun row => { row with active := true }).projections) :
    row = { projection with active := true } ∨ row ∈ tables.projections := by
  have projectionMember := List.mem_of_find?_eq_some found
  have sameId : projection.projectionId = projectionId := by
    simpa using List.find?_some found
  rcases mem_updateWhere.mp member with ⟨old, oldMember, selected, rfl⟩ | ⟨kept, _⟩
  · simp only [Bool.and_eq_true, beq_iff_eq] at selected
    have same := okCatalog.projectionKeys.eq_of_key oldMember projectionMember
      (selected.1.trans sameId.symm)
    exact Or.inl (by rw [same])
  · exact Or.inr kept

end

private theorem oneVerified_activated (ok : ActiveOk tables) (projectionId : Nat) :
    ∀ left ∈ (updateProjection tables projectionId
        fun row => { row with active := true }).projections,
      ∀ right ∈ (updateProjection tables projectionId
        fun row => { row with active := true }).projections,
      left.retiredAt = none → right.retiredAt = none → left.kind = .verified →
      right.kind = .verified → left.memoryId = right.memoryId → left = right := by
  intro left leftMember right rightMember leftOpen rightOpen leftKind rightKind same
  obtain ⟨leftOld, leftOldMember, rfl⟩ := exists_of_mem_updateWhere leftMember
  obtain ⟨rightOld, rightOldMember, rfl⟩ := exists_of_mem_updateWhere rightMember
  have sameOld : leftOld = rightOld := by
    apply ok.oneVerified leftOld leftOldMember rightOld rightOldMember
    · split at leftOpen <;> exact leftOpen
    · split at rightOpen <;> exact rightOpen
    · split at leftKind <;> exact leftKind
    · split at rightKind <;> exact rightKind
    · split at same <;> split at same <;> exact same
  rw [sameOld]

/-- The record vouches for the projection that `mark_projection_active` activates, unless it still
waits for its verification. -/
theorem vouches_of_activation (okCatalog : CatalogOk tables) {projection : Projection}
    {expectedFence : Nat} {digest : String}
    (member : projection ∈ tables.projections) (recordMember : record ∈ tables.records)
    (owner : record.memoryId = projection.memoryId)
    (activation : Activation projection record expectedRevision expectedFence digest) :
    (record.status = projection.kind.recordStatus ∨
      (projection.kind = .verified ∧ record.status = .verificationPending)) ∧
    projection.currentContentHash = record.contentHash ∧
    (projection.kind = .verified → projection.currentRevision = record.currentRevision) := by
  obtain ⟨own, ownMember, same, live⟩ := okCatalog.live projection member activation.unretired
  have sameRecord := okCatalog.recordKeys.eq_of_key ownMember recordMember (same.trans owner.symm)
  rw [sameRecord] at live
  refine ⟨?_, activation.projected.trans activation.recorded.symm, ?_⟩
  · cases kind : projection.kind with
    | candidate =>
      simp only [LiveUnder, kind] at live
      rcases live with ⟨candidate, _⟩ | ⟨pending, _⟩
      · exact Or.inl candidate
      · -- a fenced candidate is refused
        rcases activation.status with active | ⟨_, verified⟩
        · rw [pending] at active
          cases active
        · rw [kind] at verified
          cases verified
    | verified =>
      simp only [LiveUnder, kind] at live
      rcases live.1 with pending | verified
      · exact Or.inr ⟨rfl, pending⟩
      · exact Or.inl verified
  · intro kind
    simp only [LiveUnder, kind] at live
    exact live.2

private theorem activate (okCatalog : CatalogOk tables) (ok : ActiveOk tables)
    {operationId projectionId expectedFence : Nat} {digest : String} (owned : ∀ row projection,
      tables.projectionOutbox.find? (fun row => row.operationId == operationId) = some row →
      getProjection tables projectionId = some projection → projection.memoryId = row.memoryId)
    (activated : markProjectionActive tables operationId projectionId expectedRevision expectedFence
      digest now = some after) : ActiveOk after := by
  obtain ⟨row, projection, record, middle, foundRow, foundProjection, foundRecord, activation,
    middleEq, result⟩ := markProjectionActive_cases activated
  have owner := owned row projection foundRow foundProjection
  have projectionMember := List.mem_of_find?_eq_some foundProjection
  obtain ⟨recordMember, recordOwner⟩ := mem_of_getRecord foundRecord
  obtain ⟨status, hash, revision⟩ := vouches_of_activation okCatalog projectionMember recordMember
    (recordOwner.trans owner.symm) activation
  have okMiddle : CatalogOk middle := by
    rw [middleEq]
    apply okCatalog.touch
    · intro row selected
      simp only [Bool.and_eq_true, Option.isNone_iff_eq_none] at selected
      exact selected.2
    · exact fun _ => rfl
  have middleRows : ∀ other ∈ middle.projections,
      other = { projection with active := true } ∨ other ∈ tables.projections := by
    rw [middleEq]
    exact fun other member => mem_activated okCatalog foundProjection member
  have middleVerified := oneVerified_activated ok projectionId
  rw [← middleEq] at middleVerified
  have middleRecords : middle.records = tables.records := by rw [middleEq]; rfl
  rcases result with ⟨settled, rfl⟩ | ⟨⟨kind, pending⟩, rfl⟩
  · have served : record.status = projection.kind.recordStatus :=
      status.resolve_right settled
    constructor
    case trusted =>
      intro other member active
      rcases middleRows other member with rfl | old
      · refine ⟨record, ?_, recordOwner.trans owner.symm, served, hash⟩
        show record ∈ middle.records
        rw [middleRecords]
        exact recordMember
      · obtain ⟨witness, witnessMember, vouches⟩ := ok.trusted other old active
        refine ⟨witness, ?_, vouches⟩
        show witness ∈ middle.records
        rw [middleRecords]
        exact witnessMember
    case oneVerified => exact middleVerified
  · -- the record becomes verified together with its projection, and the candidate is retired
    obtain ⟨records, projections, _⟩ :=
      okMiddle.publishVerified_spec row.memoryId expectedRevision now
    rw [middleRecords] at records
    have kept : ∀ other ∈ (publishVerified middle row.memoryId expectedRevision now).projections,
        other.retiredAt = none → other ∈ middle.projections := by
      rw [projections]
      intro other member isOpen
      rcases mem_updateWhere.mp member with ⟨old, _, _, rfl⟩ | ⟨old, _⟩
      · cases isOpen
      · exact old
    constructor
    case trusted =>
      intro other member active
      have isOpen : other.retiredAt = none :=
        unretired (okMiddle.publish row.memoryId expectedRevision now) member active
      rcases middleRows other (kept other member isOpen) with rfl | old
      · refine ⟨{ record with status := .verified, updatedAt := now }, ?_, recordOwner.trans owner.symm, ?_, hash⟩
        · show _ ∈ (publishVerified middle row.memoryId expectedRevision now).records
          rw [records]
          refine mem_updateWhere.mpr (Or.inl ⟨record, recordMember, ?_, rfl⟩)
          simp [recordOwner, pending, ← revision kind, activation.revision]
        · show RecordStatus.verified = projection.kind.recordStatus
          rw [kind]
          rfl
      · obtain ⟨witness, witnessMember, vouches⟩ := ok.trusted other old active
        refine ⟨witness, ?_, vouches⟩
        show witness ∈ (publishVerified middle row.memoryId expectedRevision now).records
        rw [records]
        refine mem_updateWhere.mpr (Or.inr ⟨witnessMember, ?_⟩)
        by_contra selected
        simp only [Bool.not_eq_false, Bool.and_eq_true, beq_iff_eq] at selected
        have served := vouches.2.1
        rw [selected.1.2] at served
        cases otherKind : other.kind <;> simp [otherKind, ProjectionKind.recordStatus] at served
    case oneVerified =>
      intro left leftMember right rightMember leftOpen rightOpen
      exact middleVerified left (kept left leftMember leftOpen) right
        (kept right rightMember rightOpen) leftOpen rightOpen

end ActiveOk

/-! ### Single retirements -/

/-- `retire_projection` on its own retires the rows it selects and leaves the rest of the catalog. -/
theorem retireProjection_rows (reason : String) (now : Time) (tables : Tables) (projectionId : Nat)
    (unique : UniqueOn Projection.projectionId tables.projections) :
    ∃ p, (retireProjection reason now tables projectionId).projections =
        updateWhere p (Projection.retired now) tables.projections ∧
      (retireProjection reason now tables projectionId).records = tables.records ∧
      (retireProjection reason now tables projectionId).runItems = tables.runItems ∧
      tables.nextId ≤ (retireProjection reason now tables projectionId).nextId := by
  unfold retireProjection
  split
  · exact ⟨fun _ => false, (updateWhere_eq_self (by simp)).symm, rfl, rfl, Nat.le_refl _⟩
  next row found =>
    have chosen := List.find?_some found
    simp only [Bool.and_eq_true] at chosen
    exact ⟨_, retireRow_projections unique (List.mem_of_find?_eq_some found) chosen.2, rfl, rfl, Nat.le_succ _⟩

private theorem mem_of_unretired {rows : List Projection} (member : row ∈ updateWhere p (Projection.retired now) rows)
    (isOpen : row.retiredAt = none) : row ∈ rows := by
  rcases mem_updateWhere.mp member with ⟨old, _, _, rfl⟩ | ⟨kept, _⟩
  · cases isOpen
  · exact kept

variable {tables : Tables}

private theorem ActiveOk.retire {after : Tables} (ok : ActiveOk tables)
    (projections : after.projections = updateWhere p (Projection.retired now) tables.projections)
    (records : after.records = tables.records) : ActiveOk after := by
  apply ok.of_origin
  · rw [projections]
    intro row member active
    rcases mem_updateWhere.mp member with ⟨old, _, _, rfl⟩ | ⟨kept, _⟩
    · cases active
    · exact kept
  · rw [records]
    exact fun _ _ _ _ member _ => member
  · rw [projections]
    exact fun row member isOpen _ => mem_of_unretired member isOpen

/-! ### Every reachable state

A call may be made with what was captured before other calls, so the invariant speaks of the calls in flight too. -/

/-- The outbox row that the worker is publishing, with the projection it has read for it. -/
def WorkerPhase.publishing : WorkerPhase → Option (ProjectionOperation × Option Projection)
  | .projectionClaimed item => some (item, none)
  | .projectionReady item projection | .projectionWritten item projection =>
    some (item, some projection)
  | _ => none

/-- The invariant of the catalog calls. -/
structure CallsOk (state : CatalogState) : Prop where
  catalog : CatalogOk state.tables
  targets : TargetsOk state.tables
  active : ActiveOk state.tables
  captured : ∀ item ∈ state.captured, item.target ∈ state.tables.targets
  publishing : ∀ item projection, state.service.phase.publishing = some (item, projection) →
    item.target ∈ state.tables.targets ∧
      ∀ row, projection = some row → row.projectionId = item.projectionId

variable {item : ProjectionOperation}

private theorem TargetsOk.find? (ok : TargetsOk tables) {row : ProjectionOperation}
    (captured : item.target ∈ tables.targets)
    (found : tables.projectionOutbox.find? (fun row => row.operationId == item.operationId) =
      some row) : row.target = item.target := by
  have member : row.target ∈ tables.targets :=
    List.mem_map_of_mem (List.mem_of_find?_eq_some found)
  have same : row.operationId = item.operationId := by simpa using List.find?_some found
  have unique : UniqueOn Prod.fst tables.targets := ok.unique
  exact unique.eq_of_key member captured same

private theorem TargetsOk.owner (ok : TargetsOk tables) (captured : item.target ∈ tables.targets) : ∀ row projection,
      tables.projectionOutbox.find? (fun row => row.operationId == item.operationId) = some row →
      getProjection tables item.projectionId = some projection → projection.memoryId = row.memoryId := by
  intro row projection foundRow foundProjection
  have same := ok.find? captured foundRow
  have sameId : projection.projectionId = item.projectionId := by
    simpa using List.find?_some foundProjection
  have owner := ok.owners item.target captured projection
    (List.mem_of_find?_eq_some foundProjection) sameId
  rw [owner]
  exact (congrArg (fun target => target.2.1) same).symm

private theorem exec_activeOk (env : Environment) {state : CatalogState} (ok : CallsOk state) (op : Op) :
    ActiveOk (state.service.exec env op).tables := by
  cases op with
  | updateDraft manages memoryId semantic expectedRevision now =>
    simp only [ServiceState.exec]
    cases outcome : updateDraft env.contentHash state.service.tables manages memoryId semantic
        expectedRevision now with
    | error error => exact ok.active
    | ok after => exact ActiveOk.updateDraft ok.catalog ok.active outcome
  | verify manages memoryId expectedRevision evidence now =>
    simp only [ServiceState.exec]
    cases outcome : verify state.service.tables manages memoryId expectedRevision evidence now with
    | error => exact ok.active
    | ok => exact ActiveOk.verify ok.catalog ok.active outcome
  | activateProjection =>
    simp only [ServiceState.exec]
    split
    next item projection written =>
      obtain ⟨captured, same⟩ := ok.publishing item (some projection) (by rw [written]; rfl)
      split
      next after activated =>
        rw [same projection rfl] at activated
        exact ActiveOk.activate ok.catalog ok.active (ok.targets.owner captured) activated
      next => exact ok.active.of_same rfl rfl
    next => exact ok.active
  | _ => exact ActiveOk.steady ok.catalog ok.active (exec_steadySteps env state.service _ ok.catalog rfl)

/-- The worker comes to publish a row that it has just claimed, or one that it was publishing, with
the projection that the row names. -/
theorem exec_publishing (env : Environment) (state : ServiceState) (op : Op) {projection : Option Projection}
    (publishing : (state.exec env op).phase.publishing = some (item, projection)) :
    state.phase.publishing = some (item, projection) ∨ (projection = none ∧ item.target ∈ state.tables.targets) ∨
    (state.phase.publishing = some (item, none) ∧
      ∀ row, projection = some row → row.projectionId = item.projectionId) := by
  have committed : ∀ result, (state.commit result).phase = state.phase := by
    intro result
    cases result <;> rfl
  cases op with
  | claimProjection now =>
    simp only [ServiceState.exec] at publishing
    split at publishing
    next idle =>
      rcases claimProjection_cases env state.tables now with
        none | ⟨row, member, claimed, some, same⟩
      · rw [none] at publishing
        exact Or.inl publishing
      · generalize claimProjection env state.tables now = outcome at some publishing
        obtain ⟨tables, result⟩ := outcome
        cases some
        cases publishing
        refine Or.inr (Or.inl ⟨rfl, ?_⟩)
        rw [same]
        exact List.mem_map_of_mem member
    next => exact Or.inl publishing
  | checkProjection =>
    simp only [ServiceState.exec] at publishing
    split at publishing
    next claimed phase =>
      split at publishing
      next found checked =>
        cases publishing
        refine Or.inr (Or.inr ⟨by rw [phase]; rfl, ?_⟩)
        rintro row ⟨⟩
        unfold projectionTarget at checked
        split at checked
        · cases checked
        next projection found =>
          have sameId : projection.projectionId = item.projectionId := by
            simpa using List.find?_some found
          repeat' split at checked
          all_goals cases checked
          exact sameId
      next => cases publishing
    next => exact Or.inl publishing
  | putObject =>
    simp only [ServiceState.exec] at publishing
    split at publishing
    next claimed found phase =>
      cases publishing
      exact Or.inl (by rw [phase]; rfl)
    next => exact Or.inl publishing
  | claimDeletion =>
    simp only [ServiceState.exec] at publishing
    split at publishing
    · split at publishing
      · exact Or.inl publishing
      · cases publishing
    · exact Or.inl publishing
  | checkDeletion | activateProjection =>
    simp only [ServiceState.exec] at publishing
    split at publishing
    · split at publishing <;> cases publishing
    · exact Or.inl publishing
  | deleteObject =>
    simp only [ServiceState.exec] at publishing
    split at publishing
    · cases publishing
    · exact Or.inl publishing
  | completeDeletion =>
    simp only [ServiceState.exec] at publishing
    split at publishing
    · cases publishing
    · cases publishing
    · exact Or.inl publishing
  | failOutbox =>
    simp only [ServiceState.exec] at publishing
    split at publishing
    · exact Or.inl publishing
    all_goals cases publishing
  | restart => cases publishing
  | claimNext | checkSupersede | saveRun | reconcile =>
    simp only [ServiceState.exec] at publishing
    split at publishing <;> exact Or.inl publishing
  | supersede | persistOutput | applyJob =>
    simp only [ServiceState.exec] at publishing
    split at publishing
    · rw [committed] at publishing
      exact Or.inl publishing
    · exact Or.inl publishing
  | createUserConsent | updateDraft | verify | reject | retireDeleted | purge =>
    simp only [ServiceState.exec, committed] at publishing
    exact Or.inl publishing
  | _ => exact Or.inl publishing

namespace CallsOk

variable {env : Environment} {state : CatalogState}

section

variable (ok : CallsOk state)
include ok

private theorem of_tables (catalog : CatalogOk tables) (grow : TargetsGrow state.tables tables)
    (active : ActiveOk tables) :
    CallsOk { state with service := { state.service with tables } } where
  catalog := catalog
  targets := grow.ok
  active := active
  captured := fun item member => grow.kept _ (ok.captured item member)
  publishing := by
    intro item projection publishing
    obtain ⟨captured, same⟩ := ok.publishing item projection publishing
    exact ⟨grow.kept _ captured, same⟩

private theorem control (op : Op) : CallsOk { state with service := state.service.step env op } := by
  have grow := exec_targets env state.service op ok.catalog ok.targets
  constructor
  case catalog => exact ok.catalog.steps (exec_catalogSteps env state.service op ok.catalog)
  case targets => exact grow.ok
  case active => exact exec_activeOk env ok op
  case captured => exact fun item member => grow.kept _ (ok.captured item member)
  case publishing =>
    intro item projection publishing
    rcases exec_publishing env state.service op publishing with
      same | ⟨none, captured⟩ | ⟨claimed, names⟩
    · obtain ⟨captured, names⟩ := ok.publishing item projection same
      exact ⟨grow.kept _ captured, names⟩
    · refine ⟨grow.kept _ captured, ?_⟩
      intro row some
      rw [none] at some
      cases some
    · exact ⟨grow.kept _ (ok.publishing item none claimed).1, names⟩

private theorem prepareCandidate {request : CandidateRequest}
    {after : Tables} {staged : Staged} (names : state.namesMemory request = true)
    (prepared : Memory.prepareCandidate env.contentHash state.tables request now = .ok (after, staged)) :
    CallsOk { state with service := { state.service with tables := after } } := by
  have known : ∀ memoryId, request.memoryId = some memoryId → Known state.tables memoryId := by
    intro memoryId named
    simp only [CatalogState.namesMemory, named, Option.all_some, List.any_eq_true, beq_iff_eq] at names
    exact Or.inr (Or.inl names)
  have spec := prepareCandidate_spec env.contentHash prepared
  apply ok.of_tables
  · exact ok.catalog.stage known spec
  · exact TargetsGrow.of_prepared ok.catalog ok.targets known prepared
  · exact ActiveOk.stage ok.catalog ok.active known spec

private theorem fence (projectionId expectedFence : Nat) : CallsOk { state with service := { state.service with
      tables := fenceProjection state.tables projectionId expectedFence } } := by
  apply ok.of_tables
  · apply ok.catalog.touch
    · intro row selected
      simp only [Bool.and_eq_true, Option.isNone_iff_eq_none] at selected
      exact selected.1.2
    · exact fun _ => rfl
  · apply TargetsGrow.of_same ok.targets
    · apply ProjectionsTraced.of_update
      · rfl
      · exact fun _ => rfl
      · exact fun _ => rfl
    · exact Nat.le_refl _
    · rfl
  · exact ok.active.fence projectionId expectedFence

private theorem retire (reason : String) (projectionId : Nat) (now : Time) :
    CallsOk { state with service := { state.service with
      tables := retireProjection reason now state.tables projectionId } } := by
  obtain ⟨p, projections, records, runItems, grows⟩ :=
    retireProjection_rows reason now state.tables projectionId ok.catalog.projectionKeys
  apply ok.of_tables
  · exact ok.catalog.retire projections records runItems grows
  · apply TargetsGrow.of_same ok.targets
    · exact ProjectionsTraced.of_update projections (fun _ => rfl) (fun _ => rfl)
    · exact grows
    · exact targets_of_control (retireProjection_control reason now state.tables projectionId)
  · exact ok.active.retire projections records

private theorem activate (captured : item ∈ state.captured)
    {after : Tables} (activated : markProjectionActive state.tables item.operationId item.projectionId
      item.expectedRevision item.expectedFence item.payload.contentHash now = some after) :
    CallsOk { state with service := { state.service with tables := after } } := by
  have chain : CatalogSteps (fun _ => "") (fun _ => False) state.tables after :=
    markProjectionActive_steps activated
  obtain ⟨traced, grows⟩ := CatalogSteps.projections_traced ok.catalog chain
  apply ok.of_tables
  · exact ok.catalog.steps chain
  · exact TargetsGrow.of_same ok.targets traced grows (targets_of_work (markProjectionActive_work activated))
  · exact ActiveOk.activate ok.catalog ok.active
      (ok.targets.owner (ok.captured item captured)) activated

private theorem step (call : CatalogCall) : CallsOk (state.step env call) := by
  cases call with
  | control op => exact ok.control op
  | prepareCandidate =>
    simp only [CatalogState.step]
    split
    next names =>
      split
      next tables staged prepared => exact ok.prepareCandidate names prepared
      next => exact ok
    next => exact ok
  | fenceProjection projectionId expectedFence => exact ok.fence projectionId expectedFence
  | retireProjection reason projectionId now => exact ok.retire reason projectionId now
  | captureOperation =>
    simp only [CatalogState.step]
    split
    · exact ok
    next row found =>
      refine ⟨ok.catalog, ok.targets, ok.active, ?_, ok.publishing⟩
      intro item member
      rcases List.mem_cons.mp member with rfl | old
      · exact List.mem_map_of_mem (List.mem_of_find?_eq_some found)
      · exact ok.captured item old
  | markProjectionActive =>
    simp only [CatalogState.step]
    split
    next captured =>
      split
      next tables activated => exact ok.activate captured activated
      next => exact ok
    next => exact ok

end

end CallsOk

private theorem callsOk_run (env : Environment) (calls : List CatalogCall) : CallsOk ((catalogCalls env).run calls) := by
  apply Machine.invariant CallsOk
  · constructor
    case catalog => exact catalogOk_empty
    case targets => constructor <;> simp [catalogCalls, CatalogState.start, CatalogState.tables,
      ServiceState.start, Tables.empty, Tables.targets]
    case active => exact activeOk_empty
    case captured => simp [catalogCalls, CatalogState.start]
    case publishing => simp [catalogCalls, CatalogState.start, ServiceState.start, WorkerPhase.publishing]
  · exact fun state call ok => ok.step call

/-- Active projections are trustworthy in every reachable state of the catalog: an active projection
is not retired, its memory has a record that is a candidate or verified as the projection is, both
have one content hash, and a memory has one active projection at most. -/
theorem active_projections_trustworthy (env : Environment) (calls : List CatalogCall) :
    let tables := ((catalogCalls env).run calls).tables
    (∀ projection ∈ tables.projections, projection.active = true →
      projection.retiredAt = none ∧ ∃ record, getRecord tables projection.memoryId = some record ∧
        record.status = projection.kind.recordStatus ∧
        projection.currentContentHash = record.contentHash) ∧
    ∀ left ∈ tables.projections, ∀ right ∈ tables.projections, left.active = true →
      right.active = true → left.memoryId = right.memoryId → left = right := by
  intro tables
  have ok : CallsOk ((catalogCalls env).run calls) := callsOk_run env calls
  refine ⟨?_, ?_⟩
  · intro projection member active
    refine ⟨ActiveOk.unretired ok.catalog member active, ?_⟩
    obtain ⟨record, recordMember, owner, status, hash⟩ := ok.active.trusted projection member active
    refine ⟨record, ?_, status, hash⟩
    rw [← owner]
    exact ok.catalog.getRecord recordMember
  · intro left leftMember right rightMember leftActive rightActive same
    have leftOpen := ActiveOk.unretired ok.catalog leftMember leftActive
    have rightOpen := ActiveOk.unretired ok.catalog rightMember rightActive
    obtain ⟨leftRecord, leftRecordMember, leftVouches⟩ := ok.active.trusted left leftMember leftActive
    obtain ⟨rightRecord, rightRecordMember, rightVouches⟩ :=
      ok.active.trusted right rightMember rightActive
    have sameRecord : leftRecord = rightRecord :=
      ok.catalog.recordKeys.eq_of_key leftRecordMember rightRecordMember
        ((leftVouches.1.trans same).trans rightVouches.1.symm)
    have sameStatus : left.kind.recordStatus = right.kind.recordStatus := by
      rw [← leftVouches.2.1, ← rightVouches.2.1, sameRecord]
    cases leftKind : left.kind with
    | candidate =>
      have rightKind : right.kind = .candidate := by
        cases kind : right.kind <;> simp [leftKind, kind, ProjectionKind.recordStatus] at sameStatus ⊢
      exact ok.catalog.oneCandidate left leftMember right rightMember leftOpen rightOpen leftKind
        rightKind same
    | verified =>
      have rightKind : right.kind = .verified := by
        cases kind : right.kind <;> simp [leftKind, kind, ProjectionKind.recordStatus] at sameStatus ⊢
      exact ok.active.oneVerified left leftMember right rightMember leftOpen rightOpen leftKind
        rightKind same

/-- A reflected memory is published by a caller that captured its outbox row. -/
def publishedByCapture : List CatalogCall :=
  projectReflected.map CatalogCall.control ++
    [.captureOperation 6,
      .markProjectionActive (((catalogCalls sampleEnvironment).run (projectReflected.map
        CatalogCall.control)).tables.projectionOutbox.headD default) 4]

/-- A projection that was published with captured arguments is in use and not retired. -/
theorem active_projections_trustworthy_published :
    ∃ projection ∈ ((catalogCalls sampleEnvironment).run publishedByCapture).tables.projections,
      projection.active = true ∧ projection.retiredAt = none := by
  have member : ∃ projection ∈ ((catalogCalls sampleEnvironment).run
      publishedByCapture).tables.projections, projection.active = true := by decide
  obtain ⟨projection, here, active⟩ := member
  exact ⟨projection, here, active,
    ((active_projections_trustworthy sampleEnvironment publishedByCapture).1 projection here
      active).1⟩

end HardwareDatabase.Memory
