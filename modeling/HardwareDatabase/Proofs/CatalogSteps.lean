/-
Module: HardwareDatabase.Proofs.CatalogSteps
Purpose: The nine ways in which the catalog of memories changes, and what they keep.
Trusted boundary: none
-/
import HardwareDatabase.Memory.Service
import HardwareDatabase.Proofs.Retirement
import HardwareDatabase.Proofs.Staging
import Mathlib.Logic.Relation

namespace HardwareDatabase.Memory

open Relational

/-! ### Well-formed catalogs -/

/-- The statuses whose memories may have unretired projections. -/
def RecordStatus.isLive : RecordStatus → Bool
  | .candidate | .verificationPending | .verified => true
  | _ => false

/-- How the revision of an unretired projection relates to its record: a candidate that waits for its
verification is one revision behind. -/
def LiveUnder (record : Record) (projection : Projection) : Prop :=
  match projection.kind with
  | .candidate =>
    (record.status = .candidate ∧ projection.currentRevision = record.currentRevision) ∨
      (record.status = .verificationPending ∧
        projection.currentRevision + 1 = record.currentRevision)
  | .verified =>
    (record.status = .verificationPending ∨ record.status = .verified) ∧
      projection.currentRevision = record.currentRevision

variable {record : Record}

theorem LiveUnder.isLive {projection : Projection}
    (live : LiveUnder record projection) : record.status.isLive = true := by
  unfold LiveUnder at live
  split at live
  · rcases live with ⟨status, _⟩ | ⟨status, _⟩ <;> rw [status] <;> rfl
  · rcases live.1 with status | status <;> rw [status] <;> rfl

/-- What a projection is addressed by in the store. -/
def Projection.address (projection : Projection) : Namespace × StoreKey :=
  (projection.path, projection.storeKey)

/-- The catalog of memories is well formed. -/
structure CatalogOk (tables : Tables) : Prop where
  recordKeys : UniqueOn Record.memoryId tables.records
  recordIds : ∀ record ∈ tables.records, record.memoryId < tables.nextId
  projectionKeys : UniqueOn Projection.projectionId tables.projections
  projectionIds : ∀ projection ∈ tables.projections, projection.projectionId < tables.nextId
  addresses : UniqueOn Projection.address tables.projections
  live : ∀ projection ∈ tables.projections, projection.retiredAt = none →
    ∃ record ∈ tables.records, record.memoryId = projection.memoryId ∧ LiveUnder record projection
  oneCandidate : ∀ left ∈ tables.projections, ∀ right ∈ tables.projections,
    left.retiredAt = none → right.retiredAt = none → left.kind = .candidate →
    right.kind = .candidate → left.memoryId = right.memoryId → left = right
  shut : ∀ projection ∈ tables.projections, projection.retiredAt ≠ none → projection.active = false
  items : ∀ item ∈ tables.runItems, ∀ memoryId, item.memoryId = some memoryId →
    ∃ record ∈ tables.records, record.memoryId = memoryId
  written : ∀ record ∈ tables.records, record.status = .candidate →
    ∃ semantic, record.content = .semantic semantic

theorem catalogOk_empty : CatalogOk Tables.empty := by
  constructor <;> simp [Tables.empty]

variable {tables : Tables}

theorem CatalogOk.getRecord (ok : CatalogOk tables)
    (member : record ∈ tables.records) : getRecord tables record.memoryId = some record :=
  getRecord_of_mem ok.recordKeys member

/-! ### Steps

What a transaction of the catalog can do, said once for all operations. -/

/-- The tables a catalog step is about. -/
def Tables.catalog (tables : Tables) : List Record × List Revision × List Projection × List RunItem :=
  (tables.records, tables.revisions, tables.projections, tables.runItems)

/-- What a record says of its memory: type, title, subject and content. -/
def Record.wording (record : Record) : String × String × Option String × Content :=
  (record.memoryType, record.title, record.subject, record.content)

/-- What a redacted record says. -/
def redactedWording : String × String × Option String × Content :=
  ("context", "已删除记忆", none, .redacted)

/-- The revision holds no semantic content. -/
def Revision.Plain (revision : Revision) : Prop :=
  (∀ semantic, revision.before ≠ some (.semantic semantic)) ∧
    ∀ semantic, revision.after ≠ some (.semantic semantic)

/-- A memory was taken out of use: its projections are retired and its record leaves the live
statuses. Only a memory that the operation may send back for rebuilding keeps a working status. -/
structure Withdrawn (rebuilds : Prop) (tables after : Tables) (memoryId : Nat) : Prop where
  records : ∃ f : Record → Record,
    (∀ record, (f record).memoryId = record.memoryId) ∧
    (∀ record, (f record).scope = record.scope) ∧
    (∀ record, (f record).status.isLive = false) ∧
    (∀ record ∈ tables.records, record.memoryId = memoryId →
      (f record).status.isWorking = true → rebuilds) ∧
    (∀ record, (f record).wording = record.wording ∨ (f record).wording = redactedWording) ∧
    after.records = updateWhere (fun record => record.memoryId == memoryId) f tables.records
  projections : ∃ now, after.projections =
    updateWhere (Projection.unretiredOf memoryId) (Projection.retired now) tables.projections
  revisions : ∀ revision ∈ after.revisions, revision.Plain ∨ revision ∈ tables.revisions ∨
    (revision.memoryId = memoryId ∧ ∃ record ∈ tables.records, record.memoryId = memoryId ∧
      revision.before = some record.content ∧ revision.after = some record.content)
  runItems : after.runItems = tables.runItems
  grows : tables.nextId ≤ after.nextId

/-- The parts of a projection that fencing and activating leave. -/
def Projection.identity (projection : Projection) :
    Nat × Nat × ProjectionKind × (Namespace × StoreKey) × Nat × Option Time :=
  (projection.projectionId, projection.memoryId, projection.kind, projection.address,
    projection.currentRevision, projection.retiredAt)

/-- The memory is known: a run item, a record or an unretired projection names it. -/
def Known (tables : Tables) (memoryId : Nat) : Prop :=
  (∃ item ∈ tables.runItems, item.memoryId = some memoryId) ∨
  (∃ record ∈ tables.records, record.memoryId = memoryId) ∨
  ∃ projection ∈ tables.projections,
    projection.memoryId = memoryId ∧ projection.retiredAt = none

/-- The record update of an accepted `verify`, after the candidate has been fenced. -/
structure Submitted (tables after : Tables) (record : Record) (now : Time) : Prop where
  member : record ∈ tables.records
  candidate : record.status = .candidate
  records : after.records = updateWhere (fun row => row.memoryId == record.memoryId)
    (Record.submit (record.currentRevision + 1) now) tables.records
  revisions : after.revisions = tables.revisions ++
    [governanceRevision record.memoryId (record.currentRevision + 1) "verify" (some record.content)
      (some record.content)]
  projections : ∃ projectionId, tables.nextId ≤ projectionId ∧ projectionId < after.nextId ∧
    (∀ other ∈ tables.projections, other.address ≠
      (newVerified projectionId { record with currentRevision := record.currentRevision + 1 }
        (record.currentRevision + 1)).address) ∧
    after.projections = tables.projections ++
      [newVerified projectionId { record with currentRevision := record.currentRevision + 1 }
        (record.currentRevision + 1)]
  runItems : after.runItems = tables.runItems

/-- One change of the catalog. `rebuilds` are the memories that may be sent back for rebuilding. -/
inductive CatalogStep (contentHash : Content → String) (rebuilds : Nat → Prop) :
    Tables → Tables → Prop
  | quiet {tables after : Tables} (frame : after.catalog = tables.catalog)
      (grows : tables.nextId ≤ after.nextId) : CatalogStep contentHash rebuilds tables after
  | withdraw {tables after : Tables} {memoryId : Nat}
      (withdrawn : Withdrawn (rebuilds memoryId) tables after memoryId) :
      CatalogStep contentHash rebuilds tables after
  | purge {tables : Tables} {record : Record} (member : record ∈ tables.records)
      (deleted : record.status = .deleted) :
      CatalogStep contentHash rebuilds tables (purgeRows tables record.memoryId)
  | stage {tables after : Tables} {request : CandidateRequest} {staged : Staged} {now : Time}
      (known : ∀ memoryId, request.memoryId = some memoryId → Known tables memoryId)
      (prepared : PrepareSpec contentHash tables after request staged now) :
      CatalogStep contentHash rebuilds tables after
  | note {tables : Tables} {item : RunItem}
      (known : ∀ memoryId, item.memoryId = some memoryId →
        ∃ record ∈ tables.records, record.memoryId = memoryId) :
      CatalogStep contentHash rebuilds tables (upsertRunItem tables item)
  | touch {tables : Tables} {p : Projection → Bool} {f : Projection → Projection}
      (unretired : ∀ row, p row = true → row.retiredAt = none)
      (keeps : ∀ row, (f row).identity = row.identity) :
      CatalogStep contentHash rebuilds tables
        { tables with projections := updateWhere p f tables.projections }
  | submit {tables after : Tables} {record : Record} {now : Time}
      (submitted : Submitted tables after record now) :
      CatalogStep contentHash rebuilds tables after
  | publish {tables : Tables} {memoryId revision : Nat} {now : Time} :
      CatalogStep contentHash rebuilds tables (publishVerified tables memoryId revision now)
  | conclude {tables : Tables} {memoryId : Nat} {now : Time} :
      CatalogStep contentHash rebuilds tables (concludeSupersede tables memoryId now)

/-- A chain of catalog changes. -/
abbrev CatalogSteps (contentHash : Content → String) (rebuilds : Nat → Prop) : Tables → Tables → Prop :=
  Relation.ReflTransGen (CatalogStep contentHash rebuilds)

/-- The changes that neither fence nor activate a projection in place. -/
inductive SteadyStep (contentHash : Content → String) (rebuilds : Nat → Prop) :
    Tables → Tables → Prop
  | quiet {tables after : Tables} (frame : after.catalog = tables.catalog)
      (grows : tables.nextId ≤ after.nextId) : SteadyStep contentHash rebuilds tables after
  | withdraw {tables after : Tables} {memoryId : Nat}
      (withdrawn : Withdrawn (rebuilds memoryId) tables after memoryId) :
      SteadyStep contentHash rebuilds tables after
  | purge {tables : Tables} {record : Record} (member : record ∈ tables.records)
      (deleted : record.status = .deleted) :
      SteadyStep contentHash rebuilds tables (purgeRows tables record.memoryId)
  | stage {tables after : Tables} {request : CandidateRequest} {staged : Staged} {now : Time}
      (known : ∀ memoryId, request.memoryId = some memoryId → Known tables memoryId)
      (prepared : PrepareSpec contentHash tables after request staged now) :
      SteadyStep contentHash rebuilds tables after
  | note {tables : Tables} {item : RunItem}
      (known : ∀ memoryId, item.memoryId = some memoryId →
        ∃ record ∈ tables.records, record.memoryId = memoryId) :
      SteadyStep contentHash rebuilds tables (upsertRunItem tables item)
  | conclude {tables : Tables} {memoryId : Nat} {now : Time} :
      SteadyStep contentHash rebuilds tables (concludeSupersede tables memoryId now)

/-- A chain of steady changes. -/
abbrev SteadySteps (contentHash : Content → String) (rebuilds : Nat → Prop) : Tables → Tables → Prop :=
  Relation.ReflTransGen (SteadyStep contentHash rebuilds)

theorem SteadyStep.catalogStep {contentHash : Content → String} {rebuilds : Nat → Prop}
    {after : Tables} (change : SteadyStep contentHash rebuilds tables after) :
    CatalogStep contentHash rebuilds tables after := by
  cases change with
  | quiet frame grows => exact CatalogStep.quiet frame grows
  | withdraw withdrawn => exact CatalogStep.withdraw withdrawn
  | purge member deleted => exact CatalogStep.purge member deleted
  | stage known prepared => exact CatalogStep.stage known prepared
  | note known => exact CatalogStep.note known
  | conclude => exact CatalogStep.conclude

theorem SteadySteps.catalogSteps {contentHash : Content → String} {rebuilds : Nat → Prop}
    {after : Tables} (chain : SteadySteps contentHash rebuilds tables after) :
    CatalogSteps contentHash rebuilds tables after :=
  Relation.ReflTransGen.mono (fun _ _ change => SteadyStep.catalogStep change) _ _ chain

/-! ### Run items -/

/-- Everything but the run items. -/
def Tables.withoutRunItems (tables : Tables) : Tables :=
  { tables with runItems := [] }

variable {memoryId : Nat}

theorem upsertRunItem_names {item row : RunItem}
    (member : row ∈ (upsertRunItem tables item).runItems) (names : row.memoryId = some memoryId) :
    (∃ old ∈ tables.runItems, old.memoryId = some memoryId ∧ old.runId = row.runId) ∨
      (item.memoryId = some memoryId ∧ row.runId = item.runId) := by
  unfold upsertRunItem at member
  simp only at member
  split at member
  · rcases mem_updateWhere.mp member with ⟨old, oldMember, selected, rfl⟩ | ⟨kept, _⟩
    · simp only [Bool.and_eq_true, beq_iff_eq] at selected
      simp only at names
      cases own : old.memoryId with
      | none =>
        rw [own] at names
        exact Or.inr ⟨names, rfl⟩
      | some =>
        rw [own] at names
        exact Or.inl ⟨old, oldMember, own.trans names, selected.1⟩
    · exact Or.inl ⟨row, kept, names, rfl⟩
  · rcases List.mem_append.mp member with old | new
    · exact Or.inl ⟨row, old, names, rfl⟩
    · rw [List.mem_singleton.mp new] at names ⊢
      exact Or.inr ⟨names, rfl⟩

theorem upsertRunItem_frame (tables : Tables) (item : RunItem) :
    (upsertRunItem tables item).withoutRunItems = tables.withoutRunItems := by
  unfold upsertRunItem
  simp only
  split <;> rfl

/-! ### Every step keeps the catalog well formed -/

variable {f : Record → Record} {row : Projection} {now : Time} {p : Projection → Bool}

namespace CatalogOk

variable {contentHash : Content → String} {rebuilds : Nat → Prop} {tables after : Tables}

theorem quiet (ok : CatalogOk tables) (frame : after.catalog = tables.catalog)
    (grows : tables.nextId ≤ after.nextId) : CatalogOk after := by
  have records : after.records = tables.records := congrArg Prod.fst frame
  have projections : after.projections = tables.projections :=
    congrArg (fun parts => parts.2.2.1) frame
  have runItems : after.runItems = tables.runItems := congrArg (fun parts => parts.2.2.2) frame
  constructor
  case recordKeys => rw [records]; exact ok.recordKeys
  case recordIds =>
    rw [records]
    exact fun record member => Nat.lt_of_lt_of_le (ok.recordIds record member) grows
  case projectionKeys => rw [projections]; exact ok.projectionKeys
  case projectionIds =>
    rw [projections]
    exact fun row member => Nat.lt_of_lt_of_le (ok.projectionIds row member) grows
  case addresses => rw [projections]; exact ok.addresses
  case live => rw [projections, records]; exact ok.live
  case oneCandidate => rw [projections]; exact ok.oneCandidate
  case shut => rw [projections]; exact ok.shut
  case items => rw [runItems, records]; exact ok.items
  case written => rw [records]; exact ok.written

theorem mem_of_other (member : record ∈ tables.records) (other : record.memoryId ≠ memoryId) :
    record ∈ updateWhere (fun row => row.memoryId == memoryId) f tables.records :=
  mem_updateWhere.mpr (Or.inr ⟨member, by simp [other]⟩)

theorem mem_retired {rows : List Projection}
    (member : row ∈ updateWhere (Projection.unretiredOf memoryId) (Projection.retired now) rows)
    (unretired : row.retiredAt = none) : row ∈ rows ∧ row.memoryId ≠ memoryId := by
  rcases mem_updateWhere.mp member with ⟨old, _, _, rfl⟩ | ⟨kept, skipped⟩
  · cases unretired
  · refine ⟨kept, ?_⟩
    rintro rfl
    simp [Projection.unretiredOf, unretired] at skipped

/-- The parts of a projection that no rewriting changes. -/
def anchor (row : Projection) : Nat × Nat × ProjectionKind × (Namespace × StoreKey) :=
  (row.projectionId, row.memoryId, row.kind, row.address)

section

variable (ok : CatalogOk tables)
include ok

/-- Records and projections that are rewritten under their ids: nothing is reopened, and what stays open still fits
its record. -/
theorem rewrite {g : Projection → Projection}
    (records : after.records = tables.records.map f) (projections : after.projections = tables.projections.map g)
    (runItems : after.runItems = tables.runItems) (grows : tables.nextId ≤ after.nextId)
    (sameRecord : ∀ record, (f record).memoryId = record.memoryId) (sameRow : ∀ row, anchor (g row) = anchor row)
    (opens : ∀ row ∈ tables.projections, (g row).retiredAt = none → row.retiredAt = none)
    (live : ∀ row ∈ tables.projections, (g row).retiredAt = none → ∀ record ∈ tables.records,
      record.memoryId = row.memoryId → LiveUnder record row → LiveUnder (f record) (g row))
    (shut : ∀ row ∈ tables.projections, (g row).retiredAt ≠ none → (g row).active = false)
    (written : ∀ record ∈ tables.records, (f record).status = .candidate →
      ∃ semantic, (f record).content = .semantic semantic) : CatalogOk after := by
  have unique {α κ : Type} {key : α → κ} {h : α → α} {rows : List α} (keyed : UniqueOn key rows)
      (keeps : ∀ row, key (h row) = key row) : UniqueOn key (rows.map h) := by
    rw [UniqueOn, List.map_map, show key ∘ h = key from funext keeps]
    exact keyed
  have sameId (row : Projection) : (g row).projectionId = row.projectionId := congrArg Prod.fst (sameRow row)
  have sameMemory (row : Projection) : (g row).memoryId = row.memoryId := congrArg (·.2.1) (sameRow row)
  have sameKind (row : Projection) : (g row).kind = row.kind := congrArg (·.2.2.1) (sameRow row)
  constructor
  case recordKeys =>
    rw [records]
    exact unique ok.recordKeys sameRecord
  case recordIds =>
    rw [records, List.forall_mem_map]
    intro record member
    rw [sameRecord]
    exact Nat.lt_of_lt_of_le (ok.recordIds record member) grows
  case projectionKeys =>
    rw [projections]
    exact unique ok.projectionKeys sameId
  case projectionIds =>
    rw [projections, List.forall_mem_map]
    intro row member
    rw [sameId]
    exact Nat.lt_of_lt_of_le (ok.projectionIds row member) grows
  case addresses =>
    rw [projections]
    exact unique ok.addresses fun row => congrArg (·.2.2.2) (sameRow row)
  case live =>
    rw [projections, records, List.forall_mem_map]
    intro row member isOpen
    obtain ⟨record, recordMember, owner, fits⟩ := ok.live row member (opens row member isOpen)
    refine ⟨f record, List.mem_map_of_mem recordMember, ?_, live row member isOpen record recordMember owner fits⟩
    rw [sameRecord, sameMemory, owner]
  case oneCandidate =>
    rw [projections]
    intro left leftMember right rightMember leftOpen rightOpen leftKind rightKind same
    obtain ⟨leftOld, leftOldMember, rfl⟩ := List.mem_map.mp leftMember
    obtain ⟨rightOld, rightOldMember, rfl⟩ := List.mem_map.mp rightMember
    rw [sameKind] at leftKind rightKind
    rw [sameMemory, sameMemory] at same
    rw [ok.oneCandidate leftOld leftOldMember rightOld rightOldMember (opens _ leftOldMember leftOpen)
      (opens _ rightOldMember rightOpen) leftKind rightKind same]
  case shut =>
    rw [projections, List.forall_mem_map]
    exact shut
  case items =>
    rw [runItems, records]
    intro item member memory names
    obtain ⟨record, recordMember, same⟩ := ok.items item member memory names
    exact ⟨f record, List.mem_map_of_mem recordMember, (sameRecord record).trans same⟩
  case written =>
    rw [records, List.forall_mem_map]
    exact written

theorem retire (projections : after.projections = updateWhere p (Projection.retired now) tables.projections)
    (records : after.records = tables.records) (runItems : after.runItems = tables.runItems)
    (grows : tables.nextId ≤ after.nextId) : CatalogOk after := by
  refine ok.rewrite (records.trans (List.map_id _).symm) projections runItems grows (fun _ => rfl) ?_ ?_ ?_ ?_
    ok.written
  · intro row
    split <;> rfl
  · intro row _ isOpen
    split at isOpen
    · cases isOpen
    · exact isOpen
  · intro row _ isOpen record _ _ live
    split at isOpen
    · cases isOpen
    next skipped =>
      rw [if_neg skipped]
      exact live
  · intro row member retired
    split at retired
    next selected =>
      rw [if_pos selected]
      rfl
    next skipped =>
      rw [if_neg skipped]
      exact ok.shut row member retired

theorem revise {p : Record → Bool}
    (records : after.records = updateWhere p f tables.records) (projections : after.projections = tables.projections)
    (runItems : after.runItems = tables.runItems) (grows : tables.nextId ≤ after.nextId)
    (sameRecord : ∀ record, (f record).memoryId = record.memoryId)
    (live : ∀ row ∈ tables.projections, row.retiredAt = none → ∀ record ∈ tables.records,
      record.memoryId = row.memoryId → p record = true → LiveUnder record row → LiveUnder (f record) row)
    (written : ∀ record ∈ tables.records, p record = true → (f record).status = .candidate →
      ∃ semantic, (f record).content = .semantic semantic) : CatalogOk after := by
  refine ok.rewrite records (projections.trans (List.map_id _).symm) runItems grows ?_ (fun _ => rfl)
    (fun _ _ isOpen => isOpen) ?_ ok.shut ?_
  · intro record
    split
    · exact sameRecord record
    · rfl
  · intro row member isOpen record recordMember owner fits
    split
    next selected => exact live row member isOpen record recordMember owner selected fits
    next => exact fits
  · intro record member candidate
    split at candidate
    next selected =>
      rw [if_pos selected]
      exact written record member selected candidate
    next skipped =>
      rw [if_neg skipped]
      exact ok.written record member candidate

theorem withdraw {permitted : Prop} (withdrawn : Withdrawn permitted tables after memoryId) : CatalogOk after := by
  obtain ⟨f, keepsId, _, dead, _, _, records⟩ := withdrawn.records
  obtain ⟨now, projections⟩ := withdrawn.projections
  have retired : CatalogOk { tables with projections := after.projections } :=
    ok.retire projections rfl rfl (Nat.le_refl _)
  refine retired.revise records rfl withdrawn.runItems withdrawn.grows keepsId ?_ ?_
  · intro row member isOpen record _ owner selected
    -- no projection of the memory is left open
    obtain ⟨_, other⟩ := mem_retired (projections ▸ member) isOpen
    exact absurd (owner.symm.trans (beq_iff_eq.mp selected)) other
  · intro record _ _ candidate
    have notLive := dead record
    rw [candidate] at notLive
    cases notLive

theorem purge (member : record ∈ tables.records)
    (deleted : record.status = .deleted) : CatalogOk (purgeRows tables record.memoryId) := by
  constructor
  case recordKeys => exact ok.recordKeys.deleteWhere
  case recordIds => exact fun row kept => ok.recordIds row (mem_of_mem_deleteWhere kept)
  case projectionKeys => exact ok.projectionKeys
  case projectionIds => exact ok.projectionIds
  case addresses => exact ok.addresses
  case live =>
    intro row rowMember unretired
    obtain ⟨owner, ownerMember, same, live⟩ := ok.live row rowMember unretired
    refine ⟨owner, mem_deleteWhere.mpr ⟨ownerMember, ?_⟩, same, live⟩
    -- a tombstone has no unretired projection
    simp only [beq_eq_false_iff_ne]
    intro purged
    have same : owner = record := ok.recordKeys.eq_of_key ownerMember member purged
    have status := live.isLive
    rw [same, deleted] at status
    cases status
  case oneCandidate => exact ok.oneCandidate
  case shut => exact ok.shut
  case items =>
    intro item itemMember memory names
    obtain ⟨kept, skipped⟩ := mem_deleteWhere.mp itemMember
    obtain ⟨owner, ownerMember, same⟩ := ok.items item kept memory names
    refine ⟨owner, mem_deleteWhere.mpr ⟨ownerMember, ?_⟩, same⟩
    rw [names] at skipped
    simpa [same] using skipped
  case written => exact fun row kept => ok.written row (mem_of_mem_deleteWhere kept)

theorem known (named : Known tables memoryId) : ∃ record ∈ tables.records, record.memoryId = memoryId := by
  rcases named with ⟨item, member, names⟩ | record | ⟨projection, member, owner, unretired⟩
  · exact ok.items item member memoryId names
  · exact record
  · obtain ⟨record, recordMember, same, _⟩ := ok.live projection member unretired
    exact ⟨record, recordMember, same.trans owner⟩

/-! ### Inserted rows -/

theorem insertRecord (records : after.records = tables.records ++ [record])
    (projections : after.projections = tables.projections) (runItems : after.runItems = tables.runItems)
    (grows : tables.nextId ≤ after.nextId) (fresh : ∀ other ∈ tables.records, other.memoryId ≠ record.memoryId)
    (bound : record.memoryId < after.nextId)
    (written : record.status = .candidate → ∃ semantic, record.content = .semantic semantic) : CatalogOk after := by
  constructor
  case recordKeys =>
    rw [records]
    exact ok.recordKeys.append fresh
  case recordIds =>
    rw [records, List.forall_mem_append, List.forall_mem_singleton]
    exact ⟨fun other member => Nat.lt_of_lt_of_le (ok.recordIds other member) grows, bound⟩
  case projectionKeys => rw [projections]; exact ok.projectionKeys
  case projectionIds =>
    rw [projections]
    exact fun row member => Nat.lt_of_lt_of_le (ok.projectionIds row member) grows
  case addresses => rw [projections]; exact ok.addresses
  case live =>
    rw [projections, records]
    intro row member isOpen
    obtain ⟨owner, ownerMember, fits⟩ := ok.live row member isOpen
    exact ⟨owner, List.mem_append_left _ ownerMember, fits⟩
  case oneCandidate => rw [projections]; exact ok.oneCandidate
  case shut => rw [projections]; exact ok.shut
  case items =>
    rw [runItems, records]
    intro item member memory names
    obtain ⟨owner, ownerMember, same⟩ := ok.items item member memory names
    exact ⟨owner, List.mem_append_left _ ownerMember, same⟩
  case written =>
    rw [records, List.forall_mem_append, List.forall_mem_singleton]
    exact ⟨ok.written, written⟩

theorem insertProjection (records : after.records = tables.records)
    (projections : after.projections = tables.projections ++ [row]) (runItems : after.runItems = tables.runItems)
    (grows : tables.nextId ≤ after.nextId) (fresh : ∀ other ∈ tables.projections, other.projectionId ≠ row.projectionId)
    (bound : row.projectionId < after.nextId) (free : ∀ other ∈ tables.projections, other.address ≠ row.address)
    (inactive : row.active = false)
    (live : ∃ record ∈ tables.records, record.memoryId = row.memoryId ∧ LiveUnder record row)
    (alone : row.kind = .candidate →
      ∀ other ∈ tables.projections, other.retiredAt = none → other.memoryId ≠ row.memoryId) : CatalogOk after := by
  constructor
  case recordKeys => rw [records]; exact ok.recordKeys
  case recordIds =>
    rw [records]
    exact fun record member => Nat.lt_of_lt_of_le (ok.recordIds record member) grows
  case projectionKeys =>
    rw [projections]
    exact ok.projectionKeys.append fresh
  case projectionIds =>
    rw [projections, List.forall_mem_append, List.forall_mem_singleton]
    exact ⟨fun other member => Nat.lt_of_lt_of_le (ok.projectionIds other member) grows, bound⟩
  case addresses =>
    rw [projections]
    exact ok.addresses.append free
  case live =>
    rw [projections, records, List.forall_mem_append, List.forall_mem_singleton]
    exact ⟨ok.live, fun _ => live⟩
  case oneCandidate =>
    rw [projections]
    intro left leftMember right rightMember leftOpen rightOpen leftKind rightKind same
    rcases List.mem_append.mp leftMember with leftOld | leftNew
    · rcases List.mem_append.mp rightMember with rightOld | rightNew
      · exact ok.oneCandidate left leftOld right rightOld leftOpen rightOpen leftKind rightKind same
      · obtain rfl := List.mem_singleton.mp rightNew
        exact absurd same (alone rightKind left leftOld leftOpen)
    · obtain rfl := List.mem_singleton.mp leftNew
      rcases List.mem_append.mp rightMember with rightOld | rightNew
      · exact absurd same.symm (alone leftKind right rightOld rightOpen)
      · exact (List.mem_singleton.mp rightNew).symm
  case shut =>
    rw [projections, List.forall_mem_append, List.forall_mem_singleton]
    exact ⟨ok.shut, fun _ => inactive⟩
  case items => rw [runItems, records]; exact ok.items
  case written => rw [records]; exact ok.written

end

/-! ### Staging -/

section Stage

variable {request : CandidateRequest} {staged : Staged} {now : Time}

section

variable (ok : CatalogOk tables)
include ok

theorem staged_record (known : ∀ memoryId, request.memoryId = some memoryId → Known tables memoryId)
    (prepared : PrepareSpec contentHash tables after request staged now) :
    (∃ existing ∈ tables.records, existing.memoryId = staged.memoryId ∧
      existing.scope = request.scope ∧ (existing.status = .candidate ∨ existing.status = .needsRebuild) ∧
      staged.revision = existing.currentRevision + 1 ∧
      after.records = updateWhere (fun record => record.memoryId == existing.memoryId)
        (Record.stage contentHash request.content (existing.currentRevision + 1) now)
        tables.records) ∨ (staged.memoryId = tables.nextId ∧ staged.memoryId < after.nextId ∧ staged.revision = 1 ∧
      after.records = tables.records ++ [newRecord contentHash request staged.memoryId now]) := by
  rcases prepared.record with
    ⟨existing, found, scope, status, owner, revision, rows⟩ | ⟨missing, owner, revision, rows⟩
  · left
    obtain ⟨memoryId, _, found⟩ := Option.bind_eq_some_iff.mp found
    exact ⟨existing, (mem_of_getRecord found).1, owner.symm, scope, status, revision, rows⟩
  · right
    cases named : request.memoryId with
    | none =>
      rw [named, Option.getD_none] at owner
      exact ⟨owner, prepared.freshRecord named, revision, rows⟩
    | some memoryId =>
      -- a memory that is named has its record
      obtain ⟨record, member, same⟩ := ok.known (known memoryId named)
      rw [named, Option.bind_some] at missing
      exact absurd same (not_mem_of_getRecord_none missing record member)

theorem exists_staged_record (known : ∀ memoryId, request.memoryId = some memoryId → Known tables memoryId)
    (prepared : PrepareSpec contentHash tables after request staged now) :
    ∃ record ∈ after.records, record.memoryId = staged.memoryId ∧ record.status = .candidate ∧
      record.currentRevision = staged.revision := by
  rcases staged_record ok known prepared with
    ⟨existing, member, owner, _, _, revision, rows⟩ | ⟨_, _, revision, rows⟩
  · refine ⟨Record.stage contentHash request.content (existing.currentRevision + 1) now existing,
      ?_, owner, rfl, revision.symm⟩
    rw [rows]
    exact mem_updateWhere.mpr (Or.inl ⟨existing, member, by simp, rfl⟩)
  · refine ⟨newRecord contentHash request staged.memoryId now, ?_, rfl, rfl, revision.symm⟩
    rw [rows]
    simp

theorem unretired_of_staged (known : ∀ memoryId, request.memoryId = some memoryId → Known tables memoryId)
    (prepared : PrepareSpec contentHash tables after request staged now)
    (member : row ∈ tables.projections) (unretired : row.retiredAt = none)
    (owner : row.memoryId = staged.memoryId) : row.kind = .candidate := by
  obtain ⟨record, recordMember, same, live⟩ := ok.live row member unretired
  rcases staged_record ok known prepared with
    ⟨existing, existingMember, existingOwner, _, status, _, _⟩ | ⟨fresh, _⟩
  · have sameRecord : record = existing :=
      ok.recordKeys.eq_of_key recordMember existingMember (by rw [same, owner, existingOwner])
    cases kind : row.kind with
    | candidate => rfl
    | verified =>
      simp only [LiveUnder, kind, sameRecord] at live
      rcases status with writable | writable <;> rw [writable] at live <;> simp at live
  · have bound := ok.recordIds record recordMember
    rw [same, owner, fresh] at bound
    exact absurd bound (Nat.lt_irrefl _)

theorem staged_projection (known : ∀ memoryId, request.memoryId = some memoryId → Known tables memoryId)
    (prepared : PrepareSpec contentHash tables after request staged now) :
    (∃ candidate ∈ tables.projections, candidate.memoryId = staged.memoryId ∧
      candidate.retiredAt = none ∧ candidate.kind = .candidate ∧
      after.projections = updateWhere (fun row => row.projectionId == candidate.projectionId && row.retiredAt.isNone)
        (Projection.restage staged.revision (contentHash (.semantic request.content)))
        tables.projections) ∨ ((∀ row ∈ tables.projections, row.retiredAt = none → row.memoryId ≠ staged.memoryId) ∧
      ∃ projectionId storeKey, tables.nextId ≤ projectionId ∧ projectionId < after.nextId ∧
        (∀ other ∈ tables.projections, other.address ≠ ({ scope := request.scope, kind := .candidate }, storeKey)) ∧
        after.projections = tables.projections ++
          [newCandidate projectionId staged.memoryId request.scope storeKey staged.revision
            (contentHash (.semantic request.content))]) := by
  rcases prepared.projection with ⟨candidate, found, rows⟩ | ⟨missing, inserted⟩
  · obtain ⟨member, owner, unretired, kind⟩ := candidateProjection_spec found
    exact Or.inl ⟨candidate, member, owner, unretired, kind, rows⟩
  · refine Or.inr ⟨?_, inserted⟩
    intro row member unretired owner
    have kind := unretired_of_staged ok known prepared member unretired owner
    rcases missing with none | new
    · exact not_mem_of_candidateProjection_none none member owner unretired kind
    · -- a new memory has no projection yet
      obtain ⟨record, recordMember, same, _⟩ := ok.live row member unretired
      rcases prepared.record with ⟨existing, found, _⟩ | ⟨_, fresh, _⟩
      · rw [new] at found
        cases found
      · cases named : request.memoryId with
        | none =>
          have bound := ok.recordIds record recordMember
          rw [same, owner, fresh, named] at bound
          exact absurd bound (Nat.lt_irrefl _)
        | some memoryId =>
          rw [named, Option.bind_some] at new
          obtain ⟨other, otherMember, otherSame⟩ := ok.known (known memoryId named)
          exact not_mem_of_getRecord_none new other otherMember otherSame

theorem stage_record (known : ∀ memoryId, request.memoryId = some memoryId → Known tables memoryId)
    (prepared : PrepareSpec contentHash tables after request staged now)
    (noneOpen : ∀ row ∈ tables.projections, row.retiredAt = none → row.memoryId ≠ staged.memoryId) :
    CatalogOk { tables with records := after.records, nextId := after.nextId } := by
  rcases staged_record ok known prepared with ⟨existing, _, owner, _, _, _, rows⟩ | ⟨fresh, bound, _, rows⟩
  · refine ok.revise rows rfl rfl prepared.grows (fun _ => rfl) ?_ (fun _ _ _ _ => ⟨request.content, rfl⟩)
    intro row member isOpen record _ same selected
    exact absurd (same.symm.trans ((beq_iff_eq.mp selected).trans owner)) (noneOpen row member isOpen)
  · refine ok.insertRecord rows rfl rfl prepared.grows ?_ bound (fun _ => ⟨request.content, rfl⟩)
    intro other member same
    have below := ok.recordIds other member
    rw [same] at below
    exact Nat.lt_irrefl _ (fresh ▸ below)

theorem stage (known : ∀ memoryId, request.memoryId = some memoryId → Known tables memoryId)
    (prepared : PrepareSpec contentHash tables after request staged now) : CatalogOk after := by
  rcases staged_projection ok known prepared with
    ⟨candidate, candidateMember, owner, candidateOpen, candidateKind, rows⟩ |
      ⟨noneOpen, projectionId, storeKey, fresh, bound, free, rows⟩
  · rcases staged_record ok known prepared with
      ⟨existing, existingMember, existingOwner, _, _, revision, recordRows⟩ | ⟨new, _⟩
    · refine ok.rewrite recordRows rows prepared.runItems prepared.grows ?_ ?_ ?_ ?_ ?_ ?_
      · intro record
        split <;> rfl
      · intro row
        split <;> rfl
      · intro row _ isOpen
        split at isOpen <;> exact isOpen
      · intro row member isOpen record _ same live
        have unretired : row.retiredAt = none := by
          split at isOpen <;> exact isOpen
        by_cases own : row.memoryId = staged.memoryId
        · -- the open projection of the memory is the row that is restaged
          have kind := unretired_of_staged ok known prepared member unretired own
          obtain rfl := ok.oneCandidate row member candidate candidateMember unretired candidateOpen kind
            candidateKind (own.trans owner.symm)
          have selected : record.memoryId = existing.memoryId := same.trans (own.trans existingOwner.symm)
          simp [LiveUnder, selected, unretired, Projection.restage, Record.stage, kind, revision]
        · have rowKept : row ≠ candidate := fun same => own (same ▸ owner)
          have idKept : row.projectionId ≠ candidate.projectionId := fun sameId =>
            rowKept (ok.projectionKeys.eq_of_key member candidateMember sameId)
          have recordKept : record.memoryId ≠ existing.memoryId := fun selected =>
            own (same.symm.trans (selected.trans existingOwner))
          simpa [idKept, recordKept] using live
      · intro row member retired
        split at retired
        next selected =>
          rw [if_pos selected]
          rfl
        next skipped =>
          rw [if_neg skipped]
          exact ok.shut row member retired
      · intro record member status
        split at status
        next selected =>
          rw [if_pos selected]
          exact ⟨request.content, rfl⟩
        next skipped =>
          rw [if_neg skipped]
          exact ok.written record member status
    · -- a new memory has no projection yet
      obtain ⟨record, recordMember, same, _⟩ := ok.live candidate candidateMember candidateOpen
      have below := ok.recordIds record recordMember
      rw [same, owner, new] at below
      exact absurd below (Nat.lt_irrefl _)
  · obtain ⟨record, member, recordOwner, status, revision⟩ := exists_staged_record ok known prepared
    refine (stage_record ok known prepared noneOpen).insertProjection rfl rows prepared.runItems (Nat.le_refl _)
      (fun other otherMember => Nat.ne_of_lt (Nat.lt_of_lt_of_le (ok.projectionIds other otherMember) fresh)) bound
      free rfl ⟨record, member, recordOwner, Or.inl ⟨status, revision.symm⟩⟩ (fun _ => noneOpen)

end

end Stage

/-! ### The remaining steps -/

theorem note (ok : CatalogOk tables) {item : RunItem} (known : ∀ memoryId, item.memoryId = some memoryId →
      ∃ record ∈ tables.records, record.memoryId = memoryId) : CatalogOk (upsertRunItem tables item) := by
  have frame := upsertRunItem_frame tables item
  have records : (upsertRunItem tables item).records = tables.records :=
    eq_of_frame Tables.records frame (fun _ => rfl)
  have projections : (upsertRunItem tables item).projections = tables.projections :=
    eq_of_frame Tables.projections frame (fun _ => rfl)
  have nextId : (upsertRunItem tables item).nextId = tables.nextId :=
    eq_of_frame Tables.nextId frame (fun _ => rfl)
  constructor
  case recordKeys => rw [records]; exact ok.recordKeys
  case recordIds => rw [records, nextId]; exact ok.recordIds
  case projectionKeys => rw [projections]; exact ok.projectionKeys
  case projectionIds => rw [projections, nextId]; exact ok.projectionIds
  case addresses => rw [projections]; exact ok.addresses
  case live => rw [projections, records]; exact ok.live
  case oneCandidate => rw [projections]; exact ok.oneCandidate
  case shut => rw [projections]; exact ok.shut
  case items =>
    rw [records]
    intro row member memory names
    rcases upsertRunItem_names member names with ⟨old, oldMember, oldNames, _⟩ | ⟨own, _⟩
    · exact ok.items old oldMember memory oldNames
    · exact known memory own
  case written => rw [records]; exact ok.written

theorem touched_identity {f : Projection → Projection}
    (keeps : ∀ row, (f row).identity = row.identity) (row : Projection) :
    (if p row then f row else row).identity = row.identity := by
  split
  · exact keeps row
  · rfl

section

variable (ok : CatalogOk tables)
include ok

theorem touch {f : Projection → Projection}
    (unretired : ∀ row, p row = true → row.retiredAt = none) (keeps : ∀ row, (f row).identity = row.identity) :
    CatalogOk { tables with projections := updateWhere p f tables.projections } := by
  have same (row : Projection) := touched_identity (p := p) keeps row
  simp only [Projection.identity, Prod.mk.injEq] at same
  refine ok.rewrite (List.map_id _).symm rfl rfl (Nat.le_refl _) (fun _ => rfl) ?_ ?_ ?_ ?_ ok.written
  · intro row
    obtain ⟨id, owner, kind, address, -, -⟩ := same row
    rw [anchor, id, owner, kind, address]
    rfl
  · intro row _ isOpen
    rw [← (same row).2.2.2.2.2, isOpen]
  · intro row _ _ record _ _ live
    obtain ⟨-, -, kind, -, revision, -⟩ := same row
    simp only [LiveUnder, kind, revision]
    exact live
  · intro row member retired
    split at retired
    next selected =>
      have isOpen : (f row).retiredAt = row.retiredAt := congrArg (fun parts => parts.2.2.2.2.2) (keeps row)
      rw [isOpen, unretired row selected] at retired
      exact absurd rfl retired
    next skipped =>
      rw [if_neg skipped]
      exact ok.shut row member retired

theorem submit (submitted : Submitted tables after record now) : CatalogOk after := by
  obtain ⟨projectionId, fresh, bound, free, projections⟩ := submitted.projections
  have grows : tables.nextId ≤ after.nextId := Nat.le_of_lt (Nat.lt_of_le_of_lt fresh bound)
  have revised : CatalogOk { tables with records := after.records } := by
    refine ok.revise submitted.records rfl rfl (Nat.le_refl _) (fun _ => rfl) ?_
      (fun _ _ _ candidate => by cases candidate)
    intro row _ _ owner ownerMember _ selected live
    -- the candidate falls one revision behind
    obtain rfl := ok.recordKeys.eq_of_key ownerMember submitted.member (beq_iff_eq.mp selected)
    unfold LiveUnder at live ⊢
    cases kind : row.kind with
    | candidate =>
      simp only [kind, submitted.candidate] at live
      simp only [Record.submit]
      right
      simpa using live
    | verified => simp [kind, submitted.candidate] at live
  refine revised.insertProjection rfl projections submitted.runItems grows
    (fun other member => Nat.ne_of_lt (Nat.lt_of_lt_of_le (ok.projectionIds other member) fresh)) bound free rfl
    ⟨Record.submit (record.currentRevision + 1) now record, ?_, rfl, ?_⟩ (fun candidate => by cases candidate)
  · show _ ∈ after.records
    rw [submitted.records]
    exact mem_updateWhere.mpr (Or.inl ⟨record, submitted.member, by simp, rfl⟩)
  · simp [LiveUnder, newVerified, Record.submit]

theorem publishVerified_spec (memoryId revision : Nat) (now : Time) :
    (publishVerified tables memoryId revision now).records = updateWhere
        (fun record => record.memoryId == memoryId && record.status == .verificationPending &&
          record.currentRevision == revision)
        (fun record => { record with status := .verified, updatedAt := now }) tables.records ∧
    (publishVerified tables memoryId revision now).projections = updateWhere
        (fun row => row.unretiredOf memoryId && row.kind == .candidate) (Projection.retired now)
        tables.projections ∧ (publishVerified tables memoryId revision now).revisions = tables.revisions ∧
    (publishVerified tables memoryId revision now).runItems = tables.runItems ∧
    tables.nextId ≤ (publishVerified tables memoryId revision now).nextId := by
  unfold publishVerified
  simp only
  generalize published : { tables with records := _ } = middle
  have projections : middle.projections = tables.projections := by rw [← published]
  cases found : candidateProjection middle memoryId with
  | none =>
    have none : updateWhere (fun row => row.unretiredOf memoryId && row.kind == .candidate)
        (Projection.retired now) tables.projections = tables.projections := by
      apply updateWhere_eq_self
      intro row member selected
      simp only [Projection.unretiredOf, Bool.and_eq_true, beq_iff_eq, Option.isNone_iff_eq_none] at selected
      exact absurd selected.2 (not_mem_of_candidateProjection_none found
        (by rw [projections]; exact member) selected.1.1 selected.1.2)
    simp only [none]
    rw [← published]
    exact ⟨rfl, rfl, rfl, rfl, Nat.le_refl _⟩
  | some candidate =>
    obtain ⟨member, owner, unretired, kind⟩ := candidateProjection_spec found
    have unique : UniqueOn Projection.projectionId middle.projections := by
      rw [projections]
      exact ok.projectionKeys
    have isOpen : candidate.retiredAt.isNone = true := by simp [unretired]
    simp only
    rw [retireProjection_eq unique member isOpen]
    refine ⟨?_, ?_, ?_, ?_, ?_⟩
    · rw [← published]
      rfl
    · rw [retireRow_projections unique member isOpen, projections]
      apply updateWhere_congr
      intro row rowMember
      by_cases same : row = candidate
      · subst same
        simp [Projection.unretiredOf, owner, unretired, kind]
      · have skipped : (row.unretiredOf memoryId && row.kind == .candidate) = false := by
          by_contra chosen
          simp only [Projection.unretiredOf, Bool.not_eq_false, Bool.and_eq_true, beq_iff_eq,
            Option.isNone_iff_eq_none] at chosen
          exact same (ok.oneCandidate row rowMember candidate (by rw [← projections]; exact member)
            chosen.1.2 unretired chosen.2 kind (chosen.1.1.trans owner.symm))
        simp [same, skipped]
    · rw [← published]
      rfl
    · rw [← published]
      rfl
    · rw [← published]
      exact Nat.le_succ _

theorem publish (memoryId revision : Nat) (now : Time) : CatalogOk (publishVerified tables memoryId revision now) := by
  obtain ⟨records, projections, _, runItems, grows⟩ := publishVerified_spec ok memoryId revision now
  generalize publishVerified tables memoryId revision now = after at *
  have retired : CatalogOk { tables with projections := after.projections } :=
    ok.retire projections rfl rfl (Nat.le_refl _)
  refine retired.revise records rfl runItems grows (fun _ => rfl) ?_ (fun _ _ _ candidate => by cases candidate)
  intro row member isOpen record _ owner selected live
  simp only [Bool.and_eq_true, beq_iff_eq] at selected
  -- only the verified projection of the published memory is left
  rcases mem_updateWhere.mp (projections ▸ member) with ⟨old, _, _, rfl⟩ | ⟨_, skipped⟩
  · cases isOpen
  · unfold LiveUnder at live ⊢
    cases kind : row.kind with
    | candidate => simp [Projection.unretiredOf, isOpen, kind, owner.symm.trans selected.1.1] at skipped
    | verified =>
      simp only [kind] at live
      simpa using live.2

end

theorem conclude (ok : CatalogOk tables) (memoryId : Nat) (now : Time) :
    CatalogOk (concludeSupersede tables memoryId now) := by
  refine ok.revise rfl rfl rfl (Nat.le_refl _) (fun _ => rfl) ?_ (fun _ _ _ candidate => by cases candidate)
  intro row _ _ record _ _ selected live
  -- a record that waits for its supersession has no unretired projection
  simp only [Bool.and_eq_true, beq_iff_eq] at selected
  have status := live.isLive
  rw [selected.2] at status
  cases status

theorem step (ok : CatalogOk tables) (change : CatalogStep contentHash rebuilds tables after) : CatalogOk after := by
  cases change with
  | quiet frame grows => exact ok.quiet frame grows
  | withdraw withdrawn => exact ok.withdraw withdrawn
  | purge member deleted => exact ok.purge member deleted
  | stage known prepared => exact ok.stage known prepared
  | note known => exact ok.note known
  | touch unretired keeps => exact ok.touch unretired keeps
  | submit submitted => exact ok.submit submitted
  | publish => exact ok.publish _ _ _
  | conclude => exact ok.conclude _ _

theorem steps (ok : CatalogOk tables) (chain : CatalogSteps contentHash rebuilds tables after) : CatalogOk after := by
  induction chain with
  | refl => exact ok
  | tail _ change ih => exact ih.step change

theorem steady (ok : CatalogOk tables) (chain : SteadySteps contentHash rebuilds tables after) : CatalogOk after :=
  ok.steps chain.catalogSteps

end CatalogOk

end HardwareDatabase.Memory
