/-
Module: HardwareDatabase.Proofs.CatalogRuns
Purpose: Every operation of the memory control plane is a chain of catalog steps, so the catalog is well formed in
  every reachable state.
Trusted boundary: none
-/
import HardwareDatabase.Proofs.CatalogSteps
import HardwareDatabase.Proofs.DeleteFrame

namespace HardwareDatabase.Memory

open Relational

variable {contentHash : Content → String} {rebuilds : Nat → Prop} {tables after : Tables}

/-! ### Withdrawals -/

variable {memoryId : Nat}

theorem Withdrawn.mono {permitted wider : Prop} (wide : permitted → wider)
    (withdrawn : Withdrawn permitted tables after memoryId) : Withdrawn wider tables after memoryId := by
  obtain ⟨f, keepsId, keepsScope, dead, working, wording, records⟩ := withdrawn.records
  refine ⟨⟨f, keepsId, keepsScope, dead, ?_, wording, records⟩, withdrawn.projections,
    withdrawn.revisions, withdrawn.runItems, withdrawn.grows⟩
  exact fun record member owner status => wide (working record member owner status)

variable {now : Time} {ref reason : String}

theorem retireRows_grows {expected : Projection → Nat} (rows : List Projection) (tables : Tables) :
    tables.nextId ≤ (retireRows expected ref reason now tables rows).nextId := by
  induction rows generalizing tables with
  | nil => exact Nat.le_refl _
  | cons row rest ih =>
    have later := ih (retireRow (expected row) ref reason now tables row)
    exact Nat.le_trans (Nat.le_succ _) later

theorem redactRevisions_spec (tables : Tables) (memoryId : Nat) :
    ∀ revision ∈ (redactRevisions tables memoryId).revisions,
      revision.Plain ∨ revision ∈ tables.revisions := by
  intro revision member
  rcases mem_updateWhere.mp member with ⟨old, _, _, rfl⟩ | ⟨kept, _⟩
  · exact Or.inl ⟨by simp, by simp⟩
  · exact Or.inr kept

variable {middle : Tables}

/-- A withdrawal as the repository performs it: the record is rewritten, then or before that the
unretired projections are retired. -/
theorem Withdrawn.of_retireAll (expected : Projection → Nat) {permitted : Prop} {f : Record → Record}
    (unique : UniqueOn Projection.projectionId tables.projections)
    (projections : middle.projections = tables.projections)
    (items : middle.runItems = tables.runItems) (grows : tables.nextId ≤ middle.nextId) (records : middle.records =
      updateWhere (fun record => record.memoryId == memoryId) f tables.records)
    (revisions : ∀ revision ∈ middle.revisions, revision.Plain ∨ revision ∈ tables.revisions)
    (keepsId : ∀ record, (f record).memoryId = record.memoryId)
    (keepsScope : ∀ record, (f record).scope = record.scope) (dead : ∀ record, (f record).status.isLive = false)
    (working : ∀ record ∈ tables.records, record.memoryId = memoryId → (f record).status.isWorking = true → permitted)
    (wording : ∀ record, (f record).wording = record.wording ∨ (f record).wording = redactedWording) :
    Withdrawn permitted tables (retireAll expected ref reason now middle memoryId) memoryId := by
  have frame := retireAll_withoutProjections expected ref reason now middle memoryId
  constructor
  case records =>
    refine ⟨f, keepsId, keepsScope, dead, working, wording, ?_⟩
    rw [← records]
    exact eq_of_frame Tables.records frame (fun _ => rfl)
  case projections =>
    refine ⟨now, ?_⟩
    rw [retireAll_projections expected ref reason now (by rw [projections]; exact unique), projections]
  case revisions =>
    have same := eq_of_frame Tables.revisions frame (fun _ => rfl)
    rw [same]
    intro revision member
    rcases revisions revision member with plain | old
    · exact Or.inl plain
    · exact Or.inr (Or.inl old)
  case runItems => exact (eq_of_frame Tables.runItems frame (fun _ => rfl)).trans items
  case grows => exact Nat.le_trans grows (retireRows_grows _ middle)

variable {record : Record}

theorem applySourceInvalidation_withdrawn (contentHash : Content → String) (ref reason : String)
    (now : Time) (ok : CatalogOk tables) (found : getRecord tables memoryId = some record) :
    Withdrawn (record.scope.isUser = false ∧ validSourceCount tables memoryId ≠ 0) tables
      (applySourceInvalidation contentHash ref reason now tables memoryId) memoryId := by
  have classified : ∀ count, (statusAfterInvalidation record count).isLive = false ∧
      ((statusAfterInvalidation record count).isWorking = true →
        record.scope.isUser = false ∧ count ≠ 0) := by
    intro count
    unfold statusAfterInvalidation
    split
    · exact ⟨rfl, fun working => by cases working⟩
    next project =>
      split
      · exact ⟨rfl, fun working => by cases working⟩
      · split
        next left => exact ⟨rfl, fun _ => ⟨by simpa using project, left⟩⟩
        next => exact ⟨rfl, fun working => by cases working⟩
  obtain ⟨notLive, rebuilt⟩ := classified (validSourceCount tables memoryId)
  unfold applySourceInvalidation
  simp only [found]
  generalize statusAfterInvalidation record (validSourceCount tables memoryId) = status at *
  by_cases user : record.scope.isUser = true
  · rw [if_pos user]
    refine Withdrawn.of_retireAll (f := fun row => (row.demote status now).redact contentHash)
      (fun _ => record.currentRevision) ok.projectionKeys rfl rfl (Nat.le_refl _) ?_ ?_ (fun _ => rfl) (fun _ => rfl)
      (fun _ => notLive) (fun _ _ _ => rebuilt) (fun _ => Or.inr rfl)
    · exact updateWhere_comp tables.records (fun _ => rfl)
    · exact redactRevisions_spec tables memoryId
  · rw [if_neg user]
    exact Withdrawn.of_retireAll (f := Record.demote status now)
      (fun _ => record.currentRevision) ok.projectionKeys rfl rfl (Nat.le_refl _) rfl
      (fun _ member => Or.inr member) (fun _ => rfl) (fun _ => rfl)
      (fun _ => notLive) (fun _ _ _ => rebuilt) (fun _ => Or.inl rfl)

/-- The row that `_invalidate_memory_in_transaction` leaves. -/
def Record.deactivate (contentHash : Content → String) (now : Time) (record : Record) : Record :=
  (if record.status != .deleted && record.status != .rejected && record.status != .superseded then
    record.demote .deleted now else record).redact contentHash

theorem Record.deactivate_away (contentHash : Content → String) (now : Time) (record : Record) :
    (record.deactivate contentHash now).status.isGovernedAway = true := by
  unfold Record.deactivate
  split
  · rfl
  next other =>
    simp only [Bool.and_eq_true, bne_iff_ne, not_and, not_not] at other
    show record.status.isGovernedAway = true
    by_cases deleted : record.status = .deleted
    · rw [deleted]; rfl
    · by_cases rejected : record.status = .rejected
      · rw [rejected]; rfl
      · rw [other ⟨deleted, rejected⟩]; rfl

variable {status : RecordStatus}

theorem isWorking_of_isGovernedAway (away : status.isGovernedAway = true) : status.isWorking = false := by
  cases status <;> first | rfl | cases away

theorem isLive_of_isGovernedAway (away : status.isGovernedAway = true) : status.isLive = false := by
  cases status <;> first | rfl | cases away

theorem redactMemory_deactivateRecord (contentHash : Content → String) (tables : Tables)
    (memoryId : Nat) (now : Time) :
    (redactMemory contentHash (deactivateRecord tables memoryId now) memoryId).records =
      updateWhere (fun record => record.memoryId == memoryId) (Record.deactivate contentHash now)
        tables.records := by
  show updateWhere _ _ (updateWhere _ _ tables.records) = _
  rw [updateWhere, updateWhere, updateWhere, List.map_map]
  apply List.map_congr_left
  intro row _
  by_cases own : row.memoryId = memoryId
  · simp only [Function.comp_apply, own, beq_self_eq_true, Bool.true_and, if_true, Record.deactivate]
    split
    · simp [Record.demote, own]
    · simp [own]
  · simp [own]

variable (ok : CatalogOk tables)
include ok

theorem invalidateMemory_withdrawn (found : getRecord tables memoryId = some record) :
    Withdrawn False tables (invalidateMemory contentHash reason now tables memoryId) memoryId := by
  unfold invalidateMemory
  simp only [found]
  refine Withdrawn.of_retireAll (f := Record.deactivate contentHash now)
    (fun _ => record.currentRevision) ok.projectionKeys rfl rfl (Nat.le_refl _) ?_ ?_
    ?_ ?_ ?_ ?_ (fun _ => Or.inr rfl)
  · exact redactMemory_deactivateRecord contentHash tables memoryId now
  · exact redactRevisions_spec tables memoryId
  · intro row
    unfold Record.deactivate
    split <;> rfl
  · intro row
    unfold Record.deactivate
    split <;> rfl
  · exact fun row => isLive_of_isGovernedAway (row.deactivate_away contentHash now)
  · intro row _ _ working
    rw [isWorking_of_isGovernedAway (row.deactivate_away contentHash now)] at working
    cases working

theorem Withdrawn.of_governed {f : Record → Record} {retired : Tables} (found : getRecord tables memoryId = some record)
    (retires : retireAll Projection.currentRevision reason reason now tables memoryId = retired)
    (projections : after.projections = retired.projections)
    (items : after.runItems = retired.runItems) (grows : retired.nextId ≤ after.nextId) (records : after.records =
      updateWhere (fun record => record.memoryId == memoryId) f retired.records)
    (revisions : ∀ revision ∈ after.revisions, revision.Plain ∨ revision ∈ retired.revisions ∨
      (revision.memoryId = memoryId ∧ revision.before = some record.content ∧
        revision.after = some record.content)) (keepsId : ∀ record, (f record).memoryId = record.memoryId)
    (keepsScope : ∀ record, (f record).scope = record.scope) (dead : ∀ record, (f record).status.isLive = false)
    (idle : ∀ record, (f record).status.isWorking = false) (wording : ∀ record, (f record).wording = record.wording ∨
      (f record).wording = redactedWording) : Withdrawn False tables after memoryId := by
  subst retires
  have frame := retireAll_withoutProjections Projection.currentRevision reason reason now tables
    memoryId
  constructor
  case records =>
    refine ⟨f, keepsId, keepsScope, dead, ?_, wording, ?_⟩
    · intro row _ _ working
      rw [idle] at working
      cases working
    · rw [records, eq_of_frame Tables.records frame (fun _ => rfl)]
  case projections =>
    refine ⟨now, ?_⟩
    rw [projections, retireAll_projections Projection.currentRevision reason reason now ok.projectionKeys]
  case revisions =>
    obtain ⟨member, owner⟩ := mem_of_getRecord found
    intro revision revisionMember
    rcases revisions revision revisionMember with plain | old | ⟨own, before, after⟩
    · exact Or.inl plain
    · rw [eq_of_frame Tables.revisions frame (fun _ => rfl)] at old
      exact Or.inr (Or.inl old)
    · exact Or.inr (Or.inr ⟨own, record, member, owner, before, after⟩)
  case runItems => exact items.trans (eq_of_frame Tables.runItems frame (fun _ => rfl))
  case grows => exact Nat.le_trans (retireRows_grows _ tables) grows

variable {expectedRevision : Nat} {manages : Scope → Bool}

theorem retireGoverned_withdrawn {operation : String} {scrub : Bool}
    (notLive : status.isLive = false) (idle : status.isWorking = false)
    (retired : retireGoverned contentHash tables manages memoryId expectedRevision status operation
      reason scrub now = .ok after) : Withdrawn False tables after memoryId := by
  unfold retireGoverned at retired
  cases managed : requireManaged tables manages memoryId expectedRevision with
  | error => simp [managed, bind, Except.bind] at retired
  | ok record =>
    have found := requireManaged_memoryId managed
    simp only [managed, bind, Except.bind, pure, Except.pure, governed_retirement_eq ok.projectionKeys] at retired
    cases scrub with
    | true =>
      simp only [if_true] at retired
      cases retired
      refine Withdrawn.of_governed (f := Record.entomb contentHash status
        (record.currentRevision + 1) now) ok found rfl rfl rfl (Nat.le_refl _) rfl ?_
        (fun _ => rfl) (fun _ => rfl) (fun _ => notLive) (fun _ => idle) (fun _ => Or.inr rfl)
      intro revision member
      rcases List.mem_append.mp member with old | new
      · rcases redactRevisions_spec _ memoryId revision old with plain | kept
        · exact Or.inl plain
        · exact Or.inr (Or.inl kept)
      · rw [List.mem_singleton.mp new]
        exact Or.inl ⟨by simp [governanceRevision], by simp [governanceRevision]⟩
    | false =>
      simp only [Bool.false_eq_true, if_false] at retired
      cases retired
      refine Withdrawn.of_governed (f := Record.govern status (record.currentRevision + 1) now)
        ok found rfl rfl rfl (Nat.le_refl _) rfl ?_ (fun _ => rfl) (fun _ => rfl)
        (fun _ => notLive) (fun _ => idle) (fun _ => Or.inl rfl)
      intro revision member
      rcases List.mem_append.mp member with old | new
      · exact Or.inr (Or.inl old)
      · rw [List.mem_singleton.mp new]
        exact Or.inr (Or.inr ⟨rfl, rfl, rfl⟩)

theorem supersede_withdrawn {replacementId : Nat}
    (superseded : supersede tables manages memoryId replacementId expectedRevision now = .ok after) :
    Withdrawn False tables after memoryId := by
  unfold supersede at superseded
  cases managed : requireManaged tables manages memoryId expectedRevision with
  | error => simp [managed, bind, Except.bind] at superseded
  | ok record =>
    have found := requireManaged_memoryId managed
    simp only [managed, bind, Except.bind, pure, Except.pure,
      governed_retirement_eq ok.projectionKeys] at superseded
    cases superseded
    refine Withdrawn.of_governed (f := Record.supersedeBy replacementId
      (record.currentRevision + 1) now) ok found rfl rfl rfl (Nat.le_refl _) rfl ?_
      (fun _ => rfl) (fun _ => rfl) (fun _ => rfl) (fun _ => rfl) (fun _ => Or.inl rfl)
    intro revision member
    rcases List.mem_append.mp member with old | new
    · exact Or.inr (Or.inl old)
    · rw [List.mem_singleton.mp new]
      exact Or.inr (Or.inr ⟨rfl, rfl, rfl⟩)

omit ok

/-! ### Loops over memories -/

theorem foldl_steadySteps {step : Tables → Nat → Tables} (allowed : Tables → Nat → Prop)
    (one : ∀ {tables memoryId}, CatalogOk tables → allowed tables memoryId →
      SteadySteps contentHash rebuilds tables (step tables memoryId))
    (keeps : ∀ {tables memoryId other}, CatalogOk tables → allowed tables other →
      allowed (step tables memoryId) other) {memoryIds : List Nat} (ok : CatalogOk tables)
    (all : ∀ memoryId ∈ memoryIds, allowed tables memoryId) :
    SteadySteps contentHash rebuilds tables (memoryIds.foldl step tables) := by
  have chain : CatalogOk (memoryIds.foldl step tables) ∧
      SteadySteps contentHash rebuilds tables (memoryIds.foldl step tables) := by
    apply foldl_guarded (fun state => CatalogOk state ∧
      SteadySteps contentHash rebuilds tables state) allowed
    · rintro state memoryId ⟨okState, earlier⟩ permitted
      have here : SteadySteps contentHash rebuilds state (step state memoryId) :=
        one okState permitted
      exact ⟨okState.steady here, earlier.trans here⟩
    · exact fun state memoryId other here _ permitted => keeps here.1 permitted
    · exact ⟨ok, Relation.ReflTransGen.refl⟩
    · exact all
  exact chain.2

/-- The memory may be sent back for rebuilding by a source invalidation. -/
def RebuildAllowed (rebuilds : Nat → Prop) (tables : Tables) (memoryId : Nat) : Prop :=
  ∀ record ∈ tables.records, record.memoryId = memoryId → record.scope.isUser = false →
    validSourceCount tables memoryId ≠ 0 → rebuilds memoryId

theorem applySourceInvalidation_sources (contentHash : Content → String) (ref reason : String)
    (now : Time) (tables : Tables) (memoryId : Nat) :
    (applySourceInvalidation contentHash ref reason now tables memoryId).sources = tables.sources := by
  unfold applySourceInvalidation
  split
  · rfl
  · refine (foldl_keeps Tables.sources ?_ _ _).trans ?_
    · exact fun _ _ => rfl
    · split <;> rfl

theorem applySourceInvalidation_steps (ok : CatalogOk tables) (allowed : RebuildAllowed rebuilds tables memoryId) :
    SteadySteps contentHash rebuilds tables (applySourceInvalidation contentHash ref reason now tables memoryId) := by
  cases found : getRecord tables memoryId with
  | none =>
    simp only [applySourceInvalidation, found]
    exact Relation.ReflTransGen.refl
  | some record =>
    obtain ⟨member, owner⟩ := mem_of_getRecord found
    apply Relation.ReflTransGen.single
    apply SteadyStep.withdraw
    apply (applySourceInvalidation_withdrawn contentHash ref reason now ok found).mono
    rintro ⟨project, left⟩
    exact allowed record member owner project left

theorem rebuildAllowed_applySourceInvalidation
    {other : Nat} (ok : CatalogOk tables) (allowed : RebuildAllowed rebuilds tables other) :
    RebuildAllowed rebuilds (applySourceInvalidation contentHash ref reason now tables memoryId) other := by
  have sources := applySourceInvalidation_sources contentHash ref reason now tables memoryId
  intro record member owner project left
  rw [validSourceCount, sources] at left
  cases found : getRecord tables memoryId with
  | none =>
    simp only [applySourceInvalidation, found] at member
    exact allowed record member owner project left
  | some =>
    obtain ⟨f, keepsId, keepsScope, _, _, _, records⟩ :=
      (applySourceInvalidation_withdrawn contentHash ref reason now ok found).records
    rw [records] at member
    rcases mem_updateWhere.mp member with ⟨old, oldMember, _, rfl⟩ | ⟨kept, _⟩
    · rw [keepsId] at owner
      rw [keepsScope] at project
      exact allowed old oldMember owner project left
    · exact allowed record kept owner project left

theorem invalidateMemory_steps (ok : CatalogOk tables) : SteadySteps contentHash rebuilds tables
      (invalidateMemory contentHash reason now tables memoryId) := by
  cases found : getRecord tables memoryId with
  | none =>
    simp only [invalidateMemory, found]
    exact Relation.ReflTransGen.refl
  | some =>
    apply Relation.ReflTransGen.single
    apply SteadyStep.withdraw
    exact (invalidateMemory_withdrawn ok found).mono False.elim

theorem quiet_steps (frame : after.catalog = tables.catalog) (grows : tables.nextId ≤ after.nextId) :
    SteadySteps contentHash rebuilds tables after :=
  Relation.ReflTransGen.single (SteadyStep.quiet frame grows)

theorem sourceInvalidation_steps {memoryIds : List Nat}
    (ok : CatalogOk tables) (frame : middle.catalog = tables.catalog) (grows : tables.nextId ≤ middle.nextId)
    (allowed : ∀ memoryId ∈ memoryIds, RebuildAllowed rebuilds middle memoryId) :
    SteadySteps contentHash rebuilds tables
      (memoryIds.foldl (applySourceInvalidation contentHash ref reason now) middle) := by
  have first : SteadySteps contentHash rebuilds tables middle := quiet_steps frame grows
  refine first.trans (foldl_steadySteps (RebuildAllowed rebuilds) ?_ ?_ (ok.steady first) allowed)
  · exact fun ok allowed => applySourceInvalidation_steps ok allowed
  · exact fun ok allowed => rebuildAllowed_applySourceInvalidation ok allowed

theorem withdrawConsents_steps {consentIds : List Nat} (ok : CatalogOk tables) : SteadySteps contentHash rebuilds tables
      (withdrawConsents contentHash tables consentIds reason now) := by
  unfold withdrawConsents
  simp only
  generalize middleEq : invalidateSources _ _ now = middle
  have first : SteadySteps contentHash rebuilds tables middle := by
    rw [← middleEq]
    exact quiet_steps rfl (Nat.le_refl _)
  refine first.trans (foldl_steadySteps (fun _ _ => True) ?_ ?_ (ok.steady first) ?_)
  · exact fun ok _ => invalidateMemory_steps ok
  · exact fun _ _ => trivial
  · exact fun _ _ => trivial

theorem expire_steps {uuid : Nat → String} {cutoff : Time} {limit : Nat}
    (ok : CatalogOk tables) : SteadySteps contentHash rebuilds tables
      (expireMemoryRecords contentHash uuid tables cutoff limit now) := by
  unfold expireMemoryRecords
  refine foldl_steadySteps (fun _ _ => True) ?_ ?_ ok ?_
  · intro tables memoryId ok _
    have first : SteadySteps contentHash rebuilds tables (invalidateSourcesOf tables memoryId now) :=
      quiet_steps rfl (Nat.le_refl _)
    exact first.trans (invalidateMemory_steps (ok.steady first))
  · exact fun _ _ => trivial
  · exact fun _ _ => trivial

/-! ### What an operation may send back for rebuilding -/

/-- The operation invalidates a source of the project memory and leaves another one valid. -/
def Rebuilds (tables : Tables) (op : Op) (memoryId : Nat) : Prop :=
  memoryId ∈ sourceInvalidated tables op ∧ sourcesLeft tables op memoryId ≠ 0 ∧
    ∃ record ∈ tables.records, record.memoryId = memoryId ∧ record.scope.isUser = false

theorem validSourceCount_invalidateSources (tables : Tables) (op : Op) (now : Time) (memoryId : Nat) :
    validSourceCount (invalidateSources tables op.invalidates now) memoryId = sourcesLeft tables op memoryId := by
  rw [validSourceCount, sourcesLeft]
  simp only [invalidateSources, updateWhere]
  rw [List.filter_map, List.length_map]
  congr 1
  apply List.filter_congr
  intro source _
  simp only [Function.comp_apply]
  by_cases selected : op.invalidates source = true
  · cases valid : source.sourceValid <;> simp [selected, valid]
  · simp [selected]

theorem rebuildAllowed_of_op (op : Op) (now : Time) (records : middle.records = tables.records)
    (sources : middle.sources = (invalidateSources tables op.invalidates now).sources) :
    ∀ memoryId ∈ sourceInvalidated tables op, RebuildAllowed (Rebuilds tables op) middle memoryId := by
  intro memoryId selected record member owner project left
  refine ⟨selected, ?_, record, by rw [← records]; exact member, owner, project⟩
  rw [validSourceCount, sources] at left
  rw [← validSourceCount_invalidateSources tables op now memoryId]
  exact left

/-! ### Reflection -/

variable {digest : String}

theorem known_targetMemory {scope : Scope} {previous : Option RunItem}
    {outputKey : Option StoreKey} (listed : ∀ item, previous = some item → item ∈ tables.runItems)
    (target : (targetMemory tables scope previous digest outputKey).1 = some memoryId) : Known tables memoryId := by
  unfold targetMemory at target
  split at target
  next other chosen =>
    cases target
    simp only [Option.orElse_eq_orElse, Option.orElse_eq_or, Option.or_eq_some_iff] at chosen
    rcases chosen with earlier | ⟨_, duplicate⟩
    · obtain ⟨item, found, names⟩ := Option.bind_eq_some_iff.mp earlier
      exact Or.inl ⟨item, listed item found, names⟩
    · obtain ⟨record, found, same⟩ := Option.map_eq_some_iff.mp duplicate
      exact Or.inr (Or.inl ⟨record, List.mem_of_find?_eq_some found, same⟩)
  next =>
    split at target
    · cases target
    · split at target
      · cases target
      next projection found =>
        simp only at target
        split at target
        next rebuilds =>
          cases target
          obtain ⟨record, owned, _⟩ := Option.any_eq_true _ _ |>.mp rebuilds
          obtain ⟨member, owner⟩ := mem_of_getRecord owned
          exact Or.inr (Or.inl ⟨record, member, owner⟩)
        · split at target
          next writable =>
            cases target
            simp only [Bool.and_eq_true, Option.isNone_iff_eq_none] at writable
            exact Or.inr (Or.inr ⟨projection, List.mem_of_find?_eq_some found, rfl, writable.2⟩)
          · cases target

variable {ordinal : Nat} {item : OutputItem} {messages : List SourceMessage} {job : Job} {env : Environment}

theorem applyItem_cases {run : Run} (applied : applyItem env job run messages now tables item ordinal = .ok after) :
    after = tables ∨ ∃ middle request staged row,
      (∀ memoryId, request.memoryId = some memoryId → Known tables memoryId) ∧
      prepareCandidate env.contentHash tables request now = .ok (middle, staged) ∧
      request.content = item.semantic ∧ request.scope = job.scope ∧ request.sources = sourceRefs job messages ∧
      row.runId = run.runId ∧ row.memoryId = some staged.memoryId ∧ after = upsertRunItem middle row := by
  unfold applyItem at applied
  simp only [bind, Except.bind, pure, Except.pure] at applied
  split at applied
  · cases applied
    exact Or.inl rfl
  · right
    split at applied
    · cases applied
    next _ outcome prepared =>
      obtain ⟨middle, staged⟩ := outcome
      cases applied
      refine ⟨middle, _, staged, _, ?_, prepared, rfl, rfl, rfl, rfl, rfl, rfl⟩
      intro memoryId named
      refine known_targetMemory ?_ named
      intro old found
      exact List.mem_of_find?_eq_some found

theorem applyItem_steps {run : Run} (ok : CatalogOk tables)
    (applied : applyItem env job run messages now tables item ordinal = .ok after) :
    SteadySteps env.contentHash rebuilds tables after := by
  rcases applyItem_cases applied with
    rfl | ⟨middle, request, staged, row, known, prepared, _, _, _, _, names, rfl⟩
  · exact Relation.ReflTransGen.refl
  · have spec := prepareCandidate_spec env.contentHash prepared
    have first : SteadyStep env.contentHash rebuilds tables middle := SteadyStep.stage known spec
    refine (Relation.ReflTransGen.single first).tail (SteadyStep.note ?_)
    intro memoryId own
    rw [names] at own
    cases own
    obtain ⟨record, member, owner, _⟩ := CatalogOk.exists_staged_record ok known spec
    exact ⟨record, member, owner⟩

theorem exists_of_applyItems_cons {run : Run} {rest : List OutputItem}
    (applied : applyItems env job run messages now tables (item :: rest) ordinal = .ok after) :
    ∃ middle, applyItem env job run messages now tables item ordinal = .ok middle ∧
      applyItems env job run messages now middle rest (ordinal + 1) = .ok after := by
  rw [applyItems] at applied
  split at applied
  · cases applied
  · exact ⟨_, ‹_›, applied⟩

theorem applyItems_steps {run : Run} {items : List OutputItem} :
    ∀ {tables after : Tables} {ordinal : Nat}, CatalogOk tables →
      applyItems env job run messages now tables items ordinal = .ok after →
      SteadySteps env.contentHash rebuilds tables after := by
  induction items with
  | nil =>
    intro tables after ordinal _ applied
    cases applied
    exact Relation.ReflTransGen.refl
  | cons item rest ih =>
    intro tables after ordinal ok applied
    obtain ⟨middle, first, others⟩ := exists_of_applyItems_cons applied
    have here : SteadySteps env.contentHash rebuilds tables middle := applyItem_steps ok first
    exact here.trans (ih (ok.steady here) others)

variable {sourceHash : String} {snapshot : Job}

theorem applyRun_cases {current : Job}
    (applied : applyRun env tables snapshot current messages sourceHash now = .ok after) :
    ∃ run output token middle checked,
      tables.runs.find? (fun run => run.runKey == runKeyOf snapshot sourceHash) = some run ∧
      snapshot.leaseToken = some token ∧ run.outputPayload = some output ∧
      applyItems env current run messages now tables output 0 = .ok middle ∧
      updateCheckpoint (ensureCheckpoint (commitRun middle run.runId) snapshot.jobId) snapshot
        sourceHash = .ok checked ∧ after = markCompleted checked snapshot.jobId token snapshot.generation now := by
  unfold applyRun at applied
  simp only [bind, Except.bind, pure, Except.pure] at applied
  split at applied
  · cases applied
  next run found =>
    split at applied
    next output token payload leased =>
      split at applied
      · cases applied
      next _ middle items =>
        split at applied
        · cases applied
        next _ checked checkpoint =>
          cases applied
          exact ⟨run, output, token, middle, checked, found, leased, payload, items, checkpoint, rfl⟩
    · cases applied

/-- An accepted `_apply_job` holds the lease and, for a user reflection, a valid consent. -/
theorem applyJob_cases (applied : applyJob env tables snapshot messages sourceHash now = .ok after) :
    ∃ current, heldJob tables snapshot = some current ∧ (snapshot.kind = .userReflection →
        ∃ consent, validateConsentForJob env.manifestHash tables current = .ok consent) ∧
      applyRun env tables snapshot current messages sourceHash now = .ok after := by
  unfold applyJob at applied
  simp only [bind, Except.bind, throw, throwThe, MonadExceptOf.throw] at applied
  split at applied
  · cases applied
  next current held =>
    refine ⟨current, held, ?_⟩
    split at applied
    next user =>
      split at applied
      · cases applied
      next _ consent valid =>
        split at applied
        · cases applied
        · exact ⟨fun _ => ⟨consent, valid⟩, applied⟩
    next other => exact ⟨fun user => absurd user other, applied⟩

theorem ensureCheckpoint_catalog (tables : Tables) (jobId : Nat) :
    (ensureCheckpoint tables jobId).catalog = tables.catalog ∧
      (ensureCheckpoint tables jobId).nextId = tables.nextId := by
  unfold ensureCheckpoint
  split
  · exact ⟨rfl, rfl⟩
  · exact ⟨rfl, rfl⟩

theorem updateCheckpoint_catalog (updated : updateCheckpoint tables job sourceHash = .ok after) :
    after.catalog = tables.catalog ∧ after.nextId = tables.nextId := by
  unfold updateCheckpoint at updated
  simp only at updated
  split at updated
  · cases updated
  · cases updated
    exact ⟨rfl, rfl⟩

theorem applyJob_steps (ok : CatalogOk tables)
    (applied : applyJob env tables snapshot messages sourceHash now = .ok after) :
    SteadySteps env.contentHash rebuilds tables after := by
  obtain ⟨current, _, _, ran⟩ := applyJob_cases applied
  obtain ⟨run, output, token, middle, checked, _, _, _, items, checkpoint, rfl⟩ := applyRun_cases ran
  obtain ⟨ensured, ensuredNext⟩ := ensureCheckpoint_catalog (commitRun middle run.runId) snapshot.jobId
  obtain ⟨updated, updatedNext⟩ := updateCheckpoint_catalog checkpoint
  refine (applyItems_steps ok items).trans (quiet_steps ?_ ?_)
  · exact updated.trans ensured
  · show middle.nextId ≤ checked.nextId
    rw [updatedNext, ensuredNext]
    exact Nat.le_refl _

/-! ### Drafts, verification and publication -/

theorem updateDraft_cases {semantic : Semantic}
    (updated : updateDraft contentHash tables manages memoryId semantic expectedRevision now = .ok after) :
    ∃ record projectionId fence request staged,
      getRecord tables memoryId = some record ∧ request.memoryId = some memoryId ∧ request.sources = [] ∧
      prepareCandidate contentHash
        (updateProjection tables projectionId fun row => { row with fenceVersion := fence }) request
        now = .ok (after, staged) := by
  unfold updateDraft at updated
  simp only [bind, Except.bind, throw, throwThe, MonadExceptOf.throw] at updated
  cases managed : requireManaged tables manages memoryId expectedRevision with
  | error => simp [managed] at updated
  | ok record =>
    simp only [managed] at updated
    split at updated
    · cases updated
    split at updated
    · cases updated
    next projection found =>
      split at updated
      · cases updated
      split at updated
      · cases updated
      next _ outcome prepared =>
        obtain ⟨middle, staged⟩ := outcome
        cases updated
        exact ⟨record, _, _, _, staged, requireManaged_memoryId managed, rfl, rfl, prepared⟩

theorem updateDraft_steps {semantic : Semantic}
    (updated : updateDraft contentHash tables manages memoryId semantic expectedRevision now =
      .ok after) : CatalogSteps contentHash rebuilds tables after := by
  obtain ⟨record, projectionId, fence, request, staged, found, named, _, prepared⟩ :=
    updateDraft_cases updated
  obtain ⟨member, owner⟩ := mem_of_getRecord found
  refine Relation.ReflTransGen.head (CatalogStep.touch ?_ ?_)
    (Relation.ReflTransGen.single
      (CatalogStep.stage ?_ (prepareCandidate_spec contentHash prepared)))
  · intro row selected
    simp only [Bool.and_eq_true, Option.isNone_iff_eq_none] at selected
    exact selected.2
  · exact fun _ => rfl
  · intro other own
    rw [named] at own
    cases own
    exact Or.inr (Or.inl ⟨record, member, owner⟩)

theorem queueVerifiedProjection_spec {revision : Nat}
    (queued : queueVerifiedProjection tables record revision now = .ok after) : (∀ other ∈ tables.projections,
      other.address ≠ (newVerified tables.nextId record revision).address) ∧
    after.projections = tables.projections ++ [newVerified tables.nextId record revision] ∧
    after.records = tables.records ∧ after.revisions = tables.revisions ∧
    after.runItems = tables.runItems ∧ after.nextId = tables.nextId + 2 := by
  unfold queueVerifiedProjection at queued
  simp only at queued
  split at queued
  · cases queued
  next free =>
    cases queued
    refine ⟨?_, rfl, rfl, rfl, rfl, rfl⟩
    intro other member same
    apply free
    simp only [List.any_eq_true, Bool.and_eq_true, beq_iff_eq]
    exact ⟨other, member, congrArg Prod.fst same, congrArg Prod.snd same⟩

/-- The tables of `verify` once the candidate of the memory is fenced. -/
def fenceCandidate (tables : Tables) (memoryId : Nat) : Tables :=
  match candidateProjection tables memoryId with
  | none => tables
  | some candidate => fenceProjection tables candidate.projectionId candidate.fenceVersion

theorem fenceCandidate_records (tables : Tables) (memoryId : Nat) :
    (fenceCandidate tables memoryId).records = tables.records := by
  unfold fenceCandidate
  split <;> rfl

theorem fenceCandidate_steps (tables : Tables) (memoryId : Nat) :
    CatalogSteps contentHash rebuilds tables (fenceCandidate tables memoryId) := by
  unfold fenceCandidate
  split
  · exact Relation.ReflTransGen.refl
  next candidate _ =>
    apply Relation.ReflTransGen.single
    refine CatalogStep.touch ?_ ?_
    · intro row selected
      simp only [Bool.and_eq_true, Option.isNone_iff_eq_none] at selected
      exact selected.1.2
    · exact fun _ => rfl

variable {evidence : List String}

section

variable (verified : verify tables manages memoryId expectedRevision evidence now = .ok after)
include verified

theorem verify_cases : ∃ record, getRecord tables memoryId = some record ∧ record.status = .candidate ∧
      queueVerifiedProjection (insertRevision (updateRecord (fenceCandidate tables memoryId) memoryId
            (Record.submit (record.currentRevision + 1) now))
          (governanceRevision memoryId (record.currentRevision + 1) "verify" (some record.content)
            (some record.content)))
        { record with currentRevision := record.currentRevision + 1 } (record.currentRevision + 1)
        now = .ok after := by
  unfold verify at verified
  simp only [bind, Except.bind, throw, throwThe, MonadExceptOf.throw] at verified
  split at verified
  · cases verified
  cases managed : requireManaged tables manages memoryId expectedRevision with
  | error => simp [managed] at verified
  | ok record =>
    simp only [managed] at verified
    split at verified
    · cases verified
    next candidate =>
      split at verified
      · cases verified
      · exact ⟨record, requireManaged_memoryId managed, not_not.mp candidate, verified⟩

theorem verify_submitted : ∃ record ∈ tables.records, record.memoryId = memoryId ∧ record.status = .candidate ∧
      Submitted (fenceCandidate tables memoryId) after record now := by
  obtain ⟨record, found, candidate, queued⟩ := verify_cases verified
  obtain ⟨member, rfl⟩ := mem_of_getRecord found
  have records := fenceCandidate_records tables record.memoryId
  obtain ⟨free, projections, sameRecords, revisions, runItems, nextId⟩ :=
    queueVerifiedProjection_spec queued
  refine ⟨record, member, rfl, candidate, ?_⟩
  constructor
  case member => rw [records]; exact member
  case candidate => exact candidate
  case records => exact sameRecords
  case revisions => exact revisions
  case projections =>
    refine ⟨_, Nat.le_refl _, ?_, free, projections⟩
    rw [nextId]
    exact Nat.lt_succ_of_lt (Nat.lt_succ_self _)
  case runItems => exact runItems

theorem verify_steps : CatalogSteps contentHash rebuilds tables after := by
  obtain ⟨_, _, _, _, submitted⟩ := verify_submitted verified
  exact (fenceCandidate_steps tables memoryId).tail (CatalogStep.submit submitted)

end

/-- The checks that an accepted `mark_projection_active` has passed. -/
structure Activation (projection : Projection) (record : Record)
    (expectedRevision expectedFence : Nat) (digest : String) : Prop where
  revision : projection.currentRevision = expectedRevision
  fence : projection.fenceVersion = expectedFence
  projected : projection.currentContentHash = digest
  recorded : record.contentHash = digest
  status : record.status.isActive = true ∨
    (record.status = .verificationPending ∧ projection.kind = .verified)
  unretired : projection.retiredAt = none

theorem markProjectionActive_cases {operationId projectionId expectedFence : Nat}
    (activated : markProjectionActive tables operationId projectionId expectedRevision expectedFence
      digest now = some after) : ∃ row projection record middle,
      tables.projectionOutbox.find? (fun row => row.operationId == operationId) = some row ∧
      getProjection tables projectionId = some projection ∧ getRecord tables row.memoryId = some record ∧
      Activation projection record expectedRevision expectedFence digest ∧
      middle = updateProjection tables projectionId (fun row => { row with active := true }) ∧
      ((¬(projection.kind = .verified ∧ record.status = .verificationPending) ∧
          after = closeProjection middle operationId) ∨
        ((projection.kind = .verified ∧ record.status = .verificationPending) ∧
          after = closeProjection (publishVerified middle row.memoryId expectedRevision now)
            operationId)) := by
  unfold markProjectionActive at activated
  simp only [bind, Option.bind_eq_some_iff, guard, pure] at activated
  obtain ⟨row, foundRow, projection, foundProjection, record, foundRecord, _, version, _, digests, _,
    status, _, unretired, result⟩ := activated
  have passed {p : Prop} [Decidable p] {result : Unit}
      (checked : (if p then some () else failure) = some result) : p := by
    by_contra failed
    rw [if_neg failed] at checked
    cases checked
  obtain ⟨revision, fence⟩ := passed version
  obtain ⟨projected, recorded⟩ := passed digests
  refine ⟨row, projection, record, _, foundRow, foundProjection, foundRecord,
    ⟨revision, fence, projected, recorded, passed status, by simpa using passed unretired⟩, rfl, ?_⟩
  cases result
  split
  next publishes => exact Or.inr ⟨publishes, rfl⟩
  next publishes => exact Or.inl ⟨publishes, rfl⟩

theorem markProjectionActive_steps {operationId projectionId expectedFence : Nat}
    (activated : markProjectionActive tables operationId projectionId expectedRevision expectedFence
      digest now = some after) : CatalogSteps contentHash rebuilds tables after := by
  obtain ⟨row, projection, record, middle, _, _, _, _, middleEq, result⟩ :=
    markProjectionActive_cases activated
  have first : CatalogSteps contentHash rebuilds tables middle := by
    rw [middleEq]
    apply Relation.ReflTransGen.single
    refine CatalogStep.touch ?_ (fun _ => rfl)
    intro row selected
    simp only [Bool.and_eq_true, Option.isNone_iff_eq_none] at selected
    exact selected.2
  rcases result with ⟨_, rfl⟩ | ⟨_, rfl⟩
  · exact first.tail (CatalogStep.quiet rfl (Nat.le_refl _))
  · exact (first.tail CatalogStep.publish).tail (CatalogStep.quiet rfl (Nat.le_refl _))

theorem markProjectionDeleted_steps (tables : Tables) (operationId : Nat) (now : Time) :
    SteadySteps contentHash rebuilds tables (markProjectionDeleted tables operationId now) := by
  have closed : SteadySteps contentHash rebuilds tables (closeDeletion tables operationId) :=
    quiet_steps rfl (Nat.le_refl _)
  unfold markProjectionDeleted
  simp only
  split
  · exact closed
  · split
    · exact closed.tail SteadyStep.conclude
    · exact closed

/-! ### Operations that leave the catalog alone -/

/-- The catalog is left alone; the id supply may move on. -/
def SameCatalog (tables after : Tables) : Prop :=
  after.catalog = tables.catalog ∧ tables.nextId ≤ after.nextId

theorem SameCatalog.steps (same : SameCatalog tables after) : SteadySteps contentHash rebuilds tables after :=
  quiet_steps same.1 same.2

theorem enqueueProjectReflection_catalog (tables : Tables) (request : ReflectionRequest)
    (now : Time) : SameCatalog tables (enqueueProjectReflection tables request now).1 := by
  unfold enqueueProjectReflection
  split
  · exact ⟨rfl, Nat.le_succ _⟩
  · simp only
    split
    · split
      · exact ⟨rfl, Nat.le_refl _⟩
      · exact ⟨rfl, Nat.le_refl _⟩
    · exact ⟨rfl, Nat.le_refl _⟩

theorem enqueueInConnection_catalog (tables : Tables) (request : ReflectionRequest) (now : Time) :
    SameCatalog tables (enqueueProjectReflectionInConnection tables request now).1 := by
  unfold enqueueProjectReflectionInConnection
  split
  · exact ⟨rfl, Nat.le_succ _⟩
  · simp only
    split
    · split
      · exact ⟨rfl, Nat.le_refl _⟩
      · exact ⟨rfl, Nat.le_refl _⟩
    · exact ⟨rfl, Nat.le_refl _⟩

variable {userId : Nat}

theorem createUserConsent_catalog {manifestHash : List ConsentSourceItem → String}
    {sessionId : Nat} {items : List ConsentSourceItem}
    (created : createUserConsent manifestHash tables userId sessionId items now = .ok after) :
    SameCatalog tables after := by
  unfold createUserConsent at created
  simp only [bind, Except.bind, pure, Except.pure, throw, throwThe, MonadExceptOf.throw] at created
  split at created
  · cases created
  split at created
  · cases created
  split at created
  · cases created
  cases created
  exact ⟨rfl, Nat.le_succ_of_le (Nat.le_succ _)⟩

theorem claimNext_catalog (uuid : Nat → String) (maxRetries : Nat) (tables : Tables)
    (workerId : String) (leaseSeconds : Nat) (now clock : Time) :
    SameCatalog tables (claimNext uuid maxRetries tables workerId leaseSeconds now clock).1 := by
  unfold claimNext
  simp only
  split
  · exact ⟨rfl, Nat.le_refl _⟩
  · split
    · exact ⟨rfl, Nat.le_refl _⟩
    · exact ⟨rfl, Nat.le_succ _⟩

theorem markRetry_catalog (maxRetries : Nat) (tables : Tables) (jobId token generation : Nat)
    (error : String) (retryAfterSeconds : Nat) (clock : Time) :
    SameCatalog tables (markRetry maxRetries tables jobId token generation error retryAfterSeconds clock) := by
  unfold markRetry
  split
  · exact ⟨rfl, Nat.le_refl _⟩
  · simp only
    split
    · exact ⟨rfl, Nat.le_refl _⟩
    · exact ⟨rfl, Nat.le_refl _⟩

theorem saveRun_catalog (tables : Tables) (job : Job) (sourceHash : String) :
    SameCatalog tables (saveRun tables job sourceHash) := by
  unfold saveRun
  simp only
  split
  · exact ⟨rfl, Nat.le_refl _⟩
  · exact ⟨rfl, Nat.le_succ _⟩

theorem persistOutput_cases {runId : Nat} {output : List OutputItem}
    (persisted : persistOutputForJob env tables job runId output = .ok after) :
    after = tables ∨ ∃ current, heldJob tables job = some current ∧ (current.kind = .userReflection →
        ∃ consent, validateConsentForJob env.manifestHash tables current = .ok consent) ∧ after = { tables with
        runs := updateWhere (fun run => (run.runId == runId && run.jobId == job.jobId &&
            run.generation == job.generation) && run.outputPayload.isNone)
          (fun run => { run with outputPayload := some output, status := .outputPersisted })
          tables.runs } := by
  unfold persistOutputForJob at persisted
  simp only [bind, Except.bind, pure, Except.pure, throw, throwThe, MonadExceptOf.throw] at persisted
  split at persisted
  · cases persisted
    exact Or.inl rfl
  next current held =>
    right
    refine ⟨current, held, ?_⟩
    split at persisted
    next user =>
      split at persisted
      · cases persisted
      next _ consent valid =>
        split at persisted
        · cases persisted
        · cases persisted
          exact ⟨fun _ => ⟨consent, valid⟩, rfl⟩
    next other =>
      split at persisted
      · cases persisted
      · cases persisted
        exact ⟨fun user => absurd user other, rfl⟩

theorem persistOutput_catalog {runId : Nat} {output : List OutputItem}
    (persisted : persistOutputForJob env tables job runId output = .ok after) : SameCatalog tables after := by
  rcases persistOutput_cases persisted with rfl | ⟨_, _, _, rfl⟩
  · exact ⟨rfl, Nat.le_refl _⟩
  · exact ⟨rfl, Nat.le_refl _⟩

theorem claimDeletion_catalog (env : Environment) (tables : Tables) (now : Time) :
    SameCatalog tables (claimDeletion env tables now).1 := by
  unfold claimDeletion
  simp only
  split
  · exact ⟨rfl, Nat.le_refl _⟩
  · exact ⟨rfl, Nat.le_refl _⟩

theorem claimProjection_catalog (env : Environment) (tables : Tables) (now : Time) :
    SameCatalog tables (claimProjection env tables now).1 := by
  unfold claimProjection
  simp only
  split
  · exact ⟨rfl, Nat.le_refl _⟩
  · exact ⟨rfl, Nat.le_refl _⟩

/-! ### Every operation -/

/-- `set_user_opt_in` writes the settings; an opt-out withdraws the open consents of the user. -/
theorem setUserOptIn_cases (contentHash : Content → String) (tables : Tables) (userId : Nat)
    (enabled : Bool) (policyVersion : String) (now : Time) :
    ∃ settings, setUserOptIn contentHash tables userId enabled policyVersion now = { tables with settings } ∨
      (enabled = false ∧ setUserOptIn contentHash tables userId enabled policyVersion now =
        withdrawConsents contentHash { tables with settings } ((tables.consents.filter fun consent =>
            consent.userId == userId && consent.revokedAt.isNone).map ConsentEvent.consentEventId)
          "account_opt_out" now) := by
  unfold setUserOptIn
  simp only
  cases enabled with
  | true => exact ⟨_, Or.inl rfl⟩
  | false =>
    simp only [Bool.false_eq_true, if_false]
    split
    · exact ⟨_, Or.inl rfl⟩
    · exact ⟨_, Or.inr ⟨trivial, rfl⟩⟩

theorem setUserOptIn_steps {enabled : Bool} {policyVersion : String}
    (ok : CatalogOk tables) : SteadySteps contentHash rebuilds tables
      (setUserOptIn contentHash tables userId enabled policyVersion now) := by
  obtain ⟨settings, written | ⟨_, withdrawn⟩⟩ :=
    setUserOptIn_cases contentHash tables userId enabled policyVersion now
  · rw [written]
    exact quiet_steps rfl (Nat.le_refl _)
  · rw [withdrawn]
    have first : SteadySteps contentHash rebuilds tables { tables with settings } :=
      quiet_steps rfl (Nat.le_refl _)
    exact first.trans (withdrawConsents_steps (ok.steady first))

theorem revokeConsent_steps {consentEventId : Nat} (ok : CatalogOk tables) : SteadySteps contentHash rebuilds tables
      (revokeConsent contentHash tables userId consentEventId reason now) := by
  unfold revokeConsent
  split
  · exact withdrawConsents_steps ok
  · exact Relation.ReflTransGen.refl

theorem commit_steps {state : ServiceState} {result : Except String Tables}
    (accepted : ∀ after, result = .ok after → SteadySteps contentHash rebuilds state.tables after) :
    SteadySteps contentHash rebuilds state.tables (state.commit result).tables := by
  cases result with
  | error => exact Relation.ReflTransGen.refl
  | ok after => exact accepted after rfl

theorem purge_steps (purged : purgeDeletedRecord tables memoryId = .ok after) :
    SteadySteps contentHash rebuilds tables after := by
  unfold purgeDeletedRecord at purged
  split at purged
  · cases purged
    exact Relation.ReflTransGen.refl
  next record found =>
    split at purged
    · cases purged
    next deleted =>
      cases purged
      obtain ⟨member, rfl⟩ := mem_of_getRecord found
      exact Relation.ReflTransGen.single (SteadyStep.purge member (not_not.mp deleted))

/-- The operations that neither fence nor activate a projection in place. -/
def Op.isSteady : Op → Bool
  | .updateDraft .. | .verify .. | .activateProjection _ => false
  | _ => true

theorem exec_steadySteps (env : Environment) (state : ServiceState) (op : Op)
    (ok : CatalogOk state.tables) (steady : op.isSteady = true) :
    SteadySteps env.contentHash (Rebuilds state.tables op) state.tables (state.exec env op).tables := by
  cases op with
  | setUserOptIn => exact setUserOptIn_steps ok
  | createUserConsent =>
    exact commit_steps fun _ created => (createUserConsent_catalog created).steps
  | revokeConsent => exact revokeConsent_steps ok
  | clearSession sessionId now =>
    refine sourceInvalidation_steps ok rfl (Nat.le_refl _) ?_
    exact rebuildAllowed_of_op (.clearSession sessionId now) now rfl rfl
  | deleteSession sessionId now =>
    have invalidated : SteadySteps env.contentHash
        (Rebuilds state.tables (.deleteSession sessionId now)) state.tables
        (invalidateSessionMemory env.contentHash state.tables sessionId "session_deleted" now) := by
      refine sourceInvalidation_steps ok rfl (Nat.le_refl _) ?_
      exact rebuildAllowed_of_op (.deleteSession sessionId now) now rfl rfl
    exact invalidated.trans (quiet_steps rfl (Nat.le_refl _))
  | editMessage sessionId messageId reason now =>
    refine sourceInvalidation_steps ok rfl (Nat.le_refl _) ?_
    exact rebuildAllowed_of_op (.editMessage sessionId messageId reason now) now rfl rfl
  | enqueue => exact (enqueueProjectReflection_catalog _ _ _).steps
  | enqueueInConnection => exact (enqueueInConnection_catalog _ _ _).steps
  | disableAutoExtract => exact quiet_steps rfl (Nat.le_refl _)
  | updateDraft => cases steady
  | verify => cases steady
  | reject =>
    exact commit_steps fun _ rejected => Relation.ReflTransGen.single (SteadyStep.withdraw
      ((retireGoverned_withdrawn ok rfl rfl rejected).mono False.elim))
  | retireDeleted =>
    exact commit_steps fun _ deleted => Relation.ReflTransGen.single (SteadyStep.withdraw
      ((retireGoverned_withdrawn ok rfl rfl deleted).mono False.elim))
  | purge => exact commit_steps fun _ purged => purge_steps purged
  | checkSupersede | deleteObject | putObject | reconcile =>
    simp only [ServiceState.exec]
    split <;> exact Relation.ReflTransGen.refl
  | supersede =>
    simp only [ServiceState.exec]
    split
    · exact commit_steps fun _ superseded => Relation.ReflTransGen.single (SteadyStep.withdraw
        ((supersede_withdrawn ok superseded).mono False.elim))
    · exact Relation.ReflTransGen.refl
  | expire => exact expire_steps ok
  | requeueDeadLetter | heartbeat | cancelJob | restart =>
    exact quiet_steps rfl (Nat.le_refl _)
  | claimNext workerId leaseSeconds now clock =>
    have same := claimNext_catalog env.uuid env.jobMaxRetries state.tables workerId leaseSeconds now
      clock
    simp only [ServiceState.exec]
    split
    next tables claimed => exact (by rw [claimed] at same; exact same.steps)
    next tables job claimed => exact (by rw [claimed] at same; exact same.steps)
  | markRetry =>
    exact (markRetry_catalog _ _ _ _ _ _ _ _).steps
  | saveRun =>
    simp only [ServiceState.exec]
    split
    · exact (saveRun_catalog _ _ _).steps
    · exact Relation.ReflTransGen.refl
  | persistOutput =>
    simp only [ServiceState.exec]
    split
    · exact commit_steps fun _ persisted => (persistOutput_catalog persisted).steps
    · exact Relation.ReflTransGen.refl
  | applyJob =>
    simp only [ServiceState.exec]
    split
    · exact commit_steps fun _ applied => applyJob_steps ok applied
    · exact Relation.ReflTransGen.refl
  | claimDeletion now =>
    have same := claimDeletion_catalog env state.tables now
    simp only [ServiceState.exec]
    split
    · split
      next tables claimed => exact (by rw [claimed] at same; exact same.steps)
      next tables item claimed => exact (by rw [claimed] at same; exact same.steps)
    · exact Relation.ReflTransGen.refl
  | checkDeletion =>
    simp only [ServiceState.exec]
    split
    · split <;> exact Relation.ReflTransGen.refl
    · exact Relation.ReflTransGen.refl
  | completeDeletion =>
    simp only [ServiceState.exec]
    split
    · exact markProjectionDeleted_steps _ _ _
    · exact markProjectionDeleted_steps _ _ _
    · exact Relation.ReflTransGen.refl
  | claimProjection now =>
    have same := claimProjection_catalog env state.tables now
    simp only [ServiceState.exec]
    split
    · split
      next tables claimed => exact (by rw [claimed] at same; exact same.steps)
      next tables item claimed => exact (by rw [claimed] at same; exact same.steps)
    · exact Relation.ReflTransGen.refl
  | checkProjection =>
    simp only [ServiceState.exec]
    split
    · split
      · exact Relation.ReflTransGen.refl
      · exact quiet_steps rfl (Nat.le_refl _)
    · exact Relation.ReflTransGen.refl
  | activateProjection => cases steady
  | failOutbox =>
    simp only [ServiceState.exec]
    split
    · exact Relation.ReflTransGen.refl
    all_goals exact quiet_steps rfl (Nat.le_refl _)

/-- Every operation is a chain of catalog steps. -/
theorem exec_catalogSteps (env : Environment) (state : ServiceState) (op : Op) (ok : CatalogOk state.tables) :
    CatalogSteps env.contentHash (Rebuilds state.tables op) state.tables (state.exec env op).tables := by
  cases op with
  | updateDraft manages memoryId semantic expectedRevision now =>
    simp only [ServiceState.exec]
    cases outcome : updateDraft env.contentHash state.tables manages memoryId semantic
        expectedRevision now with
    | error error => exact Relation.ReflTransGen.refl
    | ok after => exact updateDraft_steps outcome
  | verify manages memoryId expectedRevision evidence now =>
    simp only [ServiceState.exec]
    cases outcome : verify state.tables manages memoryId expectedRevision evidence now with
    | error => exact Relation.ReflTransGen.refl
    | ok => exact verify_steps outcome
  | activateProjection =>
    simp only [ServiceState.exec]
    split
    · split
      next activated => exact markProjectionActive_steps activated
      next => exact Relation.ReflTransGen.single (CatalogStep.quiet rfl (Nat.le_refl _))
    · exact Relation.ReflTransGen.refl
  | _ => exact (exec_steadySteps env state _ ok rfl).catalogSteps

/-- The catalog is well formed in every reachable state: ids and addresses are unique, what is not retired stands
under a live record, a memory has at most one open candidate, and what is retired is inactive. -/
theorem catalogOk_run (env : Environment) (ops : List Op) : CatalogOk ((memoryService env).run ops).tables := by
  apply Machine.invariant (fun state : ServiceState => CatalogOk state.tables)
  · exact catalogOk_empty
  · intro state op ok
    exact ok.steps (exec_catalogSteps env state op ok)

/-! ### A sample reflection -/

/-- An environment whose hashes are readable. -/
def sampleEnvironment : Environment :=
  { contentHash := fun content =>
      match content with
      | .redacted => "redacted"
      | .semantic value => value.title
    manifestHash := fun _ => "manifest", uuid := fun id => toString id, jobMaxRetries := 5,
    projectionMaxRetries := 5 }

/-- What a model extracted from a session. -/
def sampleMemory : Semantic :=
  { memoryType := "fact", title := "rail", content := "3.3 V", subject := none, attributes := "" }

/-- The two messages of the session's turn. -/
def sampleMessages : List SourceMessage :=
  [{ turnId := "turn", messageId := 1, role := "user", contentHash := "question" },
    { turnId := "turn", messageId := 2, role := "assistant", contentHash := "answer" }]

/-- A project reflection of session 1 is requested and claimed. -/
def projectClaimed : List Op :=
  [.enqueueInConnection
      { sessionId := 1, departmentId := "hw", kbId := "kb", targetTurnId := "turn", targetMessageId := 2,
        availableAt := 0, sourceStartTurnId := none, sourceStartMessageId := none, force := false }
      1,
    .claimNext "worker" 180 2 2]

/-- The job that `claim_next` returned. -/
def claimedProjectJob : Job :=
  ((memoryService sampleEnvironment).run projectClaimed).claimed.headD default

/-- The reflection is carried through: memory 4 is a candidate with two sources. -/
def projectReflected : List Op :=
  projectClaimed ++
    [.saveRun claimedProjectJob "hash",
      .persistOutput claimedProjectJob 3 [{ semantic := sampleMemory, outputKey := none }],
      .applyJob claimedProjectJob sampleMessages "hash" 3]

end HardwareDatabase.Memory
