/-
Module: HardwareDatabase.Proofs.GovernedAway
Purpose: Rejected, deleted and superseded memories stay out of use, except for one way back through
  `apply_source_invalidation`.
Trusted boundary: none
-/
import HardwareDatabase.Proofs.CatalogRuns

namespace HardwareDatabase.Memory

open Relational

variable {contentHash : Content → String} {rebuilds : Nat → Prop} {tables after : Tables}

/-! ### Where a working record comes from -/

/-- A record in a working status was in one before, belongs to a new memory, or was sent back for
rebuilding. -/
def WorkingOrigin (rebuilds : Nat → Prop) (tables after : Tables) : Prop :=
  ∀ record ∈ after.records, record.status.isWorking = true →
    (∃ old ∈ tables.records, old.memoryId = record.memoryId ∧ old.status.isWorking = true) ∨
    tables.nextId ≤ record.memoryId ∨ rebuilds record.memoryId

theorem WorkingOrigin.of_mem {record : Record} (member : record ∈ tables.records)
    (working : record.status.isWorking = true) :
    (∃ old ∈ tables.records, old.memoryId = record.memoryId ∧ old.status.isWorking = true) ∨
    tables.nextId ≤ record.memoryId ∨ rebuilds record.memoryId :=
  Or.inl ⟨record, member, rfl, working⟩

theorem CatalogStep.working_origin (ok : CatalogOk tables) (change : CatalogStep contentHash rebuilds tables after) :
    WorkingOrigin rebuilds tables after := by
  intro record member working
  cases change with
  | quiet frame =>
    have records : after.records = tables.records := congrArg Prod.fst frame
    rw [records] at member
    exact WorkingOrigin.of_mem member working
  | withdraw withdrawn =>
    obtain ⟨f, keepsId, _, _, permitted, _, records⟩ := withdrawn.records
    rw [records] at member
    rcases mem_updateWhere.mp member with ⟨old, oldMember, selected, rfl⟩ | ⟨kept, _⟩
    · simp only [beq_iff_eq] at selected
      rw [keepsId, selected]
      exact Or.inr (Or.inr (permitted old oldMember selected working))
    · exact WorkingOrigin.of_mem kept working
  | purge => exact WorkingOrigin.of_mem (mem_of_mem_deleteWhere member) working
  | stage known prepared =>
    rcases CatalogOk.staged_record ok known prepared with
      ⟨existing, existingMember, _, _, status, _, rows⟩ | ⟨fresh, _, _, rows⟩
    · rw [rows] at member
      rcases mem_updateWhere.mp member with ⟨old, oldMember, selected, rfl⟩ | ⟨kept, _⟩
      · simp only [beq_iff_eq] at selected
        left
        refine ⟨existing, existingMember, selected.symm, ?_⟩
        rcases status with candidate | rebuild
        · rw [candidate]; rfl
        · rw [rebuild]; rfl
      · exact WorkingOrigin.of_mem kept working
    · rw [rows] at member
      rcases List.mem_append.mp member with old | new
      · exact WorkingOrigin.of_mem old working
      · rw [List.mem_singleton.mp new]
        exact Or.inr (Or.inl (Nat.le_of_eq fresh.symm))
  | @note item =>
    have records := eq_of_frame Tables.records (upsertRunItem_frame tables item) (fun _ => rfl)
    rw [records] at member
    exact WorkingOrigin.of_mem member working
  | touch => exact WorkingOrigin.of_mem member working
  | submit submitted =>
    rw [submitted.records] at member
    rcases mem_updateWhere.mp member with ⟨old, oldMember, selected, rfl⟩ | ⟨kept, _⟩
    · simp only [beq_iff_eq] at selected
      left
      refine ⟨_, submitted.member, selected.symm, ?_⟩
      rw [submitted.candidate]
      rfl
    · exact WorkingOrigin.of_mem kept working
  | publish =>
    rw [(CatalogOk.publishVerified_spec ok _ _ _).1] at member
    rcases mem_updateWhere.mp member with ⟨old, oldMember, selected, rfl⟩ | ⟨kept, _⟩
    · simp only [Bool.and_eq_true, beq_iff_eq] at selected
      left
      refine ⟨old, oldMember, rfl, ?_⟩
      rw [selected.1.2]
      rfl
    · exact WorkingOrigin.of_mem kept working
  | conclude =>
    rcases mem_updateWhere.mp member with ⟨old, _, _, rfl⟩ | ⟨kept, _⟩
    · cases working
    · exact WorkingOrigin.of_mem kept working

theorem CatalogStep.grows (ok : CatalogOk tables)
    (change : CatalogStep contentHash rebuilds tables after) : tables.nextId ≤ after.nextId := by
  cases change with
  | quiet _ grows => exact grows
  | withdraw withdrawn => exact withdrawn.grows
  | purge _ _ => exact Nat.le_refl _
  | stage _ prepared => exact prepared.grows
  | @note item =>
    have same := eq_of_frame Tables.nextId (upsertRunItem_frame tables item) (fun _ => rfl)
    exact Nat.le_of_eq same.symm
  | touch _ _ => exact Nat.le_refl _
  | submit submitted =>
    obtain ⟨_, fresh, bound, _⟩ := submitted.projections
    exact Nat.le_of_lt (Nat.lt_of_le_of_lt fresh bound)
  | publish => exact (CatalogOk.publishVerified_spec ok _ _ _).2.2.2.2
  | conclude => exact Nat.le_refl _

theorem CatalogSteps.working_origin (ok : CatalogOk tables) (chain : CatalogSteps contentHash rebuilds tables after) :
    WorkingOrigin rebuilds tables after ∧ tables.nextId ≤ after.nextId := by
  induction chain with
  | refl => exact ⟨fun record member working => WorkingOrigin.of_mem member working, Nat.le_refl _⟩
  | tail earlier change ih =>
    obtain ⟨origin, grows⟩ := ih
    have okMiddle := ok.steps earlier
    refine ⟨?_, Nat.le_trans grows (change.grows okMiddle)⟩
    intro record member working
    rcases change.working_origin okMiddle record member working with
      ⟨old, oldMember, same, oldWorking⟩ | fresh | rebuilt
    · have first := origin old oldMember oldWorking
      rw [same] at first
      exact first
    · exact Or.inr (Or.inl (Nat.le_trans grows fresh))
    · exact Or.inr (Or.inr rebuilt)

/-! ### Governed-away memories -/

/-- The source invalidations of the operation reach a governed-away memory only if it is a user
memory or keeps no valid source. -/
def SparesGovernedAway (state : ServiceState) (op : Op) : Prop :=
  ∀ memoryId ∈ sourceInvalidated state.tables op, memoryId ∈ state.governed →
    (∀ record ∈ state.tables.records, record.memoryId = memoryId → record.scope.isUser = true) ∨
      sourcesLeft state.tables op memoryId = 0

instance (state : ServiceState) (op : Op) : Decidable (SparesGovernedAway state op) :=
  inferInstanceAs (Decidable (∀ memoryId ∈ sourceInvalidated state.tables op, _))

/-- No memory that was taken out of use is in a working status, and ids are never handed out twice. -/
structure StaysAway (state : ServiceState) : Prop where
  catalog : CatalogOk state.tables
  known : ∀ memoryId ∈ state.governed, memoryId < state.tables.nextId
  away : ∀ memoryId ∈ state.governed, ∀ record ∈ state.tables.records,
    record.memoryId = memoryId → record.status.isWorking = false

theorem exec_governed (env : Environment) (state : ServiceState) (op : Op) :
    (state.exec env op).governed = state.governed := by
  have committed : ∀ result : Except String Tables, (state.commit result).governed = state.governed := by
    intro result
    cases result <;> rfl
  cases op <;> simp only [ServiceState.exec] <;> (repeat' split) <;> first | rfl | exact committed _

theorem StaysAway.step {env : Environment} {state : ServiceState} {op : Op} (stays : StaysAway state)
    (spares : SparesGovernedAway state op) : StaysAway (state.step env op) := by
  have chain := exec_catalogSteps env state op stays.catalog
  obtain ⟨origin, grows⟩ := CatalogSteps.working_origin stays.catalog chain
  have okAfter := stays.catalog.steps chain
  have history := exec_governed env state op
  -- a memory that was out of use before the operation is out of use after it
  have away : ∀ memoryId ∈ state.governed, ∀ record ∈ (state.exec env op).tables.records,
      record.memoryId = memoryId → record.status.isWorking = false := by
    intro memoryId governed record member owner
    by_contra notIdle
    have working : record.status.isWorking = true := by simpa using notIdle
    rcases origin record member working with ⟨old, oldMember, same, oldWorking⟩ | fresh | rebuilt
    · have idle := stays.away memoryId governed old oldMember (same.trans owner)
      rw [oldWorking] at idle
      cases idle
    · have bound := stays.known memoryId governed
      rw [owner] at fresh
      exact absurd bound (Nat.not_lt.mpr fresh)
    · obtain ⟨selected, left, project, projectMember, projectOwner, notUser⟩ := rebuilt
      rw [owner] at selected left projectOwner
      rcases spares memoryId selected governed with user | none
      · rw [user project projectMember projectOwner] at notUser
        cases notUser
      · exact left none
  constructor
  case catalog => exact okAfter
  case known =>
    intro memoryId governed
    rcases List.mem_append.mp governed with new | old
    · obtain ⟨record, listed, rfl⟩ := List.mem_map.mp new
      exact okAfter.recordIds record (List.mem_filter.mp listed).1
    · rw [history] at old
      exact Nat.lt_of_lt_of_le (stays.known memoryId old) grows
  case away =>
    intro memoryId governed record member owner
    rcases List.mem_append.mp governed with new | old
    · obtain ⟨other, listed, rfl⟩ := List.mem_map.mp new
      obtain ⟨otherMember, gone⟩ := List.mem_filter.mp listed
      have same : record = other := okAfter.recordKeys.eq_of_key member otherMember owner
      rw [same]
      exact isWorking_of_isGovernedAway gone
    · rw [history] at old
      exact away memoryId old record member owner

theorem staysAway_run {env : Environment} {ops : List Op}
    (spared : (memoryService env).Respects SparesGovernedAway ops) : StaysAway ((memoryService env).run ops) := by
  apply Machine.guarded_invariant StaysAway _ _ spared
  · exact ⟨catalogOk_empty, by simp [memoryService, ServiceState.start], by simp [memoryService, ServiceState.start]⟩
  · exact fun state op stays spares => stays.step spares

theorem governed_stable (env : Environment) (memoryId : Nat) (first second : List Op)
    (governed : memoryId ∈ ((memoryService env).run first).governed) :
    memoryId ∈ ((memoryService env).run (first ++ second)).governed := by
  apply Machine.stable (fun state : ServiceState => memoryId ∈ state.governed) _ governed
  intro before op earlier
  apply List.mem_append_right
  rw [exec_governed]
  exact earlier

theorem mem_governed (env : Environment) (first : List Op) (op : Op) {record : Record}
    (member : record ∈ ((memoryService env).run (first ++ [op])).tables.records)
    (gone : record.status.isGovernedAway = true) :
    record.memoryId ∈ ((memoryService env).run (first ++ [op])).governed := by
  rw [Machine.run_concat] at member ⊢
  apply List.mem_append_left
  exact List.mem_map.mpr ⟨record, List.mem_filter.mpr ⟨member, gone⟩, rfl⟩

/-- In a run whose source invalidations spare governed-away memories with another valid source, a
memory that was rejected, deleted or superseded is never again in a working status. -/
theorem governed_away_stays_away (env : Environment) (first second : List Op)
    (spared : (memoryService env).Respects SparesGovernedAway (first ++ second)) :
    ∀ record ∈ ((memoryService env).run first).tables.records, record.status.isGovernedAway = true →
      ∀ later ∈ ((memoryService env).run (first ++ second)).tables.records,
        later.memoryId = record.memoryId → later.status.isWorking = false := by
  intro record member gone later laterMember same
  have governed : record.memoryId ∈ ((memoryService env).run first).governed := by
    cases first using List.reverseRecOn with
    | nil => simp [memoryService, ServiceState.start, Tables.empty] at member
    | append_singleton earlier op => exact mem_governed env earlier op member gone
  have stays := staysAway_run spared
  exact stays.away record.memoryId (governed_stable env record.memoryId first second governed) later
    laterMember same

/-- The memory is rejected. -/
def reflectedAndRejected : List Op :=
  projectReflected ++ [.reject (fun _ => true) 4 1 "duplicate" 4]

/-- A rejected memory whose session is cleared keeps no source and stays out of use. -/
theorem rejected_stays_away_after_clear : (memoryService sampleEnvironment).Respects SparesGovernedAway
      (reflectedAndRejected ++ [.clearSession 1 5]) ∧
    ∀ record ∈ ((memoryService sampleEnvironment).run reflectedAndRejected).tables.records,
      record.status.isGovernedAway = true → ∀ later ∈ ((memoryService sampleEnvironment).run
          (reflectedAndRejected ++ [.clearSession 1 5])).tables.records,
        later.memoryId = record.memoryId → later.status.isWorking = false :=
  have spared : (memoryService sampleEnvironment).Respects SparesGovernedAway
      (reflectedAndRejected ++ [.clearSession 1 5]) :=
    Machine.RespectsFrom.respects (by decide)
  ⟨spared, governed_away_stays_away sampleEnvironment reflectedAndRejected [.clearSession 1 5] spared⟩

/-- Editing one of the two source messages of a rejected memory sends it back to `needs_rebuild`. -/
theorem rejected_memory_rebuilt_after_edit :
    ¬ ∀ record ∈ ((memoryService sampleEnvironment).run reflectedAndRejected).tables.records,
      record.status.isGovernedAway = true → ∀ later ∈ ((memoryService sampleEnvironment).run
          (reflectedAndRejected ++ [.editMessage 1 2 "message_edited" 5])).tables.records,
        later.memoryId = record.memoryId → later.status.isWorking = false := by
  decide

end HardwareDatabase.Memory
