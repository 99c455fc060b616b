/-
Module: HardwareDatabase.Proofs.ExportFiles
Purpose: What the processes of the export storage know about files (`Sound`), and that every step keeps it.
Trusted boundary: none
-/
import HardwareDatabase.Proofs.ExportPairing
import HardwareDatabase.ResultExports.Files

namespace HardwareDatabase.ResultExports

open Relational

/-! ### Who knows which file -/

/-- A row refers to a file. -/
def JobTables.Refers (tables : JobTables) (ref : StorageRef) : Prop :=
  ∃ row ∈ tables.artifacts, row.storageRef = some ref

/-- A row whose file is stored has it there, unless a cleanup has listed it. -/
structure ArtifactRow.Sound (row : ArtifactRow) (nextId : Nat) (files : List StorageRef)
    (cleanups : List Cleanup) : Prop where
  drawn : row.artifactId < nextId
  named : ∀ ref, row.storageRef = some ref → ref.artifactId = row.artifactId
  present : ∀ ref, row.storageRef = some ref →
    ref ∈ files ∨ ∃ cleanup ∈ cleanups, ref ∈ cleanup.listing

/-- The file of a publication is written, and nobody else knows it. -/
structure Publishing.Sound (publishing : Publishing) (tables : JobTables) (files : List StorageRef)
    (sweeps : List Sweep) (cleanups : List Cleanup) : Prop where
  drawn : publishing.ref.artifactId < tables.nextId
  written : publishing.ref ∈ files
  extension : publishing.ref.extension = publishing.call.extension
  rows : ∀ row ∈ tables.artifacts, row.artifactId ≠ publishing.ref.artifactId
  swept : ∀ sweep ∈ sweeps, publishing.ref ∉ sweep.todo
  listed : ∀ cleanup ∈ cleanups, publishing.ref ∉ cleanup.listing

/-- The files of a sweep are not referenced any more. -/
structure Sweep.Sound (sweep : Sweep) (tables : JobTables) (nextProcess : Nat) : Prop where
  drawn : ∀ ref ∈ sweep.todo, ref.artifactId < tables.nextId
  unreferenced : ∀ ref ∈ sweep.todo, ¬ tables.Refers ref
  numbered : sweep.sweepId < nextProcess

/-- The files of a cleanup belong to its session, and are either still to unlink or gone. -/
structure Cleanup.Sound (cleanup : Cleanup) (tables : JobTables) (files : List StorageRef)
    (nextProcess : Nat) : Prop where
  drawn : ∀ ref ∈ cleanup.listing, ref.artifactId < tables.nextId
  todo : ∀ ref ∈ cleanup.todo, ref ∈ cleanup.listing
  unlinked : ∀ ref ∈ cleanup.listing, ref ∈ cleanup.todo ∨ ref ∉ files
  own : ∀ ref ∈ cleanup.listing, ∀ row ∈ tables.artifacts, row.storageRef = some ref →
    row.sessionId = cleanup.sessionId
  unlisted : cleanup.listed = false → cleanup.listing = []
  numbered : cleanup.cleanupId < nextProcess

/-- Nothing of a session is left in the tables. -/
structure JobTables.Gone (tables : JobTables) (sessionId : String) : Prop where
  snapshots : ∀ snapshot ∈ tables.snapshots, snapshot.sessionId ≠ sessionId
  jobs : ∀ job ∈ tables.jobs, job.sessionId ≠ sessionId
  artifacts : ∀ row ∈ tables.artifacts, row.sessionId ≠ sessionId

/-- The tables, the files and the processes agree. -/
structure Sound (state : StorageState) : Prop where
  paired : Paired state.tables
  artifactIds : UniqueOn ArtifactRow.artifactId state.tables.artifacts
  rows : ∀ row ∈ state.tables.artifacts, row.Sound state.tables.nextId state.files state.cleanups
  publishingIds : UniqueOn (fun publishing => publishing.ref.artifactId) state.publishing
  publishing : ∀ publishing ∈ state.publishing, publishing.Sound state.tables state.files state.sweeps state.cleanups
  sweepIds : UniqueOn Sweep.sweepId state.sweeps
  sweeps : ∀ sweep ∈ state.sweeps, sweep.Sound state.tables state.nextProcess
  cleanupIds : UniqueOn Cleanup.cleanupId state.cleanups
  cleanups : ∀ cleanup ∈ state.cleanups, cleanup.Sound state.tables state.files state.nextProcess
  gone : ∀ sessionId ∈ state.returned, state.tables.Gone sessionId

variable {settings : Settings} {snapshots : List SnapshotRow} {state : StorageState}

/-! ### Steps that keep the files -/

theorem Sound.withStore {store : ExportState} (sound : Sound state) (paired : Paired store.tables)
    (artifacts : store.tables.artifacts = state.tables.artifacts) (drawn : state.tables.nextId ≤ store.tables.nextId)
    (gone : ∀ sessionId ∈ state.returned, store.tables.Gone sessionId) :
    Sound { state with store } where
  paired := paired
  artifactIds := by simpa only [StorageState.tables, artifacts] using sound.artifactIds
  rows := by
    intro row member
    have old := sound.rows row (by simpa only [StorageState.tables, artifacts] using member)
    exact ⟨Nat.lt_of_lt_of_le old.drawn drawn, old.named, old.present⟩
  publishingIds := sound.publishingIds
  publishing := by
    intro publishing member
    have old := sound.publishing publishing member
    refine ⟨Nat.lt_of_lt_of_le old.drawn drawn, old.written, old.extension, ?_, old.swept, old.listed⟩
    simpa only [StorageState.tables, artifacts] using old.rows
  sweepIds := sound.sweepIds
  sweeps := by
    intro sweep member
    have old := sound.sweeps sweep member
    refine ⟨fun ref listed => Nat.lt_of_lt_of_le (old.drawn ref listed) drawn, ?_, old.numbered⟩
    simpa only [StorageState.tables, JobTables.Refers, artifacts] using old.unreferenced
  cleanupIds := sound.cleanupIds
  cleanups := by
    intro cleanup member
    have old := sound.cleanups cleanup member
    refine ⟨fun ref listed => Nat.lt_of_lt_of_le (old.drawn ref listed) drawn, old.todo, old.unlinked, ?_,
      old.unlisted, old.numbered⟩
    simpa only [StorageState.tables, artifacts] using old.own
  gone := gone

variable {op : ExportOp}

theorem attempt_keepsFiles {state : ExportState} {after : JobTables}
    (keeps : op.keepsFiles = true) (done : state.attempt settings op = .ok after) :
    after.artifacts = state.tables.artifacts ∧ after.snapshots = state.tables.snapshots := by
  cases op <;> simp only [ExportState.attempt] at done
  case create call lag =>
      rcases create_spec done with rfl | ⟨job, row, -, -, -, -, -, rfl⟩
      · exact ⟨rfl, rfl⟩
      · exact ⟨rfl, rfl⟩
  case claim jobId workerId leaseSeconds lag =>
      obtain ⟨⟨tables, answer⟩, accepted, rfl⟩ := exists_of_map_eq_ok done
      rcases claim_spec accepted with ⟨-, rfl⟩ | ⟨job, -, -, ⟨-, -, rfl⟩ | ⟨-, -, -, rfl⟩⟩
      · exact ⟨rfl, rfl⟩
      · exact ⟨rfl, rfl⟩
      · exact ⟨rfl, rfl⟩
  case heartbeat jobId workerId leaseToken leaseSeconds lag =>
      unfold heartbeat at done
      split at done
      · cases done
        exact ⟨rfl, rfl⟩
      · cases done
  case fail call lag =>
      obtain ⟨job, -, -, -, write, mirror, rfl, -⟩ := fail_spec done
      exact ⟨rfl, rfl⟩
  case cancel ownerUserId jobId reason lag =>
      cases done
      rcases cancel_spec state.tables ownerUserId jobId reason (state.now lag) with
        same | ⟨job, -, -, -, write, mirror, same, -⟩
      · rw [same]
        exact ⟨rfl, rfl⟩
      · rw [same]
        exact ⟨rfl, rfl⟩
  case retry ownerUserId jobId lag =>
      cases done
      rcases retry_spec state.tables ownerUserId jobId (state.now lag) with
        same | ⟨job, -, -, -, write, mirror, same, -⟩
      · rw [same]
        exact ⟨rfl, rfl⟩
      · rw [same]
        exact ⟨rfl, rfl⟩
  case tick elapsed =>
      cases done
      exact ⟨rfl, rfl⟩
  all_goals cases keeps

theorem JobMove.sessionId {state : ExportState} {job new : JobRow}
    (move : JobMove settings state op job new) : new.sessionId = job.sessionId := by
  cases move with
  | failed _ _ ids => exact ids.2.1
  | cancelled _ ids => exact ids.2.1
  | retried _ ids => exact ids.2.1
  | _ => rfl

theorem call_keeps (settings : Settings) {state : ExportState} (paired : Paired state.tables)
    (keeps : op.keepsFiles = true) : (state.step settings op).tables.artifacts = state.tables.artifacts ∧
      state.tables.nextId ≤ (state.step settings op).tables.nextId ∧
      ∀ sessionId, state.tables.Gone sessionId → (state.step settings op).tables.Gone sessionId := by
  cases outcome : state.attempt settings op with
  | error =>
    have same : (state.step settings op).tables = state.tables := by
      simp only [ExportState.step, outcome]
    rw [same]
    exact ⟨rfl, Nat.le_refl _, fun _ gone => gone⟩
  | ok =>
    simp only [ExportState.step, outcome]
    obtain ⟨artifacts, sameSnapshots⟩ := attempt_keepsFiles keeps outcome
    obtain ⟨move, keep, created, moves, jobs, fresh, drawn⟩ := attempt_moves paired.jobIds outcome
    refine ⟨artifacts, drawn, fun sessionId gone => ⟨?_, ?_, ?_⟩⟩
    · rw [sameSnapshots]
      exact gone.snapshots
    · intro job member
      rw [jobs] at member
      rcases List.mem_append.mp member with old | new
      · obtain ⟨original, originalMember, rfl⟩ := List.mem_map.mp (List.mem_filter.mp old).1
        rw [(moves original originalMember).sessionId]
        exact gone.jobs original originalMember
      · obtain ⟨snapshot, snapshotMember, same⟩ := (fresh job new).source
        rw [← same]
        exact gone.snapshots snapshot snapshotMember
    · rw [artifacts]
      exact gone.artifacts

section

variable (sound : Sound state)
include sound

theorem sound_call (op : {op : ExportOp // op.keepsFiles = true}) :
    Sound { state with store := state.store.step settings op.1 } := by
  obtain ⟨artifacts, drawn, stays⟩ := call_keeps settings sound.paired op.2
  exact sound.withStore (step_paired sound.paired op.1) artifacts drawn fun sessionId member =>
    stays sessionId (sound.gone sessionId member)

/-! ### Publications -/

theorem sound_write (call : PublishCall) : Sound (state.write settings call) := by
  unfold StorageState.write
  split
  · exact sound
  · have drawn : ∀ {id}, id < state.tables.nextId → id < state.tables.nextId + 1 := Nat.lt_succ_of_lt
    -- the fresh name is not that of anything that is already known
    have foreign : ∀ {ref : StorageRef}, ref.artifactId < state.tables.nextId →
        ref ≠ { artifactId := state.tables.nextId, extension := call.extension } := by
      rintro ref below rfl
      exact Nat.lt_irrefl _ below
    constructor
    case paired => exact sound.paired.draw (Nat.le_succ _)
    case artifactIds => exact sound.artifactIds
    case rows =>
      intro row member
      have old := sound.rows row member
      refine ⟨drawn old.drawn, old.named, fun ref stored => ?_⟩
      exact (old.present ref stored).imp_left (List.mem_append_left _)
    case publishingIds =>
      apply sound.publishingIds.append
      intro other member
      exact Nat.ne_of_lt (sound.publishing other member).drawn
    case publishing =>
      intro publishing member
      rcases List.mem_append.mp member with earlier | new
      · have old := sound.publishing publishing earlier
        exact ⟨drawn old.drawn, List.mem_append_left _ old.written, old.extension, old.rows, old.swept, old.listed⟩
      · rw [List.mem_singleton.mp new]
        refine ⟨Nat.lt_succ_self _, List.mem_append_right _ (List.mem_singleton.mpr rfl), rfl, ?_, ?_, ?_⟩
        · exact fun row rowMember => Nat.ne_of_lt (sound.rows row rowMember).drawn
        · exact fun sweep sweepMember listed =>
            foreign ((sound.sweeps sweep sweepMember).drawn _ listed) rfl
        · exact fun cleanup cleanupMember listed =>
            foreign ((sound.cleanups cleanup cleanupMember).drawn _ listed) rfl
    case sweepIds => exact sound.sweepIds
    case sweeps =>
      intro sweep member
      have old := sound.sweeps sweep member
      exact ⟨fun ref listed => drawn (old.drawn ref listed), old.unreferenced, old.numbered⟩
    case cleanupIds => exact sound.cleanupIds
    case cleanups =>
      intro cleanup member
      have old := sound.cleanups cleanup member
      refine ⟨fun ref listed => drawn (old.drawn ref listed), old.todo, ?_, old.own, old.unlisted, old.numbered⟩
      intro ref listed
      refine (old.unlinked ref listed).imp_right fun missing present => ?_
      rcases List.mem_append.mp present with earlier | new
      · exact missing earlier
      · exact foreign (old.drawn ref listed) (List.mem_singleton.mp new)
    case gone =>
      intro sessionId member
      have old := sound.gone sessionId member
      exact ⟨old.snapshots, old.jobs, old.artifacts⟩

/-- A file is unlinked that no publication waits for and that a row refers to only when a cleanup has listed
it. -/
theorem sound_unlink {ref : StorageRef} (idle : ∀ publishing ∈ state.publishing, publishing.ref ≠ ref)
    (covered : state.tables.Refers ref → ∃ cleanup ∈ state.cleanups, ref ∈ cleanup.listing) :
    Sound (state.unlink ref) where
  paired := sound.paired
  artifactIds := sound.artifactIds
  rows := by
    intro row member
    have old := sound.rows row member
    refine ⟨old.drawn, old.named, fun other stored => ?_⟩
    rcases old.present other stored with present | listed
    · by_cases same : other = ref
      · rw [same] at stored ⊢
        exact .inr (covered ⟨row, member, stored⟩)
      · exact .inl (mem_deleteWhere.mpr ⟨present, by simpa using same⟩)
    · exact .inr listed
  publishingIds := sound.publishingIds
  publishing := by
    intro publishing member
    have old := sound.publishing publishing member
    exact ⟨old.drawn, mem_deleteWhere.mpr ⟨old.written, by simpa using idle publishing member⟩,
      old.extension, old.rows, old.swept, old.listed⟩
  sweepIds := sound.sweepIds
  sweeps := sound.sweeps
  cleanupIds := sound.cleanupIds
  cleanups := by
    intro cleanup member
    have old := sound.cleanups cleanup member
    refine ⟨old.drawn, old.todo, fun other listed => ?_, old.own, old.unlisted, old.numbered⟩
    exact (old.unlinked other listed).imp_right fun missing present =>
      missing (mem_of_mem_deleteWhere present)
  gone := sound.gone

theorem sound_withPublishing {publishing : List Publishing}
    (unique : UniqueOn (fun publishing => publishing.ref.artifactId) publishing)
    (origin : ∀ later ∈ publishing, ∃ earlier ∈ state.publishing, later.ref = earlier.ref ∧ later.call = earlier.call) :
    Sound { state with publishing } where
  paired := sound.paired
  artifactIds := sound.artifactIds
  rows := sound.rows
  publishingIds := unique
  publishing := by
    intro later member
    obtain ⟨earlier, earlierMember, sameRef, sameCall⟩ := origin later member
    have old := sound.publishing earlier earlierMember
    refine ⟨?_, ?_, ?_, ?_, ?_, ?_⟩
    · exact sameRef ▸ old.drawn
    · exact sameRef ▸ old.written
    · rw [sameRef, sameCall]
      exact old.extension
    · rw [sameRef]
      exact old.rows
    · rw [sameRef]
      exact old.swept
    · rw [sameRef]
      exact old.listed
  sweepIds := sound.sweepIds
  sweeps := sound.sweeps
  cleanupIds := sound.cleanupIds
  cleanups := sound.cleanups
  gone := sound.gone

theorem sound_dropPublishing (artifactId : Nat) : Sound (state.dropPublishing artifactId) :=
  sound_withPublishing sound sound.publishingIds.deleteWhere fun later member =>
    ⟨later, mem_of_mem_deleteWhere member, rfl, rfl⟩

theorem sound_refusePublishing (artifactId : Nat) : Sound (state.refusePublishing artifactId) := by
  refine sound_withPublishing sound (sound.publishingIds.updateWhere fun _ => rfl) ?_
  intro later member
  obtain ⟨earlier, earlierMember, rfl⟩ := exists_of_mem_updateWhere member
  refine ⟨earlier, earlierMember, ?_⟩
  split
  · exact ⟨rfl, rfl⟩
  · exact ⟨rfl, rfl⟩

end

theorem publishing?_spec {artifactId : Nat} {refused : Bool} {publishing : Publishing}
    (found : state.publishing? artifactId refused = some publishing) :
    publishing ∈ state.publishing ∧ publishing.ref.artifactId = artifactId := by
  unfold StorageState.publishing? at found
  have named := List.find?_some found
  simp only [Bool.and_eq_true, beq_iff_eq] at named
  exact ⟨List.mem_of_find?_eq_some found, named.1⟩

theorem sound_discard (sound : Sound state) (artifactId : Nat) : Sound (state.discard artifactId) := by
  unfold StorageState.discard
  split
  · exact sound
  · rename_i publishing found
    obtain ⟨member, rfl⟩ := publishing?_spec found
    have old := sound.publishing publishing member
    apply sound_unlink (sound_dropPublishing sound _)
    · intro other otherMember same
      have apart := (mem_deleteWhere.mp otherMember).2
      simp [same] at apart
    · rintro ⟨row, rowMember, stored⟩
      exact absurd ((sound.rows row rowMember).named _ stored).symm (old.rows row rowMember)

theorem sound_publish {publishing : Publishing} {after : JobTables} {now : Nat} (sound : Sound state)
    (member : publishing ∈ state.publishing)
    (done : publishArtifact settings state.tables publishing.call publishing.ref.artifactId now = .ok after) :
    Sound ((state.dropPublishing publishing.ref.artifactId).withTables after) := by
  have paired := publishArtifact_paired sound.paired done
  have old := sound.publishing publishing member
  obtain ⟨job, jobMember, named, -, rfl⟩ := publishArtifact_spec done
  -- the new row refers to the file of the publication
  have stored : ∀ ref, (publishing.call.artifact settings job publishing.ref.artifactId now).storageRef =
      some ref → ref = publishing.ref := by
    intro ref same
    simp only [PublishCall.artifact, Option.some.injEq] at same
    rw [← same, ← old.extension]
  constructor
  case paired => exact paired
  case artifactIds =>
    apply sound.artifactIds.append
    exact old.rows
  case rows =>
    intro row rowMember
    rcases List.mem_append.mp rowMember with earlier | new
    · exact ⟨(sound.rows row earlier).drawn, (sound.rows row earlier).named, (sound.rows row earlier).present⟩
    · rw [List.mem_singleton.mp new]
      refine ⟨old.drawn, fun ref same => ?_, fun ref same => ?_⟩
      · rw [stored ref same]
        rfl
      · rw [stored ref same]
        exact .inl old.written
  case publishingIds => exact sound.publishingIds.deleteWhere
  case publishing =>
    intro other otherMember
    obtain ⟨earlier, apart⟩ := mem_deleteWhere.mp otherMember
    have known := sound.publishing other earlier
    refine ⟨known.drawn, known.written, known.extension, ?_, known.swept, known.listed⟩
    intro row rowMember
    rcases List.mem_append.mp rowMember with present | new
    · exact known.rows row present
    · rw [List.mem_singleton.mp new]
      exact (beq_eq_false_iff_ne.mp apart).symm
  case sweepIds => exact sound.sweepIds
  case sweeps =>
    intro sweep sweepMember
    have known := sound.sweeps sweep sweepMember
    refine ⟨known.drawn, ?_, known.numbered⟩
    rintro ref listed ⟨row, rowMember, same⟩
    rcases List.mem_append.mp rowMember with present | new
    · exact known.unreferenced ref listed ⟨row, present, same⟩
    · rw [List.mem_singleton.mp new] at same
      exact old.swept sweep sweepMember (stored ref same ▸ listed)
  case cleanupIds => exact sound.cleanupIds
  case cleanups =>
    intro cleanup cleanupMember
    have known := sound.cleanups cleanup cleanupMember
    refine ⟨known.drawn, known.todo, known.unlinked, ?_, known.unlisted, known.numbered⟩
    intro ref listed row rowMember same
    rcases List.mem_append.mp rowMember with present | new
    · exact known.own ref listed row present same
    · rw [List.mem_singleton.mp new] at same
      exact absurd (stored ref same ▸ listed) (old.listed cleanup cleanupMember)
  case gone =>
    intro sessionId sessionMember
    have known := sound.gone sessionId sessionMember
    refine ⟨known.snapshots, ?_, ?_⟩
    · intro other otherMember
      rcases mem_updateWhere.mp otherMember with ⟨row, rowMember, -, rfl⟩ | ⟨rowMember, -⟩
      · exact known.jobs row rowMember
      · exact known.jobs other rowMember
    · intro row rowMember
      rcases List.mem_append.mp rowMember with present | new
      · exact known.artifacts row present
      · rw [List.mem_singleton.mp new]
        exact known.jobs job jobMember

theorem sound_commit (sound : Sound state) (artifactId lag : Nat) : Sound (state.commit settings artifactId lag) := by
  unfold StorageState.commit
  split
  · exact sound
  · rename_i publishing found
    obtain ⟨member, rfl⟩ := publishing?_spec found
    split
    · rename_i after done
      exact sound_publish sound member done
    · exact sound_refusePublishing sound _

/-! ### Sweeps -/

variable {limit : Int} {current : Nat} {tables : JobTables}

theorem mem_expired {row : ArtifactRow} (member : row ∈ tables.expired current limit) : row ∈ tables.artifacts := by
  have sorted := List.mem_of_mem_take member
  exact (List.mem_filter.mp (List.mem_mergeSort.mp sorted)).1

theorem mem_expireArtifacts {row : ArtifactRow} (member : row ∈ (expireArtifacts tables current limit).1.artifacts) :
    (∃ old ∈ tables.artifacts, row.artifactId = old.artifactId ∧ row.sessionId = old.sessionId ∧
        row.storageRef = none) ∨ (row ∈ tables.artifacts ∧ ∀ other ∈ tables.expired current limit,
        other.artifactId ≠ row.artifactId) := by
  rcases mem_updateWhere.mp member with ⟨old, oldMember, -, rfl⟩ | ⟨rowMember, skipped⟩
  · exact .inl ⟨old, oldMember, rfl, rfl, rfl⟩
  · refine .inr ⟨rowMember, fun other selected same => ?_⟩
    have chosen := List.any_eq_false.mp skipped other selected
    exact chosen (beq_iff_eq.mpr same)

variable {ref : StorageRef}

theorem mem_expireArtifacts_refs (member : ref ∈ (expireArtifacts tables current limit).2) :
    ∃ row ∈ tables.expired current limit, row ∈ tables.artifacts ∧ row.storageRef = some ref := by
  obtain ⟨row, selected, stored⟩ := List.mem_filterMap.mp member
  exact ⟨row, selected, mem_expired selected, stored⟩

theorem sound_expire (sound : Sound state) (current : Nat) (limit : Int) : Sound (state.expire current limit) := by
  have refs : ∀ ref ∈ (expireArtifacts state.tables current limit).2, ∃ row ∈ state.tables.artifacts,
      row.artifactId = ref.artifactId := by
    intro ref taken
    obtain ⟨row, -, member, stored⟩ := mem_expireArtifacts_refs taken
    exact ⟨row, member, ((sound.rows row member).named ref stored).symm⟩
  constructor
  case paired => exact expireArtifacts_paired sound.paired current limit
  case artifactIds => exact sound.artifactIds.updateWhere fun _ => rfl
  case rows =>
    intro row member
    rcases mem_expireArtifacts member with ⟨old, oldMember, same, -, cleared⟩ | ⟨old, -⟩
    · refine ⟨same ▸ (sound.rows old oldMember).drawn, ?_, ?_⟩
      · simp [cleared]
      · simp [cleared]
    · exact sound.rows row old
  case publishingIds => exact sound.publishingIds
  case publishing =>
    intro publishing member
    have known := sound.publishing publishing member
    refine ⟨known.drawn, known.written, known.extension, ?_, ?_, known.listed⟩
    · intro row rowMember
      rcases mem_expireArtifacts rowMember with ⟨old, oldMember, same, -, -⟩ | ⟨old, -⟩
      · exact same ▸ known.rows old oldMember
      · exact known.rows row old
    · intro sweep sweepMember taken
      rcases List.mem_append.mp sweepMember with earlier | new
      · exact known.swept sweep earlier taken
      · rw [List.mem_singleton.mp new] at taken
        obtain ⟨row, rowMember, same⟩ := refs _ taken
        exact known.rows row rowMember same
  case sweepIds =>
    apply sound.sweepIds.append
    exact fun other member => Nat.ne_of_lt (sound.sweeps other member).numbered
  case sweeps =>
    intro sweep member
    rcases List.mem_append.mp member with earlier | new
    · have known := sound.sweeps sweep earlier
      refine ⟨known.drawn, ?_, Nat.lt_succ_of_lt known.numbered⟩
      rintro ref taken ⟨row, rowMember, stored⟩
      rcases mem_expireArtifacts rowMember with ⟨-, -, -, -, cleared⟩ | ⟨old, -⟩
      · simp [cleared] at stored
      · exact known.unreferenced ref taken ⟨row, old, stored⟩
    · rw [List.mem_singleton.mp new]
      refine ⟨?_, ?_, Nat.lt_succ_self _⟩
      · intro ref taken
        obtain ⟨row, rowMember, same⟩ := refs ref taken
        exact same ▸ (sound.rows row rowMember).drawn
      · rintro ref taken ⟨row, rowMember, stored⟩
        obtain ⟨taker, selected, takerMember, takes⟩ := mem_expireArtifacts_refs taken
        rcases mem_expireArtifacts rowMember with ⟨-, -, -, -, cleared⟩ | ⟨old, skipped⟩
        · simp [cleared] at stored
        · -- the file belongs to one identifier, which the sweep has selected
          exact skipped taker selected (((sound.rows taker takerMember).named ref takes).symm.trans
            ((sound.rows row old).named ref stored))
  case cleanupIds => exact sound.cleanupIds
  case cleanups =>
    intro cleanup member
    have known := sound.cleanups cleanup member
    refine ⟨known.drawn, known.todo, known.unlinked, ?_, known.unlisted, Nat.lt_succ_of_lt known.numbered⟩
    intro ref listed row rowMember stored
    rcases mem_expireArtifacts rowMember with ⟨-, -, -, -, cleared⟩ | ⟨old, -⟩
    · simp [cleared] at stored
    · exact known.own ref listed row old stored
  case gone =>
    intro sessionId member
    have known := sound.gone sessionId member
    refine ⟨known.snapshots, known.jobs, ?_⟩
    intro row rowMember
    rcases mem_expireArtifacts rowMember with ⟨old, oldMember, -, same, -⟩ | ⟨old, -⟩
    · exact same ▸ known.artifacts old oldMember
    · exact known.artifacts row old

theorem sound_withSweeps {sweeps : List Sweep} (sound : Sound state) (unique : UniqueOn Sweep.sweepId sweeps)
    (origin : ∀ later ∈ sweeps, ∃ earlier ∈ state.sweeps, later.sweepId = earlier.sweepId ∧
      ∀ ref ∈ later.todo, ref ∈ earlier.todo) :
    Sound { state with sweeps } where
  paired := sound.paired
  artifactIds := sound.artifactIds
  rows := sound.rows
  publishingIds := sound.publishingIds
  publishing := by
    intro publishing member
    have known := sound.publishing publishing member
    refine ⟨known.drawn, known.written, known.extension, known.rows, ?_, known.listed⟩
    intro later laterMember taken
    obtain ⟨earlier, earlierMember, -, fewer⟩ := origin later laterMember
    exact known.swept earlier earlierMember (fewer _ taken)
  sweepIds := unique
  sweeps := by
    intro later member
    obtain ⟨earlier, earlierMember, same, fewer⟩ := origin later member
    have known := sound.sweeps earlier earlierMember
    exact ⟨fun ref taken => known.drawn ref (fewer ref taken),
      fun ref taken => known.unreferenced ref (fewer ref taken), same ▸ known.numbered⟩
  cleanupIds := sound.cleanupIds
  cleanups := sound.cleanups
  gone := sound.gone

theorem sound_unlinkExpired (sound : Sound state) (sweepId : Nat) : Sound (state.unlinkExpired sweepId) := by
  unfold StorageState.unlinkExpired
  split
  · exact sound
  · rename_i sweep found
    have member := List.mem_of_find?_eq_some found
    have named : sweep.sweepId = sweepId := by simpa using List.find?_some found
    split
    · exact sound_withSweeps sound sound.sweepIds.deleteWhere fun later laterMember =>
        ⟨later, mem_of_mem_deleteWhere laterMember, rfl, fun _ taken => taken⟩
    · rename_i ref rest todo
      have head : ref ∈ sweep.todo := by simp [todo]
      have unlinked : Sound (state.unlink ref) := by
        apply sound_unlink sound
        · rintro publishing publishingMember rfl
          exact (sound.publishing publishing publishingMember).swept sweep member head
        · exact fun referred => absurd referred ((sound.sweeps sweep member).unreferenced ref head)
      refine sound_withSweeps unlinked (sound.sweepIds.updateWhere fun _ => rfl) ?_
      intro later laterMember
      rcases mem_updateWhere.mp laterMember with ⟨earlier, earlierMember, same, rfl⟩ | ⟨earlier, -⟩
      · obtain rfl : earlier = sweep :=
          sound.sweepIds.eq_of_key earlierMember member ((beq_iff_eq.mp same).trans named.symm)
        exact ⟨earlier, earlierMember, rfl, fun other taken => by rw [todo]; exact .tail _ taken⟩
      · exact ⟨later, earlier, rfl, fun _ taken => taken⟩

/-! ### Cleanups -/

theorem cancelSession_gone {sessionId : String} (gone : tables.Gone sessionId)
    (other : String) (now : Nat) : (ResultExports.cancelSession tables other now).Gone sessionId := by
  refine ⟨gone.snapshots, ?_, gone.artifacts⟩
  intro job member
  rcases mem_updateWhere.mp member with ⟨old, oldMember, -, rfl⟩ | ⟨old, -⟩
  · exact gone.jobs old oldMember
  · exact gone.jobs job old

theorem sound_cancelSession (sound : Sound state) (sessionId : String) (lag : Nat) :
    Sound (state.cancelSession sessionId lag) := by
  have cancelled : Sound (state.withTables
      (ResultExports.cancelSession state.tables sessionId (state.store.now lag))) := by
    refine sound.withStore (cancelSession_paired sound.paired sessionId _) rfl (Nat.le_refl _) ?_
    exact fun other member => cancelSession_gone (sound.gone other member) sessionId _
  constructor
  case paired => exact cancelled.paired
  case artifactIds => exact cancelled.artifactIds
  case rows =>
    intro row member
    have known := cancelled.rows row member
    refine ⟨known.drawn, known.named, fun ref stored => (known.present ref stored).imp_right ?_⟩
    rintro ⟨cleanup, cleanupMember, listed⟩
    exact ⟨cleanup, List.mem_append_left _ cleanupMember, listed⟩
  case publishingIds => exact cancelled.publishingIds
  case publishing =>
    intro publishing member
    have known := cancelled.publishing publishing member
    refine ⟨known.drawn, known.written, known.extension, known.rows, known.swept, ?_⟩
    intro cleanup cleanupMember listed
    rcases List.mem_append.mp cleanupMember with earlier | new
    · exact known.listed cleanup earlier listed
    · rw [List.mem_singleton.mp new] at listed
      cases listed
  case sweepIds => exact cancelled.sweepIds
  case sweeps =>
    intro sweep member
    have known := cancelled.sweeps sweep member
    exact ⟨known.drawn, known.unreferenced, Nat.lt_succ_of_lt known.numbered⟩
  case cleanupIds =>
    apply sound.cleanupIds.append
    exact fun other member => Nat.ne_of_lt (sound.cleanups other member).numbered
  case cleanups =>
    intro cleanup member
    rcases List.mem_append.mp member with earlier | new
    · have known := cancelled.cleanups cleanup earlier
      exact ⟨known.drawn, known.todo, known.unlinked, known.own, known.unlisted, Nat.lt_succ_of_lt known.numbered⟩
    · rw [List.mem_singleton.mp new]
      exact ⟨by simp, by simp, by simp, by simp, fun _ => rfl, Nat.lt_succ_self _⟩
  case gone => exact cancelled.gone

theorem mem_sessionRefs {sessionId : String} : ref ∈ sessionRefs tables sessionId ↔
      ∃ row ∈ tables.artifacts, row.sessionId = sessionId ∧ row.storageRef = some ref := by
  simp only [sessionRefs, List.mem_filterMap, List.mem_filter, beq_iff_eq]
  constructor
  · rintro ⟨row, ⟨member, own⟩, stored⟩
    exact ⟨row, member, own, stored⟩
  · rintro ⟨row, member, own, stored⟩
    exact ⟨row, ⟨member, own⟩, stored⟩

theorem Sound.row_eq {left right : ArtifactRow} (sound : Sound state)
    (leftMember : left ∈ state.tables.artifacts) (rightMember : right ∈ state.tables.artifacts)
    (leftStored : left.storageRef = some ref) (rightStored : right.storageRef = some ref) : left = right :=
  sound.artifactIds.eq_of_key leftMember rightMember
    (((sound.rows left leftMember).named ref leftStored).symm.trans
      ((sound.rows right rightMember).named ref rightStored))

theorem cleanup?_spec {cleanupId : Nat} {cleanup : Cleanup} (found : state.cleanup? cleanupId = some cleanup) :
    cleanup ∈ state.cleanups ∧ cleanup.cleanupId = cleanupId := by
  unfold StorageState.cleanup? at found
  exact ⟨List.mem_of_find?_eq_some found, by simpa using List.find?_some found⟩

section

variable (sound : Sound state)
include sound

theorem sound_updateCleanup {cleanup : Cleanup} {write : Cleanup → Cleanup}
    (member : cleanup ∈ state.cleanups) (keeps : ∀ other, (write other).cleanupId = other.cleanupId)
    (grows : ∀ ref ∈ cleanup.listing, ref ∈ (write cleanup).listing)
    (quiet : ∀ publishing ∈ state.publishing, publishing.ref ∉ (write cleanup).listing)
    (known : (write cleanup).Sound state.tables state.files state.nextProcess) :
    Sound (state.updateCleanup cleanup.cleanupId write) := by
  have cleanupsAfter : ∀ later ∈ (state.updateCleanup cleanup.cleanupId write).cleanups,
      later = write cleanup ∨ later ∈ state.cleanups := by
    intro later laterMember
    rcases mem_updateWhere.mp laterMember with ⟨earlier, earlierMember, same, rfl⟩ | ⟨earlier, -⟩
    · rw [sound.cleanupIds.eq_of_key earlierMember member (beq_iff_eq.mp same)]
      exact .inl rfl
    · exact .inr earlier
  constructor
  case paired => exact sound.paired
  case artifactIds => exact sound.artifactIds
  case rows =>
    intro row rowMember
    have old := sound.rows row rowMember
    refine ⟨old.drawn, old.named, fun ref stored => (old.present ref stored).imp_right ?_⟩
    rintro ⟨other, otherMember, listed⟩
    refine ⟨_, mem_updateWhere_of_mem otherMember, ?_⟩
    split
    · rename_i same
      obtain rfl := sound.cleanupIds.eq_of_key otherMember member (beq_iff_eq.mp same)
      exact grows ref listed
    · exact listed
  case publishingIds => exact sound.publishingIds
  case publishing =>
    intro publishing publishingMember
    have old := sound.publishing publishing publishingMember
    refine ⟨old.drawn, old.written, old.extension, old.rows, old.swept, ?_⟩
    intro later laterMember
    rcases cleanupsAfter later laterMember with rfl | earlier
    · exact quiet publishing publishingMember
    · exact old.listed later earlier
  case sweepIds => exact sound.sweepIds
  case sweeps => exact sound.sweeps
  case cleanupIds => exact sound.cleanupIds.updateWhere keeps
  case cleanups =>
    intro later laterMember
    rcases cleanupsAfter later laterMember with rfl | earlier
    · exact known
    · exact sound.cleanups later earlier
  case gone => exact sound.gone

theorem sound_listFiles (cleanupId : Nat) : Sound (state.listFiles cleanupId) := by
  unfold StorageState.listFiles
  split
  · exact sound
  · rename_i cleanup found
    obtain ⟨member, rfl⟩ := cleanup?_spec found
    split
    · exact sound
    · rename_i unlisted
      have old := sound.cleanups cleanup member
      refine sound_updateCleanup sound member (fun _ => rfl) ?_ ?_ ?_
      · simp [old.unlisted (by simpa using unlisted)]
      · intro publishing publishingMember listed
        obtain ⟨row, rowMember, -, stored⟩ := mem_sessionRefs.mp listed
        exact (sound.publishing publishing publishingMember).rows row rowMember
          ((sound.rows row rowMember).named _ stored).symm
      · constructor
        case drawn =>
          intro ref listed
          obtain ⟨row, rowMember, -, stored⟩ := mem_sessionRefs.mp listed
          rw [(sound.rows row rowMember).named ref stored]
          exact (sound.rows row rowMember).drawn
        case todo => exact fun ref listed => listed
        case unlinked => exact fun ref listed => .inl listed
        case own =>
          intro ref listed row rowMember stored
          obtain ⟨other, otherMember, own, otherStored⟩ := mem_sessionRefs.mp listed
          rw [sound.row_eq rowMember otherMember stored otherStored]
          exact own
        case unlisted => simp
        case numbered => exact old.numbered

theorem sound_unlinkListed (cleanupId : Nat) : Sound (state.unlinkListed cleanupId) := by
  unfold StorageState.unlinkListed
  split
  · exact sound
  · rename_i cleanup found
    obtain ⟨member, rfl⟩ := cleanup?_spec found
    split
    · exact sound
    · rename_i ref rest todo
      have old := sound.cleanups cleanup member
      have listed : ref ∈ cleanup.listing := old.todo ref (by simp [todo])
      have unlinked : Sound (state.unlink ref) := by
        apply sound_unlink sound
        · rintro publishing publishingMember rfl
          exact (sound.publishing publishing publishingMember).listed cleanup member listed
        · exact fun _ => ⟨cleanup, member, listed⟩
      refine sound_updateCleanup unlinked member (fun _ => rfl) (fun _ earlier => earlier) ?_ ?_
      · exact fun publishing publishingMember =>
          (sound.publishing publishing publishingMember).listed cleanup member
      · refine ⟨old.drawn, fun other later => old.todo other (by rw [todo]; exact .tail _ later), ?_, old.own,
          old.unlisted, old.numbered⟩
        intro other otherListed
        by_cases same : other = ref
        · exact .inr fun present => by simpa [same] using (mem_deleteWhere.mp present).2
        · rcases old.unlinked other otherListed with later | missing
          · rw [todo] at later
            exact .inl ((List.mem_cons.mp later).resolve_left same)
          · exact .inr fun present => missing (mem_of_mem_deleteWhere present)

theorem sound_deleteSession (cleanupId : Nat) : Sound (state.deleteSession cleanupId) := by
  unfold StorageState.deleteSession
  split
  · exact sound
  · rename_i cleanup found
    obtain ⟨member, rfl⟩ := cleanup?_spec found
    split
    · rename_i ready
      have artifacts : ∀ row ∈ (ResultExports.deleteSession state.tables cleanup.sessionId).artifacts,
          row ∈ state.tables.artifacts ∧ row.sessionId ≠ cleanup.sessionId := fun row rowMember => by
        simpa using mem_deleteWhere.mp rowMember
      constructor
      case paired => exact deleteSession_paired sound.paired cleanup.sessionId
      case artifactIds => exact sound.artifactIds.deleteWhere
      case rows =>
        intro row rowMember
        obtain ⟨earlier, other⟩ := artifacts row rowMember
        have old := sound.rows row earlier
        refine ⟨old.drawn, old.named, fun ref stored => (old.present ref stored).imp_right ?_⟩
        rintro ⟨lister, listerMember, listed⟩
        refine ⟨lister, mem_deleteWhere.mpr ⟨listerMember, ?_⟩, listed⟩
        rw [beq_eq_false_iff_ne]
        intro same
        obtain rfl := sound.cleanupIds.eq_of_key listerMember member same
        exact other ((sound.cleanups lister listerMember).own ref listed row earlier stored)
      case publishingIds => exact sound.publishingIds
      case publishing =>
        intro publishing publishingMember
        have old := sound.publishing publishing publishingMember
        exact ⟨old.drawn, old.written, old.extension,
          fun row rowMember => old.rows row (artifacts row rowMember).1, old.swept,
          fun other otherMember => old.listed other (mem_of_mem_deleteWhere otherMember)⟩
      case sweepIds => exact sound.sweepIds
      case sweeps =>
        intro sweep sweepMember
        have old := sound.sweeps sweep sweepMember
        refine ⟨old.drawn, ?_, old.numbered⟩
        rintro ref taken ⟨row, rowMember, stored⟩
        exact old.unreferenced ref taken ⟨row, (artifacts row rowMember).1, stored⟩
      case cleanupIds => exact sound.cleanupIds.deleteWhere
      case cleanups =>
        intro other otherMember
        have old := sound.cleanups other (mem_of_mem_deleteWhere otherMember)
        exact ⟨old.drawn, old.todo, old.unlinked,
          fun ref listed row rowMember => old.own ref listed row (artifacts row rowMember).1, old.unlisted,
          old.numbered⟩
      case gone =>
        intro sessionId sessionMember
        rcases List.mem_append.mp sessionMember with earlier | new
        · have old := sound.gone sessionId earlier
          exact ⟨fun row rowMember => old.snapshots row (mem_of_mem_deleteWhere rowMember),
            fun row rowMember => old.jobs row (mem_of_mem_deleteWhere rowMember),
            fun row rowMember => old.artifacts row (mem_of_mem_deleteWhere rowMember)⟩
        · rw [List.mem_singleton.mp new]
          refine ⟨?_, ?_, fun row rowMember => (artifacts row rowMember).2⟩
          · exact fun row rowMember => by simpa using (mem_deleteWhere.mp rowMember).2
          · exact fun row rowMember => by simpa using (mem_deleteWhere.mp rowMember).2
    · exact sound

theorem sound_step (op : StorageOp) : Sound (state.step settings op) := by
  cases op with
  | call op => exact sound_call sound op
  | write call => exact sound_write sound call
  | commit artifactId lag => exact sound_commit sound artifactId lag
  | discard artifactId => exact sound_discard sound artifactId
  | expire current limit => exact sound_expire sound current limit
  | unlinkExpired sweepId => exact sound_unlinkExpired sound sweepId
  | cancelSession sessionId lag => exact sound_cancelSession sound sessionId lag
  | listFiles cleanupId => exact sound_listFiles sound cleanupId
  | unlinkListed cleanupId => exact sound_unlinkListed sound cleanupId
  | deleteSession cleanupId => exact sound_deleteSession sound cleanupId

end

/-- Every file is accounted for in every reachable state. -/
theorem sound_run (settings : Settings) (snapshots : List SnapshotRow) (ops : List StorageOp) :
    Sound ((exportStorage settings snapshots).run ops) := by
  refine Machine.invariant Sound ?_ (fun _ op sound => sound_step sound op) ops
  constructor
  case paired => exact paired_run settings snapshots []
  all_goals simp [exportStorage, StorageState.tables, exportJobs]

/-- In every reachable state of the export storage, whatever publications, sweeps and cleanups are under way, the
file of a stored artifact is there unless a cleanup of the session of the artifact has listed it, no other row
refers to it, its job of the same session has succeeded with it; and the file of a publication that is not
committed yet is there, and no row refers to it. -/
theorem stored_artifacts_have_files (settings : Settings) (snapshots : List SnapshotRow) (ops : List StorageOp) :
    let state := (exportStorage settings snapshots).run ops
    (∀ row ∈ state.tables.artifacts, ∀ ref, row.storageRef = some ref →
      (ref ∈ state.files ∨ ∃ cleanup ∈ state.cleanups, cleanup.sessionId = row.sessionId ∧ ref ∈ cleanup.listing) ∧
      (∀ other ∈ state.tables.artifacts, other.storageRef = some ref → other = row) ∧
      ∃ job ∈ state.tables.jobs, job.exportJobId = row.exportJobId ∧ job.sessionId = row.sessionId ∧
        job.status = .succeeded ∧ job.artifactId = some row.artifactId) ∧
    ∀ publishing ∈ state.publishing, publishing.ref ∈ state.files ∧ ¬ state.tables.Refers publishing.ref := by
  intro state
  have sound : Sound state := sound_run settings snapshots ops
  constructor
  · intro row member ref stored
    refine ⟨((sound.rows row member).present ref stored).imp_right ?_, ?_, sound.paired.artifactJob row member⟩
    · rintro ⟨cleanup, running, listed⟩
      exact ⟨cleanup, running, ((sound.cleanups cleanup running).own ref listed row member stored).symm, listed⟩
    · exact fun other otherMember otherStored => sound.row_eq otherMember member otherStored stored
  · intro publishing member
    have own := sound.publishing publishing member
    refine ⟨own.written, ?_⟩
    rintro ⟨row, rowMember, stored⟩
    exact own.rows row rowMember ((sound.rows row rowMember).named _ stored).symm

end HardwareDatabase.ResultExports
