/-
Module: HardwareDatabase.Proofs.ExportCleanup
Purpose: What the deletion of a session leaves behind: for every file somebody answers, unless a job is retried and
  published between the listing and the deletion of the rows.
Trusted boundary: none
-/
import HardwareDatabase.Proofs.ExportPublishing
import HardwareDatabase.Proofs.ExportFiles

namespace HardwareDatabase.ResultExports

open Relational

/-! ### What is claimed of a run at rest -/

/-- Each file is referenced by a row of a session other than those that are deleted, and no row refers to a
missing file. -/
def StorageState.LeavesNothing (state : StorageState) : Prop :=
  ∀ sessionId ∈ state.returned,
    (∀ file ∈ state.files, ∃ row ∈ state.tables.artifacts,
      row.sessionId ≠ sessionId ∧ row.storageRef = some file) ∧
    ∀ row ∈ state.tables.artifacts, ∀ ref, row.storageRef = some ref → ref ∈ state.files

/-- The deleting transaction of a cleanup finds only files that it, or another cleanup in progress, has
listed. -/
def ListsEveryFile (state : StorageState) : StorageOp → Prop
  | .deleteSession cleanupId =>
    ∀ cleanup ∈ state.cleanups, cleanup.cleanupId = cleanupId → cleanup.ready = true →
      ∀ ref ∈ sessionRefs state.tables cleanup.sessionId, ∃ other ∈ state.cleanups, ref ∈ other.listing
  | _ => True

variable {settings : Settings} {snapshots : List SnapshotRow} {state : StorageState}

/-! ### Who answers for a file

Every file has a row, or a writer or a cleanup that has not come to its end. -/

/-- A row refers to the file, or a process in progress is going to unlink it or to refer to it. -/
inductive Accounted (state : StorageState) (file : StorageRef) : Prop
  | row (referred : state.tables.Refers file)
  | publishing {publishing : Publishing} (member : publishing ∈ state.publishing)
      (own : publishing.ref = file)
  | sweep {sweep : Sweep} (member : sweep ∈ state.sweeps) (taken : file ∈ sweep.todo)
  | cleanup {cleanup : Cleanup} (member : cleanup ∈ state.cleanups) (listed : file ∈ cleanup.todo)

private theorem accounted_iff {file : StorageRef} : Accounted state file ↔ state.tables.Refers file ∨
    (∃ publishing ∈ state.publishing, publishing.ref = file) ∨ (∃ sweep ∈ state.sweeps, file ∈ sweep.todo) ∨
      ∃ cleanup ∈ state.cleanups, file ∈ cleanup.todo := by
  constructor
  · intro accounted
    cases accounted with
    | row referred => exact .inl referred
    | publishing member own => exact .inr (.inl ⟨_, member, own⟩)
    | sweep member taken => exact .inr (.inr (.inl ⟨_, member, taken⟩))
    | cleanup member listed => exact .inr (.inr (.inr ⟨_, member, listed⟩))
  · rintro (referred | ⟨_, member, own⟩ | ⟨_, member, taken⟩ | ⟨_, member, listed⟩)
    · exact .row referred
    · exact .publishing member own
    · exact .sweep member taken
    · exact .cleanup member listed

/-- Files come and go with somebody who answers for them, and nobody else comes to know a file. -/
structure Tracks (state after : StorageState) : Prop where
  files : ∀ file ∈ after.files, file ∈ state.files ∨ Accounted after file
  kept : ∀ file ∈ state.files, file ∈ after.files ∨ Accounted state file
  known : ∀ file, Accounted after file → Accounted state file ∨ state.tables.nextId ≤ file.artifactId

/-- Whoever answers for a file that stays is followed by somebody who does. -/
def HandsOver (state after : StorageState) : Prop :=
  ∀ file ∈ after.files, Accounted state file → Accounted after file

private theorem tracks_of_iff {after : StorageState} (files : after.files = state.files)
    (same : ∀ file, Accounted after file ↔ Accounted state file) : Tracks state after ∧ HandsOver state after :=
  ⟨⟨fun _ member => .inl (files ▸ member), fun _ member => .inl (files ▸ member),
    fun file accounted => .inl ((same file).mp accounted)⟩, fun file _ accounted => (same file).mpr accounted⟩

private theorem tracks_refl (state : StorageState) : Tracks state state ∧ HandsOver state state :=
  tracks_of_iff rfl fun _ => Iff.rfl

private theorem tracks_unlink {after : StorageState} {ref : StorageRef}
    (files : after.files = deleteWhere (fun file => file == ref) state.files) (known : Accounted state ref)
    (same : ∀ file, file ≠ ref → (Accounted after file ↔ Accounted state file)) :
    Tracks state after ∧ HandsOver state after := by
  have left : ∀ file, file ∈ after.files ↔ file ∈ state.files ∧ file ≠ ref := by
    intro file
    rw [files, mem_deleteWhere, beq_eq_false_iff_ne]
  refine ⟨⟨fun file present => .inl ((left file).mp present).1, ?_, ?_⟩, ?_⟩
  · intro file present
    by_cases own : file = ref
    · exact .inr (own ▸ known)
    · exact .inl ((left file).mpr ⟨present, own⟩)
  · intro file accounted
    by_cases own : file = ref
    · exact .inl (own ▸ known)
    · exact .inl ((same file own).mp accounted)
  · intro file present accounted
    exact (same file ((left file).mp present).2).mpr accounted

private theorem tracks_call (sound : Sound state) (op : {op : ExportOp // op.keepsFiles = true}) :
    Tracks state { state with store := state.store.step settings op.1 } ∧
      HandsOver state { state with store := state.store.step settings op.1 } := by
  have artifacts := (call_keeps settings sound.paired op.2).1
  have refers : ∀ file, (state.store.step settings op.1).tables.Refers file ↔ state.tables.Refers file := by
    intro file
    rw [JobTables.Refers, artifacts]
    rfl
  refine tracks_of_iff rfl fun file => ?_
  rw [accounted_iff, accounted_iff]
  exact or_congr_left (refers file)

private theorem tracks_write (state : StorageState) (call : PublishCall) :
    Tracks state (state.write settings call) ∧ HandsOver state (state.write settings call) := by
  unfold StorageState.write
  split
  · exact tracks_refl state
  · refine ⟨⟨?_, fun _ member => .inl (List.mem_append_left _ member), ?_⟩, ?_⟩
    · intro file member
      rcases List.mem_append.mp member with earlier | new
      · exact .inl earlier
      · exact .inr (.publishing (List.mem_append_right _ (List.mem_singleton.mpr rfl))
          (List.mem_singleton.mp new).symm)
    · intro file accounted
      cases accounted with
      | row referred => exact .inl (.row referred)
      | publishing member own =>
        rcases List.mem_append.mp member with earlier | new
        · exact .inl (.publishing earlier own)
        · rw [List.mem_singleton.mp new] at own
          exact .inr (own ▸ Nat.le_refl _)
      | sweep member taken => exact .inl (.sweep member taken)
      | cleanup member listed => exact .inl (.cleanup member listed)
    · intro file _ accounted
      cases accounted with
      | row referred => exact .row referred
      | publishing member own => exact .publishing (List.mem_append_left _ member) own
      | sweep member taken => exact .sweep member taken
      | cleanup member listed => exact .cleanup member listed

section

variable (sound : Sound state)
include sound

private theorem tracks_commit (artifactId lag : Nat) : Tracks state (state.commit settings artifactId lag) ∧
      HandsOver state (state.commit settings artifactId lag) := by
  unfold StorageState.commit
  split
  · exact tracks_refl state
  · rename_i publishing found
    obtain ⟨member, rfl⟩ := publishing?_spec found
    have old := sound.publishing publishing member
    split
    · rename_i after done
      obtain ⟨job, -, -, -, rfl⟩ := publishArtifact_spec done
      have stored : (publishing.call.artifact settings job publishing.ref.artifactId
          (state.store.now lag)).storageRef = some publishing.ref := by
        simp only [PublishCall.artifact, ← old.extension]
      refine ⟨⟨fun _ present => .inl present, fun _ present => .inl present, ?_⟩, ?_⟩
      · intro file accounted
        cases accounted with
        | row referred =>
          obtain ⟨row, rowMember, same⟩ := referred
          rcases List.mem_append.mp rowMember with earlier | new
          · exact .inl (.row ⟨row, earlier, same⟩)
          · rw [List.mem_singleton.mp new, stored, Option.some.injEq] at same
            exact .inl (.publishing member same)
        | publishing otherMember own => exact .inl (.publishing (mem_of_mem_deleteWhere otherMember) own)
        | sweep sweepMember taken => exact .inl (.sweep sweepMember taken)
        | cleanup cleanupMember listed => exact .inl (.cleanup cleanupMember listed)
      · intro file _ accounted
        cases accounted with
        | row referred =>
          obtain ⟨row, rowMember, same⟩ := referred
          exact .row ⟨row, List.mem_append_left _ rowMember, same⟩
        | @publishing other otherMember own =>
          by_cases same : other.ref.artifactId = publishing.ref.artifactId
          · obtain rfl := sound.publishingIds.eq_of_key otherMember member same
            exact .row ⟨_, List.mem_append_right _ (List.mem_singleton.mpr rfl), own ▸ stored⟩
          · exact .publishing (mem_deleteWhere.mpr ⟨otherMember, by simpa using same⟩) own
        | sweep sweepMember taken => exact .sweep sweepMember taken
        | cleanup cleanupMember listed => exact .cleanup cleanupMember listed
    · refine tracks_of_iff rfl fun file => ?_
      rw [accounted_iff, accounted_iff]
      -- the update of a publication keeps its reference
      refine or_congr_right (or_congr_left ⟨?_, ?_⟩)
      · rintro ⟨other, otherMember, own⟩
        obtain ⟨earlier, earlierMember, rfl⟩ := exists_of_mem_updateWhere otherMember
        refine ⟨earlier, earlierMember, ?_⟩
        rw [← own]
        split <;> rfl
      · rintro ⟨other, otherMember, own⟩
        refine ⟨_, mem_updateWhere_of_mem otherMember, ?_⟩
        rw [← own]
        split <;> rfl

private theorem tracks_discard (artifactId : Nat) :
    Tracks state (state.discard artifactId) ∧ HandsOver state (state.discard artifactId) := by
  unfold StorageState.discard
  split
  · exact tracks_refl state
  · rename_i publishing found
    obtain ⟨member, rfl⟩ := publishing?_spec found
    refine tracks_unlink rfl (.publishing member rfl) fun file unowned => ?_
    rw [accounted_iff, accounted_iff]
    refine or_congr_right (or_congr_left ⟨?_, ?_⟩)
    · rintro ⟨other, otherMember, own⟩
      exact ⟨other, mem_of_mem_deleteWhere otherMember, own⟩
    · rintro ⟨other, otherMember, own⟩
      refine ⟨other, mem_deleteWhere.mpr ⟨otherMember, ?_⟩, own⟩
      rw [beq_eq_false_iff_ne]
      intro same
      obtain rfl := sound.publishingIds.eq_of_key otherMember member same
      exact unowned own.symm

private theorem tracks_expire (current : Nat) (limit : Int) :
    Tracks state (state.expire current limit) ∧ HandsOver state (state.expire current limit) := by
  refine ⟨⟨fun _ present => .inl present, fun _ present => .inl present, ?_⟩, ?_⟩
  · intro file accounted
    cases accounted with
    | row referred =>
      obtain ⟨row, rowMember, stored⟩ := referred
      rcases mem_expireArtifacts rowMember with ⟨-, -, -, -, cleared⟩ | ⟨old, -⟩
      · simp [cleared] at stored
      · exact .inl (.row ⟨row, old, stored⟩)
    | publishing member own => exact .inl (.publishing member own)
    | sweep member taken =>
      rcases List.mem_append.mp member with earlier | new
      · exact .inl (.sweep earlier taken)
      · rw [List.mem_singleton.mp new] at taken
        obtain ⟨row, -, rowMember, stored⟩ := mem_expireArtifacts_refs taken
        exact .inl (.row ⟨row, rowMember, stored⟩)
    | cleanup member listed => exact .inl (.cleanup member listed)
  · intro file _ accounted
    cases accounted with
    | row referred =>
      obtain ⟨row, rowMember, stored⟩ := referred
      by_cases selected : ∃ other ∈ state.tables.expired current limit, other.artifactId = row.artifactId
      · obtain ⟨other, chosen, same⟩ := selected
        obtain rfl := sound.artifactIds.eq_of_key (mem_expired chosen) rowMember same
        exact .sweep (List.mem_append_right _ (List.mem_singleton.mpr rfl))
          (List.mem_filterMap.mpr ⟨other, chosen, stored⟩)
      · refine .row ⟨row, mem_updateWhere.mpr (.inr ⟨rowMember, ?_⟩), stored⟩
        exact List.any_eq_false.mpr fun other chosen same => selected ⟨other, chosen, beq_iff_eq.mp same⟩
    | publishing member own => exact .publishing member own
    | sweep member taken => exact .sweep (List.mem_append_left _ member) taken
    | cleanup member listed => exact .cleanup member listed

private theorem tracks_unlinkExpired (sweepId : Nat) :
    Tracks state (state.unlinkExpired sweepId) ∧ HandsOver state (state.unlinkExpired sweepId) := by
  unfold StorageState.unlinkExpired
  split
  · exact tracks_refl state
  · rename_i sweep found
    have member := List.mem_of_find?_eq_some found
    have named : sweep.sweepId = sweepId := by simpa using List.find?_some found
    have only : ∀ other ∈ state.sweeps, other.sweepId = sweepId → other = sweep :=
      fun other otherMember same => sound.sweepIds.eq_of_key otherMember member (same.trans named.symm)
    split
    · rename_i empty
      refine tracks_of_iff rfl fun file => ?_
      rw [accounted_iff, accounted_iff]
      refine or_congr_right (or_congr_right (or_congr_left ⟨?_, ?_⟩))
      · rintro ⟨other, otherMember, taken⟩
        exact ⟨other, mem_of_mem_deleteWhere otherMember, taken⟩
      · rintro ⟨other, otherMember, taken⟩
        refine ⟨other, mem_deleteWhere.mpr ⟨otherMember, ?_⟩, taken⟩
        rw [beq_eq_false_iff_ne]
        intro same
        rw [only other otherMember same, empty] at taken
        cases taken
    · rename_i ref rest todo
      refine tracks_unlink rfl (.sweep member (by simp [todo])) fun file other => ?_
      rw [accounted_iff, accounted_iff]
      refine or_congr_right (or_congr_right (or_congr_left ⟨?_, ?_⟩))
      · rintro ⟨taker, takerMember, taken⟩
        rcases mem_updateWhere.mp takerMember with ⟨_, _, -, rfl⟩ | ⟨earlier, -⟩
        · exact ⟨sweep, member, by rw [todo]; exact .tail _ taken⟩
        · exact ⟨taker, earlier, taken⟩
      · rintro ⟨taker, takerMember, taken⟩
        refine ⟨_, mem_updateWhere_of_mem takerMember, ?_⟩
        split
        · rename_i same
          rw [only taker takerMember (beq_iff_eq.mp same), todo] at taken
          exact (List.mem_cons.mp taken).resolve_left other
        · exact taken

end

private theorem tracks_cancelSession (state : StorageState) (sessionId : String) (lag : Nat) :
    Tracks state (state.cancelSession sessionId lag) ∧ HandsOver state (state.cancelSession sessionId lag) := by
  refine tracks_of_iff rfl fun file => ?_
  rw [accounted_iff, accounted_iff]
  refine or_congr_right (or_congr_right (or_congr_right ⟨?_, ?_⟩))
  · rintro ⟨cleanup, member, listed⟩
    rcases List.mem_append.mp member with earlier | new
    · exact ⟨cleanup, earlier, listed⟩
    · rw [List.mem_singleton.mp new] at listed
      cases listed
  · rintro ⟨cleanup, member, listed⟩
    exact ⟨cleanup, List.mem_append_left _ member, listed⟩

private theorem tracks_listFiles (sound : Sound state) (cleanupId : Nat) :
    Tracks state (state.listFiles cleanupId) ∧ HandsOver state (state.listFiles cleanupId) := by
  unfold StorageState.listFiles
  split
  · exact tracks_refl state
  · rename_i cleanup found
    obtain ⟨member, rfl⟩ := cleanup?_spec found
    split
    · exact tracks_refl state
    · rename_i unlisted
      have old := sound.cleanups cleanup member
      refine tracks_of_iff rfl fun file => ⟨?_, ?_⟩
      · intro accounted
        cases accounted with
        | row referred => exact .row referred
        | publishing publishingMember own => exact .publishing publishingMember own
        | sweep sweepMember taken => exact .sweep sweepMember taken
        | cleanup otherMember listed =>
          rcases mem_updateWhere.mp otherMember with ⟨earlier, earlierMember, -, rfl⟩ | ⟨earlier, -⟩
          · obtain ⟨row, rowMember, -, stored⟩ := mem_sessionRefs.mp listed
            exact .row ⟨row, rowMember, stored⟩
          · exact .cleanup earlier listed
      · intro accounted
        cases accounted with
        | row referred => exact .row referred
        | publishing publishingMember own => exact .publishing publishingMember own
        | sweep sweepMember taken => exact .sweep sweepMember taken
        | @cleanup other otherMember listed =>
          refine .cleanup (mem_updateWhere.mpr (.inr ⟨otherMember, ?_⟩)) listed
          rw [beq_eq_false_iff_ne]
          intro same
          -- a cleanup that has not listed anything has nothing to unlink
          obtain rfl := sound.cleanupIds.eq_of_key otherMember member same
          have none := old.todo file listed
          rw [old.unlisted (by simpa using unlisted)] at none
          cases none

private theorem tracks_unlinkListed (sound : Sound state) (cleanupId : Nat) :
    Tracks state (state.unlinkListed cleanupId) ∧ HandsOver state (state.unlinkListed cleanupId) := by
  unfold StorageState.unlinkListed
  split
  · exact tracks_refl state
  · rename_i cleanup found
    obtain ⟨member, rfl⟩ := cleanup?_spec found
    split
    · exact tracks_refl state
    · rename_i ref rest todo
      refine tracks_unlink rfl (.cleanup member (by simp [todo])) fun file other => ?_
      rw [accounted_iff, accounted_iff]
      refine or_congr_right (or_congr_right (or_congr_right ⟨?_, ?_⟩))
      · rintro ⟨lister, listerMember, listed⟩
        rcases mem_updateWhere.mp listerMember with ⟨_, _, -, rfl⟩ | ⟨earlier, -⟩
        · exact ⟨cleanup, member, by rw [todo]; exact .tail _ listed⟩
        · exact ⟨lister, earlier, listed⟩
      · rintro ⟨lister, listerMember, listed⟩
        refine ⟨_, mem_updateWhere_of_mem listerMember, ?_⟩
        split
        · rename_i same
          rw [sound.cleanupIds.eq_of_key listerMember member (beq_iff_eq.mp same), todo] at listed
          exact (List.mem_cons.mp listed).resolve_left other
        · exact listed

private theorem tracks_deleteSession (sound : Sound state) (cleanupId : Nat) :
    Tracks state (state.deleteSession cleanupId) ∧
      (ListsEveryFile state (.deleteSession cleanupId) → HandsOver state (state.deleteSession cleanupId)) := by
  unfold StorageState.deleteSession
  split
  · exact ⟨(tracks_refl state).1, fun _ => (tracks_refl state).2⟩
  · rename_i cleanup found
    obtain ⟨member, rfl⟩ := cleanup?_spec found
    split
    · rename_i ready
      have finished : cleanup.todo = [] := by
        simp only [Cleanup.ready, Bool.and_eq_true, List.isEmpty_iff] at ready
        exact ready.2
      -- a cleanup that still has a file to unlink is another one
      have stays : ∀ {other file}, other ∈ state.cleanups → file ∈ other.todo →
          other ∈ deleteWhere (fun other => other.cleanupId == cleanup.cleanupId) state.cleanups := by
        intro other file otherMember listed
        refine mem_deleteWhere.mpr ⟨otherMember, ?_⟩
        rw [beq_eq_false_iff_ne]
        intro same
        rw [sound.cleanupIds.eq_of_key otherMember member same, finished] at listed
        cases listed
      refine ⟨⟨fun _ present => .inl present, fun _ present => .inl present, ?_⟩, ?_⟩
      · intro file accounted
        cases accounted with
        | row referred =>
          obtain ⟨row, rowMember, stored⟩ := referred
          exact .inl (.row ⟨row, mem_of_mem_deleteWhere rowMember, stored⟩)
        | publishing publishingMember own => exact .inl (.publishing publishingMember own)
        | sweep sweepMember taken => exact .inl (.sweep sweepMember taken)
        | cleanup otherMember listed => exact .inl (.cleanup (mem_of_mem_deleteWhere otherMember) listed)
      · intro lists file present accounted
        cases accounted with
        | row referred =>
          obtain ⟨row, rowMember, stored⟩ := referred
          by_cases own : row.sessionId = cleanup.sessionId
          · obtain ⟨other, otherMember, listed⟩ := lists cleanup member rfl ready file
              (mem_sessionRefs.mpr ⟨row, rowMember, own, stored⟩)
            rcases (sound.cleanups other otherMember).unlinked file listed with later | missing
            · exact .cleanup (stays otherMember later) later
            · exact absurd present missing
          · exact .row ⟨row, mem_deleteWhere.mpr ⟨rowMember, by simpa using own⟩, stored⟩
        | publishing publishingMember own => exact .publishing publishingMember own
        | sweep sweepMember taken => exact .sweep sweepMember taken
        | cleanup otherMember listed => exact .cleanup (stays otherMember listed) listed
    · exact ⟨(tracks_refl state).1, fun _ => (tracks_refl state).2⟩

private theorem tracks_step (settings : Settings) (sound : Sound state) (op : StorageOp) :
    Tracks state (state.step settings op) ∧ (ListsEveryFile state op → HandsOver state (state.step settings op)) := by
  cases op with
  | call op => exact (tracks_call sound op).imp_right fun hands _ => hands
  | write call => exact (tracks_write state call).imp_right fun hands _ => hands
  | commit artifactId lag => exact (tracks_commit sound artifactId lag).imp_right fun hands _ => hands
  | discard artifactId => exact (tracks_discard sound artifactId).imp_right fun hands _ => hands
  | expire current limit => exact (tracks_expire sound current limit).imp_right fun hands _ => hands
  | unlinkExpired sweepId => exact (tracks_unlinkExpired sound sweepId).imp_right fun hands _ => hands
  | cancelSession sessionId lag =>
    exact (tracks_cancelSession state sessionId lag).imp_right fun hands _ => hands
  | listFiles cleanupId => exact (tracks_listFiles sound cleanupId).imp_right fun hands _ => hands
  | unlinkListed cleanupId => exact (tracks_unlinkListed sound cleanupId).imp_right fun hands _ => hands
  | deleteSession cleanupId => exact tracks_deleteSession sound cleanupId

/-! ### Orphans -/

/-- A file that is there and that nobody answers for. -/
structure Orphan (state : StorageState) (file : StorageRef) : Prop where
  present : file ∈ state.files
  drawn : file.artifactId < state.tables.nextId
  unknown : ¬ Accounted state file

private theorem nextId_le_storageStep (settings : Settings) (sound : Sound state) (op : StorageOp) :
    state.tables.nextId ≤ (state.step settings op).tables.nextId := by
  cases op with
  | call op => exact (call_keeps settings sound.paired op.2).2.1
  | write =>
    simp only [StorageState.step, StorageState.write]
    split
    · exact Nat.le_refl _
    · exact Nat.le_succ _
  | commit =>
    simp only [StorageState.step, StorageState.commit]
    split
    · exact Nat.le_refl _
    · split
      · rename_i after done
        obtain ⟨job, -, -, -, rfl⟩ := publishArtifact_spec done
        exact Nat.le_refl _
      · exact Nat.le_refl _
  | discard =>
    simp only [StorageState.step, StorageState.discard]
    split <;> exact Nat.le_refl _
  | expire => exact Nat.le_refl _
  | unlinkExpired =>
    simp only [StorageState.step, StorageState.unlinkExpired]
    split
    · exact Nat.le_refl _
    · split <;> exact Nat.le_refl _
  | cancelSession => exact Nat.le_refl _
  | listFiles =>
    simp only [StorageState.step, StorageState.listFiles]
    split
    · exact Nat.le_refl _
    · split <;> exact Nat.le_refl _
  | unlinkListed =>
    simp only [StorageState.step, StorageState.unlinkListed]
    split
    · exact Nat.le_refl _
    · split <;> exact Nat.le_refl _
  | deleteSession =>
    simp only [StorageState.step, StorageState.deleteSession]
    split
    · exact Nat.le_refl _
    · split <;> exact Nat.le_refl _

private theorem returned_step {sessionId : String} (member : sessionId ∈ state.returned) (op : StorageOp) :
    sessionId ∈ (state.step settings op).returned := by
  cases op with
  | call => exact member
  | write =>
    simp only [StorageState.step, StorageState.write]
    split <;> exact member
  | commit =>
    simp only [StorageState.step, StorageState.commit]
    split
    · exact member
    · split <;> exact member
  | discard =>
    simp only [StorageState.step, StorageState.discard]
    split <;> exact member
  | expire => exact member
  | unlinkExpired =>
    simp only [StorageState.step, StorageState.unlinkExpired]
    split
    · exact member
    · split <;> exact member
  | cancelSession => exact member
  | listFiles =>
    simp only [StorageState.step, StorageState.listFiles]
    split
    · exact member
    · split <;> exact member
  | unlinkListed =>
    simp only [StorageState.step, StorageState.unlinkListed]
    split
    · exact member
    · split <;> exact member
  | deleteSession =>
    simp only [StorageState.step, StorageState.deleteSession]
    split
    · exact member
    · split
      · exact List.mem_append_left _ member
      · exact member

private theorem Orphan.step {file : StorageRef} (orphan : Orphan state file) (sound : Sound state)
    (op : StorageOp) : Orphan (state.step settings op) file := by
  obtain ⟨tracks, -⟩ := tracks_step settings sound op
  have drawn := Nat.lt_of_lt_of_le orphan.drawn (nextId_le_storageStep settings sound op)
  refine ⟨(tracks.kept file orphan.present).resolve_right orphan.unknown, drawn, fun accounted => ?_⟩
  rcases tracks.known file accounted with earlier | fresh
  · exact orphan.unknown earlier
  · exact absurd orphan.drawn (Nat.not_lt.mpr fresh)

private theorem orphan_of_unlisted (settings : Settings) {op : StorageOp} (sound : Sound state)
    (misses : ¬ ListsEveryFile state op) : ∃ file sessionId, Orphan (state.step settings op) file ∧
      sessionId ∈ (state.step settings op).returned := by
  cases op with
  | deleteSession cleanupId =>
    simp only [ListsEveryFile] at misses
    push Not at misses
    obtain ⟨cleanup, member, rfl, ready, file, referred, unlisted⟩ := misses
    obtain ⟨row, rowMember, own, stored⟩ := mem_sessionRefs.mp referred
    have found : state.cleanup? cleanup.cleanupId = some cleanup := sound.cleanupIds.find?_eq member
    have after : state.step settings (.deleteSession cleanup.cleanupId) =
        { state.withTables (ResultExports.deleteSession state.tables cleanup.sessionId) with
          cleanups := deleteWhere (fun other => other.cleanupId == cleanup.cleanupId) state.cleanups
          returned := state.returned ++ [cleanup.sessionId] } := by
      simp only [StorageState.step, StorageState.deleteSession, found, ready, if_true]
    have known := sound.rows row rowMember
    refine ⟨file, cleanup.sessionId, ?_, ?_⟩
    · rw [after]
      constructor
      case present =>
        refine (known.present file stored).resolve_right ?_
        rintro ⟨other, otherMember, listed⟩
        exact unlisted other otherMember listed
      case drawn =>
        have drawn := known.drawn
        rw [← known.named file stored] at drawn
        exact drawn
      case unknown =>
        intro accounted
        cases accounted with
        | row still =>
          obtain ⟨twin, twinMember, same⟩ := still
          obtain ⟨earlier, other⟩ := mem_deleteWhere.mp twinMember
          rw [sound.row_eq earlier rowMember same stored, own] at other
          simp at other
        | publishing publishingMember same =>
          exact (sound.publishing _ publishingMember).rows row rowMember
            (by rw [same]; exact (known.named file stored).symm)
        | sweep sweepMember taken =>
          exact (sound.sweeps _ sweepMember).unreferenced file taken ⟨row, rowMember, stored⟩
        | cleanup otherMember listed =>
          have earlier := mem_of_mem_deleteWhere otherMember
          exact unlisted _ earlier ((sound.cleanups _ earlier).todo file listed)
    · rw [after]
      exact List.mem_append_right _ (List.mem_singleton.mpr rfl)
  | _ => exact absurd trivial misses

/-! ### Whole runs -/

/-- A run that has come to rest has left nothing behind exactly when each deleting transaction of a cleanup
met no file but listed ones. -/
theorem deletion_leaves_nothing_iff (settings : Settings) (snapshots : List SnapshotRow)
    (ops : List StorageOp) (resting : ((exportStorage settings snapshots).run ops).Quiescent) :
    ((exportStorage settings snapshots).run ops).LeavesNothing ↔
      (exportStorage settings snapshots).Respects ListsEveryFile ops := by
  constructor
  · intro clean before op rest split
    by_contra misses
    obtain ⟨file, sessionId, orphan, returned⟩ :=
      orphan_of_unlisted settings (sound_run settings snapshots before) misses
    have lasting : Orphan ((exportStorage settings snapshots).run (before ++ [op] ++ rest)) file ∧
        sessionId ∈ ((exportStorage settings snapshots).run (before ++ [op] ++ rest)).returned := by
      refine Machine.stable (fun state => Orphan state file ∧ sessionId ∈ state.returned) ?_ ?_ rest
      · exact fun earlier next held =>
          ⟨held.1.step (sound_run settings snapshots earlier) next, returned_step held.2 next⟩
      · rw [Machine.run_concat]
        exact ⟨orphan, returned⟩
    rw [List.append_assoc, List.singleton_append, ← split] at lasting
    obtain ⟨row, member, -, stored⟩ := (clean sessionId lasting.2).1 file lasting.1.present
    exact lasting.1.unknown (.row ⟨row, member, stored⟩)
  · intro lists sessionId returned
    have held : Sound ((exportStorage settings snapshots).run ops) ∧
        ∀ file ∈ ((exportStorage settings snapshots).run ops).files,
          Accounted ((exportStorage settings snapshots).run ops) file := by
      refine Machine.guarded_invariant
        (fun state => Sound state ∧ ∀ file ∈ state.files, Accounted state file) ?_ ?_ lists
      · exact ⟨sound_run settings snapshots [], by simp [exportStorage]⟩
      · intro state op before allowed
        obtain ⟨tracks, hands⟩ := tracks_step settings before.1 op
        refine ⟨sound_step before.1 op, fun file present => ?_⟩
        rcases tracks.files file present with earlier | accounted
        · exact hands allowed file present (before.2 file earlier)
        · exact accounted
    obtain ⟨sound, accounted⟩ := held
    obtain ⟨noPublishing, noSweep, noCleanup⟩ := resting
    constructor
    · intro file present
      cases accounted file present with
      | row referred =>
        obtain ⟨row, member, stored⟩ := referred
        exact ⟨row, member, (sound.gone sessionId returned).artifacts row member, stored⟩
      | publishing member =>
        rw [noPublishing] at member
        cases member
      | sweep member =>
        rw [noSweep] at member
        cases member
      | cleanup member =>
        rw [noCleanup] at member
        cases member
    · intro row member ref stored
      refine ((sound.rows row member).present ref stored).resolve_right ?_
      rintro ⟨cleanup, cleanupMember, -⟩
      rw [noCleanup] at cleanupMember
      cases cleanupMember

/-! ### A session that is deleted -/

instance decidableListsEveryFile (state : StorageState) : ∀ op, Decidable (ListsEveryFile state op)
  | .deleteSession cleanupId =>
    inferInstanceAs (Decidable (∀ cleanup ∈ state.cleanups, cleanup.cleanupId = cleanupId →
      cleanup.ready = true → ∀ ref ∈ sessionRefs state.tables cleanup.sessionId,
        ∃ other ∈ state.cleanups, ref ∈ other.listing))
  | .call _ | .write _ | .commit _ _ | .discard _ | .expire _ _ | .unlinkExpired _ | .cancelSession _ _
  | .listFiles _ | .unlinkListed _ => isTrue trivial

/-- A worker renders its job. -/
def rendering (leaseToken artifactId : Nat) : List StorageOp :=
  [.call ⟨.claim 0 "worker-1" 60 0, rfl⟩,
    .write
      { jobId := 0, workerId := "worker-1", leaseToken, content := [], extension := .md,
        filename := "result.md", mimeType := "text/markdown", preview := "" },
    .commit artifactId 0]

/-- A job is published, and then its session is deleted. -/
def plainDeletion : List StorageOp :=
  .call ⟨sampleCreation "request-1", rfl⟩ :: rendering 1 2 ++
    [.cancelSession "session-1" 0, .listFiles 0, .unlinkListed 0, .deleteSession 0]

/-- Neither a row nor a file of the session is left. -/
theorem plain_deletion_leaves_nothing :
    ((exportStorage sampleSettings [sampleSnapshot]).run plainDeletion).LeavesNothing ∧
      "session-1" ∈ ((exportStorage sampleSettings [sampleSnapshot]).run plainDeletion).returned :=
  ⟨(deletion_leaves_nothing_iff sampleSettings [sampleSnapshot] plainDeletion
    ⟨by decide, by decide, by decide⟩).mpr (Machine.RespectsFrom.respects (by decide)), by decide⟩

/-- The job is retried after the cleanup has listed the files, and it is published before the rows are
deleted. -/
def retriedDeletion : List StorageOp :=
  [.call ⟨sampleCreation "request-1", rfl⟩, .cancelSession "session-1" 0, .listFiles 0,
    .call ⟨.retry "user-1" 0 0, rfl⟩] ++ rendering 1 2 ++ [.deleteSession 0]

/-- The file of the retried job stays without a row. -/
theorem retry_orphans_file : ¬ ∀ settings snapshots ops, ((exportStorage settings snapshots).run ops).Quiescent →
      ((exportStorage settings snapshots).run ops).LeavesNothing := by
  intro always
  have clean := always sampleSettings [sampleSnapshot] retriedDeletion ⟨by decide, by decide, by decide⟩
  have present : ({ artifactId := 2, extension := .md } : StorageRef) ∈
      ((exportStorage sampleSettings [sampleSnapshot]).run retriedDeletion).files := by
    decide
  have bare : ((exportStorage sampleSettings [sampleSnapshot]).run retriedDeletion).tables.artifacts = [] := by
    decide
  obtain ⟨row, member, -⟩ := (clean "session-1" (by decide)).1 _ present
  rw [bare] at member
  cases member

end HardwareDatabase.ResultExports
