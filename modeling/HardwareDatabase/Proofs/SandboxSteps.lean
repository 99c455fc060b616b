/-
Module: HardwareDatabase.Proofs.SandboxSteps
Purpose: What the operations of the sandbox task ledger can do: every transaction is a list of writes (`Write`,
  `Change`).
Trusted boundary: none
-/
import HardwareDatabase.Sandbox.Ledger

namespace HardwareDatabase.Sandbox

open Python (strip clip Dict)
open Relational

/-! ### Changes of a row -/

/-- A rewritten row is that of the same task, one revision later. -/
structure Revises (task revised : Task) : Prop where
  taskId : revised.taskId = task.taskId
  admission : revised.admission = task.admission
  revision : revised.revision = task.revision + 1

/-- The event of a rewritten row. -/
structure Logs (task revised : Task) (event : TaskEvent) : Prop where
  taskId : event.taskId = task.taskId
  fromStatus : event.fromStatus = some task.status
  toStatus : event.toStatus = revised.status
  revision : event.revision = revised.revision

/-- The lease of a task. -/
def Task.lease (task : Task) : String × Option Nat :=
  (task.leaseOwner, task.leaseExpiresAt)

/-- The ways in which a row is rewritten, with the events that it logs and what is handed out. -/
inductive Change (env : Environment) (clock : Nat) (db : Database) (task : Task) :
    Task → List TaskEvent → List Report → Prop
  | moved (revised : Task) (event : TaskEvent) (revises : Revises task revised)
      (logs : Logs task revised event) (edge : revised.status ∈ task.status.transitions)
      (token : revised.fencingToken = task.fencingToken)
      (lease : revised.lease = task.lease ∨ revised.lease = ("", none)) :
      Change env clock db task revised [event] []
  | noted (revised : Task) (event : TaskEvent) (revises : Revises task revised)
      (logs : Logs task revised event) (status : revised.status = task.status)
      (token : revised.fencingToken = task.fencingToken) (lease : revised.lease = task.lease)
      (manifest : revised.outputManifest = task.outputManifest)
      (finished : revised.finishedAt = task.finishedAt) :
      Change env clock db task revised [event] []
  | claimed (owner : String) (now expires : Nat) (event : TaskEvent)
      (logs : Logs task (task.claimedBy owner now expires) event) (waiting : task.status.isWaiting = true)
      (earlier : now ≤ clock) (room : db.hasRoom env task now = true) :
      Change env clock db task (task.claimedBy owner now expires) [event]
        [.granted task.taskId owner (task.fencingToken + 1)]
  | renewed (now expires expiry : Nat) (stored : task.leaseExpiresAt = some expiry) (live : clock < expiry) :
      Change env clock db task (task.renewed now expires) [] [.renewed task.taskId (task.revision + 1)]

variable {task revised : Task}

theorem Change.revises {env : Environment} {clock : Nat} {db : Database}
    {events : List TaskEvent} {reports : List Report}
    (change : Change env clock db task revised events reports) : Revises task revised := by
  cases change with
  | moved _ _ revises => exact revises
  | noted _ _ revises => exact revises
  | claimed => exact ⟨rfl, rfl, rfl⟩
  | renewed => exact ⟨rfl, rfl, rfl⟩

/-! ### Writes

Every operation is a chain of writes to single rows, with their events and reports. -/

/-- The rows after a task is rewritten. -/
def replaceTask (tasks : List Task) (task revised : Task) : List Task :=
  updateWhere (fun row => row.taskId == task.taskId) (fun _ => revised) tasks

/-- A write of the store to the row of a task: it is inserted or rewritten. -/
inductive Write (env : Environment) (clock : Nat) (db : Database) :
    String → Database → List Report → Prop
  | inserted (spec : SandboxTaskSpec) (taskId : String) (now : Nat) (event : TaskEvent)
      (absent : ∀ task ∈ db.tasks, task.taskId ≠ taskId) (named : event.taskId = taskId)
      (first : event.fromStatus = none) (toStatus : event.toStatus = .admitted)
      (revision : event.revision = 0) :
      Write env clock db taskId
        { tasks := db.tasks ++ [admittedTask env spec taskId now], events := db.events ++ [event] } []
  | changed (task revised : Task) (events : List TaskEvent) (reports : List Report) (member : task ∈ db.tasks)
      (change : Change env clock db task revised events reports) :
      Write env clock db task.taskId
        { tasks := replaceTask db.tasks task revised, events := db.events ++ events } reports

/-- The writes of a transaction, one after the other and each to another task. -/
inductive Writes (env : Environment) (clock : Nat) : Database → Database → List Report → Prop
  | none (db : Database) : Writes env clock db db []
  | cons {db next after : Database} {reports rest : List Report} {taskId : String}
      (write : Write env clock db taskId next reports) (writes : Writes env clock next after rest)
      (leaves : ∀ row ∈ next.tasks, row.taskId = taskId → row ∈ after.tasks) :
      Writes env clock db after (reports ++ rest)

variable {taskId : String}

theorem Write.single {env : Environment} {clock : Nat} {db after : Database} {reports : List Report}
    (write : Write env clock db taskId after reports) : Writes env clock db after reports := by
  have writes := Writes.cons write (Writes.none after) fun _ member _ => member
  rwa [List.append_nil] at writes

theorem Writes.invariant {env : Environment} {clock : Nat} (inv : Database → List Report → Prop)
    (one : ∀ db history taskId after reports, inv db history → Write env clock db taskId after reports →
      inv after (history ++ reports))
    {db after : Database} {reports : List Report} (writes : Writes env clock db after reports) :
    ∀ history, inv db history → inv after (history ++ reports) := by
  induction writes with
  | none =>
    intro history holds
    rwa [List.append_nil]
  | cons write writes leaves ih =>
    intro history holds
    rw [← List.append_assoc]
    exact ih _ (one _ _ _ _ _ holds write)

/-- The name of a task is the key of its row. -/
abbrev Database.IsKeyed (db : Database) : Prop :=
  UniqueOn Task.taskId db.tasks

variable {env : Environment} {clock : Nat} {db after : Database} {reports : List Report}

theorem mem_replaceTask {tasks : List Task} {row : Task} (member : row ∈ replaceTask tasks task revised) :
    (row = revised ∧ ∃ old ∈ tasks, old.taskId = task.taskId) ∨ (row ∈ tasks ∧ row.taskId ≠ task.taskId) := by
  rcases mem_updateWhere.mp member with ⟨old, oldMember, same, rfl⟩ | ⟨old, other⟩
  · exact .inl ⟨rfl, old, oldMember, by simpa using same⟩
  · exact .inr ⟨old, by simpa using other⟩

theorem mem_replaceTask_of_ne {tasks : List Task} {row : Task} (member : row ∈ tasks)
    (other : row.taskId ≠ task.taskId) : row ∈ replaceTask tasks task revised :=
  mem_updateWhere.mpr (.inr ⟨member, by simpa using other⟩)

theorem mem_replaceTask_self {tasks : List Task} (member : task ∈ tasks) : revised ∈ replaceTask tasks task revised :=
  mem_updateWhere.mpr (.inl ⟨task, member, by simp, rfl⟩)

theorem Write.keyed (write : Write env clock db taskId after reports) (keyed : db.IsKeyed) : after.IsKeyed := by
  cases write with
  | inserted spec taskId now event absent => exact UniqueOn.append keyed absent
  | changed task revised events reports member change =>
    show UniqueOn Task.taskId (replaceTask db.tasks task revised)
    rw [UniqueOn, replaceTask, keyed.map_replace member change.revises.taskId]
    exact keyed

/-! ### Statements -/

theorem require_eq_ok (found : db.require taskId = .ok task) : task ∈ db.tasks ∧ task.taskId = taskId := by
  unfold Database.require Database.task? at found
  split at found
  · rename_i row selected
    cases found
    exact ⟨List.mem_of_find?_eq_some selected, by simpa using List.find?_some selected⟩
  · cases found

variable {rewrite : Task → Task} {selects : Task → Bool}

theorem update_eq (keyed : db.IsKeyed) (member : task ∈ db.tasks) (met : selects task = true)
    (only : ∀ row, selects row = true → row.taskId = task.taskId) :
    db.update selects rewrite = { db with tasks := replaceTask db.tasks task (rewrite task) } := by
  have rows : updateWhere selects rewrite db.tasks = replaceTask db.tasks task (rewrite task) := by
    unfold replaceTask updateWhere
    apply List.map_congr_left
    intro row rowMember
    by_cases same : row.taskId = task.taskId
    · obtain rfl := keyed.eq_of_key rowMember member same
      simp [met]
    · have passed : selects row = false := by
        cases chosen : selects row with
        | true => exact absurd (only row chosen) same
        | false => rfl
      simp [passed, same]
  rw [Database.update, rows]

theorem updateOne_eq_ok {failure : Failure}
    (done : db.updateOne selects rewrite failure = .ok after) : after = db.update selects rewrite := by
  unfold Database.updateOne at done
  split at done
  · cases done
    rfl
  · cases done

theorem countP_eq_one (keyed : db.IsKeyed) (member : task ∈ db.tasks)
    (met : selects task = true) (only : ∀ row, selects row = true → row.taskId = task.taskId) :
    db.tasks.countP selects = 1 := by
  have rows : db.tasks.filter selects = db.tasks.filter fun row => row.taskId == task.taskId := by
    apply List.filter_congr
    intro row rowMember
    by_cases same : row.taskId = task.taskId
    · obtain rfl := keyed.eq_of_key rowMember member same
      simp [met]
    · have passed : selects row = false := by
        cases chosen : selects row with
        | true => exact absurd (only row chosen) same
        | false => rfl
      simp [passed, same]
  rw [List.countP_eq_length_filter, rows, keyed.filter_eq member, List.length_singleton]

theorem isAt_self (task : Task) : task.isAt task.taskId task.revision = true := by
  simp [Task.isAt]

theorem taskId_of_isAt {row : Task} {revision : Nat} (met : row.isAt taskId revision = true) : row.taskId = taskId := by
  simp only [Task.isAt, Bool.and_eq_true, beq_iff_eq] at met
  exact met.1

theorem update_at (keyed : db.IsKeyed) (member : task ∈ db.tasks) (rewrite : Task → Task) :
    db.update (·.isAt task.taskId task.revision) rewrite =
      { db with tasks := replaceTask db.tasks task (rewrite task) } :=
  update_eq keyed member (isAt_self task) fun _ met => taskId_of_isAt met

variable {event : TaskEvent}

theorem write_update (keyed : db.IsKeyed) (member : task ∈ db.tasks) (met : selects task = true)
    (only : ∀ row, selects row = true → row.taskId = task.taskId)
    (change : Change env clock db task (rewrite task) [event.stored] reports) :
    Write env clock db task.taskId ((db.update selects rewrite).record event) reports := by
  rw [update_eq keyed member met only]
  exact Write.changed task (rewrite task) [event.stored] reports member change

theorem write_at (keyed : db.IsKeyed) (member : task ∈ db.tasks)
    (change : Change env clock db task (rewrite task) [event.stored] reports) :
    Write env clock db task.taskId ((db.update (·.isAt task.taskId task.revision) rewrite).record event) reports :=
  write_update keyed member (isAt_self task) (fun _ met => taskId_of_isAt met) change

theorem write_waitingAt (keyed : db.IsKeyed) (member : task ∈ db.tasks) (waiting : task.status.isWaiting = true)
    (change : Change env clock db task (rewrite task) [event.stored] reports) : Write env clock db task.taskId
      ((db.update (·.isWaitingAt task.taskId task.revision) rewrite).record event) reports := by
  apply write_update keyed member _ _ change
  · simp [Task.isWaitingAt, isAt_self, waiting]
  · intro row met
    simp only [Task.isWaitingAt, Bool.and_eq_true] at met
    exact taskId_of_isAt met.1

/-! ### Operations -/

variable {now : Nat} {actorId : String}

theorem create_writes {spec : SandboxTaskSpec} {drawn : String} {row : Task}
    (done : create env db spec taskId drawn actorId now = .ok (after, row)) : Writes env clock db after [] := by
  simp only [create] at done
  split at done
  · cases done
  · split at done
    · split at done
      · cases done
      · cases done
        exact .none db
    · split at done
      · cases done
      · rename_i unused
        cases done
        apply Write.single
        refine Write.inserted spec _ now _ ?_ rfl rfl rfl rfl
        intro task member same
        apply unused
        exact List.find?_isSome.mpr ⟨task, member, by simpa using same⟩

theorem move_writes (keyed : db.IsKeyed) {call : TransitionCall} {row : Task} {target : TaskStatus}
    (member : task ∈ db.tasks) (named : task.taskId = call.taskId)
    (done : call.move env db task target clock = .ok (after, row)) : Writes env clock db after [] := by
  obtain ⟨_, edge, done⟩ := exists_of_bind_eq_ok done
  obtain ⟨manifest, _, done⟩ := exists_of_bind_eq_ok done
  obtain ⟨written, wrote, done⟩ := exists_of_bind_eq_ok done
  cases done
  rw [updateOne_eq_ok wrote, ← named]
  apply Write.single
  apply write_at keyed member
  refine Change.moved _ _ ⟨rfl, rfl, rfl⟩ ⟨named.symm, rfl, rfl, rfl⟩ ?_ rfl ?_
  · unfold Task.checkEdge at edge
    split at edge
    · assumption
    · split at edge
      · cases edge
      · cases edge
  · by_cases ends : target.endsLease = true
    · exact .inr (by simp [Task.lease, TransitionCall.moved, ends])
    · exact .inl (by simp [Task.lease, TransitionCall.moved, ends])

theorem transition_writes (keyed : db.IsKeyed) {call : TransitionCall} {row : Task}
    (done : transition env db call clock = .ok (after, row)) : Writes env clock db after [] := by
  unfold transition at done
  split at done
  · cases done
  · obtain ⟨task, found, done⟩ := exists_of_bind_eq_ok done
    obtain ⟨_, _, done⟩ := exists_of_bind_eq_ok done
    obtain ⟨_, _, done⟩ := exists_of_bind_eq_ok done
    obtain ⟨member, named⟩ := require_eq_ok found
    split at done
    · obtain ⟨_, _, done⟩ := exists_of_bind_eq_ok done
      cases done
      exact .none db
    · exact move_writes keyed member named done

theorem reconcileOutcome_writes (keyed : db.IsKeyed) {row : Task} {outcome executionId : String}
    {outputManifest : Option Dict} {cleanupState : String}
    (done : reconcileOutcome env db task outcome executionId outputManifest cleanupState actorId clock =
      .ok (after, row)) : Writes env clock db after [] := by
  simp only [reconcileOutcome] at done
  split at done
  · cases done
  · split at done
    · split at done
      · cases done
        exact .none db
      · cases done
    · split at done
      · cases done
      split at done
      · cases done
      · exact transition_writes keyed done

variable {leaseSeconds : Option Int}

/-- What a claim can do: nothing, expire a task whose deadline has passed, or lease a waiting task. -/
theorem claim_cases {workerId : String}
    {row : Option Task} (done : claim env db taskId workerId leaseSeconds actorId now = .ok (after, row)) :
    (after = db ∧ row = none) ∨ ∃ task ∈ db.tasks, task.taskId = taskId ∧ task.status.isWaiting = true ∧
      ((after = (db.update (·.isWaitingAt task.taskId task.revision) (Task.overdue now)).record
          (expiryEvent task "scheduler") ∧ row = none) ∨
        ∃ expires, strip workerId ≠ "" ∧ db.hasRoom env task now = true ∧
          after = (db.update (·.isWaitingAt task.taskId task.revision)
            (Task.claimedBy (strip workerId) now expires)).record (claimEvent task (strip workerId) actorId) ∧
          row = some (task.claimedBy (strip workerId) now expires)) := by
  unfold claim at done
  split at done
  · cases done
  · rename_i worker
    obtain ⟨task, found, claimed⟩ := exists_of_bind_eq_ok done
    obtain ⟨member, named⟩ := require_eq_ok found
    unfold claimRow at claimed
    split at claimed
    · split at claimed
      · cases claimed
        exact .inl ⟨rfl, rfl⟩
      · cases claimed
    · rename_i waits
      have waiting : task.status.isWaiting = true := by simpa using waits
      split at claimed
      · cases claimed
        exact .inr ⟨task, member, named, waiting, .inl ⟨rfl, rfl⟩⟩
      · split at claimed
        · cases claimed
          exact .inl ⟨rfl, rfl⟩
        · split at claimed
          · cases claimed
            exact .inl ⟨rfl, rfl⟩
          · rename_i room
            obtain ⟨written, wrote, leased⟩ := exists_of_bind_eq_ok claimed
            cases leased
            rw [updateOne_eq_ok wrote]
            exact .inr ⟨task, member, named, waiting, .inr ⟨_, worker, by simpa using room, rfl, rfl⟩⟩

theorem expired_mem_transitions {status : TaskStatus} (waiting : status.isWaiting = true) :
    TaskStatus.expired ∈ status.transitions := by
  cases status <;> simp_all [TaskStatus.isWaiting, TaskStatus.transitions]

theorem claim_write (keyed : db.IsKeyed) (member : task ∈ db.tasks)
    (waiting : task.status.isWaiting = true) {owner : String} {expires : Nat}
    (earlier : now ≤ clock) (room : db.hasRoom env task now = true) : Write env clock db task.taskId
      ((db.update (·.isWaitingAt task.taskId task.revision) (Task.claimedBy owner now expires)).record
        (claimEvent task owner actorId)) [.granted task.taskId owner (task.fencingToken + 1)] :=
  write_waitingAt keyed member waiting (.claimed owner now expires _ ⟨rfl, rfl, rfl, rfl⟩ waiting earlier room)

theorem mem_claimed (member : task ∈ db.tasks) (waiting : task.status.isWaiting = true)
    (owner actorId : String) (now expires : Nat) : task.claimedBy owner now expires ∈
      ((db.update (·.isWaitingAt task.taskId task.revision) (Task.claimedBy owner now expires)).record
        (claimEvent task owner actorId)).tasks :=
  mem_updateWhere.mpr (.inl ⟨task, member, by simp [Task.isWaitingAt, isAt_self, waiting], rfl⟩)

theorem claim_writes (keyed : db.IsKeyed) {workerId : String} (earlier : now ≤ clock) {row : Option Task}
    (done : claim env db taskId workerId leaseSeconds actorId now = .ok (after, row)) :
    Writes env clock db after (grantOf row) := by
  rcases claim_cases done with
    ⟨rfl, rfl⟩ | ⟨task, member, named, waiting, ⟨rfl, rfl⟩ | ⟨expires, worker, room, rfl, rfl⟩⟩
  · exact .none after
  · apply Write.single
    apply write_waitingAt keyed member waiting
    exact Change.moved _ _ ⟨rfl, rfl, rfl⟩ ⟨rfl, rfl, rfl, rfl⟩ (expired_mem_transitions waiting) rfl (.inl rfl)
  · exact (claim_write keyed member waiting earlier room).single

variable {fencingToken : Int} {leaseOwner : String}

theorem isHeldAt_self (held : task.IsLeasedTo leaseOwner fencingToken clock) :
    task.isHeldAt task.taskId task.revision leaseOwner fencingToken = true := by
  simp [Task.isHeldAt, isAt_self, held.2.1, held.2.2.1]

theorem taskId_of_isHeldAt {row : Task} {revision : Nat}
    (met : row.isHeldAt taskId revision leaseOwner fencingToken = true) : row.taskId = taskId := by
  simp only [Task.isHeldAt, Bool.and_eq_true] at met
  exact taskId_of_isAt met.1.1

theorem isLeasedTo_of_assertLease {result : Unit}
    (passed : task.assertLease (some leaseOwner) (some fencingToken) clock = .ok result) :
    task.IsLeasedTo leaseOwner fencingToken clock := by
  obtain ⟨_, _, ⟨⟩, ⟨⟩, held⟩ := Task.assertLease_eq_ok_iff.mp passed
  exact held

theorem renewLease_writes (keyed : db.IsKeyed) {row : Task}
    (done : renewLease env db taskId leaseOwner fencingToken leaseSeconds now clock = .ok (after, row)) :
    Writes env clock db after [.renewed row.taskId row.revision] := by
  unfold renewLease at done
  obtain ⟨task, found, done⟩ := exists_of_bind_eq_ok done
  obtain ⟨_, passed, done⟩ := exists_of_bind_eq_ok done
  obtain ⟨written, wrote, committed⟩ := exists_of_bind_eq_ok done
  obtain ⟨member, rfl⟩ := require_eq_ok found
  have held := isLeasedTo_of_assertLease passed
  obtain ⟨-, -, -, expiry, stored, live⟩ := id held
  have only : ∀ other : Task, other.isHeldAt task.taskId task.revision leaseOwner fencingToken = true →
      other.taskId = task.taskId := fun _ met => taskId_of_isHeldAt met
  cases committed
  rw [updateOne_eq_ok wrote, update_eq keyed member (by exact isHeldAt_self held) only]
  have change : Change env clock db task (task.renewed now (leaseEnd env leaseSeconds now)) [] _ :=
    .renewed now _ expiry stored live
  have write := Write.changed task _ [] _ member change
  rw [List.append_nil] at write
  exact write.single

theorem requestCancel_writes (keyed : db.IsKeyed) {row : Task}
    (done : requestCancel db taskId actorId clock = .ok (after, row)) : Writes env clock db after [] := by
  unfold requestCancel at done
  obtain ⟨task, found, cancelled⟩ := exists_of_bind_eq_ok done
  obtain ⟨member, rfl⟩ := require_eq_ok found
  simp only [cancelRow] at cancelled
  split at cancelled
  · cases cancelled
    exact .none db
  · split at cancelled
    · split at cancelled
      · cases cancelled
        exact .none db
      · -- the wish is noted
        cases cancelled
        apply Write.single
        apply write_at keyed member
        exact Change.noted _ _ ⟨rfl, rfl, rfl⟩ ⟨rfl, rfl, rfl, rfl⟩ rfl rfl rfl rfl rfl
    · split at cancelled
      · cases cancelled
        exact .none db
      · split at cancelled
        · cases cancelled
        · rename_i edge
          obtain ⟨written, wrote, cancelled⟩ := exists_of_bind_eq_ok cancelled
          cases cancelled
          rw [updateOne_eq_ok wrote]
          apply Write.single
          apply write_at keyed member
          refine Change.moved _ _ ⟨rfl, rfl, rfl⟩ ⟨rfl, rfl, rfl, rfl⟩ (Classical.not_not.mp edge) rfl ?_
          by_cases ends : task.status.cancelTarget = .cancelled
          · exact .inr (by simp [Task.lease, Task.cancelledTo, ends])
          · exact .inl (by simp [Task.lease, Task.cancelledTo, ends])

theorem recordObservation_writes (keyed : db.IsKeyed) {call : ObservationCall} {row : Task}
    (done : recordObservation db call clock = .ok (after, row)) : Writes env clock db after [] := by
  obtain ⟨task, found, done⟩ := exists_of_bind_eq_ok done
  obtain ⟨_, _, done⟩ := exists_of_bind_eq_ok done
  obtain ⟨_, passed, done⟩ := exists_of_bind_eq_ok done
  obtain ⟨written, wrote, done⟩ := exists_of_bind_eq_ok done
  obtain ⟨member, named⟩ := require_eq_ok found
  have held := isLeasedTo_of_assertLease passed
  have met := isHeldAt_self held
  cases done
  rw [updateOne_eq_ok wrote, ← named]
  apply Write.single
  refine write_update keyed member met (fun _ other => taskId_of_isHeldAt other) ?_
  exact Change.noted _ _ ⟨rfl, rfl, rfl⟩ ⟨rfl, rfl, rfl, rfl⟩ rfl rfl rfl rfl rfl

theorem setCleanupState_writes (keyed : db.IsKeyed) {earlier : Task} {cleanupState : String}
    {leaseOwner : Option String} {fencingToken : Option Int} {row : Task}
    (done : setCleanupState db earlier cleanupState leaseOwner fencingToken actorId now clock =
      .ok (after, row)) : Writes env clock db after [] := by
  unfold setCleanupState at done
  split at done
  · cases done
  · obtain ⟨_, _, done⟩ := exists_of_bind_eq_ok done
    obtain ⟨task, found, done⟩ := exists_of_bind_eq_ok done
    obtain ⟨_, passed, done⟩ := exists_of_bind_eq_ok done
    obtain ⟨written, wrote, done⟩ := exists_of_bind_eq_ok done
    obtain ⟨member, -⟩ := require_eq_ok found
    cases done
    rw [updateOne_eq_ok wrote]
    apply Write.single
    apply write_update keyed member
    · -- the check that passed is that of the statement
      unfold checkOptionalLease at passed
      cases leaseOwner with
      | none => simp [Task.isCleanable, isAt_self]
      | some =>
        rw [if_pos (by rfl)] at passed
        obtain ⟨_, token, ⟨⟩, rfl, held⟩ := Task.assertLease_eq_ok_iff.mp passed
        simp [Task.isCleanable, isAt_self, held.2.1, held.2.2.1]
    · intro other met
      simp only [Task.isCleanable, Bool.and_eq_true] at met
      exact taskId_of_isAt met.1
    · exact Change.noted _ _ ⟨rfl, rfl, rfl⟩ ⟨rfl, rfl, rfl, rfl⟩ rfl rfl rfl rfl rfl

/-! ### Sweeps -/

section Sweep

variable {step : Database → Task → Database} (chosen : Task → Prop)
  (one : ∀ db task, Database.IsKeyed db → task ∈ db.tasks → chosen task →
    ∃ revised event, Change env clock db task revised [event] [] ∧
      step db task = { tasks := replaceTask db.tasks task revised, events := db.events ++ [event] })

include one

theorem sweep_row {rest : List Task} {db : Database} (keyed : db.IsKeyed)
    (listed : ∀ row ∈ task :: rest, row ∈ db.tasks ∧ chosen row) (distinct : task.taskId ∉ rest.map Task.taskId) :
    Write env clock db task.taskId (step db task) [] ∧
      (∀ row ∈ db.tasks, row.taskId ≠ task.taskId → row ∈ (step db task).tasks) ∧
      ∀ row ∈ rest, row ∈ (step db task).tasks ∧ chosen row := by
  obtain ⟨member, here⟩ := listed task (by simp)
  obtain ⟨revised, event, change, stepped⟩ := one db task keyed member here
  rw [stepped]
  refine ⟨Write.changed task revised [event] [] member change, ?_, ?_⟩
  · intro row rowMember apart
    exact mem_replaceTask_of_ne rowMember apart
  · intro row rowMember
    obtain ⟨stored, chosenHere⟩ := listed row (by simp [rowMember])
    have apart : row.taskId ≠ task.taskId := fun same => distinct (List.mem_map.mpr ⟨row, rowMember, same⟩)
    exact ⟨mem_replaceTask_of_ne stored apart, chosenHere⟩

theorem sweep_leaves {rows : List Task} : ∀ {db : Database}, db.IsKeyed →
    (∀ task ∈ rows, task ∈ db.tasks ∧ chosen task) → (rows.map Task.taskId).Nodup →
    ∀ row ∈ db.tasks, row.taskId ∉ rows.map Task.taskId → row ∈ (rows.foldl step db).tasks := by
  induction rows with
  | nil =>
    intro db _ _ _ row member _
    exact member
  | cons task rest ih =>
    intro db keyed listed distinct row rowMember unvisited
    rw [List.map_cons, List.nodup_cons] at distinct
    rw [List.map_cons, List.mem_cons, not_or] at unvisited
    obtain ⟨write, others, remaining⟩ := sweep_row chosen one keyed listed distinct.1
    rw [List.foldl_cons]
    exact ih (write.keyed keyed) remaining distinct.2 row
      (others row rowMember unvisited.1) unvisited.2

theorem sweep_writes {rows : List Task} : ∀ {db : Database}, db.IsKeyed →
    (∀ task ∈ rows, task ∈ db.tasks ∧ chosen task) → (rows.map Task.taskId).Nodup →
    Writes env clock db (rows.foldl step db) [] := by
  induction rows with
  | nil =>
    intro db _ _ _
    exact .none db
  | cons task rest ih =>
    intro db keyed listed distinct
    rw [List.map_cons, List.nodup_cons] at distinct
    obtain ⟨write, -, remaining⟩ := sweep_row chosen one keyed listed distinct.1
    rw [List.foldl_cons]
    refine Writes.cons write (ih (write.keyed keyed) remaining distinct.2) ?_
    intro row rowMember named
    exact sweep_leaves chosen one (write.keyed keyed) remaining distinct.2 row rowMember (named ▸ distinct.1)

end Sweep

theorem sweep_rows (keyed : db.IsKeyed) (selects : Task → Bool) (precedes : Task → Task → Prop)
    [DecidableRel precedes] (limit : Nat) : (∀ task ∈ ((db.tasks.filter selects).insertionSort precedes).take limit,
      task ∈ db.tasks ∧ selects task = true) ∧
      ((((db.tasks.filter selects).insertionSort precedes).take limit).map Task.taskId).Nodup := by
  constructor
  · intro task member
    exact List.mem_filter.mp ((List.mem_insertionSort _).mp (List.mem_of_mem_take member))
  · have all : ((db.tasks.filter selects).map Task.taskId).Nodup := List.Nodup.sublist (List.filter_sublist.map _) keyed
    have sorted := ((List.perm_insertionSort precedes (db.tasks.filter selects)).map Task.taskId).nodup_iff.mpr all
    exact sorted.sublist ((List.take_sublist _ _).map _)

theorem reconcileExpiredLeases_writes (keyed : db.IsKeyed) (now : Nat) (limit : Int) :
    Writes env clock db (reconcileExpiredLeases db now limit).1 [] := by
  obtain ⟨listed, distinct⟩ := sweep_rows keyed (·.isAbandoned now) (·.updatedAt ≤ ·.updatedAt)
    (sweepLimit limit)
  refine sweep_writes (fun task => task.isAbandoned now = true) ?_ keyed listed distinct
  intro db task keyed member chosen
  refine ⟨task.abandoned task.abandonedStatus now, (abandonedEvent task).stored, ?_, ?_⟩
  · refine Change.moved _ _ ⟨rfl, rfl, rfl⟩ ⟨rfl, rfl, rfl, rfl⟩ ?_ rfl (.inr rfl)
    simp only [Task.isAbandoned, Bool.and_eq_true] at chosen
    have running := chosen.1
    show task.abandonedStatus ∈ task.status.transitions
    unfold Task.abandonedStatus
    generalize task.status = status at running
    split
    · cases status <;> simp_all [TaskStatus.isRunningLike, TaskStatus.transitions]
    · cases status <;> simp_all [TaskStatus.isRunningLike, TaskStatus.transitions]
  · rw [abandon, update_at keyed member]
    rfl

theorem expireDeadlines_writes (keyed : db.IsKeyed) (now : Nat) (limit : Int) :
    Writes env clock db (expireDeadlines env db now limit).1 [] := by
  obtain ⟨listed, distinct⟩ := sweep_rows keyed (·.isOverdueText (env.iso now))
    (·.deadlineAt ≤ ·.deadlineAt) (sweepLimit limit)
  refine sweep_writes (fun task => task.isOverdueText (env.iso now) = true) ?_ keyed listed distinct
  intro db task keyed member chosen
  simp only [Task.isOverdueText, Bool.and_eq_true] at chosen
  have waiting := chosen.1.1
  have met : task.isWaitingAt task.taskId task.revision = true := by
    simp [Task.isWaitingAt, isAt_self, waiting]
  have only : ∀ row : Task, row.isWaitingAt task.taskId task.revision = true → row.taskId = task.taskId := by
    intro row met
    simp only [Task.isWaitingAt, Bool.and_eq_true] at met
    exact taskId_of_isAt met.1
  refine ⟨task.overdue now, (expiryEvent task "reconciler").stored, ?_, ?_⟩
  · exact Change.moved _ _ ⟨rfl, rfl, rfl⟩ ⟨rfl, rfl, rfl, rfl⟩ (expired_mem_transitions waiting) rfl
      (.inl rfl)
  · rw [expireRow, if_pos (countP_eq_one keyed member met only), update_eq keyed member met only]
    rfl

/-! ### Runs -/

theorem handing_eq_ok {α : Type} {hand : α → List Report} {attempt : Except Failure (Database × α)}
    (done : handing hand attempt = .ok (after, reports)) :
    ∃ value, attempt = .ok (after, value) ∧ hand value = reports := by
  obtain ⟨⟨tables, value⟩, attempted, same⟩ := exists_of_map_eq_ok done
  cases same
  exact ⟨value, attempted, rfl⟩

/-- An operation that goes through is a chain of writes. -/
theorem perform_writes (keyed : db.IsKeyed) {op : Op} (done : db.perform env clock op = .ok (after, reports)) :
    Writes env clock db after reports := by
  cases op with
  | create =>
    rw [Database.perform] at done
    obtain ⟨row, created, rfl⟩ := handing_eq_ok done
    exact create_writes created
  | transition | complete | fail | markUnknown | timeout =>
    rw [Database.perform] at done
    obtain ⟨row, moved, rfl⟩ := handing_eq_ok done
    exact transition_writes keyed moved
  | claim taskId workerId leaseSeconds actorId lag =>
    rw [Database.perform] at done
    obtain ⟨row, claimed, rfl⟩ := handing_eq_ok done
    exact claim_writes keyed (Nat.sub_le clock lag) claimed
  | renewLease =>
    rw [Database.perform] at done
    obtain ⟨row, renewed, rfl⟩ := handing_eq_ok done
    exact renewLease_writes keyed renewed
  | requestCancel =>
    rw [Database.perform] at done
    obtain ⟨row, cancelled, rfl⟩ := handing_eq_ok done
    exact requestCancel_writes keyed cancelled
  | recordObservation =>
    rw [Database.perform] at done
    obtain ⟨row, recorded, rfl⟩ := handing_eq_ok done
    exact recordObservation_writes keyed recorded
  | reconcileOutcome =>
    rw [Database.perform] at done
    obtain ⟨row, moved, rfl⟩ := handing_eq_ok done
    exact reconcileOutcome_writes keyed moved
  | reconcileExpiredLeases now limit =>
    cases done
    exact reconcileExpiredLeases_writes keyed _ limit
  | expireDeadlines now limit =>
    cases done
    exact expireDeadlines_writes keyed _ limit
  | setCleanupState =>
    rw [Database.perform] at done
    obtain ⟨row, cleaned, rfl⟩ := handing_eq_ok done
    exact setCleanupState_writes keyed cleaned
  | tick =>
    cases done
    exact .none db

theorem Write.leaves (write : Write env clock db taskId after reports) {row : Task}
    (member : row ∈ db.tasks) (other : row.taskId ≠ taskId) : row ∈ after.tasks := by
  cases write with
  | inserted => exact List.mem_append_left _ member
  | changed => exact mem_replaceTask_of_ne member other

theorem Write.changes (keyed : db.IsKeyed) {row : Task}
    (write : Write env clock db row.taskId after reports) (member : row ∈ db.tasks) :
    ∃ revised events, Change env clock db row revised events reports ∧ revised ∈ after.tasks := by
  generalize named : row.taskId = taskId at write
  cases write with
  | inserted spec taskId now event absent => exact absurd named (absent row member)
  | changed task revised events reports taskMember change =>
    obtain rfl := keyed.eq_of_key member taskMember named
    exact ⟨revised, events, change, mem_replaceTask_self member⟩

theorem Writes.keyed (writes : Writes env clock db after reports) (keyed : db.IsKeyed) : after.IsKeyed := by
  induction writes with
  | none => exact keyed
  | cons write writes leaves ih => exact ih (write.keyed keyed)

theorem Writes.row (writes : Writes env clock db after reports) (keyed : db.IsKeyed) {row : Task}
    (member : row ∈ db.tasks) : row ∈ after.tasks ∨ ∃ between revised events handed,
      Change env clock between row revised events handed ∧ (∀ report ∈ handed, report ∈ reports) ∧
        revised ∈ after.tasks := by
  induction writes with
  | none => exact .inl member
  | @cons db next after reports rest taskId write writes leaves ih =>
    by_cases named : row.taskId = taskId
    · subst named
      obtain ⟨revised, events, change, changed⟩ := write.changes keyed member
      exact .inr ⟨db, revised, events, reports, change, fun report handed => List.mem_append_left _ handed,
        leaves revised changed change.revises.taskId⟩
    · refine (ih (write.keyed keyed) (write.leaves member named)).imp_right ?_
      rintro ⟨between, revised, events, handed, change, among, changed⟩
      exact ⟨between, revised, events, handed, change,
        fun report member => List.mem_append_right _ (among report member), changed⟩

theorem step_writes (env : Environment) {state : State} (keyed : state.db.IsKeyed) (op : Op) :
    Writes env state.clock state.db (state.tables env op) (state.reports env op) := by
  unfold State.tables State.reports
  cases done : state.db.perform env state.clock op with
  | error => exact .none state.db
  | ok => exact perform_writes keyed done

theorem step_row {state : State} (keyed : state.db.IsKeyed) (op : Op) {before after : Task}
    (member : before ∈ state.db.tasks) (later : after ∈ (state.tables env op).tasks)
    (same : after.taskId = before.taskId) : after = before ∨ ∃ between events handed,
      Change env state.clock between before after events handed ∧
        ∀ report ∈ handed, report ∈ state.reports env op := by
  have writes := step_writes env keyed op
  have keyedAfter := writes.keyed keyed
  rcases writes.row keyed member with stays | ⟨between, revised, events, handed, change, among, changed⟩
  · exact .inl (keyedAfter.eq_of_key later stays same)
  · obtain rfl := keyedAfter.eq_of_key later changed (same.trans change.revises.taskId.symm)
    exact .inr ⟨between, events, handed, change, among⟩

/-- An invariant of the writes, which passing time keeps, holds in every run. -/
theorem ledger_history (inv : Nat → Database → List Report → Prop) (start : inv 0 .empty [])
    (one : ∀ clock db history taskId after reports, db.IsKeyed → inv clock db history →
      Write env clock db taskId after reports → inv clock after (history ++ reports))
    (later : ∀ clock db history elapsed, inv clock db history → inv (clock + elapsed) db history) (ops : List Op) :
    ((ledger env).run ops).db.IsKeyed ∧
      inv ((ledger env).run ops).clock ((ledger env).run ops).db ((ledger env).emitted (State.reports env) ops) := by
  apply Machine.history_invariant
    (fun (state : State) history => state.db.IsKeyed ∧ inv state.clock state.db history)
  · exact ⟨UniqueOn.nil _, start⟩
  · intro state history op before
    obtain ⟨keyed, holds⟩ := before
    have writes := step_writes env keyed op
    obtain ⟨keyedAfter, holdsAfter⟩ := writes.invariant
      (fun db history => db.IsKeyed ∧ inv state.clock db history)
      (fun db history taskId after reports before write =>
        ⟨write.keyed before.1, one _ db history taskId after reports before.1 before.2 write⟩)
      history ⟨keyed, holds⟩
    exact ⟨keyedAfter, later _ _ _ _ holdsAfter⟩

/-- What every write keeps, and the clock leaves alone, holds after every run. -/
theorem ledger_invariant (inv : Nat → Database → Prop) (start : inv 0 .empty)
    (one : ∀ clock db taskId after reports, db.IsKeyed → inv clock db →
      Write env clock db taskId after reports → inv clock after)
    (later : ∀ clock db elapsed, inv clock db → inv (clock + elapsed) db) (ops : List Op) :
    inv ((ledger env).run ops).clock ((ledger env).run ops).db :=
  (ledger_history (fun clock db _ => inv clock db) start
    (fun clock db _ taskId after reports keyed holds write =>
      one clock db taskId after reports keyed holds write)
    (fun clock db _ elapsed holds => later clock db elapsed holds) ops).2

/-- Task ids are unique in every reachable database. -/
theorem run_keyed (ops : List Op) : ((ledger env).run ops).db.IsKeyed :=
  (ledger_history (fun _ _ _ => True) trivial (fun _ _ _ _ _ _ _ _ _ => trivial)
    (fun _ _ _ _ _ => trivial) ops).1

end HardwareDatabase.Sandbox
