/-
Module: HardwareDatabase.Proofs.TaskHistory
Purpose: Replaying the events of a task gives its status, and every revision is one event or one renewal.
Trusted boundary: none
-/
import HardwareDatabase.Proofs.SandboxSteps

namespace HardwareDatabase.Sandbox

open Relational

variable {env : Environment} {clock : Nat} {db after : Database} {reports : List Report}

/-! ### Replay -/

/-- The status after a log that starts at a status; an event that does not start there breaks it. -/
def replay (status : Option TaskStatus) : List TaskEvent → Option (Option TaskStatus)
  | [] => some status
  | event :: rest => if event.fromStatus = status then replay (some event.toStatus) rest else none

private theorem replay_concat (status : Option TaskStatus) (log : List TaskEvent) (event : TaskEvent) :
    replay status (log ++ [event]) = (replay status log).bind fun reached =>
        if event.fromStatus = reached then some (some event.toStatus) else none := by
  induction log generalizing status with
  | nil => rfl
  | cons first rest ih =>
    rw [List.cons_append, replay, replay]
    split
    · exact ih (some first.toStatus)
    · rfl

/-- The events of a task, oldest first. -/
def Database.logOf (db : Database) (taskId : String) : List TaskEvent :=
  db.events.filter fun event => event.taskId == taskId

/-- The revision of a renewal of a task. -/
def Report.renewalFor (taskId : String) : Report → Option Nat
  | .renewed id revision => if id = taskId then some revision else none
  | .granted _ _ _ => none

/-- The revisions that renewals of a task have handed out. -/
def renewalsOf (history : List Report) (taskId : String) : List Nat :=
  history.filterMap (Report.renewalFor taskId)

private theorem renewalsOf_append (history reports : List Report) (taskId : String) :
    renewalsOf (history ++ reports) taskId = renewalsOf history taskId ++ renewalsOf reports taskId :=
  List.filterMap_append

/-! ### The log of a task -/

/-- A log and the renewals of a task record its row. -/
structure Recorded (log : List TaskEvent) (renewals : List Nat) (task : Task) : Prop where
  replays : replay none log = some (some task.status)
  sorted : (log.map TaskEvent.revision).Pairwise (· < ·)
  complete : (log.map TaskEvent.revision ++ renewals).Perm (List.range (task.revision + 1))

private theorem Recorded.logged {log : List TaskEvent} {renewals : List Nat} {task revised : Task} {event : TaskEvent}
    (recorded : Recorded log renewals task) (revision : revised.revision = task.revision + 1)
    (logs : Logs task revised event) : Recorded (log ++ [event]) renewals revised where
  replays := by
    rw [replay_concat, recorded.replays, Option.bind_some, if_pos logs.fromStatus, logs.toStatus]
  sorted := by
    rw [List.map_append, List.pairwise_append]
    refine ⟨recorded.sorted, List.pairwise_singleton _ _, ?_⟩
    intro earlier member later new
    have within := recorded.complete.mem_iff.mp (List.mem_append_left _ member)
    rw [List.mem_range] at within
    rw [List.mem_singleton.mp new, logs.revision, revision]
    exact within
  complete := by
    rw [revision, List.range_succ, List.map_append, List.map_singleton, logs.revision, revision]
    -- the new revision moves behind the renewals
    have moved : (log.map TaskEvent.revision ++ [task.revision + 1] ++ renewals).Perm
        (log.map TaskEvent.revision ++ renewals ++ [task.revision + 1]) := by
      rw [List.append_assoc, List.append_assoc]
      exact List.perm_append_comm.append_left _
    exact moved.trans (recorded.complete.append_right _)

private theorem Recorded.handed {log : List TaskEvent} {renewals : List Nat} {task : Task}
    (recorded : Recorded log renewals task) (now expires : Nat) :
    Recorded log (renewals ++ [task.revision + 1]) (task.renewed now expires) where
  replays := recorded.replays
  sorted := recorded.sorted
  complete := by
    show (log.map TaskEvent.revision ++ (renewals ++ [task.revision + 1])).Perm
      (List.range (task.revision + 1 + 1))
    rw [List.range_succ, ← List.append_assoc]
    exact recorded.complete.append_right _

variable {events : List TaskEvent} {task revised : Task}

private theorem Change.events_taskId (change : Change env clock db task revised events reports) :
    ∀ event ∈ events, event.taskId = task.taskId := by
  intro event member
  cases change with
  | moved _ logged revises logs => exact (List.mem_singleton.mp member) ▸ logs.taskId
  | noted _ logged revises logs => exact (List.mem_singleton.mp member) ▸ logs.taskId
  | claimed owner now expires logged logs => exact (List.mem_singleton.mp member) ▸ logs.taskId
  | renewed => cases member

private theorem Recorded.change {log : List TaskEvent} {renewals : List Nat} (recorded : Recorded log renewals task)
    (change : Change env clock db task revised events reports) :
    Recorded (log ++ events) (renewals ++ renewalsOf reports task.taskId) revised := by
  cases change with
  | moved _ _ revises logs | noted _ _ revises logs =>
    rw [show renewalsOf [] task.taskId = [] from rfl, List.append_nil]
    exact recorded.logged revises.revision logs
  | claimed owner now expires event logs =>
    rw [show renewalsOf [.granted task.taskId owner (task.fencingToken + 1)] task.taskId = [] from rfl,
      List.append_nil]
    exact recorded.logged rfl logs
  | renewed now expires =>
    have renewal : renewalsOf [.renewed task.taskId (task.revision + 1)] task.taskId =
        [task.revision + 1] := by
      simp [renewalsOf, Report.renewalFor]
    rw [renewal, List.append_nil]
    exact recorded.handed now expires

/-! ### Runs -/

/-- Every row is recorded, and nothing is recorded of a task that is not there. -/
structure Database.Faithful (db : Database) (history : List Report) : Prop where
  recorded : ∀ task ∈ db.tasks, Recorded (db.logOf task.taskId) (renewalsOf history task.taskId) task
  silent : ∀ taskId, (∀ task ∈ db.tasks, task.taskId ≠ taskId) →
    db.logOf taskId = [] ∧ renewalsOf history taskId = []

variable {taskId : String}

private theorem logOf_append_other {tasks : List Task} (other : ∀ event ∈ events, event.taskId ≠ taskId) :
    Database.logOf { tasks, events := db.events ++ events } taskId = db.logOf taskId := by
  have none : events.filter (fun event => event.taskId == taskId) = [] := by
    apply List.filter_eq_nil_iff.mpr
    intro event member
    simpa using other event member
  rw [Database.logOf, List.filter_append, none, List.append_nil]
  rfl

private theorem logOf_append_self {tasks : List Task} (own : ∀ event ∈ events, event.taskId = taskId) :
    Database.logOf { tasks, events := db.events ++ events } taskId = db.logOf taskId ++ events := by
  have all : events.filter (fun event => event.taskId == taskId) = events := by
    apply List.filter_eq_self.mpr
    intro event member
    simpa using own event member
  rw [Database.logOf, List.filter_append, all]
  rfl

private theorem Change.renewals_other
    (change : Change env clock db task revised events reports) (other : task.taskId ≠ taskId) :
    renewalsOf reports taskId = [] := by
  cases change with
  | moved => rfl
  | noted => rfl
  | claimed => rfl
  | renewed => simp [renewalsOf, Report.renewalFor, other]

private theorem faithful_write {history : List Report} (faithful : db.Faithful history)
    (write : Write env clock db taskId after reports) : after.Faithful (history ++ reports) := by
  cases write with
  | inserted spec _ now event absent named first toStatus revision =>
    rw [List.append_nil]
    constructor
    · intro task member
      rcases List.mem_append.mp member with old | new
      · rw [logOf_append_other]
        · exact faithful.recorded task old
        · intro other otherMember same
          rw [List.mem_singleton.mp otherMember, named] at same
          exact absent task old same.symm
      · -- the first event of a task of which nothing is recorded
        obtain ⟨unlogged, unhanded⟩ := faithful.silent taskId absent
        rw [List.mem_singleton.mp new]
        show Recorded (Database.logOf _ taskId) (renewalsOf history taskId) _
        rw [logOf_append_self fun other member => (List.mem_singleton.mp member) ▸ named, unlogged, unhanded]
        constructor
        · simp [replay, first, toStatus, admittedTask]
        · exact List.pairwise_singleton _ _
        · simp [revision, admittedTask]
    · intro other missing
      have before := faithful.silent other fun task member => missing task (List.mem_append_left _ member)
      rw [logOf_append_other]
      · exact before
      · intro logged member same
        rw [List.mem_singleton.mp member, named] at same
        exact missing _ (List.mem_append_right _ (List.mem_singleton_self _)) same
  | changed task revised events _ member change =>
    have own := change.events_taskId
    constructor
    · intro row rowMember
      rw [renewalsOf_append]
      rcases mem_replaceTask rowMember with ⟨rfl, -⟩ | ⟨old, other⟩
      · rw [change.revises.taskId, logOf_append_self own]
        exact (faithful.recorded task member).change change
      · have apart : task.taskId ≠ row.taskId := fun same => other same.symm
        rw [logOf_append_other fun event logged same => apart ((own event logged).symm.trans same),
          change.renewals_other apart, List.append_nil]
        exact faithful.recorded row old
    · intro other missing
      have gone : task.taskId ≠ other := fun same =>
        missing revised (mem_replaceTask_self member) (change.revises.taskId.trans same)
      have before : ∀ row ∈ db.tasks, row.taskId ≠ other := by
        intro row rowMember same
        exact missing row (mem_replaceTask_of_ne rowMember fun own => gone (own.symm.trans same)) same
      rw [logOf_append_other fun event logged same => gone ((own event logged).symm.trans same),
        renewalsOf_append, change.renewals_other gone, List.append_nil]
      exact faithful.silent other before

/-- In every run the events of a task, oldest first, replay from its creation to the status of its row, their
revisions grow strictly, and the revisions up to the current one are exactly those that the log records and
those that renewals have handed out, each once. -/
theorem task_log_replays (env : Environment) (ops : List Op) : ∀ task ∈ ((ledger env).run ops).db.tasks,
      replay none (((ledger env).run ops).db.logOf task.taskId) = some (some task.status) ∧
        ((((ledger env).run ops).db.logOf task.taskId).map TaskEvent.revision).Pairwise (· < ·) ∧
        ((((ledger env).run ops).db.logOf task.taskId).map TaskEvent.revision ++
          renewalsOf ((ledger env).emitted (State.reports env) ops) task.taskId).Perm
            (List.range (task.revision + 1)) := by
  have faithful : ((ledger env).run ops).db.Faithful ((ledger env).emitted (State.reports env) ops) := by
    refine (ledger_history (fun _ db history => db.Faithful history) ?_ ?_ ?_ ops).2
    · exact ⟨fun task member => absurd member List.not_mem_nil, fun _ _ => ⟨rfl, rfl⟩⟩
    · intro clock db history taskId after reports keyed faithful write
      exact faithful_write faithful write
    · intro clock db history elapsed faithful
      exact faithful
  intro task member
  obtain ⟨replays, sorted, complete⟩ := faithful.recorded task member
  exact ⟨replays, sorted, complete⟩

/-- A task that is claimed and whose lease is renewed. -/
theorem task_log_replays_renewed :
    ∃ task ∈ ((ledger .default).run [.create .sample "t" "" "" 0, .claim "t" "w" none "" 0,
        .renewLease "t" "w" 1 none 0]).db.tasks, task.revision = 2 ∧
        replay none (((ledger .default).run [.create .sample "t" "" "" 0, .claim "t" "w" none "" 0,
          .renewLease "t" "w" 1 none 0]).db.logOf task.taskId) = some (some task.status) := by
  have stored : ((ledger .default).run [.create .sample "t" "" "" 0, .claim "t" "w" none "" 0,
      .renewLease "t" "w" 1 none 0]).db.tasks.map Task.revision = [2] := by decide +kernel
  obtain ⟨task, member, revision⟩ := List.mem_map.mp (stored ▸ List.mem_singleton_self 2)
  exact ⟨task, member, revision, (task_log_replays .default _ task member).1⟩

/-- A renewal raises the revision, and the log does not record it. -/
theorem renewal_unrecorded : ¬ ∀ (env : Environment) (ops : List Op), ∀ task ∈ ((ledger env).run ops).db.tasks,
      ((((ledger env).run ops).db.logOf task.taskId).map TaskEvent.revision).getLast? = some task.revision := by
  intro always
  have renewed : ((ledger .default).run [.create .sample "t" "" "" 0, .claim "t" "w" none "" 0,
      .renewLease "t" "w" 1 none 0]).db.tasks.map (fun task => (task.taskId, task.revision)) =
        [("t", 2)] := by decide +kernel
  have recorded : (((ledger .default).run [.create .sample "t" "" "" 0, .claim "t" "w" none "" 0,
      .renewLease "t" "w" 1 none 0]).db.logOf "t").map TaskEvent.revision = [0, 1] := by decide +kernel
  obtain ⟨task, stored, facts⟩ := List.map_eq_singleton_iff.mp renewed
  obtain ⟨named, revision⟩ := Prod.mk.inj facts
  have last := always .default _ task (by rw [stored]; simp)
  rw [named, recorded, revision] at last
  cases last

end HardwareDatabase.Sandbox
