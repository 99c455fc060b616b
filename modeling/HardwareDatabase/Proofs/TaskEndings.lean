/-
Module: HardwareDatabase.Proofs.TaskEndings
Purpose: A sandbox task that has ended keeps its status, its manifest and the instant of its end in every
  continuation.
Trusted boundary: none
-/
import HardwareDatabase.Proofs.SandboxSteps

namespace HardwareDatabase.Sandbox

open Relational

variable {env : Environment} {clock : Nat} {db after : Database} {reports : List Report}

/-- The result of a task: its status, its manifest and the instant of its end. -/
def Task.SameResult (later task : Task) : Prop :=
  later.status = task.status ∧ later.outputManifest = task.outputManifest ∧
    later.finishedAt = task.finishedAt

private theorem Change.sameResult {task revised : Task} {events : List TaskEvent}
    (change : Change env clock db task revised events reports) (ended : task.status.transitions = []) :
    revised.SameResult task := by
  cases change with
  | moved _ event revises logs edge =>
    rw [ended] at edge
    cases edge
  | noted _ event revises logs status token lease manifest finished => exact ⟨status, manifest, finished⟩
  | claimed owner now expires event logs waiting =>
    have running := (TaskStatus.isWaiting_apart waiting).1
    rw [(TaskStatus.transitions_eq_nil_iff _).mp ended] at running
    cases running
  | renewed => exact ⟨rfl, rfl, rfl⟩

private theorem Change.edge {task revised : Task} {events : List TaskEvent}
    (change : Change env clock db task revised events reports) :
    revised.status = task.status ∨ revised.status ∈ task.status.transitions ∨
      task.status = .admitted ∧ revised.status = .running ∧
        .granted task.taskId revised.leaseOwner revised.fencingToken ∈ reports := by
  cases change with
  | moved _ event revises logs edge => exact .inr (.inl edge)
  | noted _ event revises logs status => exact .inl status
  | claimed owner now expires event logs waiting =>
    right
    show TaskStatus.running ∈ task.status.transitions ∨ _
    cases status : task.status with
    | admitted => exact .inr ⟨rfl, rfl, by simp [Task.claimedBy]⟩
    | queued => exact .inl (by simp [TaskStatus.transitions])
    | _ => simp [status, TaskStatus.isWaiting] at waiting
  | renewed => exact .inl rfl

/-- The task of an ended row, with the same result. -/
def Database.HasEnded (db : Database) (task : Task) : Prop :=
  ∃ later ∈ db.tasks, later.taskId = task.taskId ∧ later.SameResult task

private theorem hasEnded_step {state : State} (keyed : state.db.IsKeyed) (op : Op) {task : Task}
    (ended : task.status.transitions = []) (has : state.db.HasEnded task) : (state.tables env op).HasEnded task := by
  obtain ⟨later, member, named, result⟩ := has
  rcases (step_writes env keyed op).row keyed member with
    stays | ⟨between, revised, events, handed, change, -, changed⟩
  · exact ⟨later, stays, named, result⟩
  · obtain ⟨status, manifest, finished⟩ := change.sameResult (by rw [result.1, ended])
    exact ⟨revised, changed, change.revises.taskId.trans named, status.trans result.1,
      manifest.trans result.2.1, finished.trans result.2.2⟩

/-- In every run a task that has reached a status without an outgoing edge keeps its result whatever happens
next, and every step moves a task along an edge of `_TRANSITIONS`, except that a claim takes an admitted task
straight to `running`. -/
theorem ended_tasks_absorb (env : Environment) (ops : List Op) :
    (∀ task ∈ ((ledger env).run ops).db.tasks, task.status.transitions = [] → ∀ more : List Op,
      ∃ later ∈ ((ledger env).run (ops ++ more)).db.tasks, later.taskId = task.taskId ∧
        later.status = task.status ∧ later.outputManifest = task.outputManifest ∧
        later.finishedAt = task.finishedAt) ∧
      ∀ op, ∀ before ∈ ((ledger env).run ops).db.tasks, ∀ after ∈ ((ledger env).run (ops ++ [op])).db.tasks,
        after.taskId = before.taskId → after.status = before.status ∨ after.status ∈ before.status.transitions ∨
          before.status = .admitted ∧ after.status = .running ∧
            .granted before.taskId after.leaseOwner after.fencingToken ∈ ((ledger env).run ops).reports env op := by
  constructor
  · intro task member ended more
    apply Machine.stable (fun state : State => state.db.HasEnded task)
    · intro before op has
      exact hasEnded_step (run_keyed before) op ended has
    · exact ⟨task, member, rfl, rfl, rfl, rfl⟩
  · intro op before member after later same
    rw [Machine.run_concat] at later
    rcases step_row (run_keyed ops) op member later same with rfl | ⟨between, events, handed, change, among⟩
    · exact .inl rfl
    · rcases change.edge with stays | moved | ⟨admitted, running, granted⟩
      · exact .inl stays
      · exact .inr (.inl moved)
      · exact .inr (.inr ⟨admitted, running, among _ granted⟩)

/-- A claim takes a task that was never queued: `admitted` to `running` is no edge. -/
theorem claim_skips_queue : ¬ ∀ (env : Environment) (ops : List Op) (op : Op),
    ∀ before ∈ ((ledger env).run ops).db.tasks, ∀ after ∈ ((ledger env).run (ops ++ [op])).db.tasks,
      after.taskId = before.taskId → after.status = before.status ∨ after.status ∈ before.status.transitions := by
  intro always
  have admitted : ((ledger .default).run [.create .sample "t" "" "" 0]).db.tasks.map
      (fun task => (task.taskId, task.status)) = [("t", .admitted)] := by decide +kernel
  have running : ((ledger .default).run
      ([.create .sample "t" "" "" 0] ++ [.claim "t" "w" none "" 0])).db.tasks.map
        (fun task => (task.taskId, task.status)) = [("t", .running)] := by decide +kernel
  obtain ⟨before, stored, waiting⟩ := List.map_eq_singleton_iff.mp admitted
  obtain ⟨after, later, started⟩ := List.map_eq_singleton_iff.mp running
  obtain ⟨named, status⟩ := Prod.mk.inj waiting
  obtain ⟨laterNamed, laterStatus⟩ := Prod.mk.inj started
  have moved := always .default _ _ before (by rw [stored]; simp) after (by rw [later]; simp)
    (laterNamed.trans named.symm)
  rw [status, laterStatus] at moved
  revert moved
  decide

end HardwareDatabase.Sandbox
