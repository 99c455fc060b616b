/-
Module: HardwareDatabase.Proofs.TaskLeases
Purpose: The tokens of a sandbox task grow strictly, and a stale lease is refused.
Trusted boundary: none
-/
import HardwareDatabase.Proofs.SandboxSteps

namespace HardwareDatabase.Sandbox

open Relational

variable {env : Environment} {clock : Nat} {db after : Database} {reports : List Report}

/-! ### Tokens

Each hand-over of a task takes its next token. -/

/-- The token of a grant for a task. -/
def Report.tokenFor (taskId : String) : Report → Option Nat
  | .granted id _ token => if id = taskId then some token else none
  | .renewed _ _ => none

/-- The tokens that have been granted for a task, oldest first. -/
def tokensOf (history : List Report) (taskId : String) : List Nat :=
  history.filterMap (Report.tokenFor taskId)

/-- The granted tokens grow, and the row of the task has reached the last of them. -/
def TokensGrow (db : Database) (history : List Report) : Prop :=
  ∀ taskId, (tokensOf history taskId).Pairwise (· < ·) ∧
    ∀ token ∈ tokensOf history taskId, ∃ task ∈ db.tasks, task.taskId = taskId ∧ token ≤ task.fencingToken

theorem tokensOf_append (history reports : List Report) (taskId : String) :
    tokensOf (history ++ reports) taskId = tokensOf history taskId ++ tokensOf reports taskId :=
  List.filterMap_append

theorem Change.tokens {task revised : Task} {events : List TaskEvent}
    (change : Change env clock db task revised events reports) (taskId : String) :
    tokensOf reports taskId = [] ∧ revised.fencingToken = task.fencingToken ∨
      revised.fencingToken = task.fencingToken + 1 ∧
        tokensOf reports taskId = if task.taskId = taskId then [task.fencingToken + 1] else [] := by
  cases change with
  | moved _ event revises logs edge token => exact .inl ⟨rfl, token⟩
  | noted _ event revises logs status token => exact .inl ⟨rfl, token⟩
  | claimed =>
    refine .inr ⟨rfl, ?_⟩
    by_cases same : task.taskId = taskId
    · simp [tokensOf, Report.tokenFor, same]
    · simp [tokensOf, Report.tokenFor, same]
  | renewed => exact .inl ⟨rfl, rfl⟩

theorem Change.token_le {task revised : Task} {events : List TaskEvent}
    (change : Change env clock db task revised events reports) : task.fencingToken ≤ revised.fencingToken := by
  rcases change.tokens task.taskId with ⟨-, same⟩ | ⟨next, -⟩
  · exact same.ge
  · rw [next]
    exact Nat.le_succ _

theorem tokensGrow_write {taskId : String} {history : List Report} (keyed : db.IsKeyed)
    (grow : TokensGrow db history) (write : Write env clock db taskId after reports) :
    TokensGrow after (history ++ reports) := by
  intro named
  obtain ⟨sorted, reached⟩ := grow named
  rw [tokensOf_append]
  cases write with
  | inserted spec _ =>
    rw [show tokensOf [] named = [] from rfl, List.append_nil]
    refine ⟨sorted, fun token granted => ?_⟩
    obtain ⟨task, member, here⟩ := reached token granted
    exact ⟨task, List.mem_append_left _ member, here⟩
  | changed task revised events _ member change =>
    -- what was reached before is still reached
    have still : ∀ token ∈ tokensOf history named,
        ∃ row ∈ replaceTask db.tasks task revised, row.taskId = named ∧ token ≤ row.fencingToken := by
      intro token granted
      obtain ⟨row, stored, same, within⟩ := reached token granted
      by_cases other : row.taskId = task.taskId
      · obtain rfl := keyed.eq_of_key stored member other
        exact ⟨revised, mem_replaceTask_self member, change.revises.taskId.trans same, within.trans change.token_le⟩
      · exact ⟨row, mem_replaceTask_of_ne stored other, same, within⟩
    rcases change.tokens named with ⟨none, -⟩ | ⟨next, handed⟩
    · rw [none, List.append_nil]
      exact ⟨sorted, still⟩
    · by_cases same : task.taskId = named
      · rw [handed, if_pos same]
        constructor
        · -- the tokens before are at most that of the row
          apply List.pairwise_append.mpr
          refine ⟨sorted, List.pairwise_singleton _ _, ?_⟩
          intro earlier granted token new
          obtain ⟨row, stored, sameRow, within⟩ := reached earlier granted
          obtain rfl := keyed.eq_of_key stored member (sameRow.trans same.symm)
          rw [List.mem_singleton.mp new]
          omega
        · intro token granted
          rcases List.mem_append.mp granted with before | new
          · exact still token before
          · refine ⟨revised, mem_replaceTask_self member, change.revises.taskId.trans same, ?_⟩
            rw [List.mem_singleton.mp new, next]
      · rw [handed, if_neg same, List.append_nil]
        exact ⟨sorted, still⟩

theorem tokensGrow_run (ops : List Op) :
    TokensGrow ((ledger env).run ops).db ((ledger env).emitted (State.reports env) ops) := by
  refine (ledger_history (fun _ db history => TokensGrow db history) ?_ ?_ ?_ ops).2
  · intro taskId
    exact ⟨List.Pairwise.nil, fun token granted => absurd granted List.not_mem_nil⟩
  · intro clock db history taskId after reports keyed grow write
    exact tokensGrow_write keyed grow write
  · intro clock db history elapsed grow
    exact grow

/-! ### Presented leases -/

/-- The lease that a guarded call presents: the task, the owner and the token. -/
def Op.presented : Op → Option (String × Option String × Option Int)
  | .transition call => if call.requireLease then some (call.taskId, call.leaseOwner, call.fencingToken) else none
  | .renewLease taskId leaseOwner fencingToken _ _ => some (taskId, some leaseOwner, some fencingToken)
  | .recordObservation call => some (call.taskId, some call.leaseOwner, some call.fencingToken)
  | .complete taskId leaseOwner fencingToken _ _ _ => some (taskId, some leaseOwner, some fencingToken)
  | .fail taskId leaseOwner fencingToken _ _ => some (taskId, some leaseOwner, some fencingToken)
  | .markUnknown taskId leaseOwner fencingToken _ =>
    if leaseOwner.isSome then some (taskId, leaseOwner, fencingToken) else none
  | .timeout taskId leaseOwner fencingToken => some (taskId, some leaseOwner, some fencingToken)
  | .setCleanupState earlier _ leaseOwner fencingToken _ _ =>
    if leaseOwner.isSome then some (earlier.taskId, leaseOwner, fencingToken) else none
  | _ => none

/-- The presented lease is the current one of its task, and it has not expired. -/
def Database.IsCurrent (db : Database) (clock : Nat) (presented : String × Option String × Option Int) : Prop :=
  ∃ task ∈ db.tasks, task.taskId = presented.1 ∧ ∃ owner token, presented.2 = (some owner, some token) ∧
    task.IsLeasedTo owner token clock

theorem isCurrent_of_assertLease {taskId : String} {task : Task} {leaseOwner : Option String}
    {fencingToken : Option Int} {result : Unit} (found : db.require taskId = .ok task)
    (passed : task.assertLease leaseOwner fencingToken clock = .ok result) :
    db.IsCurrent clock (taskId, leaseOwner, fencingToken) := by
  obtain ⟨member, named⟩ := require_eq_ok found
  obtain ⟨owner, token, rfl, rfl, held⟩ := Task.assertLease_eq_ok_iff.mp passed
  exact ⟨task, member, named, owner, token, rfl, held⟩

theorem isCurrent_of_transition {call : TransitionCall} {row : Task} (requires : call.requireLease = true)
    (done : transition env db call clock = .ok (after, row)) :
    db.IsCurrent clock (call.taskId, call.leaseOwner, call.fencingToken) := by
  unfold transition at done
  split at done
  · cases done
  · obtain ⟨task, found, done⟩ := exists_of_bind_eq_ok done
    obtain ⟨_, _, done⟩ := exists_of_bind_eq_ok done
    obtain ⟨_, passed, done⟩ := exists_of_bind_eq_ok done
    rw [TransitionCall.checkLease, if_pos requires] at passed
    exact isCurrent_of_assertLease found passed

theorem isCurrent_of_perform {op : Op} {presented : String × Option String × Option Int}
    (guarded : op.presented = some presented) (done : db.perform env clock op = .ok (after, reports)) :
    db.IsCurrent clock presented := by
  cases op with
  | transition | markUnknown =>
    simp only [Op.presented] at guarded
    split at guarded
    · rename_i requires
      cases guarded
      rw [Database.perform] at done
      obtain ⟨row, moved, -⟩ := handing_eq_ok done
      exact isCurrent_of_transition requires moved
    · cases guarded
  | renewLease =>
    cases guarded
    rw [Database.perform] at done
    obtain ⟨row, renewed, -⟩ := handing_eq_ok done
    obtain ⟨task, found, renewed⟩ := exists_of_bind_eq_ok renewed
    obtain ⟨_, passed, _⟩ := exists_of_bind_eq_ok renewed
    exact isCurrent_of_assertLease found passed
  | recordObservation =>
    cases guarded
    rw [Database.perform] at done
    obtain ⟨row, recorded, -⟩ := handing_eq_ok done
    obtain ⟨task, found, recorded⟩ := exists_of_bind_eq_ok recorded
    obtain ⟨_, _, recorded⟩ := exists_of_bind_eq_ok recorded
    obtain ⟨_, passed, _⟩ := exists_of_bind_eq_ok recorded
    exact isCurrent_of_assertLease found passed
  | complete | fail | timeout =>
    cases guarded
    rw [Database.perform] at done
    obtain ⟨row, moved, -⟩ := handing_eq_ok done
    exact isCurrent_of_transition rfl moved
  | setCleanupState =>
    simp only [Op.presented] at guarded
    split at guarded
    · rename_i requires
      cases guarded
      rw [Database.perform] at done
      obtain ⟨row, cleaned, -⟩ := handing_eq_ok done
      unfold setCleanupState at cleaned
      split at cleaned
      · cases cleaned
      · obtain ⟨_, _, cleaned⟩ := exists_of_bind_eq_ok cleaned
        obtain ⟨task, found, cleaned⟩ := exists_of_bind_eq_ok cleaned
        obtain ⟨_, passed, _⟩ := exists_of_bind_eq_ok cleaned
        rw [checkOptionalLease, if_pos requires] at passed
        exact isCurrent_of_assertLease found passed
    · cases guarded
  | _ => cases guarded

theorem granted_of_perform {op : Op} {taskId owner : String} {token : Nat}
    (done : db.perform env clock op = .ok (after, reports)) (granted : .granted taskId owner token ∈ reports) :
    ∃ before ∈ db.tasks, ∃ row ∈ after.tasks, before.taskId = taskId ∧ row.taskId = taskId ∧
      before.fencingToken < token ∧ row.fencingToken = token ∧ row.leaseOwner = owner := by
  cases op with
  | claim named workerId leaseSeconds actorId =>
    rw [Database.perform] at done
    obtain ⟨row, claimed, rfl⟩ := handing_eq_ok done
    rcases claim_cases claimed with
      ⟨-, rfl⟩ | ⟨task, member, -, waiting, ⟨-, rfl⟩ | ⟨expires, -, room, rfl, rfl⟩⟩
    · cases granted
    · cases granted
    · cases List.mem_singleton.mp granted
      exact ⟨task, member, _, mem_claimed member waiting _ actorId _ expires, rfl, rfl, Nat.lt_succ_self _,
        rfl, rfl⟩
  | renewLease =>
    rw [Database.perform] at done
    obtain ⟨row, -, rfl⟩ := handing_eq_ok done
    cases List.mem_singleton.mp granted
  | reconcileExpiredLeases =>
    cases done
    cases granted
  | expireDeadlines =>
    cases done
    cases granted
  | tick =>
    cases done
    cases granted
  | _ =>
    rw [Database.perform] at done
    obtain ⟨row, -, rfl⟩ := handing_eq_ok done
    cases granted

/-- In every run the granted tokens of a task grow strictly, a claim that succeeds raises the token of its
task, and a guarded call whose lease is not the current one of its task, or has expired, raises and leaves
the tables as they are. -/
theorem task_leases_fence (env : Environment) (ops : List Op) :
    (∀ taskId, (tokensOf ((ledger env).emitted (State.reports env) ops) taskId).Pairwise (· < ·)) ∧
      (∀ op taskId owner token, .granted taskId owner token ∈ ((ledger env).run ops).reports env op →
        ∃ before ∈ ((ledger env).run ops).db.tasks, ∃ after ∈ ((ledger env).run (ops ++ [op])).db.tasks,
          before.taskId = taskId ∧ after.taskId = taskId ∧ before.fencingToken < token ∧
            after.fencingToken = token ∧ after.leaseOwner = owner) ∧ ∀ op presented, op.presented = some presented →
        ¬ ((ledger env).run ops).db.IsCurrent ((ledger env).run ops).clock presented →
        (∃ failure, ((ledger env).run ops).db.perform env ((ledger env).run ops).clock op = .error failure) ∧
          ((ledger env).run (ops ++ [op])).db = ((ledger env).run ops).db := by
  refine ⟨fun taskId => (tokensGrow_run ops taskId).1, ?_, ?_⟩
  · intro op taskId owner token granted
    rw [Machine.run_concat]
    unfold State.reports at granted
    cases done : ((ledger env).run ops).db.perform env ((ledger env).run ops).clock op with
    | error =>
      rw [done] at granted
      cases granted
    | ok =>
      rw [done] at granted
      obtain ⟨before, member, row, later, facts⟩ := granted_of_perform done granted
      refine ⟨before, member, row, ?_, facts⟩
      show row ∈ (((ledger env).run ops).tables env op).tasks
      rw [State.tables, done]
      exact later
  · intro op presented guarded stale
    rw [Machine.run_concat]
    cases done : ((ledger env).run ops).db.perform env ((ledger env).run ops).clock op with
    | ok => exact absurd (isCurrent_of_perform guarded done) stale
    | error failure =>
      refine ⟨⟨failure, rfl⟩, ?_⟩
      show ((ledger env).run ops).tables env op = _
      rw [State.tables, done]

/-! ### Revisions -/

/-- The task of an earlier row, which is the same row as long as its revision is. -/
def Database.Succeeds (db : Database) (task : Task) : Prop :=
  ∃ later ∈ db.tasks, later.taskId = task.taskId ∧ later.admission = task.admission ∧
    task.fencingToken ≤ later.fencingToken ∧ (later = task ∨ task.revision < later.revision)

theorem succeeds_step {state : State} (keyed : state.db.IsKeyed) (op : Op) {task : Task}
    (succeeds : state.db.Succeeds task) : (state.tables env op).Succeeds task := by
  obtain ⟨later, member, named, admission, token, revision⟩ := succeeds
  rcases (step_writes env keyed op).row keyed member with
    stays | ⟨between, revised, events, handed, change, -, changed⟩
  · exact ⟨later, stays, named, admission, token, revision⟩
  · have revises := change.revises
    refine ⟨revised, changed, revises.taskId.trans named, revises.admission.trans admission,
      token.trans change.token_le, .inr ?_⟩
    rw [revises.revision]
    rcases revision with rfl | grown
    · exact Nat.lt_succ_self _
    · exact Nat.lt_succ_of_lt grown

/-- In every run a task stays with its admission, its fencing token and its revision never fall, and a revision
stands for one row: whoever finds the revision that it has read before finds the row that it has read. -/
theorem task_revisions_identify (env : Environment) (first second : List Op) :
    ∀ task ∈ ((ledger env).run first).db.tasks,
      ∃ later ∈ ((ledger env).run (first ++ second)).db.tasks, later.taskId = task.taskId ∧
        later.admission = task.admission ∧ task.fencingToken ≤ later.fencingToken ∧
          (later = task ∨ task.revision < later.revision) := by
  intro task member
  apply Machine.stable fun state : State => state.db.Succeeds task
  · exact fun before op succeeds => succeeds_step (run_keyed before) op succeeds
  · exact ⟨task, member, rfl, rfl, Nat.le_refl _, .inl rfl⟩

/-- A claim makes a new row of the task that was admitted. -/
theorem claimed_task_is_identified : ∃ task ∈ ((ledger .default).run [.create .sample "t" "" "" 0]).db.tasks,
      ∃ later ∈ ((ledger .default).run ([.create .sample "t" "" "" 0] ++ [.claim "t" "w" none "" 0])).db.tasks,
        later.taskId = task.taskId ∧ later.admission = task.admission ∧
          task.fencingToken ≤ later.fencingToken ∧ (later = task ∨ task.revision < later.revision) := by
  obtain ⟨task, member⟩ := List.exists_mem_of_ne_nil
    ((ledger .default).run [.create .sample "t" "" "" 0]).db.tasks (by decide)
  exact ⟨task, member, task_revisions_identify .default _ _ task member⟩

end HardwareDatabase.Sandbox
