/-
Module: HardwareDatabase.Proofs.TaskDispatch
Purpose: The runner calls of `submit`: processes with the default worker id cannot tell one another apart.
Trusted boundary: none
-/
import HardwareDatabase.Proofs.TaskLeases
import HardwareDatabase.Sandbox.Dispatch

namespace HardwareDatabase.Sandbox

open Python (strip)
open Relational
open DispatchState (ticketOf)

variable {env : Environment} {clock : Nat} {db after : Database} {reports : List Report}

/-! ### Claims in flight -/

/-- The claim under which a call is about to call the runner. -/
def Phase.ticket : Phase → Option (String × Nat)
  | .calling claimed => some (ticketOf claimed)
  | _ => none

/-- The row of a task has reached the token of a claim. -/
def Database.HasReached (db : Database) (ticket : String × Nat) : Prop :=
  ∃ task ∈ db.tasks, task.taskId = ticket.1 ∧ ticket.2 ≤ task.fencingToken

private theorem Writes.hasReached (writes : Writes env clock db after reports) (keyed : db.IsKeyed)
    {ticket : String × Nat} (reached : db.HasReached ticket) : after.HasReached ticket := by
  obtain ⟨task, member, named, within⟩ := reached
  rcases writes.row keyed member with stays | ⟨between, revised, events, handed, change, -, changed⟩
  · exact ⟨task, stays, named, within⟩
  · exact ⟨revised, changed, change.revises.taskId.trans named, within.trans change.token_le⟩

private theorem status_of_transition {call : TransitionCall} {row : Task}
    (done : transition env db call clock = .ok (after, row)) :
    TaskStatus.named? (strip call.toStatus) = some row.status := by
  unfold transition at done
  split at done
  · cases done
  · rename_i target named
    obtain ⟨task, _, done⟩ := exists_of_bind_eq_ok done
    obtain ⟨_, _, done⟩ := exists_of_bind_eq_ok done
    obtain ⟨_, _, done⟩ := exists_of_bind_eq_ok done
    split at done
    · rename_i same
      obtain ⟨_, _, done⟩ := exists_of_bind_eq_ok done
      cases done
      rw [named, same]
    · obtain ⟨_, _, done⟩ := exists_of_bind_eq_ok done
      obtain ⟨manifest, _, done⟩ := exists_of_bind_eq_ok done
      obtain ⟨written, _, done⟩ := exists_of_bind_eq_ok done
      cases done
      exact named

private theorem named_queued : TaskStatus.named? (strip "queued") = some .queued := by decide +kernel

private theorem recordOutcome_writes (keyed : db.IsKeyed) {claimed row : Task} {outcome : Outcome}
    (done : recordOutcome env db claimed outcome clock = .ok (after, row)) : Writes env clock db after [] := by
  cases outcome with
  | unknown => exact transition_writes keyed done
  | accepted =>
    simp only [recordOutcome] at done
    split at done
    · exact transition_writes keyed done
    · exact recordObservation_writes keyed done

/-! ### Steps -/

/-- A call that takes a running task over does so while no other call is about to call the runner under its
claim, and before the runner has received a call under it. -/
def DispatchState.ReentersAlone (state : DispatchState) : Step → Prop
  | .submit taskId => ∀ task, state.ledger.db.task? taskId = some task →
      submitPhase task = some (.calling task) →
        state.calls.NewFor Phase.ticket state.received state.calls.next (ticketOf task)
  | _ => True

/-- Claims are held by one call, their tokens have been reached, and the runner has received each once. -/
structure DispatchState.Sound (state : DispatchState) : Prop where
  keyed : state.ledger.db.IsKeyed
  exclusive : state.calls.Exclusive Phase.ticket state.received
  received : ∀ ticket ∈ state.received, state.ledger.db.HasReached ticket
  held : ∀ call ticket, state.calls.holds Phase.ticket call = some ticket → state.ledger.db.HasReached ticket

namespace DispatchState

variable {state : DispatchState}

private theorem ticket_submitPhase {task : Task} {ticket : String × Nat}
    (taken : (submitPhase task).bind Phase.ticket = some ticket) :
    submitPhase task = some (.calling task) ∧ ticket = ticketOf task := by
  unfold submitPhase claimPhase at taken ⊢
  split at taken
  · cases taken
  · rename_i running
    rw [if_neg running]
    split at taken
    · cases taken
    · rename_i started
      rw [if_neg started]
      split at taken
      · cases taken
      · rename_i queued
        rw [if_neg queued]
        split at taken
        · rename_i reenters
          rw [if_pos reenters]
          split at taken
          · cases taken
          · rename_i own
            cases taken
            exact ⟨if_neg own, rfl⟩
        · split at taken
          · cases taken
          · cases taken

private theorem ticket_claimPhase {task : Task} (queued : task.status = .queued) :
    (claimPhase task).bind Phase.ticket = none := by
  simp [claimPhase, queued, Phase.ticket]

private theorem Sound.commit (sound : state.Sound) (call : Nat) (phase : Option Phase)
    (writes : Writes env clock state.ledger.db after reports)
    (brings : ∀ ticket, phase.bind Phase.ticket = some ticket →
      state.calls.NewFor Phase.ticket state.received call ticket ∧ after.HasReached ticket) :
    ((state.commit after).moveTo call phase).Sound where
  keyed := writes.keyed sound.keyed
  exclusive := sound.exclusive.moveTo fun ticket taken => .inr (brings ticket taken).1
  received := fun ticket member => writes.hasReached sound.keyed (sound.received ticket member)
  held := by
    intro other ticket holding
    have moved : (state.calls.moveTo call phase).holds Phase.ticket other = some ticket := holding
    by_cases here : other = call
    · subst here
      rw [Calls.holds_moveTo_self] at moved
      exact (brings ticket moved).2
    · rw [Calls.holds_moveTo_of_ne Phase.ticket state.calls here] at moved
      exact writes.hasReached sound.keyed (sound.held other ticket moved)

private theorem writes_nothing (db : Database) : Writes Environment.default 0 db db [] :=
  .none db

private theorem Sound.ends (sound : state.Sound) (call : Nat) : (state.moveTo call none).Sound := by
  refine sound.commit call none (writes_nothing state.ledger.db) ?_
  intro ticket taken
  cases taken

private theorem Sound.submit (sound : state.Sound) {taskId : String} (alone : state.ReentersAlone (.submit taskId)) :
    (state.submit taskId).Sound := by
  -- the ticket of the new call is that of a row it has read
  have taken : ∀ ticket, ((state.ledger.db.task? taskId).bind submitPhase).bind Phase.ticket = some ticket →
      ∃ task, state.ledger.db.task? taskId = some task ∧ submitPhase task = some (.calling task) ∧
        ticket = ticketOf task := by
    intro ticket brought
    cases read : state.ledger.db.task? taskId with
    | none =>
      rw [read] at brought
      cases brought
    | some task =>
      rw [read] at brought
      obtain ⟨phase, same⟩ := ticket_submitPhase brought
      exact ⟨task, rfl, phase, same⟩
  have brings : ∀ ticket, ((state.ledger.db.task? taskId).bind submitPhase).bind Phase.ticket = some ticket →
      state.calls.NewFor Phase.ticket state.received state.calls.next ticket ∧
        state.ledger.db.HasReached ticket := by
    intro ticket brought
    obtain ⟨task, read, phase, rfl⟩ := taken ticket brought
    exact ⟨alone task read phase, task, List.mem_of_find?_eq_some read, rfl, Nat.le_refl _⟩
  have entered := sound.commit state.calls.next _
    (writes_nothing state.ledger.db) brings
  exact ⟨entered.keyed, sound.exclusive.enter fun ticket brought => (brings ticket brought).1, entered.received,
    entered.held⟩

private theorem Sound.claim (sound : state.Sound) {call : Nat} {taskId : String} {leaseSeconds : Option Int}
    {now : Nat} {claimed : Option Task}
    (done : Sandbox.claim env state.ledger.db taskId defaultWorkerId leaseSeconds "" now = .ok (after, claimed)) :
    ((state.commit after).moveTo call (claimed.map .calling)).Sound := by
  have writes := claim_writes sound.keyed (Nat.le_refl now) done
  refine sound.commit call _ writes ?_
  intro ticket brought
  rcases claim_cases done with
    ⟨-, rfl⟩ | ⟨task, member, -, waiting, ⟨-, rfl⟩ | ⟨expires, -, -, rfl, rfl⟩⟩
  · cases brought
  · cases brought
  · cases brought
    -- nobody has reached the next token of the task
    have next : ∀ ticket : String × Nat, state.ledger.db.HasReached ticket →
        ticket ≠ (task.taskId, task.fencingToken + 1) := by
      rintro ticket ⟨row, rowMember, named, within⟩ rfl
      obtain rfl := sound.keyed.eq_of_key rowMember member named
      exact absurd within (Nat.not_succ_le_self _)
    refine ⟨⟨?_, ?_⟩, ?_⟩
    · exact fun spent => next _ (sound.received _ spent) rfl
    · exact fun other _ held => next _ (sound.held other _ held) rfl
    · exact ⟨_, mem_claimed member waiting _ _ _ _, rfl, Nat.le_refl _⟩

private theorem Sound.proceedFrom (sound : state.Sound) {call : Nat} {phase : Phase}
    (running : state.calls.phase call = some phase) (leaseSeconds : Option Int) (lag : Nat)
    (outcome : Outcome) : (state.proceedFrom env call leaseSeconds lag outcome phase).Sound := by
  cases phase with
  | enqueueing =>
    simp only [DispatchState.proceedFrom]
    split
    · rename_i written queued done
      have status : some TaskStatus.queued = some queued.status := by
        rw [← status_of_transition done]
        exact named_queued.symm
      refine sound.commit call _ (transition_writes sound.keyed done) ?_
      intro ticket brought
      rw [ticket_claimPhase (Option.some.inj status).symm] at brought
      cases brought
    · exact sound.ends call
  | claiming =>
    simp only [DispatchState.proceedFrom]
    split
    · rename_i written claimed done
      exact sound.claim done
    · exact sound.ends call
  | calling claimed =>
    have holding : state.calls.holds Phase.ticket call = some (ticketOf claimed) := by
      rw [Calls.holds, running]
      rfl
    have moved := sound.commit call (some (.recording claimed))
      (writes_nothing state.ledger.db) fun ticket brought => by cases brought
    refine ⟨sound.keyed, sound.exclusive.spend holding rfl, ?_, moved.held⟩
    intro ticket member
    rcases List.mem_append.mp member with before | now
    · exact sound.received ticket before
    · rw [List.mem_singleton.mp now]
      exact sound.held call _ holding
  | recording =>
    simp only [DispatchState.proceedFrom]
    split
    · rename_i written row done
      refine sound.commit call none (recordOutcome_writes sound.keyed done) ?_
      intro ticket brought
      cases brought
    · exact sound.ends call

private theorem Sound.step (sound : state.Sound) {step : Step} (alone : state.ReentersAlone step) :
    (DispatchState.step env state step).Sound := by
  cases step with
  | submit => exact sound.submit alone
  | proceed call leaseSeconds lag outcome =>
    simp only [DispatchState.step]
    split
    · rename_i phase running
      exact sound.proceedFrom running leaseSeconds lag outcome
    · exact sound
  | crash call => exact sound.ends call
  | other op =>
    have writes := step_writes env sound.keyed op
    exact ⟨writes.keyed sound.keyed, sound.exclusive,
      fun ticket member => writes.hasReached sound.keyed (sound.received ticket member),
      fun call ticket holding => writes.hasReached sound.keyed (sound.held call ticket holding)⟩

end DispatchState

/-- In every run in which a call takes a running task over only while no other call holds its claim and
before the runner has received a call under it, the runner receives at most one call for every token of a
task. -/
theorem runner_called_once (env : Environment) {steps : List Step}
    (alone : (dispatch env).Respects DispatchState.ReentersAlone steps) :
    ((dispatch env).run steps).received.Nodup := by
  have sound : ((dispatch env).run steps).Sound := by
    refine Machine.guarded_invariant DispatchState.Sound ?_ ?_ alone
    · refine ⟨UniqueOn.nil _, Calls.Exclusive.nil _, ?_, ?_⟩
      · intro ticket member
        cases member
      · intro call ticket holding
        cases holding
    · intro state step sound here
      exact sound.step here
  exact sound.exclusive.once

/-- One process that admits, queues, claims and submits a task. -/
theorem runner_called_once_alone :
    ((dispatch .default).run [.other (.create .sample "t" "" "" 0), .submit "t", .proceed 0 none 0 .unknown,
      .proceed 0 none 0 .unknown, .proceed 0 none 0 .unknown]).received = [("t", 1)] ∧
    ((dispatch .default).run [.other (.create .sample "t" "" "" 0), .submit "t", .proceed 0 none 0 .unknown,
      .proceed 0 none 0 .unknown, .proceed 0 none 0 .unknown]).received.Nodup := by
  refine ⟨by decide +kernel, runner_called_once .default (Machine.RespectsFrom.respects ?_)⟩
  refine ⟨trivial, ?_, trivial, trivial, trivial, trivial⟩
  -- the task that the call reads is admitted, so that nothing is taken over
  intro task read reenters
  have admitted : (((dispatch .default).run [.other (.create .sample "t" "" "" 0)]).ledger.db.task? "t").map
      Task.status = some .admitted := by decide +kernel
  have status : task.status = .admitted := by
    have same := congrArg (Option.map Task.status) read
    exact Option.some.inj (same.symm.trans admitted)
  simp [submitPhase, status, TaskStatus.isTerminal] at reenters

/-- The second process reads the claim of the first one as its own. -/
theorem runner_called_twice : ¬ ∀ (env : Environment) (steps : List Step),
    ((dispatch env).run steps).received.Nodup := by
  intro always
  have twice := always .default [.other (.create .sample "t" "" "" 0), .submit "t",
    .proceed 0 none 0 .unknown, .proceed 0 none 0 .unknown, .submit "t", .proceed 0 none 0 .unknown,
    .proceed 1 none 0 .unknown]
  revert twice
  decide +kernel

end HardwareDatabase.Sandbox
