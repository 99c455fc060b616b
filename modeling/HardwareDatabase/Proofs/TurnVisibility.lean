/-
Module: HardwareDatabase.Proofs.TurnVisibility
Purpose: No turn is stuck: each unfinished turn is listed, and some sweep selects it.
Trusted boundary: none
-/
import HardwareDatabase.Proofs.TurnRuns

namespace HardwareDatabase.Conversation

open Memory (Time)
open Relational

/-- The columns of an open turn agree with the sweep that looks after it. -/
def Turn.Visible (turn : Turn) : Prop :=
  turn.status = .waitingForAttachments ∨
    (turn.status = .pending ∧ turn.cancelRequested = false) ∨
    (turn.status.isRunning = true ∧ turn.workerHeartbeatAt.isSome = true)

/-- One of the three sweeps selects the turn. -/
def Turn.swept (seconds : Nat) (dbNow : Time) (turn : Turn) : Bool :=
  turn.waitedOut seconds dbNow || turn.queuedOut seconds dbNow || turn.isStale seconds dbNow

/-- What the columns have to satisfy: only a running turn carries a cancel request, and a running turn
has a heartbeat. -/
structure Turn.Tracked (turn : Turn) : Prop where
  queued : turn.status = .waitingForAttachments ∨ turn.status = .pending → turn.cancelRequested = false
  beating : turn.status.isRunning = true → turn.workerHeartbeatAt.isSome = true

variable {turn after : Turn}

theorem Turn.Tracked.move (tracked : turn.Tracked) (move : TurnMove turn after) : after.Tracked := by
  cases move with
  | annotate status cancel answer beat =>
    constructor
    · rw [status, cancel]
      exact tracked.queued
    · rw [status]
      exact fun running => beat (tracked.beating running)
  | requeue running kept status cancel =>
    constructor
    · exact fun _ => cancel
    · rw [status]
      intro stillRunning
      simp [TurnStatus.isRunning] at stillRunning
  | ready waiting status cancel =>
    constructor
    · intro _
      rw [cancel]
      exact tracked.queued (Or.inl waiting)
    · rw [status]
      intro stillRunning
      simp [TurnStatus.isRunning] at stillRunning
  | revoke running status cancel answer beat =>
    constructor
    · rw [status]
      simp
    · rw [beat]
      exact fun _ => tracked.beating running
  | conclude unfinished status =>
    constructor
    · rcases status with status | status <;> simp [status]
    · rcases status with status | status <;> simp [status, TurnStatus.isRunning]
  | complete unsettled status =>
    constructor
    · simp [status]
    · simp [status, TurnStatus.isRunning]
  | start pending kept status cancel answer beat =>
    constructor
    · exact fun _ => cancel
    · exact fun _ => beat

theorem Turn.IsNew.tracked {store : Store} (isNew : turn.IsNew store) : turn.Tracked where
  queued := fun _ => isNew.cancel
  beating := by
    intro running
    rcases isNew.status with status | status <;> simp [status, TurnStatus.isRunning] at running

theorem tracked_run (env : Environment) (ops : List Op) :
    ∀ turn ∈ ((conversationService env).run ops).turns, turn.Tracked := by
  apply anySteps_invariant (fun store => ∀ turn ∈ store.turns, turn.Tracked)
  · simp [Store.empty]
  · intro old new ok tracked step turn found
    rcases step.turn_origin ok found with ⟨before, member, _, move⟩ | isNew
    · exact (tracked before member).move move
    · exact isNew.tracked

theorem Turn.Tracked.visible (tracked : turn.Tracked) (unfinished : turn.status.isNonTerminal = true) :
    turn.Visible := by
  cases status : turn.status with
  | pending => exact Or.inr (Or.inl ⟨status, tracked.queued (Or.inr status)⟩)
  | waitingForAttachments => exact Or.inl status
  | streaming | cancelling =>
    have running : turn.status.isRunning = true := by
      rw [status]
      rfl
    exact Or.inr (Or.inr ⟨running, tracked.beating running⟩)
  | completed | failed | cancelled =>
    rw [status] at unfinished
    simp [TurnStatus.isNonTerminal] at unfinished

theorem olderThan_eventually (seconds instant : Nat) :
    ∃ since : Nat, ∀ dbNow : Nat, since ≤ dbNow → olderThan seconds dbNow (some instant) = true := by
  refine ⟨instant + (seconds + 1) * 1000000, ?_⟩
  intro dbNow late
  have passed : datetime instant + seconds < datetime dbNow := by
    simp only [datetime]
    omega
  simpa [olderThan] using passed

theorem Turn.Visible.swept (visible : turn.Visible) (seconds : Nat) :
    ∃ since, ∀ dbNow, since ≤ dbNow → turn.swept seconds dbNow = true := by
  rcases visible with waiting | ⟨pending, kept⟩ | ⟨running, beating⟩
  · obtain ⟨since, old⟩ := olderThan_eventually seconds turn.createdAt
    refine ⟨since, fun dbNow late => ?_⟩
    simp [Turn.swept, Turn.waitedOut, waiting, old dbNow late]
  · obtain ⟨since, old⟩ := olderThan_eventually seconds turn.createdAt
    refine ⟨since, fun dbNow late => ?_⟩
    simp [Turn.swept, Turn.queuedOut, pending, kept, old dbNow late]
  · obtain ⟨beat, stored⟩ := Option.isSome_iff_exists.mp beating
    obtain ⟨since, old⟩ := olderThan_eventually seconds beat
    refine ⟨since, fun dbNow late => ?_⟩
    simp [Turn.swept, Turn.isStale, running, stored, old dbNow late]

/-- In every reachable state an unfinished turn waits for attachments, is pending without a cancel
request, or runs with a heartbeat; so some sweep selects it from some instant on. -/
theorem no_turn_stuck (env : Environment) (ops : List Op) :
    ∀ turn ∈ ((conversationService env).run ops).turns, turn.status.isNonTerminal = true →
      turn.Visible ∧ ∀ seconds, ∃ since, ∀ dbNow, since ≤ dbNow → turn.swept seconds dbNow = true := by
  intro turn member unfinished
  have visible := (tracked_run env ops turn member).visible unfinished
  exact ⟨visible, visible.swept⟩

/-- A turn that a worker has claimed. -/
theorem no_turn_stuck_claimed : ∃ turn ∈ ((conversationService sampleEnvironment).run
        [.createSession 1 "kb" "board" none (some 3), .createTurn sampleRequest 1000000,
          .claimTurnResult 1 1 "first" 0 2000000 2000000]).turns,
      turn.Visible ∧ ∀ seconds, ∃ since, ∀ dbNow, since ≤ dbNow → turn.swept seconds dbNow = true := by
  have stored : ((conversationService sampleEnvironment).run
      [.createSession 1 "kb" "board" none (some 3), .createTurn sampleRequest 1000000,
        .claimTurnResult 1 1 "first" 0 2000000 2000000]).turns.map (fun turn => turn.status.isNonTerminal) =
        [true] := by decide
  obtain ⟨turn, member, unfinished⟩ := List.mem_map.mp (stored ▸ List.mem_singleton_self true)
  exact ⟨turn, member, no_turn_stuck sampleEnvironment _ turn member unfinished⟩

end HardwareDatabase.Conversation
