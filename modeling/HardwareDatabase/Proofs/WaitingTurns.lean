/-
Module: HardwareDatabase.Proofs.WaitingTurns
Purpose: A transition out of the attachment wait that comes too late leaves every row alone, but for the failure text.
Trusted boundary: none
-/
import HardwareDatabase.Proofs.TurnRuns

namespace HardwareDatabase.Conversation

open Memory (Time)
open Relational

namespace Store

/-- The assistant message of a turn. -/
def messagesOf (store : Store) (turnId : Nat) : List Message :=
  match store.turnById turnId with
  | none => []
  | some turn => store.messages.filter fun message => message.id == turn.assistantMessageId

/-- The row of the turn and its assistant message are as before. -/
def KeepsTurn (before after : Store) (turnId : Nat) : Prop :=
  after.turnById turnId = before.turnById turnId ∧
    after.messagesOf turnId = before.messagesOf turnId

/-- The turn still has the blank message that it was created with. -/
def hasBlank (store : Store) (turnId : Nat) : Bool :=
  (store.messagesOf turnId).any fun message => message.content == ""

/-- The turn waits for its attachments. -/
def isWaiting (store : Store) (turnId : Nat) : Bool :=
  store.turns.any fun turn => turn.id == turnId && turn.status == .waitingForAttachments

end Store

variable {store after : Store} {turnId : Nat}

namespace Store

private theorem KeepsTurn.refl (store : Store) (turnId : Nat) : store.KeepsTurn store turnId :=
  ⟨rfl, rfl⟩

private theorem updateTurn_of_not_waiting {f : Turn → Turn} (left : store.isWaiting turnId = false) :
    store.updateTurn turnId (fun turn => turn.status == .waitingForAttachments) f = store := by
  have none : ∀ turn ∈ store.turns,
      (turn.id == turnId && turn.status == .waitingForAttachments) = true → f turn = turn := by
    intro turn member selected
    rw [isWaiting, List.any_eq_false] at left
    exact absurd selected (left turn member)
  rw [updateTurn, updateWhere_eq_self none]

private theorem messagesOf_fillBlankOf_eq_iff {text : String} (words : text ≠ "") :
    (store.fillBlankOf turnId text).messagesOf turnId = store.messagesOf turnId ↔ store.hasBlank turnId = false := by
  unfold hasBlank
  simp only [fillBlankOf]
  cases found : store.turnById turnId with
  | none => simp [messagesOf, found]
  | some turn =>
    have row : (store.fillBlank turn.assistantMessageId text).turnById turnId = some turn := found
    have after : (store.fillBlank turn.assistantMessageId text).messagesOf turnId =
        updateWhere
          (fun message => message.id == turn.assistantMessageId && message.content == "")
          (fun message => { message with content := text }) (store.messagesOf turnId) := by
      simp only [messagesOf, row, found]
      exact filter_updateWhere_comm store.messages fun message => rfl
    rw [after, updateWhere_eq_self_iff, List.any_eq_false]
    refine forall₂_congr fun message member => ?_
    have home : message.id = turn.assistantMessageId := by
      simp only [messagesOf, found, List.mem_filter, beq_iff_eq] at member
      exact member.2
    simp only [home, beq_self_eq_true, Bool.true_and, beq_iff_eq]
    constructor
    · intro kept blank
      have written : text = message.content := congrArg Message.content (kept blank)
      exact words (written.trans blank)
    · exact fun full blank => absurd blank full

private theorem fillBlankOf_of_full {text : String} (full : store.hasBlank turnId = false) :
    store.fillBlankOf turnId text = store := by
  unfold hasBlank at full
  cases found : store.turnById turnId with
  | none => simp [fillBlankOf, found]
  | some =>
    rw [List.any_eq_false] at full
    simp only [fillBlankOf, found, fillBlank]
    rw [updateWhere_eq_self]
    intro message member selected
    simp only [Bool.and_eq_true] at selected
    refine absurd selected.2 (full message ?_)
    simp only [messagesOf, found, List.mem_filter]
    exact ⟨member, selected.1⟩

private theorem turnById_fillBlankOf (text : String) :
    (store.fillBlankOf turnId text).turnById turnId = store.turnById turnId := by
  simp only [fillBlankOf]
  cases found : store.turnById turnId with
  | none => exact found
  | some => exact found

/-- What is left of a transition once the turn has left the wait. -/
def noticeOfLostWait (store : Store) (turnId : Nat) (errorMessage : String) : WaitOutcome → Store
  | .pending => store
  | .failed => store.fillBlankOf turnId ("附件解析失败：" ++ Python.clip 400 errorMessage)

/-- A transition reports that it was lost exactly if the turn no longer waits, and then it writes at
most the notice. -/
theorem transitionWaitingTurn_eq (outcome : WaitOutcome) (errorMessage : String) (now : Time)
    (left : store.isWaiting turnId = false) : store.transitionWaitingTurn turnId outcome errorMessage now =
      (store.noticeOfLostWait turnId errorMessage outcome, false) := by
  have lost := left
  rw [isWaiting] at lost
  cases outcome with
  | pending | failed =>
    simp only [transitionWaitingTurn, updateTurn_of_not_waiting left, lost, noticeOfLostWait]

private theorem noticeOfLostWait_keeps_iff (errorMessage : String) (outcome : WaitOutcome) :
    store.KeepsTurn (store.noticeOfLostWait turnId errorMessage outcome) turnId ↔
      (outcome = .failed → store.hasBlank turnId = false) := by
  cases outcome with
  | pending =>
    constructor
    · intro _ failed
      cases failed
    · exact fun _ => KeepsTurn.refl store turnId
  | failed =>
    have words : "附件解析失败：" ++ Python.clip 400 errorMessage ≠ "" := by
      intro blank
      have length := congrArg String.length blank
      simp at length
    rw [noticeOfLostWait, KeepsTurn, turnById_fillBlankOf, messagesOf_fillBlankOf_eq_iff words]
    simp

private theorem noticeOfLostWait_eq (errorMessage : String) {outcome : WaitOutcome}
    (full : outcome = .failed → store.hasBlank turnId = false) :
    store.noticeOfLostWait turnId errorMessage outcome = store := by
  cases outcome with
  | pending => rfl
  | failed => exact fillBlankOf_of_full (full rfl)

/-- A call that reports a lost transition named one of the two destinations of a turn that no longer
waits. -/
theorem transitionWaitingTurnTo_lost {toStatus errorMessage : String} {now : Time}
    (lost : store.transitionWaitingTurnTo turnId toStatus errorMessage now = .ok (after, false)) :
    ∃ outcome, WaitOutcome.ofStatus toStatus = some outcome ∧ store.isWaiting turnId = false ∧
      after = store.noticeOfLostWait turnId errorMessage outcome := by
  rw [transitionWaitingTurnTo] at lost
  cases named : WaitOutcome.ofStatus toStatus with
  | none =>
    rw [named] at lost
    cases lost
  | some outcome =>
    rw [named] at lost
    have result : store.transitionWaitingTurn turnId outcome errorMessage now = (after, false) :=
      Except.ok.inj lost
    have left : store.isWaiting turnId = false := by
      cases outcome <;> exact congrArg Prod.snd result
    rw [transitionWaitingTurn_eq outcome errorMessage now left] at result
    exact ⟨outcome, rfl, left, (congrArg Prod.fst result).symm⟩

private theorem expireWaitingTurn_eq (seconds : Nat) (now : Time) (left : store.isWaiting turnId = false) :
    store.expireWaitingTurn seconds now turnId =
      store.noticeOfLostWait turnId "附件解析等待超时，本轮请求已取消；可稍后重新发送。" .failed := by
  rw [expireWaitingTurn, transitionWaitingTurn_eq .failed _ now left]

end Store

private theorem WaitOutcome.ofStatus_eq_failed {status : String} {outcome : WaitOutcome}
    (named : WaitOutcome.ofStatus status = some outcome) : outcome = .failed ↔ status = "failed" := by
  unfold WaitOutcome.ofStatus at named
  split at named
  · rename_i pending
    cases named
    simp [pending]
  · split at named
    · rename_i failed
      cases named
      simp [failed]
    · cases named

/-- A transition that reports that the turn no longer waits leaves the row and the message of the turn
as they were exactly if it was not to `failed` or the turn has no blank message left, and then it leaves
the whole store. The same holds of the timeout sweep when it comes to the turn. -/
theorem lost_wait_keeps_turn_iff (store after : Store) (turnId : Nat) (toStatus errorMessage : String) (now : Time)
    (lost : store.transitionWaitingTurnTo turnId toStatus errorMessage now = .ok (after, false)) :
    (store.KeepsTurn after turnId ↔ (toStatus = "failed" → store.hasBlank turnId = false)) ∧
      (store.KeepsTurn after turnId → after = store) ∧
      ∀ seconds, store.KeepsTurn (store.expireWaitingTurn seconds now turnId) turnId ↔
        store.hasBlank turnId = false := by
  obtain ⟨outcome, named, left, rfl⟩ := Store.transitionWaitingTurnTo_lost lost
  have keeps := @Store.noticeOfLostWait_keeps_iff store turnId errorMessage outcome
  refine ⟨?_, ?_, ?_⟩
  · rw [keeps, WaitOutcome.ofStatus_eq_failed named]
  · exact fun kept => Store.noticeOfLostWait_eq errorMessage (keeps.mp kept)
  · intro seconds
    rw [Store.expireWaitingTurn_eq seconds now left, Store.noticeOfLostWait_keeps_iff]
    simp

/-- A turn that waited for an attachment and was then released to the queue. -/
def releasedTurn : List Op :=
  [.createSession 1 "kb" "board" none (some 3),
    .createTurn { sampleRequest with parseStatuses := ["running"] } 1000000,
    .transitionWaitingTurn 1 .pending "" 2000000]

/-- The same, after the user cancelled it while it waited. -/
def cancelledWait : List Op :=
  [.createSession 1 "kb" "board" none (some 3),
    .createTurn { sampleRequest with parseStatuses := ["running"] } 1000000,
    .requestTurnCancel (some .waitingForAttachments) 1 1 2000000]

/-- A timeout that comes after the user's cancel finds the message filled. -/
theorem lost_wait_of_cancelled_turn :
    let store := (conversationService sampleEnvironment).run cancelledWait
    (store.KeepsTurn store 1 ↔ ("failed" = "failed" → store.hasBlank 1 = false)) ∧
      (store.KeepsTurn store 1 → store = store) ∧
      ∀ seconds, store.KeepsTurn (store.expireWaitingTurn seconds 3000000 1) 1 ↔
        store.hasBlank 1 = false :=
  lost_wait_keeps_turn_iff _ _ 1 "failed" "timeout" 3000000 (by decide)

/-- A timeout sweep that picked the turn before the attachment was parsed: the turn is queued to run,
and the failure text is written into its message. -/
theorem lost_timeout_fills_message :
    ¬ ∀ (ops : List Op) (turnId : Nat) (toStatus errorMessage : String) (now : Time) (after : Store),
      let store := (conversationService sampleEnvironment).run ops
      store.transitionWaitingTurnTo turnId toStatus errorMessage now = .ok (after, false) →
        store.KeepsTurn after turnId := by
  intro keeps
  have left : ((conversationService sampleEnvironment).run releasedTurn).isWaiting 1 = false := by
    decide
  have lost : ((conversationService sampleEnvironment).run releasedTurn).transitionWaitingTurnTo 1
      "failed" "timeout" 3000000 = .ok
        (((conversationService sampleEnvironment).run releasedTurn).noticeOfLostWait 1 "timeout"
          .failed, false) := by
    rw [Store.transitionWaitingTurnTo]
    exact congrArg Except.ok (Store.transitionWaitingTurn_eq .failed "timeout" 3000000 left)
  have kept := keeps releasedTurn 1 "failed" "timeout" 3000000 _ lost
  have full := (Store.noticeOfLostWait_keeps_iff "timeout" .failed).mp kept rfl
  revert full
  decide

end HardwareDatabase.Conversation
