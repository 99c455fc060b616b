/-
Module: HardwareDatabase.Proofs.TurnMessages
Purpose: What a step can make of the assistant message of a turn.
Trusted boundary: none
-/
import HardwareDatabase.Proofs.TurnRuns

namespace HardwareDatabase.Conversation

open Memory (Time)
open Relational

variable {env : Environment} {may : Store → Deed → Prop} {old new store : Store}

/-- Message ids are counted up. -/
def MessagesFresh (store : Store) : Prop :=
  ∀ message ∈ store.messages, message.id < store.nextMessageId

/-- A message after a step. -/
inductive MessageOrigin (may : Store → Deed → Prop) (old new : Store) (message : Message) : Prop
  | kept (member : message ∈ old.messages)
  | edited {before : Message} (member : before ∈ old.messages) (id : before.id = message.id)
      (touched : message.editedAt.isSome = true)
  /-- a new message; the one of a new turn is blank -/
  | posted (fresh : old.nextMessageId ≤ message.id) (known : message.id < new.nextMessageId)
      (blank : ∀ turn ∈ new.turns, turn.assistantMessageId = message.id → message.content = "")
  /-- a notice in the blank message of a turn, which the statement did not complete -/
  | filled {before : Message} {turn : Turn} (member : before ∈ old.messages)
      (id : before.id = message.id) (blank : before.content = "") (words : IsNotice message.content)
      (turnMember : turn ∈ old.turns) (home : turn.assistantMessageId = message.id)
      (allowed : turn.status = .completed → may old (.notice turn))
      (rows : ∀ row ∈ new.turns, row.assistantMessageId = message.id → row.status = .completed →
        turn.status = .completed)
  /-- the answer of a completion -/
  | answered {before : Message} {turn : Turn} (member : before ∈ old.messages)
      (id : before.id = message.id) (turnMember : turn ∈ old.turns)
      (home : turn.assistantMessageId = message.id) (allowed : may old (.complete turn))
      (rows : ∀ row ∈ new.turns, row.assistantMessageId = message.id →
        row.cancelRequested = turn.cancelRequested ∧
          ((turn.status.isSettled = true ∧ row = turn) ∨
            (row.status = .completed ∧ row.answer = message.content)))

theorem mem_fillBlank {messageId : Nat} {text : String} {message : Message}
    (found : message ∈ (store.fillBlank messageId text).messages) : message ∈ store.messages ∨
      ∃ before ∈ store.messages, before.id = messageId ∧ before.content = "" ∧
        message = { before with content := text } := by
  rcases mem_updateWhere.mp found with ⟨before, member, selected, rfl⟩ | ⟨kept, _⟩
  · simp only [Bool.and_eq_true, beq_iff_eq] at selected
    exact Or.inr ⟨before, member, selected.1, selected.2, rfl⟩
  · exact Or.inl kept

theorem TurnStep.message_origin (step : TurnStep env may old new) (ok : StoreOk old)
    {message : Message} (found : message ∈ new.messages) : MessageOrigin may old new message := by
  cases step with
  | quiet same =>
    rw [same.messages] at found
    exact .kept found
  | post fresh =>
    rcases List.mem_append.mp found with earlier | here
    · exact .kept earlier
    · rw [List.mem_singleton.mp here]
      refine .posted (Nat.le_of_eq fresh.symm) ?_ ?_
      · rw [fresh]
        exact Nat.lt_succ_self _
      · intro turn member home
        have earlier := ok.assistantFresh turn member
        omega
  | edit =>
    rcases mem_updateWhere.mp found with ⟨before, member, _, rfl⟩ | ⟨kept, _⟩
    · exact .edited member rfl rfl
    · exact .kept kept
  | @create request session now =>
    have counter : (old.insertTurn env request session now).nextMessageId =
        old.nextMessageId + 2 := rfl
    have assistant : ∀ turn ∈ (old.insertTurn env request session now).turns,
        turn.assistantMessageId ≠ old.nextMessageId := by
      intro turn turnMember home
      rcases List.mem_append.mp turnMember with earlier | fresh
      · have below := ok.assistantFresh turn earlier
        omega
      · rw [List.mem_singleton.mp fresh] at home
        simp [TurnRequest.row] at home
    simp only [Store.insertTurn, Store.allot, List.mem_append, List.mem_cons, List.not_mem_nil, or_false] at found
    rcases found with earlier | rfl | rfl
    · exact .kept earlier
    · refine .posted (Nat.le_refl _) (by rw [counter]; simp) ?_
      exact fun turn turnMember home => absurd home (assistant turn turnMember)
    · exact .posted (Nat.le_succ _) (by rw [counter]; simp) fun _ _ _ => rfl
  | forget | drop => exact .kept (mem_of_mem_deleteWhere found)
  | @conclude turn f text noted member unfinished same status answer cancel words =>
    cases text with
    | none => exact .kept found
    | some notice =>
      have there : message ∈ ((old.rewriteTurn turn.id f).fillBlank turn.assistantMessageId
          notice).messages := found
      rcases mem_fillBlank there with kept | ⟨before, beforeMember, id, blank, rfl⟩
      · exact .kept kept
      · refine .filled beforeMember rfl blank (words notice rfl) member id.symm ?_ ?_
        · intro completed
          rw [completed] at unfinished
          simp [TurnStatus.isNonTerminal] at unfinished
        · intro row rowMember home completed
          have rewritten : row ∈ (old.rewriteTurn turn.id f).turns := rowMember
          rcases ok.mem_rewriteTurn member rewritten with ⟨kept, different⟩ | rfl
          · have sameMessage : row.assistantMessageId = turn.assistantMessageId := home.trans id
            exact absurd (congrArg Turn.id (ok.assistants.eq_of_key kept member sameMessage))
              different
          · rcases status with ended | ended <;> rw [ended] at completed <;> simp at completed
  | @complete turn f content noted member allowed same status answer cancel =>
    have there : message ∈ (old.setContent turn.assistantMessageId content).messages := found
    rcases mem_updateWhere.mp there with ⟨before, beforeMember, selected, rfl⟩ | ⟨kept, _⟩
    · have home : turn.assistantMessageId = before.id := by
        rw [beq_iff_eq] at selected
        exact selected.symm
      refine .answered beforeMember rfl member home allowed ?_
      intro row rowMember rowHome
      have rewritten : row ∈ (old.updateTurn turn.id (fun turn => !turn.status.isSettled) f).turns :=
        rowMember
      rcases ok.mem_updateTurn member rewritten with ⟨kept, different | ⟨rfl, settled⟩⟩ | ⟨rfl, _⟩
      · have sameMessage : row.assistantMessageId = turn.assistantMessageId :=
          rowHome.trans home.symm
        exact absurd (congrArg Turn.id (ok.assistants.eq_of_key kept member sameMessage)) different
      · exact ⟨rfl, Or.inl ⟨by simpa using settled, rfl⟩⟩
      · exact ⟨cancel, Or.inr ⟨status, answer⟩⟩
    · exact .kept kept
  | @notice turn text member allowed words =>
    rcases mem_fillBlank found with kept | ⟨before, beforeMember, id, blank, rfl⟩
    · exact .kept kept
    · refine .filled beforeMember rfl blank words member id.symm allowed ?_
      intro row rowMember home completed
      have sameMessage : row.assistantMessageId = turn.assistantMessageId := home.trans id
      rw [← ok.assistants.eq_of_key rowMember member sameMessage]
      exact completed
  | _ => exact .kept found

theorem MessagesFresh.step (fresh : MessagesFresh old) (ok : StoreOk old)
    (step : TurnStep env may old new) : MessagesFresh new := by
  have counter : old.nextMessageId ≤ new.nextMessageId := by
    cases step with
    | quiet same => exact Nat.le_of_eq same.nextMessage.symm
    | post => exact Nat.le_succ _
    | create => exact Nat.le_add_right _ 2
    | @conclude turn f text =>
      cases text <;> exact Nat.le_refl _
    | _ => exact Nat.le_refl _
  intro message found
  cases step.message_origin ok found with
  | kept member => exact Nat.lt_of_lt_of_le (fresh message member) counter
  | edited member id | filled member id | answered member id =>
    rw [← id]
    exact Nat.lt_of_lt_of_le (fresh _ member) counter
  | posted later known => exact known

/-! ### Completed rows -/

/-- A completed row was completed before, or the step is a permitted completion that left the same
text in the row and in the message. -/
def CompletedOrigin (may : Store → Deed → Prop) (old new : Store) (row : Turn) : Prop :=
  (∃ before ∈ old.turns, row.identity = before.identity ∧ before.status = .completed ∧
    row.answer = before.answer) ∨
  ∃ turn ∈ old.turns, row.identity = turn.identity ∧ turn.status.isSettled = false ∧
    may old (.complete turn) ∧
    ∀ message ∈ new.messages, message.id = row.assistantMessageId → message.content = row.answer

theorem CompletedOrigin.of_mem {row : Turn} (member : row ∈ old.turns)
    (completed : row.status = .completed) : CompletedOrigin may old new row :=
  Or.inl ⟨row, member, rfl, completed, rfl⟩

theorem StoreOk.completed_of_update (ok : StoreOk old) {turn row : Turn} (member : turn ∈ old.turns)
    {p : Turn → Bool} {f : Turn → Turn} (status : (f turn).status ≠ .completed)
    (found : row ∈ (old.updateTurn turn.id p f).turns) (completed : row.status = .completed) :
    CompletedOrigin may old new row := by
  rcases ok.mem_updateTurn member found with ⟨kept, _⟩ | ⟨rfl, _⟩
  · exact CompletedOrigin.of_mem kept completed
  · exact absurd completed status

/-- A completed row was completed before, or this step completed it. -/
theorem TurnStep.completed_origin (step : TurnStep env may old new) (ok : StoreOk old) {row : Turn}
    (found : row ∈ new.turns) (completed : row.status = .completed) : CompletedOrigin may old new row := by
  cases step with
  | quiet same =>
    rw [same.turns] at found
    exact CompletedOrigin.of_mem found completed
  | create member =>
    rcases List.mem_append.mp found with earlier | here
    · exact CompletedOrigin.of_mem earlier completed
    · rw [List.mem_singleton.mp here] at completed
      rcases (TurnRequest.row_isNew member).status with status | status <;>
        rw [status] at completed <;> simp at completed
  | forget | drop => exact CompletedOrigin.of_mem (mem_of_mem_deleteWhere found) completed
  | annotate keeps =>
    rcases mem_updateWhere.mp found with ⟨before, member, _, rfl⟩ | ⟨kept, _⟩
    · obtain ⟨identity, status, _, answer, _⟩ := keeps before
      exact Or.inl ⟨before, member, identity, status.symm.trans completed, answer⟩
    · exact CompletedOrigin.of_mem kept completed
  | requeue member =>
    exact ok.completed_of_update member (by simp [Turn.requeue]) found completed
  | ready member => exact ok.completed_of_update member (by simp) found completed
  | @revoke turn now member running =>
    have cancelling : (turn.requestCancel now).status ≠ .completed := by
      rw [Turn.requestCancel_status running]
      simp
    have there : row ∈ (old.rewriteTurn turn.id (Turn.requestCancel now)).turns := found
    exact ok.completed_of_update member cancelling there completed
  | @conclude turn f text noted member unfinished same status =>
    have ended : (f turn).status ≠ .completed := by
      rcases status with status | status <;> rw [status] <;> simp
    have there : row ∈ (old.rewriteTurn turn.id f).turns := by
      cases text <;> exact found
    exact ok.completed_of_update member ended there completed
  | @complete turn f content noted member allowed same status answer =>
    have there : row ∈ (old.updateTurn turn.id (fun turn => !turn.status.isSettled) f).turns := found
    rcases ok.mem_updateTurn member there with ⟨kept, _⟩ | ⟨rfl, unsettled⟩
    · exact CompletedOrigin.of_mem kept completed
    · refine Or.inr ⟨turn, member, same, by simpa using unsettled, allowed, ?_⟩
      intro message messageFound home
      have written : message ∈ (old.setContent turn.assistantMessageId content).messages :=
        messageFound
      rw [Turn.assistantMessageId_of_identity same] at home
      rcases mem_updateWhere.mp written with ⟨before, _, _, rfl⟩ | ⟨_, skipped⟩
      · exact answer.symm
      · simp [home] at skipped
  | claim _ member | start _ member =>
    exact ok.completed_of_update member (by simp [Turn.start]) found completed
  | _ => exact CompletedOrigin.of_mem found completed

end HardwareDatabase.Conversation
