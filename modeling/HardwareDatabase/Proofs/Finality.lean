/-
Module: HardwareDatabase.Proofs.Finality
Purpose: Finished turns: `fail_turn_result` leaves them alone, `complete_turn_result` guards only the update of the
  turn row.
Trusted boundary: none
-/
import HardwareDatabase.Proofs.TurnMessages
import HardwareDatabase.Proofs.TurnEndings

namespace HardwareDatabase.Conversation

open Memory (Time)
open Relational

variable {env : Environment} {may : Store → Deed → Prop} {old new store : Store}

/-- The turn was not finalised before: it is neither completed nor cancelled, and a failed turn has
received no terminal events. -/
def Store.Unfinalized (store : Store) (turn : Turn) : Prop :=
  turn.status.isSettled = false ∧ (turn.status = .failed → turn.id ∉ store.history.finalized)

/-- The assistant message of the turn has a text. -/
def Store.HasText (store : Store) (turn : Turn) : Prop :=
  ∀ message ∈ store.messages, message.id = turn.assistantMessageId → message.content ≠ ""

instance (store : Store) (turn : Turn) : Decidable (store.Unfinalized turn) :=
  inferInstanceAs (Decidable (_ ∧ _))

instance (store : Store) (turn : Turn) : Decidable (store.HasText turn) :=
  inferInstanceAs (Decidable (∀ message ∈ store.messages, _ → _))

/-- The condition on an operation: a completion that passes its fence finds a turn that was not
finalised, and a failed wait is not recorded over a completed turn whose message is blank. -/
def FinalizesOnce (store : Store) : Op → Prop
  | .completeTurnResult call _ =>
    ∀ turn ∈ store.getTurn call.userId call.turnId, store.fencePasses turn call = true →
      store.Unfinalized turn
  | .transitionWaitingTurn turnId .failed _ _ =>
    ∀ turn ∈ store.turns, turn.id = turnId → turn.status = .completed → store.HasText turn
  | _ => True

instance (store : Store) (op : Op) : Decidable (FinalizesOnce store op) := by
  cases op with
  | completeTurnResult =>
    simp only [FinalizesOnce]
    infer_instance
  | transitionWaitingTurn turnId outcome =>
    cases outcome <;> simp only [FinalizesOnce] <;> infer_instance
  | _ => exact isTrue trivial

/-- The permission that the steps ask for. -/
def mayFinalize (store : Store) : Deed → Prop
  | .complete turn => store.Unfinalized turn
  | .notice turn => store.HasText turn
  | .exhaust _ | .reconcile => True

private theorem pointerBlind_mayFinalize : PointerBlind mayFinalize := by
  intro store p f deed _ allowed
  cases deed <;> exact allowed

private theorem FinalizesOnce.permits {op : Op} (once : FinalizesOnce store op) : Permits mayFinalize store op := by
  cases op with
  | construct => exact fun _ => trivial
  | transitionWaitingTurn turnId outcome =>
    cases outcome with
    | pending => trivial
    | failed => exact once
  | claimTurnResult => exact fun _ _ => trivial
  | completeTurnResult => exact fun turn found passes => once turn found passes
  | _ => trivial

/-! ### Terminal events -/

private theorem TurnStep.finalized (step : TurnStep env may old new) (ok : StoreOk old) :
    new.history.finalized = old.history.finalized ∨
      ∃ turn ∈ old.turns, new.history.finalized = turn.id :: old.history.finalized ∧
        (turn.status.isNonTerminal = true ∨ may old (.complete turn)) ∧
        ∀ row ∈ new.turns, row.id = turn.id → row.status.isNonTerminal = false := by
  cases step with
  | quiet same => exact Or.inl (by rw [same.history])
  | @conclude turn f text noted member unfinished same status =>
    have history : (((old.rewriteTurn turn.id f).postNotice turn.assistantMessageId
        text).noteFinalized turn.id noted).history.finalized =
          if noted then turn.id :: old.history.finalized else old.history.finalized := by
      cases text <;> rfl
    cases noted with
    | false => exact Or.inl history
    | true =>
      refine Or.inr ⟨turn, member, history, Or.inl unfinished, ?_⟩
      intro row found here
      have there : row ∈ (old.rewriteTurn turn.id f).turns := by
        cases text <;> exact found
      rcases ok.mem_rewriteTurn member there with ⟨_, different⟩ | rfl
      · exact absurd here different
      · rcases status with status | status <;> rw [status] <;> rfl
  | @complete turn f content noted member allowed same status =>
    cases noted with
    | false => exact Or.inl rfl
    | true =>
      refine Or.inr ⟨turn, member, rfl, Or.inr allowed, ?_⟩
      intro row found here
      have there : row ∈ (old.updateTurn turn.id (fun turn => !turn.status.isSettled) f).turns :=
        found
      rcases ok.mem_updateTurn member there with ⟨_, different | ⟨rfl, settled⟩⟩ | ⟨rfl, _⟩
      · exact absurd here different
      · have isSettled : row.status.isSettled = true := by simpa using settled
        cases stored : row.status <;>
          simp [stored, TurnStatus.isSettled, TurnStatus.isNonTerminal] at isSettled ⊢
      · rw [status]
        rfl
  | _ => exact Or.inl rfl

private theorem TurnMove.finished {turn after : Turn} (move : TurnMove turn after)
    (finished : turn.status.isNonTerminal = false) : after.status.isNonTerminal = false := by
  cases move with
  | annotate status => rw [status, finished]
  | requeue running | revoke running =>
    rw [TurnStatus.isNonTerminal_of_isRunning running] at finished
    simp at finished
  | ready waiting =>
    rw [waiting] at finished
    simp [TurnStatus.isNonTerminal] at finished
  | conclude unfinished =>
    rw [unfinished] at finished
    simp at finished
  | complete unsettled status =>
    rw [status]
    rfl
  | start pending =>
    rw [pending] at finished
    simp [TurnStatus.isNonTerminal] at finished

/-! ### The invariant -/

/-- Finished turns are final and consistent. -/
structure FinalOk (store : Store) : Prop where
  messages : MessagesFresh store
  consistent : ∀ turn ∈ store.turns, turn.status = .completed → ∀ message ∈ store.messages,
    message.id = turn.assistantMessageId → message.editedAt = none → message.content = turn.answer
  once : store.history.finalized.Nodup
  known : ∀ turnId ∈ store.history.finalized, turnId < store.nextTurnId
  finished : ∀ turn ∈ store.turns, turn.id ∈ store.history.finalized →
    turn.status.isNonTerminal = false

namespace FinalOk

private theorem empty : FinalOk Store.empty where
  messages := by simp [MessagesFresh, Store.empty]
  consistent := by simp [Store.empty]
  once := by simp [Store.empty]
  known := by simp [Store.empty]
  finished := by simp [Store.empty]

private theorem step_consistent (final : FinalOk old) (ok : StoreOk old) (step : TurnStep env mayFinalize old new) :
    ∀ turn ∈ new.turns, turn.status = .completed → ∀ message ∈ new.messages,
      message.id = turn.assistantMessageId → message.editedAt = none → message.content = turn.answer := by
  intro row found completed message messageFound home unedited
  rcases step.completed_origin ok found completed with ⟨before, member, identity, wasCompleted, answer⟩ |
    ⟨_, _, _, _, _, written⟩
  · have assistant := Turn.assistantMessageId_of_identity identity
    have known := ok.assistantFresh before member
    cases step.message_origin ok messageFound with
    | kept there =>
      rw [answer]
      exact final.consistent before member wasCompleted message there (home.trans assistant) unedited
    | edited there id touched =>
      rw [unedited] at touched
      simp at touched
    | posted => omega
    | @filled previous turn there id blank words turnMember turnHome allowed rows =>
      -- the notice is not permitted over a blank message of a completed turn
      exact absurd blank (allowed (rows row found home.symm completed) previous there
        (id.trans turnHome.symm))
    | @answered previous turn there id turnMember turnHome allowed rows =>
      rcases (rows row found home.symm).2 with ⟨settled, _⟩ | ⟨_, same⟩
      · rw [allowed.1] at settled
        simp at settled
      · exact same.symm
  · exact written message messageFound home

private theorem step_finished (final : FinalOk old) (ok : StoreOk old) (step : TurnStep env may old new)
    {turn : Turn} (found : turn ∈ new.turns) (noted : turn.id ∈ old.history.finalized) :
    turn.status.isNonTerminal = false := by
  rcases step.turn_origin ok found with ⟨before, member, identity, move⟩ | isNew
  · apply move.finished
    apply final.finished before member
    rw [← Turn.id_of_identity identity]
    exact noted
  · have below := final.known turn.id noted
    rw [isNew.id] at below
    omega

private theorem step (final : FinalOk old) (ok : StoreOk old) (step : TurnStep env mayFinalize old new) :
    FinalOk new := by
  have messages := final.messages.step ok step
  have consistent := final.step_consistent ok step
  have counter : old.nextTurnId ≤ new.nextTurnId := step.counters.1
  rcases step.finalized ok with same | ⟨turn, member, finalized, permitted, ended⟩
  · exact
      { messages := messages
        consistent := consistent
        once := by rw [same]; exact final.once
        known := by
          rw [same]
          exact fun turnId noted => Nat.lt_of_lt_of_le (final.known turnId noted) counter
        finished := by
          rw [same]
          exact fun row found noted => final.step_finished ok step found noted }
  · -- the turn was open, or failed without terminal events
    have unnoted : turn.id ∉ old.history.finalized := by
      intro noted
      have wasFinished := final.finished turn member noted
      rcases permitted with unfinished | ⟨unsettled, failed⟩
      · rw [unfinished] at wasFinished
        simp at wasFinished
      · cases status : turn.status with
        | failed => exact failed status noted
        | completed | cancelled => simp [status, TurnStatus.isSettled] at unsettled
        | pending | streaming | cancelling | waitingForAttachments =>
          simp [status, TurnStatus.isNonTerminal] at wasFinished
    constructor
    case messages => exact messages
    case consistent => exact consistent
    case once =>
      rw [finalized]
      exact List.nodup_cons.mpr ⟨unnoted, final.once⟩
    case known =>
      rw [finalized]
      intro turnId noted
      rcases List.mem_cons.mp noted with rfl | earlier
      · exact Nat.lt_of_lt_of_le (ok.turnFresh turn member) counter
      · exact Nat.lt_of_lt_of_le (final.known turnId earlier) counter
    case finished =>
      rw [finalized]
      intro row found noted
      rcases List.mem_cons.mp noted with here | earlier
      · exact ended row found here
      · exact final.step_finished ok step found earlier

end FinalOk

private theorem finalOk_run {ops : List Op} (respects : (conversationService env).Respects FinalizesOnce ops) :
    FinalOk ((conversationService env).run ops) := by
  apply turnSteps_invariant FinalOk pointerBlind_mayFinalize FinalOk.empty
  · exact fun ok final step => final.step ok step
  · exact fun before op after split => (respects before op after split).permits

/-! ### Runs -/

/-- The operation is a completion or a failure of the turn. -/
def Finalizes (turnId : Nat) : Op → Prop
  | .completeTurnResult call _ => call.turnId = turnId
  | .failTurnResult call _ => call.turnId = turnId
  | _ => False

/-- In every run whose operations meet the condition, and in every state that it reaches: a completion or
failure of a turn that is completed or cancelled changes nothing; the unedited assistant message of a
completed turn is the turn's answer; and no turn receives terminal events twice. -/
theorem finished_turns_final {ops : List Op} (respects : (conversationService env).Respects FinalizesOnce ops) :
    let store := (conversationService env).run ops
    (∀ op, ∀ turn ∈ store.turns, turn.status.isSettled = true → Finalizes turn.id op →
      FinalizesOnce store op → store.exec env op = store) ∧
    (∀ turn ∈ store.turns, turn.status = .completed → ∀ message ∈ store.messages,
      message.id = turn.assistantMessageId → message.editedAt = none →
        message.content = turn.answer) ∧
    store.history.finalized.Nodup := by
  intro store
  have ok : StoreOk store := storeOk_run env ops
  have final : FinalOk store := finalOk_run respects
  refine ⟨?_, final.consistent, final.once⟩
  intro op turn member settled finalizes once
  cases op with
  | completeTurnResult =>
    apply completeTurnResult_refused
    intro row found
    by_contra passes
    obtain ⟨rowMember, here, _⟩ := mem_of_getTurn found
    have same := ok.turnIds.eq_of_key rowMember member (here.trans finalizes)
    have unfinalized := once row found (by simpa using passes)
    rw [same] at unfinalized
    rw [unfinalized.1] at settled
    simp at settled
  | failTurnResult =>
    apply failTurnResult_finished
    intro row rowMember here
    rw [ok.turnIds.eq_of_key rowMember member (here.trans finalizes)]
    cases status : turn.status <;>
      simp [status, TurnStatus.isSettled, TurnStatus.isNonTerminal] at settled ⊢
  | _ => exact absurd finalizes (by simp [Finalizes])

/-- A turn that was completed and is then reported as failed. -/
theorem completed_turn_stays_completed : ((conversationService sampleEnvironment).run
      [.createSession 1 "kb" "board" none (some 3), .createTurn sampleRequest 1000000,
        .claimTurnResult 1 1 "first" 0 2000000 2000000, .completeTurnResult (sampleCompletion "first" 1 0) 3000000,
        .failTurnResult sampleAbandonment 4000000]).history.finalized.Nodup :=
  (finished_turns_final (Machine.RespectsFrom.respects (by decide))).2.2

/-- A worker that completes its turn twice before it releases the lease: the second answer is written
over the message of the completed turn, whose row keeps the first one, and the terminal events are
written again. -/
theorem second_completion_overwrites : ¬ ∀ (ops : List Op) (call : Completion) (now : Time),
      let store := (conversationService sampleEnvironment).run ops
      ∀ turn ∈ store.turns, turn.id = call.turnId → turn.status.isSettled = true →
        (store.exec sampleEnvironment (.completeTurnResult call now)).messages = store.messages ∧
        (store.exec sampleEnvironment (.completeTurnResult call now)).events = store.events := by
  intro unchanged
  have same := unchanged
    [.createSession 1 "kb" "board" none (some 3), .createTurn sampleRequest 1000000,
      .claimTurnResult 1 1 "first" 0 2000000 2000000,
      .completeTurnResult (sampleCompletion "first" 1 0) 3000000]
    { sampleCompletion "first" 1 0 with answer := "R12 is 4k7" } 4000000
  revert same
  decide

end HardwareDatabase.Conversation
