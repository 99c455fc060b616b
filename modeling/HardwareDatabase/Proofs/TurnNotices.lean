/-
Module: HardwareDatabase.Proofs.TurnNotices
Purpose: The texts of turns that ended without an answer: every path fills the blank message, but for two.
Trusted boundary: none
-/
import HardwareDatabase.Proofs.TurnRuns

namespace HardwareDatabase.Conversation

open Memory (Time)
open Relational

variable {env : Environment} {store before after : Store} {turn : Turn}

/-- The turn ended without an answer. -/
def Turn.gaveUp (turn : Turn) : Bool :=
  turn.status == .failed || turn.status == .cancelled

/-- The turn has an assistant message with a text. -/
def Store.Speaks (store : Store) (turn : Turn) : Prop :=
  ∃ message ∈ store.messages, message.id = turn.assistantMessageId ∧ message.content ≠ ""

instance (store : Store) (turn : Turn) : Decidable (store.Speaks turn) :=
  inferInstanceAs (Decidable (∃ message ∈ store.messages, _))

/-- Every turn has its assistant message, and the one of a turn that gave up has a text. -/
structure Answered (store : Store) : Prop where
  present : ∀ turn ∈ store.turns, ∃ message ∈ store.messages, message.id = turn.assistantMessageId
  spoken : ∀ turn ∈ store.turns, turn.gaveUp = true → store.Speaks turn

/-! ### Steps that silence no turn -/

/-- Statements that end no turn and blank no message: a turn keeps its message, and a message of a turn
that is left keeps a text if it had one. -/
structure Unhushed (before after : Store) : Prop where
  rows : ∀ row ∈ after.turns, ∃ turn ∈ before.turns,
    row.assistantMessageId = turn.assistantMessageId ∧ (row.gaveUp = true → turn.gaveUp = true)
  texts : ∀ row ∈ after.turns, ∀ message ∈ before.messages, message.id = row.assistantMessageId →
    ∃ kept ∈ after.messages, kept.id = message.id ∧ (message.content ≠ "" → kept.content ≠ "")

namespace Unhushed

private theorem trans {middle : Store} (first : Unhushed before middle) (second : Unhushed middle after) :
    Unhushed before after where
  rows := by
    intro row member
    obtain ⟨between, betweenMember, same, ended⟩ := second.rows row member
    obtain ⟨turn, turnMember, sameBefore, endedBefore⟩ := first.rows between betweenMember
    exact ⟨turn, turnMember, same.trans sameBefore, fun gaveUp => endedBefore (ended gaveUp)⟩
  texts := by
    intro row member message messageMember home
    obtain ⟨between, betweenMember, same, _⟩ := second.rows row member
    obtain ⟨kept, keptMember, keptId, words⟩ :=
      first.texts between betweenMember message messageMember (home.trans same)
    obtain ⟨last, lastMember, lastId, lastWords⟩ :=
      second.texts row member kept keptMember (keptId.trans home)
    exact ⟨last, lastMember, lastId.trans keptId, fun text => lastWords (words text)⟩

private theorem of_frame (turns : after.turns = before.turns) (messages : after.messages = before.messages) :
    Unhushed before after where
  rows row member := ⟨row, turns ▸ member, rfl, id⟩
  texts _ _ message member _ := ⟨message, messages ▸ member, rfl, id⟩

private theorem of_board (same : SameBoard before after) : Unhushed before after :=
  of_frame same.turns same.messages

private theorem of_turns {p : Turn → Bool} {f : Turn → Turn}
    (turns : after.turns = updateWhere p f before.turns) (messages : after.messages = before.messages)
    (keeps : ∀ turn ∈ before.turns, p turn = true → (f turn).assistantMessageId = turn.assistantMessageId ∧
        ((f turn).gaveUp = true → turn.gaveUp = true)) : Unhushed before after where
  rows := by
    intro row member
    rw [turns] at member
    rcases mem_updateWhere.mp member with ⟨turn, turnMember, selected, rfl⟩ | ⟨kept, _⟩
    · exact ⟨turn, turnMember, keeps turn turnMember selected⟩
    · exact ⟨row, kept, rfl, id⟩
  texts _ _ message member _ := ⟨message, messages ▸ member, rfl, id⟩

private theorem of_messages {p : Message → Bool} {f : Message → Message}
    (turns : after.turns = before.turns) (messages : after.messages = updateWhere p f before.messages)
    (keeps : ∀ message, (f message).id = message.id ∧ (f message).content ≠ "") : Unhushed before after where
  rows row member := ⟨row, turns ▸ member, rfl, id⟩
  texts := by
    intro row _ message member _
    rw [messages]
    refine ⟨_, mem_updateWhere_of_mem member, ?_⟩
    split
    · exact ⟨(keeps message).1, fun _ => (keeps message).2⟩
    · exact ⟨rfl, id⟩

private theorem of_deletion {sessionId : Nat}
    (turns : ∀ row ∈ after.turns, row ∈ before.turns ∧ before.cascadesWith sessionId row = false)
    (messages : after.messages =
      deleteWhere (fun message => message.sessionId == sessionId) before.messages) :
    Unhushed before after where
  rows row member := ⟨row, (turns row member).1, rfl, id⟩
  texts := by
    intro row rowMember message member home
    refine ⟨message, ?_, rfl, id⟩
    rw [messages, mem_deleteWhere]
    refine ⟨member, ?_⟩
    have left := (turns row rowMember).2
    rw [Store.cascadesWith, List.any_eq_false] at left
    simpa [home] using left message member

end Unhushed

private theorem Answered.unhushed (answered : Answered before) (step : Unhushed before after) :
    Answered after where
  present := by
    intro row member
    obtain ⟨turn, turnMember, same, _⟩ := step.rows row member
    obtain ⟨message, messageMember, home⟩ := answered.present turn turnMember
    obtain ⟨kept, keptMember, keptId, _⟩ :=
      step.texts row member message messageMember (home.trans same.symm)
    exact ⟨kept, keptMember, keptId.trans (home.trans same.symm)⟩
  spoken := by
    intro row member gaveUp
    obtain ⟨turn, turnMember, same, ended⟩ := step.rows row member
    obtain ⟨message, messageMember, home, words⟩ := answered.spoken turn turnMember (ended gaveUp)
    obtain ⟨kept, keptMember, keptId, keeps⟩ :=
      step.texts row member message messageMember (home.trans same.symm)
    exact ⟨kept, keptMember, keptId.trans (home.trans same.symm), keeps words⟩

variable {text : String} {f : Turn → Turn} {p : Turn → Bool}

private theorem IsNotice.ne_empty (words : IsNotice text) : text ≠ "" := by
  rcases words with rfl | ⟨reason, rfl⟩ | ⟨reason, rfl⟩
  · decide
  · intro blank
    have length := congrArg String.length blank
    simp at length
  · intro blank
    have length := congrArg String.length blank
    simp at length

private theorem Answered.create (answered : Answered store) {request : TurnRequest} (session : Session) (now : Time) :
    Answered (store.insertTurn env request session now) := by
  have kept : ∀ message ∈ store.messages, message ∈ (store.insertTurn env request session now).messages :=
    fun message member => List.mem_append_left _ member
  have own : ∃ message ∈ (store.insertTurn env request session now).messages,
      message.id = store.nextMessageId + 1 :=
    ⟨_, List.mem_append_right _ (List.mem_cons_of_mem _ (List.mem_singleton_self _)), rfl⟩
  constructor
  · intro row member
    rcases List.mem_append.mp member with earlier | fresh
    · obtain ⟨message, messageMember, home⟩ := answered.present row earlier
      exact ⟨message, kept message messageMember, home⟩
    · rw [List.mem_singleton.mp fresh]
      exact own
  · intro row member gaveUp
    rcases List.mem_append.mp member with earlier | fresh
    · obtain ⟨message, messageMember, home⟩ := answered.spoken row earlier gaveUp
      exact ⟨message, kept message messageMember, home⟩
    · rw [List.mem_singleton.mp fresh] at gaveUp
      simp only [TurnRequest.row, TurnRequest.initialStatus, Turn.gaveUp] at gaveUp
      split at gaveUp <;> simp at gaveUp

/-! ### What one step keeps

A turn that gives up gets its notice in the same step; only a claim that finds the attempts used up leaves the message
as it is. -/

/-- The permission that the steps ask for: a turn that has used up its attempts has a text already, and
completions are looked at apart. -/
def mayFallSilent (store : Store) : Deed → Prop
  | .complete _ => False
  | .exhaust turn => store.Speaks turn
  | .notice _ | .reconcile => True

private theorem pointerBlind_mayFallSilent : PointerBlind mayFallSilent := by
  intro store p f deed _ allowed
  cases deed <;> exact allowed

private theorem Unhushed.of_rewrite (ok : StoreOk before) (member : turn ∈ before.turns)
    (same : (f turn).identity = turn.identity) (goesOn : (f turn).gaveUp = false) :
    Unhushed before (before.updateTurn turn.id p f) := by
  refine Unhushed.of_turns rfl rfl fun row rowMember selected => ?_
  simp only [Bool.and_eq_true, beq_iff_eq] at selected
  rw [ok.turnIds.eq_of_key rowMember member selected.1]
  exact ⟨Turn.assistantMessageId_of_identity same, fun gaveUp => by simp [goesOn] at gaveUp⟩

private theorem Answered.conclude (answered : Answered store) (ok : StoreOk store) (member : turn ∈ store.turns)
    (same : (f turn).identity = turn.identity) {text : Option String}
    (words : ∀ notice, text = some notice → IsNotice notice) (silent : text = none → store.Speaks turn) :
    Answered ((store.rewriteTurn turn.id f).postNotice turn.assistantMessageId text) := by
  have home := Turn.assistantMessageId_of_identity same
  have kept : ∀ message ∈ store.messages,
      ∃ last ∈ ((store.rewriteTurn turn.id f).postNotice turn.assistantMessageId text).messages,
        last.id = message.id ∧ (message.content ≠ "" → last.content ≠ "") := by
    intro message messageMember
    cases text with
    | none => exact ⟨message, messageMember, rfl, id⟩
    | some notice =>
      refine ⟨_, mem_updateWhere_of_mem messageMember, ?_⟩
      split
      · exact ⟨rfl, fun _ => (words notice rfl).ne_empty⟩
      · exact ⟨rfl, id⟩
  have own : ((store.rewriteTurn turn.id f).postNotice turn.assistantMessageId text).Speaks turn := by
    cases text with
    | none => exact silent rfl
    | some notice =>
      obtain ⟨message, messageMember, here⟩ := answered.present turn member
      refine ⟨_, mem_updateWhere_of_mem messageMember, ?_⟩
      split
      · exact ⟨here, (words notice rfl).ne_empty⟩
      · rename_i worded
        exact ⟨here, by simpa [here] using worded⟩
  have origin : ∀ row ∈ ((store.rewriteTurn turn.id f).postNotice turn.assistantMessageId text).turns,
      row ∈ store.turns ∨ row = f turn := by
    intro row rowMember
    have rewritten : row ∈ (store.rewriteTurn turn.id f).turns := by
      cases text <;> exact rowMember
    exact (ok.mem_rewriteTurn member rewritten).imp_left And.left
  constructor
  · intro row rowMember
    rcases origin row rowMember with earlier | rfl
    · obtain ⟨message, messageMember, here⟩ := answered.present row earlier
      obtain ⟨last, lastMember, lastId, _⟩ := kept message messageMember
      exact ⟨last, lastMember, lastId.trans here⟩
    · obtain ⟨last, lastMember, here, _⟩ := own
      exact ⟨last, lastMember, here.trans home.symm⟩
  · intro row rowMember gaveUp
    rcases origin row rowMember with earlier | rfl
    · obtain ⟨message, messageMember, here, text⟩ := answered.spoken row earlier gaveUp
      obtain ⟨last, lastMember, lastId, spoken⟩ := kept message messageMember
      exact ⟨last, lastMember, lastId.trans here, spoken text⟩
    · rw [Store.Speaks, home]
      exact own

/-- A step that is permitted leaves no turn without a text that gave up. -/
theorem Answered.step (answered : Answered before) (ok : StoreOk before)
    (step : TurnStep env mayFallSilent before after) : Answered after := by
  cases step with
  | quiet same => exact answered.unhushed (Unhushed.of_board same)
  | post fresh =>
    refine answered.unhushed ⟨fun row member => ⟨row, member, rfl, id⟩, fun row _ message member _ => ?_⟩
    exact ⟨message, List.mem_append_left _ member, rfl, id⟩
  | edit worded => exact answered.unhushed (Unhushed.of_messages rfl rfl fun _ => ⟨rfl, worded⟩)
  | create => exact answered.create _ _
  | forget sessionId => exact answered.unhushed (Unhushed.of_deletion (fun _ member => mem_deleteWhere.mp member) rfl)
  | drop sessionId =>
    refine answered.unhushed (@Unhushed.of_deletion _ _ sessionId (fun row member => ?_) rfl)
    obtain ⟨kept, left⟩ := mem_deleteWhere.mp member
    rw [Bool.or_eq_false_iff] at left
    exact ⟨kept, left.2⟩
  | annotate keeps =>
    refine answered.unhushed (Unhushed.of_turns rfl rfl fun row _ _ => ?_)
    obtain ⟨identity, status, _⟩ := keeps row
    exact ⟨Turn.assistantMessageId_of_identity identity, fun gaveUp => by simpa [Turn.gaveUp, status] using gaveUp⟩
  | requeue member | ready member => exact answered.unhushed (Unhushed.of_rewrite ok member rfl rfl)
  | @revoke turn now member running =>
    have stopping : (turn.requestCancel now).gaveUp = false := by
      simp [Turn.gaveUp, Turn.requestCancel_status running]
    exact answered.unhushed ((Unhushed.of_rewrite ok member rfl stopping).trans (Unhushed.of_frame rfl rfl))
  | @conclude turn f text noted member unfinished same status answer cancel words silent =>
    exact (answered.conclude ok member same words silent).unhushed (Unhushed.of_frame rfl rfl)
  | complete _ allowed => exact allowed.elim
  | notice _ _ words =>
    exact answered.unhushed (Unhushed.of_messages rfl rfl fun _ => ⟨rfl, words.ne_empty⟩)
  | claim _ member | start _ member =>
    exact answered.unhushed ((Unhushed.of_rewrite ok member rfl rfl).trans (Unhushed.of_frame rfl rfl))
  | _ => exact answered.unhushed (Unhushed.of_frame rfl rfl)

private theorem Answered.steps (answered : Answered before) (ok : StoreOk before)
    (steps : TurnSteps env mayFallSilent before after) : Answered after :=
  steps.keep (fun ok answered step => answered.step ok step) ok answered

variable {now : Time}

/-- A completion takes over a failed turn with its answer; a cancelled turn stays cancelled and gets the
answer in place of its notice. -/
theorem completeTurnResult_answered (answered : Answered store) (ok : StoreOk store)
    {call : Completion} {completed : Turn}
    (worded : ∀ turn ∈ store.getTurn call.userId call.turnId, turn.status = .cancelled →
      store.fencePasses turn call = true → env.normalizeExportAnswer call.answer turn.exportPlan ≠ "")
    (done : store.completeTurnResult env call now = .ok (after, completed)) : Answered after := by
  simp only [Store.completeTurnResult, bind, Except.bind, throw, throwThe, MonadExceptOf.throw, pure,
    Except.pure] at done
  split at done
  · cases done
  rename_i turn found
  split at done
  · cases done
  rename_i fencedStore fenced
  split at done
  · cases done
  rename_i recorded appended
  split at done
  · cases done
  rename_i exported enqueued
  obtain ⟨member, here, _⟩ := mem_of_getTurn found
  obtain ⟨passes, f, rfl, moves⟩ := fenceCompletion_spec fenced
  have written : Answered
      ((store.setContent turn.assistantMessageId
        (env.normalizeExportAnswer call.answer turn.exportPlan)).updateTurn call.turnId
          (fun turn => !turn.status.isSettled)
          (Turn.complete call (env.normalizeExportAnswer call.answer turn.exportPlan) now)) := by
    by_cases words : env.normalizeExportAnswer call.answer turn.exportPlan = ""
    · have unstopped : turn.status ≠ .cancelled := fun stopped => worded turn found stopped passes words
      constructor
      · intro row rowMember
        have home : ∃ message ∈ store.messages, message.id = row.assistantMessageId := by
          rcases mem_updateWhere.mp rowMember with ⟨old, oldMember, _, rfl⟩ | ⟨kept, _⟩
          · exact answered.present old oldMember
          · exact answered.present row kept
        obtain ⟨message, messageMember, same⟩ := home
        refine ⟨_, mem_updateWhere_of_mem messageMember, ?_⟩
        split <;> exact same
      · intro row rowMember gaveUp
        rcases mem_updateWhere.mp rowMember with ⟨old, _, _, rfl⟩ | ⟨kept, skipped⟩
        · simp [Turn.gaveUp, Turn.complete, Turn.leaveWorker] at gaveUp
        · have different : row.id ≠ turn.id := by
            intro same
            rw [ok.turnIds.eq_of_key kept member same] at gaveUp skipped
            cases status : turn.status <;>
              simp [Turn.gaveUp, status, here, TurnStatus.isSettled] at gaveUp skipped
            exact unstopped status
          obtain ⟨message, messageMember, same, text⟩ := answered.spoken row kept gaveUp
          have apart : message.id ≠ turn.assistantMessageId := by
            intro shared
            have sameRow := ok.assistants.eq_of_key kept member (same.symm.trans shared)
            exact different (congrArg Turn.id sameRow)
          refine ⟨message, ?_, same, text⟩
          exact mem_updateWhere.mpr (Or.inr ⟨messageMember, by simpa using apart⟩)
    · have told : Unhushed store (store.setContent turn.assistantMessageId
          (env.normalizeExportAnswer call.answer turn.exportPlan)) :=
        Unhushed.of_messages rfl rfl fun _ => ⟨rfl, words⟩
      apply answered.unhushed
      apply told.trans
      refine Unhushed.of_turns rfl rfl fun turn _ _ => ⟨rfl, ?_⟩
      intro gaveUp
      simp [Turn.gaveUp, Turn.complete, Turn.leaveWorker] at gaveUp
  have kept : Answered exported := by
    apply Answered.unhushed _ (Unhushed.of_board (enqueueExports_board enqueued))
    obtain ⟨recorded, _⟩ : TurnSteps env mayFallSilent _ recorded ∧ _ := appendTerminalEvents_steps appended
    have leased : StoreOk (store.updateState (fun state => state.sessionId == turn.sessionId) f) :=
      ok.of_keys (sameKeys_of_states fun state => (moves state).session)
    have overwritten := leased.of_keys (sameKeys_rewriteTurn leased
      (p := fun turn => !turn.status.isSettled)
      (f := Turn.complete call (env.normalizeExportAnswer call.answer turn.exportPlan) now) member rfl)
    rw [here] at overwritten
    refine Answered.steps ?_ ?_ recorded
    · exact written.unhushed (Unhushed.of_frame rfl rfl)
    · exact overwritten.of_keys (sameKeys_of_rest rfl rfl rfl rfl rfl (Nat.le_refl _))
  split at done
  · cases done
    exact kept.unhushed (Unhushed.of_board (enqueueReflection_board _ _ _ _ _ _))
  · cases done
    exact kept

/-! ### Every run -/

/-- The condition on an operation: a claim does not use up the attempts of a turn whose message is
blank, and a completion that comes through to a cancelled turn has an answer. -/
def EndsWithWords (env : Environment) (store : Store) : Op → Prop
  | .claimTurnResult userId turnId workerId staleAfterSeconds now dbNow =>
    ∀ turn ∈ (store.reclaimed env turnId staleAfterSeconds dbNow).getTurn userId turnId,
      (store.reclaimed env turnId staleAfterSeconds dbNow).UsedUp env turn workerId now →
        store.Speaks turn
  | .completeTurnResult call _ =>
    ∀ turn ∈ store.getTurn call.userId call.turnId, turn.status = .cancelled →
      store.fencePasses turn call = true →
        env.normalizeExportAnswer call.answer turn.exportPlan ≠ ""
  | _ => True

instance (env : Environment) (store : Store) (op : Op) : Decidable (EndsWithWords env store op) := by
  apply Op.casesOn (motive := fun op => Decidable (EndsWithWords env store op)) op <;> intros <;>
    simp only [EndsWithWords] <;> infer_instance

private theorem Answered.commit_fst (answered : Answered store) {α : Type} {result : Except Failure (Store × α)}
    (done : ∀ {last value}, result = .ok (last, value) → Answered last) :
    Answered (store.commit (result.map Prod.fst)) := by
  cases result with
  | ok => exact done rfl
  | error => exact answered

private theorem exec_answered (answered : Answered store) (ok : StoreOk store) {op : Op}
    (worded : EndsWithWords env store op) : Answered (store.exec env op) := by
  have permitted (permits : Permits mayFallSilent store op) : Answered (store.exec env op) :=
    answered.steps ok (exec_turnSteps ok pointerBlind_mayFallSilent permits)
  cases op with
  | construct => exact permitted fun _ => trivial
  | transitionWaitingTurn turnId outcome =>
    cases outcome with
    | pending => exact permitted trivial
    | failed => exact permitted fun _ _ _ _ => trivial
  | claimTurnResult userId turnId workerId staleAfterSeconds now dbNow =>
    refine answered.steps ok (commit_fst_steps fun done => (claimTurnResult_spec ok ?_ done).1)
    intro turn found spent middle messages
    obtain ⟨message, member, home, words⟩ := worded turn found spent
    exact ⟨message, messages ▸ member, home, words⟩
  | completeTurnResult =>
    exact answered.commit_fst fun done => completeTurnResult_answered answered ok worded done
  | _ => exact permitted trivial

/-- In every run that meets the condition, a failed or cancelled turn has an assistant message with a
text. -/
theorem ended_turns_speak {ops : List Op} (respects : (conversationService env).Respects (EndsWithWords env) ops) :
    ∀ turn ∈ ((conversationService env).run ops).turns,
      turn.status = .failed ∨ turn.status = .cancelled → ((conversationService env).run ops).Speaks turn := by
  have both : StoreOk ((conversationService env).run ops) ∧
      Answered ((conversationService env).run ops) := by
    apply Machine.guarded_invariant (fun store => StoreOk store ∧ Answered store)
      ⟨StoreOk.empty, ⟨by simp [conversationService, Store.empty], by
        simp [conversationService, Store.empty]⟩⟩ _ respects
    rintro store op ⟨ok, answered⟩ worded
    have steps : TurnSteps env anyDeed store (store.exec env op) :=
      exec_turnSteps ok pointerBlind_anyDeed (permits_anyDeed op)
    exact ⟨ok.steps steps, exec_answered answered ok worded⟩
  intro turn member ended
  apply both.2.spoken turn member
  rcases ended with status | status <;> simp [Turn.gaveUp, status]

/-- A turn that the user cancels before a worker takes it. -/
theorem cancelled_turn_speaks : ((conversationService sampleEnvironment).run
      [.createSession 1 "kb" "board" none (some 3), .createTurn sampleRequest 1000000,
        .requestTurnCancel (some .pending) 1 1 2000000]).Speaks (((conversationService sampleEnvironment).run
        [.createSession 1 "kb" "board" none (some 3), .createTurn sampleRequest 1000000,
          .requestTurnCancel (some .pending) 1 1 2000000]).turns.headD default) :=
  ended_turns_speak (Machine.RespectsFrom.respects (by decide)) _ (by decide) (by decide)

/-- Three workers die with the turn, and the fourth claim gives it up: its message stays blank. -/
theorem exhausted_turn_is_blank : ¬ ∀ (ops : List Op),
      ∀ turn ∈ ((conversationService sampleEnvironment).run ops).turns,
        turn.status = .failed ∨ turn.status = .cancelled →
          ((conversationService sampleEnvironment).run ops).Speaks turn := by
  intro speaks
  have blank := speaks
    [.createSession 1 "kb" "board" none (some 3), .createTurn sampleRequest 1000000,
      .claimTurnResult 1 1 "first" 0 2000000 2000000,
      .claimTurnResult 1 1 "second" 0 200000000 200000000,
      .claimTurnResult 1 1 "third" 0 400000000 400000000,
      .claimTurnResult 1 1 "fourth" 0 600000000 600000000]
  revert blank
  decide

/-- A completion without a text that comes after the user's cancel. -/
example : ¬ EndsWithWords sampleEnvironment
    ((conversationService sampleEnvironment).run
      [.createSession 1 "kb" "board" none (some 3), .createTurn sampleRequest 1000000,
        .requestTurnCancel (some .pending) 1 1 2000000])
    (.completeTurnResult { sampleCompletion "" 1 0 with answer := "", fencingToken := none } 3000000) := by
  decide

end HardwareDatabase.Conversation
