/-
Module: HardwareDatabase.Proofs.TurnRuns
Purpose: Every operation of the conversation store is a chain of the steps of `TurnSteps`, with one lemma for each
  function.
Trusted boundary: none
-/
import HardwareDatabase.Proofs.TurnSteps

namespace HardwareDatabase.Conversation

open Memory (Time)
open Relational

variable {env : Environment} {may : Store → Deed → Prop} {store after : Store} {turn other : Turn}

/-! ### Selecting and rewriting one turn -/

variable {turnId : Nat}

theorem mem_of_turnById (found : store.turnById turnId = some turn) : turn ∈ store.turns ∧ turn.id = turnId := by
  have selected := List.find?_some found
  exact ⟨List.mem_of_find?_eq_some found, by simpa using selected⟩

variable {userId : Nat}

theorem mem_of_getTurn (found : store.getTurn userId turnId = some turn) :
    turn ∈ store.turns ∧ turn.id = turnId ∧ store.owns userId turn = true := by
  have selected := List.find?_some found
  simp only [Bool.and_eq_true, beq_iff_eq] at selected
  exact ⟨List.mem_of_find?_eq_some found, selected.1, selected.2⟩

variable {f : Turn → Turn} {p : Turn → Bool}

namespace StoreOk

section

variable (ok : StoreOk store)
include ok

theorem turnById_eq (member : turn ∈ store.turns) : store.turnById turn.id = some turn :=
  ok.turnIds.find?_eq member

theorem updateTurn_eq_rewrite (member : turn ∈ store.turns) (selected : p turn = true) :
    store.updateTurn turn.id p f = store.rewriteTurn turn.id f := by
  have same : updateWhere (fun row => row.id == turn.id && p row) f store.turns =
      updateWhere (fun row => row.id == turn.id && true) f store.turns := by
    apply updateWhere_congr
    intro row rowMember
    by_cases here : row.id = turn.id
    · rw [ok.turnIds.eq_of_key rowMember member here]
      simp [selected]
    · simp [here]
  rw [Store.rewriteTurn, Store.updateTurn, Store.updateTurn, same]

theorem updateTurn_eq_self (member : turn ∈ store.turns)
    (skipped : p turn = false) : store.updateTurn turn.id p f = store := by
  have same : updateWhere (fun row => row.id == turn.id && p row) f store.turns = store.turns := by
    apply updateWhere_eq_self
    intro row rowMember selected
    simp only [Bool.and_eq_true, beq_iff_eq] at selected
    rw [ok.turnIds.eq_of_key rowMember member selected.1, skipped] at selected
    simp at selected
  rw [Store.updateTurn, same]

theorem turnById_rewrite (member : turn ∈ store.turns) (same : (f turn).identity = turn.identity) :
    (store.rewriteTurn turn.id f).turnById turn.id = some (f turn) := by
  have kept : StoreOk (store.rewriteTurn turn.id f) :=
    ok.of_keys (sameKeys_rewriteTurn ok member same)
  have here : f turn ∈ (store.rewriteTurn turn.id f).turns := by
    have rewritten : (if turn.id == turn.id && true then f turn else turn) ∈
        (store.rewriteTurn turn.id f).turns := mem_updateWhere_of_mem member
    simpa using rewritten
  have found := kept.turnById_eq here
  rw [Turn.id_of_identity same] at found
  exact found

theorem fillBlankOf_rewrite (member : turn ∈ store.turns) (same : (f turn).identity = turn.identity) (text : String) :
    (store.rewriteTurn turn.id f).fillBlankOf turn.id text =
      (store.rewriteTurn turn.id f).fillBlank turn.assistantMessageId text := by
  rw [Store.fillBlankOf, ok.turnById_rewrite member same]
  simp only
  rw [Turn.assistantMessageId_of_identity same]

end

end StoreOk

theorem updateTurn_of_none (none : ∀ turn ∈ store.turns, turn.id = turnId → p turn = false) :
    store.updateTurn turnId p f = store := by
  have same : updateWhere (fun row => row.id == turnId && p row) f store.turns = store.turns := by
    apply updateWhere_eq_self
    intro row member selected
    simp only [Bool.and_eq_true, beq_iff_eq] at selected
    rw [none row member selected.1] at selected
    simp at selected
  rw [Store.updateTurn, same]

/-! ### Events -/

theorem turnSteps_of_eq (same : after = store) : TurnSteps env may store after := by
  rw [same]
  exact Relation.ReflTransGen.refl

theorem TurnStep.steps (step : TurnStep env may store after) : TurnSteps env may store after :=
  Relation.ReflTransGen.single step

variable {middle : Store}

theorem TurnSteps.trans (first : TurnSteps env may store middle)
    (second : TurnSteps env may middle after) : TurnSteps env may store after :=
  Relation.ReflTransGen.trans first second

theorem TurnSteps.quiet (same : SameBoard store after) : TurnSteps env may store after :=
  (TurnStep.quiet same).steps

theorem TurnSteps.annotated (same : SameBoard { store with turns := updateWhere p f store.turns } after)
    (keeps : ∀ turn, (f turn).identity = turn.identity ∧ (f turn).status = turn.status ∧
      (f turn).cancelRequested = turn.cancelRequested ∧ (f turn).answer = turn.answer ∧
      (turn.workerHeartbeatAt.isSome = true → (f turn).workerHeartbeatAt.isSome = true)) :
    TurnSteps env may store after :=
  TurnSteps.trans (TurnStep.annotate keeps).steps (TurnSteps.quiet same)

theorem TurnSteps.described {p : Session → Bool} {f : Session → Session}
    (same : SameBoard { store with sessions := updateWhere p f store.sessions } after)
    (keeps : ∀ session, (f session).id = session.id ∧ (f session).userId = session.userId ∧
      (f session).nextTurnSequence = session.nextTurnSequence) : TurnSteps env may store after :=
  TurnSteps.trans (TurnStep.describe keeps).steps (TurnSteps.quiet same)

/-- Only the rows of the turn may have changed. -/
def KeepsOthers (turnId : Nat) (store after : Store) : Prop :=
  ∀ other ∈ store.turns, other.id ≠ turnId → other ∈ after.turns

theorem KeepsOthers.trans (first : KeepsOthers turnId store middle)
    (second : KeepsOthers turnId middle after) : KeepsOthers turnId store after :=
  fun other member different => second other (first other member different) different

theorem keepsOthers_updateTurn : KeepsOthers turnId store (store.updateTurn turnId p f) := by
  intro other member different
  have kept : (if other.id == turnId && p other then f other else other) ∈
      (store.updateTurn turnId p f).turns := mem_updateWhere_of_mem member
  simpa [different] using kept

variable {now : Time}

theorem appendEvent_steps {eventType : String} {payload : Payload}
    (appended : store.appendEvent turnId eventType payload now = .ok after) :
    TurnSteps env may store after ∧ KeepsOthers turnId store after := by
  simp only [Store.appendEvent] at appended
  split at appended
  · simp at appended
  · rename_i turn found
    rw [Except.ok.injEq] at appended
    subst appended
    constructor
    · exact TurnSteps.annotated ⟨rfl, rfl, rfl, rfl, rfl, rfl, rfl, rfl⟩
        fun _ => ⟨rfl, rfl, rfl, rfl, fun beat => beat⟩
    · exact keepsOthers_updateTurn

theorem appendEvents_steps : ∀ {events : List (String × Payload)} {store after : Store},
      events.foldlM (fun store event => store.appendEvent turnId event.1 event.2 now) store =
        .ok after → TurnSteps env may store after ∧ KeepsOthers turnId store after := by
  intro events
  induction events with
  | nil =>
    intro store after appended
    rw [List.foldlM_nil] at appended
    cases appended
    exact ⟨turnSteps_of_eq rfl, fun _ member _ => member⟩
  | cons event rest ih =>
    intro store after appended
    rw [List.foldlM_cons] at appended
    cases first : store.appendEvent turnId event.1 event.2 now with
    | error =>
      rw [first] at appended
      simp [bind, Except.bind] at appended
    | ok middle =>
      rw [first] at appended
      obtain ⟨headSteps, headKeeps⟩ : TurnSteps env may store middle ∧ _ :=
        appendEvent_steps first
      obtain ⟨restSteps, restKeeps⟩ := ih appended
      exact ⟨headSteps.trans restSteps, headKeeps.trans restKeeps⟩

theorem appendTerminalEvents_steps {events : List (String × Payload)}
    (appended : store.appendTerminalEvents turnId events now = .ok after) :
    TurnSteps env may (store.noteFinalized turnId (!events.isEmpty)) after ∧ KeepsOthers turnId store after := by
  have noted : store.noteFinalized turnId (!events.isEmpty) =
      { store with
        history :=
          { store.history with
            finalized := if events.isEmpty then store.history.finalized
              else turnId :: store.history.finalized } } := by
    cases empty : events.isEmpty <;> simp [Store.noteFinalized]
  rw [noted]
  exact appendEvents_steps appended

theorem conclude_steps {text : String} {events : List (String × Payload)} (member : turn ∈ store.turns)
    (unfinished : turn.status.isNonTerminal = true) (same : (f turn).identity = turn.identity)
    (status : (f turn).status = .failed ∨ (f turn).status = .cancelled) (answer : (f turn).answer = turn.answer)
    (cancel : (f turn).cancelRequested = turn.cancelRequested) (words : IsNotice text)
    (appended : ((store.rewriteTurn turn.id f).fillBlank turn.assistantMessageId
      text).appendTerminalEvents turn.id events now = .ok after) :
    TurnSteps env may store after ∧ KeepsOthers turn.id store after := by
  obtain ⟨steps, keeps⟩ : TurnSteps env may _ after ∧ _ := appendTerminalEvents_steps appended
  constructor
  · apply TurnSteps.trans _ steps
    have concluded : TurnStep env may store
        (((store.rewriteTurn turn.id f).postNotice turn.assistantMessageId (some text)).noteFinalized
          turn.id (!events.isEmpty)) := by
      apply TurnStep.conclude member unfinished same status answer
      · intro requested
        rw [cancel]
        exact requested
      · intro notice given
        rw [Option.some.inj given] at words
        exact words
      · nofun
      · intro requested
        rw [cancel] at requested
        exact Or.inl requested
    exact concluded.steps
  · exact keepsOthers_updateTurn.trans keeps

/-! ### Execution states -/

theorem ensureExecutionState_steps (sessionId : Nat) :
    TurnSteps env may store (store.ensureExecutionState sessionId).1 := by
  rw [Store.ensureExecutionState]
  split
  · exact turnSteps_of_eq rfl
  · rename_i absent
    split
    · rename_i present
      obtain ⟨session, member, home⟩ := List.any_eq_true.mp present
      exact (TurnStep.ensure ⟨session, member, by simpa using home⟩ absent).steps
    · exact turnSteps_of_eq rfl

variable {state : ExecutionState} {sessionId : Nat}

theorem ensureExecutionState_spec (found : (store.ensureExecutionState sessionId).2 = some state) :
    state ∈ (store.ensureExecutionState sessionId).1.executionStates ∧ state.sessionId = sessionId := by
  cases present : store.executionState sessionId with
  | some =>
    simp only [Store.ensureExecutionState, present, Option.some.injEq] at found ⊢
    subst found
    have selected := List.find?_some present
    exact ⟨List.mem_of_find?_eq_some present, by simpa using selected⟩
  | none =>
    simp only [Store.ensureExecutionState, present] at found ⊢
    split at found
    · rename_i home
      simp only [Option.some.injEq] at found
      subst found
      rw [if_pos home]
      exact ⟨by simp, rfl⟩
    · simp at found

theorem ensureExecutionState_frame (store : Store) (sessionId : Nat) :
    (store.ensureExecutionState sessionId).1.turns = store.turns ∧
      (store.ensureExecutionState sessionId).1.sessions = store.sessions ∧
      (store.ensureExecutionState sessionId).1.history = store.history := by
  rw [Store.ensureExecutionState]
  split
  · exact ⟨rfl, rfl, rfl⟩
  · split <;> exact ⟨rfl, rfl, rfl⟩

theorem dropLease_moves (state : ExecutionState) : LeaseMove state state.dropLease :=
  ⟨rfl, rfl, Nat.le_refl _, Or.inr rfl⟩

theorem releaseLease_steps (sessionId turnId : Nat) : TurnSteps env may store (store.releaseLease sessionId turnId) :=
  (TurnStep.lease dropLease_moves).steps

theorem resetExecutionState_steps (sessionId : Nat) :
    TurnSteps env may store (store.resetExecutionState sessionId) := by
  have ensured : TurnSteps env may store (store.ensureExecutionState sessionId).1 :=
    ensureExecutionState_steps sessionId
  rw [Store.resetExecutionState]
  split
  · rename_i middle there
    rw [there] at ensured
    exact ensured
  · rename_i middle state there
    rw [there] at ensured
    apply ensured.trans
    apply TurnStep.steps
    apply TurnStep.lease
    exact fun _ => ⟨rfl, rfl, Nat.le_succ _, Or.inr rfl⟩

/-! ### Sessions and messages -/

theorem unnumberedTurns_eq_nil (ok : StoreOk store) : store.unnumberedTurns = [] := by
  have none : store.turns.filter (fun turn => turn.turnSequence.isNone) = [] := by
    apply List.filter_eq_nil_iff.mpr
    intro turn member
    have numbered := ok.numbered turn member
    cases stored : turn.turnSequence with
    | none => simp [stored] at numbered
    | some => simp
  rw [Store.unnumberedTurns, none]
  rfl

theorem backfillTurnSequences_eq (ok : StoreOk store) : store.backfillTurnSequences = store.reconcileSequences := by
  rw [Store.backfillTurnSequences, unnumberedTurns_eq_nil ok]
  rfl

theorem backfillDepartments_steps : TurnSteps env may store (store.backfillDepartments env) := by
  have described : TurnSteps env may store
      { store with
        sessions := updateWhere (fun session => session.departmentId.isNone)
          (fun session => { session with departmentId := env.ownerDepartment session.userId })
          store.sessions } := by
    apply TurnStep.steps
    apply TurnStep.describe
    exact fun _ => ⟨rfl, rfl, rfl⟩
  apply described.trans
  apply TurnStep.steps
  apply TurnStep.annotate
  exact fun _ => ⟨rfl, rfl, rfl, rfl, fun beat => beat⟩

theorem construct_steps (ok : StoreOk store) {initialized : Bool}
    (allowed : initialized = false → may store .reconcile) :
    TurnSteps env may store (store.construct env initialized) := by
  rw [Store.construct]
  split
  · exact turnSteps_of_eq rfl
  · rename_i fresh
    rw [backfillTurnSequences_eq ok]
    apply TurnSteps.trans (TurnStep.reconcile (allowed (by simpa using fresh))).steps
    exact backfillDepartments_steps

theorem addMessage_steps {role : Role} {content : String}
    (done : store.addMessage userId sessionId role content = .ok after) : TurnSteps env may store after := by
  simp only [Store.addMessage, throw, throwThe, MonadExceptOf.throw, pure, Except.pure] at done
  split at done
  · simp at done
  · have posted : TurnSteps env may store
        { store with
          messages := store.messages ++
            [{ id := store.nextMessageId, sessionId, role, content, editedAt := none }]
          nextMessageId := store.nextMessageId + 1 } :=
      (TurnStep.post rfl).steps
    split at done
    · rw [Except.ok.injEq] at done
      subst done
      apply posted.trans
      apply TurnStep.steps
      apply TurnStep.describe
      exact fun _ => ⟨rfl, rfl, rfl⟩
    · rw [Except.ok.injEq] at done
      subst done
      exact posted

theorem clearSession_steps (userId sessionId : Nat) (now : Time) :
    TurnSteps env may store (store.clearSession env userId sessionId now) := by
  rw [Store.clearSession]
  split
  · exact turnSteps_of_eq rfl
  · have invalidated : TurnSteps env may store
        { store with
          memory := Memory.invalidateSessionMemory env.contentHash store.memory sessionId
            "session_cleared" now } :=
      TurnSteps.quiet ⟨rfl, rfl, rfl, rfl, rfl, rfl, rfl, rfl⟩
    apply invalidated.trans
    apply TurnSteps.trans (TurnStep.forget sessionId).steps
    apply TurnSteps.trans _ (resetExecutionState_steps sessionId)
    apply TurnStep.steps
    apply TurnStep.describe
    exact fun _ => ⟨rfl, rfl, rfl⟩

theorem deleteSession_steps (userId sessionId : Nat) (now : Time) :
    TurnSteps env may store (store.deleteSession env userId sessionId now) := by
  rw [Store.deleteSession]
  split
  · exact turnSteps_of_eq rfl
  · have invalidated : TurnSteps env may store
        { store with
          memory := Memory.invalidateSessionMemory env.contentHash store.memory sessionId
            "session_deleted" now } :=
      TurnSteps.quiet ⟨rfl, rfl, rfl, rfl, rfl, rfl, rfl, rfl⟩
    exact invalidated.trans (TurnStep.drop sessionId).steps

theorem enqueueReflection_board (sessionId : Nat) (departmentId kbId : Option Nat) (target : Turn)
    (force : Bool) (now : Time) :
    SameBoard store (store.enqueueReflection env sessionId departmentId kbId target force now) := by
  cases departmentId <;> cases kbId <;> simp only [Store.enqueueReflection] <;> split <;>
    exact ⟨rfl, rfl, rfl, rfl, rfl, rfl, rfl, rfl⟩

theorem enqueueProjectReflectionGuarded_board (session : Session) (now : Time) :
    SameBoard store (store.enqueueProjectReflectionGuarded env session now) := by
  rw [Store.enqueueProjectReflectionGuarded]
  split
  · exact ⟨rfl, rfl, rfl, rfl, rfl, rfl, rfl, rfl⟩
  · exact enqueueReflection_board _ _ _ _ _ _

theorem editMessage_steps {messageId : Nat} {content : Option String} {reason : String}
    (done : store.editMessage env userId sessionId messageId content reason now = .ok after) :
    TurnSteps env may store after := by
  simp only [Store.editMessage, bind, Except.bind, throw, throwThe, MonadExceptOf.throw, pure, Except.pure] at done
  split at done
  · simp at done
  rename_i worded
  have words : content.getD "[已脱敏]" ≠ "" := by
    cases content with
    | none => decide
    | some =>
      rintro rfl
      exact worded (by decide)
  split at done
  · simp at done
  split at done
  · rename_i session _ _
    have edited : TurnSteps env may store
        { store with
          memory := Memory.invalidateMessageMemory env.contentHash store.memory session.id messageId
            (if reason ≠ "" then reason
              else if content.isNone then "message_redacted" else "message_edited") now
          messages := updateWhere (fun message => message.id == messageId)
            (fun message => { message with content := content.getD "[已脱敏]", editedAt := some now })
            store.messages } := by
      have written : TurnSteps env may store
          { store with
            messages := updateWhere (fun message => message.id == messageId)
              (fun message =>
                { message with content := content.getD "[已脱敏]", editedAt := some now })
              store.messages } :=
        (TurnStep.edit words).steps
      apply written.trans
      exact TurnSteps.quiet ⟨rfl, rfl, rfl, rfl, rfl, rfl, rfl, rfl⟩
    split at done
    · rw [Except.ok.injEq] at done
      subst done
      apply edited.trans
      exact TurnSteps.quiet (enqueueProjectReflectionGuarded_board session now)
    · rw [Except.ok.injEq] at done
      subst done
      exact edited
  · simp at done

theorem setSessionAutoExtract_steps {enabled : Bool}
    (done : store.setSessionAutoExtract userId sessionId enabled = .ok after) : TurnSteps env may store after := by
  simp only [Store.setSessionAutoExtract, throw, throwThe, MonadExceptOf.throw, pure, Except.pure] at done
  split at done
  · simp at done
  · split at done <;> rw [Except.ok.injEq] at done <;> subst done
    · apply TurnStep.steps
      apply TurnStep.describe
      exact fun _ => ⟨rfl, rfl, rfl⟩
    · exact TurnSteps.described ⟨rfl, rfl, rfl, rfl, rfl, rfl, rfl, rfl⟩ fun _ => ⟨rfl, rfl, rfl⟩

theorem createTurn_steps {request : TurnRequest}
    (done : store.createTurn env request now = .ok after) : TurnSteps env may store after := by
  simp only [Store.createTurn, bind, Except.bind, throw, throwThe, MonadExceptOf.throw, pure, Except.pure] at done
  split at done
  · simp at done
  split at done
  · simp at done
  · rename_i session found
    split at done
    · simp at done
    split at done <;> rw [Except.ok.injEq] at done <;> subst done
    · exact turnSteps_of_eq rfl
    · exact (TurnStep.create (List.mem_of_find?_eq_some found)).steps

theorem allocateTurnSequence_steps {allocated : Nat}
    (done : store.allocateTurnSequence sessionId = .ok (after, allocated)) : TurnSteps env may store after := by
  simp only [Store.allocateTurnSequence, throw, throwThe, MonadExceptOf.throw, pure, Except.pure] at done
  split at done
  · simp at done
  · rename_i session found
    have here : session.id = sessionId := by simpa using List.find?_some found
    rw [Except.ok.injEq, Prod.mk.injEq] at done
    rw [← done.1, ← here]
    exact (TurnStep.allot (List.mem_of_find?_eq_some found)).steps

/-! ### The attachment wait and the queue -/

theorem isNotice_attachment (reason : String) : IsNotice ("附件解析失败：" ++ reason) :=
  Or.inr (Or.inr ⟨reason, rfl⟩)

theorem isNotice_failure (reason : String) : IsNotice ("生成失败：" ++ reason) :=
  Or.inr (Or.inl ⟨reason, rfl⟩)

theorem isNotice_end (cancelled : Bool) (reason : String) :
    IsNotice (if cancelled then stoppedText else "生成失败：" ++ reason) := by
  cases cancelled with
  | true => exact Or.inl rfl
  | false => exact isNotice_failure reason

section

variable (ok : StoreOk store)
include ok

theorem transitionPending_steps (turnId : Nat) (errorMessage : String) (now : Time) :
    TurnSteps env may store (store.transitionWaitingTurn turnId .pending errorMessage now).1 := by
  simp only [Store.transitionWaitingTurn]
  by_cases waiting : ∃ turn ∈ store.turns, turn.id = turnId ∧ turn.status = .waitingForAttachments
  · obtain ⟨turn, member, rfl, status⟩ := waiting
    rw [ok.updateTurn_eq_rewrite member (by simp [status])]
    exact (TurnStep.ready member status).steps
  · apply turnSteps_of_eq
    apply updateTurn_of_none
    intro turn member here
    by_contra selected
    exact waiting ⟨turn, member, here, by simpa using selected⟩

theorem transitionFailed_steps (turnId : Nat) (errorMessage : String) (now : Time)
    (allowed : ∀ turn ∈ store.turns, turn.id = turnId → turn.status = .completed → may store (.notice turn)) :
    TurnSteps env may store (store.transitionWaitingTurn turnId .failed errorMessage now).1 := by
  simp only [Store.transitionWaitingTurn]
  cases found : store.turnById turnId with
  | none =>
    have absent : ∀ turn ∈ store.turns, turn.id ≠ turnId := by
      intro turn member
      simpa using List.find?_eq_none.mp found turn member
    rw [updateTurn_of_none fun turn member here => absurd here (absent turn member), Store.fillBlankOf, found]
    exact turnSteps_of_eq rfl
  | some turn =>
    obtain ⟨member, rfl⟩ := mem_of_turnById found
    by_cases waiting : turn.status = .waitingForAttachments
    · rw [ok.updateTurn_eq_rewrite member (by simp [waiting]), ok.fillBlankOf_rewrite member rfl]
      have concluded : TurnStep env may store
          (((store.rewriteTurn turn.id
            (Turn.conclude .failed (Python.clip 1000 errorMessage) now)).postNotice
            turn.assistantMessageId
            (some ("附件解析失败：" ++ Python.clip 400 errorMessage))).noteFinalized turn.id false) := by
        apply TurnStep.conclude member (by simp [waiting, TurnStatus.isNonTerminal]) rfl
          (Or.inl rfl) rfl
        · exact fun requested => requested
        · intro notice given
          rw [← Option.some.inj given]
          exact isNotice_attachment _
        · nofun
        · exact fun requested => Or.inl requested
      exact concluded.steps
    · rw [ok.updateTurn_eq_self member (by simp [waiting]), Store.fillBlankOf, found]
      apply TurnStep.steps
      exact TurnStep.notice member (allowed turn member rfl) (isNotice_attachment _)

theorem expireWaitingTurn_steps (seconds : Nat) (now : Time)
    (member : turn ∈ store.turns) (waiting : turn.status = .waitingForAttachments) :
    TurnSteps env may store (store.expireWaitingTurn seconds now turn.id) ∧
      KeepsOthers turn.id store (store.expireWaitingTurn seconds now turn.id) := by
  have moved : TurnSteps env may store (store.transitionWaitingTurn turn.id .failed
      "附件解析等待超时，本轮请求已取消；可稍后重新发送。" now).1 := by
    apply transitionFailed_steps ok
    intro other otherMember same completed
    rw [ok.turnIds.eq_of_key otherMember member same, waiting] at completed
    simp at completed
  have kept : KeepsOthers turn.id store (store.transitionWaitingTurn turn.id .failed
      "附件解析等待超时，本轮请求已取消；可稍后重新发送。" now).1 := by
    intro other otherMember different
    have updated := keepsOthers_updateTurn (p := fun turn => turn.status == .waitingForAttachments)
      (f := Turn.conclude .failed
        (Python.clip 1000 "附件解析等待超时，本轮请求已取消；可稍后重新发送。") now) other otherMember
      different
    simp only [Store.transitionWaitingTurn, Store.fillBlankOf]
    split <;> exact updated
  rw [Store.expireWaitingTurn]
  split
  · rename_i middle result
    rw [result] at moved kept
    exact ⟨moved, kept⟩
  · rename_i middle result
    rw [result] at moved kept
    split
    · rename_i last appended
      obtain ⟨steps, keeps⟩ : TurnSteps env may middle last ∧ _ := appendEvent_steps appended
      exact ⟨moved.trans steps, kept.trans keeps⟩
    · exact ⟨moved, kept⟩

theorem expireQueuedTurn_steps {seconds : Nat}
    (done : store.expireQueuedTurn seconds now turnId = .ok after) : TurnSteps env may store after := by
  simp only [Store.expireQueuedTurn] at done
  split at done
  · rename_i queued
    obtain ⟨turn, member, selected⟩ := List.any_eq_true.mp queued
    simp only [Bool.and_eq_true, beq_iff_eq] at selected
    obtain ⟨rfl, pending⟩ := selected
    rw [ok.updateTurn_eq_rewrite member (by simp [pending]), ok.fillBlankOf_rewrite member rfl] at done
    exact (conclude_steps member (by simp [pending, TurnStatus.isNonTerminal]) rfl (Or.inl rfl) rfl
      rfl (isNotice_failure "排队等待超时") done).1
  · rw [Except.ok.injEq] at done
    exact turnSteps_of_eq done.symm

end

theorem expireQueuedRows_steps (seconds : Nat) (now : Time) (ids : List Nat) (ok : StoreOk store) :
    TurnSteps env may store (store.expireQueuedRows seconds now ids) := by
  induction ids generalizing store with
  | nil => exact turnSteps_of_eq rfl
  | cons turnId rest ih =>
    rw [Store.expireQueuedRows]
    split
    · rename_i middle done
      have first : TurnSteps env may store middle := expireQueuedTurn_steps ok done
      exact first.trans (ih (ok.steps first))
    · exact turnSteps_of_eq rfl

theorem selected_rest {turn : Turn} {rest : List Turn} {p : Turn → Prop}
    (distinct : turn.id ∉ rest.map Turn.id) (selected : ∀ other ∈ turn :: rest, other ∈ store.turns ∧ p other)
    (keeps : KeepsOthers turn.id store middle) : ∀ other ∈ rest, other ∈ middle.turns ∧ p other := by
  intro other member
  obtain ⟨there, holds⟩ := selected other (by simp [member])
  have different : other.id ≠ turn.id := by
    intro same
    exact distinct (List.mem_map.mpr ⟨other, member, same⟩)
  exact ⟨keeps other there different, holds⟩

theorem expireWaitingRows_steps (seconds : Nat) (now : Time) (rows : List Turn)
    (distinct : (rows.map Turn.id).Nodup) (ok : StoreOk store)
    (selected : ∀ turn ∈ rows, turn ∈ store.turns ∧ turn.status = .waitingForAttachments) :
    TurnSteps env may store ((rows.map Turn.id).foldl (fun store turnId => store.expireWaitingTurn seconds now turnId)
        store) := by
  induction rows generalizing store with
  | nil => exact turnSteps_of_eq rfl
  | cons turn rest ih =>
    rw [List.map_cons, List.nodup_cons] at distinct
    obtain ⟨member, waiting⟩ := selected turn (by simp)
    obtain ⟨first, keeps⟩ : TurnSteps env may store (store.expireWaitingTurn seconds now turn.id) ∧
        _ := expireWaitingTurn_steps ok seconds now member waiting
    rw [List.map_cons, List.foldl_cons]
    apply first.trans
    exact ih distinct.2 (ok.steps first) (selected_rest distinct.1 selected keeps)

theorem expireWaitingTurns_steps (ok : StoreOk store) (maxWaitSeconds : Option Nat) (limit : Nat) (now dbNow : Time) :
    TurnSteps env may store (store.expireWaitingTurns env maxWaitSeconds limit now dbNow) := by
  rw [Store.expireWaitingTurns, Store.oldestFirst]
  simp only
  apply expireWaitingRows_steps _ _ _ _ ok
  · intro turn listed
    have sorted := List.mem_of_mem_take listed
    rw [List.mem_insertionSort] at sorted
    obtain ⟨member, waited⟩ := List.mem_filter.mp sorted
    simp only [Turn.waitedOut, Bool.and_eq_true, beq_iff_eq] at waited
    exact ⟨member, waited.1⟩
  · apply List.Nodup.sublist ((List.take_sublist _ _).map _)
    apply ((List.perm_insertionSort _ _).map Turn.id).nodup_iff.mpr
    exact ok.turnIds.sublist (List.filter_sublist.map _)

/-! ### Abandoned turns -/

theorem convergeStaleTurn_steps (ok : StoreOk store) (member : turn ∈ store.turns)
    (running : turn.status.isRunning = true) (done : store.convergeStaleTurn now turn = .ok after) :
    TurnSteps env may store after ∧ KeepsOthers turn.id store after := by
  simp only [Store.convergeStaleTurn] at done
  split at done
  · rename_i retried
    simp only [Bool.and_eq_true, Bool.not_eq_true', decide_eq_true_eq] at retried
    rw [Except.ok.injEq] at done
    subst done
    constructor
    · rw [ok.updateTurn_eq_rewrite member running]
      exact (TurnStep.requeue member running retried.1).steps
    · exact keepsOthers_updateTurn
  · rw [ok.updateTurn_eq_rewrite member running, ok.fillBlankOf_rewrite member rfl] at done
    apply conclude_steps member (TurnStatus.isNonTerminal_of_isRunning running) rfl _ rfl rfl
      (isNotice_end _ _) done
    cases turn.cancelRequested with
    | true => exact Or.inr rfl
    | false => exact Or.inl rfl

/-- The permission that permits everything. -/
def anyDeed : Store → Deed → Prop := fun _ _ => True

theorem convergeStaleTurns_keeps (env : Environment) {inv : Store → Prop}
    (one : ∀ middle next turn, StoreOk middle → inv middle → turn ∈ middle.turns → turn.status.isRunning = true →
      middle.convergeStaleTurn now turn = .ok next → inv next)
    (rows : List Turn) (distinct : (rows.map Turn.id).Nodup) (ok : StoreOk store) (start : inv store)
    (selected : ∀ turn ∈ rows, turn ∈ store.turns ∧ turn.status.isRunning = true)
    (done : rows.foldlM (fun store row => store.convergeStaleTurn now row) store = .ok after) : inv after := by
  induction rows generalizing store with
  | nil =>
    cases done
    exact start
  | cons turn rest ih =>
    rw [List.map_cons, List.nodup_cons] at distinct
    rw [List.foldlM_cons] at done
    obtain ⟨middle, first, later⟩ := exists_of_bind_eq_ok done
    obtain ⟨member, running⟩ := selected turn (by simp)
    obtain ⟨steps, keeps⟩ : TurnSteps env anyDeed store middle ∧ _ :=
      convergeStaleTurn_steps ok member running first
    exact ih distinct.2 (ok.steps steps) (one store middle turn ok start member running first)
      (selected_rest distinct.1 selected keeps) later

theorem staleTurns_selected (ok : StoreOk store) (seconds : Nat) (dbNow : Time) :
    ((store.turns.filter (Turn.isStale seconds dbNow)).map Turn.id).Nodup ∧
      ∀ turn ∈ store.turns.filter (Turn.isStale seconds dbNow),
        turn ∈ store.turns ∧ turn.status.isRunning = true := by
  refine ⟨ok.turnIds.sublist (List.filter_sublist.map _), ?_⟩
  intro turn listed
  obtain ⟨member, stale⟩ := List.mem_filter.mp listed
  simp only [Turn.isStale, Bool.and_eq_true] at stale
  exact ⟨member, stale.1⟩

theorem requeueStaleTurns_steps (ok : StoreOk store) {staleAfterSeconds : Nat} {dbNow : Time}
    (done : store.requeueStaleTurns env staleAfterSeconds now dbNow = .ok after) : TurnSteps env may store after := by
  obtain ⟨middle, converged, last⟩ := exists_of_bind_eq_ok done
  cases last
  obtain ⟨distinct, selected⟩ := staleTurns_selected ok _ _
  have first : TurnSteps env may store middle :=
    convergeStaleTurns_keeps env
      (fun _ _ _ okMiddle before member running step =>
        before.trans (convergeStaleTurn_steps okMiddle member running step).1)
      _ distinct ok (turnSteps_of_eq rfl) selected converged
  exact first.trans (TurnStep.lease dropLease_moves).steps

/-! ### Claims

A claim takes the turn back from a silent worker, and then stops it, ends it or grants it. -/

/-- No earlier turn of the session is open. -/
def AtHead (store : Store) (turn : Turn) : Prop :=
  ∀ prior ∈ store.turns, prior.id ≠ turn.id → turn.isBehind prior = false

theorem atHead_of_earlierTurn (none : store.earlierTurn turn = none) : AtHead store turn := by
  intro prior member different
  have empty := eq_nil_of_firstBy none
  have skipped := List.filter_eq_nil_iff.mp empty prior member
  simpa [different] using skipped

/-- The gate of a serialized claim: nothing but leases changes, and a claim that goes on is at the head
of its session. -/
theorem sessionGate_spec {result : Option ClaimResult} (gate : store.sessionGate turn now = (middle, result)) :
    TurnSteps env may store middle ∧ middle.turns = store.turns ∧ middle.history = store.history ∧
      (∀ given, result ≠ some (.claimed given)) ∧ (result = none → AtHead store turn ∧
        ∃ state ∈ middle.executionStates, state.sessionId = turn.sessionId) := by
  have ensured : TurnSteps env may store (store.ensureExecutionState turn.sessionId).1 :=
    ensureExecutionState_steps turn.sessionId
  obtain ⟨turns, _, history⟩ := ensureExecutionState_frame store turn.sessionId
  simp only [Store.sessionGate] at gate
  split at gate
  · rename_i ready ensure
    rw [ensure] at ensured turns history
    simp only [Prod.mk.injEq] at gate
    obtain ⟨rfl, rfl⟩ := gate
    exact ⟨ensured, turns, history, by simp, by simp⟩
  · rename_i ready state ensure
    have present := ensureExecutionState_spec (congrArg Prod.snd ensure)
    rw [ensure] at ensured turns history present
    have released (active : Nat) :
        TurnSteps env may store (ready.releaseLease turn.sessionId active) :=
      ensured.trans (releaseLease_steps turn.sessionId active)
    have home (active : Nat) : ∃ state ∈ (ready.releaseLease turn.sessionId active).executionStates,
        state.sessionId = turn.sessionId := by
      have kept : (if state.sessionId == turn.sessionId && state.activeTurnId == some active then
          state.dropLease else state) ∈
            (ready.releaseLease turn.sessionId active).executionStates :=
        mem_updateWhere_of_mem present.1
      exact ⟨_, kept, by split <;> exact present.2⟩
    split at gate
    · simp only [Prod.mk.injEq] at gate
      obtain ⟨rfl, rfl⟩ := gate
      exact ⟨ensured, turns, history, by simp, by simp⟩
    · rename_i earliest
      have head : AtHead store turn := by
        rw [AtHead, ← turns]
        exact atHead_of_earlierTurn earliest
      split at gate
      · simp only [Prod.mk.injEq] at gate
        obtain ⟨rfl, rfl⟩ := gate
        exact ⟨ensured, turns, history, by simp, fun _ => ⟨head, state, present⟩⟩
      · rename_i active _
        split at gate
        · split at gate
          · simp only [Prod.mk.injEq] at gate
            obtain ⟨rfl, rfl⟩ := gate
            exact ⟨ensured, turns, history, by simp, by simp⟩
          · simp only [Prod.mk.injEq] at gate
            obtain ⟨rfl, rfl⟩ := gate
            exact ⟨released active, turns, history, by simp, fun _ => ⟨head, home active⟩⟩
        · simp only [Prod.mk.injEq] at gate
          obtain ⟨rfl, rfl⟩ := gate
          exact ⟨ensured, turns, history, by simp, fun _ => ⟨head, state, present⟩⟩

theorem sessionGate_messages (store : Store) (turn : Turn) (now : Time) :
    (store.sessionGate turn now).1.messages = store.messages := by
  have ensured : (store.ensureExecutionState turn.sessionId).1.messages = store.messages := by
    rw [Store.ensureExecutionState]
    split
    · rfl
    · split <;> rfl
  rw [Store.sessionGate]
  split
  · rename_i there
    simpa only [there] using ensured
  · rename_i there
    rw [there] at ensured
    repeat' split
    all_goals exact ensured

theorem takeLease_state (env : Environment) (ok : StoreOk store) {state : ExecutionState}
    (present : state ∈ store.executionStates) (home : state.sessionId = turn.sessionId)
    (workerId : String) (now : Time) : (store.takeLease env turn workerId now).executionState turn.sessionId =
      some { state with
        activeTurnId := some turn.id
        leaseOwner := workerId
        leaseExpiresAt := some (isoAfter now (max 30 env.chatTurnLeaseSeconds))
        fencingToken := state.fencingToken + 1 } := by
  have leased : StoreOk (store.takeLease env turn workerId now) :=
    ok.of_keys (sameKeys_of_states fun _ => rfl)
  have taken : _ ∈ (store.takeLease env turn workerId now).executionStates :=
    mem_updateWhere_of_mem present
  have selected : (state.sessionId == turn.sessionId) = true := by simp [home]
  rw [if_pos selected] at taken
  rw [← home]
  exact leased.stateIds.find?_eq taken

theorem turnById_started (ok : StoreOk store) (member : turn ∈ store.turns) (workerId : String) (now : Time) :
    (store.updateTurn turn.id (fun row => decide (row.retryCount < 3)) (Turn.start workerId now)).turnById turn.id =
        some (if turn.retryCount < 3 then turn.start workerId now else turn) := by
  by_cases attempts : turn.retryCount < 3
  · rw [ok.updateTurn_eq_rewrite member (by simp [attempts]), if_pos attempts]
    exact ok.turnById_rewrite member rfl
  · rw [ok.updateTurn_eq_self member (by simp [attempts]), if_neg attempts]
    exact ok.turnById_eq member

/-- What a claim has to establish before the turn is started. -/
structure Claimable (env : Environment) (store : Store) (turn : Turn) : Prop where
  member : turn ∈ store.turns
  pending : turn.status = .pending
  kept : turn.cancelRequested = false
  head : env.serializeSameThread = true → AtHead store turn
  state : env.serializeSameThread = true →
    ∃ state ∈ store.executionStates, state.sessionId = turn.sessionId

/-- The statements of a claim that nothing holds back: the turn is granted, or it has used up its
attempts. -/
theorem startTurn_spec (ok : StoreOk store) {before : Store} {workerId : String} {now : Time}
    {result : ClaimResult} (claimable : Claimable env store turn)
    (exhausted : 3 ≤ turn.retryCount → turn.workerId ≠ workerId → may store (.exhaust turn))
    (done : store.startTurn env before turn workerId now = (after, result)) : TurnSteps env may store after ∧
      ∀ given, result = .claimed given →
        given.sessionId = turn.sessionId ∧ given.turnId = turn.id ∧
          after.history.grants = given :: store.history.grants := by
  obtain ⟨member, pending, kept, head, state⟩ := claimable
  simp only [Store.startTurn, turnById_started ok member] at done
  by_cases other : (if turn.retryCount < 3 then turn.start workerId now else turn).workerId ≠ workerId
  · -- a started row carries the worker, so the attempts are used up
    have attempts : ¬ turn.retryCount < 3 := by
      intro fewer
      rw [if_pos fewer] at other
      exact other rfl
    rw [if_pos other, if_neg attempts, if_pos (by omega), ok.updateTurn_eq_self member (by simp [attempts])] at done
    simp only [Prod.mk.injEq] at done
    obtain ⟨rfl, rfl⟩ := done
    refine ⟨?_, by simp⟩
    have concluded : TurnStep env may store
        (((store.rewriteTurn turn.id
          (Turn.conclude .failed "Exceeded maximum chat retries" now)).postNotice
          turn.assistantMessageId none).noteFinalized turn.id false) := by
      apply TurnStep.conclude member (by simp [pending, TurnStatus.isNonTerminal]) rfl (Or.inl rfl)
        rfl
      · exact fun requested => requested
      · nofun
      · exact fun _ => exhausted (by omega) (by rwa [if_neg attempts] at other)
      · exact fun requested => Or.inl requested
    exact concluded.steps
  · rw [if_neg other] at done
    by_cases serialized : env.serializeSameThread = true
    · obtain ⟨state, present, home⟩ := state serialized
      have started : StoreOk (store.updateTurn turn.id (fun row => decide (row.retryCount < 3))
          (Turn.start workerId now)) := ok.of_keys (sameKeys_rewriteTurn ok member rfl)
      rw [if_pos serialized] at done
      simp only [Store.ensureExecutionState,
        takeLease_state env started present home workerId now, Prod.mk.injEq] at done
      obtain ⟨rfl, rfl⟩ := done
      constructor
      · exact (TurnStep.claim serialized member pending kept (head serialized) present home).steps
      · intro given granted
        cases granted
        exact ⟨rfl, rfl, rfl⟩
    · rw [if_neg serialized] at done
      simp only [Prod.mk.injEq] at done
      obtain ⟨rfl, rfl⟩ := done
      constructor
      · exact (TurnStep.start (by simpa using serialized) member pending kept).steps
      · intro given granted
        cases granted
        exact ⟨rfl, rfl, rfl⟩

variable {workerId : String}

theorem claimPending_spec (ok : StoreOk store) {before : Store}
    {result : ClaimResult} (member : turn ∈ store.turns) (pending : turn.status = .pending)
    (kept : turn.cancelRequested = false) (exhausted : 3 ≤ turn.retryCount → turn.workerId ≠ workerId →
      (env.serializeSameThread = true → (store.sessionGate turn now).2 = none) →
        ∀ middle, middle.messages = store.messages → may middle (.exhaust turn))
    (done : store.claimPending env before turn workerId now = (after, result)) :
    TurnSteps env may store after ∧ ∀ given, result = .claimed given →
        given.sessionId = turn.sessionId ∧ given.turnId = turn.id ∧
          after.history.grants = given :: store.history.grants ∧
          (env.serializeSameThread = true → AtHead store turn) := by
  rw [Store.claimPending] at done
  split at done
  · rename_i serialized
    split at done
    · rename_i middle blocked gate
      obtain ⟨steps, _, _, unclaimed, _⟩ : TurnSteps env may store middle ∧ _ :=
        sessionGate_spec gate
      simp only [Prod.mk.injEq] at done
      obtain ⟨rfl, rfl⟩ := done
      refine ⟨steps, ?_⟩
      intro given granted
      exact absurd (congrArg some granted) (unclaimed given)
    · rename_i middle gate
      obtain ⟨steps, turns, history, _, goesOn⟩ : TurnSteps env may store middle ∧ _ :=
        sessionGate_spec gate
      obtain ⟨head, state⟩ := goesOn rfl
      have claimable : Claimable env middle turn :=
        { member := by rw [turns]; exact member
          pending := pending
          kept := kept
          head := by
            intro _
            rw [AtHead, turns]
            exact head
          state := fun _ => state }
      have messages := sessionGate_messages store turn now
      rw [gate] at messages exhausted
      obtain ⟨started, granted⟩ : TurnSteps env may middle after ∧ _ :=
        startTurn_spec (ok.steps steps) claimable
          (fun spent other => exhausted spent other (fun _ => rfl) middle messages) done
      refine ⟨steps.trans started, ?_⟩
      intro given claimed
      obtain ⟨session, here, grants⟩ := granted given claimed
      rw [history] at grants
      exact ⟨session, here, grants, fun _ => head⟩
  · rename_i unserialized
    have claimable : Claimable env store turn :=
      { member := member
        pending := pending
        kept := kept
        head := fun serialized => absurd serialized unserialized
        state := fun serialized => absurd serialized unserialized }
    obtain ⟨started, granted⟩ : TurnSteps env may store after ∧ _ :=
      startTurn_spec ok claimable
        (fun spent other =>
          exhausted spent other (fun serialized => absurd serialized unserialized) store rfl) done
    refine ⟨started, ?_⟩
    intro given claimed
    obtain ⟨session, here, grants⟩ := granted given claimed
    exact ⟨session, here, grants, fun serialized => absurd serialized unserialized⟩

namespace StoreOk

theorem getTurn_eq (ok : StoreOk store) (member : turn ∈ store.turns)
    (owned : store.owns userId turn = true) : store.getTurn userId turn.id = some turn :=
  ok.turnIds.find?_and_eq member owned

theorem getTurn_rewrite (ok : StoreOk store) (member : turn ∈ store.turns)
    (owned : store.owns userId turn = true) (same : (f turn).identity = turn.identity) :
    (store.rewriteTurn turn.id f).getTurn userId turn.id = some (f turn) := by
  have kept : StoreOk (store.rewriteTurn turn.id f) :=
    ok.of_keys (sameKeys_rewriteTurn ok member same)
  have here := (mem_of_turnById (ok.turnById_rewrite member same)).1
  have stillOwned : (store.rewriteTurn turn.id f).owns userId (f turn) = true := by
    rw [Store.owns, Turn.sessionId_of_identity same]
    exact owned
  have found := kept.getTurn_eq here stillOwned
  rw [Turn.id_of_identity same] at found
  exact found

end StoreOk

theorem rewriteTurn_rewriteTurn {g : Turn → Turn} (keeps : ∀ turn, (f turn).id = turn.id) :
    (store.rewriteTurn turnId f).rewriteTurn turnId g = store.rewriteTurn turnId fun turn => g (f turn) := by
  have same : updateWhere (fun turn => turn.id == turnId && true) g
      (updateWhere (fun turn => turn.id == turnId && true) f store.turns) =
        updateWhere (fun turn => turn.id == turnId && true) (fun turn => g (f turn)) store.turns := by
    apply updateWhere_comp
    intro turn
    rw [keeps]
  simp only [Store.rewriteTurn, Store.updateTurn, same]

section

variable (ok : StoreOk store)
include ok

theorem StoreOk.convergeCancelled_eq (member : turn ∈ store.turns) (pending : turn.status = .pending) (now : Time) :
    store.convergeCancelled turn.id now = ((store.rewriteTurn turn.id (Turn.stop now)).fillBlank turn.assistantMessageId
        stoppedText).appendTerminalEvents turn.id (Store.convergenceEvents true stoppedText) now := by
  rw [Store.convergeCancelled, ok.updateTurn_eq_rewrite member (by simp [pending]), ok.fillBlankOf_rewrite member rfl]

/-- An abandoned turn that goes through the queue and is stopped there is stopped in one step. -/
theorem StoreOk.convergeCancelled_requeue (member : turn ∈ store.turns) (now : Time) :
    (store.rewriteTurn turn.id Turn.requeue).convergeCancelled turn.id now =
      ((store.rewriteTurn turn.id fun turn => Turn.stop now turn.requeue).fillBlank
        turn.assistantMessageId stoppedText).appendTerminalEvents turn.id
          (Store.convergenceEvents true stoppedText) now := by
  have requeued : StoreOk (store.rewriteTurn turn.id Turn.requeue) :=
    ok.of_keys (sameKeys_rewriteTurn ok member rfl)
  have here := (mem_of_turnById (ok.turnById_rewrite (f := Turn.requeue) member rfl)).1
  rw [← rewriteTurn_rewriteTurn (f := Turn.requeue) fun _ => rfl]
  exact requeued.convergeCancelled_eq here rfl now

theorem convergeCancelled_steps (member : turn ∈ store.turns)
    (pending : turn.status = .pending) (done : store.convergeCancelled turn.id now = .ok after) :
    TurnSteps env may store after := by
  rw [ok.convergeCancelled_eq member pending] at done
  exact (conclude_steps member (by simp [pending, TurnStatus.isNonTerminal]) rfl (Or.inr rfl) rfl rfl
    (Or.inl rfl) done).1

theorem convergeCancelled_stale_steps (member : turn ∈ store.turns) (running : turn.status.isRunning = true)
    (done : (store.rewriteTurn turn.id Turn.requeue).convergeCancelled turn.id now = .ok after) :
    TurnSteps env may store after := by
  rw [ok.convergeCancelled_requeue member] at done
  exact (conclude_steps member (TurnStatus.isNonTerminal_of_isRunning running) rfl (Or.inr rfl) rfl rfl
    (Or.inl rfl) done).1

end

/-- The store in which a claim looks for its turn: a worker that fell silent has lost it. -/
def Store.reclaimed (env : Environment) (store : Store) (turnId staleAfterSeconds : Nat) (dbNow : Time) : Store :=
  store.updateTurn turnId (Turn.isStale (staleSeconds env staleAfterSeconds) dbNow) Turn.requeue

/-- Nothing but its attempts keeps the worker from the turn. -/
def Store.UsedUp (env : Environment) (store : Store) (turn : Turn) (workerId : String) (now : Time) : Prop :=
  turn.status = .pending ∧ turn.cancelRequested = false ∧ 3 ≤ turn.retryCount ∧
    turn.workerId ≠ workerId ∧
      (env.serializeSameThread = true → (store.sessionGate turn now).2 = none)

instance (env : Environment) (store : Store) (turn : Turn) (workerId : String) (now : Time) :
    Decidable (store.UsedUp env turn workerId now) :=
  inferInstanceAs (Decidable (_ ∧ _))

theorem claimTurnResult_spec (ok : StoreOk store) {staleAfterSeconds : Nat} {dbNow : Time} {result : ClaimResult}
    (exhausted : ∀ turn ∈ (store.reclaimed env turnId staleAfterSeconds dbNow).getTurn userId turnId,
      (store.reclaimed env turnId staleAfterSeconds dbNow).UsedUp env turn workerId now →
        ∀ middle, middle.messages = store.messages → may middle (.exhaust turn))
    (done : store.claimTurnResult env userId turnId workerId staleAfterSeconds now dbNow = .ok (after, result)) :
    TurnSteps env may store after ∧ ∀ given, result = .claimed given → ∃ turn ∈ store.turns, turn.id = turnId ∧
        given.sessionId = turn.sessionId ∧ given.turnId = turn.id ∧
          after.history.grants = given :: store.history.grants ∧
          (env.serializeSameThread = true → AtHead store turn) := by
  rw [Store.claimTurnResult] at done
  split at done
  · simp only [Except.ok.injEq, Prod.mk.injEq] at done
    obtain ⟨rfl, rfl⟩ := done
    exact ⟨turnSteps_of_eq rfl, by simp⟩
  rename_i turn found
  obtain ⟨member, rfl, owned⟩ := mem_of_getTurn found
  by_cases stale : turn.isStale (staleSeconds env staleAfterSeconds) dbNow = true
  · -- the turn was left behind by another worker and goes through the queue first
    have running : turn.status.isRunning = true := by
      simp only [Turn.isStale, Bool.and_eq_true] at stale
      exact stale.1
    have requeued : StoreOk (store.rewriteTurn turn.id Turn.requeue) :=
      ok.of_keys (sameKeys_rewriteTurn ok member rfl)
    have here := (mem_of_turnById (ok.turnById_rewrite (f := Turn.requeue) member rfl)).1
    rw [ok.updateTurn_eq_rewrite member stale] at done
    rw [Store.reclaimed, ok.updateTurn_eq_rewrite member stale] at exhausted
    simp only [ok.getTurn_rewrite (f := Turn.requeue) member owned rfl] at done
    rw [if_neg (by simp [Turn.requeue])] at done
    split at done
    · cases converged : (store.rewriteTurn turn.id Turn.requeue).convergeCancelled turn.id now with
      | error => simp [converged, Except.map] at done
      | ok =>
        simp only [converged, Except.map, Except.ok.injEq, Prod.mk.injEq] at done
        obtain ⟨rfl, rfl⟩ := done
        exact ⟨convergeCancelled_stale_steps ok member running converged, by simp⟩
    · rename_i kept
      have uncancelled : turn.cancelRequested = false := by simpa [Turn.requeue, Turn.leaveWorker] using kept
      rw [Except.ok.injEq] at done
      obtain ⟨steps, granted⟩ : TurnSteps env may _ after ∧ _ :=
        claimPending_spec requeued here rfl uncancelled
          (fun spent other gate =>
            exhausted _ (ok.getTurn_rewrite member owned rfl) ⟨rfl, uncancelled, spent, other, gate⟩)
          done
      have first : TurnSteps env may store (store.rewriteTurn turn.id Turn.requeue) :=
        (TurnStep.requeue member running uncancelled).steps
      refine ⟨first.trans steps, ?_⟩
      intro given claimed
      obtain ⟨session, id, grants, head⟩ := granted given claimed
      refine ⟨turn, member, rfl, session, id, grants, ?_⟩
      intro serialized prior priorMember different
      exact head serialized prior (keepsOthers_updateTurn prior priorMember different) different
  · rw [ok.updateTurn_eq_self member (by simpa using stale)] at done
    rw [Store.reclaimed, ok.updateTurn_eq_self member (by simpa using stale)] at exhausted
    simp only [ok.getTurn_eq member owned] at done
    split at done
    · simp only [Except.ok.injEq, Prod.mk.injEq] at done
      obtain ⟨rfl, rfl⟩ := done
      refine ⟨turnSteps_of_eq rfl, ?_⟩
      intro given claimed
      split at claimed <;> simp at claimed
    rename_i pending
    have pending : turn.status = .pending := by simpa using pending
    split at done
    · cases converged : store.convergeCancelled turn.id now with
      | error => simp [converged, Except.map] at done
      | ok =>
        simp only [converged, Except.map, Except.ok.injEq, Prod.mk.injEq] at done
        obtain ⟨rfl, rfl⟩ := done
        exact ⟨convergeCancelled_steps ok member pending converged, by simp⟩
    · rename_i kept
      rw [Except.ok.injEq] at done
      obtain ⟨steps, granted⟩ : TurnSteps env may store after ∧ _ :=
        claimPending_spec ok member pending (by simpa using kept)
          (fun spent other gate => exhausted turn (ok.getTurn_eq member owned)
            ⟨pending, by simpa using kept, spent, other, gate⟩) done
      refine ⟨steps, ?_⟩
      intro given claimed
      obtain ⟨session, id, grants, head⟩ := granted given claimed
      exact ⟨turn, member, rfl, session, id, grants, head⟩

/-! ### The writes of a worker -/

theorem releaseTurnOwnership_steps (turnId : Nat) (workerId : String) (fencingToken : Option Nat) :
    TurnSteps env may store (store.releaseTurnOwnership turnId workerId fencingToken).1 := by
  rw [Store.releaseTurnOwnership]
  split
  · exact turnSteps_of_eq rfl
  · split
    · exact releaseLease_steps _ _
    · exact turnSteps_of_eq rfl

theorem touchTurnWorker_steps (turnId : Nat) (workerId : String) (fencingToken : Option Nat) (now : Time) :
    TurnSteps env may store (store.touchTurnWorker env turnId workerId fencingToken now).1 := by
  have touched : TurnSteps env may store
      (store.updateTurn turnId (fun turn => turn.workerId == workerId && turn.status.isRunning)
        fun turn => { turn with workerHeartbeatAt := some now }) := by
    apply TurnStep.steps
    apply TurnStep.annotate
    exact fun _ => ⟨rfl, rfl, rfl, rfl, fun _ => rfl⟩
  cases fencingToken with
  | none => exact touched
  | some =>
    simp only [Store.touchTurnWorker]
    split
    · split
      · exact touched
      · apply touched.trans
        apply TurnStep.steps
        apply TurnStep.lease
        exact fun _ => ⟨rfl, rfl, Nat.le_refl _, Or.inl rfl⟩
    · exact turnSteps_of_eq rfl

theorem updateRecoverableCheckpointRef_steps {fencingToken : Nat} {ref : String}
    {expectedGeneration : Option Nat} {registered : Bool}
    (done : store.updateRecoverableCheckpointRef turnId workerId fencingToken ref expectedGeneration =
      .ok (after, registered)) : TurnSteps env may store after := by
  simp only [Store.updateRecoverableCheckpointRef, bind, Except.bind, throw, throwThe,
    MonadExceptOf.throw, pure, Except.pure] at done
  split at done
  · simp only [Except.ok.injEq, Prod.mk.injEq] at done
    exact turnSteps_of_eq done.1.symm
  · split at done
    · simp at done
    split at done
    · simp at done
    simp only [Except.ok.injEq, Prod.mk.injEq] at done
    rw [← done.1]
    apply TurnStep.steps
    apply TurnStep.lease
    exact fun _ => ⟨rfl, rfl, Nat.le_refl _, Or.inl rfl⟩

theorem appendTurnEvent_steps {eventType : String} {payload : Payload} {fencingToken : Option Nat}
    (done : store.appendTurnEvent turnId eventType payload workerId fencingToken now = .ok after) :
    TurnSteps env may store after := by
  simp only [Store.appendTurnEvent, bind, Except.bind, throw, throwThe, MonadExceptOf.throw] at done
  split at done
  · simp at done
  · exact (appendEvent_steps done).1

/-- Only a checkpoint pointer moved. -/
structure SameLease (state after : ExecutionState) : Prop where
  session : after.sessionId = state.sessionId
  token : after.fencingToken = state.fencingToken
  generation : after.generation = state.generation
  active : after.activeTurnId = state.activeTurnId

theorem SameLease.moves {after : ExecutionState} (same : SameLease state after) : LeaseMove state after :=
  ⟨same.session, same.token, Nat.le_of_eq same.generation.symm, Or.inl same.active⟩

/-- The fence of a completion lets a call pass. -/
def Store.fencePasses (store : Store) (row : Turn) (call : Completion) : Bool :=
  call.fencingToken.all fun token =>
    store.verifyTurnOwner call.turnId call.workerId token &&
      call.expectedGeneration.all fun expected => store.hasGeneration row.sessionId expected

/-- A completion that passes the fence moves at most the committed pointer before it writes. -/
theorem fenceCompletion_spec {row : Turn} {call : Completion} (fenced : store.fenceCompletion row call = .ok after) :
    store.fencePasses row call = true ∧
      ∃ f, after = store.updateState (fun state => state.sessionId == row.sessionId) f ∧
        ∀ state, SameLease state (f state) := by
  have untouched : store = store.updateState (fun state => state.sessionId == row.sessionId) id := by
    have same : updateWhere (fun state => state.sessionId == row.sessionId) id
        store.executionStates = store.executionStates := updateWhere_eq_self fun _ _ _ => rfl
    rw [Store.updateState, same]
  have still : ∀ state, SameLease state (id state) := fun _ => ⟨rfl, rfl, rfl, rfl⟩
  simp only [Store.fenceCompletion, bind, Except.bind, throw, throwThe, MonadExceptOf.throw, pure,
    Except.pure] at fenced
  rw [Store.fencePasses]
  split at fenced
  · rename_i free
    rw [Except.ok.injEq] at fenced
    subst fenced
    exact ⟨by simp [free], id, untouched, still⟩
  · rename_i token given
    split at fenced
    · simp at fenced
    rename_i owner
    split at fenced
    · simp at fenced
    rename_i generation
    have passes : (call.fencingToken.all fun token =>
        store.verifyTurnOwner call.turnId call.workerId token &&
          call.expectedGeneration.all fun expected => store.hasGeneration row.sessionId expected) =
            true := by
      rw [given]
      have owned : store.verifyTurnOwner call.turnId call.workerId token = true := by
        simpa using owner
      cases expected : call.expectedGeneration with
      | none => simp [owned]
      | some =>
        rw [expected] at generation
        simpa [owned] using generation
    split at fenced <;> rw [Except.ok.injEq] at fenced <;> subst fenced
    · exact ⟨passes, id, untouched, still⟩
    · exact ⟨passes, _, rfl, fun _ => ⟨rfl, rfl, rfl, rfl⟩⟩

theorem enqueueExports_board (done : store.enqueueExports env userId turn now = .ok after) : SameBoard store after := by
  rw [Store.enqueueExports] at done
  split at done
  · rw [Except.ok.injEq] at done
    subst done
    exact ⟨rfl, rfl, rfl, rfl, rfl, rfl, rfl, rfl⟩
  · split at done
    · rw [Except.ok.injEq] at done
      subst done
      exact ⟨rfl, rfl, rfl, rfl, rfl, rfl, rfl, rfl⟩
    · simp at done

/-- The permission for a completion is asked in the state that the call finds; it has to survive the
move of the committed pointer. -/
def PointerBlind (may : Store → Deed → Prop) : Prop :=
  ∀ (store : Store) (p : ExecutionState → Bool) (f : ExecutionState → ExecutionState) (deed : Deed),
    (∀ state, SameLease state (f state)) → may store deed → may (store.updateState p f) deed

theorem completeTurnResult_steps {call : Completion} {completed : Turn} (blind : PointerBlind may)
    (allowed : ∀ turn, store.getTurn call.userId call.turnId = some turn →
      store.fencePasses turn call = true → may store (.complete turn))
    (done : store.completeTurnResult env call now = .ok (after, completed)) : TurnSteps env may store after := by
  simp only [Store.completeTurnResult, bind, Except.bind, throw, throwThe, MonadExceptOf.throw, pure,
    Except.pure] at done
  split at done
  · simp at done
  rename_i turn found
  split at done
  · simp at done
  rename_i fencedStore fenced
  split at done
  · simp at done
  rename_i written appended
  split at done
  · simp at done
  rename_i exported enqueued
  obtain ⟨member, here, owned⟩ := mem_of_getTurn found
  obtain ⟨passes, f, rfl, moves⟩ := fenceCompletion_spec fenced
  have permitted := blind store (fun state => state.sessionId == turn.sessionId) f _ moves
    (allowed turn found passes)
  rw [← here] at appended
  obtain ⟨recorded, _⟩ : TurnSteps env may _ written ∧ _ := appendTerminalEvents_steps appended
  have leased : TurnSteps env may store
      (store.updateState (fun state => state.sessionId == turn.sessionId) f) :=
    (TurnStep.lease fun state => (moves state).moves).steps
  have shown : TurnSteps env may store exported := by
    apply leased.trans
    apply TurnSteps.trans _ (TurnSteps.quiet (enqueueExports_board enqueued))
    apply TurnSteps.trans _ recorded
    apply TurnStep.steps
    exact TurnStep.complete member permitted rfl rfl rfl rfl
  split at done <;> simp only [Except.ok.injEq, Prod.mk.injEq] at done <;> rw [← done.1]
  · exact shown.trans (TurnSteps.quiet (enqueueReflection_board _ _ _ _ _ _))
  · exact shown

/-- A failure of a turn that is already finished changes nothing; otherwise the turn ends. -/
theorem failTurnResult_steps (ok : StoreOk store) {call : Abandonment}
    {finalized : Option Turn} (done : store.failTurnResult call now = .ok (after, finalized)) :
    TurnSteps env may store after := by
  simp only [Store.failTurnResult, bind, Except.bind, throw, throwThe, MonadExceptOf.throw, pure, Except.pure] at done
  split at done
  · simp only [Except.ok.injEq, Prod.mk.injEq] at done
    exact turnSteps_of_eq done.1.symm
  rename_i turn found
  obtain ⟨member, here, owned⟩ := mem_of_getTurn found
  split at done
  · simp at done
  split at done
  · rename_i failable
    split at done
    · simp at done
    rename_i last appended
    simp only [Except.ok.injEq, Prod.mk.injEq] at done
    rw [← done.1]
    obtain ⟨row, rowMember, selected⟩ := List.any_eq_true.mp failable
    simp only [Bool.and_eq_true, beq_iff_eq] at selected
    have same : row = turn := ok.turnIds.eq_of_key rowMember member (selected.1.trans here.symm)
    subst same
    have unfinished : row.status.isNonTerminal = true := by
      have both := selected.2
      simp only [Store.failable, Bool.and_eq_true] at both
      exact both.1
    rw [← here, ok.updateTurn_eq_rewrite member selected.2] at appended
    apply (conclude_steps member unfinished rfl _ rfl rfl (isNotice_end _ _) appended).1
    cases call.cancelled with
    | true => exact Or.inr rfl
    | false => exact Or.inl rfl
  · simp only [Except.ok.injEq, Prod.mk.injEq] at done
    exact turnSteps_of_eq done.1.symm

/-! ### Cancellation -/

theorem releaseLease_idle (found : state ∈ (store.releaseLease sessionId turnId).executionStates)
    (home : state.sessionId = sessionId) : state.activeTurnId ≠ some turnId := by
  rcases mem_updateWhere.mp found with ⟨old, _, _, rfl⟩ | ⟨_, skipped⟩
  · simp [ExecutionState.dropLease]
  · intro active
    simp [home, active] at skipped

theorem noticeStopped_steps (turnId : Nat) :
    TurnSteps env may store (match store.turnById turnId with
      | none => store
      | some turn =>
        if turn.status = .cancelled then store.fillBlank turn.assistantMessageId stoppedText
        else store) := by
  split
  · exact turnSteps_of_eq rfl
  · rename_i turn found
    split
    · rename_i cancelled
      apply TurnStep.steps
      apply TurnStep.notice (mem_of_turnById found).1 _ (Or.inl rfl)
      intro completed
      rw [cancelled] at completed
      simp at completed
    · exact turnSteps_of_eq rfl

theorem bumpSessionGeneration_steps (sessionId : Nat) :
    TurnSteps env may store (store.bumpSessionGeneration sessionId) ∧
      (store.bumpSessionGeneration sessionId).turns = store.turns ∧
      (store.bumpSessionGeneration sessionId).sessions = store.sessions := by
  have ensured : TurnSteps env may store (store.ensureExecutionState sessionId).1 :=
    ensureExecutionState_steps sessionId
  have frame := ensureExecutionState_frame store sessionId
  rw [Store.bumpSessionGeneration]
  split
  · rename_i ready ensure
    rw [ensure] at ensured frame
    exact ⟨ensured, frame.1, frame.2.1⟩
  · rename_i ready state ensure
    rw [ensure] at ensured frame
    refine ⟨ensured.trans ?_, frame.1, frame.2.1⟩
    apply TurnStep.steps
    apply TurnStep.lease
    exact fun _ => ⟨rfl, rfl, Nat.le_succ _, Or.inl rfl⟩

theorem cancelRunning_steps
    (member : turn ∈ store.turns) (owned : store.owns userId turn = true) (running : turn.status.isRunning = true) :
    TurnSteps env may store
      ((store.bumpSessionGeneration turn.sessionId).rewriteTurn turn.id (Turn.requestCancel now)) := by
  have ensured : TurnSteps env may store (store.ensureExecutionState turn.sessionId).1 :=
    ensureExecutionState_steps turn.sessionId
  have frame := ensureExecutionState_frame store turn.sessionId
  simp only [Store.bumpSessionGeneration]
  split
  · -- the session of an owned turn exists
    rename_i ready ensure
    simp only [Store.ensureExecutionState] at ensure
    split at ensure
    · simp at ensure
    · obtain ⟨session, sessionMember, here⟩ := List.any_eq_true.mp owned
      simp only [Bool.and_eq_true, beq_iff_eq] at here
      have present : (store.sessions.any fun session => session.id == turn.sessionId) = true :=
        List.any_eq_true.mpr ⟨session, sessionMember, by simp [here.1]⟩
      rw [if_pos present] at ensure
      simp at ensure
  · rename_i ready state ensure
    have present := ensureExecutionState_spec (congrArg Prod.snd ensure)
    rw [ensure] at ensured present frame
    apply ensured.trans
    apply TurnStep.steps
    apply TurnStep.revoke _ running ⟨state, present⟩
    rw [frame.1]
    exact member

theorem cancelUnstarted_steps (member : turn ∈ store.turns)
    (unstarted : turn.status = .pending ∨ turn.status = .waitingForAttachments) :
    TurnSteps env may store (((store.rewriteTurn turn.id (Turn.requestCancel now)).fillBlank turn.assistantMessageId
        stoppedText).releaseLease turn.sessionId turn.id) := by
  apply TurnSteps.trans (releaseLease_steps turn.sessionId turn.id)
  have concluded : TurnStep env may (store.releaseLease turn.sessionId turn.id)
      ((((store.releaseLease turn.sessionId turn.id).rewriteTurn turn.id
        (Turn.requestCancel now)).postNotice turn.assistantMessageId
        (some stoppedText)).noteFinalized turn.id false) := by
    have unfinished : turn.status.isNonTerminal = true := by
      rcases unstarted with status | status <;> rw [status] <;> rfl
    have cancelled : (turn.requestCancel now).status = .cancelled := by
      rcases unstarted with status | status <;>
        simp [Turn.requestCancel, status, TurnStatus.afterCancel]
    have there : turn ∈ (store.releaseLease turn.sessionId turn.id).turns := member
    apply TurnStep.conclude there unfinished rfl (Or.inr cancelled) rfl
    · exact fun _ => rfl
    · intro notice given
      rw [← Option.some.inj given]
      exact Or.inl rfl
    · intro blank
      cases blank
    · exact fun _ => Or.inr fun state found home => releaseLease_idle found home
  exact concluded.steps

theorem requestTurnCancel_steps (ok : StoreOk store) (existing : Option TurnStatus) (userId turnId : Nat) (now : Time) :
    TurnSteps env may store (store.requestTurnCancel existing userId turnId now) := by
  rw [Store.requestTurnCancel]
  split
  · simp only
    cases found : store.getTurn userId turnId with
    | none =>
      have unowned : ∀ turn ∈ store.turns, turn.id = turnId →
          (store.owns userId turn && turn.status.isNonTerminal) = false := by
        intro turn member here
        have skipped := List.find?_eq_none.mp found turn member
        simp only [here, beq_self_eq_true, Bool.true_and, Bool.not_eq_true] at skipped
        rw [skipped]
        rfl
      simp only
      rw [updateTurn_of_none unowned]
      exact noticeStopped_steps turnId
    | some turn =>
      obtain ⟨member, rfl, owned⟩ := mem_of_getTurn found
      simp only
      by_cases running : turn.status.isRunning = true
      · obtain ⟨bumps, turns, sessions⟩ : TurnSteps env may store
            (store.bumpSessionGeneration turn.sessionId) ∧ _ :=
          bumpSessionGeneration_steps turn.sessionId
        have bumped := ok.steps bumps
        have there : turn ∈ (store.bumpSessionGeneration turn.sessionId).turns := by
          rw [turns]
          exact member
        have selected : ((store.bumpSessionGeneration turn.sessionId).owns userId turn &&
            turn.status.isNonTerminal) = true := by
          rw [Store.owns, sessions, TurnStatus.isNonTerminal_of_isRunning running]
          simpa [Store.owns] using owned
        have cancelling : (turn.requestCancel now).status ≠ .cancelled := by
          rw [Turn.requestCancel_status running]
          simp
        have started : ¬ (turn.status = .pending ∨ turn.status = .waitingForAttachments) := by
          rintro (status | status) <;> simp [status, TurnStatus.isRunning] at running
        rw [if_pos running, bumped.updateTurn_eq_rewrite there selected,
          bumped.turnById_rewrite there rfl, if_neg started]
        simp only [if_neg cancelling]
        exact cancelRunning_steps member owned running
      · rw [if_neg running]
        by_cases unstarted : turn.status = .pending ∨ turn.status = .waitingForAttachments
        · have selected : (store.owns userId turn && turn.status.isNonTerminal) = true := by
            rw [owned]
            rcases unstarted with status | status <;> rw [status] <;> rfl
          have cancelled : (turn.requestCancel now).status = .cancelled := by
            rcases unstarted with status | status <;>
              simp [Turn.requestCancel, status, TurnStatus.afterCancel]
          rw [ok.updateTurn_eq_rewrite member selected, ok.turnById_rewrite member rfl, if_pos unstarted]
          simp only [if_pos cancelled]
          exact cancelUnstarted_steps member unstarted
        · -- the turn was finished between the read and the transaction
          have finished : (store.owns userId turn && turn.status.isNonTerminal) = false := by
            cases status : turn.status <;> simp_all [TurnStatus.isRunning, TurnStatus.isNonTerminal]
          rw [ok.updateTurn_eq_self member finished, if_neg unstarted]
          exact noticeStopped_steps turn.id
  · exact turnSteps_of_eq rfl

/-! ### Every operation

Which operations need a permission, and in which state they ask for it. -/

/-- The operation stays within what `may` permits in the state it finds. -/
def Permits (may : Store → Deed → Prop) (store : Store) : Op → Prop
  | .construct initialized => initialized = false → may store .reconcile
  | .transitionWaitingTurn turnId .failed _ _ =>
    ∀ turn ∈ store.turns, turn.id = turnId → turn.status = .completed → may store (.notice turn)
  | .claimTurnResult .. => ∀ middle turn, may middle (.exhaust turn)
  | .completeTurnResult call _ =>
    ∀ turn, store.getTurn call.userId call.turnId = some turn →
      store.fencePasses turn call = true → may store (.complete turn)
  | _ => True

theorem commit_steps {result : Except Failure Store}
    (done : ∀ {last}, result = .ok last → TurnSteps env may store last) :
    TurnSteps env may store (store.commit result) := by
  cases result with
  | ok => exact done rfl
  | error => exact turnSteps_of_eq rfl

theorem commit_fst_steps {α : Type} {result : Except Failure (Store × α)}
    (done : ∀ {last value}, result = .ok (last, value) → TurnSteps env may store last) :
    TurnSteps env may store (store.commit (result.map Prod.fst)) := by
  cases result with
  | ok => exact done rfl
  | error => exact turnSteps_of_eq rfl

/-- A permitted operation is a chain of steps. -/
theorem exec_turnSteps (ok : StoreOk store) (blind : PointerBlind may) {op : Op}
    (permits : Permits may store op) : TurnSteps env may store (store.exec env op) := by
  cases op with
  | construct => exact construct_steps ok permits
  | createSession =>
    exact (TurnStep.openSession rfl rfl).steps
  | addMessage => exact commit_steps addMessage_steps
  | clearSession userId sessionId now => exact clearSession_steps userId sessionId now
  | deleteSession userId sessionId now => exact deleteSession_steps userId sessionId now
  | editMessage =>
    exact commit_steps editMessage_steps
  | setSessionAutoExtract => exact commit_steps setSessionAutoExtract_steps
  | createTurn => exact commit_steps createTurn_steps
  | allocateTurnSequence => exact commit_fst_steps allocateTurnSequence_steps
  | requestTurnCancel existing userId turnId now =>
    exact requestTurnCancel_steps ok existing userId turnId now
  | transitionWaitingTurn turnId outcome errorMessage now =>
    cases outcome with
    | pending => exact transitionPending_steps ok turnId errorMessage now
    | failed => exact transitionFailed_steps ok turnId errorMessage now permits
  | expireWaitingTurns maxWaitSeconds limit now dbNow =>
    exact expireWaitingTurns_steps ok maxWaitSeconds limit now dbNow
  | expireQueuedTurn => exact commit_steps (expireQueuedTurn_steps ok)
  | expireQueuedTurns => exact expireQueuedRows_steps _ _ _ ok
  | requeueStaleTurns =>
    exact commit_steps (requeueStaleTurns_steps ok)
  | claimTurnResult =>
    exact commit_fst_steps fun done =>
      (claimTurnResult_spec ok (fun _ _ _ _ _ => permits _ _) done).1
  | releaseTurnOwnership turnId workerId fencingToken =>
    exact releaseTurnOwnership_steps turnId workerId fencingToken
  | touchTurnWorker turnId workerId fencingToken now =>
    exact touchTurnWorker_steps turnId workerId fencingToken now
  | updateRecoverableCheckpointRef =>
    exact commit_fst_steps updateRecoverableCheckpointRef_steps
  | appendTurnEvent =>
    exact commit_steps appendTurnEvent_steps
  | completeTurnResult =>
    exact commit_fst_steps fun done => completeTurnResult_steps blind permits done
  | failTurnResult => exact commit_fst_steps fun done => failTurnResult_steps ok done
  | elsewhere => exact TurnSteps.quiet ⟨rfl, rfl, rfl, rfl, rfl, rfl, rfl, rfl⟩

/-! ### Every run -/

theorem pointerBlind_anyDeed : PointerBlind anyDeed :=
  fun _ _ _ _ _ _ => trivial

theorem permits_anyDeed (op : Op) : Permits anyDeed store op := by
  cases op with
  | construct => exact fun _ => trivial
  | transitionWaitingTurn turnId outcome =>
    cases outcome with
    | pending => trivial
    | failed => exact fun _ _ _ _ => trivial
  | claimTurnResult => exact fun _ _ => trivial
  | completeTurnResult => exact fun _ _ _ => trivial
  | _ => trivial

/-- The keys are kept in every reachable store. -/
theorem storeOk_run (env : Environment) (ops : List Op) : StoreOk ((conversationService env).run ops) := by
  apply Machine.invariant StoreOk StoreOk.empty
  intro store op ok
  exact ok.steps (exec_turnSteps ok pointerBlind_anyDeed (permits_anyDeed op))

theorem TurnSteps.keep {inv : Store → Prop} (steps : TurnSteps env may store after)
    (one : ∀ {old new}, StoreOk old → inv old → TurnStep env may old new → inv new)
    (ok : StoreOk store) (start : inv store) : inv after := by
  induction steps with
  | refl => exact start
  | tail earlier step ih => exact one (ok.steps earlier) ih step

/-- An invariant of the permitted steps holds after every run whose operations are permitted. -/
theorem turnSteps_invariant (inv : Store → Prop) (blind : PointerBlind may) (start : inv Store.empty)
    (one : ∀ {old new}, StoreOk old → inv old → TurnStep env may old new → inv new) {ops : List Op}
    (respects : (conversationService env).Respects (Permits may) ops) : inv ((conversationService env).run ops) := by
  have both : StoreOk ((conversationService env).run ops) ∧ inv ((conversationService env).run ops) := by
    apply Machine.guarded_invariant (fun store => StoreOk store ∧ inv store) ⟨StoreOk.empty, start⟩ _
      respects
    rintro store op ⟨ok, holds⟩ permits
    have steps : TurnSteps env may store (store.exec env op) := exec_turnSteps ok blind permits
    exact ⟨ok.steps steps, steps.keep one ok holds⟩
  exact both.2

theorem anySteps_invariant (inv : Store → Prop) (start : inv Store.empty)
    (one : ∀ {old new}, StoreOk old → inv old → TurnStep env anyDeed old new → inv new)
    (ops : List Op) : inv ((conversationService env).run ops) :=
  turnSteps_invariant inv pointerBlind_anyDeed start one fun _ op _ _ => permits_anyDeed op

/-! ### Samples -/

/-- The settings of the sample runs, with serialization on. -/
def sampleEnvironment : Environment :=
  { serializeSameThread := true, chatTurnLeaseSeconds := 120, chatTurnLeaseRenewSeconds := 15,
    chatTurnHeartbeatTtlSeconds := 120, waitingTurnMaxSeconds := 600, chatQueueDeadlineSeconds := 600,
    memoryEnabled := true, memoryExtractionEnabled := true, memoryDebounceSeconds := 300,
    uuid := toString, ownerDepartment := fun _ => some 1, contentHash := fun _ => "",
    sha256 := fun text => text, exportFormatEnabled := fun _ => true,
    inferExportIntent := fun _ => none, normalizeExportAnswer := fun answer _ => answer,
    envelopeFromTurn := Turn.answer }

/-- A first message of the sample session. -/
def sampleRequest : TurnRequest :=
  { userId := 1, sessionId := 1, query := "R12?", clientRequestId := "", queryMode := "fast",
    blocked := [], parseStatuses := [] }

/-- The completion of the first turn of the sample session, under a token and a generation. -/
def sampleCompletion (workerId : String) (fencingToken generation : Nat) : Completion :=
  { userId := 1, turnId := 1, answer := "R12 is 10k", summary := "{}", footer := "", workerId,
    fencingToken := some fencingToken, expectedGeneration := some generation,
    committedCheckpointRef := none,
    terminalEventsBuilder := fun turn => [("turn_end", [("status", .text turn.status.text)])] }

/-- A failure of the first turn of the sample session, without a token. -/
def sampleAbandonment : Abandonment :=
  { userId := 1, turnId := 1, message := "timeout", cancelled := false, workerId := "",
    fencingToken := none,
    terminalEventsBuilder := fun turn => [("turn_end", [("status", .text turn.status.text)])] }

end HardwareDatabase.Conversation
