/-
Module: HardwareDatabase.Proofs.Cancellation
Purpose: A cancel request revokes the answer: it raises the generation of the session, and a turn that carries it is
  never claimed again.
Trusted boundary: none
-/
import HardwareDatabase.Proofs.Fencing
import HardwareDatabase.Proofs.TurnMessages
import HardwareDatabase.Proofs.TurnEndings
import HardwareDatabase.Proofs.TurnVisibility

namespace HardwareDatabase.Conversation

open Memory (Time)
open Relational

variable {env : Environment} {may : Store → Deed → Prop} {old new store : Store}

/-! ### Generations -/

/-- The generation of a session is not behind any grant. -/
structure GenerationsOk (store : Store) : Prop where
  known : GrantsKnown store
  tracked : ∀ given ∈ store.history.grants, 0 < given.generation → ∀ session ∈ store.sessions,
    session.id = given.sessionId → ∃ state ∈ store.executionStates, state.sessionId = given.sessionId
  behind : ∀ given ∈ store.history.grants, ∀ state ∈ store.executionStates,
    state.sessionId = given.sessionId → given.generation ≤ state.generation

namespace GenerationsOk

private theorem empty : GenerationsOk Store.empty where
  known := GrantsKnown.empty
  tracked := by simp [Store.empty]
  behind := by simp [Store.empty]

private theorem ahead (generations : GenerationsOk old) (step : TurnStep env may old new) {given : Grant}
    (member : given ∈ old.history.grants) {state : ExecutionState}
    (found : state ∈ new.executionStates) (home : state.sessionId = given.sessionId) :
    given.generation ≤ state.generation := by
  cases step.state_origin found with
  | @kept before present move =>
    have below := generations.behind given member before present (move.session.symm.trans home)
    exact Nat.le_trans below move.generation
  | fresh live absent =>
    -- a session whose generation moved has a state already
    by_contra above
    obtain ⟨session, sessionMember, here⟩ := live
    obtain ⟨existing, present, there⟩ :=
      generations.tracked given member (by omega) session sessionMember (here.trans home)
    have missing := List.find?_eq_none.mp absent existing present
    simp [there, home] at missing
  | @claimed before turn _ _ _ present claimHome session _ _ generation =>
    rw [generation]
    exact generations.behind given member before present (claimHome.trans (session.symm.trans home))

private theorem step (generations : GenerationsOk old) (ok : StoreOk old) (step : TurnStep env may old new) :
    GenerationsOk new := by
  have following : ∀ given ∈ old.history.grants, 0 < given.generation → ∀ session ∈ new.sessions,
      session.id = given.sessionId →
        ∃ state ∈ new.executionStates, state.sessionId = given.sessionId := by
    intro given member moved
    exact step.states_kept (generations.known.sessions given member)
      (generations.tracked given member moved)
  rcases step.grants ok with same | ⟨fresh, isNew⟩
  · exact
      { known := generations.known.step ok step
        tracked := by rw [same]; exact following
        behind := by
          rw [same]
          exact fun given member state found home => generations.ahead step member found home }
  · constructor
    case known => exact generations.known.step ok step
    case tracked =>
      rw [isNew.recorded]
      intro given member moved
      rcases List.mem_cons.mp member with rfl | earlier
      · obtain ⟨turn, turnMember, _, session, _⟩ := isNew.turn
        apply step.states_kept
        · rw [← session]
          exact ok.turnHomes turn turnMember
        · rcases isNew.generation with zero | ⟨state, present, home, _⟩
          · omega
          · exact fun _ _ _ => ⟨state, present, home⟩
      · exact following given earlier moved
    case behind =>
      rw [isNew.recorded]
      intro given member state found home
      rcases List.mem_cons.mp member with rfl | earlier
      · rcases isNew.generation with zero | ⟨before, present, beforeHome, generation⟩
        · omega
        · -- the claim read the generation of the one state of its session
          cases step.state_origin found with
          | @kept origin originPresent move =>
            have same := ok.stateIds.eq_of_key originPresent present
              (move.session.symm.trans (home.trans beforeHome.symm))
            rw [generation, ← same]
            exact move.generation
          | fresh live absent =>
            have missing := List.find?_eq_none.mp absent before present
            simp [beforeHome, home] at missing
          | @claimed origin turn _ _ _ originPresent claimHome session _ _ unchanged =>
            have same := ok.stateIds.eq_of_key originPresent present
              (claimHome.trans (session.symm.trans (home.trans beforeHome.symm)))
            rw [generation, unchanged, same]
      · exact generations.ahead step earlier found home

end GenerationsOk

/-! ### Cancel requests -/

/-- A row with a cancel request carried it before, or the step is the request: the state of the session
does not name the turn, or has left the generation that it had. -/
theorem TurnStep.cancel_origin (step : TurnStep env may old new) (ok : StoreOk old) {row : Turn}
    (found : row ∈ new.turns) (requested : row.cancelRequested = true) :
    (∃ before ∈ old.turns, row.identity = before.identity ∧ before.cancelRequested = true) ∨
      (new.history.grants = old.history.grants ∧ (∃ before ∈ old.turns, row.identity = before.identity) ∧
        ∀ state ∈ new.executionStates, state.sessionId = row.sessionId →
          state.activeTurnId = some row.id → ∃ before ∈ old.executionStates,
            before.sessionId = row.sessionId ∧ before.generation < state.generation) := by
  have updated {turn : Turn} {p : Turn → Bool} {f : Turn → Turn} (member : turn ∈ old.turns)
      (same : (f turn).identity = turn.identity)
      (flag : (f turn).cancelRequested = turn.cancelRequested)
      (there : row ∈ (old.updateTurn turn.id p f).turns) :
      ∃ before ∈ old.turns, row.identity = before.identity ∧ before.cancelRequested = true := by
    rcases ok.mem_updateTurn member there with ⟨kept, _⟩ | ⟨rfl, _⟩
    · exact ⟨row, kept, rfl, requested⟩
    · exact ⟨turn, member, same, flag.symm.trans requested⟩
  cases step with
  | quiet same =>
    rw [same.turns] at found
    exact Or.inl ⟨row, found, rfl, requested⟩
  | create =>
    rcases List.mem_append.mp found with earlier | here
    · exact Or.inl ⟨row, earlier, rfl, requested⟩
    · rw [List.mem_singleton.mp here] at requested
      simp [TurnRequest.row] at requested
  | forget | drop => exact Or.inl ⟨row, mem_of_mem_deleteWhere found, rfl, requested⟩
  | annotate keeps =>
    rcases mem_updateWhere.mp found with ⟨before, member, _, rfl⟩ | ⟨kept, _⟩
    · obtain ⟨identity, _, flag, _⟩ := keeps before
      exact Or.inl ⟨before, member, identity, flag.symm.trans requested⟩
    · exact Or.inl ⟨row, kept, rfl, requested⟩
  | requeue member | ready member => exact Or.inl (updated member rfl rfl found)
  | @revoke turn now member =>
    have there : row ∈ (old.rewriteTurn turn.id (Turn.requestCancel now)).turns := found
    rcases ok.mem_rewriteTurn member there with ⟨kept, _⟩ | rfl
    · exact Or.inl ⟨row, kept, rfl, requested⟩
    · refine Or.inr ⟨rfl, ⟨turn, member, rfl⟩, ?_⟩
      intro state stateFound home active
      rcases mem_updateWhere.mp stateFound with ⟨before, beforeMember, _, rfl⟩ | ⟨_, skipped⟩
      · exact ⟨before, beforeMember, home, Nat.lt_succ_self _⟩
      · have here : state.sessionId = turn.sessionId := home
        simp [here] at skipped
  | @conclude turn f text noted member unfinished same status answer cancel words silent idle =>
    have there : row ∈ (old.rewriteTurn turn.id f).turns := by
      cases text <;> exact found
    rcases ok.mem_rewriteTurn member there with ⟨kept, _⟩ | rfl
    · exact Or.inl ⟨row, kept, rfl, requested⟩
    · rcases idle requested with carried | quiet
      · exact Or.inl ⟨turn, member, same, carried⟩
      · refine Or.inr ⟨by cases text <;> rfl, ⟨turn, member, same⟩, ?_⟩
        intro state stateFound home active
        have present : state ∈ old.executionStates := by
          cases text <;> exact stateFound
        rw [Turn.sessionId_of_identity same] at home
        rw [Turn.id_of_identity same] at active
        exact absurd active (quiet state present home)
  | @complete turn f content noted member allowed same status answer cancel =>
    have there : row ∈ (old.updateTurn turn.id (fun turn => !turn.status.isSettled) f).turns := found
    exact Or.inl (updated member same cancel there)
  | claim _ member | start _ member => exact Or.inl (updated member rfl rfl found)
  | _ => exact Or.inl ⟨row, found, rfl, requested⟩

/-- Workers finish turns with the token and the generation of a claim they were granted. -/
def FinishesWithGrant (store : Store) : Op → Prop
  | .completeTurnResult call _ =>
    ∃ given ∈ store.history.grants, call.turnId = given.turnId ∧ call.workerId = given.workerId ∧
      call.fencingToken = some given.fencingToken ∧
      call.expectedGeneration = some given.generation
  | _ => True

instance (store : Store) (op : Op) : Decidable (FinishesWithGrant store op) := by
  apply Op.casesOn (motive := fun op => Decidable (FinishesWithGrant store op)) op <;> intros <;>
    simp only [FinishesWithGrant] <;> infer_instance

/-- The permission that the steps ask for: a completion names the active turn of the session, under the
generation that one of its attempts was granted. -/
def mayComplete (store : Store) : Deed → Prop
  | .complete turn =>
    ∃ state ∈ store.executionStates, state.sessionId = turn.sessionId ∧
      state.activeTurnId = some turn.id ∧
      ∃ given ∈ store.history.grants, given.turnId = turn.id ∧ given.generation = state.generation
  | _ => True

private theorem pointerBlind_mayComplete : PointerBlind mayComplete := by
  intro store p f deed same allowed
  cases deed with
  | complete =>
    obtain ⟨state, present, home, active, given, member, id, generation⟩ := allowed
    refine ⟨_, mem_updateWhere_of_mem present, ?_⟩
    split
    · obtain ⟨session, _, sameGeneration, sameActive⟩ := same state
      exact ⟨session.trans home, sameActive.trans active, given, member, id, generation.trans sameGeneration.symm⟩
    · exact ⟨home, active, given, member, id, generation⟩
  | notice | exhaust | reconcile => exact allowed

variable {turn : Turn}

private theorem mayComplete_of_fence (ok : StoreOk store) {call : Completion} {now : Time}
    (finishes : FinishesWithGrant store (.completeTurnResult call now))
    (found : store.getTurn call.userId call.turnId = some turn)
    (passes : store.fencePasses turn call = true) : mayComplete store (.complete turn) := by
  obtain ⟨given, member, turnId, workerId, token, expected⟩ := finishes
  obtain ⟨turnMember, here, _⟩ := mem_of_getTurn found
  simp only [Store.fencePasses, token, expected, Option.all_some, Bool.and_eq_true] at passes
  obtain ⟨verified, generation⟩ := passes
  obtain ⟨row, rowMember, rowId, state, present, home, active, _⟩ := owner_of_verify verified
  have same : row = turn := ok.turnIds.eq_of_key rowMember turnMember (rowId.trans here.symm)
  subst same
  have read : store.executionState row.sessionId = some state := by
    rw [← home]
    exact ok.stateIds.find?_eq present
  simp only [Store.hasGeneration, read, Option.any_some, beq_iff_eq] at generation
  exact ⟨state, present, home, active.trans (congrArg some here.symm), given, member,
    turnId.symm.trans here.symm, generation.symm⟩

private theorem FinishesWithGrant.permits {op : Op} (finishes : FinishesWithGrant store op)
    (ok : StoreOk store) : Permits mayComplete store op := by
  cases op with
  | construct => exact fun _ => trivial
  | transitionWaitingTurn turnId outcome =>
    cases outcome with
    | pending => trivial
    | failed => exact fun _ _ _ _ => trivial
  | claimTurnResult => exact fun _ _ => trivial
  | completeTurnResult =>
    exact fun turn found passes => mayComplete_of_fence ok finishes found passes
  | _ => trivial

/-! ### The invariant

A turn that was asked to stop is stopping, or it has ended without an answer. -/

/-- The statuses of a turn that was asked to stop. -/
def TurnStatus.IsStopping (status : TurnStatus) : Prop :=
  status = .cancelling ∨ status = .cancelled ∨ status = .failed

/-- The text of a message that no answer was written to. -/
def Message.Silent (message : Message) : Prop :=
  message.editedAt = none → message.content = "" ∨ IsNotice message.content

/-- What a cancel request guarantees. -/
structure CancelOk (store : Store) : Prop where
  generations : GenerationsOk store
  messages : MessagesFresh store
  /-- the session has left the generation of every attempt at a turn with a request -/
  revoked : ∀ turn ∈ store.turns, turn.cancelRequested = true → ∀ state ∈ store.executionStates,
    state.sessionId = turn.sessionId → state.activeTurnId = some turn.id →
      ∀ given ∈ store.history.grants, given.turnId = turn.id → given.generation < state.generation
  stopping : ∀ turn ∈ store.turns, turn.cancelRequested = true → turn.status.IsStopping
  unanswered : ∀ turn ∈ store.turns, turn.status ≠ .completed → turn.answer = ""
  silent : ∀ turn ∈ store.turns,
    turn.status.isNonTerminal = true ∨ turn.cancelRequested = true →
      ∀ message ∈ store.messages, message.id = turn.assistantMessageId → message.Silent

private theorem TurnMove.open_or_requested {after : Turn} (move : TurnMove turn after)
    (holds : after.status.isNonTerminal = true ∨ after.cancelRequested = true) :
    turn.status.isNonTerminal = true ∨ turn.cancelRequested = true := by
  cases move with
  | annotate status flag =>
    rw [← status, ← flag]
    exact holds
  | requeue running | revoke running =>
    exact Or.inl (TurnStatus.isNonTerminal_of_isRunning running)
  | ready waiting =>
    rw [waiting]
    exact Or.inl rfl
  | conclude unfinished => exact Or.inl unfinished
  | complete unsettled status flag =>
    rcases holds with unfinished | requested
    · simp [status, TurnStatus.isNonTerminal] at unfinished
    · exact Or.inr (flag.symm.trans requested)
  | start pending =>
    rw [pending]
    exact Or.inl rfl

namespace CancelOk

private theorem empty : CancelOk Store.empty where
  generations := GenerationsOk.empty
  messages := by simp [MessagesFresh, Store.empty]
  revoked := by simp [Store.empty]
  stopping := by simp [Store.empty]
  unanswered := by simp [Store.empty]
  silent := by simp [Store.empty]

private theorem not_requested (cancel : CancelOk store) (member : turn ∈ store.turns)
    (allowed : mayComplete store (.complete turn)) : turn.cancelRequested = false := by
  by_contra requested
  obtain ⟨state, present, home, active, given, granted, id, generation⟩ := allowed
  have below := cancel.revoked turn member (by simpa using requested) state present home active given
    granted id
  omega

section

variable (cancel : CancelOk old)
include cancel

private theorem step_revoked (ok : StoreOk old) (step : TurnStep env may old new) :
    ∀ turn ∈ new.turns, turn.cancelRequested = true → ∀ state ∈ new.executionStates,
      state.sessionId = turn.sessionId → state.activeTurnId = some turn.id →
        ∀ given ∈ new.history.grants, given.turnId = turn.id → given.generation < state.generation := by
  intro row found requested state stateFound home active given granted id
  rcases step.cancel_origin ok found requested with ⟨before, member, identity, carried⟩ |
    ⟨grants, ⟨before, member, identity⟩, moved⟩
  · -- the request is older: neither a claim nor a grant of the step is about the turn
    rw [Turn.sessionId_of_identity identity] at home
    rw [Turn.id_of_identity identity] at active id
    have earlier : given ∈ old.history.grants := by
      rcases step.grants ok with same | ⟨fresh, isNew⟩
      · rw [← same]
        exact granted
      · rw [isNew.recorded] at granted
        rcases List.mem_cons.mp granted with rfl | older
        · obtain ⟨turn, turnMember, turnId, _, kept⟩ := isNew.turn
          rw [ok.turnIds.eq_of_key turnMember member (turnId.trans id), carried] at kept
          simp at kept
        · exact older
    cases step.state_origin stateFound with
    | @kept previous present move =>
      have stillActive : previous.activeTurnId = some before.id := by
        rcases move.active with same | dropped
        · rw [← same]
          exact active
        · rw [dropped] at active
          simp at active
      have below := cancel.revoked before member carried previous present
        (move.session.symm.trans home) stillActive given earlier id
      exact Nat.lt_of_lt_of_le below move.generation
    | fresh live absent initial =>
      rw [initial] at active
      simp [ExecutionState.fresh] at active
    | @claimed previous turn _ turnMember kept present claimHome session claimed =>
      rw [claimed] at active
      have same := ok.turnIds.eq_of_key turnMember member (Option.some.inj active)
      rw [same, carried] at kept
      simp at kept
  · obtain ⟨previous, present, previousHome, above⟩ := moved state stateFound home active
    rw [grants] at granted
    rw [Turn.id_of_identity identity] at id
    rw [Turn.sessionId_of_identity identity] at previousHome
    have session := cancel.generations.known.homes given granted before member id.symm
    have below := cancel.generations.behind given granted previous present
      (previousHome.trans session)
    omega

private theorem step_stopping (ok : StoreOk old) (step : TurnStep env mayComplete old new) :
    ∀ turn ∈ new.turns, turn.cancelRequested = true → turn.status.IsStopping := by
  intro row found requested
  rcases step.turn_origin ok found with ⟨before, member, identity, move⟩ | isNew
  · cases move with
    | annotate status flag =>
      rw [status]
      exact cancel.stopping before member (flag.symm.trans requested)
    | requeue running kept status flag =>
      rw [flag] at requested
      simp at requested
    | ready waiting status flag =>
      have stopping := cancel.stopping before member (flag.symm.trans requested)
      simp [TurnStatus.IsStopping, waiting] at stopping
    | revoke running status => exact Or.inl status
    | conclude unfinished status =>
      rcases status with failed | cancelled
      · exact Or.inr (Or.inr failed)
      · exact Or.inr (Or.inl cancelled)
    | complete unsettled status flag =>
      -- a completion is permitted for turns without a request only
      have carried := flag.symm.trans requested
      rcases step.completed_origin ok found status with ⟨origin, originMember, same, completed, _⟩ |
        ⟨turn, turnMember, same, _, allowed, _⟩
      · have here := ok.turnIds.eq_of_key originMember member
          ((Turn.id_of_identity same).symm.trans (Turn.id_of_identity identity))
        rw [here] at completed
        simp [completed, TurnStatus.isSettled] at unsettled
      · have here := ok.turnIds.eq_of_key turnMember member
          ((Turn.id_of_identity same).symm.trans (Turn.id_of_identity identity))
        rw [here] at allowed
        rw [cancel.not_requested member allowed] at carried
        simp at carried
    | start pending kept status flag =>
      rw [flag] at requested
      simp at requested
  · rw [isNew.cancel] at requested
    simp at requested

private theorem step_unanswered (ok : StoreOk old) (step : TurnStep env may old new) :
    ∀ turn ∈ new.turns, turn.status ≠ .completed → turn.answer = "" := by
  intro row found incomplete
  rcases step.turn_origin ok found with ⟨before, member, identity, move⟩ | isNew
  · have unanswered := cancel.unanswered before member
    cases move with
    | annotate status flag answer =>
      rw [answer]
      exact unanswered (by rw [← status]; exact incomplete)
    | requeue running _ _ _ answer | revoke running _ _ answer =>
      rw [answer]
      apply unanswered
      intro completed
      simp [completed, TurnStatus.isRunning] at running
    | ready waiting status flag answer =>
      rw [answer]
      exact unanswered (by rw [waiting]; simp)
    | conclude unfinished status flag answer =>
      rw [answer]
      apply unanswered
      intro completed
      simp [completed, TurnStatus.isNonTerminal] at unfinished
    | complete unsettled status => exact absurd status incomplete
    | start pending kept status flag answer =>
      rw [answer]
      exact unanswered (by rw [pending]; simp)
  · exact isNew.answer

private theorem step_silent (ok : StoreOk old) (step : TurnStep env mayComplete old new) :
    ∀ turn ∈ new.turns, turn.status.isNonTerminal = true ∨ turn.cancelRequested = true →
      ∀ message ∈ new.messages, message.id = turn.assistantMessageId → message.Silent := by
  intro row found holds message messageFound home unedited
  rcases step.turn_origin ok found with ⟨before, member, identity, move⟩ | isNew
  · have assistant := Turn.assistantMessageId_of_identity identity
    have known := ok.assistantFresh before member
    cases step.message_origin ok messageFound with
    | kept there =>
      exact cancel.silent before member (move.open_or_requested holds) message there
        (home.trans assistant) unedited
    | edited there id touched =>
      rw [unedited] at touched
      simp at touched
    | posted => omega
    | filled there id blank words => exact Or.inr words
    | @answered previous turn there id turnMember turnHome allowed rows =>
      -- the completed turn carries no request, and is not open afterwards
      exfalso
      obtain ⟨flag, settled⟩ := rows row found home.symm
      have kept := cancel.not_requested turnMember allowed
      rcases holds with unfinished | requested
      · rcases settled with ⟨isSettled, rfl⟩ | ⟨completed, _⟩
        · cases status : row.status <;>
            simp [status, TurnStatus.isNonTerminal, TurnStatus.isSettled] at unfinished isSettled
        · simp [completed, TurnStatus.isNonTerminal] at unfinished
      · rw [flag, kept] at requested
        simp at requested
  · have fresh := isNew.message
    cases step.message_origin ok messageFound with
    | kept there =>
      have below := cancel.messages message there
      omega
    | edited there id touched =>
      rw [unedited] at touched
      simp at touched
    | posted later below blank => exact Or.inl (blank row found home.symm)
    | filled there id blank words => exact Or.inr words
    | answered there id turnMember =>
      have below := ok.assistantFresh _ turnMember
      omega

private theorem step (ok : StoreOk old) (step : TurnStep env mayComplete old new) :
    CancelOk new where
  generations := cancel.generations.step ok step
  messages := cancel.messages.step ok step
  revoked := cancel.step_revoked ok step
  stopping := cancel.step_stopping ok step
  unanswered := cancel.step_unanswered ok step
  silent := cancel.step_silent ok step

end

end CancelOk

private theorem cancelOk_run {ops : List Op} (respects : (conversationService env).Respects FinishesWithGrant ops) :
    CancelOk ((conversationService env).run ops) := by
  apply turnSteps_invariant CancelOk pointerBlind_mayComplete CancelOk.empty
  · exact fun ok cancel step => cancel.step ok step
  · exact fun before op after split => (respects before op after split).permits (storeOk_run env before)

/-! ### After the request

Once the request is stored, no worker with a granted token brings an answer into the turn. -/

/-- The turn exists or existed, and carries a cancel request as long as it exists. -/
def CancelRequested (turnId : Nat) (store : Store) : Prop :=
  turnId < store.nextTurnId ∧ ∀ row ∈ store.turns, row.id = turnId → row.cancelRequested = true

variable {turnId : Nat}

private theorem CancelRequested.step (requested : CancelRequested turnId old) (ok : StoreOk old)
    (step : TurnStep env may old new) : CancelRequested turnId new := by
  refine ⟨Nat.lt_of_lt_of_le requested.1 step.counters.1, ?_⟩
  intro row found here
  rcases step.turn_origin ok found with ⟨before, member, identity, move⟩ | isNew
  · have carried := requested.2 before member ((Turn.id_of_identity identity).symm.trans here)
    cases move with
    | annotate status flag => exact flag.trans carried
    | requeue running kept =>
      rw [kept] at carried
      simp at carried
    | ready waiting status flag => exact flag.trans carried
    | revoke running status flag => exact flag
    | conclude unfinished status flag => exact flag carried
    | complete unsettled status flag => exact flag.trans carried
    | start pending kept =>
      rw [kept] at carried
      simp at carried
  · have known := requested.1
    rw [← here, isNew.id] at known
    omega

private theorem CancelRequested.exec (requested : CancelRequested turnId store)
    (ok : StoreOk store) (op : Op) : CancelRequested turnId (store.exec env op) := by
  have steps : TurnSteps env anyDeed store (store.exec env op) :=
    exec_turnSteps ok pointerBlind_anyDeed (permits_anyDeed op)
  exact steps.keep (fun ok requested step => CancelRequested.step requested ok step) ok requested

private theorem requestTurnCancel_turns {existing : Option TurnStatus} {userId : Nat} (now : Time)
    (seen : existing.any TurnStatus.isNonTerminal = true) : (store.requestTurnCancel existing userId turnId now).turns =
      (store.updateTurn turnId (fun turn => store.owns userId turn && turn.status.isNonTerminal)
        (Turn.requestCancel now)).turns := by
  have bumped (sessionId : Nat) :
      ((store.bumpSessionGeneration sessionId).updateTurn turnId
        (fun turn => (store.bumpSessionGeneration sessionId).owns userId turn &&
          turn.status.isNonTerminal) (Turn.requestCancel now)).turns =
        (store.updateTurn turnId (fun turn => store.owns userId turn && turn.status.isNonTerminal)
          (Turn.requestCancel now)).turns := by
    obtain ⟨_, turns, sessions⟩ : TurnSteps sampleEnvironment anyDeed store
      (store.bumpSessionGeneration sessionId) ∧ _ := bumpSessionGeneration_steps sessionId
    simp only [Store.updateTurn, Store.owns, turns, sessions]
  rw [Store.requestTurnCancel, if_pos seen]
  simp only
  cases store.getTurn userId turnId with
  | none =>
    simp only
    split
    · rfl
    · split <;> rfl
  | some turn =>
    simp only
    by_cases running : turn.status.isRunning = true
    · rw [if_pos running, ← bumped turn.sessionId]
      -- neither the lease nor the notice is in the table of the turns
      split <;> split
      · rfl
      · split <;> rfl
      · rfl
      · split <;> rfl
    · rw [if_neg running]
      split <;> split
      · rfl
      · split <;> rfl
      · rfl
      · split <;> rfl

private theorem requestTurnCancel_requests (ok : StoreOk store) {existing : Option TurnStatus} {userId : Nat}
    (now : Time) (seen : existing.any TurnStatus.isNonTerminal = true)
    (member : turn ∈ store.turns) (owned : store.owns userId turn = true)
    (unfinished : turn.status.isNonTerminal = true) :
    ∀ row ∈ (store.requestTurnCancel existing userId turn.id now).turns, row.id = turn.id →
      row.cancelRequested = true := by
  intro row found here
  rw [requestTurnCancel_turns now seen] at found
  rcases ok.mem_updateTurn member found with ⟨_, different | ⟨_, skipped⟩⟩ | ⟨rfl, _⟩
  · exact absurd here different
  · rw [owned, unfinished] at skipped
    simp at skipped
  · rfl

private theorem completeTurnResult_revoked (cancel : CancelOk store) (ok : StoreOk store) {call : Completion}
    {now : Time} (requested : ∀ row ∈ store.turns, row.id = call.turnId → row.cancelRequested = true)
    (finishes : FinishesWithGrant store (.completeTurnResult call now)) :
    store.exec env (.completeTurnResult call now) = store := by
  apply completeTurnResult_refused
  intro turn found
  by_contra passes
  obtain ⟨member, here, _⟩ := mem_of_getTurn found
  have allowed := mayComplete_of_fence ok finishes found (by simpa using passes)
  have carried := requested turn member here
  rw [cancel.not_requested member allowed] at carried
  simp at carried

/-- The paths that finish a turn: a sweep or a claim that finds it abandoned, and a failure that its
worker reports, leave it cancelled or failed. -/
structure EndsStopped (env : Environment) (store : Store) (row : Turn) : Prop where
  swept : ∀ staleAfterSeconds now dbNow,
    row.isStale (staleSeconds env staleAfterSeconds) dbNow = true →
      ∃ ended ∈ (store.exec env (.requeueStaleTurns staleAfterSeconds now dbNow)).turns,
        ended.id = row.id ∧ ended.status = .cancelled
  claimed : ∀ userId workerId staleAfterSeconds now dbNow, store.owns userId row = true →
    row.isStale (staleSeconds env staleAfterSeconds) dbNow = true →
      ∃ ended ∈ (store.exec env
          (.claimTurnResult userId row.id workerId staleAfterSeconds now dbNow)).turns,
        ended.id = row.id ∧ ended.status = .cancelled
  reported : ∀ call now, call.turnId = row.id → store.owns call.userId row = true →
    store.admits call.turnId call.workerId call.fencingToken = true →
    row.status.isNonTerminal = true →
      ∃ ended ∈ (store.exec env (.failTurnResult call now)).turns,
        ended.id = row.id ∧ (ended.status = .cancelled ∨ ended.status = .failed)
  /-- an open turn is found by the sweep sooner or later -/
  visible : row.status.isNonTerminal = true → ∀ seconds, ∃ since, ∀ dbNow, since ≤ dbNow →
    row.isStale seconds dbNow = true

private theorem endsStopped (env : Environment) (ok : StoreOk store) {row : Turn} (member : row ∈ store.turns)
    (requested : row.cancelRequested = true) (stopping : row.status.IsStopping)
    (tracked : row.Tracked) : EndsStopped env store row where
  swept := by
    intro staleAfterSeconds now dbNow stale
    obtain ⟨after, done, swept, _⟩ := requeueStaleTurns_ends env ok staleAfterSeconds now dbNow
    obtain ⟨ended, endedMember, here, _, cancelled⟩ := swept row member stale
    simp only [Store.exec, done, Store.commit]
    exact ⟨ended, endedMember, here, cancelled requested⟩
  claimed := by
    intro userId workerId staleAfterSeconds now dbNow owned stale
    obtain ⟨after, done, ended, endedMember, here, cancelled⟩ :=
      claimTurnResult_ends env ok workerId staleAfterSeconds now dbNow member owned requested stale
    simp only [Store.exec, done, Store.commit, Except.map]
    exact ⟨ended, endedMember, here, cancelled⟩
  reported := by
    intro call now here owned passes unfinished
    have found : store.getTurn call.userId call.turnId = some row := by
      rw [here]
      exact ok.getTurn_eq member owned
    obtain ⟨after, finalized, done, ended, endedMember, sameId, status⟩ :=
      failTurnResult_ends ok now found unfinished passes
    simp only [Store.exec, done, Store.commit, Except.map]
    refine ⟨ended, endedMember, sameId, ?_⟩
    rw [status]
    cases call.cancelled with
    | true => exact Or.inl rfl
    | false => exact Or.inr rfl
  visible := by
    intro unfinished seconds
    have running : row.status.isRunning = true := by
      rcases stopping with status | status | status <;> rw [status] at unfinished ⊢
      · rfl
      · simp [TurnStatus.isNonTerminal] at unfinished
      · simp [TurnStatus.isNonTerminal] at unfinished
    obtain ⟨beat, stored⟩ := Option.isSome_iff_exists.mp (tracked.beating running)
    obtain ⟨since, older⟩ := olderThan_eventually seconds beat
    refine ⟨since, fun dbNow late => ?_⟩
    simp [Turn.isStale, running, stored, older dbNow late]

/-- Where workers finish turns with what their claims gave them: once a cancel request was committed on
an open turn, then after every continuation of the run the turn, if it still exists, is cancelling,
cancelled or failed; its answer is blank and its message, edits aside, is blank or a notice; a
completion with a granted token and generation changes nothing; and every path that finishes the turn
leaves it cancelled or failed. -/
theorem cancel_revokes_answer {first second : List Op} {existing : Option TurnStatus}
    {userId turnId : Nat} {now : Time} (respects : (conversationService env).Respects FinishesWithGrant
      (first ++ .requestTurnCancel existing userId turnId now :: second))
    (target : (((conversationService env).run first).getTurn userId turnId).any
      (fun turn => turn.status.isNonTerminal) = true)
    (seen : existing.any TurnStatus.isNonTerminal = true) :
    let store := (conversationService env).run
      (first ++ .requestTurnCancel existing userId turnId now :: second)
    ∀ row ∈ store.turns, row.id = turnId →
      row.status.IsStopping ∧ row.answer = "" ∧
      (∀ message ∈ store.messages, message.id = row.assistantMessageId → message.Silent) ∧
      (∀ call later, call.turnId = turnId →
        FinishesWithGrant store (.completeTurnResult call later) →
          store.exec env (.completeTurnResult call later) = store) ∧
      EndsStopped env store row := by
  intro store row member here
  have cancel : CancelOk store := cancelOk_run respects
  have ok : StoreOk store := storeOk_run env _
  have requested : CancelRequested turnId store := by
    have before := storeOk_run env first
    obtain ⟨turn, found, unfinished⟩ := (Option.any_eq_true _ _).mp target
    obtain ⟨turnMember, rfl, owned⟩ := mem_of_getTurn found
    have atRequest : CancelRequested turn.id ((conversationService env).run
        (first ++ [.requestTurnCancel existing userId turn.id now])) := by
      have steps : TurnSteps env anyDeed _
          (((conversationService env).run first).requestTurnCancel existing userId turn.id now) :=
        requestTurnCancel_steps before existing userId turn.id now
      rw [Machine.run_concat]
      exact ⟨Nat.lt_of_lt_of_le (before.turnFresh turn turnMember) steps.counters.1,
        requestTurnCancel_requests before now seen turnMember owned unfinished⟩
    have still := Machine.stable (CancelRequested turn.id)
      (fun earlier op requested => requested.exec (storeOk_run env earlier) op) atRequest second
    rw [List.append_assoc, List.singleton_append] at still
    exact still
  have carried := requested.2 row member here
  have stopping := cancel.stopping row member carried
  refine ⟨stopping, ?_, ?_, ?_, ?_⟩
  · apply cancel.unanswered row member
    intro completed
    simp [TurnStatus.IsStopping, completed] at stopping
  · exact cancel.silent row member (Or.inr carried)
  · intro call later sameTurn finishes
    apply completeTurnResult_revoked cancel ok _ finishes
    rw [sameTurn]
    exact requested.2
  · exact endsStopped env ok member carried stopping (tracked_run env _ row member)

/-- The worker of a cancelled turn comes back with its answer. -/
theorem cancelled_turn_keeps_no_answer : ∃ row ∈ ((conversationService sampleEnvironment).run
        [.createSession 1 "kb" "board" none (some 3), .createTurn sampleRequest 1000000,
          .claimTurnResult 1 1 "first" 0 2000000 2000000, .requestTurnCancel (some .streaming) 1 1 3000000,
          .completeTurnResult (sampleCompletion "first" 1 0) 4000000]).turns,
      row.id = 1 ∧ row.status.IsStopping ∧ row.answer = "" := by
  have stored : ((conversationService sampleEnvironment).run
      [.createSession 1 "kb" "board" none (some 3), .createTurn sampleRequest 1000000,
        .claimTurnResult 1 1 "first" 0 2000000 2000000,
        .requestTurnCancel (some .streaming) 1 1 3000000,
        .completeTurnResult (sampleCompletion "first" 1 0) 4000000]).turns.map Turn.id = [1] := by decide
  obtain ⟨row, member, here⟩ := List.mem_map.mp (stored ▸ List.mem_singleton_self 1)
  have respects : (conversationService sampleEnvironment).Respects FinishesWithGrant
      ([.createSession 1 "kb" "board" none (some 3), .createTurn sampleRequest 1000000,
        .claimTurnResult 1 1 "first" 0 2000000 2000000] ++
        .requestTurnCancel (some .streaming) 1 1 3000000 ::
          [.completeTurnResult (sampleCompletion "first" 1 0) 4000000]) :=
    Machine.RespectsFrom.respects (by decide)
  obtain ⟨stopping, unanswered, _⟩ := cancel_revokes_answer respects rfl rfl row member here
  exact ⟨row, member, here, stopping, unanswered⟩

end HardwareDatabase.Conversation
