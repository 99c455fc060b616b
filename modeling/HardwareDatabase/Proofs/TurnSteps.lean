/-
Module: HardwareDatabase.Proofs.TurnSteps
Purpose: What a transaction of the conversation store can do, said once (`TurnStep`), and what every step keeps
  (`StoreOk`). Steps that a caller has to justify ask `may` for permission.
Trusted boundary: none
-/
import HardwareDatabase.Conversation.Service
import Mathlib.Logic.Relation

namespace HardwareDatabase.Conversation

open Memory (Time)
open Relational

/-! ### Rows of the turn table -/

/-- The columns of a turn that are written once. -/
def Turn.identity (turn : Turn) : Nat × Nat × Nat × Nat × Option Nat :=
  (turn.id, turn.sessionId, turn.userMessageId, turn.assistantMessageId, turn.turnSequence)

/-- What one statement can make of a row. -/
inductive TurnMove (turn after : Turn) : Prop
  /-- columns beside the life of the turn; a heartbeat is not lost -/
  | annotate (status : after.status = turn.status)
      (cancel : after.cancelRequested = turn.cancelRequested) (answer : after.answer = turn.answer)
      (beat : turn.workerHeartbeatAt.isSome = true → after.workerHeartbeatAt.isSome = true)
  /-- an abandoned turn goes back to the queue -/
  | requeue (running : turn.status.isRunning = true) (kept : turn.cancelRequested = false)
      (status : after.status = .pending) (cancel : after.cancelRequested = false)
      (answer : after.answer = turn.answer)
  /-- the attachments are there -/
  | ready (waiting : turn.status = .waitingForAttachments) (status : after.status = .pending)
      (cancel : after.cancelRequested = turn.cancelRequested) (answer : after.answer = turn.answer)
  /-- a running turn is asked to stop -/
  | revoke (running : turn.status.isRunning = true) (status : after.status = .cancelling)
      (cancel : after.cancelRequested = true) (answer : after.answer = turn.answer)
      (beat : after.workerHeartbeatAt = turn.workerHeartbeatAt)
  /-- an open turn ends without an answer -/
  | conclude (unfinished : turn.status.isNonTerminal = true)
      (status : after.status = .failed ∨ after.status = .cancelled)
      (cancel : turn.cancelRequested = true → after.cancelRequested = true)
      (answer : after.answer = turn.answer)
  /-- a worker's answer -/
  | complete (unsettled : turn.status.isSettled = false) (status : after.status = .completed)
      (cancel : after.cancelRequested = turn.cancelRequested)
  /-- a worker takes the turn -/
  | start (pending : turn.status = .pending) (kept : turn.cancelRequested = false)
      (status : after.status = .streaming) (cancel : after.cancelRequested = false)
      (answer : after.answer = turn.answer) (beat : after.workerHeartbeatAt.isSome = true)

/-- A row after a statement, with the same identity. -/
def Turn.Becomes (turn after : Turn) : Prop :=
  after.identity = turn.identity ∧ TurnMove turn after

theorem Turn.Becomes.refl (turn : Turn) : turn.Becomes turn :=
  ⟨rfl, .annotate rfl rfl rfl fun beat => beat⟩

namespace Turn

variable {turn after : Turn}

section

variable (same : after.identity = turn.identity)
include same

theorem id_of_identity : after.id = turn.id :=
  congrArg (·.1) same

theorem sessionId_of_identity : after.sessionId = turn.sessionId :=
  congrArg (·.2.1) same

theorem assistantMessageId_of_identity : after.assistantMessageId = turn.assistantMessageId :=
  congrArg (·.2.2.2.1) same

theorem turnSequence_of_identity : after.turnSequence = turn.turnSequence :=
  congrArg (·.2.2.2.2) same

end

end Turn

/-! ### The keys of the tables -/

/-- The keys that every transaction keeps. -/
structure StoreOk (store : Store) : Prop where
  turnIds : UniqueOn Turn.id store.turns
  turnFresh : ∀ turn ∈ store.turns, turn.id < store.nextTurnId
  numbered : ∀ turn ∈ store.turns, turn.turnSequence.isSome = true
  sequences : UniqueOn (fun turn : Turn => (turn.sessionId, turn.turnSequence)) store.turns
  assistants : UniqueOn Turn.assistantMessageId store.turns
  assistantFresh : ∀ turn ∈ store.turns, turn.assistantMessageId < store.nextMessageId
  turnHomes : ∀ turn ∈ store.turns, turn.sessionId < store.nextSessionId
  sessionIds : UniqueOn Session.id store.sessions
  sessionFresh : ∀ session ∈ store.sessions, session.id < store.nextSessionId
  stateIds : UniqueOn ExecutionState.sessionId store.executionStates
  stateHomes : ∀ state ∈ store.executionStates, ∃ session ∈ store.sessions,
    session.id = state.sessionId

theorem StoreOk.empty : StoreOk Store.empty where
  turnIds := by simp [Store.empty]
  turnFresh := by simp [Store.empty]
  numbered := by simp [Store.empty]
  sequences := by simp [Store.empty]
  assistants := by simp [Store.empty]
  assistantFresh := by simp [Store.empty]
  turnHomes := by simp [Store.empty]
  sessionIds := by simp [Store.empty]
  sessionFresh := by simp [Store.empty]
  stateIds := by simp [Store.empty]
  stateHomes := by simp [Store.empty]

/-- The statement inserted and deleted no row of these tables and changed no key. -/
structure SameKeys (before after : Store) : Prop where
  turns : after.turns.map Turn.identity = before.turns.map Turn.identity
  sessions : after.sessions.map Session.id = before.sessions.map Session.id
  states : after.executionStates.map ExecutionState.sessionId =
    before.executionStates.map ExecutionState.sessionId
  nextTurn : after.nextTurnId = before.nextTurnId
  nextSession : after.nextSessionId = before.nextSessionId
  nextMessage : before.nextMessageId ≤ after.nextMessageId

variable {turn : Turn}

namespace SameKeys

variable {before after : Store}

theorem turn_origin (same : SameKeys before after) (member : turn ∈ after.turns) :
    ∃ old ∈ before.turns, turn.identity = old.identity := by
  have listed : turn.identity ∈ before.turns.map Turn.identity := by
    rw [← same.turns]
    exact List.mem_map.mpr ⟨turn, member, rfl⟩
  obtain ⟨old, oldMember, identity⟩ := List.mem_map.mp listed
  exact ⟨old, oldMember, identity.symm⟩

theorem key {κ : Type} (same : SameKeys before after) (column : Nat × Nat × Nat × Nat × Option Nat → κ)
    (unique : UniqueOn (fun turn : Turn => column turn.identity) before.turns) :
    UniqueOn (fun turn : Turn => column turn.identity) after.turns := by
  have columns (rows : List Turn) :
      rows.map (fun turn => column turn.identity) = (rows.map Turn.identity).map column := by
    simp
  rw [UniqueOn, columns, same.turns, ← columns]
  exact unique

theorem storeOk (same : SameKeys before after) (ok : StoreOk before) : StoreOk after where
  turnIds := same.key (·.1) ok.turnIds
  turnFresh := by
    intro turn member
    obtain ⟨old, oldMember, identity⟩ := same.turn_origin member
    rw [Turn.id_of_identity identity, same.nextTurn]
    exact ok.turnFresh old oldMember
  numbered := by
    intro turn member
    obtain ⟨old, oldMember, identity⟩ := same.turn_origin member
    rw [Turn.turnSequence_of_identity identity]
    exact ok.numbered old oldMember
  sequences := same.key (fun identity => (identity.2.1, identity.2.2.2.2)) ok.sequences
  assistants := same.key (·.2.2.2.1) ok.assistants
  assistantFresh := by
    intro turn member
    obtain ⟨old, oldMember, identity⟩ := same.turn_origin member
    rw [Turn.assistantMessageId_of_identity identity]
    exact Nat.lt_of_lt_of_le (ok.assistantFresh old oldMember) same.nextMessage
  turnHomes := by
    intro turn member
    obtain ⟨old, oldMember, identity⟩ := same.turn_origin member
    rw [Turn.sessionId_of_identity identity, same.nextSession]
    exact ok.turnHomes old oldMember
  sessionIds := by
    rw [UniqueOn, same.sessions]
    exact ok.sessionIds
  sessionFresh := by
    intro session member
    have listed : session.id ∈ before.sessions.map Session.id := by
      rw [← same.sessions]
      exact List.mem_map.mpr ⟨session, member, rfl⟩
    obtain ⟨old, oldMember, id⟩ := List.mem_map.mp listed
    rw [← id, same.nextSession]
    exact ok.sessionFresh old oldMember
  stateIds := by
    rw [UniqueOn, same.states]
    exact ok.stateIds
  stateHomes := by
    intro state member
    have listed : state.sessionId ∈ before.executionStates.map ExecutionState.sessionId := by
      rw [← same.states]
      exact List.mem_map.mpr ⟨state, member, rfl⟩
    obtain ⟨old, oldMember, id⟩ := List.mem_map.mp listed
    obtain ⟨session, sessionMember, home⟩ := ok.stateHomes old oldMember
    have kept : session.id ∈ after.sessions.map Session.id := by
      rw [same.sessions]
      exact List.mem_map.mpr ⟨session, sessionMember, rfl⟩
    obtain ⟨again, againMember, againId⟩ := List.mem_map.mp kept
    exact ⟨again, againMember, by rw [againId, home, id]⟩

end SameKeys

theorem StoreOk.of_keys {before after : Store} (ok : StoreOk before) (same : SameKeys before after) : StoreOk after :=
  same.storeOk ok

/-! ### Steps

Operations are chains of these effects, so an invariant is proved once for each effect. What not every caller may do
asks `may`. -/

/-- The texts that stand in for an answer. -/
def IsNotice (text : String) : Prop :=
  text = stoppedText ∨ (∃ reason, text = "生成失败：" ++ reason) ∨
    ∃ reason, text = "附件解析失败：" ++ reason

/-- What a statement other than a claim makes of an execution state: the token stays, the generation
does not fall, and the active turn stays or is dropped. -/
structure LeaseMove (state after : ExecutionState) : Prop where
  session : after.sessionId = state.sessionId
  token : after.fencingToken = state.fencingToken
  generation : state.generation ≤ after.generation
  active : after.activeTurnId = state.activeTurnId ∨ after.activeTurnId = none

/-- The steps that need a justification. -/
inductive Deed
  | complete (turn : Turn)
  | notice (turn : Turn)
  | exhaust (turn : Turn)
  | reconcile

namespace Store

/-- Mark the turn as having received its terminal events. -/
def noteFinalized (store : Store) (turnId : Nat) (noted : Bool) : Store :=
  { store with
    history :=
      { store.history with
        finalized := if noted then turnId :: store.history.finalized else store.history.finalized } }

/-- The rewritten row of one turn. -/
def rewriteTurn (store : Store) (turnId : Nat) (f : Turn → Turn) : Store :=
  store.updateTurn turnId (fun _ => true) f

/-- An optional notice in the assistant message of a turn. -/
def postNotice (store : Store) (messageId : Nat) : Option String → Store
  | none => store
  | some text => store.fillBlank messageId text

/-- The reconciliation of the sequence counters. -/
def reconcileSequences (store : Store) : Store :=
  { store with
    sessions := updateWhere
      (fun session => decide (session.nextTurnSequence ≠ store.reconciledSequence session))
      (fun session => { session with nextTurnSequence := store.reconciledSequence session })
      store.sessions }

end Store

/-- The tables that the steps are about are untouched. -/
structure SameBoard (before after : Store) : Prop where
  sessions : after.sessions = before.sessions
  messages : after.messages = before.messages
  turns : after.turns = before.turns
  states : after.executionStates = before.executionStates
  nextSession : after.nextSessionId = before.nextSessionId
  nextMessage : after.nextMessageId = before.nextMessageId
  nextTurn : after.nextTurnId = before.nextTurnId
  history : after.history = before.history

/-- One effect of a transaction. -/
inductive TurnStep (env : Environment) (may : Store → Deed → Prop) (old : Store) : Store → Prop
  | quiet {new : Store} (same : SameBoard old new) : TurnStep env may old new
  | describe {p : Session → Bool} {f : Session → Session}
      (keeps : ∀ session, (f session).id = session.id ∧ (f session).userId = session.userId ∧
        (f session).nextTurnSequence = session.nextTurnSequence) :
      TurnStep env may old { old with sessions := updateWhere p f old.sessions }
  | openSession {session : Session} (fresh : session.id = old.nextSessionId)
      (first : session.nextTurnSequence = 1) :
      TurnStep env may old
        { old with sessions := old.sessions ++ [session], nextSessionId := old.nextSessionId + 1 }
  | reconcile (allowed : may old .reconcile) : TurnStep env may old old.reconcileSequences
  | post {message : Message} (fresh : message.id = old.nextMessageId) :
      TurnStep env may old
        { old with messages := old.messages ++ [message], nextMessageId := old.nextMessageId + 1 }
  | edit {p : Message → Bool} {content : String} {now : Time} (worded : content ≠ "") :
      TurnStep env may old
        { old with
          messages := updateWhere p
            (fun message => { message with content, editedAt := some now }) old.messages }
  | create {request : TurnRequest} {session : Session} {now : Time}
      (member : session ∈ old.sessions) :
      TurnStep env may old (old.insertTurn env request session now)
  | allot {session : Session} (member : session ∈ old.sessions) :
      TurnStep env may old (old.allot session.id (old.sequenceToAllot session) id)
  | forget (sessionId : Nat) : TurnStep env may old (old.deleteMessages sessionId)
  | drop (sessionId : Nat) : TurnStep env may old (old.dropSession sessionId)
  | ensure {sessionId : Nat} (home : ∃ session ∈ old.sessions, session.id = sessionId)
      (absent : old.executionState sessionId = none) :
      TurnStep env may old
        { old with executionStates := old.executionStates ++ [ExecutionState.fresh sessionId] }
  | lease {p : ExecutionState → Bool} {f : ExecutionState → ExecutionState}
      (moves : ∀ state, LeaseMove state (f state)) : TurnStep env may old (old.updateState p f)
  | annotate {p : Turn → Bool} {f : Turn → Turn}
      (keeps : ∀ turn, (f turn).identity = turn.identity ∧ (f turn).status = turn.status ∧
        (f turn).cancelRequested = turn.cancelRequested ∧ (f turn).answer = turn.answer ∧
        (turn.workerHeartbeatAt.isSome = true → (f turn).workerHeartbeatAt.isSome = true)) :
      TurnStep env may old { old with turns := updateWhere p f old.turns }
  | requeue {turn : Turn} (member : turn ∈ old.turns) (running : turn.status.isRunning = true)
      (kept : turn.cancelRequested = false) :
      TurnStep env may old (old.rewriteTurn turn.id Turn.requeue)
  | ready {turn : Turn} (member : turn ∈ old.turns)
      (waiting : turn.status = .waitingForAttachments) :
      TurnStep env may old
        (old.rewriteTurn turn.id fun turn => { turn with status := .pending, errorMessage := "" })
  | revoke {turn : Turn} {now : Time} (member : turn ∈ old.turns)
      (running : turn.status.isRunning = true)
      (present : ∃ state ∈ old.executionStates, state.sessionId = turn.sessionId) :
      TurnStep env may old
        ((old.updateState (fun state => state.sessionId == turn.sessionId)
          fun state => { state with generation := state.generation + 1 }).rewriteTurn turn.id
          (Turn.requestCancel now))
  | conclude {turn : Turn} {f : Turn → Turn} {text : Option String} {noted : Bool}
      (member : turn ∈ old.turns) (unfinished : turn.status.isNonTerminal = true)
      (same : (f turn).identity = turn.identity)
      (status : (f turn).status = .failed ∨ (f turn).status = .cancelled)
      (answer : (f turn).answer = turn.answer)
      (cancel : turn.cancelRequested = true → (f turn).cancelRequested = true)
      (words : ∀ notice, text = some notice → IsNotice notice)
      (silent : text = none → may old (.exhaust turn))
      (idle : (f turn).cancelRequested = true → turn.cancelRequested = true ∨
        ∀ state ∈ old.executionStates, state.sessionId = turn.sessionId →
          state.activeTurnId ≠ some turn.id) :
      TurnStep env may old
        (((old.rewriteTurn turn.id f).postNotice turn.assistantMessageId text).noteFinalized turn.id
          noted)
  | complete {turn : Turn} {f : Turn → Turn} {content : String} {noted : Bool}
      (member : turn ∈ old.turns) (allowed : may old (.complete turn))
      (same : (f turn).identity = turn.identity) (status : (f turn).status = .completed)
      (answer : (f turn).answer = content)
      (cancel : (f turn).cancelRequested = turn.cancelRequested) :
      TurnStep env may old
        (((old.setContent turn.assistantMessageId content).updateTurn turn.id
          (fun turn => !turn.status.isSettled) f).noteFinalized turn.id noted)
  | notice {turn : Turn} {text : String} (member : turn ∈ old.turns)
      (allowed : turn.status = .completed → may old (.notice turn)) (words : IsNotice text) :
      TurnStep env may old (old.fillBlank turn.assistantMessageId text)
  | claim {turn : Turn} {workerId : String} {now : Time} {state : ExecutionState}
      (serialized : env.serializeSameThread = true) (member : turn ∈ old.turns)
      (pending : turn.status = .pending) (kept : turn.cancelRequested = false)
      (alone : ∀ prior ∈ old.turns, prior.id ≠ turn.id → turn.isBehind prior = false)
      (present : state ∈ old.executionStates) (home : state.sessionId = turn.sessionId) :
      TurnStep env may old
        (((old.updateTurn turn.id (fun row => decide (row.retryCount < 3))
          (Turn.start workerId now)).takeLease env turn workerId now).grant
          { sessionId := turn.sessionId, turnId := turn.id, workerId,
            fencingToken := state.fencingToken + 1, generation := state.generation })
  | start {turn : Turn} {workerId : String} {now : Time}
      (serialized : env.serializeSameThread = false) (member : turn ∈ old.turns)
      (pending : turn.status = .pending) (kept : turn.cancelRequested = false) :
      TurnStep env may old
        ((old.updateTurn turn.id (fun row => decide (row.retryCount < 3))
          (Turn.start workerId now)).grant
          { sessionId := turn.sessionId, turnId := turn.id, workerId, fencingToken := 0,
            generation := 0 })

/-- The effects of a transaction, one after the other. -/
def TurnSteps (env : Environment) (may : Store → Deed → Prop) : Store → Store → Prop :=
  Relation.ReflTransGen (TurnStep env may)

/-! ### Where a row comes from -/

/-- The row that `create_turn` inserts. -/
structure Turn.IsNew (store : Store) (turn : Turn) : Prop where
  id : turn.id = store.nextTurnId
  message : turn.assistantMessageId = store.nextMessageId + 1
  session : ∃ session ∈ store.sessions, session.id = turn.sessionId
  sequence : ∃ sequence, turn.turnSequence = some sequence ∧
    store.maxTurnSequence turn.sessionId < sequence
  status : turn.status = .pending ∨ turn.status = .waitingForAttachments
  cancel : turn.cancelRequested = false
  answer : turn.answer = ""

variable {now : Time}

theorem TurnRequest.row_isNew {env : Environment} {store : Store} {request : TurnRequest}
    {session : Session} (member : session ∈ store.sessions) :
    (request.row env session store.nextTurnId store.nextMessageId (store.sequenceToAllot session) now).IsNew store where
  id := rfl
  message := rfl
  session := ⟨session, member, rfl⟩
  sequence := by
    refine ⟨store.sequenceToAllot session, rfl, ?_⟩
    have above := Nat.le_max_right
      (if 0 < session.nextTurnSequence then session.nextTurnSequence else 1)
      (store.maxTurnSequence session.id + 1)
    exact above
  status := by
    simp only [TurnRequest.row, TurnRequest.initialStatus]
    split
    · exact Or.inr rfl
    · exact Or.inl rfl
  cancel := rfl
  answer := rfl

variable {f : Turn → Turn} {p : Turn → Bool}

namespace StoreOk

variable {store : Store} {turn other : Turn}

theorem mem_updateTurn (ok : StoreOk store) (member : turn ∈ store.turns)
    (found : other ∈ (store.updateTurn turn.id p f).turns) :
    (other ∈ store.turns ∧ (other.id ≠ turn.id ∨ (other = turn ∧ p turn = false))) ∨
      (other = f turn ∧ p turn = true) := by
  rcases mem_updateWhere.mp found with ⟨old, oldMember, selected, rfl⟩ | ⟨kept, skipped⟩
  · simp only [Bool.and_eq_true, beq_iff_eq] at selected
    have here := ok.turnIds.eq_of_key oldMember member selected.1
    exact Or.inr ⟨by rw [here], by rw [← here]; exact selected.2⟩
  · by_cases sameId : other.id = turn.id
    · have here := ok.turnIds.eq_of_key kept member sameId
      refine Or.inl ⟨kept, Or.inr ⟨here, ?_⟩⟩
      rw [here] at skipped
      simpa using skipped
    · exact Or.inl ⟨kept, Or.inl sameId⟩

theorem mem_rewriteTurn (ok : StoreOk store) (member : turn ∈ store.turns)
    (found : other ∈ (store.rewriteTurn turn.id f).turns) :
    (other ∈ store.turns ∧ other.id ≠ turn.id) ∨ other = f turn := by
  rcases ok.mem_updateTurn member found with ⟨kept, different | ⟨_, skipped⟩⟩ | ⟨here, _⟩
  · exact Or.inl ⟨kept, different⟩
  · simp at skipped
  · exact Or.inr here

end StoreOk

section Origin

variable {env : Environment} {may : Store → Deed → Prop} {old new : Store} {turn after : Turn}

theorem StoreOk.becomes_of_rewrite (ok : StoreOk old) (member : turn ∈ old.turns)
    (becomes : turn.Becomes (f turn)) (found : after ∈ (old.rewriteTurn turn.id f).turns) :
    ∃ before ∈ old.turns, before.Becomes after := by
  rcases ok.mem_rewriteTurn member found with ⟨kept, _⟩ | rfl
  · exact ⟨after, kept, Turn.Becomes.refl after⟩
  · exact ⟨turn, member, becomes⟩

theorem StoreOk.becomes_of_update (ok : StoreOk old) (member : turn ∈ old.turns)
    (becomes : p turn = true → turn.Becomes (f turn)) (found : after ∈ (old.updateTurn turn.id p f).turns) :
    ∃ before ∈ old.turns, before.Becomes after := by
  rcases ok.mem_updateTurn member found with ⟨kept, _⟩ | ⟨rfl, selected⟩
  · exact ⟨after, kept, Turn.Becomes.refl after⟩
  · exact ⟨turn, member, becomes selected⟩

theorem Turn.requestCancel_status (running : turn.status.isRunning = true) :
    (turn.requestCancel now).status = .cancelling := by
  simp only [Turn.requestCancel]
  cases status : turn.status <;> simp_all [TurnStatus.isRunning, TurnStatus.afterCancel]

theorem Turn.start_becomes {workerId : String} (pending : turn.status = .pending)
    (kept : turn.cancelRequested = false) : turn.Becomes (turn.start workerId now) :=
  ⟨rfl, .start pending kept rfl kept rfl rfl⟩

/-- Every row after a step is a row before it, rewritten by one statement, or a new turn. -/
theorem TurnStep.turn_origin (step : TurnStep env may old new) (ok : StoreOk old) (found : after ∈ new.turns) :
    (∃ before ∈ old.turns, before.Becomes after) ∨ after.IsNew old := by
  cases step with
  | quiet same =>
    rw [same.turns] at found
    exact Or.inl ⟨after, found, Turn.Becomes.refl after⟩
  | create member =>
    simp only [Store.insertTurn, Store.allot, List.mem_append, List.mem_singleton] at found
    rcases found with kept | rfl
    · exact Or.inl ⟨after, kept, Turn.Becomes.refl after⟩
    · exact Or.inr (TurnRequest.row_isNew member)
  | forget | drop =>
    exact Or.inl ⟨after, mem_of_mem_deleteWhere found, Turn.Becomes.refl after⟩
  | annotate keeps =>
    rcases mem_updateWhere.mp found with ⟨before, member, _, rfl⟩ | ⟨kept, _⟩
    · obtain ⟨identity, status, cancel, answer, beat⟩ := keeps before
      exact Or.inl ⟨before, member, identity, .annotate status cancel answer beat⟩
    · exact Or.inl ⟨after, kept, Turn.Becomes.refl after⟩
  | requeue member running kept =>
    exact Or.inl (ok.becomes_of_rewrite member ⟨rfl, .requeue running kept rfl kept rfl⟩ found)
  | ready member waiting =>
    exact Or.inl (ok.becomes_of_rewrite member ⟨rfl, .ready waiting rfl rfl rfl⟩ found)
  | @revoke turn now member running =>
    have becomes : turn.Becomes (turn.requestCancel now) :=
      ⟨rfl, .revoke running (Turn.requestCancel_status running) rfl rfl rfl⟩
    exact Or.inl (ok.becomes_of_rewrite member becomes found)
  | @conclude turn f text noted member unfinished same status answer cancel =>
    have there : after ∈ (old.rewriteTurn turn.id f).turns := by
      cases text <;> exact found
    exact Or.inl
      (ok.becomes_of_rewrite member ⟨same, .conclude unfinished status cancel answer⟩ there)
  | complete member allowed same status answer cancel =>
    apply Or.inl
    apply ok.becomes_of_update member _ found
    intro unsettled
    exact ⟨same, .complete (by simpa using unsettled) status cancel⟩
  | claim _ member pending kept | start _ member pending kept =>
    exact Or.inl (ok.becomes_of_update member (fun _ => Turn.start_becomes pending kept) found)
  | _ => exact Or.inl ⟨after, found, Turn.Becomes.refl after⟩

theorem TurnStep.counters (step : TurnStep env may old new) :
    old.nextTurnId ≤ new.nextTurnId ∧ old.nextSessionId ≤ new.nextSessionId := by
  cases step with
  | quiet same => exact ⟨Nat.le_of_eq same.nextTurn.symm, Nat.le_of_eq same.nextSession.symm⟩
  | openSession => exact ⟨Nat.le_refl _, Nat.le_succ _⟩
  | create => exact ⟨Nat.le_succ _, Nat.le_refl _⟩
  | @conclude turn f text =>
    cases text <;> exact ⟨Nat.le_refl _, Nat.le_refl _⟩
  | _ => exact ⟨Nat.le_refl _, Nat.le_refl _⟩

theorem TurnSteps.counters (steps : TurnSteps env may old new) :
    old.nextTurnId ≤ new.nextTurnId ∧ old.nextSessionId ≤ new.nextSessionId := by
  induction steps with
  | refl => exact ⟨Nat.le_refl _, Nat.le_refl _⟩
  | tail _ step ih =>
    exact ⟨Nat.le_trans ih.1 step.counters.1, Nat.le_trans ih.2 step.counters.2⟩

end Origin

/-! ### Steps keep the keys -/

section Keys

variable {env : Environment} {may : Store → Deed → Prop} {old new : Store}

theorem sameKeys_of_turns (same : ∀ turn ∈ old.turns, p turn = true → (f turn).identity = turn.identity) :
    SameKeys old { old with turns := updateWhere p f old.turns } where
  turns := by
    rw [updateWhere, List.map_map]
    apply List.map_congr_left
    intro turn member
    by_cases selected : p turn = true
    · simp [selected, same turn member selected]
    · simp [selected]
  sessions := rfl
  states := rfl
  nextTurn := rfl
  nextSession := rfl
  nextMessage := Nat.le_refl _

theorem sameKeys_of_states {f : ExecutionState → ExecutionState} {p : ExecutionState → Bool}
    (same : ∀ state, (f state).sessionId = state.sessionId) : SameKeys old (old.updateState p f) where
  turns := rfl
  sessions := rfl
  states := map_updateWhere old.executionStates same
  nextTurn := rfl
  nextSession := rfl
  nextMessage := Nat.le_refl _

theorem sameKeys_of_sessions {f : Session → Session} {p : Session → Bool}
    (same : ∀ session, (f session).id = session.id) :
    SameKeys old { old with sessions := updateWhere p f old.sessions } where
  turns := rfl
  sessions := map_updateWhere old.sessions same
  states := rfl
  nextTurn := rfl
  nextSession := rfl
  nextMessage := Nat.le_refl _

theorem sameKeys_of_rest (turns : new.turns = old.turns) (sessions : new.sessions = old.sessions)
    (states : new.executionStates = old.executionStates) (nextTurn : new.nextTurnId = old.nextTurnId)
    (nextSession : new.nextSessionId = old.nextSessionId)
    (nextMessage : old.nextMessageId ≤ new.nextMessageId) : SameKeys old new where
  turns := by rw [turns]
  sessions := by rw [sessions]
  states := by rw [states]
  nextTurn := nextTurn
  nextSession := nextSession
  nextMessage := nextMessage

theorem sameKeys_rewriteTurn (ok : StoreOk old) (member : turn ∈ old.turns) (same : (f turn).identity = turn.identity) :
    SameKeys old (old.updateTurn turn.id p f) := by
  apply sameKeys_of_turns
  intro other otherMember selected
  simp only [Bool.and_eq_true, beq_iff_eq] at selected
  rw [ok.turnIds.eq_of_key otherMember member selected.1]
  exact same

theorem StoreOk.openSession {session : Session} (ok : StoreOk old) (fresh : session.id = old.nextSessionId) :
    StoreOk { old with
      sessions := old.sessions ++ [session], nextSessionId := old.nextSessionId + 1 } where
  turnIds := ok.turnIds
  turnFresh := ok.turnFresh
  numbered := ok.numbered
  sequences := ok.sequences
  assistants := ok.assistants
  assistantFresh := ok.assistantFresh
  turnHomes := fun turn member => Nat.lt_succ_of_lt (ok.turnHomes turn member)
  sessionIds := by
    apply ok.sessionIds.append
    intro other member same
    have earlier := ok.sessionFresh other member
    omega
  sessionFresh := by
    intro other member
    rcases List.mem_append.mp member with earlier | here
    · exact Nat.lt_succ_of_lt (ok.sessionFresh other earlier)
    · rw [List.mem_singleton.mp here, fresh]
      exact Nat.lt_succ_self _
  stateIds := ok.stateIds
  stateHomes := by
    intro state member
    obtain ⟨home, homeMember, id⟩ := ok.stateHomes state member
    exact ⟨home, List.mem_append_left _ homeMember, id⟩

theorem le_maxTurnSequence {store : Store} {sequence : Nat}
    (member : turn ∈ store.turns) (stored : turn.turnSequence = some sequence) :
    sequence ≤ store.maxTurnSequence turn.sessionId := by
  apply le_coalesceMax _ stored
  simp [member]

theorem StoreOk.create {request : TurnRequest} {session : Session} {now : Time} (ok : StoreOk old)
    (member : session ∈ old.sessions) : StoreOk (old.insertTurn env request session now) := by
  have isNew : (request.row env session old.nextTurnId old.nextMessageId
      (old.sequenceToAllot session) now).IsNew old := TurnRequest.row_isNew member
  obtain ⟨sequence, stored, above⟩ := isNew.sequence
  have sessionKeys : (old.insertTurn env request session now).sessions.map Session.id =
      old.sessions.map Session.id := map_updateWhere old.sessions fun _ => rfl
  have origin : ∀ turn ∈ (old.insertTurn env request session now).turns, turn ∈ old.turns ∨
      turn = request.row env session old.nextTurnId old.nextMessageId (old.sequenceToAllot session)
        now := by
    intro turn found
    simpa [Store.insertTurn, Store.allot] using found
  constructor
  case turnIds =>
    apply ok.turnIds.append
    intro other otherMember same
    have earlier := ok.turnFresh other otherMember
    rw [same, isNew.id] at earlier
    omega
  case turnFresh =>
    intro turn found
    have counter : (old.insertTurn env request session now).nextTurnId = old.nextTurnId + 1 := rfl
    rcases origin turn found with earlier | rfl
    · have := ok.turnFresh turn earlier
      omega
    · rw [isNew.id]
      omega
  case numbered =>
    intro turn found
    rcases origin turn found with earlier | rfl
    · exact ok.numbered turn earlier
    · rw [stored]
      rfl
  case sequences =>
    apply ok.sequences.append
    intro other otherMember same
    obtain ⟨sameSession, sameSequence⟩ := Prod.mk.inj same
    rw [stored] at sameSequence
    have below := le_maxTurnSequence otherMember sameSequence
    rw [sameSession] at below
    omega
  case assistants =>
    apply ok.assistants.append
    intro other otherMember same
    have earlier := ok.assistantFresh other otherMember
    rw [same, isNew.message] at earlier
    omega
  case assistantFresh =>
    intro turn found
    have counter : (old.insertTurn env request session now).nextMessageId = old.nextMessageId + 2 :=
      rfl
    rcases origin turn found with earlier | rfl
    · have := ok.assistantFresh turn earlier
      omega
    · rw [isNew.message]
      omega
  case turnHomes =>
    intro turn found
    rcases origin turn found with earlier | rfl
    · exact ok.turnHomes turn earlier
    · exact ok.sessionFresh session member
  case sessionIds =>
    rw [UniqueOn, sessionKeys]
    exact ok.sessionIds
  case sessionFresh =>
    intro other found
    obtain ⟨row, rowMember, rfl⟩ := exists_of_mem_updateWhere found
    have earlier := ok.sessionFresh row rowMember
    split <;> exact earlier
  case stateIds => exact ok.stateIds
  case stateHomes =>
    intro state found
    obtain ⟨home, homeMember, id⟩ := ok.stateHomes state found
    have kept : home.id ∈ (old.insertTurn env request session now).sessions.map Session.id := by
      rw [sessionKeys]
      exact List.mem_map.mpr ⟨home, homeMember, rfl⟩
    obtain ⟨again, againMember, againId⟩ := List.mem_map.mp kept
    exact ⟨again, againMember, againId.trans id⟩

section

variable (ok : StoreOk old)
include ok

theorem StoreOk.shrink (turns : new.turns.Sublist old.turns)
    (sessions : new.sessions.Sublist old.sessions) (states : new.executionStates.Sublist old.executionStates)
    (homes : ∀ state ∈ new.executionStates, ∀ session ∈ old.sessions,
      session.id = state.sessionId → session ∈ new.sessions) (nextTurn : new.nextTurnId = old.nextTurnId)
    (nextMessage : new.nextMessageId = old.nextMessageId)
    (nextSession : new.nextSessionId = old.nextSessionId) : StoreOk new where
  turnIds := ok.turnIds.sublist (turns.map _)
  turnFresh := fun turn found => nextTurn ▸ ok.turnFresh turn (turns.subset found)
  numbered := fun turn found => ok.numbered turn (turns.subset found)
  sequences := ok.sequences.sublist (turns.map _)
  assistants := ok.assistants.sublist (turns.map _)
  assistantFresh := fun turn found => nextMessage ▸ ok.assistantFresh turn (turns.subset found)
  turnHomes := fun turn found => nextSession ▸ ok.turnHomes turn (turns.subset found)
  sessionIds := ok.sessionIds.sublist (sessions.map _)
  sessionFresh := fun session found => nextSession ▸ ok.sessionFresh session (sessions.subset found)
  stateIds := ok.stateIds.sublist (states.map _)
  stateHomes := by
    intro state found
    obtain ⟨session, member, home⟩ := ok.stateHomes state (states.subset found)
    exact ⟨session, homes state found session member home, home⟩

theorem StoreOk.drop (sessionId : Nat) : StoreOk (old.dropSession sessionId) := by
  apply ok.shrink List.filter_sublist List.filter_sublist List.filter_sublist
  · intro state found session member home
    have kept := (mem_deleteWhere.mp found).2
    exact mem_deleteWhere.mpr ⟨member, by rw [home]; exact kept⟩
  · rfl
  · rfl
  · rfl

theorem StoreOk.forget (sessionId : Nat) : StoreOk (old.deleteMessages sessionId) := by
  have turns : (old.deleteMessages sessionId).turns.Sublist old.turns := List.filter_sublist
  apply ok.shrink turns (List.Sublist.refl _) (List.Sublist.refl _)
  · exact fun _ _ session member _ => member
  · rfl
  · rfl
  · rfl

theorem StoreOk.ensure {sessionId : Nat} (home : ∃ session ∈ old.sessions, session.id = sessionId)
    (absent : old.executionState sessionId = none) : StoreOk { old with
      executionStates := old.executionStates ++ [ExecutionState.fresh sessionId] } where
  turnIds := ok.turnIds
  turnFresh := ok.turnFresh
  numbered := ok.numbered
  sequences := ok.sequences
  assistants := ok.assistants
  assistantFresh := ok.assistantFresh
  turnHomes := ok.turnHomes
  sessionIds := ok.sessionIds
  sessionFresh := ok.sessionFresh
  stateIds := by
    apply ok.stateIds.append
    intro other member
    have different := List.find?_eq_none.mp absent other member
    simpa [ExecutionState.fresh] using different
  stateHomes := by
    intro state found
    rcases List.mem_append.mp found with earlier | here
    · exact ok.stateHomes state earlier
    · rw [List.mem_singleton.mp here]
      exact home

/-- A step keeps the keys. -/
theorem StoreOk.step (step : TurnStep env may old new) : StoreOk new := by
  cases step with
  | quiet same =>
    apply ok.of_keys
    exact sameKeys_of_rest same.turns same.sessions same.states same.nextTurn same.nextSession
      (Nat.le_of_eq same.nextMessage.symm)
  | describe keeps =>
    apply ok.of_keys
    exact sameKeys_of_sessions fun session => (keeps session).1
  | openSession fresh => exact ok.openSession fresh
  | reconcile =>
    apply ok.of_keys
    exact sameKeys_of_sessions fun _ => rfl
  | post =>
    apply ok.of_keys
    exact sameKeys_of_rest rfl rfl rfl rfl rfl (Nat.le_succ _)
  | edit | notice =>
    apply ok.of_keys
    exact sameKeys_of_rest rfl rfl rfl rfl rfl (Nat.le_refl _)
  | create member => exact ok.create member
  | allot =>
    apply ok.of_keys
    exact
      { turns := rfl, sessions := map_updateWhere old.sessions fun _ => rfl, states := rfl,
        nextTurn := rfl, nextSession := rfl, nextMessage := Nat.le_refl _ }
  | forget sessionId => exact ok.forget sessionId
  | drop sessionId => exact ok.drop sessionId
  | ensure home absent => exact ok.ensure home absent
  | lease moves =>
    apply ok.of_keys
    exact sameKeys_of_states fun state => (moves state).session
  | annotate keeps =>
    apply ok.of_keys
    exact sameKeys_of_turns fun turn _ _ => (keeps turn).1
  | requeue member | ready member =>
    apply ok.of_keys
    exact sameKeys_rewriteTurn ok member rfl
  | @revoke turn now member =>
    have bumped : StoreOk (old.updateState (fun state => state.sessionId == turn.sessionId)
        fun state => { state with generation := state.generation + 1 }) :=
      ok.of_keys (sameKeys_of_states fun _ => rfl)
    apply bumped.of_keys
    exact sameKeys_rewriteTurn bumped member rfl
  | @conclude turn f text noted member unfinished same =>
    have concluded : StoreOk (old.rewriteTurn turn.id f) :=
      ok.of_keys (sameKeys_rewriteTurn ok member same)
    apply concluded.of_keys
    cases text <;> exact sameKeys_of_rest rfl rfl rfl rfl rfl (Nat.le_refl _)
  | @complete turn f content noted member allowed same =>
    have written : StoreOk (old.setContent turn.assistantMessageId content) :=
      ok.of_keys (sameKeys_of_rest rfl rfl rfl rfl rfl (Nat.le_refl _))
    have completed : StoreOk ((old.setContent turn.assistantMessageId content).updateTurn turn.id
        (fun turn => !turn.status.isSettled) f) :=
      written.of_keys (sameKeys_rewriteTurn written member same)
    apply completed.of_keys
    exact sameKeys_of_rest rfl rfl rfl rfl rfl (Nat.le_refl _)
  | @claim turn workerId now state serialized member =>
    have started : StoreOk (old.updateTurn turn.id (fun row => decide (row.retryCount < 3))
        (Turn.start workerId now)) := ok.of_keys (sameKeys_rewriteTurn ok member rfl)
    have leased : StoreOk ((old.updateTurn turn.id (fun row => decide (row.retryCount < 3))
        (Turn.start workerId now)).takeLease env turn workerId now) :=
      started.of_keys (sameKeys_of_states fun _ => rfl)
    apply leased.of_keys
    exact sameKeys_of_rest rfl rfl rfl rfl rfl (Nat.le_refl _)
  | @start turn workerId now serialized member =>
    have started : StoreOk (old.updateTurn turn.id (fun row => decide (row.retryCount < 3))
        (Turn.start workerId now)) := ok.of_keys (sameKeys_rewriteTurn ok member rfl)
    apply started.of_keys
    exact sameKeys_of_rest rfl rfl rfl rfl rfl (Nat.le_refl _)

theorem StoreOk.steps (steps : TurnSteps env may old new) : StoreOk new := by
  induction steps with
  | refl => exact ok
  | tail _ step ih => exact ih.step step

end

end Keys

end HardwareDatabase.Conversation
