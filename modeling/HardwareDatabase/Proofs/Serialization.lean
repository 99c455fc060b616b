/-
Module: HardwareDatabase.Proofs.Serialization
Purpose: The turns of a session under `CONVERSATION_SERIALIZE_SAME_THREAD`: one runs at a time, in the order of their
  numbers, and who lost the lease is refused, but after a claim that gives an abandoned turn up.
Trusted boundary: none
-/
import HardwareDatabase.Proofs.Fencing
import HardwareDatabase.Proofs.TurnEndings

namespace HardwareDatabase.Conversation

open Memory (Time)
open Relational

variable {env : Environment} {may : Store → Deed → Prop} {old new store : Store} {turn prior : Turn}

/-! ### One running turn for each session -/

/-- A running turn comes before the other open turns of its session. -/
def RunningFirst (turns : List Turn) : Prop :=
  ∀ turn ∈ turns, turn.status.isRunning = true → ∀ other ∈ turns,
    other.sessionId = turn.sessionId → other.status.isNonTerminal = true → other.id ≠ turn.id →
      turn.turnSequence.getD 0 < other.turnSequence.getD 0

private theorem AtHead.before (head : AtHead store turn) (ok : StoreOk store) (member : turn ∈ store.turns)
    (priorMember : prior ∈ store.turns) (session : prior.sessionId = turn.sessionId)
    (unfinished : prior.status.isNonTerminal = true) (different : prior.id ≠ turn.id) :
    turn.turnSequence.getD 0 < prior.turnSequence.getD 0 := by
  obtain ⟨low, priorStored⟩ := Option.isSome_iff_exists.mp (ok.numbered prior priorMember)
  obtain ⟨high, stored⟩ := Option.isSome_iff_exists.mp (ok.numbered turn member)
  have behind := head prior priorMember different
  simp only [Turn.isBehind, session, unfinished, priorStored, stored, beq_self_eq_true, Bool.true_and,
    Option.any_some, Option.getD_some, decide_eq_false_iff_not, Nat.not_lt] at behind
  have distinct : low ≠ high := by
    intro same
    have keys : (prior.sessionId, prior.turnSequence) = (turn.sessionId, turn.turnSequence) := by
      rw [session, priorStored, stored, same]
    exact different (congrArg Turn.id (ok.sequences.eq_of_key priorMember member keys))
  rw [stored, priorStored]
  simp only [Option.getD_some]
  omega

namespace RunningFirst

private theorem of_rows {turns rows : List Turn} (first : RunningFirst turns)
    (origin : ∀ row ∈ rows, ∃ before ∈ turns, row.identity = before.identity ∧
      (row.status.isRunning = true → before.status.isRunning = true) ∧
      (row.status.isNonTerminal = true → before.status.isNonTerminal = true)) : RunningFirst rows := by
  intro turn member running other otherMember session unfinished different
  obtain ⟨before, beforeMember, identity, wasRunning, _⟩ := origin turn member
  obtain ⟨rival, rivalMember, rivalIdentity, _, wasOpen⟩ := origin other otherMember
  rw [Turn.turnSequence_of_identity identity, Turn.turnSequence_of_identity rivalIdentity]
  apply first before beforeMember (wasRunning running) rival rivalMember _ (wasOpen unfinished)
  · rw [← Turn.id_of_identity identity, ← Turn.id_of_identity rivalIdentity]
    exact different
  · rw [← Turn.sessionId_of_identity identity, ← Turn.sessionId_of_identity rivalIdentity]
    exact session

private theorem of_subset {turns rows : List Turn} (first : RunningFirst turns) (subset : rows ⊆ turns) :
    RunningFirst rows := by
  apply first.of_rows
  exact fun row member => ⟨row, subset member, rfl, fun running => running, fun stillOpen => stillOpen⟩

private theorem updateTurn (first : RunningFirst store.turns) (ok : StoreOk store) (member : turn ∈ store.turns)
    {p : Turn → Bool} {f : Turn → Turn} (same : (f turn).identity = turn.identity)
    (running : p turn = true → (f turn).status.isRunning = true → turn.status.isRunning = true)
    (unfinished : p turn = true → (f turn).status.isNonTerminal = true → turn.status.isNonTerminal = true) :
    RunningFirst (store.updateTurn turn.id p f).turns := by
  apply first.of_rows
  intro row found
  rcases ok.mem_updateTurn member found with ⟨kept, _⟩ | ⟨rfl, selected⟩
  · exact ⟨row, kept, rfl, fun running => running, fun stillOpen => stillOpen⟩
  · exact ⟨turn, member, same, running selected, unfinished selected⟩

private theorem create (first : RunningFirst store.turns) (isNew : turn.IsNew store) :
    RunningFirst (store.turns ++ [turn]) := by
  obtain ⟨sequence, stored, above⟩ := isNew.sequence
  intro running runningMember isRunning other otherMember session unfinished different
  rcases List.mem_append.mp runningMember with earlier | here
  · rcases List.mem_append.mp otherMember with otherEarlier | otherHere
    · exact first running earlier isRunning other otherEarlier session unfinished different
    · rw [List.mem_singleton.mp otherHere] at session ⊢
      cases lower : running.turnSequence with
      | none =>
        rw [stored]
        simp only [Option.getD_none, Option.getD_some]
        omega
      | some =>
        have below := le_maxTurnSequence earlier lower
        rw [← session] at below
        rw [stored]
        simp only [Option.getD_some]
        omega
  · rw [List.mem_singleton.mp here] at isRunning
    rcases isNew.status with status | status <;> simp [status, TurnStatus.isRunning] at isRunning

private theorem claim (first : RunningFirst store.turns) (ok : StoreOk store) (member : turn ∈ store.turns)
    (pending : turn.status = .pending) (head : AtHead store turn) {p : Turn → Bool} {f : Turn → Turn}
    (same : (f turn).identity = turn.identity) : RunningFirst (store.updateTurn turn.id p f).turns := by
  have wasOpen : turn.status.isNonTerminal = true := by
    rw [pending]
    rfl
  -- the row of the turn after the claim has its sequence number and its session
  have origin : ∀ row ∈ (store.updateTurn turn.id p f).turns,
      (row ∈ store.turns ∧ row.id ≠ turn.id) ∨ row.identity = turn.identity := by
    intro row found
    rcases ok.mem_updateTurn member found with ⟨kept, different | ⟨rfl, _⟩⟩ | ⟨rfl, _⟩
    · exact Or.inl ⟨kept, different⟩
    · exact Or.inr rfl
    · exact Or.inr same
  intro running runningMember isRunning other otherMember session unfinished different
  rcases origin running runningMember with ⟨kept, notClaimed⟩ | claimed
  · -- another turn of the session cannot run beside the one at its head
    have apart : running.sessionId ≠ turn.sessionId := by
      intro together
      have runningOpen := TurnStatus.isNonTerminal_of_isRunning isRunning
      have later := head.before ok member kept together runningOpen notClaimed
      have earlier := first running kept isRunning turn member together.symm wasOpen
        (Ne.symm notClaimed)
      omega
    rcases origin other otherMember with ⟨otherKept, _⟩ | otherClaimed
    · exact first running kept isRunning other otherKept session unfinished different
    · rw [Turn.sessionId_of_identity otherClaimed] at session
      exact absurd session.symm apart
  · rw [Turn.turnSequence_of_identity claimed]
    rw [Turn.sessionId_of_identity claimed] at session
    rw [Turn.id_of_identity claimed] at different
    rcases origin other otherMember with ⟨otherKept, _⟩ | otherClaimed
    · exact head.before ok member otherKept session unfinished different
    · exact absurd (Turn.id_of_identity otherClaimed) different

private theorem step (first : RunningFirst old.turns) (serialized : env.serializeSameThread = true)
    (ok : StoreOk old) (step : TurnStep env may old new) : RunningFirst new.turns := by
  cases step with
  | quiet same =>
    rw [same.turns]
    exact first
  | create member => exact first.create (TurnRequest.row_isNew member)
  | forget | drop => exact first.of_subset fun _ => mem_of_mem_deleteWhere
  | annotate keeps =>
    apply first.of_rows
    intro row found
    rcases mem_updateWhere.mp found with ⟨before, member, _, rfl⟩ | ⟨kept, _⟩
    · obtain ⟨identity, status, _⟩ := keeps before
      refine ⟨before, member, identity, ?_, ?_⟩ <;> rw [status] <;> exact fun same => same
    · exact ⟨row, kept, rfl, fun running => running, fun stillOpen => stillOpen⟩
  | requeue member running =>
    apply first.updateTurn ok member rfl
    · exact fun _ _ => running
    · exact fun _ _ => TurnStatus.isNonTerminal_of_isRunning running
  | ready member waiting =>
    apply first.updateTurn ok member rfl
    · intro _ running
      simp [TurnStatus.isRunning] at running
    · intro _ _
      rw [waiting]
      rfl
  | @revoke turn now member running =>
    have kept : RunningFirst (old.rewriteTurn turn.id (Turn.requestCancel now)).turns := by
      apply first.updateTurn ok member rfl
      · exact fun _ _ => running
      · exact fun _ _ => TurnStatus.isNonTerminal_of_isRunning running
    exact kept
  | @conclude turn f text noted member unfinished same status =>
    have kept : RunningFirst (old.rewriteTurn turn.id f).turns := by
      apply first.updateTurn ok member same
      · intro _ running
        rcases status with status | status <;> simp [status, TurnStatus.isRunning] at running
      · exact fun _ _ => unfinished
    cases text <;> exact kept
  | @complete turn f content noted member allowed same status =>
    have kept : RunningFirst (old.updateTurn turn.id (fun turn => !turn.status.isSettled) f).turns := by
      apply first.updateTurn ok member same
      · intro _ running
        simp [status, TurnStatus.isRunning] at running
      · intro _ stillOpen
        simp [status, TurnStatus.isNonTerminal] at stillOpen
    exact kept
  | claim _ member pending kept alone => exact first.claim ok member pending alone rfl
  | start unserialized =>
    rw [serialized] at unserialized
    simp at unserialized
  | _ => exact first

end RunningFirst

/-! ### Losing the lease

An attempt loses its lease to a newer claim, to a sweep or a claim that takes its turn back, or to a
clear. Of these only the requeue inside a claim does not touch the lease itself: it relies on the claim
going on to the grant. -/

/-- The operation ends the attempt: a newer claim in the session, a claim or a sweep that finds the turn
abandoned and takes it back, or a clear of the session by its owner. -/
def Grant.SupersededBy (env : Environment) (given : Grant) (store : Store) : Op → Prop
  | .claimTurnResult userId turnId workerId staleAfterSeconds now dbNow =>
    (∃ after newer, newer.sessionId = given.sessionId ∧
      store.claimTurnResult env userId turnId workerId staleAfterSeconds now dbNow =
        .ok (after, .claimed newer)) ∨
    ∃ turn ∈ store.getTurn userId turnId, turn.id = given.turnId ∧
      turn.isStale (staleSeconds env staleAfterSeconds) dbNow = true
  | .requeueStaleTurns staleAfterSeconds _ dbNow =>
    ∃ turn ∈ store.turns, turn.id = given.turnId ∧
      turn.isStale (staleSeconds env staleAfterSeconds) dbNow = true
  | .clearSession userId sessionId _ =>
    sessionId = given.sessionId ∧ (store.getSession userId sessionId).isSome = true
  | _ => False

/-- A claim that takes an abandoned turn back grants it anew: the turn is not cancelled, and it has
attempts left. (A worker without a name needs none: it is taken for the one that the row names.) -/
def Store.GrantsRequeued (env : Environment) (store : Store) : Op → Prop
  | .claimTurnResult userId turnId workerId staleAfterSeconds _ dbNow =>
    ∀ turn ∈ store.getTurn userId turnId,
      turn.isStale (staleSeconds env staleAfterSeconds) dbNow = true →
        turn.cancelRequested = false ∧ (turn.retryCount < 3 ∨ workerId = "")
  | _ => True

instance (env : Environment) (store : Store) (op : Op) : Decidable (store.GrantsRequeued env op) := by
  apply Op.casesOn (motive := fun op => Decidable (store.GrantsRequeued env op)) op <;> intros <;>
    simp only [Store.GrantsRequeued] <;> infer_instance

private theorem resetExecutionState_idle {sessionId : Nat} {state : ExecutionState}
    (found : state ∈ (store.resetExecutionState sessionId).executionStates)
    (home : state.sessionId = sessionId) : state.activeTurnId = none := by
  rw [Store.resetExecutionState] at found
  split at found
  · -- no state was there, and none was created
    rename_i ready ensured
    simp only [Store.ensureExecutionState] at ensured
    split at ensured
    · simp at ensured
    · rename_i absent
      split at ensured
      · simp at ensured
      · simp only [Prod.mk.injEq] at ensured
        rw [← ensured.1] at found
        have missing := List.find?_eq_none.mp absent state found
        simp [home] at missing
  · rcases mem_updateWhere.mp found with ⟨before, _, _, rfl⟩ | ⟨_, skipped⟩
    · rfl
    · simp [home] at skipped

/-- The keys, the order and the tokens of the store. -/
structure SerialOk (store : Store) : Prop where
  keys : StoreOk store
  first : RunningFirst store.turns
  tokens : TokensOk store

private theorem SerialOk.exec (serial : SerialOk store) (serialized : env.serializeSameThread = true) (op : Op) :
    SerialOk (store.exec env op) := by
  have steps : TurnSteps env anyDeed store (store.exec env op) :=
    exec_turnSteps serial.keys pointerBlind_anyDeed (permits_anyDeed op)
  constructor
  · exact serial.keys.steps steps
  · exact steps.keep (fun ok first step => RunningFirst.step first serialized ok step) serial.keys
      serial.first
  · exact steps.keep (fun ok tokens step => TokensOk.step tokens serialized ok step) serial.keys
      serial.tokens

private theorem serialOk_run (serialized : env.serializeSameThread = true) (ops : List Op) :
    SerialOk ((conversationService env).run ops) := by
  apply Machine.invariant SerialOk
  · exact { keys := StoreOk.empty, first := by simp [RunningFirst, conversationService, Store.empty],
            tokens := TokensOk.empty }
  · exact fun store op serial => serial.exec serialized op

/-! ### Turns that a claim takes back

The turn that was running precedes every open turn of its session, so no earlier turn blocks the claim.
Either another turn of the session holds the lease, and then the old attempt had lost it already, or
the claim comes to the statement that starts the turn and takes the lease under a new token. -/

private theorem RunningFirst.atHead (first : RunningFirst store.turns) (member : turn ∈ store.turns)
    (running : turn.status.isRunning = true) : AtHead store turn := by
  intro prior priorMember different
  cases priorStored : prior.turnSequence with
  | none => simp [Turn.isBehind, priorStored]
  | some =>
    by_contra behind
    simp only [Turn.isBehind, priorStored, Option.any_some, Bool.not_eq_false, Bool.and_eq_true,
      beq_iff_eq, decide_eq_true_eq] at behind
    obtain ⟨⟨session, unfinished⟩, lower⟩ := behind
    have later := first turn member running prior priorMember session unfinished different
    rw [priorStored, Option.getD_some] at later
    omega

variable {now : Time}

/-- The gate before the turn at the head of its session: the claim goes on, or the lease is another
turn's. -/
theorem sessionGate_of_atHead (env : Environment) (ok : StoreOk store) (head : AtHead store turn)
    (home : ∃ session ∈ store.sessions, session.id = turn.sessionId) : (store.sessionGate turn now).2 = none ∨
      ∀ state ∈ (store.sessionGate turn now).1.executionStates, state.sessionId = turn.sessionId →
        state.activeTurnId ≠ some turn.id := by
  have steps : TurnSteps env anyDeed store (store.ensureExecutionState turn.sessionId).1 :=
    ensureExecutionState_steps turn.sessionId
  have ensured := ok.steps steps
  obtain ⟨turns, _, _⟩ := ensureExecutionState_frame store turn.sessionId
  simp only [Store.sessionGate]
  split
  · -- the session of the turn is there, so its state is found or created
    rename_i ready ensure
    simp only [Store.ensureExecutionState] at ensure
    obtain ⟨session, member, here⟩ := home
    split at ensure
    · simp at ensure
    · rw [if_pos (List.any_eq_true.mpr ⟨session, member, by simpa using here⟩)] at ensure
      simp at ensure
  · rename_i ready state ensure
    have present := ensureExecutionState_spec (congrArg Prod.snd ensure)
    rw [ensure] at ensured turns present
    have unblocked : ready.earlierTurn turn = none := by
      rw [Store.earlierTurn, List.filter_eq_nil_iff.mpr]
      · rfl
      · intro prior member
        rw [turns] at member
        by_cases same : prior.id = turn.id
        · simp [same]
        · simp [head prior member same]
    rw [unblocked]
    cases active : state.activeTurnId with
    | none => exact Or.inl rfl
    | some =>
      simp only
      split
      · rename_i other
        split
        · right
          intro row found there
          rw [ensured.stateIds.eq_of_key found present.1 (there.trans present.2.symm), active]
          exact fun same => other.1 (Option.some.inj same)
        · exact Or.inl rfl
      · exact Or.inl rfl

variable {workerId : String}

/-- A claim whose turn has attempts left, or carries the worker's name already, is granted. -/
theorem startTurn_grants (ok : StoreOk store) {before : Store}
    (serialized : env.serializeSameThread = true) (claimable : Claimable env store turn)
    (attempts : turn.retryCount < 3 ∨ turn.workerId = workerId) :
    ∃ given, (store.startTurn env before turn workerId now).2 = .claimed given ∧ given.sessionId = turn.sessionId := by
  have named : (if turn.retryCount < 3 then turn.start workerId now else turn).workerId = workerId := by
    split
    · rfl
    · exact attempts.resolve_left ‹_›
  obtain ⟨state, present, home⟩ := claimable.state serialized
  have started : StoreOk (store.updateTurn turn.id (fun row => decide (row.retryCount < 3))
      (Turn.start workerId now)) := ok.of_keys (sameKeys_rewriteTurn ok claimable.member rfl)
  simp only [Store.startTurn, turnById_started ok claimable.member, named, ne_eq, not_true_eq_false,
    if_false, serialized, if_true, Store.ensureExecutionState,
    takeLease_state env started present home workerId now]
  exact ⟨_, rfl, rfl⟩

private theorem claimPending_grants (ok : StoreOk store) (serialized : env.serializeSameThread = true)
    {before : Store} (member : turn ∈ store.turns)
    (pending : turn.status = .pending) (kept : turn.cancelRequested = false) (head : AtHead store turn)
    (home : ∃ session ∈ store.sessions, session.id = turn.sessionId)
    (attempts : turn.retryCount < 3 ∨ turn.workerId = workerId) :
    (∃ newer, (store.claimPending env before turn workerId now).2 = .claimed newer ∧ newer.sessionId = turn.sessionId) ∨
      ∀ state ∈ (store.claimPending env before turn workerId now).1.executionStates,
        state.sessionId = turn.sessionId → state.activeTurnId ≠ some turn.id := by
  have gated : (store.sessionGate turn now).2 = none ∨ _ := sessionGate_of_atHead env ok head home
  rw [Store.claimPending, if_pos serialized]
  split
  · rename_i middle blocked gate
    rw [gate] at gated
    exact Or.inr (gated.resolve_left (by simp))
  · rename_i middle gate
    obtain ⟨steps, turns, _, _, goesOn⟩ : TurnSteps env anyDeed store middle ∧ _ := sessionGate_spec gate
    have claimable : Claimable env middle turn :=
      { member := by rw [turns]; exact member
        pending := pending
        kept := kept
        head := by
          intro _
          rw [AtHead, turns]
          exact head
        state := fun _ => (goesOn rfl).2 }
    exact Or.inl (startTurn_grants (ok.steps steps) serialized claimable attempts)

/-- A claim that takes an abandoned turn back grants it, or another turn holds the lease. -/
theorem claimTurnResult_requeues (ok : StoreOk store) (first : RunningFirst store.turns)
    (serialized : env.serializeSameThread = true) {userId turnId staleAfterSeconds : Nat}
    {dbNow : Time} (found : store.getTurn userId turnId = some turn)
    (stale : turn.isStale (staleSeconds env staleAfterSeconds) dbNow = true)
    (kept : turn.cancelRequested = false) (attempts : turn.retryCount < 3 ∨ workerId = "") :
    ∃ after result, store.claimTurnResult env userId turnId workerId staleAfterSeconds now dbNow = .ok (after, result) ∧
      ((∃ newer, result = .claimed newer ∧ newer.sessionId = turn.sessionId) ∨
        ∀ state ∈ after.executionStates, state.sessionId = turn.sessionId → state.activeTurnId ≠ some turn.id) := by
  obtain ⟨member, rfl, owned⟩ := mem_of_getTurn found
  have running : turn.status.isRunning = true := by
    simp only [Turn.isStale, Bool.and_eq_true] at stale
    exact stale.1
  have requeued : StoreOk (store.rewriteTurn turn.id Turn.requeue) :=
    ok.of_keys (sameKeys_rewriteTurn ok member rfl)
  have here := (mem_of_turnById (ok.turnById_rewrite (f := Turn.requeue) member rfl)).1
  have head : AtHead (store.rewriteTurn turn.id Turn.requeue) turn.requeue := by
    intro prior priorMember different
    rcases ok.mem_updateTurn member priorMember with ⟨before, _⟩ | ⟨rfl, _⟩
    · exact first.atHead member running prior before different
    · exact absurd rfl different
  have home : ∃ session ∈ (store.rewriteTurn turn.id Turn.requeue).sessions,
      session.id = turn.requeue.sessionId := by
    obtain ⟨session, there, same⟩ := List.any_eq_true.mp owned
    simp only [Bool.and_eq_true, beq_iff_eq] at same
    exact ⟨session, there, same.1⟩
  rw [Store.claimTurnResult, found]
  simp only [ok.updateTurn_eq_rewrite member stale]
  simp only [ok.getTurn_rewrite (f := Turn.requeue) member owned rfl]
  rw [if_neg (by simp [Turn.requeue]), if_neg (by simpa [Turn.requeue, Turn.leaveWorker] using kept)]
  exact ⟨_, _, rfl, claimPending_grants requeued serialized here rfl kept head home
    (attempts.imp_right Eq.symm)⟩

/-- The attempt was granted and has lost its lease since. -/
def Grant.Lost (given : Grant) (store : Store) : Prop :=
  given ∈ store.history.grants ∧ ¬ given.Current store

private theorem Grant.Lost.steps {given : Grant} (lost : given.Lost old) (tokens : TokensOk old)
    (serialized : env.serializeSameThread = true) (ok : StoreOk old)
    (steps : TurnSteps env may old new) : TokensOk new ∧ given.Lost new := by
  induction steps with
  | refl => exact ⟨tokens, lost⟩
  | tail earlier step ih =>
    obtain ⟨tokens, member, superseded⟩ := ih
    have here := ok.steps earlier
    refine ⟨tokens.step serialized here step, ?_, ?_⟩
    · exact step.grants_kept here member
    · exact fun current => superseded (current.of_step tokens member step)

private theorem Grant.Lost.exec {given : Grant} (lost : given.Lost store) (serial : SerialOk store)
    (serialized : env.serializeSameThread = true) (op : Op) : given.Lost (store.exec env op) := by
  have steps : TurnSteps env anyDeed store (store.exec env op) :=
    exec_turnSteps serial.keys pointerBlind_anyDeed (permits_anyDeed op)
  exact (lost.steps serial.tokens serialized serial.keys steps).2

private theorem Grant.SupersededBy.lost {given : Grant} {op : Op} (superseded : given.SupersededBy env store op)
    (requeues : store.GrantsRequeued env op) (serial : SerialOk store)
    (serialized : env.serializeSameThread = true) (member : given ∈ store.history.grants) :
    given.Lost (store.exec env op) := by
  have steps : TurnSteps env anyDeed store (store.exec env op) :=
    exec_turnSteps serial.keys pointerBlind_anyDeed (permits_anyDeed op)
  refine ⟨steps.grants_kept serial.keys member, ?_⟩
  cases op with
  | claimTurnResult userId turnId workerId staleAfterSeconds now dbNow =>
    have later := serial.exec serialized (.claimTurnResult userId turnId workerId staleAfterSeconds
      now dbNow)
    -- a newer grant of the session leaves the older one behind its token
    have newerGrant {after : Store} {newer : Grant} (same : newer.sessionId = given.sessionId)
        (done : store.claimTurnResult env userId turnId workerId staleAfterSeconds now dbNow =
          .ok (after, .claimed newer)) :
        ¬ given.Current (store.exec env (.claimTurnResult userId turnId workerId staleAfterSeconds
          now dbNow)) := by
      obtain ⟨_, granted⟩ : TurnSteps env anyDeed store after ∧ _ :=
        claimTurnResult_spec serial.keys (fun _ _ _ _ _ => trivial) done
      obtain ⟨_, _, _, _, _, grants, _⟩ := granted newer rfl
      simp only [Store.exec, done, Except.map, Store.commit] at later ⊢
      have increasing := later.tokens.increasing
      rw [grants] at increasing
      apply superseded_of_newer later.tokens _ same
      · exact (List.pairwise_cons.mp increasing).1 given member same
      · rw [grants]
        exact List.mem_cons_self
    rcases superseded with ⟨after, newer, same, done⟩ | ⟨turn, found, here, stale⟩
    · exact newerGrant same done
    · obtain ⟨kept, attempts⟩ := requeues turn found stale
      have home := serial.tokens.known.homes given member turn (mem_of_getTurn found).1 here
      obtain ⟨after, result, done, ⟨newer, rfl, same⟩ | elsewhere⟩ :=
        claimTurnResult_requeues serial.keys serial.first serialized found stale kept attempts
      · exact newerGrant (same.trans home) done
      · simp only [Store.exec, done, Except.map, Store.commit]
        rintro ⟨state, there, session, active, _⟩
        exact elsewhere state there (session.trans home.symm) (by rw [active, here])
  | requeueStaleTurns staleAfterSeconds now dbNow =>
    have later := serial.exec serialized (.requeueStaleTurns staleAfterSeconds now dbNow)
    obtain ⟨turn, turnMember, here, stale⟩ := superseded
    obtain ⟨after, done, swept, running⟩ :=
      requeueStaleTurns_ends env serial.keys staleAfterSeconds now dbNow
    have moved : store.exec env (.requeueStaleTurns staleAfterSeconds now dbNow) = after := by
      simp only [Store.exec, done, Store.commit]
    rw [moved] at later ⊢
    rintro ⟨state, found, _, active, _⟩
    -- the lease that is left belongs to a running turn, and the turn does not run any more
    obtain ⟨holder, holderMember, holderId, holderRunning⟩ := running state found _ active
    obtain ⟨ended, endedMember, endedId, stopped, _⟩ := swept turn turnMember stale
    have same : holder = ended := later.keys.turnIds.eq_of_key holderMember endedMember
      (holderId.trans (here.symm.trans endedId.symm))
    rw [same, stopped] at holderRunning
    simp at holderRunning
  | clearSession =>
    obtain ⟨rfl, owned⟩ := superseded
    obtain ⟨session, there⟩ := Option.isSome_iff_exists.mp owned
    rintro ⟨state, found, home, active, _⟩
    simp only [Store.exec, Store.clearSession, there] at found
    rw [resetExecutionState_idle found home] at active
    simp at active
  | _ => exact absurd superseded (by simp [Grant.SupersededBy])

/-! ### The service -/

/-- After the run and the operation, each fenced write of an attempt that the operation ended is refused
and changes nothing, however the run goes on. -/
def StaysFenced (env : Environment) (ops : List Op) (op : Op) : Prop :=
  ∀ given ∈ ((conversationService env).run ops).history.grants,
    given.SupersededBy env ((conversationService env).run ops) op → ∀ later write, given.Writes write →
      ((conversationService env).run (ops ++ op :: later)).refuses env write = true ∧
      ((conversationService env).run (ops ++ op :: later)).exec env write =
        (conversationService env).run (ops ++ op :: later)

/-- With `CONVERSATION_SERIALIZE_SAME_THREAD` on, after every run: at most one turn of a session runs; a
claim is granted only to a turn that no open turn of the session precedes, under a token above every
earlier token of the session; and once an operation ended an attempt, each of its fenced writes is
refused and changes nothing, unless the operation is a claim that takes the turn back without granting
it anew. -/
theorem sessions_serialized_and_fenced (serialized : env.serializeSameThread = true) (ops : List Op) :
    (∀ left ∈ ((conversationService env).run ops).turns,
      ∀ right ∈ ((conversationService env).run ops).turns, left.sessionId = right.sessionId →
        left.status.isRunning = true → right.status.isRunning = true → left = right) ∧
    (∀ userId turnId workerId staleAfterSeconds now dbNow after given,
      ((conversationService env).run ops).claimTurnResult env userId turnId workerId
          staleAfterSeconds now dbNow = .ok (after, .claimed given) →
        ∃ turn ∈ ((conversationService env).run ops).turns, turn.id = turnId ∧
          given.turnId = turn.id ∧ given.sessionId = turn.sessionId ∧
          (∀ prior ∈ ((conversationService env).run ops).turns, prior.sessionId = turn.sessionId →
            ∀ low high, prior.turnSequence = some low → turn.turnSequence = some high →
              low < high → prior.status.isNonTerminal = false) ∧
          (∀ older ∈ ((conversationService env).run ops).history.grants,
            older.sessionId = given.sessionId → older.fencingToken < given.fencingToken) ∧
          after.history.grants = given :: ((conversationService env).run ops).history.grants) ∧
    (∀ op, ((conversationService env).run ops).GrantsRequeued env op → StaysFenced env ops op) := by
  have serial := serialOk_run serialized ops
  refine ⟨?_, ?_, ?_⟩
  · intro left leftMember right rightMember session leftRunning rightRunning
    apply serial.keys.turnIds.eq_of_key leftMember rightMember
    by_contra different
    have leftFirst := serial.first left leftMember leftRunning right rightMember session.symm
      (TurnStatus.isNonTerminal_of_isRunning rightRunning) (Ne.symm different)
    have rightFirst := serial.first right rightMember rightRunning left leftMember session
      (TurnStatus.isNonTerminal_of_isRunning leftRunning) different
    omega
  · intro userId turnId workerId staleAfterSeconds now dbNow after given done
    obtain ⟨steps, granted⟩ : TurnSteps env anyDeed _ after ∧ _ :=
      claimTurnResult_spec serial.keys (fun _ _ _ _ _ => trivial) done
    obtain ⟨turn, member, here, session, id, grants, head⟩ := granted given rfl
    have later : TokensOk after :=
      steps.keep (fun ok tokens step => TokensOk.step tokens serialized ok step) serial.keys
        serial.tokens
    have increasing := later.increasing
    rw [grants] at increasing
    refine ⟨turn, member, here, id, session, ?_, ?_, grants⟩
    · intro prior priorMember together low high lowStored highStored lower
      by_contra unfinished
      have different : prior.id ≠ turn.id := by
        intro same
        rw [serial.keys.turnIds.eq_of_key priorMember member same, highStored] at lowStored
        have := Option.some.inj lowStored
        omega
      have before := (head serialized).before serial.keys member priorMember together
        (by simpa using unfinished) different
      rw [lowStored, highStored] at before
      simp only [Option.getD_some] at before
      omega
    · intro older olderMember same
      exact (List.pairwise_cons.mp increasing).1 older olderMember same.symm
  · intro op requeues given member superseded later write writes
    have lost : given.Lost ((conversationService env).run (ops ++ [op])) := by
      rw [Machine.run_concat]
      exact superseded.lost requeues serial serialized member
    have still := Machine.stable given.Lost
      (fun before current lost => lost.exec (serialOk_run serialized before) serialized current)
      lost later
    rw [List.append_assoc, List.singleton_append] at still
    have known := (serialOk_run serialized (ops ++ op :: later)).tokens.known
    exact refuses_of_superseded env known still.1 still.2 writes

/-- A worker that comes back after its turn was taken over cannot complete it. -/
theorem late_completion_refused : sampleEnvironment.serializeSameThread = true ∧
      ((conversationService sampleEnvironment).run
        [.createSession 1 "kb" "board" none (some 3), .createTurn sampleRequest 1000000,
          .claimTurnResult 1 1 "first" 0 2000000 2000000,
          .claimTurnResult 1 1 "second" 0 900000000 900000000]).refuses sampleEnvironment
        (.completeTurnResult (sampleCompletion "first" 1 0) 901000000) = true := by
  have serialized : sampleEnvironment.serializeSameThread = true := rfl
  refine ⟨serialized, ?_⟩
  have fenced := (sessions_serialized_and_fenced serialized
    [.createSession 1 "kb" "board" none (some 3), .createTurn sampleRequest 1000000,
      .claimTurnResult 1 1 "first" 0 2000000 2000000]).2.2
    (.claimTurnResult 1 1 "second" 0 900000000 900000000) (by decide)
    { sessionId := 1, turnId := 1, workerId := "first", fencingToken := 1, generation := 0 }
    (by decide) (Or.inl ⟨_,
      { sessionId := 1, turnId := 1, workerId := "second", fencingToken := 2, generation := 0 }, rfl, rfl⟩)
    [] (.completeTurnResult (sampleCompletion "first" 1 0) 901000000) ⟨rfl, rfl, rfl⟩
  exact fenced.1

/-- The third attempt falls silent, and the claim that finds it uses up the attempts of the turn: it
ends the turn, leaves the lease, and the third attempt completes the ended turn. -/
theorem exhausted_attempt_still_completes : ¬ ∀ ops op, StaysFenced sampleEnvironment ops op := by
  intro fenced
  have refused := fenced
    [.createSession 1 "kb" "board" none (some 3), .createTurn sampleRequest 1000000,
      .claimTurnResult 1 1 "first" 0 2000000 2000000,
      .claimTurnResult 1 1 "second" 0 200000000 200000000,
      .claimTurnResult 1 1 "third" 0 400000000 400000000]
    (.claimTurnResult 1 1 "fourth" 0 600000000 600000000)
    { sessionId := 1, turnId := 1, workerId := "third", fencingToken := 3, generation := 0 }
    (by decide) (Or.inr (by decide)) []
    (.completeTurnResult (sampleCompletion "third" 3 0) 601000000) ⟨rfl, rfl, rfl⟩
  revert refused
  decide

end HardwareDatabase.Conversation
