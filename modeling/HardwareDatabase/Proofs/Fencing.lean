/-
Module: HardwareDatabase.Proofs.Fencing
Purpose: A claim takes the lease of its session under a token above every earlier one, and a lease that an attempt has
  lost is not given back to it.
Trusted boundary: none
-/
import HardwareDatabase.Proofs.TurnRuns

namespace HardwareDatabase.Conversation

open Memory (Time)
open Relational

variable {env : Environment} {may : Store → Deed → Prop} {old new store : Store}

/-! ### Where a lease and a grant come from -/

theorem LeaseMove.refl (state : ExecutionState) : LeaseMove state state :=
  ⟨rfl, rfl, Nat.le_refl _, Or.inl rfl⟩

/-- The execution state of a session after a step. -/
inductive StateOrigin (env : Environment) (old : Store) (state : ExecutionState) : Prop
  | kept {before : ExecutionState} (present : before ∈ old.executionStates)
      (move : LeaseMove before state)
  | fresh (home : ∃ session ∈ old.sessions, session.id = state.sessionId)
      (absent : old.executionState state.sessionId = none)
      (initial : state = ExecutionState.fresh state.sessionId)
  | claimed {before : ExecutionState} {turn : Turn} (serialized : env.serializeSameThread = true)
      (member : turn ∈ old.turns) (kept : turn.cancelRequested = false)
      (present : before ∈ old.executionStates) (home : before.sessionId = turn.sessionId)
      (session : state.sessionId = turn.sessionId) (active : state.activeTurnId = some turn.id)
      (token : state.fencingToken = before.fencingToken + 1)
      (generation : state.generation = before.generation)

theorem TurnStep.state_origin (step : TurnStep env may old new) {state : ExecutionState}
    (found : state ∈ new.executionStates) : StateOrigin env old state := by
  cases step with
  | quiet same =>
    rw [same.states] at found
    exact .kept found (LeaseMove.refl state)
  | drop => exact .kept (mem_of_mem_deleteWhere found) (LeaseMove.refl state)
  | ensure home absent =>
    rcases List.mem_append.mp found with earlier | here
    · exact .kept earlier (LeaseMove.refl state)
    · rw [List.mem_singleton.mp here]
      exact .fresh home absent rfl
  | lease moves =>
    rcases mem_updateWhere.mp found with ⟨before, member, _, rfl⟩ | ⟨kept, _⟩
    · exact .kept member (moves before)
    · exact .kept kept (LeaseMove.refl state)
  | revoke =>
    rcases mem_updateWhere.mp found with ⟨before, there, _, rfl⟩ | ⟨kept, _⟩
    · exact .kept there ⟨rfl, rfl, Nat.le_succ _, Or.inl rfl⟩
    · exact .kept kept (LeaseMove.refl state)
  | @conclude turn f text =>
    cases text <;> exact .kept found (LeaseMove.refl state)
  | @claim turn workerId now leased serialized member pending kept =>
    rcases mem_updateWhere.mp found with ⟨before, there, selected, rfl⟩ | ⟨untouched, _⟩
    · have here : before.sessionId = turn.sessionId := by simpa using selected
      exact .claimed serialized member kept there here here rfl rfl rfl
    · exact .kept untouched (LeaseMove.refl state)
  | _ => exact .kept found (LeaseMove.refl state)

/-- A grant that a step records: the turn, and the state of the session that the claim found. -/
structure NewGrant (env : Environment) (old new : Store) (given : Grant) : Prop where
  recorded : new.history.grants = given :: old.history.grants
  turn : ∃ turn ∈ old.turns, turn.id = given.turnId ∧ turn.sessionId = given.sessionId ∧
    turn.cancelRequested = false
  lease : env.serializeSameThread = true → ∃ state ∈ old.executionStates,
    state.sessionId = given.sessionId ∧ given.fencingToken = state.fencingToken + 1
  leased : env.serializeSameThread = true → ∀ state ∈ new.executionStates,
    state.sessionId = given.sessionId → state.fencingToken = given.fencingToken
  generation : given.generation = 0 ∨ ∃ state ∈ old.executionStates,
    state.sessionId = given.sessionId ∧ given.generation = state.generation

theorem TurnStep.grants (step : TurnStep env may old new) (ok : StoreOk old) :
    new.history.grants = old.history.grants ∨ ∃ given, NewGrant env old new given := by
  cases step with
  | quiet same => exact Or.inl (by rw [same.history])
  | @conclude turn f text =>
    cases text <;> exact Or.inl rfl
  | @claim turn workerId now state serialized member pending kept alone present home =>
    refine Or.inr ⟨_, rfl, ⟨turn, member, rfl, rfl, kept⟩, fun _ => ⟨state, present, home, rfl⟩, ?_,
      Or.inr ⟨state, present, home, rfl⟩⟩
    intro _ after found here
    rcases mem_updateWhere.mp found with ⟨before, there, selected, rfl⟩ | ⟨_, skipped⟩
    · have same : before.sessionId = turn.sessionId := by simpa using selected
      rw [ok.stateIds.eq_of_key there present (same.trans home.symm)]
    · simp [here] at skipped
  | @start turn workerId now serialized member pending kept =>
    have contrary : ¬ env.serializeSameThread = true := by simp [serialized]
    exact Or.inr ⟨_, rfl, ⟨turn, member, rfl, rfl, kept⟩, fun on => absurd on contrary,
      fun on => absurd on contrary, Or.inl rfl⟩
  | _ => exact Or.inl rfl

theorem TurnStep.grants_kept (step : TurnStep env may old new) (ok : StoreOk old) {given : Grant}
    (member : given ∈ old.history.grants) : given ∈ new.history.grants := by
  rcases step.grants ok with same | ⟨fresh, isNew⟩
  · rw [same]
    exact member
  · rw [isNew.recorded]
    exact List.mem_cons_of_mem _ member

theorem TurnSteps.grants_kept (steps : TurnSteps env may old new) (ok : StoreOk old) {given : Grant}
    (member : given ∈ old.history.grants) : given ∈ new.history.grants := by
  induction steps with
  | refl => exact member
  | tail earlier step ih => exact step.grants_kept (ok.steps earlier) ih

/-- A grant is about a turn that exists or existed, under the session of the turn. -/
structure GrantsKnown (store : Store) : Prop where
  sessions : ∀ given ∈ store.history.grants, given.sessionId < store.nextSessionId
  turns : ∀ given ∈ store.history.grants, given.turnId < store.nextTurnId
  homes : ∀ given ∈ store.history.grants, ∀ turn ∈ store.turns, turn.id = given.turnId →
    turn.sessionId = given.sessionId

namespace GrantsKnown

theorem empty : GrantsKnown Store.empty := by
  constructor <;> simp [Store.empty]

theorem step (known : GrantsKnown old) (ok : StoreOk old) (step : TurnStep env may old new) : GrantsKnown new := by
  have counters := step.counters
  have earlier : ∀ given ∈ new.history.grants, given.sessionId < old.nextSessionId ∧ given.turnId < old.nextTurnId ∧
        ∀ turn ∈ old.turns, turn.id = given.turnId → turn.sessionId = given.sessionId := by
    intro given member
    rcases step.grants ok with same | ⟨fresh, isNew⟩
    · rw [same] at member
      exact ⟨known.sessions given member, known.turns given member, known.homes given member⟩
    · rw [isNew.recorded] at member
      rcases List.mem_cons.mp member with rfl | before
      · obtain ⟨turn, turnMember, id, session, _⟩ := isNew.turn
        refine ⟨?_, ?_, ?_⟩
        · rw [← session]
          exact ok.turnHomes turn turnMember
        · rw [← id]
          exact ok.turnFresh turn turnMember
        · intro row rowMember here
          rw [ok.turnIds.eq_of_key rowMember turnMember (here.trans id.symm), session]
      · exact ⟨known.sessions given before, known.turns given before, known.homes given before⟩
  constructor
  · exact fun given member => Nat.lt_of_lt_of_le (earlier given member).1 counters.2
  · exact fun given member => Nat.lt_of_lt_of_le (earlier given member).2.1 counters.1
  · intro given member turn found here
    obtain ⟨_, below, homes⟩ := earlier given member
    rcases step.turn_origin ok found with ⟨before, beforeMember, identity, _⟩ | isNew
    · rw [Turn.sessionId_of_identity identity]
      exact homes before beforeMember ((Turn.id_of_identity identity).symm.trans here)
    · -- a new turn has an id that no grant names
      rw [← here, isNew.id] at below
      omega

end GrantsKnown

/-! ### Tokens

Every claim raises the token of its session, so a later attempt is told from an earlier one. -/

/-- The token of a session is not behind any grant. -/
structure TokensOk (store : Store) : Prop where
  known : GrantsKnown store
  tracked : ∀ given ∈ store.history.grants, ∀ session ∈ store.sessions,
    session.id = given.sessionId → ∃ state ∈ store.executionStates, state.sessionId = given.sessionId
  behind : ∀ given ∈ store.history.grants, ∀ state ∈ store.executionStates,
    state.sessionId = given.sessionId → given.fencingToken ≤ state.fencingToken
  increasing : store.history.grants.Pairwise fun newer older =>
    newer.sessionId = older.sessionId → older.fencingToken < newer.fencingToken

theorem TurnStep.states_kept (step : TurnStep env may old new) {sessionId : Nat}
    (known : sessionId < old.nextSessionId) (tracked : ∀ session ∈ old.sessions, session.id = sessionId →
      ∃ state ∈ old.executionStates, state.sessionId = sessionId) : ∀ session ∈ new.sessions, session.id = sessionId →
      ∃ state ∈ new.executionStates, state.sessionId = sessionId := by
  -- an update of the states or of the sessions keeps their keys
  have updated {p : ExecutionState → Bool} {f : ExecutionState → ExecutionState}
      (keeps : ∀ state, (f state).sessionId = state.sessionId) :
      (∃ state ∈ old.executionStates, state.sessionId = sessionId) →
        ∃ state ∈ updateWhere p f old.executionStates, state.sessionId = sessionId := by
    rintro ⟨state, present, home⟩
    refine ⟨_, mem_updateWhere_of_mem present, ?_⟩
    split
    · rw [keeps, home]
    · exact home
  have described {p : Session → Bool} {f : Session → Session}
      (keeps : ∀ session, (f session).id = session.id) :
      ∀ session ∈ updateWhere p f old.sessions, session.id = sessionId →
        ∃ state ∈ old.executionStates, state.sessionId = sessionId := by
    intro session member home
    obtain ⟨before, beforeMember, rfl⟩ := exists_of_mem_updateWhere member
    apply tracked before beforeMember
    rw [← home]
    split
    · exact (keeps before).symm
    · rfl
  cases step with
  | quiet same =>
    rw [same.sessions, same.states]
    exact tracked
  | describe keeps => exact described fun session => (keeps session).1
  | openSession fresh =>
    intro session member home
    rcases List.mem_append.mp member with earlier | here
    · exact tracked session earlier home
    · rw [List.mem_singleton.mp here, fresh] at home
      omega
  | reconcile | create | allot => exact described fun _ => rfl
  | drop =>
    intro session member home
    obtain ⟨there, other⟩ := mem_deleteWhere.mp member
    obtain ⟨state, present, here⟩ := tracked session there home
    refine ⟨state, mem_deleteWhere.mpr ⟨present, ?_⟩, here⟩
    rw [here, ← home]
    exact other
  | ensure =>
    intro session member here
    obtain ⟨state, present, there⟩ := tracked session member here
    exact ⟨state, List.mem_append_left _ present, there⟩
  | lease moves =>
    intro session member home
    exact updated (fun state => (moves state).session) (tracked session member home)
  | revoke =>
    intro session sessionMember home
    exact updated (fun _ => rfl) (tracked session sessionMember home)
  | @conclude turn f text =>
    cases text <;> exact tracked
  | claim =>
    intro session sessionMember here
    exact updated (fun _ => rfl) (tracked session sessionMember here)
  | _ => exact tracked

namespace TokensOk

theorem empty : TokensOk Store.empty where
  known := GrantsKnown.empty
  tracked := by simp [Store.empty]
  behind := by simp [Store.empty]
  increasing := by simp [Store.empty]

theorem step (tokens : TokensOk old) (serialized : env.serializeSameThread = true) (ok : StoreOk old)
    (step : TurnStep env may old new) : TokensOk new := by
  -- the state of the session is never behind a grant that was recorded before the step
  have ahead : ∀ given ∈ old.history.grants, ∀ state ∈ new.executionStates,
      state.sessionId = given.sessionId → given.fencingToken ≤ state.fencingToken := by
    intro given member state found home
    cases step.state_origin found with
    | @kept before present move =>
      rw [move.token]
      exact tokens.behind given member before present (move.session.symm.trans home)
    | fresh live absent =>
      -- a session with a grant has a state already
      obtain ⟨session, sessionMember, here⟩ := live
      obtain ⟨existing, present, there⟩ :=
        tokens.tracked given member session sessionMember (here.trans home)
      have missing := List.find?_eq_none.mp absent existing present
      simp [there, home] at missing
    | @claimed before turn _ turnMember _ present claimHome session active token =>
      rw [token]
      have below := tokens.behind given member before present
        (claimHome.trans (session.symm.trans home))
      omega
  have following : ∀ given ∈ old.history.grants, ∀ session ∈ new.sessions, session.id = given.sessionId →
        ∃ state ∈ new.executionStates, state.sessionId = given.sessionId := by
    intro given member
    exact step.states_kept (tokens.known.sessions given member) (tokens.tracked given member)
  rcases step.grants ok with same | ⟨fresh, isNew⟩
  · exact
      { known := tokens.known.step ok step
        tracked := by rw [same]; exact following
        behind := by rw [same]; exact ahead
        increasing := by rw [same]; exact tokens.increasing }
  · obtain ⟨state, present, home, token⟩ := isNew.lease serialized
    obtain ⟨turn, turnMember, _, session, _⟩ := isNew.turn
    constructor
    case known => exact tokens.known.step ok step
    case tracked =>
      rw [isNew.recorded]
      intro given member
      rcases List.mem_cons.mp member with rfl | earlier
      · apply step.states_kept
        · rw [← session]
          exact ok.turnHomes turn turnMember
        · exact fun _ _ _ => ⟨state, present, home⟩
      · exact following given earlier
    case behind =>
      rw [isNew.recorded]
      intro given member
      rcases List.mem_cons.mp member with rfl | earlier
      · exact fun after found here => Nat.le_of_eq (isNew.leased serialized after found here).symm
      · exact ahead given earlier
    case increasing =>
      rw [isNew.recorded]
      apply List.pairwise_cons.mpr
      refine ⟨?_, tokens.increasing⟩
      intro older member same
      have below := tokens.behind older member state present (home.trans same)
      omega

end TokensOk

/-! ### Attempts that lost their lease -/

/-- The state of the session still names the attempt. -/
def Grant.Current (given : Grant) (store : Store) : Prop :=
  ∃ state ∈ store.executionStates, state.sessionId = given.sessionId ∧
    state.activeTurnId = some given.turnId ∧ state.fencingToken = given.fencingToken

/-- No step gives an attempt the lease again that it has lost. -/
theorem Grant.Current.of_step {given : Grant} (current : given.Current new) (tokens : TokensOk old)
    (member : given ∈ old.history.grants) (step : TurnStep env may old new) : given.Current old := by
  obtain ⟨state, found, home, active, token⟩ := current
  cases step.state_origin found with
  | @kept before present move =>
    refine ⟨before, present, move.session.symm.trans home, ?_, move.token.symm.trans token⟩
    rcases move.active with same | dropped
    · rw [← same]
      exact active
    · rw [dropped] at active
      simp at active
  | fresh live absent initial =>
    rw [initial] at active
    simp [ExecutionState.fresh] at active
  | @claimed before turn serialized turnMember kept present claimHome session =>
    have below := tokens.behind given member before present
      (claimHome.trans (session.symm.trans home))
    omega

theorem superseded_of_newer {given newer : Grant} (tokens : TokensOk store)
    (newerMember : newer ∈ store.history.grants) (same : newer.sessionId = given.sessionId)
    (above : given.fencingToken < newer.fencingToken) : ¬ given.Current store := by
  rintro ⟨state, found, home, _, token⟩
  have behind := tokens.behind newer newerMember state found (home.trans same.symm)
  omega

theorem owner_of_verify {turnId token : Nat} {workerId : String}
    (verified : store.verifyTurnOwner turnId workerId token = true) :
    ∃ turn ∈ store.turns, turn.id = turnId ∧ ∃ state ∈ store.executionStates,
      state.sessionId = turn.sessionId ∧ state.activeTurnId = some turnId ∧ state.fencingToken = token := by
  rw [Store.verifyTurnOwner] at verified
  split at verified
  · simp at verified
  · rename_i turn found
    split at verified
    · simp at verified
    · rename_i state there
      simp only [Bool.and_eq_true, beq_iff_eq] at verified
      obtain ⟨member, here⟩ := mem_of_turnById found
      have home : state.sessionId = turn.sessionId := by simpa using List.find?_some there
      exact ⟨turn, member, here, state, List.mem_of_find?_eq_some there, home, verified.1.1, verified.2⟩

theorem verifyTurnOwner_of_superseded {given : Grant} (known : GrantsKnown store)
    (member : given ∈ store.history.grants) (superseded : ¬ given.Current store) (workerId : String) :
    store.verifyTurnOwner given.turnId workerId given.fencingToken = false := by
  by_contra holds
  obtain ⟨turn, turnMember, here, state, present, home, active, token⟩ :=
    owner_of_verify (by simpa using holds)
  have session := known.homes given member turn turnMember here
  exact superseded ⟨state, present, home.trans session, active, token⟩

/-- Every fenced write of an attempt that lost its lease is refused and changes nothing. -/
theorem refuses_of_superseded (env : Environment) {given : Grant} {op : Op} (known : GrantsKnown store)
    (member : given ∈ store.history.grants) (superseded : ¬ given.Current store)
    (writes : given.Writes op) : store.refuses env op = true ∧ store.exec env op = store := by
  have fenced := verifyTurnOwner_of_superseded known member superseded
  cases op with
  | touchTurnWorker =>
    obtain ⟨rfl, rfl, rfl⟩ := writes
    simp [Store.refuses, Store.exec, Store.touchTurnWorker, fenced]
  | updateRecoverableCheckpointRef turnId =>
    obtain ⟨rfl, rfl, rfl⟩ := writes
    cases found : store.turnById given.turnId with
    | none =>
      simp [Store.refuses, Store.exec, Store.updateRecoverableCheckpointRef, found, Except.map,
        Store.commit, pure, Except.pure]
    | some =>
      simp [Store.refuses, Store.exec, Store.updateRecoverableCheckpointRef, found, fenced,
        Except.map, Store.commit, throw, throwThe, MonadExceptOf.throw, bind, Except.bind]
  | appendTurnEvent =>
    obtain ⟨rfl, rfl, rfl⟩ := writes
    simp [Store.refuses, Store.exec, Store.appendTurnEvent, Store.admits, fenced, Store.commit,
      throw, throwThe, MonadExceptOf.throw, bind, Except.bind, Except.isOk, Except.toBool]
  | completeTurnResult call =>
    obtain ⟨turnId, workerId, token⟩ := writes
    cases found : store.getTurn call.userId call.turnId with
    | none =>
      simp [Store.refuses, Store.exec, Store.completeTurnResult, found, Store.commit, Except.map,
        throw, throwThe, MonadExceptOf.throw, Except.isOk, Except.toBool]
    | some turn =>
      have stops : store.fenceCompletion turn call =
          .error (.staleTurnOwner (.newerAttempt call.turnId)) := by
        simp [Store.fenceCompletion, token, turnId, fenced, throw, throwThe, MonadExceptOf.throw,
          bind, Except.bind]
      simp [Store.refuses, Store.exec, Store.completeTurnResult, found, stops, Store.commit,
        Except.map, bind, Except.bind, Except.isOk, Except.toBool]
  | failTurnResult call =>
    obtain ⟨turnId, workerId, token⟩ := writes
    cases found : store.getTurn call.userId call.turnId with
    | none =>
      simp [Store.refuses, Store.exec, Store.failTurnResult, found, Store.commit, Except.map, pure, Except.pure]
    | some =>
      have stops : store.admits call.turnId call.workerId call.fencingToken = false := by
        simp [Store.admits, token, turnId, fenced]
      simp [Store.refuses, Store.exec, Store.failTurnResult, found, stops, Store.commit, Except.map,
        throw, throwThe, MonadExceptOf.throw, bind, Except.bind]
  | _ => exact absurd writes (by simp [Grant.Writes])

end HardwareDatabase.Conversation
