/-
Module: HardwareDatabase.Proofs.TurnEndings
Purpose: The sweep over abandoned turns, the claim of a cancelled one and a reported failure leave finished turns,
  without raising.
Trusted boundary: none
-/
import HardwareDatabase.Proofs.TurnRuns

namespace HardwareDatabase.Conversation

open Memory (Time)
open Relational

variable {env : Environment} {may : Store → Deed → Prop} {store after : Store} {turn other : Turn}

/-! ### Events never stand in the way -/

/-- The columns that a sweep decides. -/
def Turn.standing (turn : Turn) : Nat × TurnStatus :=
  (turn.id, turn.status)

variable {turnId : Nat}

theorem appendEvent_total (eventType : String) (payload : Payload) (now : Time)
    (present : ∃ row ∈ store.turns, row.id = turnId) :
    ∃ after, store.appendEvent turnId eventType payload now = .ok after ∧
      after.turns.map Turn.standing = store.turns.map Turn.standing := by
  obtain ⟨row, member, here⟩ := present
  cases found : store.turnById turnId with
  | none =>
    have missing := List.find?_eq_none.mp found row member
    simp [here] at missing
  | some =>
    simp only [Store.appendEvent, found]
    exact ⟨_, rfl, map_updateWhere store.turns fun _ => rfl⟩

theorem present_of_standing (same : after.turns.map Turn.standing = store.turns.map Turn.standing)
    (present : ∃ row ∈ store.turns, row.id = turnId) : ∃ row ∈ after.turns, row.id = turnId := by
  obtain ⟨row, member, here⟩ := present
  have listed : row.standing ∈ after.turns.map Turn.standing := by
    rw [same]
    exact List.mem_map.mpr ⟨row, member, rfl⟩
  obtain ⟨again, againMember, standing⟩ := List.mem_map.mp listed
  exact ⟨again, againMember, (congrArg Prod.fst standing).trans here⟩

theorem appendEvents_total (events : List (String × Payload)) (now : Time)
    (present : ∃ row ∈ store.turns, row.id = turnId) :
    ∃ after, events.foldlM (fun store event => store.appendEvent turnId event.1 event.2 now) store =
        Except.ok after ∧ after.turns.map Turn.standing = store.turns.map Turn.standing := by
  induction events generalizing store with
  | nil => exact ⟨store, rfl, rfl⟩
  | cons event rest ih =>
    obtain ⟨middle, first, kept⟩ := appendEvent_total event.1 event.2 now present
    obtain ⟨last, later, keptLater⟩ := ih (present_of_standing kept present)
    refine ⟨last, ?_, keptLater.trans kept⟩
    rw [List.foldlM_cons, first]
    exact later

theorem appendTerminalEvents_total (events : List (String × Payload)) (now : Time)
    (present : ∃ row ∈ store.turns, row.id = turnId) :
    ∃ after, store.appendTerminalEvents turnId events now = .ok after ∧
      after.turns.map Turn.standing = store.turns.map Turn.standing :=
  appendEvents_total events now present

variable {now : Time}

theorem conclude_ends {f : Turn → Turn} {text : String} {events : List (String × Payload)}
    {property : Turn → Prop} (ok : StoreOk store) (member : turn ∈ store.turns)
    (same : (f turn).identity = turn.identity)
    (holds : ∀ ended, ended.id = turn.id → ended.status = (f turn).status → property ended) :
    ∃ after, ((store.rewriteTurn turn.id f).fillBlank turn.assistantMessageId
        text).appendTerminalEvents turn.id events now = .ok after ∧ ∃ ended ∈ after.turns, property ended := by
  have rewritten := (mem_of_turnById (ok.turnById_rewrite member same)).1
  have here : (f turn).id = turn.id := Turn.id_of_identity same
  have present : ∃ row ∈ ((store.rewriteTurn turn.id f).fillBlank turn.assistantMessageId
      text).turns, row.id = turn.id := ⟨f turn, rewritten, here⟩
  obtain ⟨after, appended, kept⟩ := appendTerminalEvents_total events now present
  have listed : (f turn).standing ∈ after.turns.map Turn.standing := by
    rw [kept]
    exact List.mem_map.mpr ⟨f turn, rewritten, rfl⟩
  obtain ⟨ended, endedMember, standing⟩ := List.mem_map.mp listed
  refine ⟨after, appended, ended, endedMember, ?_⟩
  apply holds
  · exact (congrArg Prod.fst standing).trans here
  · exact congrArg Prod.snd standing

/-! ### The sweep over abandoned turns -/

/-- What the sweep makes of a stale turn: it does not run any more, and ends when it was cancelled. -/
def Turn.Swept (turn ended : Turn) : Prop :=
  ended.id = turn.id ∧ ended.status.isRunning = false ∧
    (turn.cancelRequested = true → ended.status = .cancelled)

theorem convergeStaleTurn_ends (ok : StoreOk store) (now : Time) (member : turn ∈ store.turns)
    (running : turn.status.isRunning = true) :
    ∃ after, store.convergeStaleTurn now turn = .ok after ∧ ∃ ended ∈ after.turns, turn.Swept ended := by
  simp only [Store.convergeStaleTurn]
  split
  · rename_i retried
    simp only [Bool.and_eq_true, Bool.not_eq_true', decide_eq_true_eq] at retried
    rw [ok.updateTurn_eq_rewrite member running]
    have requeued := (mem_of_turnById (ok.turnById_rewrite (f := Turn.requeue) member rfl)).1
    refine ⟨_, rfl, _, requeued, rfl, rfl, ?_⟩
    intro requested
    rw [retried.1] at requested
    simp at requested
  · rw [ok.updateTurn_eq_rewrite member running, ok.fillBlankOf_rewrite member rfl]
    apply conclude_ends ok member
    · rfl
    · intro ended here status
      refine ⟨here, ?_, ?_⟩
      · rw [status]
        cases turn.cancelRequested <;> rfl
      · intro requested
        rw [status, requested]
        rfl

theorem convergeStaleTurns_ends (now : Time) (rows : List Turn)
    (distinct : (rows.map Turn.id).Nodup) (ok : StoreOk store)
    (selected : ∀ turn ∈ rows, turn ∈ store.turns ∧ turn.status.isRunning = true) :
    ∃ after, rows.foldlM (fun store row => store.convergeStaleTurn now row) store =
        Except.ok after ∧ (∀ turn ∈ rows, ∃ ended ∈ after.turns, turn.Swept ended) ∧
      ∀ other ∈ store.turns, other.id ∉ rows.map Turn.id → other ∈ after.turns := by
  induction rows generalizing store with
  | nil => exact ⟨store, rfl, by simp, fun _ member _ => member⟩
  | cons turn rest ih =>
    rw [List.map_cons, List.nodup_cons] at distinct
    obtain ⟨member, running⟩ := selected turn (by simp)
    obtain ⟨middle, first, ended, endedMember, swept⟩ :=
      convergeStaleTurn_ends ok now member running
    obtain ⟨steps, keeps⟩ : TurnSteps sampleEnvironment anyDeed store middle ∧ _ :=
      convergeStaleTurn_steps ok member running first
    obtain ⟨last, later, sweptLater, keptLater⟩ :=
      ih distinct.2 (ok.steps steps) (selected_rest distinct.1 selected keeps)
    refine ⟨last, ?_, ?_, ?_⟩
    · rw [List.foldlM_cons, first]
      exact later
    · intro row listed
      rcases List.mem_cons.mp listed with rfl | inRest
      · refine ⟨ended, keptLater ended endedMember ?_, swept⟩
        rw [swept.1]
        exact distinct.1
      · exact sweptLater row inRest
    · intro other there unlisted
      simp only [List.map_cons, List.mem_cons, not_or] at unlisted
      exact keptLater other (keeps other there unlisted.1) unlisted.2

theorem Store.dropIdleLeases_active (store : Store) {state : ExecutionState} {active : Nat}
    (found : state ∈ store.dropIdleLeases.executionStates) (holds : state.activeTurnId = some active) :
    ∃ turn ∈ store.turns, turn.id = active ∧ turn.status.isRunning = true := by
  rcases mem_updateWhere.mp found with ⟨old, _, _, rfl⟩ | ⟨_, skipped⟩
  · simp [ExecutionState.dropLease] at holds
  · simpa [holds] using skipped

/-- The sweep does not raise, every stale turn it finds stops running, and every lease that is left
belongs to a running turn. -/
theorem requeueStaleTurns_ends (env : Environment) (ok : StoreOk store) (staleAfterSeconds : Nat) (now dbNow : Time) :
    ∃ after, store.requeueStaleTurns env staleAfterSeconds now dbNow = .ok after ∧
      (∀ turn ∈ store.turns, turn.isStale (staleSeconds env staleAfterSeconds) dbNow = true →
        ∃ ended ∈ after.turns, turn.Swept ended) ∧
      ∀ state ∈ after.executionStates, ∀ active, state.activeTurnId = some active →
        ∃ turn ∈ after.turns, turn.id = active ∧ turn.status.isRunning = true := by
  obtain ⟨distinct, selected⟩ := staleTurns_selected ok (staleSeconds env staleAfterSeconds) dbNow
  obtain ⟨middle, converged, swept, _⟩ := convergeStaleTurns_ends now _ distinct ok selected
  refine ⟨middle.dropIdleLeases, ?_, ?_, ?_⟩
  · simp only [Store.requeueStaleTurns, converged, bind, Except.bind, pure, Except.pure]
  · intro turn member stale
    exact swept turn (List.mem_filter.mpr ⟨member, stale⟩)
  · intro state found active holds
    exact middle.dropIdleLeases_active found holds

/-! ### The claim and the worker -/

theorem claimTurnResult_ends (env : Environment) (ok : StoreOk store) {userId : Nat}
    (workerId : String) (staleAfterSeconds : Nat) (now dbNow : Time) (member : turn ∈ store.turns)
    (owned : store.owns userId turn = true) (requested : turn.cancelRequested = true)
    (stale : turn.isStale (staleSeconds env staleAfterSeconds) dbNow = true) :
    ∃ after, store.claimTurnResult env userId turn.id workerId staleAfterSeconds now dbNow = .ok (after, .cancelled) ∧
      ∃ ended ∈ after.turns, ended.id = turn.id ∧ ended.status = .cancelled := by
  obtain ⟨after, converged, ended⟩ : ∃ after,
      (store.rewriteTurn turn.id Turn.requeue).convergeCancelled turn.id now = .ok after ∧
        ∃ ended ∈ after.turns, ended.id = turn.id ∧ ended.status = .cancelled := by
    rw [ok.convergeCancelled_requeue member]
    apply conclude_ends ok member
    · rfl
    · exact fun ended sameId status => ⟨sameId, status⟩
  refine ⟨after, ?_, ended⟩
  simp only [Store.claimTurnResult, ok.getTurn_eq member owned, ok.updateTurn_eq_rewrite member stale,
    ok.getTurn_rewrite (f := Turn.requeue) member owned rfl]
  have flagged : turn.requeue.cancelRequested = true := requested
  rw [if_neg (by simp [Turn.requeue]), if_pos flagged, converged]
  rfl

theorem failTurnResult_ends (ok : StoreOk store) {call : Abandonment} (now : Time)
    (found : store.getTurn call.userId call.turnId = some turn) (unfinished : turn.status.isNonTerminal = true)
    (passes : store.admits call.turnId call.workerId call.fencingToken = true) :
    ∃ after finalized, store.failTurnResult call now = .ok (after, some finalized) ∧
      ∃ ended ∈ after.turns, ended.id = turn.id ∧
        ended.status = if call.cancelled then .cancelled else .failed := by
  obtain ⟨member, here, owned⟩ := mem_of_getTurn found
  have failable : store.failable call.userId turn = true := by
    rw [Store.failable, unfinished, owned]
    rfl
  have selected : (store.turns.any fun row =>
      row.id == call.turnId && store.failable call.userId row) = true :=
    List.any_eq_true.mpr ⟨turn, member, by simp [here, failable]⟩
  obtain ⟨last, appended, ended⟩ : ∃ last, ((store.rewriteTurn turn.id fun turn =>
        (turn.conclude (if call.cancelled then .cancelled else .failed)
          (Python.clip 1000 call.message) now).leaveWorker).fillBlank turn.assistantMessageId
          (if call.cancelled then stoppedText else
            "生成失败：" ++ Python.clip 500 call.message)).appendTerminalEvents turn.id
        (call.terminalEventsBuilder ((turn.conclude (if call.cancelled then .cancelled else .failed)
          (Python.clip 1000 call.message) now).leaveWorker)) now = .ok last ∧
      ∃ ended ∈ last.turns, ended.id = turn.id ∧
        ended.status = if call.cancelled then .cancelled else .failed := by
    apply conclude_ends ok member
    · rfl
    · exact fun ended sameId status => ⟨sameId, status⟩
  refine ⟨last, (turn.conclude (if call.cancelled then .cancelled else .failed)
    (Python.clip 1000 call.message) now).leaveWorker, ?_, ended⟩
  have finalized (text : String) (f : Turn → Turn) (same : (f turn).identity = turn.identity) :
      ((store.rewriteTurn turn.id f).fillBlank turn.assistantMessageId text).turnById turn.id =
        some (f turn) := ok.turnById_rewrite member same
  simp only [Store.failTurnResult, found, passes, selected, bind, Except.bind, pure, Except.pure,
    Bool.true_eq_false, if_false, if_true]
  rw [← here, ok.updateTurn_eq_rewrite member failable, finalized]
  · simp only [Option.getD_some, appended]
  · rfl

theorem completeTurnResult_refused {call : Completion}
    (stopped : ∀ turn, store.getTurn call.userId call.turnId = some turn → store.fencePasses turn call = false) :
    store.exec env (.completeTurnResult call now) = store := by
  cases found : store.getTurn call.userId call.turnId with
  | none =>
    simp [Store.exec, Store.completeTurnResult, found, Store.commit, Except.map, throw, throwThe,
      MonadExceptOf.throw]
  | some turn =>
    cases fenced : store.fenceCompletion turn call with
    | error =>
      simp [Store.exec, Store.completeTurnResult, found, fenced, Store.commit, Except.map, bind, Except.bind]
    | ok =>
      have passes := (fenceCompletion_spec fenced).1
      rw [stopped turn found] at passes
      simp at passes

theorem failTurnResult_finished {call : Abandonment}
    (finished : ∀ turn ∈ store.turns, turn.id = call.turnId → turn.status.isNonTerminal = false) :
    store.exec env (.failTurnResult call now) = store := by
  cases found : store.getTurn call.userId call.turnId with
  | none =>
    simp [Store.exec, Store.failTurnResult, found, Store.commit, Except.map, pure, Except.pure]
  | some turn =>
    have skipped : (store.turns.any fun turn =>
        turn.id == call.turnId && store.failable call.userId turn) = false := by
      rw [List.any_eq_false]
      intro row member selected
      simp only [Bool.and_eq_true, beq_iff_eq, Store.failable] at selected
      rw [finished row member selected.1] at selected
      simp at selected
    cases passes : store.admits call.turnId call.workerId call.fencingToken with
    | false =>
      simp [Store.exec, Store.failTurnResult, found, passes, Store.commit, Except.map, bind,
        Except.bind, throw, throwThe, MonadExceptOf.throw]
    | true =>
      simp [Store.exec, Store.failTurnResult, found, passes, skipped, Store.commit, Except.map, pure, Except.pure]

end HardwareDatabase.Conversation
