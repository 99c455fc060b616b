/-
Module: HardwareDatabase.Proofs.HumanDecisions
Purpose: A pending proposal of a harness run is consumed by the decision that is accepted; a repeat of that call is
  answered with its event.
Trusted boundary: none
-/
import HardwareDatabase.Proofs.HarnessSteps

namespace HardwareDatabase.Harness

open Relational

variable {sha256 : String → String} {tables after : Tables} {call : DecisionCall} {now : Nat}

/-! ### Accepted, repeated and mismatched calls -/

/-- The stored event that answers a call before any check of the run. -/
def storedAnswer (sha256 : String → String) (tables : Tables) (call : DecisionCall) : Option ExecutionEvent :=
  match decisionEventKey sha256 call with
  | .error _ => none
  | .ok (_, eventKey) => tables.event? call.runId eventKey

/-- The call goes through on its own, and returns the event that it writes. -/
structure Accepted (sha256 : String → String) (tables : Tables) (call : DecisionCall) (now : Nat)
    (event : ExecutionEvent) : Prop where
  unanswered : storedAnswer sha256 tables call = none
  done : ∃ run after, resolveHarnessHumanDecision sha256 tables call now = .ok (run, event, after)

/-- `other` makes the same decision under the same key, on the same proposal and for the same tenant. -/
structure DecisionCall.RepeatedBy (call other : DecisionCall) : Prop where
  run : other.runId = call.runId
  pendingEvent : other.pendingEventId = call.pendingEventId
  proposal : other.proposalHash = call.proposalHash
  decision : normalizedDecision other.decision = normalizedDecision call.decision
  key : other.decisionKey = call.decisionKey
  tenant : other.tenantId = call.tenantId

/-- An earlier step of the run accepted this call. -/
def Repeats (sha256 : String → String) (before : List Op) (call : DecisionCall) : Prop :=
  ∃ first earlier lag rest event, before = first ++ .resolve earlier lag :: rest ∧
    Accepted sha256 ((harness sha256).run first).tables earlier
      (((harness sha256).run first).clock - lag) event ∧
    earlier.RepeatedBy call

/-- The call names a tenant, and it is not the run's. -/
def OtherTenant (run : HarnessRun) (call : DecisionCall) : Prop :=
  ∃ tenantId, call.tenantId = some tenantId ∧ run.tenantId ≠ tenantId

/-- The run has no pending event of that identifier. -/
def OtherEvent (run : HarnessRun) (call : DecisionCall) : Prop :=
  ∀ pending, run.pendingHumanEvent = some pending → pending.eventId.getD "" ≠ call.pendingEventId

/-- The run has no pending event on that proposal. -/
def OtherProposal (run : HarnessRun) (call : DecisionCall) : Prop :=
  ∀ pending, run.pendingHumanEvent = some pending → pending.proposalHash.getD "" ≠ call.proposalHash

/-- The pending event of the run has expired. -/
def Expired (run : HarnessRun) (now : Nat) : Prop :=
  ∃ pending instant, run.pendingHumanEvent = some pending ∧ pending.expiresAt = .at instant ∧
    instant ≤ now

/-- The call is for another tenant; or it repeats no accepted call, and its event or its proposal does not
match the run or its event has expired. -/
def Mismatched (sha256 : String → String) (before : List Op) (call : DecisionCall) (lag : Nat) : Prop :=
  ∃ run, ((harness sha256).run before).tables.run? call.runId = some run ∧
    (OtherTenant run call ∨
      (¬ Repeats sha256 before call ∧
        (OtherEvent run call ∨ OtherProposal run call ∨
          Expired run (((harness sha256).run before).clock - lag))))

/-! ### The property and its condition -/

/-- What a run of the store owes to the human decisions in it. -/
structure DecisionsConsumedOnce (sha256 : String → String) (ops : List Op) : Prop where
  -- between two accepted decisions the event of the second has been proposed
  once : ∀ first call lag middle again lagAgain rest event eventAgain,
    ops = first ++ .resolve call lag :: (middle ++ .resolve again lagAgain :: rest) →
    Accepted sha256 ((harness sha256).run first).tables call
      (((harness sha256).run first).clock - lag) event →
    Accepted sha256 ((harness sha256).run (first ++ .resolve call lag :: middle)).tables again
      (((harness sha256).run (first ++ .resolve call lag :: middle)).clock - lagAgain) eventAgain →
    again.runId = call.runId →
    ∃ earlier op later pending after, middle = earlier ++ op :: later ∧
      op.Proposes call.runId pending ∧ pending.eventId.getD "" = again.pendingEventId ∧
      ((harness sha256).run (first ++ .resolve call lag :: earlier)).attempt sha256 op = .ok after
  -- a call that is not accepted changes nothing
  untouched : ∀ before call lag rest, ops = before ++ .resolve call lag :: rest →
    (∀ event, ¬ Accepted sha256 ((harness sha256).run before).tables call
      (((harness sha256).run before).clock - lag) event) →
    ((harness sha256).run (before ++ [.resolve call lag])).tables = ((harness sha256).run before).tables
  -- a repeat of an accepted call is answered with its event and changes nothing
  repeated : ∀ first call lag middle again lagAgain rest event,
    ops = first ++ .resolve call lag :: (middle ++ .resolve again lagAgain :: rest) →
    Accepted sha256 ((harness sha256).run first).tables call
      (((harness sha256).run first).clock - lag) event →
    call.RepeatedBy again →
    ∃ run, resolveHarnessHumanDecision sha256
        ((harness sha256).run (first ++ .resolve call lag :: middle)).tables again
        (((harness sha256).run (first ++ .resolve call lag :: middle)).clock - lagAgain) =
      .ok (run, event, ((harness sha256).run (first ++ .resolve call lag :: middle)).tables)
  -- a mismatched call raises and changes nothing
  refused : ∀ before call lag rest, ops = before ++ .resolve call lag :: rest →
    Mismatched sha256 before call lag →
    (∃ failure, resolveHarnessHumanDecision sha256 ((harness sha256).run before).tables call
        (((harness sha256).run before).clock - lag) = .error failure) ∧
      ((harness sha256).run (before ++ [.resolve call lag])).tables =
        ((harness sha256).run before).tables

/-- No mismatched call of the run carries a decision key under which its run has an event. -/
def KeysNotReused (sha256 : String → String) (ops : List Op) : Prop :=
  ∀ before call lag rest, ops = before ++ .resolve call lag :: rest →
    Mismatched sha256 before call lag →
      storedAnswer sha256 ((harness sha256).run before).tables call = none

/-! ### One call -/

private theorem checkDecision_cases {run : HarnessRun} {pending : PendingEvent}
    (passed : checkDecision run call now = .ok pending) :
    ¬ OtherTenant run call ∧ run.pendingHumanEvent = some pending ∧ pending.eventId.getD "" = call.pendingEventId ∧
      pending.proposalHash.getD "" = call.proposalHash ∧ ¬ Expired run now := by
  unfold checkDecision at passed
  split at passed
  · cases passed
  · next sameTenant =>
      have tenant : ¬ OtherTenant run call := by
        rintro ⟨tenantId, named, apart⟩
        simp [named, apart] at sameTenant
      split at passed
      · cases passed
      · split at passed
        · cases passed
        · next stored held =>
            split at passed
            · cases passed
            · next sameEvent =>
                split at passed
                · cases passed
                · next sameProposal =>
                    obtain ⟨checked, unexpired, done⟩ := exists_of_bind_eq_ok passed
                    cases done
                    refine ⟨tenant, held, not_not.mp sameEvent, not_not.mp sameProposal, ?_⟩
                    rintro ⟨other, instant, otherHeld, expires, past⟩
                    rw [held] at otherHeld
                    cases otherHeld
                    simp [checkExpiry, expires, past] at unexpired

variable {event : ExecutionEvent}

private theorem resolve_of_storedAnswer {run : HarnessRun}
    (answer : storedAnswer sha256 tables call = some event) (found : tables.run? call.runId = some run) :
    resolveHarnessHumanDecision sha256 tables call now = .ok (run, event, tables) := by
  unfold storedAnswer at answer
  unfold resolveHarnessHumanDecision
  cases keyed : decisionEventKey sha256 call with
  | error => simp [keyed] at answer
  | ok =>
    simp only [keyed] at answer
    simp only [bind, Except.bind, getRunForUpdate_eq found, answer]

private theorem checks_of_resolve {run : HarnessRun} (unanswered : storedAnswer sha256 tables call = none)
    (done : resolveHarnessHumanDecision sha256 tables call now = .ok (run, event, after)) :
    ∃ decision eventKey current pending, decisionEventKey sha256 call = .ok (decision, eventKey) ∧
      tables.run? call.runId = some current ∧ checkDecision current call now = .ok pending ∧
      run = current.decided pending decision now ∧
      event = decisionEvent tables current pending call decision eventKey now ∧
      after = { tables.setRun call.runId run with events := tables.events ++ [event] } ∧
      tables.event? call.runId eventKey = none := by
  obtain ⟨decision, eventKey, current, keyed, found, ⟨answer, -, -⟩ | ⟨new, pending, checked, decided,
    written, put⟩⟩ := resolve_cases done
  · simp [storedAnswer, keyed, answer] at unanswered
  · obtain ⟨-, stored⟩ := putEvent_cases put
    exact ⟨decision, eventKey, current, pending, keyed, found, checked, decided, written, stored, new⟩

variable {lag : Nat} {state : ServiceState}

private theorem step_resolve {run : HarnessRun}
    (done : resolveHarnessHumanDecision sha256 state.tables call (state.clock - lag) = .ok (run, event, after)) :
    (state.step sha256 (.resolve call lag)).tables = after := by
  apply step_of_ok
  simp only [ServiceState.attempt, done, Except.map]

private theorem step_resolve_error {failure : Failure}
    (raised : resolveHarnessHumanDecision sha256 state.tables call (state.clock - lag) = .error failure) :
    (state.step sha256 (.resolve call lag)).tables = state.tables := by
  have lifted : state.attempt sha256 (.resolve call lag) = .error failure := by
    simp only [ServiceState.attempt, raised, Except.map]
  exact step_of_error lifted

private theorem step_of_not_accepted (refused : ∀ event, ¬ Accepted sha256 state.tables call (state.clock - lag) event) :
    (state.step sha256 (.resolve call lag)).tables = state.tables := by
  cases outcome : resolveHarnessHumanDecision sha256 state.tables call (state.clock - lag) with
  | error => exact step_resolve_error outcome
  | ok result =>
    obtain ⟨run, event, after⟩ := result
    rw [step_resolve outcome]
    cases answer : storedAnswer sha256 state.tables call with
    | none => exact absurd ⟨answer, run, after, outcome⟩ (refused event)
    | some =>
      obtain ⟨-, -, current, -, found, -⟩ := resolve_cases outcome
      rw [resolve_of_storedAnswer answer found] at outcome
      cases outcome
      rfl

private theorem raises_of_mismatched {before : List Op} (mismatched : Mismatched sha256 before call lag)
    (unanswered : storedAnswer sha256 ((harness sha256).run before).tables call = none) :
    ∃ failure, resolveHarnessHumanDecision sha256 ((harness sha256).run before).tables call
      (((harness sha256).run before).clock - lag) = .error failure := by
  cases outcome : resolveHarnessHumanDecision sha256 ((harness sha256).run before).tables call
      (((harness sha256).run before).clock - lag) with
  | error failure => exact ⟨failure, rfl⟩
  | ok result =>
    obtain ⟨run, event, after⟩ := result
    obtain ⟨-, -, current, pending, -, found, checked, -⟩ := checks_of_resolve unanswered outcome
    obtain ⟨tenant, held, sameEvent, sameProposal, unexpired⟩ := checkDecision_cases checked
    obtain ⟨other, otherFound, apart⟩ := mismatched
    rw [found] at otherFound
    cases otherFound
    obtain otherTenant | ⟨-, otherEvent | otherProposal | expired⟩ := apart
    · exact absurd otherTenant tenant
    · exact absurd sameEvent (otherEvent pending held)
    · exact absurd sameProposal (otherProposal pending held)
    · exact absurd expired unexpired

/-! ### After an accepted call -/

private theorem after_accepted (accepted : Accepted sha256 state.tables call (state.clock - lag) event) :
    (∃ run, (state.step sha256 (.resolve call lag)).tables.run? call.runId = some run ∧ run.pendingHumanEvent = none) ∧
    storedAnswer sha256 (state.step sha256 (.resolve call lag)).tables call = some event := by
  obtain ⟨unanswered, run, after, done⟩ := accepted
  obtain ⟨decision, eventKey, current, pending, keyed, found, -, rfl, rfl, rfl, new⟩ :=
    checks_of_resolve unanswered done
  have named := Tables.id_of_run? found
  rw [step_resolve done]
  constructor
  · refine ⟨current.decided pending decision (state.clock - lag), ?_, rfl⟩
    exact Tables.run?_setRun_self found named
  · unfold Tables.event? at new
    simp only [storedAnswer, keyed, Tables.event?]
    rw [List.find?_append, new, Option.none_or, List.find?_cons_of_pos]
    show (current.harnessRunId == call.runId && eventKey == eventKey) = true
    rw [named, beq_self_eq_true, beq_self_eq_true]
    rfl

variable {first : List Op}

private theorem storedAnswer_stays
    (stored : storedAnswer sha256 ((harness sha256).run first).tables call = some event) (second : List Op) :
    storedAnswer sha256 ((harness sha256).run (first ++ second)).tables call = some event := by
  apply Machine.stable (fun state : ServiceState => storedAnswer sha256 state.tables call = some event)
  · intro before op answered
    obtain ⟨added, grown⟩ := (step_written sha256 ((harness sha256).run before) op).events
    unfold storedAnswer at answered ⊢
    cases keyed : decisionEventKey sha256 call with
    | error => simp [keyed] at answered
    | ok =>
      simp only [keyed] at answered ⊢
      unfold Tables.event? at answered ⊢
      change List.find? _ (((harness sha256).run before).step sha256 op).tables.events = some event
      rw [grown, List.find?_append, answered]
      rfl
  · exact stored

private theorem DecisionCall.RepeatedBy.storedAnswer_eq {again : DecisionCall} (same : call.RepeatedBy again) :
    storedAnswer sha256 tables again = storedAnswer sha256 tables call := by
  have keys : decisionEventKey sha256 again = decisionEventKey sha256 call := by
    simp only [decisionEventKey, same.decision, same.key]
  simp only [storedAnswer, keys, same.run]

private theorem pending_step {op : Op} {runId : String} {run later : HarnessRun}
    {pending : PendingEvent} (found : state.tables.run? runId = some run)
    (laterFound : (state.step sha256 op).tables.run? runId = some later)
    (held : later.pendingHumanEvent = some pending) : run.pendingHumanEvent = some pending ∨
      (op.Proposes runId pending ∧ ∃ after, state.attempt sha256 op = .ok after) := by
  cases outcome : state.attempt sha256 op with
  | error =>
    rw [step_of_error outcome, found] at laterFound
    cases laterFound
    exact .inl held
  | ok after =>
    rw [step_of_ok outcome] at laterFound
    obtain ⟨next, nextFound, follows⟩ := (attempt_written outcome).runs found
    rw [laterFound] at nextFound
    cases nextFound
    exact (follows.pending pending held).imp id fun proposes => ⟨proposes, after, rfl⟩

private theorem proposed_between {runId : String} {run : HarnessRun}
    (found : ((harness sha256).run first).tables.run? runId = some run)
    (consumed : run.pendingHumanEvent = none) {pending : PendingEvent} : ∀ {middle : List Op} {later : HarnessRun},
      ((harness sha256).run (first ++ middle)).tables.run? runId = some later → later.pendingHumanEvent = some pending →
      ∃ earlier op rest after, middle = earlier ++ op :: rest ∧ op.Proposes runId pending ∧
        ((harness sha256).run (first ++ earlier)).attempt sha256 op = .ok after := by
  intro middle
  induction middle using List.reverseRecOn with
  | nil =>
    intro later laterFound held
    rw [List.append_nil, found] at laterFound
    cases laterFound
    rw [consumed] at held
    cases held
  | append_singleton middle op ih =>
    intro later laterFound held
    obtain ⟨here, hereFound, -⟩ := run_stays found middle
    rw [← List.append_assoc, run_concat_step] at laterFound
    obtain before | ⟨proposes, after, done⟩ := pending_step hereFound laterFound held
    · obtain ⟨earlier, proposal, rest, after, rfl, proposes, done⟩ :=
        ih hereFound before
      exact ⟨earlier, proposal, rest ++ [op], after, by simp, proposes, done⟩
    · exact ⟨middle, op, [], after, rfl, proposes, done⟩

/-! ### Whole runs -/

private theorem concat_run {op : Op} {middle : List Op} :
    (harness sha256).run (first ++ op :: middle) = (harness sha256).run ((first ++ [op]) ++ middle) := by
  rw [List.append_assoc, List.singleton_append]

/-- The run of the store consumes every human decision once exactly where no mismatched call carries a key
that has been used. -/
theorem decisions_consumed_once_iff (sha256 : String → String) (ops : List Op) :
    DecisionsConsumedOnce sha256 ops ↔ KeysNotReused sha256 ops := by
  constructor
  · intro owed before call lag rest split mismatched
    obtain ⟨⟨failure, raised⟩, -⟩ := owed.refused before call lag rest split mismatched
    obtain ⟨run, found, -⟩ := mismatched
    cases answer : storedAnswer sha256 ((harness sha256).run before).tables call with
    | none => rfl
    | some =>
      rw [resolve_of_storedAnswer answer found] at raised
      cases raised
  · intro fresh
    constructor
    · intro first call lag middle again lagAgain rest event eventAgain split accepted acceptedAgain same
      obtain ⟨⟨run, found, consumed⟩, -⟩ := after_accepted accepted
      obtain ⟨unanswered, runAgain, after, done⟩ := acceptedAgain
      obtain ⟨-, -, current, pending, -, currentFound, checked, -⟩ := checks_of_resolve unanswered done
      obtain ⟨-, held, sameEvent, -⟩ := checkDecision_cases checked
      rw [same, concat_run] at currentFound
      have start : ((harness sha256).run (first ++ [.resolve call lag])).tables.run? call.runId =
          some run := by
        rw [run_concat_step]
        exact found
      obtain ⟨earlier, op, later, proposed, rfl, proposes, wrote⟩ :=
        proposed_between start consumed currentFound held
      rw [← concat_run] at wrote
      exact ⟨earlier, op, later, pending, proposed, rfl, proposes, sameEvent, wrote⟩
    · intro before call lag rest split refused
      rw [run_concat_step]
      exact step_of_not_accepted refused
    · intro first call lag middle again lagAgain rest event split accepted same
      obtain ⟨⟨run, found, -⟩, stored⟩ := after_accepted accepted
      have start : ((harness sha256).run (first ++ [.resolve call lag])).tables =
          (((harness sha256).run first).step sha256 (.resolve call lag)).tables := by
        rw [run_concat_step]
      rw [← start] at found stored
      obtain ⟨later, laterFound, -⟩ := run_stays found middle
      rw [concat_run]
      refine ⟨later, ?_⟩
      apply resolve_of_storedAnswer
      · rw [same.storedAnswer_eq]
        exact storedAnswer_stays stored middle
      · rw [same.run]
        exact laterFound
    · intro before call lag rest split mismatched
      obtain ⟨failure, raised⟩ :=
        raises_of_mismatched mismatched (fresh before call lag rest split mismatched)
      refine ⟨⟨failure, raised⟩, ?_⟩
      rw [run_concat_step]
      exact step_resolve_error raised

/-! ### A decision of another tenant under a used key -/

/-- The digest of the event key below. -/
def sampleKeySha256 (_ : String) : String :=
  "f7f79c39a93472c16c823c4b171abee9b63bf3bb416563cae638f3f14d8dcc48"

/-- A worker asks for a decision on one proposal, and it is approved. -/
def approvedOnce : List Op :=
  [.createRun
      { harnessRunId := "run-1", workOrderId := "order-1", tenantId := "tenant-a", status := .queued,
        currentNode := "initialize", unitStatuses := [], retryCount := 0, maxRetries := 1,
        leaseOwner := none, fencingToken := 0, leaseExpiresAt := none, heartbeatAt := none,
        error := none, lastErrorCode := none, pendingHumanEvent := none, agentThreadId := none,
        updatedAt := 0 },
    .claim "run-1" "worker-1" 60 0,
    .update "run-1" "worker-1" 1
      { status := some .waitingHuman, currentNode := some "await_human"
        pendingHumanEvent := some (some
          { eventId := some "pending-1", proposalHash := some "proposal-1", fieldId := some "field-1",
            expiresAt := .at 1800000000 }) } 0,
    .resolve
      { runId := "run-1", pendingEventId := "pending-1", proposalHash := "proposal-1",
        decision := "approve", decisionKey := "decision-1", actorId := "user-a",
        tenantId := some "tenant-a", uuid := "1" } 0]

/-- A user of another tenant makes the same decision again. -/
def foreignDecision : DecisionCall :=
  { runId := "run-1", pendingEventId := "pending-1", proposalHash := "proposal-1",
    decision := "approve", decisionKey := "decision-1", actorId := "user-b",
    tenantId := some "tenant-b", uuid := "2" }

/-- The call of the other tenant is answered with the event of the first decision. -/
theorem used_key_answers_other_tenant : ¬ ∀ ops, DecisionsConsumedOnce sampleKeySha256 ops := by
  intro always
  have foreign : Mismatched sampleKeySha256 approvedOnce foreignDecision 0 := by
    refine ⟨_, rfl, .inl ⟨"tenant-b", rfl, ?_⟩⟩
    decide
  obtain ⟨⟨failure, raised⟩, -⟩ := (always (approvedOnce ++ [.resolve foreignDecision 0])).refused
    approvedOnce foreignDecision 0 [] rfl foreign
  have answered : (resolveHarnessHumanDecision sampleKeySha256
      ((harness sampleKeySha256).run approvedOnce).tables foreignDecision
      (((harness sampleKeySha256).run approvedOnce).clock - 0)).isOk = true := by
    decide
  rw [raised] at answered
  cases answered

end HardwareDatabase.Harness
