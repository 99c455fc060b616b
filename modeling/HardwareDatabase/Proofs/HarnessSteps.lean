/-
Module: HardwareDatabase.Proofs.HarnessSteps
Purpose: What a transaction on the harness tables can do: one inversion lemma per function, and `attempt_written` for
  any operation.
Trusted boundary: none
-/
import HardwareDatabase.Harness.Service

namespace HardwareDatabase.Harness

open Relational

variable {sha256 : String → String} {tables after : Tables}

/-! ### Lookups -/

variable {runId : String}

theorem run?_of_getRunForUpdate {run : HarnessRun}
    (found : getRunForUpdate tables runId = .ok run) : tables.run? runId = some run := by
  unfold getRunForUpdate at found
  split at found
  · cases found
  · next other stored =>
      cases found
      exact stored

theorem Tables.id_of_run? {run : HarnessRun} (found : tables.run? runId = some run) : run.harnessRunId = runId := by
  simpa using List.find?_some found

variable {receipt : Receipt} {receiptId : String}

theorem Tables.id_of_receipt? (found : tables.receipt? receiptId = some receipt) : receipt.receiptId = receiptId := by
  simpa using List.find?_some found

theorem Tables.mem_of_receipt? (found : tables.receipt? receiptId = some receipt) : receipt ∈ tables.receipts :=
  List.mem_of_find?_eq_some found

variable {revised : HarnessRun}

theorem Tables.run?_setRun_self {run : HarnessRun}
    (found : tables.run? runId = some run) (kept : revised.harnessRunId = runId) :
    (tables.setRun runId revised).run? runId = some revised := by
  unfold Tables.run? Tables.setRun
  rw [find?_updateWhere_self _ (fun _ _ => by simp [kept])]
  unfold Tables.run? at found
  rw [found]
  rfl

theorem Tables.run?_setRun_other {other : String} (apart : other ≠ runId) (kept : revised.harnessRunId = runId) :
    (tables.setRun runId revised).run? other = tables.run? other := by
  unfold Tables.run? Tables.setRun
  apply find?_updateWhere
  · intro row named
    simp only [beq_iff_eq] at named
    simp [named, apart.symm]
  · intro row named
    simp [kept, apart.symm]

variable {now : Nat}

theorem lease_of_require {run : HarnessRun} {owner : String} {token : Nat} {done : Unit}
    (held : requireActiveLease run owner token now = .ok done) : leaseActive run owner token now = true := by
  unfold requireActiveLease at held
  split at held
  · assumption
  · cases held

theorem getRunForUpdate_eq {run : HarnessRun} (found : tables.run? runId = some run) :
    getRunForUpdate tables runId = .ok run := by
  simp only [getRunForUpdate, found]

theorem requireActiveLease_eq {run : HarnessRun} {owner : String} {token : Nat}
    (active : leaseActive run owner token now = true) : requireActiveLease run owner token now = .ok () := by
  simp only [requireActiveLease, active, if_true]

/-! ### One inversion per function

What a call that succeeds has found and what it has written; later proofs unfold no function of the store. -/

variable {event : ExecutionEvent}

section
variable {runId owner : String} {token now : Nat}

theorem claim_cases {leaseSeconds : Int} (done : claimHarnessRun tables runId owner leaseSeconds now = .ok after) :
    ∃ current, tables.run? runId = some current ∧
      after = tables.setRun runId (current.claimed owner leaseSeconds now) := by
  unfold claimHarnessRun at done
  obtain ⟨current, found, done⟩ := exists_of_bind_eq_ok done
  split at done
  · cases done
  · split at done
    · cases done
    · cases done
      exact ⟨current, run?_of_getRunForUpdate found, rfl⟩

theorem update_cases {updates : RunUpdates}
    (done : updateHarnessRunOwned tables runId owner token updates now = .ok after) :
    ∃ current, tables.run? runId = some current ∧ leaseActive current owner token now = true ∧
      after = tables.setRun runId (current.updated updates now) := by
  unfold updateHarnessRunOwned at done
  obtain ⟨current, found, done⟩ := exists_of_bind_eq_ok done
  obtain ⟨checked, held, done⟩ := exists_of_bind_eq_ok done
  cases done
  exact ⟨current, run?_of_getRunForUpdate found, lease_of_require held, rfl⟩

theorem requestState_cases {target : RunStatus} (done : requestHarnessRunState tables runId target now = .ok after) :
    ∃ current, tables.run? runId = some current ∧ after = tables.setRun runId (current.revoked target now) := by
  unfold requestHarnessRunState at done
  split at done
  · cases done
  · obtain ⟨current, found, done⟩ := exists_of_bind_eq_ok done
    split at done
    · cases done
    · cases done
      exact ⟨current, run?_of_getRunForUpdate found, rfl⟩

theorem queueRetry_cases {maxRetries : Nat} (done : queueHarnessRetry tables runId maxRetries now = .ok after) :
    ∃ current, tables.run? runId = some current ∧ after = tables.setRun runId (current.requeued maxRetries now) := by
  unfold queueHarnessRetry at done
  obtain ⟨current, found, done⟩ := exists_of_bind_eq_ok done
  split at done
  · cases done
  · split at done
    · cases done
    · cases done
      exact ⟨current, run?_of_getRunForUpdate found, rfl⟩

theorem saveCheckpoint_cases {checkpoint : Checkpoint}
    (done : saveHarnessCheckpointOwned tables checkpoint owner token now = .ok after) :
    ∃ run checkpoints, tables.run? checkpoint.harnessRunId = some run ∧
      leaseActive run owner token now = true ∧ after = { tables with checkpoints } := by
  unfold saveHarnessCheckpointOwned at done
  obtain ⟨run, found, done⟩ := exists_of_bind_eq_ok done
  obtain ⟨checked, held, done⟩ := exists_of_bind_eq_ok done
  split at done <;> cases done
  all_goals exact ⟨run, _, run?_of_getRunForUpdate found, lease_of_require held, rfl⟩

theorem putReceipt_cases (done : tables.putReceipt receipt = .ok after) :
    (∀ other ∈ tables.receipts, other.receiptId ≠ receipt.receiptId ∧ other.key ≠ receipt.key) ∧
      after = { tables with receipts := tables.receipts ++ [receipt] } := by
  unfold Tables.putReceipt at done
  split at done
  · cases done
  · next unused =>
      cases done
      refine ⟨?_, rfl⟩
      intro other member
      simp only [List.any_eq_true, not_exists, not_and, Bool.or_eq_true, not_or, beq_iff_eq] at unused
      exact (unused other member).1

theorem beginNode_cases {result : Receipt}
    (done : beginNodeExecutionOwned tables receipt owner token now = .ok (result, after)) :
    ∃ run, tables.run? receipt.harnessRunId = some run ∧ leaseActive run owner token now = true ∧
      ((result ∈ tables.receipts ∧ result.status = .committed ∧ after = tables) ∨
        (∃ existing ∈ tables.receipts, existing.status ≠ .committed ∧
          after = tables.setReceipt existing.receiptId (existing.restarted token)) ∨
        tables.putReceipt receipt = .ok after) := by
  unfold beginNodeExecutionOwned at done
  obtain ⟨run, found, done⟩ := exists_of_bind_eq_ok done
  obtain ⟨checked, held, done⟩ := exists_of_bind_eq_ok done
  refine ⟨run, run?_of_getRunForUpdate found, lease_of_require held, ?_⟩
  split at done
  · next existing stored =>
      have member := List.mem_of_find?_eq_some stored
      split at done
      · next committed =>
          cases done
          exact .inl ⟨member, committed, rfl⟩
      · next uncommitted =>
          cases done
          exact .inr (.inl ⟨existing, member, uncommitted, rfl⟩)
  · obtain ⟨later, put, done⟩ := exists_of_bind_eq_ok done
    cases done
    exact .inr (.inr put)

theorem commitNode_cases {payload : String} {result : Receipt}
    (done : commitNodeExecutionOwned sha256 tables receiptId runId owner token payload now = .ok (result, after)) :
    ∃ run current, tables.run? runId = some run ∧ leaseActive run owner token now = true ∧
      tables.receipt? receiptId = some current ∧ ((current.status = .committed ∧ result = current ∧ after = tables) ∨
        (current.status ≠ .committed ∧
          after = tables.setReceipt receiptId (current.committedWith sha256 token payload now))) := by
  unfold commitNodeExecutionOwned at done
  obtain ⟨run, found, done⟩ := exists_of_bind_eq_ok done
  obtain ⟨checked, held, done⟩ := exists_of_bind_eq_ok done
  split at done
  · cases done
  · next current stored =>
      refine ⟨run, current, run?_of_getRunForUpdate found, lease_of_require held, stored, ?_⟩
      split at done
      · next committed =>
          cases done
          exact .inl ⟨committed, rfl, rfl⟩
      · next uncommitted =>
          cases done
          exact .inr ⟨uncommitted, rfl⟩

theorem failNode_cases {error : String}
    (done : failNodeExecutionOwned tables receiptId runId owner token error now = .ok after) :
    ∃ run current, tables.run? runId = some run ∧ leaseActive run owner token now = true ∧
      tables.receipt? receiptId = some current ∧
      after = tables.setReceipt receiptId (current.failedWith token error) := by
  unfold failNodeExecutionOwned at done
  obtain ⟨run, found, done⟩ := exists_of_bind_eq_ok done
  obtain ⟨checked, held, done⟩ := exists_of_bind_eq_ok done
  split at done
  · cases done
  · next current stored =>
      cases done
      exact ⟨run, current, run?_of_getRunForUpdate found, lease_of_require held, stored, rfl⟩

theorem saveDrafts_cases {workOrderId : String} {drafts : List (String × String)}
    {leaseOwner : Option String} {fencingToken : Option Nat}
    (done : saveUnitDrafts tables workOrderId runId drafts leaseOwner fencingToken now = .ok after) :
    (∀ owner token, leaseOwner = some owner → fencingToken = some token →
        ∃ run, tables.run? runId = some run ∧ leaseActive run owner token now = true) ∧
      ∃ rows, after = { tables with drafts := rows } := by
  unfold saveUnitDrafts at done
  obtain ⟨checked, fence, done⟩ := exists_of_bind_eq_ok done
  constructor
  · rintro owner token rfl rfl
    simp only [checkDraftFence] at fence
    split at fence
    · cases fence
    · obtain ⟨run, found, held⟩ := exists_of_bind_eq_ok fence
      exact ⟨run, run?_of_getRunForUpdate found, lease_of_require held⟩
  · split at done
    · cases done
    · cases done
      exact ⟨_, rfl⟩

theorem putEvent_cases (done : tables.putEvent event = .ok after) :
    tables.event? event.harnessRunId event.idempotencyKey = none ∧
      after = { tables with events := tables.events ++ [event] } := by
  unfold Tables.putEvent at done
  split at done
  · cases done
  · next unused =>
      split at done
      · cases done
      · cases done
        simp only [Bool.or_eq_true, not_or, Bool.not_eq_true, Option.isSome_eq_false_iff,
          Option.isNone_iff_eq_none] at unused
        exact ⟨unused.2, rfl⟩

theorem appendEvent_cases {stored : ExecutionEvent} (done : appendExecutionEvent tables event = .ok (stored, after)) :
    after = tables ∨ ∃ numbered, tables.putEvent numbered = .ok after := by
  unfold appendExecutionEvent at done
  split at done
  · cases done
    exact .inl rfl
  · obtain ⟨later, put, done⟩ := exists_of_bind_eq_ok done
    cases done
    exact .inr ⟨_, put⟩

end

theorem createRun_cases {run : HarnessRun} (done : createHarnessRun tables run = .ok after) :
    tables.run? run.harnessRunId = none ∧ after = { tables with runs := tables.runs ++ [run] } := by
  unfold createHarnessRun at done
  split at done
  · cases done
  · next unused =>
      cases done
      refine ⟨?_, rfl⟩
      simpa [Tables.run?] using unused

/-- A decision is answered by a stored event, or it passes the checks and writes the run and an event. -/
theorem resolve_cases {call : DecisionCall} {run : HarnessRun}
    (done : resolveHarnessHumanDecision sha256 tables call now = .ok (run, event, after)) :
    ∃ decision eventKey current, decisionEventKey sha256 call = .ok (decision, eventKey) ∧
      tables.run? call.runId = some current ∧
      ((tables.event? call.runId eventKey = some event ∧ run = current ∧ after = tables) ∨
        (tables.event? call.runId eventKey = none ∧ ∃ pending,
          checkDecision current call now = .ok pending ∧ run = current.decided pending decision now ∧
          event = decisionEvent tables current pending call decision eventKey now ∧
          (tables.setRun call.runId run).putEvent event = .ok after)) := by
  unfold resolveHarnessHumanDecision at done
  obtain ⟨⟨decision, eventKey⟩, keyed, done⟩ := exists_of_bind_eq_ok done
  obtain ⟨current, found, done⟩ := exists_of_bind_eq_ok done
  refine ⟨decision, eventKey, current, keyed, run?_of_getRunForUpdate found, ?_⟩
  simp only at done
  split at done
  · next stored answered =>
      cases done
      exact .inl ⟨answered, rfl, rfl⟩
  · next unanswered =>
      obtain ⟨pending, checked, done⟩ := exists_of_bind_eq_ok done
      obtain ⟨later, put, done⟩ := exists_of_bind_eq_ok done
      cases done
      exact .inr ⟨unanswered, pending, checked, rfl, rfl, put⟩

/-! ### Leases -/

/-- The lease that a call shows; `lag` is how far the instant it compares with lies behind the clock. -/
structure Lease where
  runId : String
  owner : String
  token : Nat
  lag : Nat
deriving Repr, DecidableEq

/-- The lease that an operation shows, where it is guarded by one. -/
def Op.lease : Op → Option Lease
  | .update runId owner token _ lag => some { runId, owner, token, lag }
  | .heartbeat runId owner token _ _ lag => some { runId, owner, token, lag }
  | .saveCheckpoint checkpoint owner token =>
    some { runId := checkpoint.harnessRunId, owner, token, lag := 0 }
  | .beginNode receipt owner token => some { runId := receipt.harnessRunId, owner, token, lag := 0 }
  | .commitNode _ runId owner token _ => some { runId, owner, token, lag := 0 }
  | .failNode _ runId owner token _ => some { runId, owner, token, lag := 0 }
  | .saveDrafts _ runId _ (some owner) (some token) => some { runId, owner, token, lag := 0 }
  | _ => none

variable {state : ServiceState} {op : Op}

theorem lease_held_of_ok {lease : Lease} (done : state.attempt sha256 op = .ok after)
    (shown : op.lease = some lease) : ∃ run, state.tables.run? lease.runId = some run ∧
      leaseActive run lease.owner lease.token (state.clock - lease.lag) = true := by
  cases op with
  | update | heartbeat =>
    cases shown
    obtain ⟨run, found, held, -⟩ := update_cases done
    exact ⟨run, found, held⟩
  | saveCheckpoint =>
    cases shown
    obtain ⟨run, rows, found, held, -⟩ := saveCheckpoint_cases done
    exact ⟨run, found, held⟩
  | beginNode =>
    cases shown
    simp only [ServiceState.attempt] at done
    obtain ⟨⟨result, later⟩, begun, -⟩ := exists_of_map_eq_ok done
    obtain ⟨run, found, held, -⟩ := beginNode_cases begun
    exact ⟨run, found, held⟩
  | commitNode =>
    cases shown
    simp only [ServiceState.attempt] at done
    obtain ⟨⟨result, later⟩, committed, -⟩ := exists_of_map_eq_ok done
    obtain ⟨run, current, found, held, -⟩ := commitNode_cases committed
    exact ⟨run, found, held⟩
  | failNode =>
    cases shown
    obtain ⟨run, current, found, held, -⟩ := failNode_cases done
    exact ⟨run, found, held⟩
  | saveDrafts workOrderId runId drafts leaseOwner fencingToken =>
    cases leaseOwner with
    | none => cases shown
    | some owner =>
      cases fencingToken with
      | none => cases shown
      | some token =>
        cases shown
        exact (saveDrafts_cases done).1 owner token rfl rfl
  | tick | createRun | claim | appendEvent | requestState | queueRetry | resolve => cases shown

/-! ### Runs -/

/-- The operation is an update that puts `pending` before the user. -/
def Op.Proposes (op : Op) (runId : String) (pending : PendingEvent) : Prop :=
  ∃ owner token updates lag, op = .update runId owner token updates lag ∧
    updates.pendingHumanEvent = some (some pending)

/-- How an operation may change a run. -/
structure Follows (op : Op) (runId : String) (run revised : HarnessRun) : Prop where
  id : revised.harnessRunId = run.harnessRunId
  tenant : revised.tenantId = run.tenantId
  token : run.fencingToken ≤ revised.fencingToken
  pending : ∀ pending, revised.pendingHumanEvent = some pending →
    run.pendingHumanEvent = some pending ∨ op.Proposes runId pending

theorem Follows.refl (op : Op) (runId : String) (run : HarnessRun) : Follows op runId run run :=
  ⟨rfl, rfl, Nat.le_refl _, fun _ same => .inl same⟩

theorem Follows.updated {owner : String} {token lag : Nat} {updates : RunUpdates} (run : HarnessRun) :
    Follows (.update runId owner token updates lag) runId run (run.updated updates now) := by
  refine ⟨rfl, rfl, Nat.le_refl _, ?_⟩
  intro pending proposed
  simp only [HarnessRun.updated] at proposed
  cases given : updates.pendingHumanEvent with
  | none =>
    rw [given] at proposed
    exact .inl proposed
  | some value =>
    rw [given] at proposed
    cases value with
    | none => cases proposed
    | some =>
      cases proposed
      exact .inr ⟨owner, token, updates, lag, rfl, given⟩

theorem setRun_follows {target : String} {current : HarnessRun}
    (found : tables.run? target = some current) (follows : Follows op target current revised)
    {run : HarnessRun} (stored : tables.run? runId = some run) :
    ∃ later, (tables.setRun target revised).run? runId = some later ∧ Follows op runId run later := by
  have kept : revised.harnessRunId = target := follows.id.trans (Tables.id_of_run? found)
  by_cases same : runId = target
  · subst same
    rw [found] at stored
    cases stored
    exact ⟨revised, Tables.run?_setRun_self found kept, follows⟩
  · rw [Tables.run?_setRun_other same kept]
    exact ⟨run, stored, Follows.refl op runId run⟩

/-! ### Writes -/

/-- What the transaction of an operation may write. -/
inductive Written (op : Op) (before : Tables) : Tables → Prop
  -- nothing, checkpoints or drafts
  | other {after : Tables} (runs : after.runs = before.runs) (receipts : after.receipts = before.receipts)
      (events : after.events = before.events) : Written op before after
  | newRun (run : HarnessRun) (unused : before.run? run.harnessRunId = none) :
      Written op before { before with runs := before.runs ++ [run] }
  | run {runId : String} {current revised : HarnessRun} (found : before.run? runId = some current)
      (follows : Follows op runId current revised) : Written op before (before.setRun runId revised)
  | newReceipt (receipt : Receipt)
      (unused : ∀ row ∈ before.receipts, row.receiptId ≠ receipt.receiptId ∧ row.key ≠ receipt.key) :
      Written op before { before with receipts := before.receipts ++ [receipt] }
  -- a committed receipt is rewritten by `fail_node_execution_owned` only
  | receipt {current revised : Receipt} (member : current ∈ before.receipts)
      (id : revised.receiptId = current.receiptId) (key : revised.key = current.key)
      (failing : current.status = .committed → ∃ runId owner token error,
        op = .failNode current.receiptId runId owner token error) :
      Written op before (before.setReceipt current.receiptId revised)
  | event (event : ExecutionEvent) :
      Written op before { before with events := before.events ++ [event] }
  | decision {runId : String} {current revised : HarnessRun} (event : ExecutionEvent)
      (found : before.run? runId = some current) (follows : Follows op runId current revised) :
      Written op before { before.setRun runId revised with events := before.events ++ [event] }

/-- What a call that goes through has written. -/
theorem attempt_written (done : state.attempt sha256 op = .ok after) : Written op state.tables after := by
  cases op with
  | tick =>
    cases done
    exact .other rfl rfl rfl
  | createRun created =>
    obtain ⟨unused, rfl⟩ := createRun_cases done
    exact .newRun created unused
  | claim =>
    obtain ⟨current, found, rfl⟩ := claim_cases done
    exact .run found ⟨rfl, rfl, Nat.le_succ _, fun _ same => .inl same⟩
  | update =>
    obtain ⟨current, found, -, rfl⟩ := update_cases done
    exact .run found (Follows.updated current)
  | heartbeat =>
    obtain ⟨current, found, -, rfl⟩ := update_cases done
    exact .run found ⟨rfl, rfl, Nat.le_refl _, fun _ same => .inl same⟩
  | saveCheckpoint =>
    obtain ⟨-, rows, -, -, rfl⟩ := saveCheckpoint_cases done
    exact .other rfl rfl rfl
  | beginNode receipt =>
    simp only [ServiceState.attempt] at done
    obtain ⟨⟨result, later⟩, begun, rfl⟩ := exists_of_map_eq_ok done
    obtain ⟨-, -, -, ⟨-, -, rfl⟩ | ⟨existing, member, uncommitted, rfl⟩ | put⟩ :=
      beginNode_cases begun
    · exact .other rfl rfl rfl
    · exact .receipt member rfl rfl fun committed => absurd committed uncommitted
    · obtain ⟨unused, rfl⟩ := putReceipt_cases put
      exact .newReceipt receipt unused
  | commitNode =>
    simp only [ServiceState.attempt] at done
    obtain ⟨⟨result, later⟩, committed, rfl⟩ := exists_of_map_eq_ok done
    obtain ⟨-, current, -, -, stored, ⟨-, -, rfl⟩ | ⟨uncommitted, rfl⟩⟩ := commitNode_cases committed
    · exact .other rfl rfl rfl
    · obtain rfl := Tables.id_of_receipt? stored
      apply Written.receipt (Tables.mem_of_receipt? stored)
      · rfl
      · rfl
      · exact fun committed => absurd committed uncommitted
  | failNode receiptId target owner token error =>
    obtain ⟨-, current, -, -, stored, rfl⟩ := failNode_cases done
    obtain rfl := Tables.id_of_receipt? stored
    apply Written.receipt (Tables.mem_of_receipt? stored)
    · rfl
    · rfl
    · exact fun _ => ⟨target, owner, token, error, rfl⟩
  | saveDrafts =>
    obtain ⟨-, rows, rfl⟩ := saveDrafts_cases done
    exact .other rfl rfl rfl
  | appendEvent event =>
    simp only [ServiceState.attempt] at done
    obtain ⟨⟨answer, later⟩, appended, rfl⟩ := exists_of_map_eq_ok done
    obtain rfl | ⟨numbered, put⟩ := appendEvent_cases appended
    · exact .other rfl rfl rfl
    · obtain ⟨-, rfl⟩ := putEvent_cases put
      exact .event numbered
  | requestState =>
    obtain ⟨current, found, rfl⟩ := requestState_cases done
    exact .run found ⟨rfl, rfl, Nat.le_succ _, fun _ same => .inl same⟩
  | queueRetry =>
    obtain ⟨current, found, rfl⟩ := queueRetry_cases done
    exact .run found ⟨rfl, rfl, Nat.le_refl _, fun _ same => .inl same⟩
  | resolve =>
    simp only [ServiceState.attempt] at done
    obtain ⟨⟨answer, event, later⟩, resolved, rfl⟩ := exists_of_map_eq_ok done
    obtain ⟨decision, eventKey, current, -, found, ⟨-, -, rfl⟩ | ⟨-, pending, -, rfl, -, put⟩⟩ :=
      resolve_cases resolved
    · exact .other rfl rfl rfl
    · obtain ⟨-, rfl⟩ := putEvent_cases put
      exact .decision event found
        ⟨rfl, rfl, Nat.le_refl _, fun _ impossible => nomatch impossible⟩

theorem step_of_ok (done : state.attempt sha256 op = .ok after) : (state.step sha256 op).tables = after := by
  simp only [ServiceState.step, done]

theorem step_of_error {failure : Failure} (raised : state.attempt sha256 op = .error failure) :
    (state.step sha256 op).tables = state.tables := by
  simp only [ServiceState.step, raised]

theorem step_written (sha256 : String → String) (state : ServiceState) (op : Op) :
    Written op state.tables (state.step sha256 op).tables := by
  cases outcome : state.attempt sha256 op with
  | ok =>
    rw [step_of_ok outcome]
    exact attempt_written outcome
  | error =>
    rw [step_of_error outcome]
    exact .other rfl rfl rfl

theorem Written.runs {before : Tables} (written : Written op before after)
    {run : HarnessRun} (stored : before.run? runId = some run) :
    ∃ later, after.run? runId = some later ∧ Follows op runId run later := by
  cases written with
  | other runs =>
    refine ⟨run, ?_, Follows.refl op runId run⟩
    unfold Tables.run? at stored ⊢
    rw [runs]
    exact stored
  | newRun =>
    refine ⟨run, ?_, Follows.refl op runId run⟩
    unfold Tables.run? at stored ⊢
    simp [List.find?_append, stored]
  | run found follows => exact setRun_follows found follows stored
  | newReceipt | receipt | event =>
    exact ⟨run, stored, Follows.refl op runId run⟩
  | decision event found follows => exact setRun_follows found follows stored

theorem Written.events {before : Tables} (written : Written op before after) :
    ∃ added, after.events = before.events ++ added := by
  cases written with
  | other runs receipts events => exact ⟨[], by simp [events]⟩
  | event event => exact ⟨[event], rfl⟩
  | decision event => exact ⟨[event], rfl⟩
  | newRun | run | newReceipt | receipt => exact ⟨[], by simp [Tables.setRun, Tables.setReceipt]⟩

/-! ### Whole runs -/

theorem run_concat_step (sha256 : String → String) (ops : List Op) (op : Op) :
    (harness sha256).run (ops ++ [op]) = ((harness sha256).run ops).step sha256 op :=
  (harness sha256).run_concat ops op

/-- A run of the store keeps every harness run, its tenant, and a token that has not gone back. -/
theorem run_stays {first : List Op} {run : HarnessRun}
    (stored : ((harness sha256).run first).tables.run? runId = some run) (second : List Op) :
    ∃ later, ((harness sha256).run (first ++ second)).tables.run? runId = some later ∧
      later.tenantId = run.tenantId ∧ run.fencingToken ≤ later.fencingToken := by
  apply Machine.stable (fun state : ServiceState => ∃ later, state.tables.run? runId = some later ∧
    later.tenantId = run.tenantId ∧ run.fencingToken ≤ later.fencingToken)
  · rintro before op ⟨later, found, tenant, token⟩
    obtain ⟨next, nextFound, follows⟩ := (step_written sha256 _ op).runs found
    exact ⟨next, nextFound, follows.tenant.trans tenant, Nat.le_trans token follows.token⟩
  · exact ⟨run, stored, rfl, Nat.le_refl _⟩

end HardwareDatabase.Harness
