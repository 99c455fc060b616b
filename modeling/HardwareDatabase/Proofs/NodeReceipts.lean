/-
Module: HardwareDatabase.Proofs.NodeReceipts
Purpose: What the receipts of harness nodes keep over every run, and that `fail_node_execution_owned` does not look at
  a receipt's status.
Trusted boundary: none
-/
import HardwareDatabase.Proofs.HarnessSteps

namespace HardwareDatabase.Harness

open Relational

variable {sha256 : String → String} {op : Op}

/-! ### One receipt for every node and input -/

/-- The primary key and the unique constraint of the receipts. -/
structure ReceiptsUnique (tables : Tables) : Prop where
  id : UniqueOn Receipt.receiptId tables.receipts
  key : UniqueOn Receipt.key tables.receipts

private theorem Written.receiptsUnique {before after : Tables} (written : Written op before after)
    (unique : ReceiptsUnique before) : ReceiptsUnique after := by
  cases written with
  | other runs receipts =>
    constructor
    · rw [receipts]
      exact unique.id
    · rw [receipts]
      exact unique.key
  | newReceipt receipt unused =>
    constructor
    · exact unique.id.append fun row member => (unused row member).1
    · exact unique.key.append fun row member => (unused row member).2
  | receipt member id key =>
    constructor
    · unfold UniqueOn Tables.setReceipt
      rw [unique.id.map_replace member id]
      exact unique.id
    · unfold UniqueOn Tables.setReceipt
      rw [unique.id.map_replace member key]
      exact unique.key
  | newRun | run | event | decision => exact ⟨unique.id, unique.key⟩

private theorem receipts_unique (sha256 : String → String) (ops : List Op) :
    ReceiptsUnique ((harness sha256).run ops).tables := by
  apply Machine.invariant (fun state : ServiceState => ReceiptsUnique state.tables)
  · exact ⟨UniqueOn.nil _, UniqueOn.nil _⟩
  · intro state op unique
    exact (step_written sha256 state op).receiptsUnique unique

/-! ### The property and its condition -/

/-- `later` is the committed receipt with the output it was committed with. -/
def Receipt.Keeps (receipt later : Receipt) : Prop :=
  later.receiptId = receipt.receiptId ∧ later.status = .committed ∧
    later.outputPayload = receipt.outputPayload ∧ later.outputHash = receipt.outputHash

instance (receipt later : Receipt) : Decidable (receipt.Keeps later) :=
  inferInstanceAs (Decidable (_ ∧ _ ∧ _ ∧ _))

/-- In every state of a run, guarded writes are made under the latest token and a lease that has not run
out, nodes have one receipt for every input, and committed receipts stay as they are. -/
structure CommittedForGood (sha256 : String → String) (ops : List Op) : Prop where
  leased : ∀ before op rest, ops = before ++ op :: rest → ∀ lease after, op.lease = some lease →
    ((harness sha256).run before).attempt sha256 op = .ok after →
    ∃ run expires, ((harness sha256).run before).tables.run? lease.runId = some run ∧
      run.leaseOwner = some lease.owner ∧ run.fencingToken = lease.token ∧
      run.leaseExpiresAt = some expires ∧ ((harness sha256).run before).clock < expires ∧
      ∀ first between, before = first ++ between → ∀ earlier,
        ((harness sha256).run first).tables.run? lease.runId = some earlier →
          earlier.fencingToken ≤ lease.token
  single : ∀ before rest, ops = before ++ rest →
    UniqueOn Receipt.key ((harness sha256).run before).tables.receipts
  permanent : ∀ before between rest, ops = before ++ between ++ rest →
    ∀ receipt ∈ ((harness sha256).run before).tables.receipts, receipt.status = .committed →
      ∃ later ∈ ((harness sha256).run (before ++ between)).tables.receipts, receipt.Keeps later

/-- The operation fails no committed receipt, and the lease that it shows does not run out between its
look at the clock and its transaction. -/
structure Op.Careful (state : ServiceState) (op : Op) : Prop where
  spares : ∀ receiptId runId owner token error, op = .failNode receiptId runId owner token error →
    ∀ run receipt, state.tables.run? runId = some run → leaseActive run owner token state.clock = true →
      state.tables.receipt? receiptId = some receipt → receipt.status ≠ .committed
  timely : ∀ lease, op.lease = some lease → ∀ run, state.tables.run? lease.runId = some run →
    leaseActive run lease.owner lease.token (state.clock - lease.lag) = true →
      leaseActive run lease.owner lease.token state.clock = true

/-! ### Leases -/

private theorem leaseActive_iff {run : HarnessRun} {owner : String} {token now : Nat} :
    leaseActive run owner token now = true ↔
      run.status = .running ∧ run.leaseOwner = some owner ∧ run.fencingToken = token ∧
        ∃ expires, run.leaseExpiresAt = some expires ∧ now < expires := by
  unfold leaseActive
  cases run.leaseExpiresAt with
  | none => simp
  | some => simp [and_assoc]

private theorem update_goes_through {tables : Tables} {runId owner : String} {token now : Nat}
    {updates : RunUpdates} {run : HarnessRun} (found : tables.run? runId = some run)
    (active : leaseActive run owner token now = true) : updateHarnessRunOwned tables runId owner token updates now =
      .ok (tables.setRun runId (run.updated updates now)) := by
  rw [updateHarnessRunOwned, getRunForUpdate_eq found]
  simp only [bind, Except.bind, requireActiveLease_eq active]

variable {state : ServiceState}

private theorem goes_through_of_lag {lease : Lease} {run : HarnessRun}
    (shown : op.lease = some lease) (late : lease.lag ≠ 0) (found : state.tables.run? lease.runId = some run)
    (active : leaseActive run lease.owner lease.token (state.clock - lease.lag) = true) :
    ∃ after, state.attempt sha256 op = .ok after := by
  cases op with
  | update | heartbeat =>
    cases shown
    exact ⟨_, update_goes_through found active⟩
  | saveDrafts workOrderId runId drafts leaseOwner fencingToken =>
    cases leaseOwner with
    | none => cases shown
    | some =>
      cases fencingToken with
      | none => cases shown
      | some =>
        cases shown
        exact absurd rfl late
  | saveCheckpoint | beginNode | commitNode | failNode =>
    cases shown
    exact absurd rfl late
  | tick | createRun | claim | appendEvent | requestState | queueRetry | resolve => cases shown

/-! ### Committed receipts -/

private theorem keeps_of_careful (unique : ReceiptsUnique state.tables)
    (careful : op.Careful state) {receipt : Receipt} (stored : ∃ later ∈ state.tables.receipts, receipt.Keeps later) :
    ∃ later ∈ (state.step sha256 op).tables.receipts, receipt.Keeps later := by
  obtain ⟨later, member, keeps⟩ := stored
  cases outcome : state.attempt sha256 op with
  | error =>
    rw [step_of_error outcome]
    exact ⟨later, member, keeps⟩
  | ok =>
    rw [step_of_ok outcome]
    cases attempt_written outcome with
    | other runs receipts =>
      rw [receipts]
      exact ⟨later, member, keeps⟩
    | newReceipt => exact ⟨later, List.mem_append_left _ member, keeps⟩
    | @receipt current revised currentMember id key failing =>
      have apart : later.receiptId ≠ current.receiptId := by
        intro same
        obtain rfl := unique.id.eq_of_key member currentMember same
        -- only a failed node could rewrite it, and a careful one does not
        obtain ⟨runId, owner, token, error, rfl⟩ := failing keeps.2.1
        obtain ⟨run, named, found, active, namedFound, -⟩ := failNode_cases outcome
        obtain rfl := unique.id.eq_of_key member (Tables.mem_of_receipt? namedFound)
          (Tables.id_of_receipt? namedFound).symm
        exact careful.spares _ _ _ _ _ rfl run later found active namedFound keeps.2.1
      refine ⟨later, ?_, keeps⟩
      apply mem_updateWhere.mpr
      exact .inr ⟨member, by simpa using apart⟩
    | newRun | run | event | decision => exact ⟨later, member, keeps⟩

private theorem failNode_rewrites {receiptId runId owner error : String} {token : Nat}
    {run : HarnessRun} {receipt : Receipt} (found : state.tables.run? runId = some run)
    (active : leaseActive run owner token state.clock = true)
    (stored : state.tables.receipt? receiptId = some receipt) :
    ∀ later ∈ (state.step sha256 (.failNode receiptId runId owner token error)).tables.receipts,
      later.receiptId = receiptId → later.status = .failed := by
  have done : state.attempt sha256 (.failNode receiptId runId owner token error) =
      .ok (state.tables.setReceipt receiptId (receipt.failedWith token error)) := by
    rw [ServiceState.attempt, failNodeExecutionOwned, getRunForUpdate_eq found]
    simp only [bind, Except.bind, requireActiveLease_eq active, stored]
  rw [step_of_ok done]
  intro later member named
  obtain ⟨old, -, -, rfl⟩ | ⟨-, other⟩ := mem_updateWhere.mp member
  · rfl
  · simp [named] at other

/-- The receipts of a run stay, and its guarded writes are rightly leased, exactly where every step of the
run is careful. -/
theorem committed_for_good_iff (sha256 : String → String) (ops : List Op) :
    CommittedForGood sha256 ops ↔ (harness sha256).Respects (fun state op => op.Careful state) ops := by
  constructor
  · intro good before op rest split
    constructor
    · rintro receiptId runId owner token error rfl run receipt found active stored committed
      obtain ⟨later, member, named, status, -⟩ :=
        good.permanent before [.failNode receiptId runId owner token error] rest (by simp [split]) receipt
          (Tables.mem_of_receipt? stored) committed
      rw [run_concat_step] at member
      have failed := failNode_rewrites found active stored later member
        (named.trans (Tables.id_of_receipt? stored))
      rw [failed] at status
      cases status
    · intro lease shown run found active
      by_cases late : lease.lag = 0
      · simpa [late] using active
      · obtain ⟨after, done⟩ := goes_through_of_lag shown late found active
        obtain ⟨same, expires, sameFound, owned, fenced, stored, unexpired, -⟩ :=
          good.leased before op rest split lease after shown done
        rw [found] at sameFound
        cases sameFound
        exact leaseActive_iff.mpr
          ⟨(leaseActive_iff.mp active).1, owned, fenced, expires, stored, unexpired⟩
  · intro careful
    constructor
    · intro before op rest split lease after shown done
      obtain ⟨run, found, active⟩ := lease_held_of_ok done shown
      have activeNow := (careful before op rest split).timely lease shown run found active
      obtain ⟨-, owned, fenced, expires, stored, unexpired⟩ := leaseActive_iff.mp activeNow
      refine ⟨run, expires, found, owned, fenced, stored, unexpired, ?_⟩
      rintro first between rfl earlier earlierFound
      obtain ⟨later, laterFound, -, token⟩ := run_stays earlierFound between
      rw [found] at laterFound
      cases laterFound
      exact fenced ▸ token
    · intro before rest split
      exact (receipts_unique sha256 before).key
    · rintro before between rest rfl receipt member committed
      apply Machine.guarded_stable (fun state : ServiceState =>
        ∃ later ∈ state.tables.receipts, receipt.Keeps later)
      · intro earlier op here stored
        exact keeps_of_careful (receipts_unique sha256 earlier) here stored
      · exact ⟨receipt, member, rfl, committed, rfl, rfl⟩
      · exact careful.of_append

/-! ### A node that fails after it committed -/

/-- The digest of the payload below. -/
def sampleOutputSha256 (_ : String) : String :=
  "98daa396f7fa3b974cce4fe7a7821d3d20b910cb213674635f9d92b45b10faae"

/-- A queued run, as the runtime creates it. -/
def sampleRun : HarnessRun :=
  { harnessRunId := "run-1", workOrderId := "order-1", tenantId := "default", status := .queued,
    currentNode := "initialize", unitStatuses := [], retryCount := 0, maxRetries := 1,
    leaseOwner := none, fencingToken := 0, leaseExpiresAt := none, heartbeatAt := none, error := none,
    lastErrorCode := none, pendingHumanEvent := none, agentThreadId := none, updatedAt := 0 }

/-- The receipt of a drafting node that begins. -/
def sampleReceipt : Receipt :=
  { receiptId := "receipt-1", harnessRunId := "run-1", nodeName := "draft_ready_unit",
    unitId := "unit-1", inputFingerprint := "request-1", actionKey := "", attempt := 1,
    fencingToken := 1, status := .started, outputHash := none, outputPayload := none, error := none,
    createdAt := 0, committedAt := none }

/-- Two threads of one worker begin the same unit; the first commits its draft. -/
def draftedTwice : List Op :=
  [.createRun sampleRun, .claim "run-1" "worker-1" 60 0, .beginNode sampleReceipt "worker-1" 1,
    .beginNode { sampleReceipt with receiptId := "receipt-2" } "worker-1" 1,
    .commitNode "receipt-1" "run-1" "worker-1" 1 "\x7b\"unit_id\":\"unit-1\"\x7d"]

/-- The writer of the second thread raises. -/
def secondWriterRaises : Op :=
  .failNode "receipt-1" "run-1" "worker-1" 1 "\x7b\"type\":\"TimeoutError\"\x7d"

/-- The failure of the second thread takes back what the first has committed. -/
theorem failed_node_rewrites_committed : ¬ ∀ ops, CommittedForGood sampleOutputSha256 ops := by
  intro always
  have lost := (always (draftedTwice ++ [secondWriterRaises])).permanent draftedTwice
    [secondWriterRaises] [] rfl
  revert lost
  decide

end HardwareDatabase.Harness
