/-
Module: HardwareDatabase.Proofs.JobAttempts
Purpose: The columns of a job agree in every reachable state: attempts, lease token, owner and instants.
Trusted boundary: none
-/
import HardwareDatabase.DocumentJobs.Service

namespace HardwareDatabase.DocumentJobs

open Relational
open Python (strip)

/-- The columns of a job agree. -/
structure Job.InOrder (job : Job) : Prop where
  limit : 1 ≤ job.maxAttempts ∧ job.maxAttempts ≤ 20
  attempts : job.attempt ≤ job.maxAttempts
  token : job.leaseToken = job.attempt
  owner : job.leaseOwner.isSome = (job.status == .running)
  expiry : job.leaseExpiresAt.isSome = (job.status == .running)
  completion : job.completedAt.isSome = job.status.isTerminal
  started : job.status = .running → 1 ≤ job.attempt

/-- The ids are unique, and the columns of every job agree. -/
def InOrder (jobs : List Job) : Prop :=
  UniqueOn Job.jobId jobs ∧ ∀ job ∈ jobs, job.InOrder

variable {store after : Store} {now : Nat}

/-! ### Rows -/

variable {job : Job}

private theorem Job.InOrder.cancelled (ordered : job.InOrder) (reason : String) (now : Nat) :
    (job.cancelled reason now).InOrder :=
  ⟨ordered.limit, ordered.attempts, ordered.token, rfl, rfl, rfl, by simp [Job.cancelled]⟩

private theorem Job.InOrder.exhaust (ordered : job.InOrder) (now : Nat) : (job.exhaust now).InOrder :=
  ⟨ordered.limit, ordered.attempts, ordered.token, rfl, rfl, rfl, by simp [Job.exhaust]⟩

private theorem Job.InOrder.record (ordered : job.InOrder) (call : JobFailure) (current : Job) (now : Nat) :
    (call.record current now job).InOrder := by
  unfold JobFailure.record
  split
  · exact ⟨ordered.limit, ordered.attempts, ordered.token, rfl, rfl, rfl, by simp⟩
  · cases call.retryable <;>
      exact ⟨ordered.limit, ordered.attempts, ordered.token, rfl, rfl, rfl, by simp⟩

/-- A job that is started is not completed, because only a job that is open is. -/
theorem Job.InOrder.start {job : Job} (ordered : job.InOrder) (unfinished : job.status.isTerminal = false)
    (left : job.attempt + 1 ≤ job.maxAttempts) (workerId : String) (expires : Nat) (token : Option Nat) (now : Nat) :
    (job.start workerId expires token now).InOrder where
  limit := ordered.limit
  attempts := left
  token := congrArg (· + 1) ordered.token
  owner := rfl
  expiry := rfl
  completion := ordered.completion.trans unfinished
  started := fun _ => Nat.le_add_left 1 job.attempt

/-! ### Transactions -/

variable {workerId : String}

namespace InOrder

private theorem update {jobs : List Job} (ordered : InOrder jobs) {p : Job → Bool} {f : Job → Job}
    (ids : ∀ job, (f job).jobId = job.jobId)
    (keeps : ∀ job ∈ jobs, p job = true → (f job).InOrder) : InOrder (updateWhere p f jobs) := by
  refine ⟨ordered.1.updateWhere ids, ?_⟩
  intro job member
  rcases mem_updateWhere.mp member with ⟨old, oldMember, selected, rfl⟩ | ⟨kept, -⟩
  · exact keeps old oldMember selected
  · exact ordered.2 job kept

private theorem createJob (ordered : InOrder store.jobs) {request : JobRequest} {uuid outboxUuid : Uuid}
    (created : store.createJob request uuid outboxUuid now = .ok after) : InOrder after.jobs := by
  simp only [Store.createJob, bind, Except.bind, throw, throwThe, MonadExceptOf.throw] at created
  split at created
  · cases created
  split at created
  · cases created
  split at created
  · cases created
  split at created
  · rw [Store.replayJob] at created
    split at created
    · cases created
    · split at created
      · cases created
        refine ordered.update (fun _ => rfl) fun job member _ => ?_
        obtain ⟨limit, attempts, token, owner, expiry, completion, started⟩ := ordered.2 job member
        exact ⟨limit, attempts, token, owner, expiry, completion, started⟩
      · cases created
        exact ordered
  · rw [Store.insertJob] at created
    split at created
    · cases created
    · rename_i fresh
      cases created
      simp only [Bool.or_eq_true, not_or, List.any_eq_true, not_exists, not_and, beq_iff_eq] at fresh
      refine ⟨ordered.1.append fresh.1, ?_⟩
      intro job member
      rcases List.mem_append.mp member with old | new
      · exact ordered.2 job old
      · rw [List.mem_singleton.mp new]
        refine ⟨?_, Nat.zero_le _, rfl, rfl, rfl, rfl, by simp [JobRequest.newJob]⟩
        simp only [JobRequest.newJob]
        omega

private theorem startJob (ordered : InOrder store.jobs) (member : job ∈ store.jobs)
    (unfinished : job.status.isTerminal = false) (left : job.attempt + 1 ≤ job.maxAttempts) (workerId : String)
    (leaseSeconds : Int) (token : Option Nat) (now : Nat) (locks : List LockRow) :
    InOrder (({ store with locks } : Store).startJob job workerId leaseSeconds token now).2.jobs := by
  refine ordered.update (fun _ => rfl) fun old oldMember selected => ?_
  rw [ordered.1.eq_of_key oldMember member (by simpa using selected)]
  exact (ordered.2 job member).start unfinished left workerId _ token now

private theorem lease (ordered : InOrder store.jobs) (member : job ∈ store.jobs)
    (unfinished : job.status.isTerminal = false) (left : job.attempt + 1 ≤ job.maxAttempts)
    {leaseSeconds : Int} {granted : Option Job}
    (leased : store.lease job workerId leaseSeconds now = .ok (granted, after)) : InOrder after.jobs := by
  unfold Store.lease at leased
  obtain ⟨selected, -, leased⟩ := exists_of_bind_eq_ok leased
  cases selected with
  | none =>
    cases leased
    exact ordered.startJob member unfinished left workerId leaseSeconds none now store.locks
  | some =>
    obtain ⟨free, -, leased⟩ := exists_of_bind_eq_ok leased
    obtain ⟨⟨lock, locks⟩, -, leased⟩ := exists_of_bind_eq_ok leased
    cases lock with
    | none =>
      cases leased
      exact ordered
    | some =>
      cases leased
      exact ordered.startJob member unfinished left workerId leaseSeconds _ now locks

private theorem claim (ordered : InOrder store.jobs) {jobId workerId : String} {leaseSeconds : Int}
    {granted : Option Job}
    (claimed : store.claim jobId workerId leaseSeconds now = .ok (granted, after)) : InOrder after.jobs := by
  have exhausted : ∀ locks, InOrder
      ({ store with locks, jobs := writeJob store.jobs jobId (Job.exhaust now) } : Store).jobs := fun _ =>
    ordered.update (fun _ => rfl) fun job member _ => (ordered.2 job member).exhaust now
  simp only [Store.claim, bind, Except.bind, pure, Except.pure, throw, throwThe, MonadExceptOf.throw] at claimed
  split at claimed
  · cases claimed
  split at claimed
  · cases claimed
    exact ordered
  rename_i job found
  split at claimed
  · cases claimed
    exact ordered
  rename_i unfinished
  split at claimed
  · cases claimed
    exact ordered
  split at claimed
  · split at claimed
    · split at claimed
      · cases claimed
      · cases claimed
        exact exhausted _
    · cases claimed
      exact exhausted _
  · exact ordered.lease (List.mem_of_find?_eq_some found) (by simpa using unfinished) (by omega) claimed

section

variable (ordered : InOrder store.jobs)
include ordered

private theorem heartbeat {jobId : String} {leaseToken : Nat} {leaseSeconds : Int}
    (beaten : store.heartbeat jobId workerId leaseToken leaseSeconds now = .ok after) : InOrder after.jobs := by
  unfold Store.heartbeat at beaten
  split at beaten
  · cases beaten
  · obtain ⟨locks, -, beaten⟩ := exists_of_bind_eq_ok beaten
    cases beaten
    refine ordered.update (fun _ => rfl) fun job member selected => ?_
    have before := ordered.2 job member
    have running : job.status = .running := by
      simp only [Job.isLeasedTo, Bool.and_eq_true, beq_iff_eq] at selected
      exact selected.1.1.2
    exact ⟨before.limit, before.attempts, before.token, before.owner, by simp [running], before.completion,
      before.started⟩

private theorem endLease {jobId : String} {leaseToken : Nat} {write : Job → Job}
    (ids : ∀ job, (write job).jobId = job.jobId) (keeps : ∀ job : Job, job.InOrder → (write job).InOrder)
    (ended : store.endLease jobId workerId leaseToken write = .ok after) : InOrder after.jobs := by
  unfold Store.endLease at ended
  split at ended
  · cases ended
  · obtain ⟨locks, -, ended⟩ := exists_of_bind_eq_ok ended
    cases ended
    exact ordered.update ids fun job member _ => keeps job (ordered.2 job member)

private theorem revokeJob {reason : String} (revoked : store.revokeJob reason now job = .ok after) :
    InOrder after.jobs := by
  unfold Store.revokeJob at revoked
  split at revoked
  · cases revoked
    exact ordered
  · obtain ⟨locks, -, revoked⟩ := exists_of_bind_eq_ok revoked
    cases revoked
    exact ordered.update (fun _ => rfl) fun job member _ => (ordered.2 job member).cancelled reason now

private theorem commit {attempt : Except Failure Store}
    (done : ∀ {after}, attempt = .ok after → InOrder after.jobs) : InOrder (store.commit attempt).jobs := by
  cases attempt with
  | error => exact ordered
  | ok => exact done rfl

private theorem commitLocks {attempt : Except Failure (List LockRow)} : InOrder (store.commitLocks attempt).jobs := by
  cases attempt with
  | error => exact ordered
  | ok => exact ordered

end

private theorem exec {state : ServiceState} (ordered : InOrder state.store.jobs) (op : Op) :
    InOrder (state.exec op).jobs := by
  cases op with
  | tick => exact ordered
  | readJob => exact ordered
  | markOutbox => exact ordered
  | createJob => exact ordered.commit fun created => ordered.createJob created
  | cancel jobId reason =>
    exact ordered.update (fun _ => rfl) fun job member _ => (ordered.2 job member).cancelled reason _
  | cancelSession =>
    refine ordered.commit fun {after} done => ?_
    obtain ⟨⟨workOrders, last⟩, cancelled, rfl⟩ := exists_of_map_eq_ok done
    unfold Store.cancelSession at cancelled
    split at cancelled
    · cases cancelled
      exact ordered
    · obtain ⟨store, looped, cancelled⟩ := exists_of_bind_eq_ok cancelled
      cases cancelled
      exact foldlM_keeps (fun store => InOrder store.jobs) (fun _ _ _ _ before one => before.revokeJob one)
        ordered looped
  | cleanupSession =>
    refine ordered.commit fun {after} done => ?_
    obtain ⟨⟨workOrders, last⟩, cleaned, rfl⟩ := exists_of_map_eq_ok done
    unfold Store.cleanupSession at cleaned
    split at cleaned
    · cases cleaned
      exact ordered
    · obtain ⟨locks, -, cleaned⟩ := exists_of_bind_eq_ok cleaned
      cases cleaned
      exact ⟨ordered.1.deleteWhere, fun job member => ordered.2 job (mem_of_mem_deleteWhere member)⟩
  | claim =>
    refine ordered.commit fun {after} done => ?_
    obtain ⟨⟨granted, store⟩, claimed, rfl⟩ := exists_of_map_eq_ok done
    exact ordered.claim claimed
  | heartbeat =>
    exact ordered.commit fun beaten => ordered.heartbeat beaten
  | complete =>
    refine ordered.commit fun completed => ordered.endLease ?_ ?_ completed
    · exact fun _ => rfl
    · exact fun job before => ⟨before.limit, before.attempts, before.token, rfl, rfl, rfl, by simp⟩
  | fail current call =>
    rw [ServiceState.exec]
    split
    · refine ordered.commit fun failed => ordered.endLease ?_ ?_ failed
      · intro job
        unfold JobFailure.record
        split <;> rfl
      · exact fun job before => before.record call current _
    · exact ordered
  | acquireResourceLock | renewResourceLock | releaseResourceLock =>
    rw [ServiceState.exec]
    exact ordered.commitLocks

end InOrder

/-- In every run of the job store job ids are unique, no job has been started more often than its maximum, which
lies between one and twenty, the lease token counts the attempts, a job has an owner and an expiry exactly while it
runs, and it is completed exactly in the four statuses that end it. -/
theorem jobs_in_order (ops : List Op) : InOrder (documentJobs.run ops).store.jobs := by
  apply Machine.invariant fun state : ServiceState => InOrder state.store.jobs
  · exact ⟨UniqueOn.nil _, fun _ member => absurd member List.not_mem_nil⟩
  · exact fun state op ordered => ordered.exec op

end HardwareDatabase.DocumentJobs
