/-
Module: HardwareDatabase.Proofs.JobExclusion
Purpose: A job whose lease is live owns the lock row of its scope, so jobs exclude each other per resource; only calls
  that use the owner id of a live job could break this.
Trusted boundary: none
-/
import HardwareDatabase.Proofs.ResourceLocks

namespace HardwareDatabase.DocumentJobs

open Python (strip)
open Relational

/-- `status = 'running'` with a lease that has not run out. -/
def Job.isLive (clock : Nat) (job : Job) : Bool :=
  job.status == .running && job.leaseExpiresAt.any fun expires => clock < expires

/-- The job's attempt owns the lock row of the scope, with the token that the job records. -/
def Job.OwnsLock (locks : List LockRow) (scope : Scope) (job : Job) : Prop :=
  ∃ lock ∈ locks, lock.tenantId = job.tenantId ∧ lock.scope = scope ∧ lock.ownerId = job.lockOwner ∧
    job.resourceLockToken = some lock.fencingToken

/-- The owner id under which an operation calls a lock function from outside the job functions. -/
def Op.lockCaller : Op → Option String
  | .acquireResourceLock _ _ _ ownerId _ _ => some (strip ownerId)
  | .renewResourceLock _ _ _ ownerId _ _ _ | .releaseResourceLock _ _ _ ownerId _ => some ownerId
  | _ => none

/-- No direct call of a lock function uses the owner id of a live job. -/
def leavesLiveLocks (state : ServiceState) (op : Op) : Prop :=
  op.lockCaller.all fun ownerId =>
    state.store.jobs.all fun job => !job.isLive state.clock || job.lockOwner != ownerId

instance (state : ServiceState) (op : Op) : Decidable (leavesLiveLocks state op) :=
  inferInstanceAs (Decidable (_ = true))

/-! ### The invariant

A live job holds the lock of its scope, so two live jobs of one scope are one job. -/

/-- What is true of every stored job. -/
structure Job.Sound (clock : Nat) (locks : List LockRow) (job : Job) : Prop where
  stripped : strip job.tenantId = job.tenantId
  named : job.tenantId ≠ ""
  accepted : ∃ selected, job.scope = .ok selected
  recorded : job.status = .running → ∀ scope, job.scope = .ok (some scope) →
    job.resourceLockToken.isSome
  held : job.status = .running → ∀ scope, job.scope = .ok (some scope) →
    ∀ expires, job.leaseExpiresAt = some expires → clock < expires →
      ∃ lock ∈ locks, lock.tenantId = job.tenantId ∧ lock.scope = scope ∧
        lock.ownerId = job.lockOwner ∧ job.resourceLockToken = some lock.fencingToken ∧
        expires ≤ lock.leaseExpiresAt

/-- The invariant of the store at an instant of the clock. -/
structure Store.Sound (clock : Nat) (store : Store) : Prop where
  jobKey : UniqueOn Job.uuid store.jobs
  lockKey : UniqueOn LockRow.resource store.locks
  jobs : ∀ job ∈ store.jobs, job.Sound clock store.locks

variable {job left right : Job}

namespace Job

variable {clock : Nat} {locks after : List LockRow} {job written : Job}

theorem isLive_iff : job.isLive clock = true ↔
    job.status = .running ∧ ∃ expires, job.leaseExpiresAt = some expires ∧ clock < expires := by
  cases lease : job.leaseExpiresAt <;> simp [isLive, lease]

theorem Sound.frame {mine : String → Prop} (sound : job.Sound clock locks)
    (keeps : KeepsOthers mine clock locks after)
    (other : job.isLive clock = true → ¬ mine job.lockOwner) : job.Sound clock after where
  stripped := sound.stripped
  named := sound.named
  accepted := sound.accepted
  recorded := sound.recorded
  held := by
    intro running scope hasScope expires lease live
    obtain ⟨lock, member, tenant, sameScope, owner, token, outlives⟩ :=
      sound.held running scope hasScope expires lease live
    have foreign : ¬ mine lock.ownerId := by
      rw [owner]
      exact other (isLive_iff.mpr ⟨running, expires, lease, live⟩)
    exact ⟨lock, keeps lock member (by omega) foreign, tenant, sameScope, owner, token, outlives⟩

theorem Sound.idle (stripped : strip written.tenantId = written.tenantId)
    (named : written.tenantId ≠ "") (accepted : ∃ selected, written.scope = .ok selected)
    (idle : written.status ≠ .running) : written.Sound clock after where
  stripped := stripped
  named := named
  accepted := accepted
  recorded := fun running => absurd running idle
  held := fun running => absurd running idle

theorem Sound.later (sound : job.Sound clock locks) (elapsed : Nat) : job.Sound (clock + elapsed) locks where
  stripped := sound.stripped
  named := sound.named
  accepted := sound.accepted
  recorded := sound.recorded
  held := fun running scope hasScope expires lease live =>
    sound.held running scope hasScope expires lease (by omega)

theorem jobId_inj : left.jobId = right.jobId ↔ left.uuid = right.uuid := by
  constructor
  · intro same
    have owners := congrArg (jobLockOwner · 0) same
    exact (jobLockOwner_inj owners).1
  · intro same
    simp [jobId, same]

theorem lockOwner_inj (same : left.lockOwner = right.lockOwner) : left.uuid = right.uuid :=
  (jobLockOwner_inj same).1

end Job

variable {locks : List LockRow} {now leaseToken : Nat} {leaseSeconds : Int} {workerId jobId reason : String}

namespace Store

variable {clock : Nat} {store : Store}

section

variable (sound : store.Sound clock)
include sound

/-- An update of the jobs with a change of the locks: the written rows are sound, and the locks of the
rows that are not written are left alone. -/
theorem Sound.update {p : Job → Bool} {f : Job → Job} {outbox : List OutboxRow} (mine : String → Prop)
    (lockKey : UniqueOn LockRow.resource locks) (keeps : KeepsOthers mine clock store.locks locks)
    (keys : ∀ job, (f job).uuid = job.uuid) (written : ∀ job ∈ store.jobs, p job = true → (f job).Sound clock locks)
    (others : ∀ job ∈ store.jobs, p job = false → job.isLive clock = true → ¬ mine job.lockOwner) :
    Sound clock { jobs := updateWhere p f store.jobs, outbox, locks } where
  jobKey := sound.jobKey.updateWhere keys
  lockKey := lockKey
  jobs := by
    intro job member
    rcases mem_updateWhere.mp member with ⟨old, oldMember, selected, rfl⟩ | ⟨kept, skipped⟩
    · exact written old oldMember selected
    · exact (sound.jobs job kept).frame keeps (others job kept skipped)

theorem Sound.settle {p : Job → Bool} {f : Job → Job} {outbox : List OutboxRow} (mine : String → Prop)
    (lockKey : UniqueOn LockRow.resource locks) (keeps : KeepsOthers mine clock store.locks locks)
    (keys : ∀ job, (f job).uuid = job.uuid ∧ (f job).tenantId = job.tenantId ∧ (f job).scope = job.scope)
    (idle : ∀ job, (f job).status ≠ .running) (others : ∀ job ∈ store.jobs, p job = false → ¬ mine job.lockOwner) :
    Sound clock { jobs := updateWhere p f store.jobs, outbox, locks } := by
  apply sound.update mine lockKey keeps
  · exact fun job => (keys job).1
  · intro job member _
    apply Job.Sound.idle
    · rw [(keys job).2.1]
      exact (sound.jobs job member).stripped
    · rw [(keys job).2.1]
      exact (sound.jobs job member).named
    · rw [(keys job).2.2]
      exact (sound.jobs job member).accepted
    · exact idle job
  · exact fun job member skipped _ => others job member skipped

theorem Sound.relock {locks : List LockRow} (mine : String → Prop)
    (lockKey : UniqueOn LockRow.resource locks) (keeps : KeepsOthers mine clock store.locks locks)
    (others : ∀ job ∈ store.jobs, job.isLive clock = true → ¬ mine job.lockOwner) :
    Sound clock { store with locks } where
  jobKey := sound.jobKey
  lockKey := lockKey
  jobs := fun job member => (sound.jobs job member).frame keeps (others job member)

theorem Sound.eq_of_jobId (leftMember : left ∈ store.jobs) (rightMember : right ∈ store.jobs)
    (same : left.jobId = right.jobId) : left = right :=
  sound.jobKey.eq_of_key leftMember rightMember (Job.jobId_inj.mp same)

/-! ### One operation -/

theorem Sound.createJob {request : JobRequest} {uuid outboxUuid : Uuid} {after : Store}
    (created : store.createJob request uuid outboxUuid now = .ok after) : after.Sound clock := by
  simp only [Store.createJob, bind, Except.bind, throw, throwThe, MonadExceptOf.throw] at created
  split at created
  · cases created
  · rename_i operation _
    split at created
    · cases created
    · rename_i given
      split at created
      · cases created
      · rename_i selected accepted
        split at created
        · -- a replay writes at most the task id
          rename_i existing _
          rw [replayJob] at created
          split at created
          · cases created
          · split at created
            · simp only [Except.ok.injEq] at created
              subst created
              apply sound.update (fun _ => False) sound.lockKey (KeepsOthers.refl _ _ _)
              · exact fun _ => rfl
              · intro job member _
                exact { stripped := (sound.jobs job member).stripped
                        named := (sound.jobs job member).named
                        accepted := (sound.jobs job member).accepted
                        recorded := (sound.jobs job member).recorded
                        held := (sound.jobs job member).held }
              · exact fun _ _ _ _ => id
            · simp only [Except.ok.injEq] at created
              subst created
              exact sound
        · rw [insertJob] at created
          split at created
          · cases created
          · rename_i fresh
            simp only [Except.ok.injEq] at created
            subst created
            simp only [Bool.or_eq_true, not_or, List.any_eq_true, not_exists, not_and] at fresh
            constructor
            · apply sound.jobKey.append
              intro other member same
              exact fresh.1 other member (by simpa using Job.jobId_inj.mpr same)
            · exact sound.lockKey
            · intro job member
              rcases List.mem_append.mp member with old | new
              · exact sound.jobs job old
              · rw [List.mem_singleton.mp new]
                apply Job.Sound.idle
                · simp [JobRequest.newJob]
                · simp only [JobRequest.newJob]
                  tauto
                · exact ⟨selected, accepted⟩
                · simp [JobRequest.newJob]

end

theorem not_isLive_of_ready (past : now ≤ clock)
    (ready : (job.isAvailable now || job.isExpired now) = true) : job.isLive clock = false := by
  cases live : job.isLive clock with
  | false => rfl
  | true =>
    obtain ⟨running, expires, lease, later⟩ := Job.isLive_iff.mp live
    simp [Job.isAvailable, Job.isExpired, running, lease] at ready
    omega

theorem Sound.startJob {token : Option Nat} (sound : store.Sound clock) (member : job ∈ store.jobs)
    (mine : String → Prop) (lockKey : UniqueOn LockRow.resource locks)
    (keeps : KeepsOthers mine clock store.locks locks)
    (others : ∀ other ∈ store.jobs, other.uuid ≠ job.uuid → ¬ mine other.lockOwner)
    (locked : ∀ scope, job.scope = .ok (some scope) →
      ∃ lock ∈ locks, lock.tenantId = job.tenantId ∧ lock.scope = scope ∧
        lock.ownerId = jobLockOwner job.jobId (job.attempt + 1) ∧ token = some lock.fencingToken ∧
        leaseEnd now leaseSeconds ≤ lock.leaseExpiresAt) :
    Sound clock (({ store with locks } : Store).startJob job workerId leaseSeconds token now).2 := by
  apply sound.update mine lockKey keeps
  · exact fun _ => rfl
  · intro old oldMember selected
    rw [sound.eq_of_jobId oldMember member (by simpa using selected)]
    constructor
    · exact (sound.jobs job member).stripped
    · exact (sound.jobs job member).named
    · exact (sound.jobs job member).accepted
    · intro _ scope hasScope
      obtain ⟨lock, -, -, -, -, recorded, -⟩ := locked scope hasScope
      simp [Job.start, recorded]
    · intro _ scope hasScope expires lease _
      obtain ⟨lock, stored, tenant, sameScope, owner, recorded, outlives⟩ := locked scope hasScope
      have ends : leaseEnd now leaseSeconds = expires := by
        simpa [Job.start] using lease
      exact ⟨lock, stored, tenant, sameScope, owner, recorded, by omega⟩
  · intro other otherMember skipped _
    apply others other otherMember
    intro same
    have ids := Job.jobId_inj.mpr same
    simp [ids] at skipped

theorem Sound.lease {granted : Option Job} {after : Store} (sound : store.Sound clock) (member : job ∈ store.jobs)
    (past : now ≤ clock) (ready : (job.isAvailable now || job.isExpired now) = true)
    (leased : store.lease job workerId leaseSeconds now = .ok (granted, after)) : after.Sound clock := by
  cases selected : job.scope with
  | error => simp [Store.lease, selected, bind, Except.bind] at leased
  | ok found =>
    cases found with
    | none =>
      simp only [Store.lease, selected, bind, Except.bind, pure, Except.pure, Except.ok.injEq] at leased
      have started : after = (store.startJob job workerId leaseSeconds none now).2 := by
        rw [leased]
      rw [started]
      apply sound.startJob member (fun _ => False) sound.lockKey (KeepsOthers.refl _ _ _)
      · exact fun _ _ _ => id
      · intro scope hasScope
        rw [selected] at hasScope
        cases hasScope
    | some scope =>
      have valid := validate_of_scopeFromPayload selected
      cases freed : locksForClaim store.locks job scope now with
      | error => simp [Store.lease, selected, freed, bind, Except.bind] at leased
      | ok free =>
        obtain ⟨freeKey, freeKeeps⟩ := locksForClaim_spec clock sound.lockKey valid freed
        have acquired : acquireResourceLock free job.tenantId scope.resourceType.text
            scope.resourceId (jobLockOwner job.jobId (job.attempt + 1)) leaseSeconds now =
            .ok (takeLock free job.tenantId scope (jobLockOwner job.jobId (job.attempt + 1))
              leaseSeconds now) :=
          acquireResourceLock_eq (sound.jobs job member).stripped (sound.jobs job member).named
            (strip_jobLockOwner _ _) (jobLockOwner_ne_empty _ _) valid
        simp only [Store.lease, selected, freed, acquired, bind, Except.bind, pure, Except.pure] at leased
        split at leased
        · rename_i locks taken
          simp only [Except.ok.injEq, Prod.mk.injEq] at leased
          obtain ⟨-, rfl⟩ := leased
          have unchanged : locks = free := by
            have refused := takeLock_refused (congrArg Prod.fst taken)
            rw [taken] at refused
            exact refused
          subst unchanged
          apply sound.relock (· = job.lockOwner) freeKey freeKeeps
          intro other otherMember live same
          -- the only job with this owner is the one that is not live
          have itself := sound.jobKey.eq_of_key otherMember member (Job.lockOwner_inj same)
          rw [itself, not_isLive_of_ready past ready] at live
          cases live
        · rename_i lock locks taken
          simp only [Except.ok.injEq] at leased
          have started : after = (({ store with locks } : Store).startJob job workerId
              leaseSeconds (some lock.fencingToken) now).2 := by
            rw [leased]
          rw [started]
          obtain ⟨stored, tenant, sameScope, owner, expires⟩ :=
            takeLock_granted (congrArg Prod.fst taken)
          have lockKey : UniqueOn LockRow.resource (takeLock free job.tenantId scope
              (jobLockOwner job.jobId (job.attempt + 1)) leaseSeconds now).2 :=
            takeLock_unique freeKey
          have taking : KeepsOthers (· = jobLockOwner job.jobId (job.attempt + 1)) clock free
              (takeLock free job.tenantId scope (jobLockOwner job.jobId (job.attempt + 1))
                leaseSeconds now).2 :=
            takeLock_keepsOthers freeKey past
          rw [taken] at stored lockKey taking
          apply sound.startJob member (fun owner => owner = job.lockOwner ∨
            owner = jobLockOwner job.jobId (job.attempt + 1)) lockKey
          · exact (freeKeeps.mono fun _ => Or.inl).trans (taking.mono fun _ => Or.inr)
          · rintro other - different (same | same)
            · exact different (Job.lockOwner_inj same)
            · exact different (jobLockOwner_inj same).1
          · intro scope' hasScope
            rw [selected] at hasScope
            simp only [Except.ok.injEq, Option.some.injEq] at hasScope
            subst hasScope
            exact ⟨lock, stored, tenant, sameScope, owner, rfl, by omega⟩

theorem Sound.claim {jobId workerId : String} {leaseSeconds : Int} {now : Nat}
    {granted : Option Job} {after : Store} (sound : store.Sound clock) (past : now ≤ clock)
    (claimed : store.claim jobId workerId leaseSeconds now = .ok (granted, after)) : after.Sound clock := by
  simp only [Store.claim, bind, Except.bind, pure, Except.pure, throw, throwThe, MonadExceptOf.throw] at claimed
  split at claimed
  · cases claimed
  · split at claimed
    · simp only [Except.ok.injEq, Prod.mk.injEq] at claimed
      rw [← claimed.2]
      exact sound
    · rename_i job found
      have member := List.mem_of_find?_eq_some found
      have named : job.jobId = jobId := by simpa using List.find?_some found
      split at claimed
      · simp only [Except.ok.injEq, Prod.mk.injEq] at claimed
        rw [← claimed.2]
        exact sound
      · split at claimed
        · simp only [Except.ok.injEq, Prod.mk.injEq] at claimed
          rw [← claimed.2]
          exact sound
        · rename_i ready
          split at claimed
          · -- the last attempt is used up
            have exhausted : ∀ locks, UniqueOn LockRow.resource locks →
                KeepsOthers (· = job.lockOwner) clock store.locks locks →
                Sound clock { store with
                  locks, jobs := writeJob store.jobs jobId (Job.exhaust now) } := by
              intro locks lockKey keeps
              apply sound.settle (· = job.lockOwner) lockKey keeps
              · exact fun _ => ⟨rfl, rfl, rfl⟩
              · exact fun _ => by simp [Job.exhaust]
              · intro other _ skipped same
                have ids := Job.jobId_inj.mpr (Job.lockOwner_inj same)
                simp [ids, named] at skipped
            split at claimed
            · split at claimed
              · cases claimed
              · rename_i locks released
                simp only [Except.ok.injEq, Prod.mk.injEq] at claimed
                obtain ⟨freeKey, freeKeeps⟩ := releaseJobLock_spec clock sound.lockKey released
                rw [← claimed.2]
                exact exhausted locks freeKey freeKeeps
            · simp only [Except.ok.injEq, Prod.mk.injEq] at claimed
              rw [← claimed.2]
              exact exhausted store.locks sound.lockKey (KeepsOthers.refl _ _ _)
          · have open' : (job.isAvailable now || job.isExpired now) = true := by
              simpa only [Bool.not_eq_true', Bool.not_eq_false] using ready
            exact sound.lease member past open' claimed

theorem jobId_of_isLeasedTo (leased : job.isLeasedTo jobId workerId leaseToken = true) :
    job.jobId = jobId ∧ job.status = .running := by
  simp only [Job.isLeasedTo, Bool.and_eq_true, beq_iff_eq] at leased
  exact leased.1.1

theorem Sound.eq_of_isLeasedTo
    (sound : store.Sound clock) (leftMember : left ∈ store.jobs) (rightMember : right ∈ store.jobs)
    (leftLeased : left.isLeasedTo jobId workerId leaseToken = true)
    (rightLeased : right.isLeasedTo jobId workerId leaseToken = true) : left = right := by
  apply sound.eq_of_jobId leftMember rightMember
  rw [(jobId_of_isLeasedTo leftLeased).1, (jobId_of_isLeasedTo rightLeased).1]

theorem heartbeatLock_spec {after : List LockRow} {expires : Nat}
    (unique : UniqueOn LockRow.resource locks) (extended : heartbeatLock locks job expires = .ok after) :
    UniqueOn LockRow.resource after ∧ KeepsOthers (· = job.lockOwner) clock locks after ∧
      ∀ scope, job.scope = .ok (some scope) → ∃ lock ∈ after,
        lock.tenantId = job.tenantId ∧ lock.scope = scope ∧ lock.ownerId = job.lockOwner ∧
        lock.fencingToken = job.lockToken ∧ lock.leaseExpiresAt = expires := by
  cases selected : job.scope with
  | error => simp [heartbeatLock, selected, bind, Except.bind] at extended
  | ok found =>
    cases found with
    | none =>
      simp only [heartbeatLock, selected, bind, Except.bind, pure, Except.pure, Except.ok.injEq] at extended
      subst extended
      refine ⟨unique, KeepsOthers.refl _ _ _, ?_⟩
      intro scope hasScope
      cases hasScope
    | some scope =>
      simp only [heartbeatLock, selected, bind, Except.bind, pure, Except.pure, throw, throwThe,
        MonadExceptOf.throw] at extended
      split at extended
      · cases extended
      · rename_i written
        simp only [Except.ok.injEq] at extended
        subst extended
        refine ⟨extendLock_unique unique, extendLock_keepsOthers _ _ _ _ _ _ _, ?_⟩
        intro scope' hasScope
        cases hasScope
        have once : locks.countP
            (LockRow.isHeldBy job.tenantId scope job.lockOwner job.lockToken) = 1 := by
          simpa using written
        have positive : 0 < locks.countP
            (LockRow.isHeldBy job.tenantId scope job.lockOwner job.lockToken) := by
          omega
        obtain ⟨row, stored, holds⟩ := List.countP_pos_iff.mp positive
        obtain ⟨tenant, sameScope, owner, token⟩ := LockRow.isHeldBy_iff.mp holds
        refine ⟨{ row with leaseExpiresAt := expires }, ?_, tenant, sameScope, owner, token, rfl⟩
        exact mem_updateWhere.mpr (Or.inl ⟨row, stored, holds, rfl⟩)

section

variable (sound : store.Sound clock)
include sound

theorem Sound.heartbeat {after : Store}
    (beaten : store.heartbeat jobId workerId leaseToken leaseSeconds now = .ok after) : after.Sound clock := by
  simp only [Store.heartbeat, bind, Except.bind, pure, Except.pure, throw, throwThe, MonadExceptOf.throw] at beaten
  split at beaten
  · cases beaten
  · rename_i job found
    have member := List.mem_of_find?_eq_some found
    have leased : job.isLeasedTo jobId workerId leaseToken = true := List.find?_some found
    split at beaten
    · cases beaten
    · rename_i locks extended
      simp only [Except.ok.injEq] at beaten
      subst beaten
      obtain ⟨lockKey, keeps, extendedLock⟩ := heartbeatLock_spec sound.lockKey extended
      apply sound.update (· = job.lockOwner) lockKey keeps
      · exact fun _ => rfl
      · intro old oldMember selected
        rw [sound.eq_of_isLeasedTo oldMember member selected leased]
        have before := sound.jobs job member
        refine ⟨before.stripped, before.named, before.accepted, before.recorded, ?_⟩
        intro running scope hasScope expires lease _
        obtain ⟨lock, stored, tenant, sameScope, owner, token, ends⟩ := extendedLock scope hasScope
        obtain ⟨recorded, isRecorded⟩ :=
          Option.isSome_iff_exists.mp (before.recorded running scope hasScope)
        refine ⟨lock, stored, tenant, sameScope, owner, ?_, ?_⟩
        · simp only [Job.lockToken, isRecorded, Option.getD_some] at token
          simp only [isRecorded, token]
        · simp only [Option.some.injEq] at lease
          omega
      · intro other otherMember skipped _ same
        have itself := sound.jobKey.eq_of_key otherMember member (Job.lockOwner_inj same)
        rw [itself, leased] at skipped
        cases skipped

theorem Sound.endLease {write : Job → Job} {after : Store}
    (keys : ∀ job, (write job).uuid = job.uuid ∧ (write job).tenantId = job.tenantId ∧ (write job).scope = job.scope)
    (idle : ∀ job, (write job).status ≠ .running)
    (ended : store.endLease jobId workerId leaseToken write = .ok after) : after.Sound clock := by
  simp only [Store.endLease, bind, Except.bind, pure, Except.pure, throw, throwThe, MonadExceptOf.throw] at ended
  split at ended
  · cases ended
  · rename_i job found
    have member := List.mem_of_find?_eq_some found
    have leased : job.isLeasedTo jobId workerId leaseToken = true := List.find?_some found
    split at ended
    · cases ended
    · rename_i locks released
      simp only [Except.ok.injEq] at ended
      subst ended
      obtain ⟨lockKey, keeps⟩ := releaseJobLock_spec clock sound.lockKey released
      apply sound.settle (· = job.lockOwner) lockKey keeps keys idle
      intro other otherMember skipped same
      have itself := sound.jobKey.eq_of_key otherMember member (Job.lockOwner_inj same)
      rw [itself, leased] at skipped
      cases skipped

theorem Sound.cancel : (store.cancel jobId reason now).Sound clock := by
  apply sound.settle (fun _ => False) sound.lockKey (KeepsOthers.refl _ _ _)
  · exact fun _ => ⟨rfl, rfl, rfl⟩
  · exact fun _ => by simp [Job.cancelled]
  · exact fun _ _ _ => id

/-! ### The session operations -/

theorem Sound.revokeJob {after : Store} (revoked : store.revokeJob reason now job = .ok after) : after.Sound clock := by
  simp only [Store.revokeJob, bind, Except.bind, pure, Except.pure] at revoked
  split at revoked
  · cases revoked
    exact sound
  · split at revoked
    · cases revoked
    · rename_i locks freed
      simp only [Except.ok.injEq] at revoked
      subst revoked
      obtain ⟨lockKey, keeps⟩ := revokeJobLocks_spec clock sound.lockKey freed
      apply sound.settle _ lockKey keeps
      · exact fun _ => ⟨rfl, rfl, rfl⟩
      · exact fun _ => by simp [Job.cancelled]
      · intro other _ skipped matched
        have ids := Job.jobId_inj.mpr (uuid_eq_of_likePrefix matched)
        simp [ids] at skipped

theorem Sound.cancelSession {sessionId : String} {workOrders : List String} {after : Store}
    (revoked : store.cancelSession sessionId reason now = .ok (workOrders, after)) : after.Sound clock := by
  simp only [Store.cancelSession, bind, Except.bind, pure, Except.pure] at revoked
  split at revoked
  · cases revoked
    exact sound
  · split at revoked
    · cases revoked
    · rename_i last looped
      cases revoked
      apply foldlM_keeps (Store.Sound clock) _ sound looped
      intro state next job _ before one
      exact before.revokeJob one

theorem Sound.cleanupSession {sessionId : String} {workOrders : List String} {after : Store}
    (cleaned : store.cleanupSession sessionId = .ok (workOrders, after)) : after.Sound clock := by
  simp only [Store.cleanupSession, bind, Except.bind, pure, Except.pure] at cleaned
  split at cleaned
  · cases cleaned
    exact sound
  · split at cleaned
    · cases cleaned
    · rename_i locks looped
      cases cleaned
      -- what the loop may have removed: locks whose owner matches a job of the session
      let mine : String → Prop := fun owner =>
        ∃ job ∈ store.jobs.filter fun job => job.sessionId == strip sessionId,
          likePrefix ("document-job:" ++ job.jobId ++ ":") owner = true
      have freed : UniqueOn LockRow.resource locks ∧ KeepsOthers mine clock store.locks locks := by
        apply foldlM_keeps (fun locks =>
          UniqueOn LockRow.resource locks ∧ KeepsOthers mine clock store.locks locks) _ _ looped
        · rintro before next job member ⟨lockKey, keeps⟩ revoked
          obtain ⟨nextKey, nextKeeps⟩ := revokeJobLocks_spec clock lockKey revoked
          refine ⟨nextKey, keeps.trans (nextKeeps.mono ?_)⟩
          exact fun owner matched => ⟨job, member, matched⟩
        · exact ⟨sound.lockKey, KeepsOthers.refl _ _ _⟩
      refine ⟨sound.jobKey.deleteWhere, freed.1, ?_⟩
      intro job member
      obtain ⟨stored, kept⟩ := mem_deleteWhere.mp member
      apply (sound.jobs job stored).frame freed.2
      rintro - ⟨other, selected, matched⟩
      obtain ⟨otherStored, ofSession⟩ := List.mem_filter.mp selected
      have itself := sound.jobKey.eq_of_key stored otherStored (uuid_eq_of_likePrefix matched)
      rw [itself, ofSession] at kept
      cases kept

/-! ### Commits -/

theorem Sound.commit {attempt : Except Failure Store}
    (done : ∀ after, attempt = .ok after → after.Sound clock) : (store.commit attempt).Sound clock := by
  cases attempt with
  | error => exact sound
  | ok after => exact done after rfl

end

end Store

/-- A direct call of a lock function changes the lock of its own resource only, and no live lock of
another owner. -/
theorem Store.Sound.direct {store : Store} {clock : Nat} {ownerId : String}
    {attempt : Except Failure (List LockRow)} (sound : store.Sound clock)
    (foreign : ∀ job ∈ store.jobs, job.isLive clock = true → job.lockOwner ≠ ownerId)
    (done : ∀ locks, attempt = .ok locks → UniqueOn LockRow.resource locks ∧
      KeepsOthers (· = ownerId) clock store.locks locks) : (store.commitLocks attempt).Sound clock := by
  cases attempt with
  | error => exact sound
  | ok locks =>
    obtain ⟨lockKey, keeps⟩ := done locks rfl
    exact sound.relock (· = ownerId) lockKey keeps foreign

/-! ### Runs -/

variable {op : Op} {state : ServiceState}

theorem leavesLiveLocks_iff : leavesLiveLocks state op ↔ ∀ ownerId, op.lockCaller = some ownerId →
      ∀ job ∈ state.store.jobs, job.isLive state.clock = true → job.lockOwner ≠ ownerId := by
  cases caller : op.lockCaller with
  | none => simp [leavesLiveLocks, caller]
  | some =>
    simp only [leavesLiveLocks, caller, Option.all_some, List.all_eq_true, Bool.or_eq_true,
      Bool.not_eq_true', bne_iff_ne, Option.some.injEq, forall_eq']
    constructor
    · intro apart job member live
      simpa [live] using apart job member
    · intro apart job member
      cases live : job.isLive state.clock with
      | false => exact Or.inl rfl
      | true => exact Or.inr (apart job member live)

theorem sound_exec (sound : state.store.Sound state.clock)
    (own : leavesLiveLocks state op) : (state.exec op).Sound state.clock := by
  have past : ∀ lag, state.clock - lag ≤ state.clock := fun lag => Nat.sub_le _ _
  have foreign := leavesLiveLocks_iff.mp own
  cases op with
  | tick => exact sound
  | readJob => exact sound
  | createJob => exact sound.commit fun after => sound.createJob
  | cancel => exact sound.cancel
  | cancelSession =>
    apply sound.commit
    intro after done
    obtain ⟨⟨workOrders, store⟩, revoked, rfl⟩ := exists_of_map_eq_ok done
    exact sound.cancelSession revoked
  | cleanupSession =>
    apply sound.commit
    intro after done
    obtain ⟨⟨workOrders, store⟩, cleaned, rfl⟩ := exists_of_map_eq_ok done
    exact sound.cleanupSession cleaned
  | claim jobId workerId leaseSeconds lag =>
    apply sound.commit
    intro after done
    obtain ⟨⟨granted, store⟩, claimed, rfl⟩ := exists_of_map_eq_ok done
    exact sound.claim (past lag) claimed
  | heartbeat =>
    exact sound.commit fun after => sound.heartbeat
  | complete =>
    apply sound.commit
    intro after
    apply sound.endLease
    · exact fun _ => ⟨rfl, rfl, rfl⟩
    · exact fun _ => by simp
  | fail current call =>
    simp only [ServiceState.exec]
    split
    · apply sound.commit
      intro after
      apply sound.endLease
      · intro job
        rw [JobFailure.record]
        split <;> exact ⟨rfl, rfl, rfl⟩
      · intro job
        rw [JobFailure.record]
        split
        · simp
        · cases call.retryable <;> simp
    · exact sound
  | markOutbox =>
    exact { jobKey := sound.jobKey, lockKey := sound.lockKey, jobs := sound.jobs }
  | acquireResourceLock tenantId resourceType resourceId ownerId leaseSeconds lag =>
    simp only [ServiceState.exec]
    apply sound.direct (foreign _ rfl)
    intro locks done
    obtain ⟨⟨granted, table⟩, acquired, rfl⟩ := exists_of_map_eq_ok done
    exact acquireResourceLock_spec sound.lockKey (past lag) acquired
  | renewResourceLock =>
    simp only [ServiceState.exec]
    apply sound.direct (foreign _ rfl)
    intro locks done
    obtain ⟨⟨renewed, table⟩, extended, rfl⟩ := exists_of_map_eq_ok done
    exact renewResourceLock_spec state.clock sound.lockKey extended
  | releaseResourceLock =>
    simp only [ServiceState.exec]
    apply sound.direct (foreign _ rfl)
    intro locks done
    obtain ⟨⟨found, table⟩, released, rfl⟩ := exists_of_map_eq_ok done
    exact releaseResourceLock_spec state.clock sound.lockKey released

theorem sound_step (sound : state.store.Sound state.clock)
    (own : leavesLiveLocks state op) : (state.step op).store.Sound (state.step op).clock := by
  have after := sound_exec sound own
  cases op with
  | tick elapsed =>
    exact { jobKey := after.jobKey
            lockKey := after.lockKey
            jobs := fun job member => (after.jobs job member).later elapsed }
  | _ =>
    simp only [ServiceState.step, ServiceState.clockAfter]
    exact after

theorem sound_run {ops : List Op} (respects : documentJobs.Respects leavesLiveLocks ops) :
    (documentJobs.run ops).store.Sound (documentJobs.run ops).clock := by
  apply Machine.guarded_invariant (fun state : ServiceState => state.store.Sound state.clock) _ _
    respects
  · refine ⟨UniqueOn.nil _, UniqueOn.nil _, ?_⟩
    simp [documentJobs, ServiceState.start, Store.empty]
  · exact fun state op sound own => sound_step sound own

namespace Store

variable {store : Store} {clock : Nat}

theorem Sound.ownsLock {scope : Scope} (sound : store.Sound clock)
    (member : job ∈ store.jobs) (live : job.isLive clock = true)
    (hasScope : job.scope = .ok (some scope)) : job.OwnsLock store.locks scope := by
  obtain ⟨running, expires, lease, later⟩ := Job.isLive_iff.mp live
  obtain ⟨lock, stored, tenant, sameScope, owner, token, -⟩ :=
    (sound.jobs job member).held running scope hasScope expires lease later
  exact ⟨lock, stored, tenant, sameScope, owner, token⟩

theorem Sound.excludes {scope : Scope} (sound : store.Sound clock)
    (leftMember : left ∈ store.jobs) (rightMember : right ∈ store.jobs)
    (leftLive : left.isLive clock = true) (rightLive : right.isLive clock = true)
    (tenant : left.tenantId = right.tenantId) (leftScope : left.scope = .ok (some scope))
    (rightScope : right.scope = .ok (some scope)) : left = right := by
  obtain ⟨lock, stored, lockTenant, lockScope, owner, -⟩ :=
    sound.ownsLock leftMember leftLive leftScope
  obtain ⟨lock', stored', lockTenant', lockScope', owner', -⟩ :=
    sound.ownsLock rightMember rightLive rightScope
  have sameLock : lock = lock' := by
    apply sound.lockKey.eq_of_key stored stored'
    simp [LockRow.resource, lockTenant, lockTenant', lockScope, lockScope', tenant]
  apply sound.jobKey.eq_of_key leftMember rightMember
  apply Job.lockOwner_inj
  rw [← owner, ← owner', sameLock]

end Store

/-- In every run whose direct lock calls do not use the owner id of a live job: two live jobs of one
tenant and one scope are the same job, and a live job owns the lock row of its scope with the token that
it records. -/
theorem live_jobs_exclude_each_other {ops : List Op} (respects : documentJobs.Respects leavesLiveLocks ops) :
    let state := documentJobs.run ops
    (∀ left ∈ state.store.jobs, ∀ right ∈ state.store.jobs, left.isLive state.clock = true →
      right.isLive state.clock = true → left.tenantId = right.tenantId →
      ∀ scope, left.scope = .ok (some scope) → right.scope = .ok (some scope) → left = right) ∧
    (∀ job ∈ state.store.jobs, job.isLive state.clock = true →
      ∀ scope, job.scope = .ok (some scope) → job.OwnsLock state.store.locks scope) := by
  intro state
  have sound : state.store.Sound state.clock := sound_run respects
  constructor
  · intro left leftMember right rightMember leftLive rightLive tenant scope leftScope rightScope
    exact sound.excludes leftMember rightMember leftLive rightLive tenant leftScope rightScope
  · intro job member live scope hasScope
    exact sound.ownsLock member live hasScope

/-- A job on the knowledge base `manuals`. -/
def manualsRequest (clientRequestId : String) : JobRequest :=
  { tenantId := "acme"
    userId := "7"
    sessionId := "3"
    clientRequestId
    operation := "generate_work_order"
    payload :=
      { resourceLock := none, projectId := .null, knowledgeBaseName := .text "manuals"
        templateVersionId := .null, rest := "" }
    workOrderId := none
    taskId := none
    maxAttempts := 3
    availableAt := none }

/-- The ids of two jobs and of their outbox rows. -/
def firstUuid : Uuid := { hex := "0a", isHex := by decide }
def secondUuid : Uuid := { hex := "0b", isHex := by decide }

/-- Two jobs on one knowledge base are created, and the first is claimed. -/
def firstClaimed : List Op :=
  [.createJob (manualsRequest "one") firstUuid firstUuid 0,
    .createJob (manualsRequest "two") secondUuid secondUuid 0,
    .claim "document-job-0a" "worker-1" 60 0]

/-- The row of a sample job while its first attempt runs. -/
def runningJob (clientRequestId : String) (uuid : Uuid) : Job :=
  ((manualsRequest clientRequestId).newJob .generateWorkOrder uuid 0).start "worker-1" 60000000
    (some 1) 0

/-- A second claim meets the lock of the first job, until the lease has run out. -/
theorem live_jobs_exclude_each_other_samples :
    let ops := firstClaimed ++ [.claim "document-job-0b" "worker-1" 60 0,
      .acquireResourceLock "acme" "knowledge_base" "manuals" "indexer" 60 0]
    documentJobs.Respects leavesLiveLocks ops ∧
      (runningJob "one" firstUuid).OwnsLock (documentJobs.run ops).store.locks
        { resourceType := .knowledgeBase, resourceId := "manuals" } := by
  intro ops
  have respects : documentJobs.Respects leavesLiveLocks ops :=
    Machine.RespectsFrom.respects (by decide)
  refine ⟨respects, ?_⟩
  exact (live_jobs_exclude_each_other respects).2 (runningJob "one" firstUuid) (by decide) (by decide) _
    (by decide)

/-- A direct release under the owner id of the running job lets the second job in: both are live. -/
theorem released_job_lock_admits_second : ¬ ∀ ops : List Op,
      let state := documentJobs.run ops
      (∀ left ∈ state.store.jobs, ∀ right ∈ state.store.jobs, left.isLive state.clock = true →
        right.isLive state.clock = true → left.tenantId = right.tenantId →
        ∀ scope, left.scope = .ok (some scope) → right.scope = .ok (some scope) → left = right) ∧
      (∀ job ∈ state.store.jobs, job.isLive state.clock = true →
        ∀ scope, job.scope = .ok (some scope) → job.OwnsLock state.store.locks scope) := by
  intro always
  have both := (always (firstClaimed ++
    [.releaseResourceLock "acme" "knowledge_base" "manuals" "document-job:document-job-0a:1" 1,
      .claim "document-job-0b" "worker-1" 60 0])).1
  have same := both (runningJob "one" firstUuid) (by decide) (runningJob "two" secondUuid) (by decide)
    (by decide) (by decide) (by decide) { resourceType := .knowledgeBase, resourceId := "manuals" }
    (by decide) (by decide)
  revert same
  decide

end HardwareDatabase.DocumentJobs
