/-
Module: HardwareDatabase.Proofs.LockTokens
Purpose: The fencing tokens of a resource over a whole run: an acquisition counts up from the stored row, and a
  release deletes it.
Trusted boundary: none
-/
import HardwareDatabase.Proofs.ResourceLocks

namespace HardwareDatabase.DocumentJobs

open Python (strip)
open Relational

/-! ### Acquisitions -/

/-- A call that reaches the statements of an acquisition: the lock table it finds and its arguments. -/
structure Acquisition where
  locks : List LockRow
  tenantId : String
  scope : Scope
  ownerId : String
  leaseSeconds : Int
  now : Nat
deriving Repr, DecidableEq

namespace Acquisition

/-- What the call returns, and the table it leaves. -/
def outcome (call : Acquisition) : Option LockRow × List LockRow :=
  takeLock call.locks call.tenantId call.scope call.ownerId call.leaseSeconds call.now

/-- The owner already holds the lock, so that the call continues a holding period. -/
def continues (call : Acquisition) : Bool :=
  (lockOf call.locks call.tenantId call.scope).any fun row =>
    row.ownerId == call.ownerId && row.isActive call.now

/-- The lock of a holding period that the call starts. -/
def holding (call : Acquisition) : Option LockRow :=
  if call.continues then none else call.outcome.1

end Acquisition

/-- The acquisition of a lease: the lock of an attempt that ran out has been removed before it. -/
def leaseAcquisition (store : Store) (job : Job) (leaseSeconds : Int) (now : Nat) : Option Acquisition :=
  match job.scope with
  | .ok (some scope) =>
    match locksForClaim store.locks job scope now with
    | .ok locks =>
      if strip job.tenantId = "" then none
      else
        some { locks, tenantId := strip job.tenantId, scope,
               ownerId := jobLockOwner job.jobId (job.attempt + 1), leaseSeconds, now }
    | .error _ => none
  | _ => none

/-- The acquisition of a claim that passes the checks. -/
def claimAcquisition (store : Store) (jobId workerId : String) (leaseSeconds : Int) (now : Nat) :
    Option Acquisition :=
  match store.get jobId with
  | none => none
  | some job =>
    if strip workerId = "" ∨ job.status.isTerminal ∨ !(job.isAvailable now || job.isExpired now) ∨
        job.maxAttempts < job.attempt + 1 then none
    else leaseAcquisition store job leaseSeconds now

/-- The acquisition of a direct call. -/
def directAcquisition (store : Store) (tenantId resourceType resourceId ownerId : String)
    (leaseSeconds : Int) (now : Nat) : Option Acquisition :=
  if strip tenantId = "" ∨ strip ownerId = "" then none
  else
    match validateResourceScope resourceType resourceId with
    | .ok scope =>
      some { locks := store.locks, tenantId := strip tenantId, scope, ownerId := strip ownerId,
             leaseSeconds, now }
    | .error _ => none

/-- The acquisition that an operation makes, if any. -/
def acquisitionOf (state : ServiceState) : Op → Option Acquisition
  | .claim jobId workerId leaseSeconds lag =>
    claimAcquisition state.store jobId workerId leaseSeconds (state.clock - lag)
  | .acquireResourceLock tenantId resourceType resourceId ownerId leaseSeconds lag =>
    directAcquisition state.store tenantId resourceType resourceId ownerId leaseSeconds
      (state.clock - lag)
  | _ => none

/-- The holding period that an operation starts. -/
def newHolding (state : ServiceState) (op : Op) : List LockRow :=
  ((acquisitionOf state op).bind Acquisition.holding).toList

/-- The holding periods of a resource that a run has started, oldest first. -/
def holdings (tenantId : String) (scope : Scope) (ops : List Op) : List LockRow :=
  (documentJobs.emitted newHolding ops).filter (LockRow.isFor tenantId scope)

/-- Every acquisition that finds no lock row for the resource is the first that is granted. -/
def StartsOnce (tenantId : String) (scope : Scope) (ops : List Op) : Prop :=
  ∀ before op after, ops = before ++ op :: after →
    ∀ call, acquisitionOf (documentJobs.run before) op = some call →
      call.tenantId = tenantId → call.scope = scope → lockOf call.locks tenantId scope = none →
      holdings tenantId scope before = []

/-! ### Tokens of the table

The token of a row grows while the row is there; a row that was deleted starts again. -/

/-- Every row stands for an older row of the resource with the same token. -/
def TokensFrom (after before : List LockRow) : Prop :=
  ∀ row ∈ after, ∃ old ∈ before, old.resource = row.resource ∧ old.fencingToken = row.fencingToken

variable {job : Job} {locks : List LockRow} {now : Nat} {scope : Scope}

namespace TokensFrom

variable {first second third : List LockRow}

private theorem refl (locks : List LockRow) : TokensFrom locks locks :=
  fun row member => ⟨row, member, rfl, rfl⟩

private theorem trans (later : TokensFrom third second) (earlier : TokensFrom second first) :
    TokensFrom third first := by
  intro row member
  obtain ⟨middle, middleMember, resource, token⟩ := later row member
  obtain ⟨old, oldMember, oldResource, oldToken⟩ := earlier middle middleMember
  exact ⟨old, oldMember, oldResource.trans resource, oldToken.trans token⟩

private theorem deleteWhere (p : LockRow → Bool) (locks : List LockRow) : TokensFrom (deleteWhere p locks) locks :=
  fun row member => ⟨row, mem_of_mem_deleteWhere member, rfl, rfl⟩

private theorem extendLock (locks : List LockRow) (tenantId : String) (scope : Scope) (ownerId : String)
    (fencingToken expires : Nat) : TokensFrom (extendLock locks tenantId scope ownerId fencingToken expires) locks := by
  intro row member
  rcases mem_updateWhere.mp member with ⟨old, oldMember, -, rfl⟩ | ⟨kept, -⟩
  · exact ⟨old, oldMember, rfl, rfl⟩
  · exact ⟨row, kept, rfl, rfl⟩

private theorem releaseJobLock {after : List LockRow}
    (released : releaseJobLock locks job = .ok after) : TokensFrom after locks := by
  simp only [DocumentJobs.releaseJobLock, releaseResourceLock, bind, Except.bind, pure, Except.pure] at released
  split at released
  · cases released
  · split at released
    · cases released
      exact refl locks
    · split at released
      · cases released
      · rename_i result checked
        split at checked
        · cases checked
        · cases checked
          cases released
          exact deleteWhere _ _

private theorem revokeJobLocks {after : List LockRow}
    (revoked : revokeJobLocks locks job = .ok after) : TokensFrom after locks := by
  simp only [DocumentJobs.revokeJobLocks, bind, Except.bind, pure, Except.pure] at revoked
  split at revoked
  · cases revoked
  · rename_i freed released
    cases revoked
    exact (deleteWhere _ _).trans (releaseJobLock released)

private theorem locksForClaim {after : List LockRow}
    (freed : locksForClaim locks job scope now = .ok after) : TokensFrom after locks := by
  simp only [DocumentJobs.locksForClaim, releaseResourceLock, bind, Except.bind, pure, Except.pure] at freed
  split at freed
  · split at freed
    · cases freed
    · rename_i result checked
      split at checked
      · cases checked
      · cases checked
        cases freed
        exact deleteWhere _ _
  · cases freed
    exact refl locks

end TokensFrom

/-! ### The table after an operation -/

/-- How a table can come out of an operation: without an acquisition every row stands for an older
row, and an acquisition is made on such a table. -/
def Follows (before after : List LockRow) : Option Acquisition → Prop
  | none => TokensFrom after before
  | some call => TokensFrom call.locks before ∧ after = call.outcome.2

private theorem acquireResourceLock_follows (store : Store)
    (tenantId resourceType resourceId ownerId : String) (leaseSeconds : Int) (now : Nat) :
    Follows store.locks (store.commitLocks ((acquireResourceLock store.locks tenantId resourceType
        resourceId ownerId leaseSeconds now).map Prod.snd)).locks
      (directAcquisition store tenantId resourceType resourceId ownerId leaseSeconds now) := by
  simp only [acquireResourceLock, directAcquisition, bind, Except.bind, pure, Except.pure, throw,
    throwThe, MonadExceptOf.throw]
  by_cases unnamed : strip tenantId = "" ∨ strip ownerId = ""
  · rw [if_pos unnamed, if_pos unnamed]
    exact TokensFrom.refl _
  · rw [if_neg unnamed, if_neg unnamed]
    cases validateResourceScope resourceType resourceId with
    | error => exact TokensFrom.refl _
    | ok => exact ⟨TokensFrom.refl _, rfl⟩

private theorem lease_follows (store : Store) (job : Job) (workerId : String) (leaseSeconds : Int) (now : Nat) :
    Follows store.locks (store.commit ((store.lease job workerId leaseSeconds now).map Prod.snd)).locks
      (leaseAcquisition store job leaseSeconds now) := by
  cases selected : job.scope with
  | error =>
    simp only [Store.lease, leaseAcquisition, selected, bind, Except.bind]
    exact TokensFrom.refl _
  | ok found =>
    cases found with
    | none =>
      simp only [Store.lease, leaseAcquisition, selected, bind, Except.bind]
      exact TokensFrom.refl _
    | some scope =>
      have valid := validate_of_scopeFromPayload selected
      cases freed : locksForClaim store.locks job scope now with
      | error =>
        simp only [Store.lease, leaseAcquisition, selected, freed, bind, Except.bind]
        exact TokensFrom.refl _
      | ok locks =>
        simp only [Store.lease, leaseAcquisition, selected, freed, acquireResourceLock,
          strip_jobLockOwner, jobLockOwner_ne_empty, or_false, valid, bind, Except.bind, pure,
          Except.pure, throw, throwThe, MonadExceptOf.throw]
        by_cases unnamed : strip job.tenantId = ""
        · simp only [unnamed, if_true]
          exact TokensFrom.refl _
        · simp only [unnamed, if_false, Follows, Acquisition.outcome]
          refine ⟨TokensFrom.locksForClaim freed, ?_⟩
          generalize takeLock locks (strip job.tenantId) scope
            (jobLockOwner job.jobId (job.attempt + 1)) leaseSeconds now = outcome
          obtain ⟨granted, table⟩ := outcome
          cases granted <;> rfl

private theorem claim_follows (store : Store) (jobId workerId : String) (leaseSeconds : Int) (now : Nat) :
    Follows store.locks (store.commit ((store.claim jobId workerId leaseSeconds now).map Prod.snd)).locks
      (claimAcquisition store jobId workerId leaseSeconds now) := by
  simp only [Store.claim, claimAcquisition, bind, Except.bind, pure, Except.pure, throw, throwThe,
    MonadExceptOf.throw]
  cases found : store.get jobId with
  | none =>
    simp only
    split <;> exact TokensFrom.refl _
  | some job =>
    simp only
    by_cases nobody : strip workerId = ""
    · rw [if_pos nobody, if_pos (Or.inl nobody)]
      exact TokensFrom.refl _
    · rw [if_neg nobody]
      by_cases terminal : job.status.isTerminal = true
      · rw [if_pos terminal, if_pos (Or.inr (Or.inl terminal))]
        exact TokensFrom.refl _
      · rw [if_neg terminal]
        by_cases closed : (!(job.isAvailable now || job.isExpired now)) = true
        · rw [if_pos closed, if_pos (Or.inr (Or.inr (Or.inl closed)))]
          exact TokensFrom.refl _
        · rw [if_neg closed]
          by_cases exhausted : job.maxAttempts < job.attempt + 1
          · rw [if_pos exhausted, if_pos (Or.inr (Or.inr (Or.inr exhausted)))]
            split
            · cases released : releaseJobLock store.locks job with
              | error => exact TokensFrom.refl _
              | ok => exact TokensFrom.releaseJobLock released
            · exact TokensFrom.refl _
          · have passes : ¬ (strip workerId = "" ∨ job.status.isTerminal = true ∨
                (!(job.isAvailable now || job.isExpired now)) = true ∨
                job.maxAttempts < job.attempt + 1) := by
              rintro (unnamed | ended | later | used)
              · exact nobody unnamed
              · exact terminal ended
              · exact closed later
              · exact exhausted used
            rw [if_neg exhausted, if_neg passes]
            exact lease_follows store job (strip workerId) leaseSeconds now

private theorem endLease_tokensFrom {store after : Store} {jobId workerId : String} {leaseToken : Nat}
    {write : Job → Job} (ended : store.endLease jobId workerId leaseToken write = .ok after) :
    TokensFrom after.locks store.locks := by
  simp only [Store.endLease, bind, Except.bind, pure, Except.pure, throw, throwThe, MonadExceptOf.throw] at ended
  split at ended
  · cases ended
  · split at ended
    · cases ended
    · rename_i locks released
      cases ended
      exact TokensFrom.releaseJobLock released

private theorem heartbeat_tokensFrom {store after : Store} {jobId workerId : String} {leaseToken : Nat}
    {leaseSeconds : Int}
    (beaten : store.heartbeat jobId workerId leaseToken leaseSeconds now = .ok after) :
    TokensFrom after.locks store.locks := by
  simp only [Store.heartbeat, heartbeatLock, bind, Except.bind, pure, Except.pure, throw, throwThe,
    MonadExceptOf.throw] at beaten
  split at beaten
  · cases beaten
  · split at beaten
    · cases beaten
    · rename_i locks extended
      cases beaten
      split at extended
      · cases extended
      · split at extended
        · cases extended
          exact TokensFrom.refl _
        · split at extended
          · cases extended
          · cases extended
            exact TokensFrom.extendLock _ _ _ _ _ _

private theorem createJob_locks {store after : Store} {request : JobRequest} {uuid outboxUuid : Uuid}
    (created : store.createJob request uuid outboxUuid now = .ok after) : after.locks = store.locks := by
  simp only [Store.createJob, bind, Except.bind, throw, throwThe, MonadExceptOf.throw] at created
  split at created
  · cases created
  · split at created
    · cases created
    · split at created
      · cases created
      · split at created
        · rw [Store.replayJob] at created
          split at created
          · cases created
          · split at created <;> (cases created; rfl)
        · rw [Store.insertJob] at created
          split at created
          · cases created
          · cases created
            rfl

private theorem cancelSession_tokensFrom {store after : Store} {sessionId reason : String}
    {workOrders : List String} (revoked : store.cancelSession sessionId reason now = .ok (workOrders, after)) :
    TokensFrom after.locks store.locks := by
  simp only [Store.cancelSession, bind, Except.bind, pure, Except.pure] at revoked
  split at revoked
  · cases revoked
    exact TokensFrom.refl _
  · split at revoked
    · cases revoked
    · rename_i last looped
      cases revoked
      apply foldlM_keeps (fun next : Store => TokensFrom next.locks store.locks) _
        (TokensFrom.refl _) looped
      intro state next job _ before one
      simp only [Store.revokeJob, bind, Except.bind, pure, Except.pure] at one
      split at one
      · cases one
        exact before
      · split at one
        · cases one
        · rename_i locks freed
          cases one
          exact (TokensFrom.revokeJobLocks freed).trans before

private theorem cleanupSession_tokensFrom {store after : Store} {sessionId : String} {workOrders : List String}
    (cleaned : store.cleanupSession sessionId = .ok (workOrders, after)) : TokensFrom after.locks store.locks := by
  simp only [Store.cleanupSession, bind, Except.bind, pure, Except.pure] at cleaned
  split at cleaned
  · cases cleaned
    exact TokensFrom.refl _
  · split at cleaned
    · cases cleaned
    · rename_i locks looped
      cases cleaned
      apply foldlM_keeps (fun next => TokensFrom next store.locks) _ (TokensFrom.refl _) looped
      intro state next job _ before one
      exact (TokensFrom.revokeJobLocks one).trans before

private theorem commit_tokensFrom {store : Store} {attempt : Except Failure Store}
    (done : ∀ after, attempt = .ok after → TokensFrom after.locks store.locks) :
    TokensFrom (store.commit attempt).locks store.locks := by
  cases attempt with
  | error => exact TokensFrom.refl _
  | ok after => exact done after rfl

private theorem commitLocks_tokensFrom {store : Store} {attempt : Except Failure (List LockRow)}
    (done : ∀ locks, attempt = .ok locks → TokensFrom locks store.locks) :
    TokensFrom (store.commitLocks attempt).locks store.locks := by
  cases attempt with
  | error => exact TokensFrom.refl _
  | ok locks => exact done locks rfl

private theorem exec_follows (state : ServiceState) (op : Op) :
    Follows state.store.locks (state.exec op).locks (acquisitionOf state op) := by
  cases op with
  | tick => exact TokensFrom.refl _
  | readJob => exact TokensFrom.refl _
  | cancel => exact TokensFrom.refl _
  | markOutbox => exact TokensFrom.refl _
  | createJob =>
    apply commit_tokensFrom
    intro after created
    rw [createJob_locks created]
    exact TokensFrom.refl _
  | cancelSession =>
    apply commit_tokensFrom
    intro after done
    obtain ⟨⟨workOrders, store⟩, revoked, rfl⟩ := exists_of_map_eq_ok done
    exact cancelSession_tokensFrom revoked
  | cleanupSession =>
    apply commit_tokensFrom
    intro after done
    obtain ⟨⟨workOrders, store⟩, cleaned, rfl⟩ := exists_of_map_eq_ok done
    exact cleanupSession_tokensFrom cleaned
  | claim jobId workerId leaseSeconds lag =>
    exact claim_follows state.store jobId workerId leaseSeconds (state.clock - lag)
  | heartbeat =>
    exact commit_tokensFrom fun after => heartbeat_tokensFrom
  | complete =>
    exact commit_tokensFrom fun after => endLease_tokensFrom
  | fail =>
    simp only [ServiceState.exec, acquisitionOf, Follows]
    split
    · exact commit_tokensFrom fun after => endLease_tokensFrom
    · exact TokensFrom.refl _
  | acquireResourceLock tenantId resourceType resourceId ownerId leaseSeconds lag =>
    exact acquireResourceLock_follows state.store tenantId resourceType resourceId ownerId
      leaseSeconds (state.clock - lag)
  | renewResourceLock =>
    simp only [ServiceState.exec, acquisitionOf, Follows]
    apply commitLocks_tokensFrom
    intro locks done
    obtain ⟨⟨renewed, table⟩, extended, rfl⟩ := exists_of_map_eq_ok done
    simp only [renewResourceLock, bind, Except.bind, pure, Except.pure, throw, throwThe,
      MonadExceptOf.throw] at extended
    split at extended
    · cases extended
    · split at extended
      · cases extended
      · split at extended
        · cases extended
          exact TokensFrom.extendLock _ _ _ _ _ _
        · cases extended
  | releaseResourceLock =>
    simp only [ServiceState.exec, acquisitionOf, Follows]
    apply commitLocks_tokensFrom
    intro locks done
    obtain ⟨⟨found, table⟩, released, rfl⟩ := exists_of_map_eq_ok done
    simp only [releaseResourceLock, bind, Except.bind, pure, Except.pure] at released
    split at released
    · cases released
    · cases released
      exact TokensFrom.deleteWhere _ _

/-! ### The token of a new holding period -/

namespace Acquisition

variable {call : Acquisition} {lock : LockRow}

private theorem holding_token (started : call.holding = some lock) :
    lock.tenantId = call.tenantId ∧ lock.scope = call.scope ∧
      lock.fencingToken = ((lockOf call.locks call.tenantId call.scope).elim 0 LockRow.fencingToken) + 1 := by
  simp only [holding, continues, outcome, takeLock] at started
  cases found : lockOf call.locks call.tenantId call.scope with
  | none =>
    simp only [found, Option.any_none, Bool.false_eq_true, if_false, Option.some.injEq] at started
    subst started
    exact ⟨rfl, rfl, rfl⟩
  | some =>
    simp only [found, Option.any_some] at started
    split at started
    · cases started
    · split at started
      · cases started
      · simp only [Option.some.injEq] at started
        subst started
        exact ⟨rfl, rfl, by simp⟩

private theorem outcome_rows {row : LockRow} (member : row ∈ call.outcome.2) :
    (∃ old ∈ call.locks, old.resource = row.resource ∧ old.fencingToken = row.fencingToken) ∨
      (row.resource = (call.tenantId, call.scope) ∧ call.holding.isSome) := by
  simp only [outcome, takeLock] at member
  cases found : lockOf call.locks call.tenantId call.scope with
  | none =>
    simp only [found, List.mem_append, List.mem_singleton] at member
    rcases member with old | rfl
    · exact Or.inl ⟨row, old, rfl, rfl⟩
    · refine Or.inr ⟨rfl, ?_⟩
      simp [holding, continues, outcome, takeLock, found]
  | some current =>
    have stored := List.mem_of_find?_eq_some found
    simp only [found] at member
    split at member
    · exact Or.inl ⟨row, member, rfl, rfl⟩
    · rename_i free
      rcases mem_updateWhere.mp member with ⟨old, oldMember, selected, rfl⟩ | ⟨kept, -⟩
      · obtain ⟨tenant, sameScope⟩ := LockRow.isFor_iff.mp selected
        obtain ⟨currentTenant, currentScope⟩ := LockRow.isFor_iff.mp (List.find?_some found)
        by_cases own : (current.ownerId == call.ownerId && current.isActive call.now) = true
        · refine Or.inl ⟨current, stored, ?_, ?_⟩
          · simp [LockRow.resource, tenant, sameScope, currentTenant, currentScope]
          · simp [own]
        · refine Or.inr ⟨by simp [LockRow.resource, tenant, sameScope], ?_⟩
          simp only [holding, continues, outcome, takeLock, found, Option.any_some]
          rw [if_neg own, if_neg free]
          rfl
      · exact Or.inl ⟨row, kept, rfl, rfl⟩

private theorem token_of_holding {row : LockRow} (started : call.holding = some lock)
    (member : row ∈ call.outcome.2) (resource : row.resource = (call.tenantId, call.scope)) :
    row.fencingToken = lock.fencingToken := by
  have counts := (holding_token started).2.2
  simp only [LockRow.resource, Prod.mk.injEq] at resource
  have selected : row.isFor call.tenantId call.scope = true := LockRow.isFor_iff.mpr resource
  simp only [holding, continues, outcome, takeLock] at started member
  cases found : lockOf call.locks call.tenantId call.scope with
  | none =>
    simp only [found, List.mem_append, List.mem_singleton] at member
    rcases member with old | rfl
    · exact absurd selected (List.find?_eq_none.mp found row old)
    · simp [counts, found]
  | some =>
    simp only [found, Option.any_some] at started member
    split at started
    · cases started
    · rename_i notOwn
      split at started
      · cases started
      · rename_i free
        rw [if_neg free] at member
        rcases mem_updateWhere.mp member with ⟨old, oldMember, -, rfl⟩ | ⟨-, skipped⟩
        · simp [counts, found, notOwn]
        · rw [selected] at skipped
          cases skipped

end Acquisition

/-! ### Runs -/

private theorem holdings_concat (tenantId : String) (scope : Scope) (ops : List Op) (op : Op) :
    holdings tenantId scope (ops ++ [op]) = holdings tenantId scope ops ++
        (newHolding (documentJobs.run ops) op).filter (LockRow.isFor tenantId scope) := by
  rw [holdings, Machine.emitted_concat, List.filter_append]
  rfl

private theorem holdings_grow (tenantId : String) (scope : Scope) (first second : List Op) :
    holdings tenantId scope first <+: holdings tenantId scope (first ++ second) := by
  induction second using List.reverseRecOn with
  | nil =>
    have same : first ++ [] = first := List.append_nil first
    exact same.symm ▸ List.prefix_rfl
  | append_singleton second op ih =>
    rw [← List.append_assoc, holdings_concat]
    exact ih.trans (List.prefix_append _ _)

variable {lock : LockRow}

private theorem mem_newHolding {state : ServiceState} {op : Op} : lock ∈ newHolding state op ↔
      ∃ call, acquisitionOf state op = some call ∧ call.holding = some lock := by
  simp [newHolding, Option.bind_eq_some_iff]

variable {ops : List Op} {tenantId : String}

private theorem one_le_of_mem_holdings (member : lock ∈ holdings tenantId scope ops) : 1 ≤ lock.fencingToken := by
  induction ops using List.reverseRecOn with
  | nil => cases member
  | append_singleton ops op ih =>
    rw [holdings_concat] at member
    rcases List.mem_append.mp member with earlier | new
    · exact ih earlier
    · obtain ⟨call, -, started⟩ := mem_newHolding.mp (List.mem_filter.mp new).1
      rw [(Acquisition.holding_token started).2.2]
      omega

/-- The tokens handed out so far increase, and none is above the token of the stored row. -/
structure Counted (tenantId : String) (scope : Scope) (ops : List Op) : Prop where
  increasing : (holdings tenantId scope ops).Pairwise fun earlier later =>
    earlier.fencingToken < later.fencingToken
  bounded : ∀ lock ∈ holdings tenantId scope ops, ∀ row ∈ (documentJobs.run ops).store.locks,
    row.resource = (tenantId, scope) → lock.fencingToken ≤ row.fencingToken

section Step

variable {tenantId : String} {scope : Scope} {ops : List Op} {op : Op}

private theorem holdings_start {call : Acquisition}
    (made : acquisitionOf (documentJobs.run ops) op = some call) (started : call.holding = some lock)
    (ofResource : lock.isFor tenantId scope = true) :
    holdings tenantId scope (ops ++ [op]) = holdings tenantId scope ops ++ [lock] := by
  rw [holdings_concat]
  simp [newHolding, made, started, ofResource]

private theorem Counted.quiet (counted : Counted tenantId scope ops)
    (nothing : (newHolding (documentJobs.run ops) op).filter (LockRow.isFor tenantId scope) = [])
    (older : ∀ row ∈ (documentJobs.run (ops ++ [op])).store.locks, row.resource = (tenantId, scope) →
      ∃ old ∈ (documentJobs.run ops).store.locks, old.resource = row.resource ∧ old.fencingToken = row.fencingToken) :
    Counted tenantId scope (ops ++ [op]) := by
  have same : holdings tenantId scope (ops ++ [op]) = holdings tenantId scope ops := by
    rw [holdings_concat, nothing, List.append_nil]
  constructor
  · rw [same]
    exact counted.increasing
  · intro lock member row stored resource
    rw [same] at member
    obtain ⟨old, oldStored, oldResource, token⟩ := older row stored resource
    rw [← token]
    exact counted.bounded lock member old oldStored (oldResource.trans resource)

private theorem Counted.start (counted : Counted tenantId scope ops) {call : Acquisition} {lock : LockRow}
    (made : acquisitionOf (documentJobs.run ops) op = some call)
    (older : TokensFrom call.locks (documentJobs.run ops).store.locks)
    (table : (documentJobs.run (ops ++ [op])).store.locks = call.outcome.2)
    (once : lockOf call.locks call.tenantId call.scope = none → holdings tenantId scope ops = [])
    (started : call.holding = some lock) (ofResource : lock.isFor tenantId scope = true) :
    Counted tenantId scope (ops ++ [op]) := by
  obtain ⟨lockTenant, lockScope⟩ := LockRow.isFor_iff.mp ofResource
  obtain ⟨callTenant, callScope, token⟩ := Acquisition.holding_token started
  have ofCall : (tenantId, scope) = (call.tenantId, call.scope) := by
    rw [← lockTenant, ← lockScope, callTenant, callScope]
  have above : ∀ earlier ∈ holdings tenantId scope ops, earlier.fencingToken < lock.fencingToken := by
    intro earlier member
    cases found : lockOf call.locks call.tenantId call.scope with
    | none =>
      rw [once found] at member
      cases member
    | some current =>
      obtain ⟨old, oldStored, oldResource, same⟩ := older current (List.mem_of_find?_eq_some found)
      obtain ⟨currentTenant, currentScope⟩ := LockRow.isFor_iff.mp (List.find?_some found)
      have bound := counted.bounded earlier member old oldStored
        (by rw [oldResource, LockRow.resource, currentTenant, currentScope, ofCall])
      simp only [found, Option.elim_some] at token
      omega
  constructor
  · rw [holdings_start made started ofResource, List.pairwise_append]
    refine ⟨counted.increasing, List.pairwise_singleton _ _, ?_⟩
    intro earlier member new newMember
    rw [List.mem_singleton.mp newMember]
    exact above earlier member
  · intro held member row stored resource
    rw [holdings_start made started ofResource] at member
    rw [table] at stored
    have tokenOfRow := Acquisition.token_of_holding started stored (resource.trans ofCall)
    rcases List.mem_append.mp member with earlier | new
    · have bound := above held earlier
      omega
    · rw [List.mem_singleton.mp new, tokenOfRow]

private theorem counted_step (counted : Counted tenantId scope ops)
    (once : ∀ call, acquisitionOf (documentJobs.run ops) op = some call → call.tenantId = tenantId →
      call.scope = scope → lockOf call.locks tenantId scope = none →
      holdings tenantId scope ops = []) : Counted tenantId scope (ops ++ [op]) := by
  have follows := exec_follows (documentJobs.run ops) op
  cases made : acquisitionOf (documentJobs.run ops) op with
  | none =>
    rw [made] at follows
    refine counted.quiet (by simp [newHolding, made]) ?_
    intro row stored resource
    rw [Machine.run_concat] at stored
    exact follows row stored
  | some call =>
    rw [made] at follows
    obtain ⟨older, table⟩ := follows
    by_cases starts : ∃ lock, call.holding = some lock ∧ lock.isFor tenantId scope = true
    · obtain ⟨lock, started, ofResource⟩ := starts
      refine counted.start made older (by rw [Machine.run_concat]; exact table) ?_ started ofResource
      obtain ⟨lockTenant, lockScope⟩ := LockRow.isFor_iff.mp ofResource
      obtain ⟨callTenant, callScope, -⟩ := Acquisition.holding_token started
      have tenant : call.tenantId = tenantId := callTenant.symm.trans lockTenant
      have sameScope : call.scope = scope := callScope.symm.trans lockScope
      rw [tenant, sameScope]
      exact once call made tenant sameScope
    · refine counted.quiet ?_ ?_
      · apply List.filter_eq_nil_iff.mpr
        intro lock member ofResource
        obtain ⟨call', made', started⟩ := mem_newHolding.mp member
        rw [made] at made'
        cases made'
        exact starts ⟨lock, started, ofResource⟩
      · intro row stored resource
        rw [Machine.run_concat] at stored
        have inOutcome : row ∈ call.outcome.2 := by
          rw [← table]
          exact stored
        rcases Acquisition.outcome_rows inOutcome with ⟨old, oldStored, oldResource, token⟩ | new
        · obtain ⟨first, firstStored, firstResource, firstToken⟩ := older old oldStored
          exact ⟨first, firstStored, firstResource.trans oldResource, firstToken.trans token⟩
        · obtain ⟨new, isNew⟩ := new
          obtain ⟨started, isStarted⟩ := Option.isSome_iff_exists.mp isNew
          obtain ⟨startedTenant, startedScope, -⟩ := Acquisition.holding_token isStarted
          refine absurd ⟨started, isStarted, LockRow.isFor_iff.mpr ?_⟩ starts
          rw [resource, Prod.mk.injEq] at new
          exact ⟨startedTenant.trans new.1.symm, startedScope.trans new.2.symm⟩

end Step

private theorem StartsOnce.of_concat {op : Op}
    (once : StartsOnce tenantId scope (ops ++ [op])) : StartsOnce tenantId scope ops := by
  intro before current after split
  exact once before current (after ++ [op]) (by simp [split])

private theorem counted_run (once : StartsOnce tenantId scope ops) : Counted tenantId scope ops := by
  induction ops using List.reverseRecOn with
  | nil =>
    constructor
    · exact List.Pairwise.nil
    · intro lock member
      cases member
  | append_singleton ops op ih =>
    exact counted_step (ih once.of_concat) (once ops op [] rfl)

/-- In every run, the fencing tokens of a resource's holding periods increase strictly if and only if
every acquisition that finds no lock row for it is the first that is granted. -/
theorem tokens_increase_iff (tenantId : String) (scope : Scope) (ops : List Op) :
    ((holdings tenantId scope ops).Pairwise fun earlier later =>
      earlier.fencingToken < later.fencingToken) ↔ StartsOnce tenantId scope ops := by
  constructor
  · intro increasing before op after split call made tenant sameScope missing
    -- the grant on a missing row has the token one, which no token is below
    obtain ⟨lock, started⟩ : ∃ lock, call.holding = some lock := by
      subst tenant sameScope
      simp [Acquisition.holding, Acquisition.continues, Acquisition.outcome, takeLock, missing]
    obtain ⟨lockTenant, lockScope, token⟩ := Acquisition.holding_token started
    have ofResource : lock.isFor tenantId scope = true :=
      LockRow.isFor_iff.mpr ⟨lockTenant.trans tenant, lockScope.trans sameScope⟩
    have shorter : holdings tenantId scope (before ++ [op]) <+: holdings tenantId scope ops := by
      have whole : ops = (before ++ [op]) ++ after := by simp [split]
      rw [whole]
      exact holdings_grow tenantId scope (before ++ [op]) after
    have upToHere := increasing.sublist shorter.sublist
    rw [holdings_start made started ofResource, List.pairwise_append] at upToHere
    apply List.eq_nil_iff_forall_not_mem.mpr
    intro earlier member
    have below := upToHere.2.2 earlier member lock (by simp)
    have positive := one_le_of_mem_holdings member
    rw [tenant, sameScope, missing] at token
    simp only [Option.elim_none] at token
    omega
  · exact fun once => (counted_run once).increasing

/-- A release deletes the lock row, and the next holder gets the token of the one before. -/
theorem released_lock_repeats_token : ¬ ∀ (tenantId : String) (scope : Scope) (ops : List Op),
      (holdings tenantId scope ops).Pairwise fun earlier later =>
        earlier.fencingToken < later.fencingToken := by
  intro increasing
  have repeated := increasing "acme" { resourceType := .template, resourceId := "cover" }
    [.acquireResourceLock "acme" "template" "cover" "editor-1" 30 0,
      .releaseResourceLock "acme" "template" "cover" "editor-1" 1,
      .acquireResourceLock "acme" "template" "cover" "editor-2" 30 0]
  revert repeated
  decide

end HardwareDatabase.DocumentJobs
