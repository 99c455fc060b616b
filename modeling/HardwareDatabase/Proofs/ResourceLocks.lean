/-
Module: HardwareDatabase.Proofs.ResourceLocks
Purpose: What the statements on `document_resource_locks` do to the key of the table and to the live locks of other
  owners.
Trusted boundary: none
-/
import HardwareDatabase.DocumentJobs.Service

namespace HardwareDatabase.DocumentJobs

open Python (strip lowerAscii isSpace)
open Relational

/-! ### Owner texts -/

theorem append_cons_inj {α : Type} {separator : α} {left left' right right' : List α}
    (absent : separator ∉ left) (absent' : separator ∉ left')
    (same : left ++ separator :: right = left' ++ separator :: right') : left = left' ∧ right = right' := by
  induction left generalizing left' with
  | nil =>
    cases left' with
    | nil => simpa using same
    | cons =>
      simp only [List.nil_append, List.cons_append, List.cons.injEq] at same
      exact absurd (by simp [same.1]) absent'
  | cons head tail ih =>
    cases left' with
    | nil =>
      simp only [List.nil_append, List.cons_append, List.cons.injEq] at same
      exact absurd (by simp [same.1]) absent
    | cons =>
      simp only [List.cons_append, List.cons.injEq] at same
      obtain ⟨rfl, rest⟩ := same
      have tails := ih (fun member => absent (List.mem_cons_of_mem _ member))
        (fun member => absent' (List.mem_cons_of_mem _ member)) rest
      exact ⟨by rw [tails.1], tails.2⟩

theorem toList_toString (number : Nat) : (toString number).toList = Nat.toDigits 10 number := by
  simp [toString, Nat.repr]

theorem toList_jobLockOwner (job : Job) (attempt : Nat) : (jobLockOwner job.jobId attempt).toList =
      "document-job:document-job-".toList ++ (job.uuid.hex.toList ++ ':' :: (toString attempt).toList) := by
  simp [jobLockOwner, Job.jobId]

theorem colon_not_mem_hex (uuid : Uuid) : ':' ∉ uuid.hex.toList := by
  intro member
  have digit := List.all_eq_true.mp uuid.isHex ':' member
  revert digit
  decide

theorem Uuid.ext_of_hex {left right : Uuid} (same : left.hex.toList = right.hex.toList) : left = right := by
  cases left
  cases right
  simpa [String.toList_inj] using same

theorem jobLockOwner_inj {left right : Job} {attempt attempt' : Nat}
    (same : jobLockOwner left.jobId attempt = jobLockOwner right.jobId attempt') :
    left.uuid = right.uuid ∧ attempt = attempt' := by
  have characters := congrArg String.toList same
  rw [toList_jobLockOwner, toList_jobLockOwner, List.append_cancel_left_eq] at characters
  obtain ⟨hex, digits⟩ :=
    append_cons_inj (colon_not_mem_hex left.uuid) (colon_not_mem_hex right.uuid) characters
  refine ⟨Uuid.ext_of_hex hex, ?_⟩
  rw [toList_toString, toList_toString] at digits
  rw [← @Nat.ofDigitChars_ten_toDigits attempt, digits, Nat.ofDigitChars_ten_toDigits]

theorem not_isSpace_of_isDigit {character : Char} (digit : character.isDigit = true) : isSpace character = false := by
  simp only [Char.isDigit, Bool.and_eq_true, decide_eq_true_eq, UInt32.le_iff_toNat_le] at digit
  have lower : 48 ≤ character.toNat := digit.1
  have upper : character.toNat ≤ 57 := digit.2
  simp only [isSpace, Bool.or_eq_false_iff, Bool.and_eq_false_iff, decide_eq_false_iff_not, beq_eq_false_iff_ne]
  omega

theorem strip_jobLockOwner (jobId : String) (attempt : Nat) :
    strip (jobLockOwner jobId attempt) = jobLockOwner jobId attempt := by
  apply Python.strip_eq_self
  · intro character first
    have starts : character = 'd' := by
      simpa [jobLockOwner] using first.symm
    rw [starts]
    decide
  · intro character last
    have member : character ∈ Nat.toDigits 10 attempt := by
      have nonempty : Nat.toDigits 10 attempt ≠ [] := Nat.toDigits_ne_nil
      simp only [jobLockOwner, String.toList_append, toList_toString,
        List.getLast?_append_of_ne_nil _ nonempty] at last
      exact List.mem_of_getLast? last
    have digit := Nat.isDigit_of_mem_toDigits (by decide) (by decide) member
    exact not_isSpace_of_isDigit digit

theorem toLower_of_isHexDigit {character : Char} (digit : isHexDigit character = true) :
    character.toLower = character := by
  delta Char.toLower
  rw [dif_neg]
  rintro ⟨upper, last⟩
  simp only [isHexDigit, Char.isDigit, Bool.or_eq_true, Bool.and_eq_true, decide_eq_true_eq,
    UInt32.le_iff_toNat_le, Char.le_def, ge_iff_le] at digit upper last
  simp only [Char.reduceVal, UInt32.reduceToNat] at digit upper last
  omega

theorem map_toLower_hex (uuid : Uuid) : uuid.hex.toList.map Char.toLower = uuid.hex.toList := by
  conv_rhs => rw [← List.map_id uuid.hex.toList]
  apply List.map_congr_left
  intro character member
  exact toLower_of_isHexDigit (List.all_eq_true.mp uuid.isHex character member)

variable {job : Job}

/-- The `LIKE` pattern of one job matches the lock owners of no other job. -/
theorem uuid_eq_of_likePrefix {other : Job} {attempt : Nat}
    (matched : likePrefix ("document-job:" ++ job.jobId ++ ":") (jobLockOwner other.jobId attempt) =
      true) : other.uuid = job.uuid := by
  simp only [likePrefix, List.isPrefixOf_iff_prefix, toList_jobLockOwner] at matched
  obtain ⟨rest, whole⟩ := matched
  have characters : "document-job:document-job-".toList.map Char.toLower ++
      (job.uuid.hex.toList ++ ':' :: rest) =
      "document-job:document-job-".toList.map Char.toLower ++
      (other.uuid.hex.toList ++ ':' :: (toString attempt).toList.map Char.toLower) := by
    simpa [Job.jobId, map_toLower_hex] using whole
  rw [List.append_cancel_left_eq] at characters
  obtain ⟨hex, -⟩ :=
    append_cons_inj (colon_not_mem_hex job.uuid) (colon_not_mem_hex other.uuid) characters
  exact (Uuid.ext_of_hex hex).symm

theorem likePrefix_jobLockOwner (jobId : String) (attempt : Nat) :
    likePrefix ("document-job:" ++ jobId ++ ":") (jobLockOwner jobId attempt) = true := by
  simp only [likePrefix, jobLockOwner, List.isPrefixOf_iff_prefix, String.toList_append, List.map_append]
  exact List.prefix_append _ _

/-! ### Scopes -/

variable {scope : Scope}

theorem validateResourceScope_self {resourceType resourceId : String}
    (valid : validateResourceScope resourceType resourceId = .ok scope) :
    validateResourceScope scope.resourceType.text scope.resourceId = .ok scope := by
  rw [validateResourceScope] at valid
  split at valid
  · cases valid
  · rename_i type _
    split at valid
    · cases valid
    · rename_i usable
      cases valid
      have known : ResourceType.ofText (lowerAscii (strip type.text)) = some type := by
        cases type <;> decide
      simp [validateResourceScope, known, usable]

/-! ### The lock table -/

variable {tenantId : String}

theorem LockRow.isFor_iff {row : LockRow} :
    row.isFor tenantId scope = true ↔ row.tenantId = tenantId ∧ row.scope = scope := by
  simp [LockRow.isFor]

variable {ownerId : String}

theorem LockRow.isHeldBy_iff {fencingToken : Nat} {row : LockRow} :
    row.isHeldBy tenantId scope ownerId fencingToken = true ↔
      row.tenantId = tenantId ∧ row.scope = scope ∧ row.ownerId = ownerId ∧ row.fencingToken = fencingToken := by
  simp [LockRow.isHeldBy, LockRow.isFor_iff, and_assoc]

/-- The primary key of the lock table. -/
def LockRow.resource (row : LockRow) : String × Scope :=
  (row.tenantId, row.scope)

/-- Every lock that is live at `clock` and whose owner is not `mine` is kept as it is. -/
def KeepsOthers (mine : String → Prop) (clock : Nat) (before after : List LockRow) : Prop :=
  ∀ lock ∈ before, clock < lock.leaseExpiresAt → ¬ mine lock.ownerId → lock ∈ after

namespace KeepsOthers

variable {mine wider : String → Prop} {clock : Nat} {first second third : List LockRow}

theorem refl (mine : String → Prop) (clock : Nat) (locks : List LockRow) : KeepsOthers mine clock locks locks :=
  fun _ member _ _ => member

theorem trans (one : KeepsOthers mine clock first second)
    (two : KeepsOthers mine clock second third) : KeepsOthers mine clock first third := by
  intro lock member live other
  exact two lock (one lock member live other) live other

theorem mono (keeps : KeepsOthers mine clock first second)
    (implied : ∀ owner, mine owner → wider owner) : KeepsOthers wider clock first second := by
  intro lock member live other
  exact keeps lock member live fun owned => other (implied _ owned)

end KeepsOthers

theorem deleteWhere_keepsOthers {p : LockRow → Bool} {mine : String → Prop} (clock : Nat)
    (locks : List LockRow) (owned : ∀ row, p row = true → mine row.ownerId) :
    KeepsOthers mine clock locks (deleteWhere p locks) := by
  intro lock member _ other
  apply mem_deleteWhere.mpr
  refine ⟨member, ?_⟩
  by_contra selected
  exact other (owned lock (by simpa using selected))

theorem dropLock_keepsOthers (locks : List LockRow) (tenantId : String) (scope : Scope)
    (ownerId : String) (fencingToken clock : Nat) :
    KeepsOthers (· = ownerId) clock locks (dropLock locks tenantId scope ownerId fencingToken) := by
  apply deleteWhere_keepsOthers
  intro row selected
  exact (LockRow.isHeldBy_iff.mp selected).2.2.1

theorem extendLock_keepsOthers (locks : List LockRow) (tenantId : String) (scope : Scope)
    (ownerId : String) (fencingToken expires clock : Nat) :
    KeepsOthers (· = ownerId) clock locks (extendLock locks tenantId scope ownerId fencingToken expires) := by
  intro lock member _ other
  apply mem_updateWhere.mpr
  refine Or.inr ⟨member, ?_⟩
  by_contra selected
  exact other (LockRow.isHeldBy_iff.mp (by simpa using selected)).2.2.1

variable {locks : List LockRow}

theorem extendLock_unique {fencingToken expires : Nat} (unique : UniqueOn LockRow.resource locks) :
    UniqueOn LockRow.resource (extendLock locks tenantId scope ownerId fencingToken expires) := by
  unfold extendLock
  exact unique.updateWhere fun _ => rfl

section Take

variable {locks : List LockRow} {tenantId ownerId : String} {scope : Scope} {leaseSeconds : Int}
  {now : Nat}

/-- An acquisition takes no live lock from another owner, as long as its instant is not ahead of the
clock. -/
theorem takeLock_keepsOthers {clock : Nat} (unique : UniqueOn LockRow.resource locks) (past : now ≤ clock) :
    KeepsOthers (· = ownerId) clock locks (takeLock locks tenantId scope ownerId leaseSeconds now).2 := by
  intro lock member live other
  rw [takeLock]
  split
  · simp [member]
  · rename_i row found
    split
    · exact member
    · rename_i free
      apply mem_updateWhere.mpr
      refine Or.inr ⟨member, ?_⟩
      by_contra selected
      -- the lock would be the row that was found, which is active and not the owner's
      have same : lock = row := by
        obtain ⟨tenant, sameScope⟩ := LockRow.isFor_iff.mp (by simpa using selected)
        obtain ⟨rowTenant, rowScope⟩ := LockRow.isFor_iff.mp (List.find?_some found)
        apply unique.eq_of_key member (List.mem_of_find?_eq_some found)
        simp [LockRow.resource, tenant, sameScope, rowTenant, rowScope]
      subst same
      apply free
      have active : lock.isActive now = true := by
        simp only [LockRow.isActive, decide_eq_true_eq]
        omega
      simp [active, other]

theorem takeLock_granted {lock : LockRow}
    (granted : (takeLock locks tenantId scope ownerId leaseSeconds now).1 = some lock) :
    lock ∈ (takeLock locks tenantId scope ownerId leaseSeconds now).2 ∧ lock.tenantId = tenantId ∧
      lock.scope = scope ∧ lock.ownerId = ownerId ∧ lock.leaseExpiresAt = leaseEnd now leaseSeconds := by
  rw [takeLock] at granted ⊢
  split at granted
  · simp only [Option.some.injEq] at granted
    subst granted
    simp
  · rename_i row found
    split at granted
    · cases granted
    · rename_i free
      rw [if_neg free]
      simp only [Option.some.injEq] at granted
      subst granted
      obtain ⟨tenant, sameScope⟩ := LockRow.isFor_iff.mp (List.find?_some found)
      refine ⟨?_, rfl, rfl, rfl, rfl⟩
      apply mem_updateWhere.mpr
      refine Or.inl ⟨row, List.mem_of_find?_eq_some found, List.find?_some found, ?_⟩
      simp [← tenant, ← sameScope]

theorem takeLock_refused (refused : (takeLock locks tenantId scope ownerId leaseSeconds now).1 = none) :
    (takeLock locks tenantId scope ownerId leaseSeconds now).2 = locks := by
  rw [takeLock] at refused ⊢
  split at refused
  · cases refused
  · split at refused
    · rename_i row _ taken
      rw [if_pos taken]
    · cases refused

theorem takeLock_unique (unique : UniqueOn LockRow.resource locks) :
    UniqueOn LockRow.resource (takeLock locks tenantId scope ownerId leaseSeconds now).2 := by
  rw [takeLock]
  split
  · rename_i missing
    apply unique.append
    intro other member same
    have differs := List.find?_eq_none.mp missing other member
    apply differs
    simp only [LockRow.resource, Prod.mk.injEq] at same
    exact LockRow.isFor_iff.mpr same
  · split
    · exact unique
    · exact unique.updateWhere fun _ => rfl

end Take

/-! ### Releases -/

theorem validate_of_scopeFromPayload {payload : Payload} {workOrderId : Option String}
    (selected : resourceScopeFromPayload payload workOrderId = .ok (some scope)) :
    validateResourceScope scope.resourceType.text scope.resourceId = .ok scope := by
  have mapped : ∀ {resourceType resourceId : String},
      (validateResourceScope resourceType resourceId).map some = .ok (some scope) →
      validateResourceScope scope.resourceType.text scope.resourceId = .ok scope := by
    intro resourceType resourceId valid
    cases checked : validateResourceScope resourceType resourceId with
    | error => simp [checked, Except.map] at valid
    | ok =>
      simp only [checked, Except.map, Except.ok.injEq, Option.some.injEq] at valid
      rw [valid] at checked
      exact validateResourceScope_self checked
  rw [resourceScopeFromPayload] at selected
  split at selected
  · cases selected
  · exact mapped selected
  · split at selected
    · exact mapped selected
    · split at selected
      · exact mapped selected
      · split at selected
        · exact mapped selected
        · split at selected
          · exact mapped selected
          · cases selected

theorem releaseJobLock_spec {after : List LockRow} (clock : Nat)
    (unique : UniqueOn LockRow.resource locks) (released : releaseJobLock locks job = .ok after) :
    UniqueOn LockRow.resource after ∧ KeepsOthers (· = job.lockOwner) clock locks after := by
  cases selected : job.scope with
  | error => simp [releaseJobLock, selected, bind, Except.bind] at released
  | ok found =>
    cases found with
    | none =>
      simp only [releaseJobLock, selected, bind, Except.bind, pure, Except.pure, Except.ok.injEq] at released
      subst released
      exact ⟨unique, KeepsOthers.refl _ _ _⟩
    | some =>
      have valid := validate_of_scopeFromPayload selected
      simp only [releaseJobLock, selected, releaseResourceLock, valid, bind, Except.bind, pure,
        Except.pure, Except.ok.injEq] at released
      subst released
      exact ⟨unique.deleteWhere, dropLock_keepsOthers _ _ _ _ _ _⟩

theorem locksForClaim_spec {after : List LockRow} {now : Nat} (clock : Nat) (unique : UniqueOn LockRow.resource locks)
    (valid : validateResourceScope scope.resourceType.text scope.resourceId = .ok scope)
    (released : locksForClaim locks job scope now = .ok after) :
    UniqueOn LockRow.resource after ∧ KeepsOthers (· = job.lockOwner) clock locks after := by
  rw [locksForClaim] at released
  split at released
  · simp only [releaseResourceLock, valid, bind, Except.bind, pure, Except.pure, Except.ok.injEq] at released
    subst released
    exact ⟨unique.deleteWhere, dropLock_keepsOthers _ _ _ _ _ _⟩
  · simp only [pure, Except.pure, Except.ok.injEq] at released
    subst released
    exact ⟨unique, KeepsOthers.refl _ _ _⟩

theorem revokeJobLocks_spec {after : List LockRow} (clock : Nat)
    (unique : UniqueOn LockRow.resource locks) (revoked : revokeJobLocks locks job = .ok after) :
    UniqueOn LockRow.resource after ∧
      KeepsOthers (fun owner => likePrefix ("document-job:" ++ job.jobId ++ ":") owner = true) clock locks after := by
  cases released : releaseJobLock locks job with
  | error => simp [revokeJobLocks, released, bind, Except.bind] at revoked
  | ok =>
    simp only [revokeJobLocks, released, bind, Except.bind, pure, Except.pure, Except.ok.injEq] at revoked
    subst revoked
    obtain ⟨freedKey, freedKeeps⟩ := releaseJobLock_spec clock unique released
    refine ⟨freedKey.deleteWhere, ?_⟩
    have own : ∀ owner, owner = job.lockOwner →
        likePrefix ("document-job:" ++ job.jobId ++ ":") owner = true := by
      rintro owner rfl
      exact likePrefix_jobLockOwner job.jobId job.attempt
    exact (freedKeeps.mono own).trans (deleteWhere_keepsOthers clock _ fun row matched => matched)

theorem acquireResourceLock_eq
    {leaseSeconds : Int} {now : Nat} (tenant : strip tenantId = tenantId) (named : tenantId ≠ "")
    (owner : strip ownerId = ownerId) (owned : ownerId ≠ "")
    (valid : validateResourceScope scope.resourceType.text scope.resourceId = .ok scope) :
    acquireResourceLock locks tenantId scope.resourceType.text scope.resourceId ownerId leaseSeconds
      now = .ok (takeLock locks tenantId scope ownerId leaseSeconds now) := by
  simp [acquireResourceLock, tenant, owner, named, owned, valid, bind, Except.bind, pure, Except.pure]

theorem jobLockOwner_ne_empty (jobId : String) (attempt : Nat) : jobLockOwner jobId attempt ≠ "" := by
  intro empty
  have characters := congrArg String.toList empty
  simp [jobLockOwner] at characters

/-! ### Direct calls -/

section Direct

variable {locks after : List LockRow} {tenantId resourceType resourceId ownerId : String}
  {fencingToken now clock : Nat} {leaseSeconds : Int}

theorem acquireResourceLock_spec {granted : Option LockRow}
    (unique : UniqueOn LockRow.resource locks) (past : now ≤ clock)
    (acquired : acquireResourceLock locks tenantId resourceType resourceId ownerId leaseSeconds now =
      .ok (granted, after)) :
    UniqueOn LockRow.resource after ∧ KeepsOthers (· = strip ownerId) clock locks after := by
  simp only [acquireResourceLock, bind, Except.bind, pure, Except.pure, throw, throwThe,
    MonadExceptOf.throw] at acquired
  split at acquired
  · cases acquired
  · split at acquired
    · cases acquired
    · simp only [Except.ok.injEq] at acquired
      have table := congrArg Prod.snd acquired
      simp only at table
      rw [← table]
      exact ⟨takeLock_unique unique, takeLock_keepsOthers unique past⟩

theorem renewResourceLock_spec {renewed : LockRow} (clock : Nat) (unique : UniqueOn LockRow.resource locks)
    (extended : renewResourceLock locks tenantId resourceType resourceId ownerId fencingToken
      leaseSeconds now = .ok (renewed, after)) :
    UniqueOn LockRow.resource after ∧ KeepsOthers (· = ownerId) clock locks after := by
  obtain ⟨scope, -, rest⟩ := exists_of_bind_eq_ok extended
  simp only at rest
  split at rest
  · cases rest
  · split at rest
    · cases rest
      exact ⟨extendLock_unique unique, extendLock_keepsOthers _ _ _ _ _ _ _⟩
    · cases rest

theorem releaseResourceLock_spec {found : Bool} (clock : Nat) (unique : UniqueOn LockRow.resource locks)
    (released : releaseResourceLock locks tenantId resourceType resourceId ownerId fencingToken =
      .ok (found, after)) : UniqueOn LockRow.resource after ∧ KeepsOthers (· = ownerId) clock locks after := by
  simp only [releaseResourceLock, bind, Except.bind, pure, Except.pure] at released
  split at released
  · cases released
  · cases released
    exact ⟨unique.deleteWhere, dropLock_keepsOthers _ _ _ _ _ _⟩

end Direct

end HardwareDatabase.DocumentJobs
