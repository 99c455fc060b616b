/-
Module: HardwareDatabase.Relational.Lease
Purpose: Leases with a fencing token, as one row that candidates acquire, renew and release; candidates may share a
  name.
Trusted boundary: none
-/
import Mathlib.Data.List.Basic

namespace Relational

/-- A row with the lease of a scope. -/
structure Lease (ο : Type) where
  owner : ο
  token : Int
  expires : Option Nat
deriving Repr, DecidableEq

namespace Lease

variable {ο : Type}

/-- The lease has not expired. -/
def isActive (lease : Lease ο) (now : Nat) : Bool :=
  lease.expires.any (now < ·)

variable [DecidableEq ο]

/-- The row after a candidate has tried to acquire the lease, with the token that it is granted. -/
def acquire (row : Option (Lease ο)) (owner : ο) (now expires : Nat) : Option (Lease ο) × Option Int :=
  match row with
  | none => (some { owner, token := 1, expires := some expires }, some 1)
  | some lease =>
    if lease.owner = owner then (some { lease with expires := some expires }, some lease.token)
    else if lease.isActive now then (row, none)
    else (some { owner, token := lease.token + 1, expires := some expires }, some (lease.token + 1))

/-- The row is leased to an owner under a token. -/
def isHeld (row : Option (Lease ο)) (owner : ο) (token : Int) : Bool :=
  row.any fun lease => lease.owner == owner && lease.token == token

/-- The row after its holder has renewed the lease. -/
def renew (row : Option (Lease ο)) (owner : ο) (token : Int) (expires : Nat) : Option (Lease ο) × Bool :=
  if isHeld row owner token then (row.map fun lease => { lease with expires := some expires }, true)
  else (row, false)

/-- The row after its holder has released the lease. -/
def release (vacant : ο) (row : Option (Lease ο)) (owner : ο) (token : Int) : Option (Lease ο) × Bool :=
  if isHeld row owner token then (row.map fun lease => { lease with owner := vacant, expires := none }, true)
  else (row, false)

end Lease

/-! ### Tokens that were granted -/

section Granted

variable {ο π : Type}

/-- Of two grants to different candidates the later one has the greater token. -/
def Fenced (earlier later : π × Int) : Prop :=
  earlier.2 ≤ later.2 ∧ (earlier.1 ≠ later.1 → earlier.2 < later.2)

/-- The tokens of a history of grants, oldest first, fence off the candidates that have lost the lease. -/
def Ordered (grants : List (π × Int)) : Prop :=
  grants.Pairwise Fenced

/-- The row shows the last grant: its token, and the name of its candidate unless that has released it. -/
structure Grants (vacant : ο) (name : π → ο) (row : Option (Lease ο)) (grants : List (π × Int)) : Prop where
  unused : row = none → grants = []
  latest : ∀ lease, row = some lease → ∃ earlier candidate,
    grants = earlier ++ [(candidate, lease.token)] ∧ (lease.owner = name candidate ∨ lease.owner = vacant)

/-- A candidate does not find its own name on a lease that was granted to another candidate. -/
def Follows (name : π → ο) (row : Option (Lease ο)) (grants : List (π × Int)) (candidate : π) : Prop :=
  ∀ lease, row = some lease → lease.owner = name candidate →
    ∀ last, grants.getLast? = some last → last.1 = candidate

variable {vacant : ο} {name : π → ο} {row : Option (Lease ο)} {grants : List (π × Int)}

theorem Grants.nil : Grants vacant name none [] where
  unused _ := rfl
  latest _ absent := by cases absent

theorem Grants.of_some {lease : Lease ο} {earlier : List (π × Int)} {candidate : π}
    (last : grants = earlier ++ [(candidate, lease.token)])
    (named : lease.owner = name candidate ∨ lease.owner = vacant) : Grants vacant name (some lease) grants where
  unused absent := by cases absent
  latest _ there := by
    cases there
    exact ⟨earlier, candidate, last, named⟩

theorem Grants.getLast? {lease : Lease ο} (tracked : Grants vacant name row grants) (there : row = some lease) :
    ∃ candidate, grants.getLast? = some (candidate, lease.token) ∧
      (lease.owner = name candidate ∨ lease.owner = vacant) := by
  obtain ⟨earlier, candidate, rfl, named⟩ := tracked.latest lease there
  exact ⟨candidate, List.getLast?_concat, named⟩

theorem Ordered.le_last {last : π × Int} (ordered : Ordered grants) (latest : grants.getLast? = some last)
    {grant : π × Int} (member : grant ∈ grants) : grant.2 ≤ last.2 := by
  obtain ⟨earlier, rfl⟩ := List.getLast?_eq_some_iff.mp latest
  rcases List.mem_append.mp member with before | here
  · exact ((List.pairwise_append.mp ordered).2.2 grant before last (List.mem_singleton_self _)).1
  · exact Int.le_of_eq (congrArg Prod.snd (List.mem_singleton.mp here))

theorem Ordered.unique (ordered : Ordered grants) {left right : π × Int} (leftMember : left ∈ grants)
    (rightMember : right ∈ grants) (same : left.2 = right.2) : left.1 = right.1 := by
  have apart : ∀ {earlier later : π × Int}, Fenced earlier later → earlier.2 = later.2 →
      earlier.1 = later.1 := by
    intro earlier later fenced same
    by_contra different
    exact absurd same (Int.ne_of_lt (fenced.2 different))
  have forward : grants.Pairwise fun earlier later => earlier.2 = later.2 → earlier.1 = later.1 :=
    ordered.imp apart
  have backward : grants.Pairwise (flip fun earlier later => earlier.2 = later.2 → earlier.1 = later.1) :=
    ordered.imp fun fenced (same : _ = _) => (apart fenced same.symm).symm
  exact List.Pairwise.forall_of_forall_of_flip (fun _ _ _ => rfl) forward backward leftMember rightMember same

/-- A grant fits to an ordered history where it fits to the last grant. -/
theorem Ordered.concat_iff {last grant : π × Int} (ordered : Ordered grants)
    (latest : grants.getLast? = some last) : Ordered (grants ++ [grant]) ↔ Fenced last grant := by
  obtain ⟨earlier, rfl⟩ := List.getLast?_eq_some_iff.mp latest
  constructor
  · intro extended
    exact (List.pairwise_append.mp extended).2.2 last (List.mem_append_right _ (List.mem_singleton_self _))
      grant (List.mem_singleton_self _)
  · intro fits
    refine List.pairwise_append.mpr ⟨ordered, List.pairwise_singleton _ _, ?_⟩
    intro other member new here
    cases List.mem_singleton.mp here
    rcases List.mem_append.mp member with before | isLast
    · have fenced := (List.pairwise_append.mp ordered).2.2 other before last (List.mem_singleton_self _)
      refine ⟨Int.le_trans fenced.1 fits.1, fun different => ?_⟩
      by_cases same : other.1 = last.1
      · exact Int.lt_of_le_of_lt fenced.1 (fits.2 (same ▸ different))
      · exact Int.lt_of_lt_of_le (fenced.2 same) fits.1
    · rw [List.mem_singleton.mp isLast]
      exact fits

/-- Distinct names that are not vacant keep the candidates apart. -/
theorem Grants.follows (tracked : Grants vacant name row grants) (distinct : Function.Injective name)
    {candidate : π} (named : name candidate ≠ vacant) : Follows name row grants candidate := by
  intro lease there own last latest
  obtain ⟨holder, holds, shown | released⟩ := tracked.getLast? there
  · cases holds.symm.trans latest
    exact distinct (shown.symm.trans own)
  · exact absurd (own.symm.trans released) named

/-! ### What the operations do -/

section Operations

variable [DecidableEq ο]

section

variable (tracked : Grants vacant name row grants)
include tracked

/-- A lease that is acquired is granted, or it is refused and stays as it is. -/
theorem Grants.acquire (candidate : π) (now expires : Nat) :
    Grants vacant name (Lease.acquire row (name candidate) now expires).1
      (grants ++ (Lease.acquire row (name candidate) now expires).2.toList.map (candidate, ·)) := by
  cases row with
  | none => exact Grants.of_some rfl (Or.inl rfl)
  | some =>
    simp only [Lease.acquire]
    split
    · rename_i own
      exact Grants.of_some rfl (Or.inl own)
    · split
      · rw [Option.toList_none, List.map_nil, List.append_nil]
        exact tracked
      · exact Grants.of_some rfl (Or.inl rfl)

/-- An acquisition keeps the tokens ordered just where the candidate does not enter the lease of another. -/
theorem Grants.ordered_acquire_iff (ordered : Ordered grants) (candidate : π) (now expires : Nat) :
    Ordered (grants ++ (Lease.acquire row (name candidate) now expires).2.toList.map (candidate, ·)) ↔
      Follows name row grants candidate := by
  cases row with
  | none =>
    rw [tracked.unused rfl]
    have unnamed : Follows name none ([] : List (π × Int)) candidate := fun _ there => nomatch there
    exact iff_of_true (List.pairwise_singleton _ _) unnamed
  | some lease =>
    obtain ⟨last, latest, -⟩ := tracked.getLast? rfl
    simp only [Lease.acquire]
    split
    · rename_i own
      rw [Option.toList_some, List.map_singleton, ordered.concat_iff latest]
      constructor
      · intro fits other there _ found same
        cases latest.symm.trans same
        by_contra different
        exact absurd (fits.2 different) (Int.lt_irrefl _)
      · intro follows
        have same : last = candidate := follows lease rfl own _ latest
        exact ⟨Int.le_refl _, fun different => absurd same different⟩
    · rename_i foreign
      have unnamed : Follows name (some lease) grants candidate := by
        intro other there named
        cases there
        exact absurd named foreign
      split
      · rw [Option.toList_none, List.map_nil, List.append_nil]
        exact iff_of_true ordered unnamed
      · rw [Option.toList_some, List.map_singleton, ordered.concat_iff latest]
        have grows : lease.token < lease.token + 1 := Int.lt_succ _
        exact iff_of_true ⟨Int.le_of_lt grows, fun _ => grows⟩ unnamed

theorem Grants.renew (owner : ο) (token : Int) (expires : Nat) :
    Grants vacant name (Lease.renew row owner token expires).1 grants := by
  unfold Lease.renew
  split
  · cases row with
    | none => exact tracked
    | some lease =>
      obtain ⟨earlier, candidate, last, named⟩ := tracked.latest lease rfl
      exact Grants.of_some last named
  · exact tracked

theorem Grants.release (owner : ο) (token : Int) :
    Grants vacant name (Lease.release vacant row owner token).1 grants := by
  unfold Lease.release
  split
  · cases row with
    | none => exact tracked
    | some lease =>
      obtain ⟨earlier, candidate, last, -⟩ := tracked.latest lease rfl
      exact Grants.of_some last (Or.inr rfl)
  · exact tracked

/-- The lease is not held under a token after which a greater one was granted. -/
theorem Grants.not_isHeld (ordered : Ordered grants)
    {grant : π × Int} (member : grant ∈ grants) {token : Int} (stale : token < grant.2) (owner : ο) :
    Lease.isHeld row owner token = false := by
  cases row with
  | none => rfl
  | some lease =>
    obtain ⟨candidate, latest, -⟩ := tracked.getLast? rfl
    have reached : grant.2 ≤ lease.token := ordered.le_last latest member
    have different : lease.token ≠ token := Int.ne_of_gt (Int.lt_of_lt_of_le stale reached)
    simp [Lease.isHeld, different]

end

end Operations

/-! ### Runs of operations -/

/-- One operation of an owner on the row, with the token that it is granted. -/
inductive Lease.Operation [DecidableEq ο] (vacant owner : ο) (row : Option (Lease ο)) :
    Option (Lease ο) → Option Int → Prop
  | acquire (now expires : Nat) :
      Operation vacant owner row (Lease.acquire row owner now expires).1 (Lease.acquire row owner now expires).2
  | renew (token : Int) (expires : Nat) : Operation vacant owner row (Lease.renew row owner token expires).1 none
  | release (token : Int) : Operation vacant owner row (Lease.release vacant row owner token).1 none
  | nothing : Operation vacant owner row row none

section Steps

variable [DecidableEq ο] {candidate : π} {after : Option (Lease ο)} {granted : Option Int}

theorem Grants.step (tracked : Grants vacant name row grants)
    (operation : Lease.Operation vacant (name candidate) row after granted) :
    Grants vacant name after (grants ++ granted.toList.map (candidate, ·)) := by
  cases operation with
  | acquire now expires => exact tracked.acquire candidate now expires
  | renew token expires =>
    rw [Option.toList_none, List.map_nil, List.append_nil]
    exact tracked.renew (name candidate) token expires
  | release token =>
    rw [Option.toList_none, List.map_nil, List.append_nil]
    exact tracked.release (name candidate) token
  | nothing =>
    rw [Option.toList_none, List.map_nil, List.append_nil]
    exact tracked

/-- An operation keeps the tokens ordered if none is granted or the candidate enters no lease of another. -/
theorem Grants.ordered_step (tracked : Grants vacant name row grants) (ordered : Ordered grants)
    (operation : Lease.Operation vacant (name candidate) row after granted)
    (follows : granted ≠ none → Follows name row grants candidate) :
    Ordered (grants ++ granted.toList.map (candidate, ·)) := by
  by_cases refused : granted = none
  · rw [refused, Option.toList_none, List.map_nil, List.append_nil]
    exact ordered
  · cases operation with
    | acquire now expires =>
      exact (tracked.ordered_acquire_iff ordered candidate now expires).mpr (follows refused)
    | renew => exact absurd rfl refused
    | release => exact absurd rfl refused
    | nothing => exact absurd rfl refused

end Steps

end Granted

end Relational
