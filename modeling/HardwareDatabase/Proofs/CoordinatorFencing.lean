/-
Module: HardwareDatabase.Proofs.CoordinatorFencing
Purpose: The fencing of the coordinator leases: each call of a candidate is one operation on the lease of its scope.
Trusted boundary: none
-/
import HardwareDatabase.Attachments.CoordinatorLease

namespace HardwareDatabase.Attachments

open Relational

variable {coordinators : Nat → Coordinator}

/-! ### Calls as operations on a lease -/

private theorem perform_operation (state : State) (op : Op) : ∃ row, (perform coordinators state op).1.leases =
        Function.update state.leases (coordinators op.candidate).scope row ∧
      Lease.Operation "" (coordinators op.candidate).workerId
        (state.leases (coordinators op.candidate).scope) row (perform coordinators state op).2.granted := by
  cases op with
  | tryAcquire candidate leaseSeconds now => exact ⟨_, rfl, .acquire now _⟩
  | renew candidate token => exact ⟨_, rfl, .renew token _⟩
  | release candidate token => exact ⟨_, rfl, .release token⟩
  | runOnce candidate now =>
    simp only [perform, runOnce, tryAcquire]
    split
    · split
      · rename_i refused
        refine ⟨_, rfl, ?_⟩
        rw [← refused]
        exact .acquire now _
      · rename_i token granted
        refine ⟨_, rfl, ?_⟩
        rw [← granted]
        exact .acquire now _
    · split
      · exact ⟨_, rfl, .renew _ _⟩
      · exact ⟨_, rfl, .renew _ _⟩
  | yieldLease candidate raises =>
    simp only [perform, yieldLease]
    split
    · exact ⟨_, (Function.update_eq_self _ _).symm, .nothing⟩
    · cases raises with
      | true => exact ⟨_, (Function.update_eq_self _ _).symm, .nothing⟩
      | false => exact ⟨_, rfl, .release _⟩

/-! ### Runs -/

private theorem elections_track (distinct : Function.Injective fun candidate => (coordinators candidate).workerId)
    (named : ∀ candidate, (coordinators candidate).workerId ≠ "") (scope : String) (ops : List Op) :
    Grants "" (fun candidate => (coordinators candidate).workerId)
        (((elections coordinators).run ops).leases scope) (grants coordinators scope ops) ∧
      Ordered (grants coordinators scope ops) := by
  refine Machine.history_invariant (fun (state : State) history =>
    Grants "" (fun candidate => (coordinators candidate).workerId) (state.leases scope) history ∧
      Ordered history) ⟨Grants.nil, List.Pairwise.nil⟩ ?_ ops
  rintro state history op ⟨tracked, ordered⟩
  obtain ⟨row, written, operation⟩ := perform_operation state op
  show Grants "" _ ((perform coordinators state op).1.leases scope) _ ∧ _
  rw [written]
  simp only [grantsOf]
  split
  · rename_i here
    rw [here] at operation
    rw [here, Function.update_self]
    exact ⟨tracked.step operation, tracked.ordered_step ordered operation fun _ => tracked.follows distinct (named _)⟩
  · rename_i elsewhere
    rw [Function.update_of_ne (Ne.symm elsewhere), List.append_nil]
    exact ⟨tracked, ordered⟩

private theorem renew_eq_self {leases : Leases} {scope ownerId : String} {token : Int}
    (stale : Lease.isHeld (leases scope) ownerId token = false) (leaseSeconds : Int) (now : Nat) :
    renew leases scope ownerId token leaseSeconds now = (leases, false) := by
  simp [renew, Lease.renew, stale]

private theorem release_eq_self {leases : Leases} {scope ownerId : String} {token : Int}
    (stale : Lease.isHeld (leases scope) ownerId token = false) :
    release leases scope ownerId token = (leases, false) := by
  simp [release, Lease.release, stale]

/-- In every run of candidates with worker ids of their own, a token of a scope is granted to one candidate, a
candidate that takes the lease from another has a greater token, and from then on the other one can neither
renew nor release the lease with its token. -/
theorem coordinator_leases_fence (coordinators : Nat → Coordinator)
    (distinct : Function.Injective fun candidate => (coordinators candidate).workerId)
    (named : ∀ candidate, (coordinators candidate).workerId ≠ "") (scope : String) (ops : List Op) :
    (∀ first second token, (first, token) ∈ grants coordinators scope ops →
        (second, token) ∈ grants coordinators scope ops → first = second) ∧
      ∀ first second token next, [(first, token), (second, next)].Sublist (grants coordinators scope ops) →
        first ≠ second → token < next ∧ (∀ leaseSeconds now, renew ((elections coordinators).run ops).leases scope
            (coordinators first).workerId token leaseSeconds now =
              (((elections coordinators).run ops).leases, false)) ∧
          release ((elections coordinators).run ops).leases scope (coordinators first).workerId token =
            (((elections coordinators).run ops).leases, false) := by
  obtain ⟨tracked, ordered⟩ := elections_track distinct named scope ops
  constructor
  · intro first second token firstMember secondMember
    exact ordered.unique firstMember secondMember rfl
  · intro first second token next taken different
    have fenced : Fenced (first, token) (second, next) := ordered.forall_sublist taken
    have grows : token < next := fenced.2 different
    have member : (second, next) ∈ grants coordinators scope ops :=
      taken.subset (List.mem_cons_of_mem _ (List.mem_singleton_self _))
    have stale := tracked.not_isHeld ordered member grows (coordinators first).workerId
    exact ⟨grows, fun leaseSeconds now => renew_eq_self stale leaseSeconds now, release_eq_self stale⟩

/-- Candidates with worker ids of different lengths. -/
def sampleCoordinators (candidate : Nat) : Coordinator :=
  { workerId := String.ofList (List.replicate (candidate + 1) 'w') }

/-- The second candidate takes over the expired lease of the first one. -/
theorem coordinator_leases_fence_takeover :
    let ops := [Op.runOnce 0 0 0 0, .runOnce 1 1000000 0 0, .runOnce 1 20000000 0 0]
    let leases := ((elections sampleCoordinators).run ops).leases
    [(0, 1), (1, 2)] = grants sampleCoordinators "attachment-waiting-turns" ops ∧
      renew leases "attachment-waiting-turns" "w" 1 15 20000000 = (leases, false) := by
  have distinct : Function.Injective fun candidate => (sampleCoordinators candidate).workerId := by
    intro left right same
    have lengths := congrArg List.length (String.ofList_injective same)
    simpa using lengths
  have named : ∀ candidate, (sampleCoordinators candidate).workerId ≠ "" := by
    intro candidate vacant
    have lengths := congrArg (fun text => text.toList.length) vacant
    simp [sampleCoordinators] at lengths
  have fence := coordinator_leases_fence sampleCoordinators distinct named "attachment-waiting-turns"
    [.runOnce 0 0 0 0, .runOnce 1 1000000 0 0, .runOnce 1 20000000 0 0]
  have taken : [(0, 1), (1, 2)] = grants sampleCoordinators "attachment-waiting-turns"
      [.runOnce 0 0 0 0, .runOnce 1 1000000 0 0, .runOnce 1 20000000 0 0] := by decide +kernel
  refine ⟨taken, ?_⟩
  obtain ⟨-, renewed, -⟩ := fence.2 0 1 1 2 (taken ▸ List.Sublist.refl _) (by decide)
  exact renewed 15 20000000

end HardwareDatabase.Attachments
