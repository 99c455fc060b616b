/-
Module: HardwareDatabase.Proofs.TransitionCalls
Purpose: What one call of `transition` does, as an equivalence.
Trusted boundary: none
-/
import HardwareDatabase.Proofs.SandboxSteps

namespace HardwareDatabase.Sandbox

open Python (strip Dict)
open Relational

variable {env : Environment} {clock : Nat} {db after : Database} {call : TransitionCall} {task row : Task}

/-! ### Checks -/

theorem checkRevision_eq_ok_iff {expectedRevision : Option Int} : task.checkRevision expectedRevision = .ok () ↔
      ∀ revision, expectedRevision = some revision → revision = task.revision := by
  cases expectedRevision with
  | none => simp [Task.checkRevision]
  | some revision => by_cases same : revision = task.revision <;> simp [Task.checkRevision, same]

theorem checkLease_eq_ok_iff : call.checkLease task clock = .ok () ↔
    (call.requireLease = true → ∃ owner token, call.leaseOwner = some owner ∧ call.fencingToken = some token ∧
      task.IsLeasedTo owner token clock) := by
  unfold TransitionCall.checkLease
  split
  · rename_i required
    simp [required, Task.assertLease_eq_ok_iff]
  · rename_i required
    simp [required]

theorem checkRepeated_eq_ok_iff : call.checkRepeated task = .ok () ↔
    ∀ manifest, call.outputManifest = some manifest → manifest.equals task.outputManifest = true := by
  unfold TransitionCall.checkRepeated
  cases call.outputManifest with
  | none => simp
  | some manifest => cases same : manifest.equals task.outputManifest <;> simp [same]

theorem checkEdge_eq_ok_iff {target : TaskStatus} :
    task.checkEdge target = .ok () ↔ target ∈ task.status.transitions := by
  unfold Task.checkEdge
  by_cases edge : target ∈ task.status.transitions
  · simp [edge]
  · by_cases ended : task.status.isTerminal = true <;> simp [edge, ended]

/-! ### Answers -/

/-- The row of a call, at the revision and under the lease that the call asks for. -/
structure TransitionCall.Finds (call : TransitionCall) (db : Database) (task : Task) (clock : Nat) : Prop where
  member : task ∈ db.tasks
  named : task.taskId = call.taskId
  revision : task.checkRevision call.expectedRevision = .ok ()
  lease : call.checkLease task clock = .ok ()

/-- The tables after a row is moved. -/
def TransitionCall.written (call : TransitionCall) (db : Database) (task moved : Task) (target : TaskStatus) :
    Database :=
  { db with tasks := replaceTask db.tasks task moved }.record (call.event task target)

/-- What a call that returns leaves and returns. -/
inductive TransitionCall.Answers (env : Environment) (call : TransitionCall) (db : Database) (clock : Nat) :
    Database → Task → Prop
  | repeated (task : Task) (names : TaskStatus.named? (strip call.toStatus) = some task.status)
      (finds : call.Finds db task clock) (same : call.checkRepeated task = .ok ()) :
      Answers env call db clock db task
  | moved (task : Task) (target : TaskStatus) (manifest : Option Dict)
      (names : TaskStatus.named? (strip call.toStatus) = some target) (finds : call.Finds db task clock)
      (other : task.status ≠ target) (edge : target ∈ task.status.transitions)
      (manifested : call.manifest env task target = .ok manifest) :
      Answers env call db clock (call.written db task (call.moved env target manifest clock task) target)
        (call.moved env target manifest clock task)

theorem require_of_mem (keyed : db.IsKeyed) (member : task ∈ db.tasks) : db.require task.taskId = .ok task := by
  unfold Database.require Database.task?
  rw [keyed.find?_eq member]

theorem move_eq_ok_iff (keyed : db.IsKeyed) (member : task ∈ db.tasks) (named : task.taskId = call.taskId)
    {target : TaskStatus} : call.move env db task target clock = .ok (after, row) ↔
      target ∈ task.status.transitions ∧ ∃ manifest, call.manifest env task target = .ok manifest ∧
        row = call.moved env target manifest clock task ∧ after = call.written db task row target := by
  constructor
  · intro done
    obtain ⟨_, edge, done⟩ := exists_of_bind_eq_ok done
    obtain ⟨manifest, manifested, done⟩ := exists_of_bind_eq_ok done
    obtain ⟨written, wrote, done⟩ := exists_of_bind_eq_ok done
    cases done
    rw [updateOne_eq_ok wrote, ← named, update_at keyed member]
    exact ⟨checkEdge_eq_ok_iff.mp edge, manifest, manifested, rfl, rfl⟩
  · rintro ⟨edge, manifest, manifested, rfl, rfl⟩
    have met : db.tasks.countP (·.isAt task.taskId task.revision) = 1 :=
      countP_eq_one keyed member (isAt_self task) fun _ met => taskId_of_isAt met
    simp only [TransitionCall.move, checkEdge_eq_ok_iff.mpr edge, manifested, bind, Except.bind, ← named,
      Database.updateOne, if_pos met, update_at keyed member]
    rfl

/-- When a transition goes through, and what it answers. -/
theorem transition_eq_ok_iff (keyed : db.IsKeyed) :
    transition env db call clock = .ok (after, row) ↔ call.Answers env db clock after row := by
  constructor
  · intro done
    unfold transition at done
    split at done
    · cases done
    · rename_i target names
      obtain ⟨task, found, done⟩ := exists_of_bind_eq_ok done
      obtain ⟨_, revision, done⟩ := exists_of_bind_eq_ok done
      obtain ⟨_, lease, done⟩ := exists_of_bind_eq_ok done
      obtain ⟨member, named⟩ := require_eq_ok found
      have finds : call.Finds db task clock := ⟨member, named, revision, lease⟩
      split at done
      · rename_i same
        obtain ⟨_, repeated, done⟩ := exists_of_bind_eq_ok done
        cases done
        exact .repeated row (same ▸ names) finds repeated
      · rename_i other
        obtain ⟨edge, manifest, manifested, rfl, rfl⟩ := (move_eq_ok_iff keyed member named).mp done
        exact .moved task target manifest names finds other edge manifested
  · intro answers
    cases answers with
    | repeated _ names finds same =>
      have found := require_of_mem keyed finds.member
      rw [finds.named] at found
      simp only [transition, names, found, finds.revision, finds.lease, same, bind, Except.bind, pure,
        Except.pure, if_true]
    | moved task target manifest names finds other edge manifested =>
      have found := require_of_mem keyed finds.member
      rw [finds.named] at found
      simp only [transition, names, found, finds.revision, finds.lease, bind, Except.bind, if_neg other]
      exact (move_eq_ok_iff keyed finds.member finds.named).mpr ⟨edge, manifest, manifested, rfl, rfl⟩

end HardwareDatabase.Sandbox
