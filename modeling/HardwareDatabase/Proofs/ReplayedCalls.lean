/-
Module: HardwareDatabase.Proofs.ReplayedCalls
Purpose: When a call of `transition` that is made again with the same arguments is answered again: the lease and the
  revision are checked before the branch for repeated calls.
Trusted boundary: none
-/
import HardwareDatabase.Proofs.TransitionCalls

namespace HardwareDatabase.Sandbox

open Python (strip Dict)
open Relational

variable {env : Environment} {clock later : Nat} {db after : Database} {call : TransitionCall} {before row : Task}

/-! ### Replayable calls -/

/-- The manifest that a call which brings one leaves in the row that it moves. -/
def storedManifest (env : Environment) (before : Task) (target : TaskStatus) (manifest : Dict) : Dict :=
  if target = .succeeded then safeManifest env (safeManifest env (manifestOr manifest before.outputManifest))
  else safeManifest env manifest

/-- A call on a row that can be made again: the row has the status already, or the call names no revision, needs no
lease that its move ends and brings a manifest that is stored as it is. The lease it needs lasts until then. -/
inductive TransitionCall.Replayable (env : Environment) (call : TransitionCall) (before : Task) (later : Nat) : Prop
  | settled (names : TaskStatus.named? (strip call.toStatus) = some before.status)
      (lease : call.checkLease before later = .ok ())
  | moving (target : TaskStatus) (names : TaskStatus.named? (strip call.toStatus) = some target)
      (other : before.status ≠ target) (unversioned : call.expectedRevision = none)
      (keeps : call.requireLease = true → target.endsLease = false) (lease : call.checkLease before later = .ok ())
      (stored : ∀ manifest, call.outputManifest = some manifest →
        manifest.equals (storedManifest env before target manifest) = true)

private theorem TransitionCall.Answers.checks (answers : call.Answers env db clock after row) (keyed : db.IsKeyed)
    (member : before ∈ db.tasks) (named : before.taskId = call.taskId)
    (names : TaskStatus.named? (strip call.toStatus) = some before.status) :
    before.checkRevision call.expectedRevision = .ok () ∧ call.checkLease before clock = .ok () ∧
      call.checkRepeated before = .ok () := by
  cases answers with
  | repeated _ _ finds same =>
    obtain rfl := keyed.eq_of_key finds.member member (finds.named.trans named.symm)
    exact ⟨finds.revision, finds.lease, same⟩
  | moved task target manifest targetNames finds other =>
    obtain rfl := keyed.eq_of_key finds.member member (finds.named.trans named.symm)
    rw [names] at targetNames
    exact absurd (Option.some.inj targetNames) other

private theorem returns_row_iff (keyed : db.IsKeyed) (member : row ∈ db.tasks) (named : row.taskId = call.taskId)
    (names : TaskStatus.named? (strip call.toStatus) = some row.status) :
    transition env db call clock = .ok (db, row) ↔ row.checkRevision call.expectedRevision = .ok () ∧
      call.checkLease row clock = .ok () ∧ call.checkRepeated row = .ok () := by
  rw [transition_eq_ok_iff keyed]
  constructor
  · intro answers
    exact answers.checks keyed member named names
  · rintro ⟨revision, lease, same⟩
    exact .repeated row names ⟨member, named, revision, lease⟩ same

/-! ### The row that a call leaves -/

section Moved

variable {target : TaskStatus} {manifest : Option Dict}

private theorem checkRevision_moved_iff (passed : before.checkRevision call.expectedRevision = .ok ()) :
    (call.moved env target manifest clock before).checkRevision call.expectedRevision = .ok () ↔
      call.expectedRevision = none := by
  rw [checkRevision_eq_ok_iff] at passed ⊢
  constructor
  · intro again
    cases named : call.expectedRevision with
    | none => rfl
    | some revision =>
      have first := passed revision named
      have second : revision = ((before.revision + 1 : Nat) : Int) := again revision named
      omega
  · intro unversioned revision named
    rw [unversioned] at named
    cases named

private theorem checkLease_moved_iff : call.checkLease (call.moved env target manifest clock before) later = .ok () ↔
    (call.requireLease = true → target.endsLease = false) ∧ call.checkLease before later = .ok () := by
  simp only [checkLease_eq_ok_iff]
  cases ends : target.endsLease with
  | false => simp [Task.IsLeasedTo, TransitionCall.moved, ends]
  | true =>
    constructor
    · intro leased
      have free : call.requireLease = false := by
        cases required : call.requireLease with
        | false => rfl
        | true =>
          obtain ⟨owner, token, -, -, present, held, -⟩ := leased required
          exact absurd (by simpa [TransitionCall.moved, ends] using held.symm) present
      simp [free]
    · rintro ⟨keeps, -⟩ required
      cases keeps required

private theorem manifest_stored (manifested : call.manifest env before target = .ok manifest) {brought : Dict}
    (brings : call.outputManifest = some brought) :
    (call.moved env target manifest clock before).outputManifest = storedManifest env before target brought := by
  unfold TransitionCall.manifest at manifested
  unfold storedManifest
  split at manifested
  · rename_i success
    simp only [brings, Option.getD_some] at manifested
    split at manifested
    · cases manifested
    split at manifested
    · cases manifested
    · cases manifested
      simp [TransitionCall.moved, success]
  · rename_i other
    split at manifested
    · cases manifested
    · cases manifested
      simp [TransitionCall.moved, brings, other]

private theorem checkRepeated_moved_iff (manifested : call.manifest env before target = .ok manifest) :
    call.checkRepeated (call.moved env target manifest clock before) = .ok () ↔
      ∀ brought, call.outputManifest = some brought →
        brought.equals (storedManifest env before target brought) = true := by
  rw [checkRepeated_eq_ok_iff]
  constructor
  · intro same brought brings
    rw [← manifest_stored manifested brings]
    exact same brought brings
  · intro same brought brings
    rw [manifest_stored manifested brings]
    exact same brought brings

end Moved

/-! ### Repeated calls -/

/-- After a call has returned, it returns the same from the same tables exactly when it is replayable. -/
theorem repeats_iff (keyed : db.IsKeyed) (member : before ∈ db.tasks) (named : before.taskId = call.taskId)
    (done : transition env db call clock = .ok (after, row)) :
    transition env after call later = .ok (after, row) ↔ call.Replayable env before later := by
  have keyedAfter : after.IsKeyed := (transition_writes keyed done).keyed keyed
  cases (transition_eq_ok_iff keyed).mp done with
  | repeated _ names finds same =>
    obtain rfl := keyed.eq_of_key finds.member member (finds.named.trans named.symm)
    rw [returns_row_iff keyed finds.member named names]
    constructor
    · rintro ⟨-, lease, -⟩
      exact .settled names lease
    · intro replayable
      refine ⟨finds.revision, ?_, same⟩
      cases replayable with
      | settled _ lease => exact lease
      | moving _ _ _ _ _ lease => exact lease
  | moved task target manifest names finds other edge manifested =>
    obtain rfl := keyed.eq_of_key finds.member member (finds.named.trans named.symm)
    rw [returns_row_iff keyedAfter (mem_replaceTask_self member) named names,
      checkRevision_moved_iff finds.revision, checkLease_moved_iff, checkRepeated_moved_iff manifested]
    constructor
    · rintro ⟨unversioned, ⟨keeps, lease⟩, stored⟩
      exact .moving target names other unversioned keeps lease stored
    · intro replayable
      cases replayable with
      | settled same =>
        rw [names] at same
        exact absurd (Option.some.inj same).symm other
      | moving target' names' _ unversioned keeps lease stored =>
        rw [names] at names'
        obtain rfl := Option.some.inj names'
        exact ⟨unversioned, ⟨keeps, lease⟩, stored⟩

/-- A call under a lease that ends the task is not answered again. -/
theorem ending_never_replays (keyed : db.IsKeyed) (member : before ∈ db.tasks) (named : before.taskId = call.taskId)
    {target : TaskStatus} (names : TaskStatus.named? (strip call.toStatus) = some target)
    (other : before.status ≠ target) (ends : target.endsLease = true) (required : call.requireLease = true)
    (done : transition env db call clock = .ok (after, row)) : transition env after call later ≠ .ok (after, row) := by
  intro again
  cases (repeats_iff keyed member named done).mp again with
  | settled same =>
    rw [names] at same
    exact other (Option.some.inj same).symm
  | moving target' names' _ _ keeps =>
    rw [names] at names'
    obtain rfl := Option.some.inj names'
    rw [keeps required] at ends
    cases ends

/-- In every run, a call that has returned is answered again, with the same task and without a write, exactly when it
is replayable on the row that it found; `complete` and `fail` are not when they have ended the task. -/
theorem replays_iff (env : Environment) (ops : List Op) (call : TransitionCall) (later : Nat) {before after row}
    (member : before ∈ ((ledger env).run ops).db.tasks) (named : before.taskId = call.taskId)
    (done : transition env ((ledger env).run ops).db call ((ledger env).run ops).clock = .ok (after, row)) :
    (transition env after call later = .ok (after, row) ↔ call.Replayable env before later) ∧
      ((∃ owner token manifest revision actor,
          call = completeCall before.taskId owner token manifest revision actor ∧ before.status ≠ .succeeded) ∨
        (∃ owner token code revision,
          call = failCall before.taskId owner token code revision ∧ before.status ≠ .failed) →
        transition env after call later ≠ .ok (after, row)) := by
  constructor
  · exact repeats_iff (run_keyed ops) member named done
  · rintro (⟨owner, token, manifest, revision, actor, rfl, other⟩ | ⟨owner, token, code, revision, rfl, other⟩)
    · have names : TaskStatus.named? (strip "succeeded") = some .succeeded := by decide
      exact ending_never_replays (run_keyed ops) member rfl names other rfl rfl done
    · have names : TaskStatus.named? (strip "failed") = some .failed := by decide
      exact ending_never_replays (run_keyed ops) member rfl names other rfl rfl done

/-- A task that was admitted is queued, and queued again without a write. -/
theorem queueing_replays : ∃ after row, transition .default ((ledger .default).run [.create .sample "t" "" "" 0]).db
        { taskId := "t", toStatus := "queued" } 0 = .ok (after, row) ∧
      transition .default after { taskId := "t", toStatus := "queued" } 5 = .ok (after, row) := by
  refine ⟨_, _, rfl, ?_⟩
  apply (replays_iff .default [.create .sample "t" "" "" 0] _ 5 (List.Mem.head _) rfl rfl).1.mpr
  exact .moving .queued (by decide) (by decide) rfl (by decide) rfl (by simp)

/-- A worker whose task has failed asks again: its lease is gone. -/
theorem failure_not_replayed : ¬ ∀ (env : Environment) (ops : List Op) (call : TransitionCall) (later : Nat)
    (after : Database) (row : Task),
    transition env ((ledger env).run ops).db call ((ledger env).run ops).clock = .ok (after, row) →
      transition env after call later = .ok (after, row) := by
  intro always
  have repeated := always .default [.create .sample "t" "" "" 0, .claim "t" "w" none "" 0]
    (failCall "t" "w" 1 "runner_failed" none) 0 _ _ rfl
  cases repeated

end HardwareDatabase.Sandbox
