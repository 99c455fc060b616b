/-
Module: HardwareDatabase.Proofs.StoredTasks
Purpose: A row of the task store stays sound under every operation whose arguments fit the validators.
Trusted boundary: none
-/
import HardwareDatabase.DocumentTasks.Store

namespace HardwareDatabase.DocumentTasks

open Python (strip clip)
open Relational

/-! ### Sound rows -/

/-- What reading a task makes of its idempotency key. -/
def settledKey (key : Option String) : Option String :=
  (key.map fun key => clip 256 (strip key)).filter (· != "")

/-- A row that reads back as it was written. -/
structure TaskRow.Sound (row : TaskRow) : Prop where
  valid : row.payload.isValid = true
  columns : row.columns = row.payload.columns
  settled : settledKey row.payload.idempotencyKey = row.payload.idempotencyKey

/-- Every row is sound, and no two rows are of one task. -/
structure TaskStore.Sound (store : TaskStore) : Prop where
  rows : ∀ row ∈ store.rows, row.Sound
  unique : UniqueOn (fun row : TaskRow => row.columns.taskId) store.rows

/-- The arguments of an operation fit the validators: a new key is settled once it is cut, only a legacy task
becomes legacy, and a plan comes with a positive version. -/
def TaskStore.Fits (store : TaskStore) : TaskOp → Prop
  | .createTask call =>
    settledKey (settledKey (normalize call.idempotencyKey)) = settledKey (normalize call.idempotencyKey)
  | .updateStatus taskId status _ => ∀ row, store.row? taskId = some row →
      validateStatus status = .ok .legacy → row.payload.origin = .legacy
  | .bindPlan taskId binding _ _ => ∀ row, store.row? taskId = some row →
      binding.check = .ok () → row.payload.pointers.isBound = false →
        binding.documentPlanVersion.all (fun version => 1 ≤ version) = true
  | _ => True

/-- A sound row is readable, and its columns are those of the task that is read. -/
theorem TaskRow.Sound.readable {row : TaskRow} (sound : row.Sound) :
    ∃ task, row.read = .ok task ∧ row.columns = task.columns := by
  refine ⟨row.payload.normalized, ?_, ?_⟩
  · simp only [TaskRow.read, DocumentTask.validated, sound.valid, if_true]
  · rw [sound.columns]
    have settled : row.payload.normalized.idempotencyKey = row.payload.idempotencyKey := sound.settled
    unfold DocumentTask.columns
    rw [settled]
    rfl

theorem sound_empty : TaskStore.empty.Sound where
  rows := fun _ member => absurd member List.not_mem_nil
  unique := .nil _

/-! ### Revisions -/

/-- A revision of a task that stays valid and writes its columns with it. -/
structure Revision.Fits (revision : Revision) (task : DocumentTask) : Prop where
  valid : revision.payload.isValid = true
  key : revision.payload.idempotencyKey = task.idempotencyKey
  names : ∀ columns, (revision.columns columns).taskId = columns.taskId
  columns : { revision.columns task.columns with updatedAt := revision.payload.updatedAt } =
    revision.payload.columns

variable {task : DocumentTask} {taskId : String}

theorem get_spec {store : TaskStore} (read : store.get taskId = .ok task) :
    ∃ row, store.row? taskId = some row ∧ row.payload.isValid = true ∧ task = row.payload.normalized := by
  unfold TaskStore.get at read
  split at read
  · cases read
  · rename_i row found
    simp only [TaskRow.read, DocumentTask.validated] at read
    split at read
    · rename_i valid
      cases read
      exact ⟨row, found, valid, rfl⟩
    · cases read

variable {eventAt : Nat}

theorem rows_write {store after : TaskStore} {revision : Revision}
    (written : store.write taskId revision eventAt = .ok after) :
    after.rows = updateWhere (fun row => row.columns.taskId == taskId) revision.row store.rows := by
  unfold TaskStore.write at written
  split at written
  · split at written
    · cases written
      rfl
    · cases written
  · cases written
    rfl

variable {decide : DocumentTask → Except Failure (Option Revision)}

theorem revise_spec {store after : TaskStore} (done : store.revise taskId eventAt decide = .ok after) :
    after.rows = store.rows ∨ ∃ row revision, store.row? taskId = some row ∧ row.payload.isValid = true ∧
        decide row.payload.normalized = .ok (some revision) ∧
        after.rows = updateWhere (fun row => row.columns.taskId == taskId) revision.row store.rows := by
  unfold TaskStore.revise at done
  obtain ⟨task, read, done⟩ := exists_of_bind_eq_ok done
  obtain ⟨row, found, valid, rfl⟩ := get_spec read
  obtain ⟨decision, decided, done⟩ := exists_of_bind_eq_ok done
  cases decision with
  | none =>
    cases done
    exact .inl rfl
  | some revision => exact .inr ⟨row, revision, found, valid, decided, rows_write done⟩

theorem revise_sound {store after : TaskStore} (sound : store.Sound)
    (done : store.revise taskId eventAt decide = .ok after)
    (fits : ∀ row revision, store.row? taskId = some row → row.payload.isValid = true →
      decide row.payload.normalized = .ok (some revision) → revision.Fits row.payload.normalized) : after.Sound := by
  rcases revise_spec done with same | ⟨row, revision, found, valid, decided, rows⟩
  · exact ⟨by rw [same]; exact sound.rows, by rw [same]; exact sound.unique⟩
  · have fit := fits row revision found valid decided
    have member := List.mem_of_find?_eq_some found
    have named : row.columns.taskId = taskId := by simpa using List.find?_some found
    have soundRow := sound.rows row member
    have settled : row.payload.normalized.idempotencyKey = row.payload.idempotencyKey := soundRow.settled
    have columns : row.columns = row.payload.normalized.columns := by
      rw [soundRow.columns]
      unfold DocumentTask.columns
      rw [settled]
      rfl
    have rewritten : (revision.row row).columns = revision.payload.columns := by
      rw [← fit.columns, Revision.row, columns]
    -- the row of the task is the only one that is written
    have only : ∀ other ∈ store.rows, other.columns.taskId = taskId → other = row := by
      intro other otherMember same
      exact sound.unique.eq_of_key otherMember member (same.trans named.symm)
    constructor
    · intro written writtenMember
      rw [rows] at writtenMember
      rcases mem_updateWhere.mp writtenMember with ⟨old, oldMember, selected, rfl⟩ | ⟨kept, -⟩
      · obtain rfl := only old oldMember (by simpa using selected)
        refine ⟨fit.valid, rewritten, ?_⟩
        simp only [Revision.row]
        rw [fit.key, settled]
        exact soundRow.settled
      · exact sound.rows written kept
    · rw [rows]
      exact sound.unique.updateWhere fun other => fit.names other.columns

/-! ### Operations -/

theorem pointers_isValid (valid : task.isValid = true) : task.pointers.isValid = true := by
  simp only [DocumentTask.isValid, Bool.and_eq_true] at valid
  exact valid.2

theorem isValid_withPointers (valid : task.isValid = true) {pointers : Pointers}
    (pointersValid : pointers.isValid = true) (now : Nat) :
    ({ task.normalized with pointers, updatedAt := now } : DocumentTask).isValid = true := by
  simp only [DocumentTask.isValid, DocumentTask.normalized, Bool.and_eq_true] at valid ⊢
  exact ⟨valid.1, pointersValid⟩

theorem isValid_withStatus (valid : task.isValid = true) {status : TaskStatus}
    (legacy : status = .legacy → task.origin = .legacy) (now : Nat) :
    ({ task.normalized with status, updatedAt := now } : DocumentTask).isValid = true := by
  simp only [DocumentTask.isValid, DocumentTask.normalized, Bool.and_eq_true] at valid ⊢
  refine ⟨⟨valid.1.1, ?_⟩, valid.2⟩
  by_cases becomes : status = .legacy
  · simp [legacy becomes]
  · simp [becomes]

theorem isValid_clearedPointers {pointers : Pointers} (valid : pointers.isValid = true) :
    pointers.withoutPlan.isValid = true := by
  simp only [Pointers.isValid, Pointers.withoutPlan, Bool.and_eq_true] at valid ⊢
  exact ⟨⟨⟨valid.1.1.1, rfl⟩, valid.1.2⟩, rfl⟩

theorem isValid_requested {binding : PlanBinding} (checked : binding.check = .ok ())
    (positive : binding.documentPlanVersion.all (fun version => 1 ≤ version) = true) :
    binding.requested.isValid = true := by
  unfold PlanBinding.check at checked
  split at checked
  · cases checked
  · rename_i spec
    split at checked
    · cases checked
    · rename_i plan
      simp only [not_or, Int.not_lt, ne_eq, Decidable.not_not] at spec plan
      have present : (normalize (some binding.outputSpecId)).isNone = false := by
        simpa [Option.isSome_iff_ne_none] using spec.1
      simp only [Pointers.isValid, PlanBinding.requested, present, plan, positive, Bool.and_eq_true]
      simpa using spec.2

theorem isValid_normalized (task : DocumentTask) : task.normalized.isValid = task.isValid :=
  rfl

theorem idempotencyKey_normalized (call : CreateCall) (origin : Origin) (status : TaskStatus) :
    (call.task origin status).normalized.idempotencyKey = settledKey (normalize call.idempotencyKey) :=
  rfl

theorem createTask_sound {store after : TaskStore} {call : CreateCall} (sound : store.Sound)
    (fits : settledKey (settledKey (normalize call.idempotencyKey)) =
      settledKey (normalize call.idempotencyKey)) (done : createTask store call = .ok after) : after.Sound := by
  unfold createTask at done
  obtain ⟨origin, -, done⟩ := exists_of_bind_eq_ok done
  obtain ⟨status, -, done⟩ := exists_of_bind_eq_ok done
  obtain ⟨task, validated, done⟩ := exists_of_bind_eq_ok done
  split at done
  · obtain ⟨current, -, done⟩ := exists_of_bind_eq_ok done
    split at done
    · cases done
    · cases done
      exact sound
  · split at done
    · cases done
    · rename_i unused
      cases done
      unfold DocumentTask.validated at validated
      split at validated
      · rename_i valid
        cases validated
        constructor
        · intro row member
          rcases List.mem_append.mp member with earlier | new
          · exact sound.rows row earlier
          · rw [List.mem_singleton.mp new]
            refine ⟨?_, rfl, ?_⟩
            · rw [isValid_normalized]
              exact valid
            · simp only [idempotencyKey_normalized]
              exact fits
        · apply sound.unique.append
          intro other member same
          apply unused
          rw [List.any_eq_true]
          exact ⟨other, member, beq_iff_eq.mpr same⟩
      · cases validated

theorem task_sound {store after : TaskStore} {op : TaskOp} (sound : store.Sound) (fits : store.Fits op)
    (done : store.apply op = .ok after) : after.Sound := by
  cases op <;> simp only [TaskStore.apply] at done
  case createTask call => exact createTask_sound sound fits done
  case attachWorkOrder taskId workOrderId now eventAt =>
      unfold attachWorkOrder at done
      split at done
      · cases done
      · refine revise_sound sound done ?_
        intro row revision _ valid decided
        split at decided
        · cases decided
        · split at decided
          · cases decided
          · cases decided
            exact ⟨valid, rfl, fun _ => rfl, rfl⟩
  case advanceWorkOrder taskId workOrderId expectedWorkOrderId now eventAt =>
      unfold advanceWorkOrder at done
      split at done
      · cases done
      · refine revise_sound sound done ?_
        intro row revision _ valid decided
        split at decided
        · cases decided
        · split at decided
          · cases decided
          · cases decided
            exact ⟨valid, rfl, fun _ => rfl, rfl⟩
  case attachRun taskId runId now eventAt =>
      unfold attachRun at done
      split at done
      · cases done
      · refine revise_sound sound done ?_
        intro row revision _ valid decided
        split at decided
        · cases decided
        · cases decided
          exact ⟨valid, rfl, fun _ => rfl, rfl⟩
  case attachArtifact taskId artifactId now eventAt =>
      unfold attachArtifact at done
      split at done
      · cases done
      · refine revise_sound sound done ?_
        intro row revision _ valid decided
        split at decided
        · cases decided
        · cases decided
          exact ⟨valid, rfl, fun _ => rfl, rfl⟩
  case updateStatus taskId status now =>
      unfold updateStatus at done
      obtain ⟨normalized, parsed, done⟩ := exists_of_bind_eq_ok done
      refine revise_sound sound done ?_
      intro row revision found valid decided
      split at decided
      · cases decided
      · cases decided
        refine ⟨isValid_withStatus valid ?_ now, rfl, fun _ => rfl, rfl⟩
        rintro rfl
        exact fits row found parsed
  case bindPlan taskId binding now eventAt =>
      unfold bindPlan at done
      obtain ⟨_, checked, done⟩ := exists_of_bind_eq_ok done
      refine revise_sound sound done ?_
      intro row revision found valid decided
      split at decided
      · split at decided <;> cases decided
      · rename_i unbound
        cases decided
        rw [Bool.not_eq_true] at unbound
        have positive := fits row found checked unbound
        exact ⟨isValid_withPointers valid (isValid_requested checked positive) now, rfl, fun _ => rfl, rfl⟩
  case clearPlan taskId now eventAt =>
      unfold clearPlan at done
      split at done
      · cases done
      · refine revise_sound sound done ?_
        intro row revision _ valid decided
        split at decided
        · cases decided
        · cases decided
          exact ⟨isValid_withPointers valid (isValid_clearedPointers (pointers_isValid valid)) now, rfl,
            fun _ => rfl, rfl⟩

end HardwareDatabase.DocumentTasks
