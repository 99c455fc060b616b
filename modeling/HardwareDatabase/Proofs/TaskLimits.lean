/-
Module: HardwareDatabase.Proofs.TaskLimits
Purpose: The concurrency limits of the sandbox hold at every instant: a waiting task holds no lease, and only a live
  one is renewed.
Trusted boundary: none
-/
import HardwareDatabase.Proofs.SandboxSteps

namespace HardwareDatabase.Sandbox

open Relational

variable {env : Environment} {clock : Nat} {db after : Database} {reports : List Report}

/-! ### Waiting tasks -/

/-- A task that waits for its claim holds no lease. -/
def Database.WaitsUnleased (db : Database) : Prop :=
  ∀ task ∈ db.tasks, task.status.isWaiting = true → task.leaseExpiresAt = none

private theorem waiting_of_edge {status target : TaskStatus} (edge : target ∈ status.transitions)
    (waiting : target.isWaiting = true) : status.isWaiting = true := by
  cases status <;> cases target <;> simp_all [TaskStatus.transitions, TaskStatus.isWaiting]

private theorem runningLike_of_edge {status target : TaskStatus} (edge : target ∈ status.transitions)
    (running : target.isRunningLike = true) : status.isRunningLike = true ∨ status.isWaiting = true := by
  cases status <;> cases target <;>
    simp_all [TaskStatus.transitions, TaskStatus.isWaiting, TaskStatus.isRunningLike]

variable {task revised : Task}

private theorem waitsUnleased_change {events : List TaskEvent}
    (unleased : task.status.isWaiting = true → task.leaseExpiresAt = none)
    (change : Change env clock db task revised events reports) (waiting : revised.status.isWaiting = true) :
    revised.leaseExpiresAt = none := by
  cases change with
  | moved _ event revises logs edge token lease =>
    have before := unleased (waiting_of_edge edge waiting)
    rcases lease with kept | cleared
    · exact (congrArg Prod.snd kept).trans before
    · exact congrArg Prod.snd cleared
  | noted _ event revises logs status token lease =>
    rw [status] at waiting
    exact (congrArg Prod.snd lease).trans (unleased waiting)
  | claimed => cases waiting
  | renewed now expires expiry stored =>
    rw [unleased waiting] at stored
    cases stored

variable {taskId : String}

private theorem waitsUnleased_write (unleased : db.WaitsUnleased)
    (write : Write env clock db taskId after reports) : after.WaitsUnleased := by
  intro row member waiting
  cases write with
  | inserted =>
    rcases List.mem_append.mp member with old | new
    · exact unleased row old waiting
    · rw [List.mem_singleton.mp new]
      rfl
  | changed task revised events _ taskMember change =>
    rcases mem_replaceTask member with ⟨rfl, -⟩ | ⟨old, -⟩
    · exact waitsUnleased_change (unleased task taskMember) change waiting
    · exact unleased row old waiting

/-! ### Counts -/

variable {earlier now : Nat}

private theorem isActiveAt_anti (order : earlier ≤ now)
    (active : task.isActiveAt now = true) : task.isActiveAt earlier = true := by
  unfold Task.isActiveAt at active ⊢
  cases stored : task.leaseExpiresAt with
  | none => simp [stored] at active
  | some =>
    simp only [stored, Option.any_some, Bool.and_eq_true, decide_eq_true_eq] at active ⊢
    exact ⟨active.1, order.trans_lt active.2⟩

private theorem active_anti (db : Database) (selects : Task → Bool) (order : earlier ≤ now) :
    db.active selects now ≤ db.active selects earlier := by
  apply List.countP_mono_left
  intro task _ counted
  simp only [Bool.and_eq_true] at counted ⊢
  exact ⟨counted.1, isActiveAt_anti order counted.2⟩

variable {selects : Task → Bool}

private theorem active_replace_le (keyed : db.IsKeyed)
    (order : earlier ≤ now) (member : task ∈ db.tasks) (events : List TaskEvent)
    (counted : selects revised = true → revised.isActiveAt now = true →
      selects task = true ∧ task.isActiveAt earlier = true) :
    Database.active { tasks := replaceTask db.tasks task revised, events } selects now ≤
      db.active selects earlier := by
  unfold Database.active
  rw [replaceTask, updateWhere, List.countP_map]
  apply List.countP_mono_left
  intro row rowMember here
  simp only [Function.comp_apply, Bool.and_eq_true] at here ⊢
  by_cases same : row.taskId = task.taskId
  · obtain rfl := keyed.eq_of_key rowMember member same
    rw [if_pos (by simp)] at here
    exact counted here.1 here.2
  · rw [if_neg (by simpa using same)] at here
    exact ⟨here.1, isActiveAt_anti order here.2⟩

private theorem active_replace_le_succ (keyed : db.IsKeyed) (selects : Task → Bool) (now : Nat)
    (member : task ∈ db.tasks) (revised : Task) (events : List TaskEvent) :
    Database.active { tasks := replaceTask db.tasks task revised, events } selects now ≤
      db.active selects now + 1 := by
  have counts := keyed.countP_updateWhere (f := fun _ => revised) member fun row =>
    selects row && row.isActiveAt now
  show (updateWhere (fun row => row.taskId == task.taskId) (fun _ => revised) db.tasks).countP
    (fun row => selects row && row.isActiveAt now) ≤ db.tasks.countP _ + 1
  split at counts
  · split at counts
    · omega
    · omega
  · split at counts
    · omega
    · omega

/-! ### Limits -/

/-- At most `limit` of the selected tasks hold a lease that is live at `clock` or at any later instant. -/
def Within (selects : Task → Bool) (limit clock : Nat) (db : Database) : Prop :=
  ∀ now, clock ≤ now → db.active selects now ≤ limit

/-- A selection by what a task was admitted with. -/
def ByAdmission (selects : Task → Bool) : Prop :=
  ∀ task revised : Task, revised.admission = task.admission → selects revised = selects task

private theorem counted_of_lease (byAdmission : ByAdmission selects) (admission : revised.admission = task.admission)
    (status : revised.status.isRunningLike = true → revised.leaseExpiresAt.isSome = true →
      task.status.isRunningLike = true) (lease : revised.lease = task.lease ∨ revised.lease = ("", none))
    (selected : selects revised = true) (active : revised.isActiveAt now = true) :
    selects task = true ∧ task.isActiveAt now = true := by
  rw [byAdmission task revised admission] at selected
  refine ⟨selected, ?_⟩
  unfold Task.isActiveAt at active ⊢
  simp only [Bool.and_eq_true] at active ⊢
  obtain ⟨expires, stored, live⟩ := (Option.any_eq_true _ _).mp active.2
  rcases lease with kept | cleared
  · have same : revised.leaseExpiresAt = task.leaseExpiresAt := congrArg Prod.snd kept
    exact ⟨status active.1 (by rw [stored]; rfl), same ▸ active.2⟩
  · have gone : revised.leaseExpiresAt = none := congrArg Prod.snd cleared
    rw [gone] at stored
    cases stored

private theorem within_write {limit : Nat} (keyed : db.IsKeyed)
    (byAdmission : ByAdmission selects) (unleased : db.WaitsUnleased) (within : Within selects limit clock db)
    (room : ∀ task now, db.hasRoom env task now = true → selects task = true → db.active selects now < limit)
    (write : Write env clock db taskId after reports) : Within selects limit clock after := by
  intro now order
  cases write with
  | inserted spec _ admittedAt =>
    have idle : (admittedTask env spec taskId admittedAt).isActiveAt now = false := rfl
    unfold Database.active
    rw [List.countP_append, List.countP_singleton, idle, Bool.and_false, if_neg (by simp)]
    exact within now order
  | changed task revised events _ member change =>
    cases change with
    | moved _ event revises logs edge token lease =>
      refine (active_replace_le keyed (Nat.le_refl now) member _ ?_).trans (within now order)
      refine counted_of_lease byAdmission revises.admission ?_ lease
      intro running leased
      rcases runningLike_of_edge edge running with before | waiting
      · exact before
      · -- a waiting task has no lease to keep
        have none := unleased task member waiting
        rcases lease with kept | cleared
        · rw [show revised.leaseExpiresAt = task.leaseExpiresAt from congrArg Prod.snd kept, none] at leased
          cases leased
        · rw [show revised.leaseExpiresAt = Option.none from congrArg Prod.snd cleared] at leased
          cases leased
    | noted _ event revises logs status token lease =>
      refine (active_replace_le keyed (Nat.le_refl now) member _ ?_).trans (within now order)
      exact counted_of_lease byAdmission revises.admission (fun running _ => status ▸ running) (.inl lease)
    | claimed owner claimedAt expires event logs waiting earlier hasRoom =>
      by_cases selected : selects task = true
      · have counted := active_replace_le_succ keyed selects now member (task.claimedBy owner claimedAt expires)
          (db.events ++ [event])
        have fewer := active_anti db selects (earlier.trans order)
        have free := room task claimedAt hasRoom selected
        omega
      · refine (active_replace_le keyed (Nat.le_refl now) member _ ?_).trans (within now order)
        intro chosen
        rw [byAdmission task (task.claimedBy owner claimedAt expires) rfl] at chosen
        exact absurd chosen selected
    | renewed renewedAt expires expiry stored live =>
      -- the renewed lease was live at `clock`
      refine (active_replace_le keyed order member _ ?_).trans (within clock (Nat.le_refl clock))
      intro selected active
      rw [byAdmission task (task.renewed renewedAt expires) rfl] at selected
      refine ⟨selected, ?_⟩
      unfold Task.isActiveAt at active ⊢
      simp only [Bool.and_eq_true] at active
      simp only [stored, Option.any_some, Bool.and_eq_true, decide_eq_true_eq]
      exact ⟨active.1, live⟩

/-- The limits of the settings, with the waiting tasks that carry them. -/
structure Database.WithinLimits (env : Environment) (clock : Nat) (db : Database) : Prop where
  unleased : db.WaitsUnleased
  all : Within (fun _ => true) env.globalLimit clock db
  perUser : ∀ userId, Within (fun task => task.admission.ownerId == userId) env.userLimit clock db
  perDepartment : ∀ departmentId,
    Within (fun task => task.admission.departmentId == departmentId) env.departmentLimit clock db

private theorem withinLimits_write (keyed : db.IsKeyed) (within : db.WithinLimits env clock)
    (write : Write env clock db taskId after reports) : after.WithinLimits env clock where
  unleased := waitsUnleased_write within.unleased write
  all := by
    apply within_write keyed (fun _ _ _ => rfl) within.unleased within.all _ write
    intro task now room _
    simp only [Database.hasRoom, Bool.and_eq_true, decide_eq_true_eq] at room
    exact room.1.1
  perUser userId := by
    apply within_write keyed _ within.unleased (within.perUser userId) _ write
    · intro task revised same
      exact congrArg (fun admission => admission.ownerId == userId) same
    · intro task now room selected
      simp only [Database.hasRoom, Bool.and_eq_true, decide_eq_true_eq] at room
      rw [← beq_iff_eq.mp selected]
      exact room.1.2
  perDepartment departmentId := by
    apply within_write keyed _ within.unleased (within.perDepartment departmentId) _ write
    · intro task revised same
      exact congrArg (fun admission => admission.departmentId == departmentId) same
    · intro task now room selected
      simp only [Database.hasRoom, Bool.and_eq_true, decide_eq_true_eq] at room
      rw [← beq_iff_eq.mp selected]
      exact room.2

/-- In every reachable state the live leases are at most the limits that `claim` reads: one at least, else
those of the settings. -/
theorem task_limits_hold (env : Environment) (ops : List Op) :
    ((ledger env).run ops).db.active (fun _ => true) ((ledger env).run ops).clock ≤ env.globalLimit ∧
      (∀ userId, ((ledger env).run ops).db.active (fun task => task.admission.ownerId == userId)
        ((ledger env).run ops).clock ≤ env.userLimit) ∧ ∀ departmentId, ((ledger env).run ops).db.active
        (fun task => task.admission.departmentId == departmentId) ((ledger env).run ops).clock ≤
          env.departmentLimit := by
  have within : ((ledger env).run ops).db.WithinLimits env ((ledger env).run ops).clock := by
    apply ledger_invariant (fun clock db => db.WithinLimits env clock)
    · have empty : ∀ selects limit, Within selects limit 0 .empty := fun _ _ _ _ => Nat.zero_le _
      exact ⟨fun task member => absurd member List.not_mem_nil, empty _ _, fun _ => empty _ _,
        fun _ => empty _ _⟩
    · intro clock db taskId after reports keyed within write
      exact withinLimits_write keyed within write
    · intro clock db elapsed within
      exact ⟨within.unleased, fun now order => within.all now (Nat.le_of_add_right_le order),
        fun userId now order => within.perUser userId now (Nat.le_of_add_right_le order),
        fun departmentId now order => within.perDepartment departmentId now (Nat.le_of_add_right_le order)⟩
  exact ⟨within.all _ (Nat.le_refl _), fun userId => within.perUser userId _ (Nat.le_refl _),
    fun departmentId => within.perDepartment departmentId _ (Nat.le_refl _)⟩

/-- A setting below one admits a task all the same. -/
theorem limit_below_one : ¬ ∀ (env : Environment) (ops : List Op),
    (((ledger env).run ops).db.active (fun _ => true) ((ledger env).run ops).clock : Int) ≤
      env.maxConcurrent := by
  intro always
  have exceeded := always { Environment.default with maxConcurrent := 0 }
    [.create .sample "t" "" "" 0, .claim "t" "w" none "" 0]
  revert exceeded
  decide +kernel

end HardwareDatabase.Sandbox
