/-
Module: HardwareDatabase.Proofs.JobSteps
Purpose: What an operation of the control plane may do to the reflection jobs.
Trusted boundary: none
-/
import HardwareDatabase.Proofs.GovernedAway
import HardwareDatabase.Proofs.RetryBudget

namespace HardwareDatabase.Memory

open Relational

/-! ### Who a job works for -/

/-- What a job writes for: its kind, its consent, and whether its memories are a user's. -/
def Job.authority (job : Job) : JobKind × Option Nat × Bool :=
  (job.kind, job.consentEventId, job.scope.isUser)

/-- A project job has no consent and a project's scope. A user job has a user's scope and the consent that
was created right before it. -/
def Job.Authorised (job : Job) : Prop :=
  job.authority = (.projectReflection, none, false) ∨
    ∃ consentId, job.authority = (.userReflection, some consentId, true) ∧
      job.jobId = consentId + 1

variable {job : Job}

theorem Job.Authorised.of_same {other : Job} (authorised : job.Authorised)
    (sameId : other.jobId = job.jobId) (same : other.authority = job.authority) : other.Authorised := by
  rcases authorised with project | ⟨consentId, user, next⟩
  · exact Or.inl (same.trans project)
  · exact Or.inr ⟨consentId, same.trans user, sameId.trans next⟩

/-! ### Changes of the job table

An operation moves jobs forward, leaves them or adds one; every operation is put under this relation below. -/

/-- A change of one job row: a completed generation stays completed. -/
structure JobAdvance (old new : Job) : Prop where
  sameId : new.jobId = old.jobId
  sameAuthority : new.authority = old.authority
  later : old.generation ≤ new.generation
  settled : new.generation = old.generation → old.status = .completed → new.status = .completed

theorem JobAdvance.refl (job : Job) : JobAdvance job job :=
  ⟨rfl, rfl, Nat.le_refl _, fun _ completed => completed⟩

variable {old new : Job}

theorem JobAdvance.reopened (sameId : new.jobId = old.jobId) (sameAuthority : new.authority = old.authority)
    (next : new.generation = old.generation + 1) : JobAdvance old new :=
  ⟨sameId, sameAuthority, by omega, by omega⟩

theorem JobAdvance.unfinished (sameId : new.jobId = old.jobId) (sameAuthority : new.authority = old.authority)
    (same : new.generation = old.generation) (unfinished : old.status ≠ .completed) : JobAdvance old new :=
  ⟨sameId, sameAuthority, Nat.le_of_eq same.symm, fun _ completed => absurd completed unfinished⟩

theorem JobAdvance.trans {middle : Job} (first : JobAdvance old middle)
    (second : JobAdvance middle new) : JobAdvance old new := by
  refine ⟨second.sameId.trans first.sameId, second.sameAuthority.trans first.sameAuthority,
    Nat.le_trans first.later second.later, ?_⟩
  intro same completed
  have firstSame : middle.generation = old.generation :=
    Nat.le_antisymm (Nat.le_trans second.later (Nat.le_of_eq same)) first.later
  exact second.settled (same.trans firstSame.symm) (first.settled firstSame completed)

/-- The job ids are unique and were all taken from the supply. -/
structure JobsOk (tables : Tables) : Prop where
  unique : UniqueOn Job.jobId tables.jobs
  known : ∀ job ∈ tables.jobs, job.jobId < tables.nextId
  authorised : ∀ job ∈ tables.jobs, job.Authorised

/-- A job row under a new id. -/
structure NewJob (tables after : Tables) (job : Job) : Prop where
  fresh : tables.nextId ≤ job.jobId
  bound : job.jobId < after.nextId
  authorised : job.Authorised

/-- A change of the job table: every row is an advanced row or has a new id. -/
structure JobsAdvance (tables after : Tables) : Prop where
  supply : tables.nextId ≤ after.nextId
  unique : UniqueOn Job.jobId after.jobs
  rows : ∀ job ∈ after.jobs, (∃ old ∈ tables.jobs, JobAdvance old job) ∨ NewJob tables after job

variable {f : Job → Job} {row : Job}

namespace JobsAdvance

variable {tables middle after : Tables}

theorem jobsOk (advance : JobsAdvance tables after) (ok : JobsOk tables) : JobsOk after := by
  refine ⟨advance.unique, ?_, ?_⟩
  · intro job member
    rcases advance.rows job member with ⟨old, oldMember, change⟩ | new
    · rw [change.sameId]
      exact Nat.lt_of_lt_of_le (ok.known old oldMember) advance.supply
    · exact new.bound
  · intro job member
    rcases advance.rows job member with ⟨old, oldMember, change⟩ | new
    · exact (ok.authorised old oldMember).of_same change.sameId change.sameAuthority
    · exact new.authorised

section

variable (ok : JobsOk tables)
include ok

theorem frame (jobs : after.jobs = tables.jobs) (supply : tables.nextId ≤ after.nextId) : JobsAdvance tables after := by
  constructor
  case supply => exact supply
  case unique => rw [jobs]; exact ok.unique
  case rows =>
    rw [jobs]
    exact fun job member => Or.inl ⟨job, member, JobAdvance.refl job⟩

theorem update {p : Job → Bool}
    (jobs : after.jobs = updateWhere p f tables.jobs) (supply : tables.nextId ≤ after.nextId)
    (sameIds : ∀ job, (f job).jobId = job.jobId)
    (changes : ∀ job ∈ tables.jobs, p job = true → JobAdvance job (f job)) : JobsAdvance tables after := by
  constructor
  case supply => exact supply
  case unique =>
    rw [jobs]
    exact ok.unique.updateWhere sameIds
  case rows =>
    rw [jobs]
    intro job member
    rcases mem_updateWhere.mp member with ⟨old, oldMember, selected, rfl⟩ | ⟨kept, _⟩
    · exact Or.inl ⟨old, oldMember, changes old oldMember selected⟩
    · exact Or.inl ⟨job, kept, JobAdvance.refl job⟩

theorem insert (jobs : after.jobs = tables.jobs ++ [row])
    (new : NewJob tables after row) : JobsAdvance tables after := by
  constructor
  case supply => exact Nat.le_of_lt (Nat.lt_of_le_of_lt new.fresh new.bound)
  case unique =>
    rw [jobs]
    apply ok.unique.append
    intro other member
    exact Nat.ne_of_lt (Nat.lt_of_lt_of_le (ok.known other member) new.fresh)
  case rows =>
    rw [jobs]
    intro job member
    rcases List.mem_append.mp member with old | here
    · exact Or.inl ⟨job, old, JobAdvance.refl job⟩
    · rw [List.mem_singleton.mp here]
      exact Or.inr new

theorem remove {p : Job → Bool} (jobs : after.jobs = deleteWhere p tables.jobs)
    (supply : tables.nextId ≤ after.nextId) : JobsAdvance tables after := by
  constructor
  case supply => exact supply
  case unique =>
    rw [jobs]
    exact ok.unique.deleteWhere
  case rows =>
    rw [jobs]
    intro job member
    exact Or.inl ⟨job, (mem_deleteWhere.mp member).1, JobAdvance.refl job⟩

end

theorem trans (first : JobsAdvance tables middle) (second : JobsAdvance middle after) : JobsAdvance tables after := by
  refine ⟨Nat.le_trans first.supply second.supply, second.unique, ?_⟩
  intro job member
  rcases second.rows job member with ⟨old, oldMember, change⟩ | new
  · rcases first.rows old oldMember with ⟨oldest, oldestMember, earlier⟩ | new
    · exact Or.inl ⟨oldest, oldestMember, earlier.trans change⟩
    · right
      constructor
      case fresh =>
        rw [change.sameId]
        exact new.fresh
      case bound =>
        rw [change.sameId]
        exact Nat.lt_of_lt_of_le new.bound second.supply
      case authorised => exact new.authorised.of_same change.sameId change.sameAuthority
  · exact Or.inr ⟨Nat.le_trans first.supply new.fresh, new.bound, new.authorised⟩

end JobsAdvance

/-! ### Statements that leave the control tables alone -/

/-- The tables that retiring, redacting and purging a memory leave alone. -/
def Tables.control (tables : Tables) :
    List Job × List Checkpoint × List ConsentEvent × List UserSettings × List ProjectionOperation :=
  (tables.jobs, tables.checkpoints, tables.consents, tables.settings, tables.projectionOutbox)

variable {tables : Tables}

theorem jobs_of_control {after : Tables} (same : after.control = tables.control) : after.jobs = tables.jobs :=
  congrArg Prod.fst same

theorem projectionOutbox_of_control {after : Tables} (same : after.control = tables.control) :
    after.projectionOutbox = tables.projectionOutbox :=
  congrArg (fun parts => parts.2.2.2.2) same

theorem applySourceInvalidation_control (contentHash : Content → String) (ref reason : String)
    (now : Time) (tables : Tables) (memoryId : Nat) :
    (applySourceInvalidation contentHash ref reason now tables memoryId).control = tables.control := by
  unfold applySourceInvalidation
  split
  · rfl
  · refine (foldl_keeps Tables.control ?_ _ _).trans ?_
    · exact fun _ _ => rfl
    · split <;> rfl

theorem invalidateMemory_control (contentHash : Content → String) (reason : String) (now : Time)
    (tables : Tables) (memoryId : Nat) :
    (invalidateMemory contentHash reason now tables memoryId).control = tables.control := by
  unfold invalidateMemory
  split
  · rfl
  · refine (foldl_keeps Tables.control ?_ _ _).trans rfl
    exact fun _ _ => rfl

theorem retireProjection_control (reason : String) (now : Time) (tables : Tables) (projectionId : Nat) :
    (retireProjection reason now tables projectionId).control = tables.control := by
  unfold retireProjection
  split <;> rfl

theorem expire_control (contentHash : Content → String) (uuid : Nat → String) (tables : Tables)
    (cutoff : Time) (limit : Nat) (now : Time) :
    (expireMemoryRecords contentHash uuid tables cutoff limit now).control = tables.control := by
  apply foldl_keeps Tables.control
  intro state memoryId
  exact invalidateMemory_control contentHash _ now (invalidateSourcesOf state memoryId now) memoryId

variable {now : Time} {reason : String} {memoryId expectedRevision : Nat} {manages : Scope → Bool}
  {contentHash : Content → String}

theorem retireGoverned_control {after : Tables} {nextStatus : RecordStatus} {operation : String} {scrub : Bool}
    (retired : retireGoverned contentHash tables manages memoryId expectedRevision nextStatus operation
      reason scrub now = .ok after) : after.control = tables.control := by
  unfold retireGoverned at retired
  simp only [bind, Except.bind, pure, Except.pure] at retired
  split at retired
  · cases retired
  · have loop := foldl_keeps Tables.control (retireProjection_control reason now)
      ((unretiredProjections tables memoryId).map Projection.projectionId) tables
    split at retired
    · cases retired
      exact loop
    · cases retired
      exact loop

theorem supersede_control {after : Tables} {replacementId : Nat}
    (superseded : supersede tables manages memoryId replacementId expectedRevision now = .ok after) :
    after.control = tables.control := by
  unfold supersede at superseded
  simp only [bind, Except.bind, pure, Except.pure] at superseded
  split at superseded
  · cases superseded
  · cases superseded
    exact foldl_keeps Tables.control (retireProjection_control "superseded" now) _ tables

theorem purgeDeletedRecord_control {after : Tables}
    (purged : purgeDeletedRecord tables memoryId = .ok after) : after.control = tables.control := by
  unfold purgeDeletedRecord at purged
  split at purged
  · cases purged
    rfl
  · split at purged
    · cases purged
    · cases purged
      rfl

theorem publishVerified_control (tables : Tables) (memoryId expectedRevision : Nat) (now : Time) :
    (publishVerified tables memoryId expectedRevision now).control = tables.control := by
  unfold publishVerified
  simp only
  split
  · rfl
  · exact retireProjection_control "verified" now _ _

theorem markProjectionDeleted_control (tables : Tables) (operationId : Nat) (now : Time) :
    (markProjectionDeleted tables operationId now).control = tables.control := by
  unfold markProjectionDeleted
  simp only
  split
  · rfl
  · split <;> rfl

theorem claimDeletion_control (env : Environment) (tables : Tables) (now : Time) :
    (claimDeletion env tables now).1.control = tables.control := by
  unfold claimDeletion
  simp only
  split <;> rfl

theorem commit_keeps {β : Type} (part : Tables → β) {state : ServiceState} {result : Except String Tables}
    (accepted : ∀ after, result = .ok after → part after = part state.tables) :
    part (state.commit result).tables = part state.tables := by
  cases result with
  | error => rfl
  | ok after => exact accepted after rfl

/-! ### Operations that leave the jobs and the rows of the outbox alone -/

/-- What an outbox row points to and carries: operation, memory, projection and content. -/
def ProjectionOperation.target (row : ProjectionOperation) : Nat × Nat × Nat × Content :=
  (row.operationId, row.memoryId, row.projectionId, row.payload.content)

/-- What the outbox points to. -/
def Tables.targets (tables : Tables) : List (Nat × Nat × Nat × Content) :=
  tables.projectionOutbox.map ProjectionOperation.target

theorem targets_of_control {after : Tables} (same : after.control = tables.control) : after.targets = tables.targets :=
  congrArg (List.map ProjectionOperation.target) (projectionOutbox_of_control same)

variable {p : ProjectionOperation → Bool}

theorem targets_of_update {after : Tables} {f : ProjectionOperation → ProjectionOperation}
    (outbox : after.projectionOutbox = updateWhere p f tables.projectionOutbox)
    (keeps : ∀ row, (f row).target = row.target) : after.targets = tables.targets := by
  rw [Tables.targets, outbox]
  exact map_updateWhere _ keeps

/-- The jobs and what the outbox points to. -/
def Tables.work (tables : Tables) : List Job × List (Nat × Nat × Nat × Content) :=
  (tables.jobs, tables.targets)

theorem jobs_of_work {after : Tables} (same : after.work = tables.work) : after.jobs = tables.jobs :=
  congrArg Prod.fst same

theorem targets_of_work {after : Tables} (same : after.work = tables.work) : after.targets = tables.targets :=
  congrArg Prod.snd same

theorem work_of_control {after : Tables} (same : after.control = tables.control) : after.work = tables.work :=
  Prod.ext (jobs_of_control same) (targets_of_control same)

theorem work_of_update {after : Tables}
    {f : ProjectionOperation → ProjectionOperation} (jobs : after.jobs = tables.jobs)
    (outbox : after.projectionOutbox = updateWhere p f tables.projectionOutbox)
    (keeps : ∀ row, (f row).target = row.target) : after.work = tables.work :=
  Prod.ext jobs (targets_of_update outbox keeps)

theorem claimProjection_work (env : Environment) (tables : Tables) (now : Time) :
    (claimProjection env tables now).1.work = tables.work := by
  unfold claimProjection
  simp only
  split
  · rfl
  · exact work_of_update rfl rfl fun _ => rfl

theorem markProjectionActive_work {after : Tables} {operationId projectionId expectedFence : Nat} {digest : String}
    (activated : markProjectionActive tables operationId projectionId expectedRevision expectedFence
      digest now = some after) : after.work = tables.work := by
  obtain ⟨row, _, _, middle, _, _, _, _, middleEq, result⟩ := markProjectionActive_cases activated
  have closed (open' : Tables) : (closeProjection open' operationId).work = open'.work :=
    work_of_update rfl rfl fun _ => rfl
  have same : middle.work = tables.work := by
    rw [middleEq]
    rfl
  rcases result with ⟨_, rfl⟩ | ⟨_, rfl⟩
  · rw [closed, same]
  · rw [closed, work_of_control (publishVerified_control middle _ _ _), same]

/-- The operations that neither write a job nor insert a row of the outbox. -/
def Op.leavesWork : Op → Bool
  | .setUserOptIn .. | .createUserConsent .. | .revokeConsent .. | .clearSession .. | .deleteSession ..
  | .editMessage .. | .enqueue .. | .enqueueInConnection .. | .disableAutoExtract .. | .updateDraft ..
  | .verify .. | .requeueDeadLetter .. | .claimNext .. | .heartbeat .. | .markRetry .. | .cancelJob ..
  | .applyJob .. => false
  | _ => true

theorem exec_work (env : Environment) (state : ServiceState) (op : Op) (leaves : op.leavesWork = true) :
    (state.exec env op).tables.work = state.tables.work := by
  cases op with
  | reject =>
    exact work_of_control (commit_keeps Tables.control fun _ rejected => retireGoverned_control rejected)
  | retireDeleted =>
    exact work_of_control (commit_keeps Tables.control fun _ deleted => retireGoverned_control deleted)
  | purge =>
    exact work_of_control (commit_keeps Tables.control fun _ purged => purgeDeletedRecord_control purged)
  | checkSupersede =>
    simp only [ServiceState.exec]
    split <;> rfl
  | supersede =>
    simp only [ServiceState.exec]
    split
    · exact work_of_control (commit_keeps Tables.control fun _ superseded => supersede_control superseded)
    · rfl
  | expire cutoff limit now =>
    exact work_of_control (expire_control env.contentHash env.uuid _ cutoff limit now)
  | saveRun =>
    simp only [ServiceState.exec]
    split
    · unfold saveRun
      simp only
      split <;> rfl
    · rfl
  | persistOutput =>
    simp only [ServiceState.exec]
    split
    · apply commit_keeps Tables.work
      intro after persisted
      rcases persistOutput_cases persisted with rfl | ⟨_, _, _, rfl⟩ <;> rfl
    · rfl
  | claimDeletion now =>
    have same := work_of_control (claimDeletion_control env state.tables now)
    simp only [ServiceState.exec]
    split
    · split
      next tables claimed => exact (by rw [claimed] at same; exact same)
      next tables item claimed => exact (by rw [claimed] at same; exact same)
    · rfl
  | claimProjection now =>
    have same := claimProjection_work env state.tables now
    simp only [ServiceState.exec]
    split
    · split
      next tables claimed => exact (by rw [claimed] at same; exact same)
      next tables item claimed => exact (by rw [claimed] at same; exact same)
    · rfl
  | checkDeletion =>
    simp only [ServiceState.exec]
    split
    · split <;> rfl
    · rfl
  | deleteObject | putObject | reconcile =>
    simp only [ServiceState.exec]
    split <;> rfl
  | completeDeletion =>
    simp only [ServiceState.exec]
    split
    · exact work_of_control (markProjectionDeleted_control _ _ _)
    · exact work_of_control (markProjectionDeleted_control _ _ _)
    · rfl
  | checkProjection =>
    simp only [ServiceState.exec]
    split
    · split
      · rfl
      · exact work_of_update rfl rfl fun _ => rfl
    · rfl
  | activateProjection =>
    simp only [ServiceState.exec]
    split
    · split
      next activated => exact markProjectionActive_work activated
      next => exact work_of_update rfl rfl fun _ => rfl
    · rfl
  | failOutbox =>
    simp only [ServiceState.exec]
    split
    case h_6 | h_7 | h_8 => exact work_of_update rfl rfl fun _ => rfl
    all_goals rfl
  | restart => exact work_of_update rfl rfl fun _ => rfl
  | _ => cases leaves

/-! ### Statements that leave the job table alone -/

theorem updateDraft_jobs {after : Tables} {semantic : Semantic}
    (updated : updateDraft contentHash tables manages memoryId semantic expectedRevision now =
      .ok after) : after.jobs = tables.jobs := by
  obtain ⟨_, _, _, _, _, _, _, _, prepared⟩ := updateDraft_cases updated
  exact (prepareCandidate_spec contentHash prepared).jobs

theorem verify_jobs {after : Tables} {evidence : List String}
    (verified : verify tables manages memoryId expectedRevision evidence now = .ok after) :
    after.jobs = tables.jobs := by
  obtain ⟨record, _, _, queued⟩ := verify_cases verified
  unfold queueVerifiedProjection at queued
  simp only at queued
  split at queued
  · cases queued
  · cases queued
    show (fenceCandidate tables memoryId).jobs = tables.jobs
    unfold fenceCandidate
    split <;> rfl

theorem upsertRunItem_jobs (tables : Tables) (item : RunItem) : (upsertRunItem tables item).jobs = tables.jobs :=
  eq_of_frame Tables.jobs (upsertRunItem_frame tables item) (fun _ => rfl)

variable {messages : List SourceMessage} {env : Environment}

theorem applyItems_jobs {run : Run} {items : List OutputItem} : ∀ {tables after : Tables} {ordinal : Nat},
      applyItems env job run messages now tables items ordinal = .ok after → after.jobs = tables.jobs := by
  induction items with
  | nil =>
    intro tables after ordinal applied
    cases applied
    rfl
  | cons item rest ih =>
    intro tables after ordinal applied
    obtain ⟨middle, first, others⟩ := exists_of_applyItems_cons applied
    have here : middle.jobs = tables.jobs := by
      rcases applyItem_cases first with
        rfl | ⟨staged, _, _, row, _, prepared, _, _, _, _, _, rfl⟩
      · rfl
      · rw [upsertRunItem_jobs, (prepareCandidate_spec env.contentHash prepared).jobs]
    exact (ih others).trans here

theorem ensureCheckpoint_jobs (tables : Tables) (jobId : Nat) : (ensureCheckpoint tables jobId).jobs = tables.jobs := by
  unfold ensureCheckpoint
  split <;> rfl

variable {sourceHash : String}

theorem updateCheckpoint_jobs {after : Tables}
    (updated : updateCheckpoint tables job sourceHash = .ok after) : after.jobs = tables.jobs := by
  unfold updateCheckpoint at updated
  simp only at updated
  split at updated
  · cases updated
  · cases updated
    rfl

/-! ### Statements on the job table -/

theorem invalidateMessageMemory_jobs (contentHash : Content → String) (tables : Tables)
    (sessionId messageId : Nat) (reason : String) (now : Time) :
    (invalidateMessageMemory contentHash tables sessionId messageId reason now).jobs =
      (cancelJobsWhere tables (fun job => job.sessionId == sessionId) reason).jobs :=
  foldl_keeps Tables.jobs (fun middle memoryId =>
    jobs_of_control (applySourceInvalidation_control contentHash _ reason now middle memoryId)) _ _

theorem invalidateSessionMemory_jobs (contentHash : Content → String) (tables : Tables)
    (sessionId : Nat) (reason : String) (now : Time) :
    (invalidateSessionMemory contentHash tables sessionId reason now).jobs =
      (cancelJobsWhere tables (fun job => job.sessionId == sessionId) reason).jobs :=
  foldl_keeps Tables.jobs (fun middle memoryId =>
    jobs_of_control (applySourceInvalidation_control contentHash _ reason now middle memoryId)) _ _

theorem withdrawConsents_jobs (contentHash : Content → String) (tables : Tables)
    (consentIds : List Nat) (reason : String) (now : Time) :
    (withdrawConsents contentHash tables consentIds reason now).jobs =
      (cancelJobsWhere tables (fun job => underConsents consentIds job.consentEventId)
        (Python.clip 2000 reason)).jobs :=
  foldl_keeps Tables.jobs (fun middle memoryId =>
    jobs_of_control (invalidateMemory_control contentHash reason now middle memoryId)) _ _

variable {userId : Nat}

namespace JobsAdvance

variable {tables after : Tables}

theorem cancelWhere (ok : JobsOk tables) {selected : Job → Bool}
    (jobs : after.jobs = (cancelJobsWhere tables selected reason).jobs)
    (supply : tables.nextId ≤ after.nextId) : JobsAdvance tables after := by
  apply update ok jobs supply
  · exact fun _ => rfl
  · exact fun _ _ _ => JobAdvance.reopened rfl rfl rfl

theorem held (ok : JobsOk tables) {jobId token generation : Nat}
    (jobs : after.jobs = (updateHeld tables jobId token generation f).jobs)
    (supply : tables.nextId ≤ after.nextId) (sameIds : ∀ job, (f job).jobId = job.jobId)
    (sameAuthorities : ∀ job, (f job).authority = job.authority)
    (later : ∀ job, job.generation ≤ (f job).generation) : JobsAdvance tables after := by
  apply update ok jobs supply sameIds
  intro job _ selected
  simp only [Bool.and_eq_true, Job.heldBy, beq_iff_eq] at selected
  refine ⟨sameIds job, sameAuthorities job, later job, ?_⟩
  intro _ completed
  rw [selected.2.1.1] at completed
  cases completed

theorem reopen (ok : JobsOk tables) {sessionId : Nat} {existing : Job} {request : ReflectionRequest}
    (found : projectJob tables sessionId = some existing)
    (jobs : after.jobs = (updateJob tables existing.jobId f).jobs) (supply : tables.nextId ≤ after.nextId)
    (reopened : ∀ job, f job = job.reopen request now ∨ f job = (job.reopen request now).dropLease) :
    JobsAdvance tables after := by
  have sameIds : ∀ job, (f job).jobId = job.jobId := by
    intro job
    rcases reopened job with same | same <;> rw [same] <;> rfl
  apply update ok jobs supply sameIds
  intro job member same
  have project : job.kind = .projectReflection := by
    rw [ok.unique.eq_of_key member (List.mem_of_find?_eq_some found) (by simpa using same)]
    have selected := List.find?_some found
    simp only [Bool.and_eq_true, beq_iff_eq] at selected
    exact selected.2
  have authority : job.authority = (.projectReflection, none, false) := by
    rcases ok.authorised job member with plain | ⟨consentId, user, _⟩
    · exact plain
    · rw [show job.kind = .userReflection from congrArg Prod.fst user] at project
      cases project
  have consent : job.consentEventId = none := congrArg (fun parts => parts.2.1) authority
  apply JobAdvance.reopened (sameIds job)
  · rw [authority]
    rcases reopened job with same | same <;>
      rw [same, Job.authority] <;>
      simp [Job.reopen, Job.dropLease, project, consent, ReflectionRequest.scope, Scope.isUser]
  · rcases reopened job with same | same <;> rw [same] <;> rfl

theorem newProjectJob (tables : Tables) (request : ReflectionRequest) (now : Time)
    (jobs : (insertProjectJob tables request now).1.jobs = tables.jobs ++ [row]) :
    NewJob tables (insertProjectJob tables request now).1 row := by
  have same := List.append_cancel_left jobs
  cases same
  exact ⟨Nat.le_refl _, Nat.lt_succ_self _, Or.inl rfl⟩

section

variable (ok : JobsOk tables)
include ok

theorem enqueue (request : ReflectionRequest) (now : Time) :
    JobsAdvance tables (enqueueProjectReflection tables request now).1 := by
  unfold enqueueProjectReflection
  split
  · exact insert ok rfl (newProjectJob tables request now rfl)
  next existing found =>
    simp only
    split
    · split
      · exact reopen ok found rfl (Nat.le_refl _) (fun _ => Or.inr rfl)
      · exact frame ok rfl (Nat.le_refl _)
    · exact reopen ok found rfl (Nat.le_refl _) (fun _ => Or.inr rfl)

theorem enqueueInConnection (request : ReflectionRequest) (now : Time) :
    JobsAdvance tables (enqueueProjectReflectionInConnection tables request now).1 := by
  unfold enqueueProjectReflectionInConnection
  split
  · exact insert ok rfl (newProjectJob tables request now rfl)
  next existing found =>
    simp only
    split
    · split
      · exact reopen ok found rfl (Nat.le_refl _) (fun _ => Or.inr rfl)
      · exact frame ok rfl (Nat.le_refl _)
    · exact reopen ok found rfl (Nat.le_refl _) (fun _ => Or.inl rfl)

theorem createUserConsent {manifestHash : List ConsentSourceItem → String} {sessionId : Nat}
    {items : List ConsentSourceItem}
    (created : Memory.createUserConsent manifestHash tables userId sessionId items now = .ok after) :
    JobsAdvance tables after := by
  unfold Memory.createUserConsent at created
  simp only [bind, Except.bind, pure, Except.pure, throw, throwThe, MonadExceptOf.throw] at created
  split at created
  · cases created
  split at created
  · cases created
  split at created
  · cases created
  cases created
  apply insert ok
  · rfl
  · exact ⟨Nat.le_succ _, Nat.lt_succ_self _, Or.inr ⟨tables.nextId, rfl, rfl⟩⟩

theorem unfinished (member : row ∈ tables.jobs)
    (unfinished : row.status ≠ .completed) (jobs : after.jobs = (updateJob tables row.jobId f).jobs)
    (supply : tables.nextId ≤ after.nextId) (sameIds : ∀ job, (f job).jobId = job.jobId)
    (sameAuthorities : ∀ job, (f job).authority = job.authority)
    (sameGenerations : ∀ job, (f job).generation = job.generation) : JobsAdvance tables after := by
  apply update ok jobs supply sameIds
  intro job jobMember same
  have own := ok.unique.eq_of_key jobMember member (by simpa using same)
  rw [own]
  exact JobAdvance.unfinished (sameIds row) (sameAuthorities row) (sameGenerations row) unfinished

theorem claimNext (uuid : Nat → String) (maxRetries : Nat) (workerId : String) (leaseSeconds : Nat) (now clock : Time) :
    JobsAdvance tables (Memory.claimNext uuid maxRetries tables workerId leaseSeconds now clock).1 := by
  rcases claimNext_cases uuid maxRetries ok.unique workerId leaseSeconds now clock with
    ⟨_, result⟩ | ⟨current, selected, claimed⟩
  · rw [result]
    exact frame ok rfl (Nat.le_refl _)
  · obtain ⟨member, claimable⟩ := mem_of_nextClaimable selected
    have isOpen := isOpen_of_claimable claimable
    have notCompleted : current.status ≠ .completed := by
      intro completed
      rw [completed] at isOpen
      cases isOpen
    rcases claimed with ⟨_, result⟩ | ⟨_, result⟩
    · rw [result]
      apply unfinished ok member notCompleted
      · rfl
      · exact Nat.le_refl _
      · exact fun _ => rfl
      · exact fun _ => rfl
      · exact fun _ => rfl
    · rw [result]
      apply unfinished ok member notCompleted
      · rfl
      · exact Nat.le_succ _
      · exact fun _ => rfl
      · exact fun _ => rfl
      · exact fun _ => rfl

theorem markRetry (maxRetries jobId token generation : Nat) (error : String) (retryAfterSeconds : Nat) (clock : Time) :
    JobsAdvance tables (Memory.markRetry maxRetries tables jobId token generation error retryAfterSeconds clock) := by
  unfold Memory.markRetry
  split
  · exact frame ok rfl (Nat.le_refl _)
  · simp only
    split
    · exact held ok rfl (Nat.le_refl _) (fun _ => rfl) (fun _ => rfl) (fun _ => Nat.le_refl _)
    · exact held ok rfl (Nat.le_refl _) (fun _ => rfl) (fun _ => rfl) (fun _ => Nat.le_refl _)

theorem requeue (jobId : Nat) (now : Time) : JobsAdvance tables (requeueDeadLetter tables jobId now) := by
  apply update ok
  · rfl
  · exact Nat.le_refl _
  · exact fun _ => rfl
  · intro job _ selected
    simp only [Bool.and_eq_true, beq_iff_eq] at selected
    apply JobAdvance.unfinished
    · rfl
    · rfl
    · rfl
    · rw [selected.2]
      exact JobStatus.noConfusion

theorem dropSession (sessionId : Nat) : JobsAdvance tables (dropSessionJobs tables sessionId) :=
  remove ok rfl (Nat.le_refl _)

end

end JobsAdvance

/-! ### Every operation -/

theorem setUserOptIn_jobsAdvance
    {enabled : Bool} {policyVersion : String} (ok : JobsOk tables) (supply : tables.nextId ≤
      (setUserOptIn contentHash tables userId enabled policyVersion now).nextId) :
    JobsAdvance tables (setUserOptIn contentHash tables userId enabled policyVersion now) := by
  obtain ⟨settings, written | ⟨_, withdrawn⟩⟩ :=
    setUserOptIn_cases contentHash tables userId enabled policyVersion now
  · rw [written]
    exact JobsAdvance.frame ok rfl (Nat.le_refl _)
  · rw [withdrawn] at supply ⊢
    exact JobsAdvance.cancelWhere ok (withdrawConsents_jobs contentHash _ _ _ now) supply

theorem revokeConsent_jobsAdvance {consentEventId : Nat} (ok : JobsOk tables) (supply : tables.nextId ≤
      (revokeConsent contentHash tables userId consentEventId reason now).nextId) :
    JobsAdvance tables (revokeConsent contentHash tables userId consentEventId reason now) := by
  unfold revokeConsent at supply ⊢
  split at supply
  next present =>
    rw [if_pos present]
    exact JobsAdvance.cancelWhere ok (withdrawConsents_jobs contentHash _ _ _ now) supply
  next absent =>
    rw [if_neg absent]
    exact JobsAdvance.frame ok rfl supply

variable {snapshot : Job}

theorem mem_of_heldJob {current : Job} (held : heldJob tables snapshot = some current) :
    current ∈ tables.jobs ∧ current.jobId = snapshot.jobId ∧ current.status = .running ∧
      current.leaseToken = snapshot.leaseToken ∧ current.generation = snapshot.generation := by
  unfold heldJob at held
  obtain ⟨found, leased⟩ := Option.filter_eq_some_iff.mp held
  obtain ⟨member, same⟩ := mem_of_getJob found
  simp only [Bool.and_eq_true, beq_iff_eq] at leased
  exact ⟨member, same, leased.1.1, leased.1.2, leased.2⟩

theorem applyJob_jobs {after : Tables} (applied : applyJob env tables snapshot messages sourceHash now = .ok after) :
    ∃ current token, heldJob tables snapshot = some current ∧ snapshot.leaseToken = some token ∧
      after.jobs = (markCompleted tables snapshot.jobId token snapshot.generation now).jobs := by
  obtain ⟨current, held, _, ran⟩ := applyJob_cases applied
  obtain ⟨run, output, token, middle, checked, _, leased, _, items, checkpoint, rfl⟩ :=
    applyRun_cases ran
  refine ⟨current, token, held, leased, ?_⟩
  have jobs : checked.jobs = tables.jobs := by
    rw [updateCheckpoint_jobs checkpoint, ensureCheckpoint_jobs]
    show middle.jobs = tables.jobs
    exact applyItems_jobs items
  simp only [markCompleted, updateHeld, jobs]

/-! ### Generations that are over -/

/-- The job id was handed out, and the row under it is past the generation or completed it. -/
structure Finished (tables : Tables) (jobId generation : Nat) : Prop where
  known : jobId < tables.nextId
  ended : ∀ job ∈ tables.jobs, job.jobId = jobId →
    generation < job.generation ∨ (job.generation = generation ∧ job.status = .completed)

theorem Finished.advance {after : Tables} {jobId generation : Nat}
    (finished : Finished tables jobId generation) (advance : JobsAdvance tables after) :
    Finished after jobId generation := by
  refine ⟨Nat.lt_of_lt_of_le finished.known advance.supply, ?_⟩
  intro job member same
  rcases advance.rows job member with ⟨old, oldMember, change⟩ | new
  · have later := change.later
    rcases finished.ended old oldMember (change.sameId.symm.trans same) with past | ⟨here, completed⟩
    · exact Or.inl (Nat.lt_of_lt_of_le past later)
    · by_cases moved : job.generation = old.generation
      · exact Or.inr ⟨moved.trans here, change.settled moved completed⟩
      · left
        omega
  · -- a new job has an id that was not handed out before
    have bound := finished.known
    have fresh := new.fresh
    omega

theorem Finished.heldJob (finished : Finished tables snapshot.jobId snapshot.generation) :
    Memory.heldJob tables snapshot = none := by
  cases held : Memory.heldJob tables snapshot with
  | none => rfl
  | some current =>
    obtain ⟨member, same, running, _, generation⟩ := mem_of_heldJob held
    rcases finished.ended current member same with past | ⟨_, completed⟩
    · omega
    · rw [running] at completed
      cases completed

theorem applyJob_finishes {after : Tables} (ok : JobsOk tables) (supply : tables.nextId ≤ after.nextId)
    (applied : applyJob env tables snapshot messages sourceHash now = .ok after) :
    Finished after snapshot.jobId snapshot.generation := by
  obtain ⟨current, token, held, leased, jobs⟩ := applyJob_jobs applied
  obtain ⟨member, same, running, sameToken, generation⟩ := mem_of_heldJob held
  refine ⟨?_, ?_⟩
  · rw [← same]
    exact Nat.lt_of_lt_of_le (ok.known current member) supply
  intro job jobMember jobSame
  rw [jobs] at jobMember
  rcases mem_updateWhere.mp jobMember with ⟨old, oldMember, selected, rfl⟩ | ⟨kept, skipped⟩
  · simp only [Bool.and_eq_true, Job.heldBy, beq_iff_eq] at selected
    exact Or.inr ⟨selected.2.2, rfl⟩
  · have own := ok.unique.eq_of_key kept member (jobSame.trans same.symm)
    rw [own] at skipped
    simp [Job.heldBy, same, running, sameToken, leased, generation] at skipped

theorem commit_jobsAdvance {state : ServiceState} {result : Except String Tables} (ok : JobsOk state.tables)
    (accepted : ∀ after, result = .ok after → JobsAdvance state.tables after) :
    JobsAdvance state.tables (state.commit result).tables := by
  cases result with
  | error => exact JobsAdvance.frame ok rfl (Nat.le_refl _)
  | ok after => exact accepted after rfl

/-- Every operation moves the jobs forward. -/
theorem exec_jobsAdvance (env : Environment) (state : ServiceState) (op : Op)
    (okCatalog : CatalogOk state.tables) (ok : JobsOk state.tables) :
    JobsAdvance state.tables (state.exec env op).tables := by
  have supply : state.tables.nextId ≤ (state.exec env op).tables.nextId :=
    (CatalogSteps.working_origin okCatalog (exec_catalogSteps env state op okCatalog)).2
  have unchanged : (state.exec env op).tables.jobs = state.tables.jobs →
      JobsAdvance state.tables (state.exec env op).tables :=
    fun jobs => JobsAdvance.frame ok jobs supply
  cases op with
  | setUserOptIn => exact setUserOptIn_jobsAdvance ok supply
  | createUserConsent =>
    exact commit_jobsAdvance ok fun _ created => JobsAdvance.createUserConsent ok created
  | revokeConsent => exact revokeConsent_jobsAdvance ok supply
  | clearSession sessionId now =>
    exact JobsAdvance.cancelWhere ok (invalidateSessionMemory_jobs env.contentHash _ _ _ now) supply
  | deleteSession sessionId now =>
    have cleared : JobsAdvance state.tables
        (invalidateSessionMemory env.contentHash state.tables sessionId "session_deleted" now) :=
      JobsAdvance.cancelWhere ok (invalidateSessionMemory_jobs env.contentHash _ _ _ now) supply
    exact cleared.trans (JobsAdvance.dropSession (cleared.jobsOk ok) sessionId)
  | editMessage sessionId messageId reason now =>
    exact JobsAdvance.cancelWhere ok (invalidateMessageMemory_jobs env.contentHash _ _ _ _ now)
      supply
  | enqueue request now => exact JobsAdvance.enqueue ok request now
  | enqueueInConnection request now => exact JobsAdvance.enqueueInConnection ok request now
  | disableAutoExtract => exact JobsAdvance.cancelWhere ok rfl (Nat.le_refl _)
  | updateDraft =>
    exact unchanged (commit_keeps Tables.jobs fun _ updated => updateDraft_jobs updated)
  | verify =>
    exact unchanged (commit_keeps Tables.jobs fun _ verified => verify_jobs verified)
  | requeueDeadLetter jobId now => exact JobsAdvance.requeue ok jobId now
  | claimNext workerId leaseSeconds now clock =>
    have claimed := JobsAdvance.claimNext ok env.uuid env.jobMaxRetries workerId leaseSeconds now clock
    simp only [ServiceState.exec]
    split
    next tables result => exact (by rw [result] at claimed; exact claimed)
    next tables job result => exact (by rw [result] at claimed; exact claimed)
  | heartbeat =>
    exact JobsAdvance.held ok rfl (Nat.le_refl _) (fun _ => rfl) (fun _ => rfl) (fun _ => Nat.le_refl _)
  | markRetry jobId token generation error retryAfterSeconds clock =>
    exact JobsAdvance.markRetry ok _ jobId token generation error retryAfterSeconds clock
  | cancelJob =>
    exact JobsAdvance.held ok rfl (Nat.le_refl _) (fun _ => rfl) (fun _ => rfl) (fun _ => Nat.le_succ _)
  | applyJob job messages sourceHash now =>
    simp only [ServiceState.exec] at supply ⊢
    split at supply
    next claimed =>
      rw [if_pos claimed]
      cases outcome : applyJob env state.tables job messages sourceHash now with
      | error => exact JobsAdvance.frame ok rfl (Nat.le_refl _)
      | ok =>
        rw [outcome] at supply
        obtain ⟨_, token, _, _, jobs⟩ := applyJob_jobs outcome
        exact JobsAdvance.held ok jobs supply (fun _ => rfl) (fun _ => rfl) (fun _ => Nat.le_refl _)
    next unclaimed =>
      rw [if_neg unclaimed]
      exact JobsAdvance.frame ok rfl (Nat.le_refl _)
  | _ => exact unchanged (jobs_of_work (exec_work env state _ rfl))

/-- Jobs have ids of their own and an authority in every reachable state. -/
theorem jobsOk_run (env : Environment) (ops : List Op) : JobsOk ((memoryService env).run ops).tables := by
  have both : CatalogOk ((memoryService env).run ops).tables ∧
      JobsOk ((memoryService env).run ops).tables := by
    apply Machine.invariant (fun state : ServiceState => CatalogOk state.tables ∧ JobsOk state.tables)
    · refine ⟨catalogOk_empty, ?_, ?_, ?_⟩
      · exact List.nodup_nil
      · intro job member
        cases member
      · intro job member
        cases member
    · rintro state op ⟨okCatalog, ok⟩
      exact ⟨okCatalog.steps (exec_catalogSteps env state op okCatalog),
        (exec_jobsAdvance env state op okCatalog ok).jobsOk ok⟩
  exact both.2

end HardwareDatabase.Memory
