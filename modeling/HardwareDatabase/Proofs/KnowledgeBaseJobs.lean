/-
Module: HardwareDatabase.Proofs.KnowledgeBaseJobs
Purpose: When two jobs that name one knowledge base can run at once: the scope of a job is the first of its fields
  that is given.
Trusted boundary: none
-/
import HardwareDatabase.Proofs.JobExclusion

namespace HardwareDatabase.DocumentJobs

open Python (strip clip)
open Relational

/-- The payload names the knowledge base. -/
def Payload.NamesKnowledgeBase (name : String) (payload : Payload) : Prop :=
  payload.knowledgeBaseName.isGiven = true ∧ strip payload.knowledgeBaseName.orEmpty = name

/-- What a caller of `create_job` says about the job's resources. -/
structure Subject where
  payload : Payload
  workOrderId : Option String
deriving Repr, DecidableEq

/-- The scope that the subject selects. -/
def Subject.scope (subject : Subject) : Except Failure (Option Scope) :=
  resourceScopeFromPayload subject.payload subject.workOrderId

/-- The job was created with the subject. -/
def Job.isAbout (subject : Subject) (job : Job) : Prop :=
  job.payload = subject.payload ∧ job.workOrderId = subject.workOrderId

/-- In no run are two different jobs of one tenant with these subjects live at once. -/
def NeverOverlap (first second : Subject) : Prop :=
  ∀ ops, documentJobs.Respects leavesLiveLocks ops →
    ∀ left ∈ (documentJobs.run ops).store.jobs, ∀ right ∈ (documentJobs.run ops).store.jobs,
      left.isAbout first → right.isAbout second → left.tenantId = right.tenantId →
      left.isLive (documentJobs.run ops).clock = true →
      right.isLive (documentJobs.run ops).clock = true → left = right

variable {selected : Option Scope}

private theorem exists_scope_of_names {name : String} {subject : Subject}
    (names : subject.payload.NamesKnowledgeBase name) (accepted : subject.scope = .ok selected) :
    ∃ scope, selected = some scope := by
  have mapped : ∀ {resourceType resourceId : String},
      (validateResourceScope resourceType resourceId).map some = .ok selected →
      ∃ scope, selected = some scope := by
    intro resourceType resourceId valid
    obtain ⟨scope, -, rfl⟩ := exists_of_map_eq_ok valid
    exact ⟨scope, rfl⟩
  rw [Subject.scope, resourceScopeFromPayload] at accepted
  split at accepted
  · cases accepted
  · exact mapped accepted
  · split at accepted
    · exact mapped accepted
    · rw [if_pos names.1] at accepted
      exact mapped accepted

/-! ### Two claims on different scopes -/

/-- A request with the subject. -/
def Subject.request (clientRequestId : String) (subject : Subject) : JobRequest :=
  { tenantId := "acme"
    userId := "7"
    sessionId := "3"
    clientRequestId
    operation := "generate_work_order"
    payload := subject.payload
    workOrderId := subject.workOrderId
    taskId := none
    maxAttempts := 3
    availableAt := none }

/-- The queued row of the request. -/
def Subject.queued (clientRequestId : String) (uuid : Uuid) (subject : Subject) : Job :=
  (subject.request clientRequestId).newJob .generateWorkOrder uuid 0

private theorem createJob_request {store : Store} {subject : Subject} {clientRequestId : String} {uuid : Uuid}
    (client : clip 128 (strip clientRequestId) ≠ "") (accepted : subject.scope = .ok selected)
    (fresh : store.jobs.find? (Job.hasKey (subject.request clientRequestId) .generateWorkOrder) = none) :
    store.createJob (subject.request clientRequestId) uuid uuid 0 =
      store.insertJob (subject.queued clientRequestId uuid) uuid := by
  have known : Operation.validate (subject.request clientRequestId).operation =
      .ok .generateWorkOrder := by
    simp only [Subject.request]
    decide
  have named : strip (subject.request clientRequestId).tenantId ≠ "" ∧
      strip (subject.request clientRequestId).userId ≠ "" ∧
      strip (subject.request clientRequestId).sessionId ≠ "" := by
    simp only [Subject.request]
    decide
  have keyed : clip 128 (strip (subject.request clientRequestId).clientRequestId) ≠ "" := client
  have selects : resourceScopeFromPayload (subject.request clientRequestId).payload
      (subject.request clientRequestId).workOrderId = .ok selected := accepted
  simp [Store.createJob, Subject.queued, known, named, keyed, selects, fresh, bind, Except.bind]

private theorem claim_free {store : Store} {job : Job} {scope : Scope} {workerId : String}
    {leaseSeconds : Int} {now : Nat} (found : store.get job.jobId = some job)
    (worker : strip workerId ≠ "") (queued : job.status = .queued) (due : job.availableAt ≤ now)
    (remaining : job.attempt + 1 ≤ job.maxAttempts) (tenant : strip job.tenantId = job.tenantId)
    (named : job.tenantId ≠ "") (selected : job.scope = .ok (some scope))
    (free : lockOf store.locks job.tenantId scope = none) :
    (store.claim job.jobId workerId leaseSeconds now).map Prod.snd =
      .ok { store with
        jobs := writeJob store.jobs job.jobId (Job.start (strip workerId) (leaseEnd now leaseSeconds) (some 1) now)
        locks := store.locks ++
          [{ tenantId := job.tenantId, scope, ownerId := jobLockOwner job.jobId (job.attempt + 1)
             fencingToken := 1, leaseExpiresAt := leaseEnd now leaseSeconds }] } := by
  have acquired : acquireResourceLock store.locks job.tenantId scope.resourceType.text
      scope.resourceId (jobLockOwner job.jobId (job.attempt + 1)) leaseSeconds now =
      .ok (takeLock store.locks job.tenantId scope (jobLockOwner job.jobId (job.attempt + 1))
        leaseSeconds now) :=
    acquireResourceLock_eq tenant named (strip_jobLockOwner _ _) (jobLockOwner_ne_empty _ _)
      (validate_of_scopeFromPayload selected)
  have notUsedUp : ¬ job.maxAttempts < job.attempt + 1 := by omega
  simp [Store.claim, Store.lease, Store.startJob, locksForClaim, found, worker, queued, due, notUsedUp,
    selected, acquired, takeLock, free, Job.isAvailable, Job.isExpired, JobStatus.isTerminal, bind,
    Except.bind, pure, Except.pure, Except.map]

/-- Two jobs are created and then claimed by two workers. -/
def claimBoth (first second : Subject) : List Op :=
  [.createJob (first.request "one") firstUuid firstUuid 0,
    .createJob (second.request "two") secondUuid secondUuid 0,
    .claim "document-job-0a" "worker-1" 60 0, .claim "document-job-0b" "worker-2" 60 0]

/-- The outbox row of a queued job. -/
def Job.announcement (outboxUuid : Uuid) (job : Job) : OutboxRow :=
  { outboxUuid, jobId := job.jobId, operation := job.operation, status := .pending, attempt := 0,
    availableAt := job.availableAt, lastError := "", createdAt := job.createdAt, dispatchedAt := none }

/-- The store after both requests. -/
def bothQueued (first second : Subject) : Store :=
  { jobs := [first.queued "one" firstUuid, second.queued "two" secondUuid]
    outbox := [(first.queued "one" firstUuid).announcement firstUuid,
      (second.queued "two" secondUuid).announcement secondUuid]
    locks := [] }

private theorem jobId_queued (clientRequestId : String) (uuid : Uuid) (subject : Subject) :
    (subject.queued clientRequestId uuid).jobId = "document-job-" ++ uuid.hex := rfl

private theorem createJob_first {first : Subject} {selected : Option Scope} (accepted : first.scope = .ok selected) :
    Store.empty.createJob (first.request "one") firstUuid firstUuid 0 =
      .ok { jobs := [first.queued "one" firstUuid]
            outbox := [(first.queued "one" firstUuid).announcement firstUuid], locks := [] } := by
  exact createJob_request (by decide) accepted rfl

private theorem createJob_second {first second : Subject} (accepted : second.scope = .ok selected) :
    ({ jobs := [first.queued "one" firstUuid]
       outbox := [(first.queued "one" firstUuid).announcement firstUuid], locks := [] } :
        Store).createJob (second.request "two") secondUuid secondUuid 0 =
      .ok (bothQueued first second) := by
  have otherKey : clip 128 (strip "one") ≠ clip 128 (strip "two") := by decide
  have otherId : "document-job-" ++ firstUuid.hex ≠ "document-job-" ++ secondUuid.hex := by decide
  have otherRow : firstUuid ≠ secondUuid := by decide
  have fresh : [first.queued "one" firstUuid].find?
      (Job.hasKey (second.request "two") .generateWorkOrder) = none := by
    simp [Job.hasKey, Subject.queued, Subject.request, JobRequest.newJob, otherKey]
  refine (createJob_request (by decide) accepted fresh).trans ?_
  have unused : ¬ ([first.queued "one" firstUuid].any (fun other =>
      other.jobId == (second.queued "two" secondUuid).jobId) ||
      [(first.queued "one" firstUuid).announcement firstUuid].any (fun row =>
        row.outboxUuid == secondUuid || row.jobId == (second.queued "two" secondUuid).jobId)) =
      true := by
    simp [Job.announcement, jobId_queued, otherId, otherRow]
  rw [Store.insertJob]
  exact if_neg unused

/-- The row of a queued job after its first claim. -/
def Job.claimedBy (workerId : String) (job : Job) : Job :=
  job.start (strip workerId) (leaseEnd 0 60) (some 1) 0

/-- The lock row of a first claim. -/
def Job.firstLock (scope : Scope) (job : Job) : LockRow :=
  { tenantId := job.tenantId, scope, ownerId := jobLockOwner job.jobId (job.attempt + 1)
    fencingToken := 1, leaseExpiresAt := leaseEnd 0 60 }

section Claims

variable {first second : Subject} {firstScope secondScope : Scope}

private theorem jobId_apart (first second : Subject) :
    (first.queued "one" firstUuid).jobId ≠ (second.queued "two" secondUuid).jobId := by
  rw [jobId_queued, jobId_queued]
  decide

private theorem tenant_queued (clientRequestId : String) (uuid : Uuid) (subject : Subject) :
    strip (subject.queued clientRequestId uuid).tenantId = (subject.queued clientRequestId uuid).tenantId ∧
      (subject.queued clientRequestId uuid).tenantId ≠ "" := by
  constructor
  · simp [Subject.queued, JobRequest.newJob]
  · simp only [Subject.queued, JobRequest.newJob, Subject.request]
    decide

private theorem attempts_queued (clientRequestId : String) (uuid : Uuid) (subject : Subject) :
    (subject.queued clientRequestId uuid).attempt + 1 ≤ (subject.queued clientRequestId uuid).maxAttempts := by
  simp only [Subject.queued, JobRequest.newJob, Subject.request]
  decide

private theorem claim_first (selected : first.scope = .ok (some firstScope)) :
    ((bothQueued first second).claim "document-job-0a" "worker-1" 60 0).map Prod.snd =
      .ok { bothQueued first second with
        jobs := [(first.queued "one" firstUuid).claimedBy "worker-1", second.queued "two" secondUuid]
        locks := [(first.queued "one" firstUuid).firstLock firstScope] } := by
  have apart := jobId_apart first second
  have tenant := tenant_queued "one" firstUuid first
  have claimed := @claim_free (bothQueued first second) (first.queued "one" firstUuid) firstScope
    "worker-1" 60 0 (by simp [Store.get, bothQueued]) (by decide) rfl (Nat.le_refl 0)
    (attempts_queued "one" firstUuid first) tenant.1 tenant.2 selected rfl
  have written : writeJob (bothQueued first second).jobs (first.queued "one" firstUuid).jobId
      (Job.start (strip "worker-1") (leaseEnd 0 60) (some 1) 0) =
      [(first.queued "one" firstUuid).claimedBy "worker-1", second.queued "two" secondUuid] := by
    simp [writeJob, updateWhere, bothQueued, apart.symm, Job.claimedBy]
  rw [written] at claimed
  exact claimed

private theorem claim_second (selected : second.scope = .ok (some secondScope)) (apart : firstScope ≠ secondScope) :
    (({ bothQueued first second with
        jobs := [(first.queued "one" firstUuid).claimedBy "worker-1", second.queued "two" secondUuid]
        locks := [(first.queued "one" firstUuid).firstLock firstScope] } : Store).claim
          "document-job-0b" "worker-2" 60 0).map Prod.snd =
      .ok { bothQueued first second with
        jobs := [(first.queued "one" firstUuid).claimedBy "worker-1",
          (second.queued "two" secondUuid).claimedBy "worker-2"]
        locks := [(first.queued "one" firstUuid).firstLock firstScope,
          (second.queued "two" secondUuid).firstLock secondScope] } := by
  have ids := jobId_apart first second
  have startedId : ((first.queued "one" firstUuid).claimedBy "worker-1").jobId =
      (first.queued "one" firstUuid).jobId := rfl
  have tenant := tenant_queued "two" secondUuid second
  have claimed := @claim_free { bothQueued first second with
      jobs := [(first.queued "one" firstUuid).claimedBy "worker-1", second.queued "two" secondUuid]
      locks := [(first.queued "one" firstUuid).firstLock firstScope] }
    (second.queued "two" secondUuid) secondScope "worker-2" 60 0
    (by simp [Store.get, startedId, ids]) (by decide) rfl (Nat.le_refl 0)
    (attempts_queued "two" secondUuid second) tenant.1 tenant.2 selected
    (by simp [lockOf, LockRow.isFor, Job.firstLock, apart])
  have written : writeJob [(first.queued "one" firstUuid).claimedBy "worker-1",
      second.queued "two" secondUuid] (second.queued "two" secondUuid).jobId
      (Job.start (strip "worker-2") (leaseEnd 0 60) (some 1) 0) =
      [(first.queued "one" firstUuid).claimedBy "worker-1",
        (second.queued "two" secondUuid).claimedBy "worker-2"] := by
    simp [writeJob, updateWhere, startedId, ids]
    rfl
  simp only [written] at claimed
  exact claimed

private theorem run_claimBoth (firstSelected : first.scope = .ok (some firstScope))
    (secondSelected : second.scope = .ok (some secondScope)) (apart : firstScope ≠ secondScope) :
    documentJobs.run (claimBoth first second) =
      { store := { bothQueued first second with
          jobs := [(first.queued "one" firstUuid).claimedBy "worker-1",
            (second.queued "two" secondUuid).claimedBy "worker-2"]
          locks := [(first.queued "one" firstUuid).firstLock firstScope,
            (second.queued "two" secondUuid).firstLock secondScope] }
        clock := 0
        read := [] } := by
  simp only [Machine.run, claimBoth, documentJobs, ServiceState.start, List.foldl_cons, List.foldl_nil,
    ServiceState.step, ServiceState.exec, ServiceState.clockAfter, ServiceState.readAfter, Nat.sub_zero,
    createJob_first firstSelected, createJob_second secondSelected, Store.commit,
    claim_first firstSelected, claim_second secondSelected apart]

end Claims

private theorem respects_claimBoth (first second : Subject) :
    documentJobs.Respects leavesLiveLocks (claimBoth first second) := by
  intro before op after split
  have listed : op ∈ claimBoth first second := by
    rw [split]
    simp
  simp only [claimBoth, List.mem_cons, List.not_mem_nil, or_false] at listed
  rcases listed with rfl | rfl | rfl | rfl <;> rfl

private theorem isAbout_claimedBy (clientRequestId workerId : String) (uuid : Uuid) (subject : Subject) :
    ((subject.queued clientRequestId uuid).claimedBy workerId).isAbout subject := ⟨rfl, rfl⟩

private theorem tenantId_claimedBy (clientRequestId workerId : String) (uuid : Uuid) (subject : Subject) :
    ((subject.queued clientRequestId uuid).claimedBy workerId).tenantId = strip "acme" := rfl

private theorem isLive_claimedBy (job : Job) (workerId : String) : (job.claimedBy workerId).isLive 0 = true := rfl

/-- Subjects that select different scopes can be live at once. -/
theorem not_neverOverlap {first second : Subject} {firstScope secondScope : Scope}
    (firstSelected : first.scope = .ok (some firstScope)) (secondSelected : second.scope = .ok (some secondScope))
    (apart : firstScope ≠ secondScope) : ¬ NeverOverlap first second := by
  intro never
  have reached := run_claimBoth firstSelected secondSelected apart
  have leftLive : ((first.queued "one" firstUuid).claimedBy "worker-1").isLive
      (documentJobs.run (claimBoth first second)).clock = true := by
    rw [reached]
    exact isLive_claimedBy _ _
  have rightLive : ((second.queued "two" secondUuid).claimedBy "worker-2").isLive
      (documentJobs.run (claimBoth first second)).clock = true := by
    rw [reached]
    exact isLive_claimedBy _ _
  have same := never (claimBoth first second) (respects_claimBoth first second) _ (by simp [reached]) _
    (by simp [reached]) (isAbout_claimedBy "one" "worker-1" firstUuid first)
    (isAbout_claimedBy "two" "worker-2" secondUuid second)
    ((tenantId_claimedBy _ _ _ _).trans (tenantId_claimedBy _ _ _ _).symm) leftLive rightLive
  have ids : firstUuid = secondUuid := congrArg Job.uuid same
  revert ids
  decide

/-- Two jobs of one tenant that name the same knowledge base are never live at once if and only if their
subjects, as far as `create_job` accepts them, select the same scope. -/
theorem knowledge_base_jobs_never_overlap_iff {name : String} {first second : Subject}
    (firstNames : first.payload.NamesKnowledgeBase name) (secondNames : second.payload.NamesKnowledgeBase name) :
    NeverOverlap first second ↔
      ∀ firstScope secondScope, first.scope = .ok firstScope → second.scope = .ok secondScope →
        firstScope = secondScope := by
  constructor
  · intro never firstSelected secondSelected firstAccepted secondAccepted
    obtain ⟨firstScope, rfl⟩ := exists_scope_of_names firstNames firstAccepted
    obtain ⟨secondScope, rfl⟩ := exists_scope_of_names secondNames secondAccepted
    by_contra different
    have apart : firstScope ≠ secondScope := fun same => different (by rw [same])
    exact not_neverOverlap firstAccepted secondAccepted apart never
  · intro agree ops respects left leftMember right rightMember leftAbout rightAbout tenant leftLive
      rightLive
    have sound := sound_run respects
    have leftScope : left.scope = first.scope := by
      rw [Job.scope, Subject.scope, leftAbout.1, leftAbout.2]
    have rightScope : right.scope = second.scope := by
      rw [Job.scope, Subject.scope, rightAbout.1, rightAbout.2]
    -- `create_job` has accepted the subjects of both rows
    obtain ⟨selected, leftAccepted⟩ := (sound.jobs left leftMember).accepted
    obtain ⟨selected', rightAccepted⟩ := (sound.jobs right rightMember).accepted
    have same := agree selected selected' (leftScope ▸ leftAccepted) (rightScope ▸ rightAccepted)
    subst same
    obtain ⟨scope, rfl⟩ := exists_scope_of_names firstNames (leftScope ▸ leftAccepted)
    exact sound.excludes leftMember rightMember leftLive rightLive tenant leftAccepted rightAccepted

/-- A job of a project and a job without one, both on the knowledge base `manuals`. -/
def projectManuals : Subject :=
  { payload :=
      { resourceLock := none, projectId := .text "radio", knowledgeBaseName := .text "manuals"
        templateVersionId := .null, rest := "" }
    workOrderId := none }

def plainManuals : Subject :=
  { payload :=
      { resourceLock := none, projectId := .null, knowledgeBaseName := .text "manuals"
        templateVersionId := .null, rest := "" }
    workOrderId := some "wo-1" }

/-- Two jobs without a project do not overlap on the knowledge base that both name. -/
theorem plain_manuals_never_overlap : NeverOverlap plainManuals plainManuals := by
  have names : plainManuals.payload.NamesKnowledgeBase "manuals" := by
    constructor <;> decide
  apply (knowledge_base_jobs_never_overlap_iff names names).mpr
  intro firstScope secondScope firstAccepted secondAccepted
  rw [firstAccepted] at secondAccepted
  exact Except.ok.inj secondAccepted

/-- The project id of one job replaces the knowledge base as its scope, and the two run at once. -/
theorem project_job_overlaps_plain_job :
    ¬ ∀ (name : String) (first second : Subject), first.payload.NamesKnowledgeBase name →
      second.payload.NamesKnowledgeBase name → NeverOverlap first second := by
  intro never
  have project : projectManuals.scope = .ok (some ⟨.project, "radio"⟩) := by decide
  have plain : plainManuals.scope = .ok (some ⟨.knowledgeBase, "manuals"⟩) := by decide
  refine not_neverOverlap project plain (by simp) (never "manuals" projectManuals plainManuals ?_ ?_)
  · constructor <;> decide
  · constructor <;> decide

end HardwareDatabase.DocumentJobs
