/-
Module: HardwareDatabase.Proofs.ExportPublishing
Purpose: Whole runs of the export jobs: ends come from the holder of the latest lease, success goes with one artifact
  and is never left, and the outbox follows the jobs.
Trusted boundary: none
-/
import HardwareDatabase.Proofs.ExportPairing

namespace HardwareDatabase.ResultExports

open Python (strip)
open Relational

/-! ### What is claimed of a run -/

/-- A grant is the latest one of its job, and no earlier one has its token. -/
def LatestGrant (history : List Grant) (grant : Grant) : Prop :=
  ∃ earlier, history.filter (fun other => other.jobId == grant.jobId) = earlier ++ [grant] ∧
    ∀ other ∈ earlier, other.leaseToken < grant.leaseToken

/-- The lease under which an operation ends a job. -/
def ExportOp.presented : ExportOp → Option Grant
  | .publish call _ =>
    some { jobId := call.jobId, workerId := call.workerId, leaseToken := call.leaseToken }
  | .fail call _ =>
    some { jobId := call.jobId, workerId := call.workerId, leaseToken := call.leaseToken }
  | _ => none

/-- The transaction of an operation commits. -/
def ExportState.Accepts (settings : Settings) (state : ExportState) (op : ExportOp) : Prop :=
  ∃ after, state.attempt settings op = .ok after

/-- Success goes with one artifact, which the job names. -/
def JobTables.SuccessPaired (tables : JobTables) : Prop :=
  ∀ job ∈ tables.jobs, job.status = .succeeded ↔
    ∃ row, tables.artifactsOf job.exportJobId = [row] ∧ job.artifactId = some row.artifactId

/-- Each job has one outbox row, whose status corresponds to its own. -/
def JobTables.OutboxFollows (tables : JobTables) : Prop :=
  ∀ job ∈ tables.jobs, ∃ row,
    tables.outboxOf job.exportJobId = [row] ∧ row.status = job.status.outbox

/-- The number of alive leases is within the setting. -/
def ExportState.WithinLimit (settings : Settings) (state : ExportState) : Prop :=
  (state.tables.activeRunning state.clock : Int) ≤ settings.maxRunningJobs

/-- Export jobs publish exactly once, in a run and in all its beginnings. -/
structure PublishesOnce (settings : Settings) (snapshots : List SnapshotRow) (ops : List ExportOp) : Prop where
  latestLease : ∀ before op rest grant, ops = before ++ op :: rest → op.presented = some grant →
    ((exportJobs settings snapshots).run before).Accepts settings op →
    LatestGrant ((exportJobs settings snapshots).emitted (granted settings) before) grant
  paired : ∀ before rest, ops = before ++ rest →
    ((exportJobs settings snapshots).run before).tables.SuccessPaired
  successStays : ∀ before op rest, ops = before ++ op :: rest →
    ∀ job ∈ ((exportJobs settings snapshots).run before).tables.jobs, job.status = .succeeded →
    ∀ later ∈ ((exportJobs settings snapshots).run (before ++ [op])).tables.jobs,
      later.exportJobId = job.exportJobId →
      later.status = .succeeded ∧ later.artifactId = job.artifactId
  cancelledSilent : ∀ before between call lag rest,
    ops = before ++ between ++ .publish call lag :: rest →
    ∀ job ∈ ((exportJobs settings snapshots).run before).tables.jobs, job.exportJobId = call.jobId →
      job.status = .cancelled →
      ((exportJobs settings snapshots).run (before ++ between)).Accepts settings (.publish call lag) →
      ∃ ownerUserId retryLag, .retry ownerUserId call.jobId retryLag ∈ between
  outboxFollows : ∀ before rest, ops = before ++ rest →
    ((exportJobs settings snapshots).run before).tables.OutboxFollows
  bounded : ∀ before rest, ops = before ++ rest →
    ((exportJobs settings snapshots).run before).WithinLimit settings

/-- An operation brings the lease of a job to life past the test of the limit: a claim of an abandoned job, a
heartbeat of an expired lease, or, where the setting is below the one that the code takes instead, any
claim. -/
def ExportState.Revives (settings : Settings) (state : ExportState) (job : JobRow) : ExportOp → Prop
  | .claim jobId workerId leaseSeconds lag =>
    job.exportJobId = jobId ∧ strip workerId ≠ "" ∧ job.attempt + 1 ≤ job.maxAttempts ∧
      (job.isAbandoned (state.now lag) = true ∨
        settings.maxRunningJobs < 1 ∧ job.isDue (state.now lag) = true ∧
          state.tables.activeRunning (state.now lag) < settings.runningLimit) ∧
      state.clock < leaseEnd (state.now lag) leaseSeconds
  | .heartbeat jobId workerId leaseToken leaseSeconds lag =>
    job.exportJobId = jobId ∧ job.heldBy workerId leaseToken = true ∧ job.leased state.clock = false ∧
      state.clock < leaseEnd (state.now lag) leaseSeconds
  | _ => False

/-- A lease comes to life past the test only where the setting leaves room. -/
def SparesLimit (settings : Settings) (state : ExportState) (op : ExportOp) : Prop :=
  ∀ job ∈ state.tables.jobs, state.Revives settings job op →
    (state.tables.activeRunning state.clock : Int) < settings.maxRunningJobs

variable {settings : Settings} {snapshots : List SnapshotRow} {state : ExportState} {op : ExportOp}

/-! ### Moves -/

variable {job new : JobRow}

section

variable (move : JobMove settings state op job new)
include move

theorem JobMove.exportJobId : new.exportJobId = job.exportJobId := by
  cases move with
  | failed _ _ ids => exact ids.1
  | cancelled _ ids => exact ids.1
  | retried _ ids => exact ids.1
  | _ => rfl

/-- A job that is neither queued nor running keeps its status and its artifact, unless it is retried after
an end without success. -/
theorem JobMove.of_closed (closed : job.status ≠ .queued ∧ job.status ≠ .running) :
    (new.status = job.status ∧ new.artifactId = job.artifactId) ∨
      (∃ ownerUserId lag, op = .retry ownerUserId job.exportJobId lag) ∧ job.status ≠ .succeeded := by
  have notHeld : ∀ workerId leaseToken, job.heldBy workerId leaseToken ≠ true :=
    fun workerId leaseToken held => closed.2 (running_of_heldBy held).1
  have notReady : ∀ now, ¬ (job.isDue now = true ∨ job.isAbandoned now = true) := by
    intro now ready
    rcases open_of_ready ready with queued | running
    · exact closed.1 queued
    · exact closed.2 running
  cases move with
  | kept => exact .inl ⟨rfl, rfl⟩
  | claimed ready _ _ => exact absurd (ready.imp_left And.left) (notReady _)
  | buried ready => exact absurd ready (notReady _)
  | renewed held => exact absurd held (notHeld _ _)
  | published _ held => exact absurd held (notHeld _ _)
  | failed _ held _ _ => exact absurd held (notHeld _ _)
  | cancelled unfinished => exact absurd unfinished (not_or.mpr closed)
  | retried ended _ _ =>
    refine .inr ⟨⟨_, _, rfl⟩, ?_⟩
    rcases ended with failed | dead | cancelled
    · simp [failed]
    · simp [dead]
    · simp [cancelled]
  | swept => exact .inl ⟨by simp [JobRow.swept, closed], rfl⟩

theorem JobMove.succeeded (succeeded : job.status = .succeeded) :
    new.status = .succeeded ∧ new.artifactId = job.artifactId := by
  rcases move.of_closed (by simp [succeeded]) with ⟨status, artifact⟩ | ⟨-, other⟩
  · exact ⟨status.trans succeeded, artifact⟩
  · exact absurd succeeded other

theorem JobMove.stays_cancelled
    (cancelled : job.status = .cancelled) (spared : ∀ ownerUserId lag, op ≠ .retry ownerUserId job.exportJobId lag) :
    new.status = .cancelled := by
  rcases move.of_closed (by simp [cancelled]) with ⟨status, -⟩ | ⟨⟨ownerUserId, lag, rfl⟩, -⟩
  · exact status.trans cancelled
  · exact absurd rfl (spared ownerUserId lag)

theorem JobMove.lease (silent : granted settings state op = []) : new.leaseToken = job.leaseToken ∧
      (new.status = .running → job.status = .running ∧ new.leaseOwner = job.leaseOwner) := by
  cases move with
  | kept => exact ⟨rfl, fun running => ⟨running, rfl⟩⟩
  | claimed _ _ grant =>
    rw [grant] at silent
    cases silent
  | buried => exact ⟨rfl, fun running => by cases running⟩
  | renewed => exact ⟨rfl, fun running => ⟨running, rfl⟩⟩
  | published => exact ⟨rfl, fun running => by cases running⟩
  | failed _ _ ids status =>
    refine ⟨ids.2.2, fun running => ?_⟩
    rw [status] at running
    split at running
    · cases running
    · cases running
  | cancelled _ ids status =>
    exact ⟨ids.2.2, fun running => by rw [status] at running; cases running⟩
  | retried _ ids status =>
    exact ⟨ids.2.2, fun running => by rw [status] at running; cases running⟩
  | swept =>
    refine ⟨rfl, fun running => ?_⟩
    revert running
    simp only [JobRow.swept]
    cases job.status <;> simp

end

theorem step_jobs (paired : Paired state.tables) (op : ExportOp) :
    ∀ later ∈ (state.step settings op).tables.jobs, (∃ job ∈ state.tables.jobs, JobMove settings state op job later) ∨
        (state.tables.nextId ≤ later.exportJobId ∧ later.status = .queued) := by
  intro later member
  cases outcome : state.attempt settings op with
  | error =>
    simp only [ExportState.step, outcome] at member
    exact .inl ⟨later, member, .kept op later⟩
  | ok =>
    simp only [ExportState.step, outcome] at member
    obtain ⟨move, keep, created, moves, jobs, fresh, -⟩ := attempt_moves paired.jobIds outcome
    rw [jobs] at member
    rcases List.mem_append.mp member with old | new
    · obtain ⟨job, jobMember, rfl⟩ := List.mem_map.mp (List.mem_filter.mp old).1
      exact .inl ⟨job, jobMember, moves job jobMember⟩
    · exact .inr ⟨(fresh later new).above, (fresh later new).status⟩

theorem step_job (paired : Paired state.tables) {later : JobRow} (member : job ∈ state.tables.jobs)
    (laterMember : later ∈ (state.step settings op).tables.jobs)
    (same : later.exportJobId = job.exportJobId) : JobMove settings state op job later := by
  rcases step_jobs paired op later laterMember with ⟨old, oldMember, move⟩ | ⟨above, -⟩
  · rwa [paired.jobIds.eq_of_key oldMember member (move.exportJobId.symm.trans same)] at move
  · have below := paired.jobsBelow job member
    rw [← same] at below
    exact absurd above (Nat.not_le.mpr below)

/-! ### The latest lease -/

/-- What the history of leases says about the jobs. -/
structure LeaseHistory (state : ExportState) (history : List Grant) : Prop where
  below : ∀ grant ∈ history, grant.jobId < state.tables.nextId
  tokens : ∀ job ∈ state.tables.jobs, ∀ grant ∈ history, grant.jobId = job.exportJobId →
    grant.leaseToken ≤ job.leaseToken
  holder : ∀ job ∈ state.tables.jobs, job.status = .running → ∃ workerId,
    job.leaseOwner = some workerId ∧
      LatestGrant history { jobId := job.exportJobId, workerId, leaseToken := job.leaseToken }

theorem nextId_le_step (settings : Settings) (paired : Paired state.tables) (op : ExportOp) :
    state.tables.nextId ≤ (state.step settings op).tables.nextId := by
  cases outcome : state.attempt settings op with
  | error => simp only [ExportState.step, outcome, Nat.le_refl]
  | ok =>
    simp only [ExportState.step, outcome]
    obtain ⟨-, -, -, -, -, -, ids⟩ := attempt_moves paired.jobIds outcome
    exact ids

theorem granted_cases (settings : Settings) (state : ExportState) (op : ExportOp) : granted settings state op = [] ∨
      ∃ job ∈ state.tables.jobs, ∃ workerId leaseSeconds lag, granted settings state op =
          [{ jobId := job.exportJobId, workerId := strip workerId, leaseToken := job.leaseToken + 1 }] ∧
        (state.step settings op).tables = state.tables.updateJob job.exportJobId
          (fun row => row.claimed (strip workerId) (leaseEnd (state.now lag) leaseSeconds) (state.now lag))
          id := by
  cases op
  case claim jobId workerId leaseSeconds lag =>
      cases outcome :
          ResultExports.claim settings state.tables jobId workerId leaseSeconds (state.now lag) with
      | error failure => exact .inl (by simp only [granted, outcome])
      | ok answer =>
        obtain ⟨after, found⟩ := answer
        rcases claim_spec outcome with
          ⟨rfl, -⟩ | ⟨job, member, rfl, ⟨rfl, -, -⟩ | ⟨rfl, -, -, rfl⟩⟩
        · exact .inl (by simp only [granted, outcome])
        · exact .inl (by simp only [granted, outcome])
        · refine .inr ⟨job, member, workerId, leaseSeconds, lag, ?_, ?_⟩
          · simp only [granted, outcome]
            rfl
          · simp only [ExportState.step, ExportState.attempt, outcome]
            rfl
  all_goals exact .inl rfl

variable {grant : Grant}

theorem LatestGrant.append {history : List Grant} {other : Grant}
    (latest : LatestGrant history grant) (different : other.jobId ≠ grant.jobId) :
    LatestGrant (history ++ [other]) grant := by
  obtain ⟨earlier, grants, tokens⟩ := latest
  refine ⟨earlier, ?_, tokens⟩
  rw [List.filter_append, grants]
  simp [different]

theorem step_leaseHistory {history : List Grant} (paired : Paired state.tables)
    (leases : LeaseHistory state history) (op : ExportOp) :
    LeaseHistory (state.step settings op) (history ++ granted settings state op) := by
  have drawn := nextId_le_step settings paired op
  rcases granted_cases settings state op with
    silent | ⟨job, member, workerId, leaseSeconds, lag, grant, tables⟩
  · rw [silent, List.append_nil]
    constructor
    case below => exact fun grant listed => Nat.lt_of_lt_of_le (leases.below grant listed) drawn
    case tokens =>
      intro later laterMember grant listed own
      rcases step_jobs paired op later laterMember with ⟨old, oldMember, move⟩ | ⟨above, -⟩
      · rw [(move.lease silent).1]
        exact leases.tokens old oldMember grant listed (own.trans move.exportJobId)
      · rw [← own] at above
        exact absurd (leases.below grant listed) (Nat.not_lt.mpr above)
    case holder =>
      intro later laterMember running
      rcases step_jobs paired op later laterMember with ⟨old, oldMember, move⟩ | ⟨-, queued⟩
      · obtain ⟨token, keeps⟩ := move.lease silent
        obtain ⟨wasRunning, owner⟩ := keeps running
        rw [token, owner, move.exportJobId]
        exact leases.holder old oldMember wasRunning
      · rw [queued] at running
        cases running
  · rw [grant]
    have jobsAfter : ∀ later ∈ (state.step settings op).tables.jobs,
        later = job.claimed (strip workerId) (leaseEnd (state.now lag) leaseSeconds) (state.now lag) ∨
          (later ∈ state.tables.jobs ∧ later.exportJobId ≠ job.exportJobId) := by
      intro later laterMember
      rw [tables] at laterMember
      rcases mem_updateWhere.mp laterMember with ⟨old, oldMember, same, rfl⟩ | ⟨old, other⟩
      · rw [paired.jobIds.eq_of_key oldMember member (beq_iff_eq.mp same)]
        exact .inl rfl
      · exact .inr ⟨old, by simpa using other⟩
    constructor
    case below =>
      intro earlier listed
      rcases List.mem_append.mp listed with old | new
      · exact Nat.lt_of_lt_of_le (leases.below earlier old) drawn
      · rw [List.mem_singleton.mp new]
        exact Nat.lt_of_lt_of_le (paired.jobsBelow job member) drawn
    case tokens =>
      intro later laterMember earlier listed own
      rcases jobsAfter later laterMember with rfl | ⟨old, other⟩
      · rcases List.mem_append.mp listed with past | new
        · exact Nat.le_succ_of_le (leases.tokens job member earlier past own)
        · rw [List.mem_singleton.mp new]
          exact Nat.le_refl _
      · rcases List.mem_append.mp listed with past | new
        · exact leases.tokens later old earlier past own
        · rw [List.mem_singleton.mp new] at own
          exact absurd own.symm other
    case holder =>
      intro later laterMember running
      rcases jobsAfter later laterMember with rfl | ⟨old, other⟩
      · refine ⟨strip workerId, rfl, history.filter fun past => past.jobId == job.exportJobId, ?_, ?_⟩
        · simp [JobRow.claimed, List.filter_append]
        · intro past listed
          obtain ⟨pastMember, own⟩ := List.mem_filter.mp listed
          exact Nat.lt_succ_of_le (leases.tokens job member past pastMember (beq_iff_eq.mp own))
      · obtain ⟨owner, held, latest⟩ := leases.holder later old running
        exact ⟨owner, held, latest.append other.symm⟩

theorem leaseHistory_run (settings : Settings) (snapshots : List SnapshotRow) (ops : List ExportOp) :
    LeaseHistory ((exportJobs settings snapshots).run ops)
      ((exportJobs settings snapshots).emitted (granted settings) ops) := by
  have both : Paired ((exportJobs settings snapshots).run ops).tables ∧
      LeaseHistory ((exportJobs settings snapshots).run ops)
        ((exportJobs settings snapshots).emitted (granted settings) ops) := by
    refine Machine.history_invariant
      (fun state history => Paired state.tables ∧ LeaseHistory state history) ?_ ?_ ops
    · refine ⟨paired_run settings snapshots [], ?_⟩
      constructor <;> simp [exportJobs]
    · intro state history op before
      exact ⟨step_paired before.1 op, step_leaseHistory before.1 before.2 op⟩
  exact both.2

theorem held_of_accepts (presented : op.presented = some grant) (accepts : state.Accepts settings op) :
    ∃ job ∈ state.tables.jobs, job.exportJobId = grant.jobId ∧ job.heldBy grant.workerId grant.leaseToken = true := by
  obtain ⟨after, done⟩ := accepts
  cases op <;> simp only [ExportOp.presented, Option.some.injEq, reduceCtorEq] at presented
  case publish call lag =>
      subst presented
      obtain ⟨job, member, named, held, -⟩ := publication_spec done
      exact ⟨job, member, named, held⟩
  case fail call lag =>
      subst presented
      obtain ⟨job, member, named, held, -⟩ := fail_spec done
      exact ⟨job, member, named, held⟩

theorem latest_of_accepts {history : List Grant} (leases : LeaseHistory state history)
    (presented : op.presented = some grant) (accepts : state.Accepts settings op) : LatestGrant history grant := by
  obtain ⟨job, member, named, held⟩ := held_of_accepts presented accepts
  obtain ⟨running, owner, token⟩ := running_of_heldBy held
  obtain ⟨workerId, ownedBy, latest⟩ := leases.holder job member running
  have same : workerId = grant.workerId := Option.some.inj (ownedBy.symm.trans owner)
  rw [named, same, token] at latest
  exact latest

/-! ### Cancelled jobs -/

/-- What is there of a job is cancelled. -/
def Silenced (jobId : Nat) (state : ExportState) : Prop :=
  jobId < state.tables.nextId ∧ ∀ job ∈ state.tables.jobs, job.exportJobId = jobId → job.status = .cancelled

variable {jobId : Nat}

theorem step_silenced (paired : Paired state.tables) (silenced : Silenced jobId state)
    (spared : ∀ ownerUserId lag, op ≠ .retry ownerUserId jobId lag) : Silenced jobId (state.step settings op) := by
  refine ⟨Nat.lt_of_lt_of_le silenced.1 (nextId_le_step settings paired op), ?_⟩
  intro later laterMember named
  rcases step_jobs paired op later laterMember with ⟨job, member, move⟩ | ⟨above, -⟩
  · have same : job.exportJobId = jobId := move.exportJobId.symm.trans named
    refine move.stays_cancelled (silenced.2 job member same) ?_
    rwa [same]
  · rw [named] at above
    exact absurd silenced.1 (Nat.not_lt.mpr above)

theorem run_silenced {before : List ExportOp}
    (silenced : Silenced jobId ((exportJobs settings snapshots).run before)) (between : List ExportOp)
    (spared : ∀ ownerUserId lag, .retry ownerUserId jobId lag ∉ between) :
    Silenced jobId ((exportJobs settings snapshots).run (before ++ between)) := by
  induction between using List.reverseRecOn with
  | nil => simpa using silenced
  | append_singleton earlier op ih =>
    have still := ih fun ownerUserId lag member =>
      spared ownerUserId lag (List.mem_append_left _ member)
    rw [← List.append_assoc, Machine.run_concat]
    apply step_silenced (paired_run settings snapshots _) still
    rintro ownerUserId lag rfl
    exact spared ownerUserId lag (by simp)

/-! ### The limit

A claim counts the running jobs when it takes a queued job, not when it takes an expired one again. -/

theorem activeRunning_antitone (tables : JobTables) {earlier later : Nat} (passed : earlier ≤ later) :
    tables.activeRunning later ≤ tables.activeRunning earlier := by
  apply List.countP_mono_left
  intro job _ alive
  simp only [JobRow.leased, Bool.and_eq_true, Option.any_eq_true, decide_eq_true_eq] at alive ⊢
  obtain ⟨running, expires, ends, unexpired⟩ := alive
  exact ⟨running, expires, ends, Nat.lt_of_le_of_lt passed unexpired⟩

variable {tables : JobTables}

variable (unique : UniqueOn JobRow.exportJobId tables.jobs)
include unique

theorem activeRunning_updateJob (member : job ∈ tables.jobs)
    (write : JobRow → JobRow) (mirror : OutboxRow → OutboxRow) (instant : Nat) :
    (tables.updateJob job.exportJobId write mirror).activeRunning instant + (if job.leased instant then 1 else 0) =
      tables.activeRunning instant + (if (write job).leased instant then 1 else 0) :=
  unique.countP_updateWhere member fun row => row.leased instant

variable {instant : Nat}

theorem activeRunning_updateJob_le {write : JobRow → JobRow} {mirror : OutboxRow → OutboxRow}
    (member : job ∈ tables.jobs) (dull : (write job).leased instant = true → job.leased instant = true) :
    (tables.updateJob job.exportJobId write mirror).activeRunning instant ≤ tables.activeRunning instant := by
  have counted := activeRunning_updateJob unique member write mirror instant
  by_cases alive : (write job).leased instant = true
  · rw [alive, dull alive] at counted
    omega
  · rw [if_neg alive] at counted
    omega

theorem activeRunning_updateJob_le_succ (member : job ∈ tables.jobs)
    (write : JobRow → JobRow) (mirror : OutboxRow → OutboxRow) (instant : Nat) :
    (tables.updateJob job.exportJobId write mirror).activeRunning instant ≤ tables.activeRunning instant + 1 := by
  have counted := activeRunning_updateJob unique member write mirror instant
  split at counted
  · split at counted
    · omega
    · omega
  · split at counted
    · omega
    · omega

omit unique

theorem JobMove.leased (move : JobMove settings state op job new)
    (calm : ∀ jobId workerId leaseSeconds lag, op ≠ .claim jobId workerId leaseSeconds lag)
    (quiet : ∀ jobId workerId leaseToken leaseSeconds lag, op ≠ .heartbeat jobId workerId leaseToken leaseSeconds lag)
    (alive : new.leased instant = true) : job.leased instant = true := by
  have running : new.status = .running := by
    simp only [JobRow.leased, Bool.and_eq_true, beq_iff_eq] at alive
    exact alive.1
  cases move with
  | kept => exact alive
  | claimed _ _ _ => exact absurd rfl (calm _ _ _ _)
  | buried _ => exact absurd rfl (calm _ _ _ _)
  | renewed _ => exact absurd rfl (quiet _ _ _ _ _)
  | published => cases running
  | failed _ _ _ status =>
    rw [status] at running
    split at running
    · cases running
    · cases running
  | cancelled _ _ status =>
    rw [status] at running
    cases running
  | retried _ _ status =>
    rw [status] at running
    cases running
  | swept => simp [JobRow.leased, JobRow.swept] at alive

theorem activeRunning_le_of_moves {after : JobTables} (moves : Moves settings state op after)
    (dull : ∀ job new, JobMove settings state op job new → new.leased instant = true → job.leased instant = true) :
    after.activeRunning instant ≤ state.tables.activeRunning instant := by
  obtain ⟨move, keep, created, each, jobs, fresh, -⟩ := moves
  have none : created.countP (fun job => job.leased instant) = 0 := by
    apply List.countP_eq_zero.mpr
    intro job member alive
    simp [JobRow.leased, (fresh job member).status] at alive
  calc after.activeRunning instant
      = ((state.tables.jobs.map move).filter keep).countP (fun job => job.leased instant) := by
        rw [JobTables.activeRunning, jobs, List.countP_append, none, Nat.add_zero]
    _ ≤ (state.tables.jobs.map move).countP (fun job => job.leased instant) :=
        List.filter_sublist.countP_le
    _ = state.tables.jobs.countP (fun job => (move job).leased instant) := List.countP_map
    _ ≤ state.tables.activeRunning instant :=
        List.countP_mono_left fun job member alive => dull job (move job) (each job member) alive

variable {now : Nat}

theorem leased_claimed {worker : String} {expires : Nat} :
    (job.claimed worker expires now).leased instant = true ↔ instant < expires := by
  simp [JobRow.leased, JobRow.claimed]

theorem leased_of_isAbandoned (abandoned : job.isAbandoned now = true)
    (passed : now ≤ instant) : job.leased instant = false := by
  simp only [JobRow.isAbandoned, Bool.and_eq_true, Option.any_eq_true, decide_eq_true_eq] at abandoned
  obtain ⟨-, expires, ends, expired⟩ := abandoned
  simp [JobRow.leased, ends, Nat.le_trans expired passed]

theorem leased_of_isDue (due : job.isDue now = true) : job.leased instant = false := by
  simp only [JobRow.isDue, Bool.and_eq_true, beq_iff_eq] at due
  simp [JobRow.leased, due.1]

theorem now_le_clock (state : ExportState) (lag : Nat) : state.now lag ≤ state.clock :=
  Nat.sub_le _ _

variable {workerId : String}

theorem leased_renewed {leaseToken expires : Nat} (held : job.heldBy workerId leaseToken = true) :
    (job.renewed expires now).leased instant = true ↔ instant < expires := by
  simp [JobRow.leased, JobRow.renewed, (running_of_heldBy held).1]

theorem named_of_claim {leaseSeconds : Int} {answer : JobTables × Option JobRow}
    (done : ResultExports.claim settings tables jobId workerId leaseSeconds now = .ok answer) :
    strip workerId ≠ "" := by
  intro blank
  rw [claim, if_pos blank] at done
  cases done

theorem claim_eq
    (unique : UniqueOn JobRow.exportJobId tables.jobs) (member : job ∈ tables.jobs) (named : strip workerId ≠ "")
    (ready : job.isAbandoned now = true ∨ job.isDue now = true ∧ tables.activeRunning now < settings.runningLimit)
    (budget : job.attempt + 1 ≤ job.maxAttempts) (leaseSeconds : Int) :
    ResultExports.claim settings tables job.exportJobId workerId leaseSeconds now =
      .ok (tables.updateJob job.exportJobId
          (fun row => row.claimed (strip workerId) (leaseEnd now leaseSeconds) now) id,
        some (job.claimed (strip workerId) (leaseEnd now leaseSeconds) now)) := by
  have found : tables.job? job.exportJobId = some job := unique.find?_eq member
  have eligible : (job.isDue now || job.isAbandoned now) = true := by
    rcases ready with abandoned | ⟨due, -⟩
    · simp [abandoned]
    · simp [due]
  have room : ¬ (job.status = .queued ∧ settings.runningLimit ≤ tables.activeRunning now) := by
    rintro ⟨queued, full⟩
    rcases ready with abandoned | ⟨-, room⟩
    · simp [JobRow.isAbandoned, queued] at abandoned
    · exact absurd full (Nat.not_le.mpr room)
  simp only [claim, if_neg named, found, eligible, Bool.not_true, Bool.false_eq_true, if_false, if_neg room,
    if_neg (Nat.not_lt.mpr budget)]

theorem step_of_revives (paired : Paired state.tables) (member : job ∈ state.tables.jobs)
    (revives : state.Revives settings job op) :
    (state.step settings op).tables.activeRunning (state.step settings op).clock =
      state.tables.activeRunning state.clock + 1 := by
  cases op <;> simp only [ExportState.Revives] at revives
  case claim jobId workerId leaseSeconds lag =>
      obtain ⟨rfl, named, budget, ready, alive⟩ := revives
      have dead : job.leased state.clock = false := by
        rcases ready with abandoned | ⟨-, due, -⟩
        · exact leased_of_isAbandoned abandoned (now_le_clock state lag)
        · exact leased_of_isDue due
      have accepted := claim_eq paired.jobIds member named (ready.imp_right And.right) budget
        leaseSeconds
      have counted := activeRunning_updateJob paired.jobIds member
        (fun row => row.claimed (strip workerId) (leaseEnd (state.now lag) leaseSeconds) (state.now lag)) id
        state.clock
      rw [dead, leased_claimed.mpr alive] at counted
      simp only [ExportState.step, ExportState.attempt, accepted, Except.map, ExportState.clockAfter]
      simpa using counted
  case heartbeat jobId workerId leaseToken leaseSeconds lag =>
      obtain ⟨rfl, held, dead, alive⟩ := revives
      have accepted := heartbeat_eq paired.jobIds member held leaseSeconds (state.now lag)
      have counted := activeRunning_updateJob paired.jobIds member
        (fun row => row.renewed (leaseEnd (state.now lag) leaseSeconds) (state.now lag)) id state.clock
      rw [dead, (leased_renewed held).mpr alive] at counted
      simp only [ExportState.step, ExportState.attempt, accepted, ExportState.clockAfter]
      simpa using counted

theorem clock_le_clockAfter (state : ExportState) (op : ExportOp) : state.clock ≤ state.clockAfter op := by
  cases op
  case tick elapsed => exact Nat.le_add_right _ _
  all_goals exact Nat.le_refl _

theorem attempt_activeRunning {after : JobTables} (paired : Paired state.tables)
    (spares : SparesLimit settings state op) (done : state.attempt settings op = .ok after) :
    after.activeRunning (state.clockAfter op) ≤ state.tables.activeRunning state.clock ∨
      (after.activeRunning (state.clockAfter op) ≤ state.tables.activeRunning state.clock + 1 ∧
        (state.tables.activeRunning state.clock : Int) < settings.maxRunningJobs) := by
  cases op
  case claim jobId workerId leaseSeconds lag =>
      obtain ⟨⟨tables, answer⟩, accepted, rfl⟩ := exists_of_map_eq_ok done
      simp only [ExportState.clockAfter]
      rcases claim_spec accepted with
        ⟨-, rfl⟩ | ⟨job, member, rfl, ⟨-, -, rfl⟩ | ⟨-, ready, budget, rfl⟩⟩
      · exact .inl (Nat.le_refl _)
      · exact .inl (activeRunning_updateJob_le paired.jobIds member fun alive => by cases alive)
      · by_cases alive : state.clock < leaseEnd (state.now lag) leaseSeconds
        · have room : (state.tables.activeRunning state.clock : Int) < settings.maxRunningJobs := by
            have past := activeRunning_antitone state.tables (now_le_clock state lag)
            have limit : settings.runningLimit = (max 1 settings.maxRunningJobs).toNat := rfl
            rcases ready with ⟨due, tested⟩ | abandoned
            · by_cases low : settings.maxRunningJobs < 1
              · exact spares job member
                  ⟨rfl, named_of_claim accepted, budget, .inr ⟨low, due, tested⟩, alive⟩
              · omega
            · exact spares job member ⟨rfl, named_of_claim accepted, budget, .inl abandoned, alive⟩
          exact .inr ⟨activeRunning_updateJob_le_succ paired.jobIds member _ _ _, room⟩
        · refine .inl (activeRunning_updateJob_le paired.jobIds member fun leased => ?_)
          exact absurd (leased_claimed.mp leased) alive
  case heartbeat jobId workerId leaseToken leaseSeconds lag =>
      obtain ⟨job, member, rfl, held⟩ := held_of_heartbeat done
      simp only [ExportState.attempt, heartbeat_eq paired.jobIds member held, Except.ok.injEq] at done
      subst done
      simp only [ExportState.clockAfter]
      by_cases wasAlive : job.leased state.clock = true
      · exact .inl (activeRunning_updateJob_le paired.jobIds member fun _ => wasAlive)
      · by_cases alive : state.clock < leaseEnd (state.now lag) leaseSeconds
        · have room := spares job member ⟨rfl, held, Bool.eq_false_iff.mpr wasAlive, alive⟩
          exact .inr ⟨activeRunning_updateJob_le_succ paired.jobIds member _ _ _, room⟩
        · refine .inl (activeRunning_updateJob_le paired.jobIds member fun leased => ?_)
          exact absurd ((leased_renewed held).mp leased) alive
  case tick elapsed =>
      cases done
      exact .inl (activeRunning_antitone state.tables (Nat.le_add_right _ _))
  all_goals
    refine .inl (activeRunning_le_of_moves (attempt_moves paired.jobIds done) ?_)
    intro job new move alive
    exact move.leased (by simp) (by simp) alive

theorem step_withinLimit (paired : Paired state.tables) (spares : SparesLimit settings state op)
    (within : state.WithinLimit settings) : (state.step settings op).WithinLimit settings := by
  cases outcome : state.attempt settings op with
  | error =>
    simp only [ExportState.WithinLimit, ExportState.step, outcome] at within ⊢
    have fewer := activeRunning_antitone state.tables (clock_le_clockAfter state op)
    omega
  | ok after =>
    have bound : after.activeRunning (state.clockAfter op) ≤ state.tables.activeRunning state.clock ∨
        (after.activeRunning (state.clockAfter op) ≤ state.tables.activeRunning state.clock + 1 ∧
          (state.tables.activeRunning state.clock : Int) < settings.maxRunningJobs) :=
      attempt_activeRunning paired spares outcome
    simp only [ExportState.WithinLimit, ExportState.step, outcome] at within ⊢
    omega

/-! ### Whole runs -/

/-- A run publishes every job once exactly where no lease comes back to life past the limit. -/
theorem publishes_once_iff (settings : Settings) (snapshots : List SnapshotRow) (ops : List ExportOp) :
    PublishesOnce settings snapshots ops ↔ 0 ≤ settings.maxRunningJobs ∧
        (exportJobs settings snapshots).Respects (SparesLimit settings) ops := by
  constructor
  · intro once
    refine ⟨once.bounded [] ops rfl, ?_⟩
    intro before op rest split job member revives
    have after := once.bounded (before ++ [op]) rest (by simp [split])
    rw [Machine.run_concat] at after
    have more := step_of_revives (paired_run settings snapshots before) member revives
    have within : (((exportJobs settings snapshots).step ((exportJobs settings snapshots).run before)
        op).tables.activeRunning ((exportJobs settings snapshots).step
          ((exportJobs settings snapshots).run before) op).clock : Int) ≤ settings.maxRunningJobs := after
    rw [show (exportJobs settings snapshots).step = ExportState.step settings from rfl, more] at within
    omega
  · rintro ⟨natural, spares⟩
    constructor
    case latestLease =>
      intro before op rest grant _ presented accepts
      exact latest_of_accepts (leaseHistory_run settings snapshots before) presented accepts
    case paired =>
      intro before _ _ job member
      exact (paired_run settings snapshots before).succeeded_iff member
    case successStays =>
      intro before op rest _ job member succeeded later laterMember same
      rw [Machine.run_concat] at laterMember
      exact (step_job (paired_run settings snapshots before) member laterMember same).succeeded succeeded
    case cancelledSilent =>
      intro before between call lag rest _ job member named cancelled accepts
      by_contra none
      have paired := paired_run settings snapshots before
      have silenced : Silenced call.jobId ((exportJobs settings snapshots).run before) := by
        refine ⟨named ▸ paired.jobsBelow job member, ?_⟩
        intro other otherMember same
        rw [paired.jobIds.eq_of_key otherMember member (same.trans named.symm)]
        exact cancelled
      have still := run_silenced silenced between fun ownerUserId retryLag retried =>
        none ⟨ownerUserId, retryLag, retried⟩
      obtain ⟨held, heldMember, same, lease⟩ := held_of_accepts rfl accepts
      have running := (running_of_heldBy lease).1
      rw [still.2 held heldMember same] at running
      cases running
    case outboxFollows =>
      intro before _ _ job member
      exact (paired_run settings snapshots before).mirrored job member
    case bounded =>
      intro before rest split
      subst split
      refine Machine.guarded_invariant (fun state => Paired state.tables ∧ state.WithinLimit settings) ?_ ?_
        spares.of_append |>.2
      · exact ⟨paired_run settings snapshots [], natural⟩
      · intro state op held spared
        exact ⟨step_paired held.1 op, step_withinLimit held.1 spared held.2⟩

/-! ### A claim that comes back -/

/-- One running job at a time. -/
def sampleSettings : Settings where
  enabled _ := true
  maxRunningJobs := 1
  maxBytes := 1000
  retentionDays := 30
  validPayload _ _ _ := true
  sha256 _ := ""

/-- The snapshot that the jobs render. -/
def sampleSnapshot : SnapshotRow where
  snapshotId := 0
  ownerUserId := "user-1"
  tenantId := "tenant-1"
  departmentId := none
  knowledgeBaseName := ""
  sessionId := "session-1"
  turnId := "turn-1"
  assistantMessageId := none
  schemaVersion := "1.0"
  sourceHash := ""
  envelopeJson := ""
  createdAt := 0

/-- The creation of a job under a request key. -/
def sampleCreation (clientRequestId : String) : ExportOp :=
  .create
    { ownerUserId := "user-1", tenantId := none, departmentId := none, knowledgeBaseName := none,
      sessionId := "session-1", snapshotId := 0, format := "md", contentShape := "report", clientRequestId,
      options := "{}", maxAttempts := 3, availableAt := none }
    0

/-- A job is claimed again after its lease has expired and another job has taken its place. -/
def reclaimed : List ExportOp :=
  [sampleCreation "request-1", sampleCreation "request-2", .claim 0 "worker-1" 5 0, .tick (6 * oneSecond),
    .claim 2 "worker-2" 5 0, .claim 0 "worker-3" 5 0]

/-- Two jobs run under a limit of one. -/
theorem reclaim_exceeds_limit : ¬ ∀ settings snapshots ops, PublishesOnce settings snapshots ops := by
  intro always
  have within := (always sampleSettings [sampleSnapshot] reclaimed).bounded reclaimed [] rfl
  have two : ((exportJobs sampleSettings [sampleSnapshot]).run reclaimed).tables.activeRunning
      ((exportJobs sampleSettings [sampleSnapshot]).run reclaimed).clock = 2 := by
    decide
  rw [ExportState.WithinLimit, two] at within
  exact absurd within (by decide)

end HardwareDatabase.ResultExports
