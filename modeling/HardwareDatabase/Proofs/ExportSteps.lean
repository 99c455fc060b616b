/-
Module: HardwareDatabase.Proofs.ExportSteps
Purpose: The moves of an export job (`JobMove`), and that a transaction moves the jobs that were there row by row,
  keeps some and appends fresh ones.
Trusted boundary: none
-/
import HardwareDatabase.ResultExports.Service

namespace HardwareDatabase.ResultExports

open Python (strip)
open Relational

/-! ### The moves of a job -/

/-- The job after the cancelling transaction of its session. -/
def JobRow.swept (job : JobRow) (now : Nat) : JobRow :=
  let open_ := job.status == .queued || job.status == .running
  { job with
    status := if open_ then .cancelled else job.status
    leaseOwner := none
    leaseExpiresAt := none
    completedAt := if open_ then some now else job.completedAt
    updatedAt := now }

/-- The job after a heartbeat. -/
def JobRow.renewed (job : JobRow) (expires now : Nat) : JobRow :=
  { job with leaseExpiresAt := some expires, updatedAt := now }

/-- What an operation does to a job that was there. -/
inductive JobMove (settings : Settings) (state : ExportState) : ExportOp → JobRow → JobRow → Prop
  | kept (op : ExportOp) (job : JobRow) : JobMove settings state op job job
  | claimed {job : JobRow} {workerId : String} {leaseSeconds : Int} {lag : Nat}
      (ready : (job.isDue (state.now lag) = true ∧
          state.tables.activeRunning (state.now lag) < settings.runningLimit) ∨
        job.isAbandoned (state.now lag) = true)
      (budget : job.attempt + 1 ≤ job.maxAttempts)
      (grant : granted settings state (.claim job.exportJobId workerId leaseSeconds lag) =
        [{ jobId := job.exportJobId, workerId := strip workerId, leaseToken := job.leaseToken + 1 }]) :
      JobMove settings state (.claim job.exportJobId workerId leaseSeconds lag) job
        (job.claimed (strip workerId) (leaseEnd (state.now lag) leaseSeconds) (state.now lag))
  | buried {job : JobRow} {workerId : String} {leaseSeconds : Int} {lag : Nat}
      (ready : job.isDue (state.now lag) = true ∨ job.isAbandoned (state.now lag) = true) :
      JobMove settings state (.claim job.exportJobId workerId leaseSeconds lag) job
        (job.buried (state.now lag))
  | renewed {job : JobRow} {workerId : String} {leaseToken : Nat} {leaseSeconds : Int} {lag : Nat}
      (held : job.heldBy workerId leaseToken = true) :
      JobMove settings state (.heartbeat job.exportJobId workerId leaseToken leaseSeconds lag) job
        (job.renewed (leaseEnd (state.now lag) leaseSeconds) (state.now lag))
  | published {job : JobRow} {call : PublishCall} {lag : Nat} (own : call.jobId = job.exportJobId)
      (held : job.heldBy call.workerId call.leaseToken = true) :
      JobMove settings state (.publish call lag) job
        { job with
          status := .succeeded, artifactId := some state.tables.nextId, leaseOwner := none,
          leaseExpiresAt := none, completedAt := some (state.now lag), updatedAt := state.now lag }
  | failed {job new : JobRow} {call : FailCall} {lag : Nat} (own : call.jobId = job.exportJobId)
      (held : job.heldBy call.workerId call.leaseToken = true)
      (ids : new.exportJobId = job.exportJobId ∧ new.sessionId = job.sessionId ∧
        new.leaseToken = job.leaseToken)
      (status : new.status = if call.canRetry job then .queued else .deadLetter) :
      JobMove settings state (.fail call lag) job new
  | cancelled {job new : JobRow} {ownerUserId reason : String} {lag : Nat}
      (unfinished : job.status = .queued ∨ job.status = .running)
      (ids : new.exportJobId = job.exportJobId ∧ new.sessionId = job.sessionId ∧
        new.leaseToken = job.leaseToken)
      (status : new.status = .cancelled) :
      JobMove settings state (.cancel ownerUserId job.exportJobId reason lag) job new
  | retried {job new : JobRow} {ownerUserId : String} {lag : Nat}
      (ended : job.status = .failed ∨ job.status = .deadLetter ∨ job.status = .cancelled)
      (ids : new.exportJobId = job.exportJobId ∧ new.sessionId = job.sessionId ∧
        new.leaseToken = job.leaseToken)
      (status : new.status = .queued) :
      JobMove settings state (.retry ownerUserId job.exportJobId lag) job new
  | swept {job : JobRow} {lag : Nat} :
      JobMove settings state (.cancelSession job.sessionId lag) job (job.swept (state.now lag))

/-- A job that a creation appends. -/
structure JobRow.Fresh (job : JobRow) (before after : JobTables) : Prop where
  above : before.nextId ≤ job.exportJobId
  below : job.exportJobId < after.nextId
  status : job.status = .queued
  source : ∃ snapshot ∈ before.snapshots, snapshot.sessionId = job.sessionId

/-- The jobs after an operation: the old ones moved, some of them kept, and fresh ones. -/
def Moves (settings : Settings) (state : ExportState) (op : ExportOp) (after : JobTables) : Prop :=
  ∃ move keep created, (∀ job ∈ state.tables.jobs, JobMove settings state op job (move job)) ∧
    after.jobs = (state.tables.jobs.map move).filter keep ++ created ∧
    (∀ job ∈ created, job.Fresh state.tables after) ∧ state.tables.nextId ≤ after.nextId

variable {settings : Settings} {state : ExportState} {op : ExportOp} {after : JobTables}

theorem moves_map (move : JobRow → JobRow) (moves : ∀ job ∈ state.tables.jobs, JobMove settings state op job (move job))
    (jobs : after.jobs = state.tables.jobs.map move) (ids : state.tables.nextId ≤ after.nextId) :
    Moves settings state op after := by
  refine ⟨move, fun _ => true, [], moves, ?_, ?_, ids⟩
  · rw [jobs, List.append_nil, List.filter_eq_self.mpr fun _ _ => rfl]
  · intro job member
    cases member

theorem moves_of_jobs_eq (jobs : after.jobs = state.tables.jobs)
    (ids : state.tables.nextId ≤ after.nextId) : Moves settings state op after :=
  moves_map id (fun job _ => .kept op job) (by simpa using jobs) ids

variable {jobId : Nat} {job : JobRow}

theorem moves_update {write : JobRow → JobRow}
    (unique : UniqueOn JobRow.exportJobId state.tables.jobs) (member : job ∈ state.tables.jobs)
    (named : job.exportJobId = jobId) (move : JobMove settings state op job (write job))
    (jobs : after.jobs = updateWhere (fun row => row.exportJobId == jobId) write state.tables.jobs)
    (ids : state.tables.nextId ≤ after.nextId) : Moves settings state op after := by
  apply moves_map (fun row => if row.exportJobId == jobId then write row else row) _ jobs ids
  intro row rowMember
  by_cases same : row.exportJobId = jobId
  · have identical : row = job := unique.eq_of_key rowMember member (same.trans named.symm)
    subst identical
    simpa [same] using move
  · simpa [same] using JobMove.kept op row

variable {tables : JobTables}

theorem job?_spec (found : tables.job? jobId = some job) : job ∈ tables.jobs ∧ job.exportJobId = jobId := by
  unfold JobTables.job? at found
  exact ⟨List.mem_of_find?_eq_some found, by simpa using List.find?_some found⟩

theorem owned?_spec {ownerUserId : String} (found : tables.owned? ownerUserId jobId = some job) :
    job ∈ tables.jobs ∧ job.exportJobId = jobId := by
  unfold JobTables.owned? at found
  have named := List.find?_some found
  simp only [Bool.and_eq_true, beq_iff_eq] at named
  exact ⟨List.mem_of_find?_eq_some found, named.1⟩

/-! ### What each transaction does -/

/-- The tables after a publication. -/
def JobTables.published (tables : JobTables) (settings : Settings) (call : PublishCall) (job : JobRow)
    (artifactId now : Nat) : JobTables :=
  ({ tables with
    artifacts := tables.artifacts ++ [call.artifact settings job artifactId now] } : JobTables).updateJob
    call.jobId
    (fun row => { row with
      status := .succeeded, artifactId := some artifactId, leaseOwner := none, leaseExpiresAt := none,
      completedAt := some now, updatedAt := now })
    fun row => { row with status := .dispatched, dispatchedAt := some now }

variable {now : Nat}

theorem publishArtifact_spec {after : JobTables} {call : PublishCall} {artifactId : Nat}
    (done : publishArtifact settings tables call artifactId now = .ok after) :
    ∃ job ∈ tables.jobs, job.exportJobId = call.jobId ∧ job.heldBy call.workerId call.leaseToken = true ∧
      after = tables.published settings call job artifactId now := by
  unfold publishArtifact at done
  split at done
  · cases done
  · rename_i job found
    obtain ⟨member, named⟩ := job?_spec found
    split at done
    · cases done
    · rename_i held
      split at done
      · cases done
      · split at done
        · cases done
        · split at done
          · cases done
          · cases done
            exact ⟨job, member, named, by simpa using held, rfl⟩

variable {lag : Nat}

theorem publication_spec {call : PublishCall} (done : state.publication settings call lag = .ok after) :
    ∃ job ∈ state.tables.jobs, job.exportJobId = call.jobId ∧ job.heldBy call.workerId call.leaseToken = true ∧
      after = { state.tables.published settings call job state.tables.nextId (state.now lag) with
        nextId := state.tables.nextId + 1 } := by
  unfold ExportState.publication at done
  split at done
  · cases done
  · obtain ⟨tables, accepted, rfl⟩ := exists_of_map_eq_ok done
    obtain ⟨job, member, named, held, rfl⟩ := publishArtifact_spec accepted
    exact ⟨job, member, named, held, rfl⟩

theorem create_spec {after : JobTables} {call : CreateJobCall}
    (done : createExportJob settings tables call now = .ok after) :
    after = tables ∨ ∃ job row, job.exportJobId = tables.nextId ∧ job.status = .queued ∧
      (∃ snapshot ∈ tables.snapshots, snapshot.sessionId = job.sessionId) ∧
      row.exportJobId = tables.nextId ∧ row.status = .pending ∧ after = { tables with
        jobs := tables.jobs ++ [job], outbox := tables.outbox ++ [row], nextId := tables.nextId + 2 } := by
  unfold createExportJob at done
  obtain ⟨owner, -, done⟩ := exists_of_bind_eq_ok done
  obtain ⟨session, -, done⟩ := exists_of_bind_eq_ok done
  obtain ⟨requestId, -, done⟩ := exists_of_bind_eq_ok done
  obtain ⟨format, -, done⟩ := exists_of_bind_eq_ok done
  obtain ⟨-, -, done⟩ := exists_of_bind_eq_ok done
  obtain ⟨shape, -, done⟩ := exists_of_bind_eq_ok done
  split at done
  · cases done
  · rename_i snapshot found
    obtain ⟨_, matching, done⟩ := exists_of_bind_eq_ok done
    obtain ⟨tenant, -, done⟩ := exists_of_bind_eq_ok done
    split at done
    · obtain ⟨-, -, done⟩ := exists_of_bind_eq_ok done
      cases done
      exact .inl rfl
    · have own : snapshot.sessionId = session := by
        unfold require at matching
        split at matching
        · assumption
        · cases matching
      cases done
      exact .inr ⟨_, _, rfl, rfl, ⟨snapshot, List.mem_of_find?_eq_some found, own⟩, rfl, rfl, rfl⟩

theorem create_moves {call : CreateJobCall}
    (done : createExportJob settings state.tables call (state.now lag) = .ok after) :
    Moves settings state (.create call lag) after := by
  rcases create_spec done with rfl | ⟨job, row, named, queued, source, -, -, rfl⟩
  · exact moves_of_jobs_eq rfl (Nat.le_refl _)
  · refine ⟨id, fun _ => true, [job], fun job _ => .kept _ job, ?_, ?_, Nat.le_add_right _ _⟩
    · rw [List.map_id, List.filter_eq_self.mpr fun _ _ => rfl]
    · intro other member
      rw [List.mem_singleton.mp member]
      exact ⟨Nat.le_of_eq named.symm, named ▸ Nat.lt_add_of_pos_right (by decide), queued, source⟩

variable {leaseSeconds : Int} {workerId : String}

/-- A claim answers with nothing, after which the tables are as they were or the job is buried, or it
hands out a lease of a job that is ready. -/
theorem claim_spec {after : JobTables} {answer : Option JobRow}
    (done : ResultExports.claim settings tables jobId workerId leaseSeconds now = .ok (after, answer)) :
    (answer = none ∧ after = tables) ∨ ∃ job ∈ tables.jobs, job.exportJobId = jobId ∧
        ((answer = none ∧ (job.isDue now = true ∨ job.isAbandoned now = true) ∧
            after = tables.updateJob jobId (fun row => row.buried now) (fun row => { row with
                status := .failed, lastError := "maximum_attempts_exceeded", dispatchedAt := some now })) ∨
          (answer = some (job.claimed (strip workerId) (leaseEnd now leaseSeconds) now) ∧
            ((job.isDue now = true ∧ tables.activeRunning now < settings.runningLimit) ∨
              job.isAbandoned now = true) ∧
            job.attempt + 1 ≤ job.maxAttempts ∧
            after = tables.updateJob jobId
              (fun row => row.claimed (strip workerId) (leaseEnd now leaseSeconds) now) id)) := by
  unfold claim at done
  split at done
  · cases done
  · split at done
    · cases done
      exact .inl ⟨rfl, rfl⟩
    · rename_i job found
      obtain ⟨member, named⟩ := job?_spec found
      split at done
      · cases done
        exact .inl ⟨rfl, rfl⟩
      · rename_i ready
        simp only [Bool.not_eq_true', Bool.not_eq_false, Bool.or_eq_true] at ready
        split at done
        · cases done
          exact .inl ⟨rfl, rfl⟩
        · rename_i room
          split at done
          · cases done
            exact .inr ⟨job, member, named, .inl ⟨rfl, ready, rfl⟩⟩
          · rename_i budget
            cases done
            refine .inr ⟨job, member, named, .inr ⟨rfl, ?_, Nat.le_of_not_lt budget, rfl⟩⟩
            rcases ready with due | abandoned
            · have queued : job.status = .queued := by
                simp only [JobRow.isDue, Bool.and_eq_true, beq_iff_eq] at due
                exact due.1
              exact .inl ⟨due, Nat.lt_of_not_le fun full => room ⟨queued, full⟩⟩
            · exact .inr abandoned

theorem claim_moves {answer : Option JobRow} (unique : UniqueOn JobRow.exportJobId state.tables.jobs)
    (done : ResultExports.claim settings state.tables jobId workerId leaseSeconds (state.now lag) =
      .ok (after, answer)) : Moves settings state (.claim jobId workerId leaseSeconds lag) after := by
  rcases claim_spec done with ⟨-, rfl⟩ | ⟨job, member, rfl, ⟨-, ready, rfl⟩ | ⟨rfl, ready, budget, rfl⟩⟩
  · exact moves_of_jobs_eq rfl (Nat.le_refl _)
  · exact moves_update unique member rfl (.buried ready) rfl (Nat.le_refl _)
  · refine moves_update unique member rfl (.claimed ready budget ?_) rfl (Nat.le_refl _)
    simp only [granted, done]
    rfl

variable {leaseToken : Nat}

theorem heartbeat_eq (unique : UniqueOn JobRow.exportJobId tables.jobs) (member : job ∈ tables.jobs)
    (held : job.heldBy workerId leaseToken = true) (leaseSeconds : Int) (now : Nat) :
    ResultExports.heartbeat tables job.exportJobId workerId leaseToken leaseSeconds now =
      .ok (tables.updateJob job.exportJobId (fun row => row.renewed (leaseEnd now leaseSeconds) now) id) := by
  have found : (tables.jobs.any fun row =>
      row.exportJobId == job.exportJobId && row.heldBy workerId leaseToken) = true :=
    List.any_eq_true.mpr ⟨job, member, by simp [held]⟩
  have outbox : updateWhere (fun row => row.exportJobId == job.exportJobId) id tables.outbox =
      tables.outbox := updateWhere_eq_self fun _ _ _ => rfl
  unfold heartbeat JobTables.updateJob
  rw [if_pos found, outbox]
  congr 2
  apply updateWhere_congr
  intro row rowMember
  by_cases same : row.exportJobId = job.exportJobId
  · obtain rfl := unique.eq_of_key rowMember member same
    simp [held, JobRow.renewed]
  · simp [same]

theorem held_of_heartbeat
    (done : ResultExports.heartbeat tables jobId workerId leaseToken leaseSeconds now = .ok after) :
    ∃ job ∈ tables.jobs, job.exportJobId = jobId ∧ job.heldBy workerId leaseToken = true := by
  unfold heartbeat at done
  split at done
  · rename_i found
    obtain ⟨job, member, own⟩ := List.any_eq_true.mp found
    simp only [Bool.and_eq_true, beq_iff_eq] at own
    exact ⟨job, member, own⟩
  · cases done

theorem heartbeat_moves (unique : UniqueOn JobRow.exportJobId state.tables.jobs)
    (done : ResultExports.heartbeat state.tables jobId workerId leaseToken leaseSeconds (state.now lag) = .ok after) :
    Moves settings state (.heartbeat jobId workerId leaseToken leaseSeconds lag) after := by
  obtain ⟨job, member, rfl, held⟩ := held_of_heartbeat done
  rw [heartbeat_eq unique member held, Except.ok.injEq] at done
  subst done
  exact moves_update unique member rfl (.renewed held) rfl (Nat.le_refl _)

theorem publish_moves {call : PublishCall} (unique : UniqueOn JobRow.exportJobId state.tables.jobs)
    (done : state.publication settings call lag = .ok after) : Moves settings state (.publish call lag) after := by
  obtain ⟨job, member, named, held, rfl⟩ := publication_spec done
  exact moves_update unique member named (.published named.symm held) rfl (Nat.le_add_right _ _)

theorem fail_spec {call : FailCall} (done : ResultExports.fail tables call now = .ok after) :
    ∃ job ∈ tables.jobs, job.exportJobId = call.jobId ∧
      job.heldBy call.workerId call.leaseToken = true ∧ ∃ write rewrite,
        after = tables.updateJob call.jobId write rewrite ∧
        (∀ row : JobRow, (write row).exportJobId = row.exportJobId ∧ (write row).sessionId = row.sessionId ∧
          (write row).leaseToken = row.leaseToken) ∧
        (∀ row : JobRow, (write row).status = if call.canRetry job then .queued else .deadLetter) ∧
        (∀ row : OutboxRow, (rewrite row).exportJobId = row.exportJobId ∧
          (rewrite row).status = if call.canRetry job then .pending else .failed) := by
  unfold fail at done
  split at done
  · cases done
  · rename_i job found
    obtain ⟨member, named⟩ := job?_spec found
    split at done
    · cases done
    · rename_i held
      cases done
      exact ⟨job, member, named, by simpa using held, _, _, rfl, fun _ => ⟨rfl, rfl, rfl⟩, fun _ => rfl,
        fun _ => ⟨rfl, rfl⟩⟩

theorem fail_moves {call : FailCall} (unique : UniqueOn JobRow.exportJobId state.tables.jobs)
    (done : ResultExports.fail state.tables call (state.now lag) = .ok after) :
    Moves settings state (.fail call lag) after := by
  obtain ⟨job, member, named, held, write, rewrite, rfl, ids, status, -⟩ := fail_spec done
  exact moves_update unique member named (.failed named.symm held (ids job) (status job)) rfl
    (Nat.le_refl _)

theorem cancel_spec (tables : JobTables) (ownerUserId : String) (jobId : Nat) (reason : String) (now : Nat) :
    ResultExports.cancel tables ownerUserId jobId reason now = tables ∨
      ∃ job ∈ tables.jobs, job.exportJobId = jobId ∧ (job.status = .queued ∨ job.status = .running) ∧
        ∃ write rewrite, ResultExports.cancel tables ownerUserId jobId reason now =
          tables.updateJob jobId write rewrite ∧
        (∀ row : JobRow, (write row).exportJobId = row.exportJobId ∧ (write row).sessionId = row.sessionId ∧
          (write row).leaseToken = row.leaseToken) ∧ (∀ row : JobRow, (write row).status = .cancelled) ∧
        (∀ row : OutboxRow, (rewrite row).exportJobId = row.exportJobId ∧ (rewrite row).status = .cancelled) := by
  unfold cancel
  split
  · exact .inl rfl
  · rename_i job found
    obtain ⟨member, named⟩ := owned?_spec found
    split
    · rename_i unfinished
      exact .inr ⟨job, member, named, unfinished, _, _, rfl, fun _ => ⟨rfl, rfl, rfl⟩, fun _ => rfl,
        fun _ => ⟨rfl, rfl⟩⟩
    · exact .inl rfl

theorem retry_spec (tables : JobTables) (ownerUserId : String) (jobId : Nat) (now : Nat) :
    ResultExports.retry tables ownerUserId jobId now = tables ∨ ∃ job ∈ tables.jobs, job.exportJobId = jobId ∧
        (job.status = .failed ∨ job.status = .deadLetter ∨ job.status = .cancelled) ∧
        ∃ write rewrite, ResultExports.retry tables ownerUserId jobId now = tables.updateJob jobId write rewrite ∧
        (∀ row : JobRow, (write row).exportJobId = row.exportJobId ∧ (write row).sessionId = row.sessionId ∧
          (write row).leaseToken = row.leaseToken) ∧ (∀ row : JobRow, (write row).status = .queued) ∧
        (∀ row : OutboxRow, (rewrite row).exportJobId = row.exportJobId ∧ (rewrite row).status = .pending) := by
  unfold retry
  split
  · exact .inl rfl
  · rename_i job found
    obtain ⟨member, named⟩ := owned?_spec found
    split
    · rename_i ended
      exact .inr ⟨job, member, named, ended, _, _, rfl, fun _ => ⟨rfl, rfl, rfl⟩, fun _ => rfl, fun _ => ⟨rfl, rfl⟩⟩
    · exact .inl rfl

theorem cancel_moves (unique : UniqueOn JobRow.exportJobId state.tables.jobs) (ownerUserId : String)
    (jobId : Nat) (reason : String) (lag : Nat) : Moves settings state (.cancel ownerUserId jobId reason lag)
      (ResultExports.cancel state.tables ownerUserId jobId reason (state.now lag)) := by
  rcases cancel_spec state.tables ownerUserId jobId reason (state.now lag) with
    same | ⟨job, member, rfl, unfinished, write, rewrite, same, ids, status, -⟩
  · rw [same]
    exact moves_of_jobs_eq rfl (Nat.le_refl _)
  · rw [same]
    exact moves_update unique member rfl (.cancelled unfinished (ids job) (status job)) rfl
      (Nat.le_refl _)

theorem retry_moves (unique : UniqueOn JobRow.exportJobId state.tables.jobs) (ownerUserId : String)
    (jobId : Nat) (lag : Nat) : Moves settings state (.retry ownerUserId jobId lag)
      (ResultExports.retry state.tables ownerUserId jobId (state.now lag)) := by
  rcases retry_spec state.tables ownerUserId jobId (state.now lag) with
    same | ⟨job, member, rfl, ended, write, rewrite, same, ids, status, -⟩
  · rw [same]
    exact moves_of_jobs_eq rfl (Nat.le_refl _)
  · rw [same]
    exact moves_update unique member rfl (.retried ended (ids job) (status job)) rfl (Nat.le_refl _)

theorem cancelSession_moves (sessionId : String) (lag : Nat) : Moves settings state (.cancelSession sessionId lag)
      (ResultExports.cancelSession state.tables sessionId (state.now lag)) := by
  refine moves_map (fun job => if job.sessionId == sessionId then job.swept (state.now lag) else job)
    ?_ rfl (Nat.le_refl _)
  intro job _
  by_cases own : job.sessionId = sessionId
  · subst own
    simpa using JobMove.swept
  · simpa [own] using JobMove.kept _ job

theorem deleteSession_moves (sessionId : String) :
    Moves settings state (.deleteSession sessionId) (ResultExports.deleteSession state.tables sessionId) := by
  refine ⟨id, fun job => !(job.sessionId == sessionId), [], fun job _ => .kept _ job, ?_,
    fun job member => (by cases member), Nat.le_refl _⟩
  rw [List.map_id, List.append_nil]
  rfl

/-- A call that goes through moves every job as one of its statements does. -/
theorem attempt_moves (unique : UniqueOn JobRow.exportJobId state.tables.jobs)
    (done : state.attempt settings op = .ok after) : Moves settings state op after := by
  cases op <;> simp only [ExportState.attempt] at done
  case create call lag => exact create_moves done
  case claim jobId workerId leaseSeconds lag =>
      obtain ⟨⟨tables, answer⟩, accepted, rfl⟩ := exists_of_map_eq_ok done
      exact claim_moves unique accepted
  case heartbeat jobId workerId leaseToken leaseSeconds lag =>
      exact heartbeat_moves unique done
  case publish call lag => exact publish_moves unique done
  case fail call lag => exact fail_moves unique done
  case cancel ownerUserId jobId reason lag =>
      cases done
      exact cancel_moves unique ownerUserId jobId reason lag
  case retry ownerUserId jobId lag =>
      cases done
      exact retry_moves unique ownerUserId jobId lag
  case expire current limit =>
      cases done
      exact moves_of_jobs_eq rfl (Nat.le_refl _)
  case cancelSession sessionId lag =>
      cases done
      exact cancelSession_moves sessionId lag
  case deleteSession sessionId =>
      cases done
      exact deleteSession_moves sessionId
  case tick elapsed =>
      cases done
      exact moves_of_jobs_eq rfl (Nat.le_refl _)

end HardwareDatabase.ResultExports
