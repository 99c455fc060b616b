/-
Module: HardwareDatabase.Proofs.ExportPairing
Purpose: A job has one outbox row whose status corresponds to its own, and one artifact row exactly when it has
  succeeded, in every run.
Trusted boundary: none
-/
import HardwareDatabase.Proofs.ExportSteps

namespace HardwareDatabase.ResultExports

open Python (strip)
open Relational

/-! ### The pairing -/

/-- The status of the outbox row of a job. -/
def ExportJobStatus.outbox : ExportJobStatus → OutboxStatus
  | .queued | .running => .pending
  | .succeeded => .dispatched
  | .failed | .deadLetter => .failed
  | .cancelled => .cancelled

/-- The outbox rows of a job. -/
def JobTables.outboxOf (tables : JobTables) (jobId : Nat) : List OutboxRow :=
  tables.outbox.filter fun row => row.exportJobId == jobId

/-- The artifact rows of a job. -/
def JobTables.artifactsOf (tables : JobTables) (jobId : Nat) : List ArtifactRow :=
  tables.artifacts.filter fun row => row.exportJobId == jobId

/-- The jobs, their outbox rows and their artifacts agree. -/
structure Paired (tables : JobTables) : Prop where
  jobIds : UniqueOn JobRow.exportJobId tables.jobs
  jobsBelow : ∀ job ∈ tables.jobs, job.exportJobId < tables.nextId
  outboxBelow : ∀ row ∈ tables.outbox, row.exportJobId < tables.nextId
  mirrored : ∀ job ∈ tables.jobs, ∃ row,
    tables.outboxOf job.exportJobId = [row] ∧ row.status = job.status.outbox
  artifactJob : ∀ row ∈ tables.artifacts, ∃ job ∈ tables.jobs, job.exportJobId = row.exportJobId ∧
    job.sessionId = row.sessionId ∧ job.status = .succeeded ∧ job.artifactId = some row.artifactId
  single : ∀ job ∈ tables.jobs, job.status = .succeeded → ∃ row,
    tables.artifactsOf job.exportJobId = [row]

variable {settings : Settings} {state : ExportState} {op : ExportOp} {tables after : JobTables}

variable {jobId : Nat}

theorem mem_artifactsOf {row : ArtifactRow} :
    row ∈ tables.artifactsOf jobId ↔ row ∈ tables.artifacts ∧ row.exportJobId = jobId := by
  simp [JobTables.artifactsOf]

variable {job : JobRow}

namespace Paired

section

variable (paired : Paired tables)
include paired

theorem artifactsOf_eq_nil (member : job ∈ tables.jobs)
    (unfinished : job.status ≠ .succeeded) : tables.artifactsOf job.exportJobId = [] := by
  apply List.eq_nil_iff_forall_not_mem.mpr
  intro row listed
  obtain ⟨rowMember, own⟩ := mem_artifactsOf.mp listed
  obtain ⟨other, otherMember, named, -, succeeded, -⟩ := paired.artifactJob row rowMember
  have same : other = job := paired.jobIds.eq_of_key otherMember member (named.trans own)
  exact unfinished (same ▸ succeeded)

theorem succeeded_iff (member : job ∈ tables.jobs) :
    job.status = .succeeded ↔ ∃ row, tables.artifactsOf job.exportJobId = [row] ∧
      job.artifactId = some row.artifactId := by
  constructor
  · intro succeeded
    obtain ⟨row, alone⟩ := paired.single job member succeeded
    obtain ⟨rowMember, own⟩ := mem_artifactsOf.mp (alone ▸ List.mem_singleton.mpr rfl :
      row ∈ tables.artifactsOf job.exportJobId)
    obtain ⟨other, otherMember, named, -, -, pointed⟩ := paired.artifactJob row rowMember
    have same : other = job := paired.jobIds.eq_of_key otherMember member (named.trans own)
    exact ⟨row, alone, same ▸ pointed⟩
  · rintro ⟨row, alone, -⟩
    by_contra unfinished
    rw [paired.artifactsOf_eq_nil member unfinished] at alone
    cases alone

/-- Rows are rewritten in place: the keys stay, a job neither enters nor leaves success, and the outbox
follows the job. -/
theorem rewrite {move : JobRow → JobRow} {mirror : OutboxRow → OutboxRow} {touch : ArtifactRow → ArtifactRow}
    (jobs : after.jobs = tables.jobs.map move) (outbox : after.outbox = tables.outbox.map mirror)
    (artifacts : after.artifacts = tables.artifacts.map touch) (ids : after.nextId = tables.nextId)
    (jobKeys : ∀ job ∈ tables.jobs, (move job).exportJobId = job.exportJobId ∧ (move job).sessionId = job.sessionId)
    (success : ∀ job ∈ tables.jobs, ((move job).status = .succeeded ↔ job.status = .succeeded) ∧
      (job.status = .succeeded → (move job).artifactId = job.artifactId))
    (outboxKeys : ∀ row, (mirror row).exportJobId = row.exportJobId)
    (artifactKeys : ∀ row, (touch row).exportJobId = row.exportJobId ∧
      (touch row).sessionId = row.sessionId ∧ (touch row).artifactId = row.artifactId)
    (follows : ∀ job ∈ tables.jobs, ∀ row ∈ tables.outboxOf job.exportJobId,
      row.status = job.status.outbox → (mirror row).status = (move job).status.outbox) : Paired after where
  jobIds := by
    have kept : (tables.jobs.map move).map JobRow.exportJobId = tables.jobs.map JobRow.exportJobId := by
      rw [List.map_map]
      exact List.map_congr_left fun job member => (jobKeys job member).1
    rw [UniqueOn, jobs, kept]
    exact paired.jobIds
  jobsBelow := by
    intro job member
    rw [jobs] at member
    obtain ⟨old, oldMember, rfl⟩ := List.mem_map.mp member
    rw [(jobKeys old oldMember).1, ids]
    exact paired.jobsBelow old oldMember
  outboxBelow := by
    intro row member
    rw [outbox] at member
    obtain ⟨old, oldMember, rfl⟩ := List.mem_map.mp member
    rw [outboxKeys old, ids]
    exact paired.outboxBelow old oldMember
  mirrored := by
    intro job member
    rw [jobs] at member
    obtain ⟨old, oldMember, rfl⟩ := List.mem_map.mp member
    obtain ⟨row, alone, status⟩ := paired.mirrored old oldMember
    have same : (fun row : OutboxRow => row.exportJobId == old.exportJobId) ∘ mirror =
        fun row => row.exportJobId == old.exportJobId := by
      funext other
      simp [outboxKeys]
    refine ⟨mirror row, ?_, follows old oldMember row (by simp [alone]) status⟩
    rw [JobTables.outboxOf, outbox, (jobKeys old oldMember).1, List.filter_map, same]
    rw [JobTables.outboxOf] at alone
    rw [alone, List.map_singleton]
  artifactJob := by
    intro row member
    rw [artifacts] at member
    obtain ⟨old, oldMember, rfl⟩ := List.mem_map.mp member
    obtain ⟨job, jobMember, named, session, succeeded, pointed⟩ := paired.artifactJob old oldMember
    obtain ⟨keptJob, keptSession⟩ := jobKeys job jobMember
    obtain ⟨keptOwner, keptArtifactSession, keptId⟩ := artifactKeys old
    refine ⟨move job, jobs ▸ List.mem_map_of_mem jobMember, ?_, ?_, ?_, ?_⟩
    · rw [keptJob, keptOwner, named]
    · rw [keptSession, keptArtifactSession, session]
    · exact (success job jobMember).1.mpr succeeded
    · rw [(success job jobMember).2 succeeded, keptId, pointed]
  single := by
    intro job member succeeded
    rw [jobs] at member
    obtain ⟨old, oldMember, rfl⟩ := List.mem_map.mp member
    obtain ⟨row, alone⟩ := paired.single old oldMember ((success old oldMember).1.mp succeeded)
    have same : (fun row : ArtifactRow => row.exportJobId == old.exportJobId) ∘ touch =
        fun row => row.exportJobId == old.exportJobId := by
      funext other
      simp [artifactKeys]
    refine ⟨touch row, ?_⟩
    rw [JobTables.artifactsOf, artifacts, (jobKeys old oldMember).1, List.filter_map, same]
    rw [JobTables.artifactsOf] at alone
    rw [alone, List.map_singleton]

theorem updateJob {write : JobRow → JobRow} {mirror : OutboxRow → OutboxRow}
    (member : job ∈ tables.jobs) (named : job.exportJobId = jobId)
    (jobKeys : ∀ row, (write row).exportJobId = row.exportJobId ∧ (write row).sessionId = row.sessionId)
    (outboxKeys : ∀ row, (mirror row).exportJobId = row.exportJobId)
    (unfinished : job.status ≠ .succeeded ∧ (write job).status ≠ .succeeded)
    (follows : ∀ row, row.status = job.status.outbox → (mirror row).status = (write job).status.outbox) :
    Paired (tables.updateJob jobId write mirror) := by
  -- the only job with this identifier is the one that was found
  have only : ∀ row ∈ tables.jobs, row.exportJobId = jobId → row = job := fun row rowMember same =>
    paired.jobIds.eq_of_key rowMember member (same.trans named.symm)
  refine paired.rewrite rfl rfl (List.map_id _).symm rfl ?_ ?_ ?_ (fun _ => ⟨rfl, rfl, rfl⟩) ?_
  · intro row _
    by_cases same : row.exportJobId = jobId
    · simpa [same] using jobKeys row
    · simp [same]
  · intro row rowMember
    by_cases same : row.exportJobId = jobId
    · obtain rfl := only row rowMember same
      simp [same, unfinished]
    · simp [same]
  · intro row
    by_cases same : row.exportJobId = jobId
    · simp [same, outboxKeys]
    · simp [same]
  · intro row rowMember mirrorRow listed status
    have own : mirrorRow.exportJobId = row.exportJobId := by
      simpa using (List.mem_filter.mp listed).2
    by_cases same : row.exportJobId = jobId
    · obtain rfl := only row rowMember same
      simpa [own, same] using follows mirrorRow status
    · simpa [own, same] using status

end

end Paired

/-! ### Transactions -/

variable {now : Nat}

theorem create_paired {call : CreateJobCall} (paired : Paired tables)
    (done : createExportJob settings tables call now = .ok after) : Paired after := by
  rcases create_spec done with rfl | ⟨job, row, named, queued, -, owner, pending, rfl⟩
  · exact paired
  have foreign : ∀ other ∈ tables.jobs, other.exportJobId ≠ job.exportJobId := fun other member same =>
    absurd (paired.jobsBelow other member) (by rw [same, named]; exact Nat.lt_irrefl _)
  constructor
  case jobIds => exact paired.jobIds.append foreign
  case jobsBelow =>
    intro other member
    rcases List.mem_append.mp member with old | new
    · exact Nat.lt_add_right 2 (paired.jobsBelow other old)
    · rw [List.mem_singleton.mp new, named]
      exact Nat.lt_add_of_pos_right (by decide)
  case outboxBelow =>
    intro other member
    rcases List.mem_append.mp member with old | new
    · exact Nat.lt_add_right 2 (paired.outboxBelow other old)
    · rw [List.mem_singleton.mp new, owner]
      exact Nat.lt_add_of_pos_right (by decide)
  case mirrored =>
    intro other member
    rcases List.mem_append.mp member with old | new
    · obtain ⟨mirror, alone, status⟩ := paired.mirrored other old
      have apart : (row.exportJobId == other.exportJobId) = false := by
        simpa [owner, ← named] using (foreign other old).symm
      refine ⟨mirror, ?_, status⟩
      simpa [JobTables.outboxOf, List.filter_append, apart] using alone
    · obtain rfl := List.mem_singleton.mp new
      have fresh : tables.outboxOf other.exportJobId = [] := by
        apply List.filter_eq_nil_iff.mpr
        intro mirror mirrorMember same
        have below := paired.outboxBelow mirror mirrorMember
        rw [beq_iff_eq.mp same, named] at below
        exact Nat.lt_irrefl _ below
      refine ⟨row, ?_, by rw [pending, queued]; rfl⟩
      have own : [row].filter (fun mirror => mirror.exportJobId == other.exportJobId) = [row] := by
        simp [owner, named]
      rw [JobTables.outboxOf, List.filter_append, own]
      exact congrArg (· ++ [row]) fresh
  case artifactJob =>
    intro artifact member
    obtain ⟨other, otherMember, rest⟩ := paired.artifactJob artifact member
    exact ⟨other, List.mem_append_left _ otherMember, rest⟩
  case single =>
    intro other member succeeded
    rcases List.mem_append.mp member with old | new
    · exact paired.single other old succeeded
    · rw [List.mem_singleton.mp new, queued] at succeeded
      cases succeeded

theorem open_of_ready (ready : job.isDue now = true ∨ job.isAbandoned now = true) :
    job.status = .queued ∨ job.status = .running := by
  simp only [JobRow.isDue, JobRow.isAbandoned, Bool.and_eq_true, beq_iff_eq] at ready
  exact ready.imp And.left And.left

variable {workerId : String}

theorem claim_paired {leaseSeconds : Int} {answer : Option JobRow} (paired : Paired tables)
    (done : ResultExports.claim settings tables jobId workerId leaseSeconds now = .ok (after, answer)) :
    Paired after := by
  rcases claim_spec done with ⟨-, rfl⟩ | ⟨job, member, named, ⟨-, ready, rfl⟩ | ⟨-, ready, -, rfl⟩⟩
  · exact paired
  · refine paired.updateJob member named (fun _ => ⟨rfl, rfl⟩) (fun _ => rfl)
      ⟨?_, by simp [JobRow.buried]⟩ fun _ _ => rfl
    rcases open_of_ready ready with queued | running
    · simp [queued]
    · simp [running]
  · have unfinished : job.status = .queued ∨ job.status = .running :=
      open_of_ready (ready.imp_left And.left)
    refine paired.updateJob member named (fun _ => ⟨rfl, rfl⟩) (fun _ => rfl)
      ⟨?_, by simp [JobRow.claimed]⟩ ?_
    · rcases unfinished with queued | running
      · simp [queued]
      · simp [running]
    · intro row status
      rcases unfinished with queued | running
      · rw [queued] at status
        exact status
      · rw [running] at status
        exact status

theorem running_of_heldBy {leaseToken : Nat} (held : job.heldBy workerId leaseToken = true) :
    job.status = .running ∧ job.leaseOwner = some workerId ∧ job.leaseToken = leaseToken := by
  simp only [JobRow.heldBy, Bool.and_eq_true, beq_iff_eq] at held
  exact ⟨held.1.1, held.1.2, held.2⟩

section

variable (paired : Paired tables)
include paired

theorem heartbeat_paired {leaseToken : Nat} {leaseSeconds : Int}
    (done : ResultExports.heartbeat tables jobId workerId leaseToken leaseSeconds now = .ok after) : Paired after := by
  obtain ⟨job, member, rfl, held⟩ := held_of_heartbeat done
  rw [heartbeat_eq paired.jobIds member held, Except.ok.injEq] at done
  subst done
  obtain ⟨running, -, -⟩ := running_of_heldBy held
  exact paired.updateJob member rfl (fun _ => ⟨rfl, rfl⟩) (fun _ => rfl)
    ⟨by simp [running], by simp [JobRow.renewed, running]⟩ fun _ status => status

theorem fail_paired {call : FailCall} (done : ResultExports.fail tables call now = .ok after) : Paired after := by
  obtain ⟨job, member, named, held, write, mirror, rfl, ids, status, mirrored⟩ := fail_spec done
  obtain ⟨running, -, -⟩ := running_of_heldBy held
  refine paired.updateJob member named (fun row => ⟨(ids row).1, (ids row).2.1⟩)
    (fun row => (mirrored row).1) ⟨by simp [running], ?_⟩ ?_
  · rw [status]
    split
    · decide
    · decide
  · intro row _
    rw [(mirrored row).2, status]
    split
    · rfl
    · rfl

theorem cancel_paired (ownerUserId : String) (jobId : Nat) (reason : String)
    (now : Nat) : Paired (ResultExports.cancel tables ownerUserId jobId reason now) := by
  rcases cancel_spec tables ownerUserId jobId reason now with
    same | ⟨job, member, named, unfinished, write, mirror, same, ids, status, mirrored⟩
  · rw [same]
    exact paired
  · rw [same]
    refine paired.updateJob member named (fun row => ⟨(ids row).1, (ids row).2.1⟩)
      (fun row => (mirrored row).1) ⟨?_, by simp [status]⟩ ?_
    · rcases unfinished with queued | running
      · simp [queued]
      · simp [running]
    · intro row _
      rw [(mirrored row).2, status]
      rfl

theorem retry_paired (ownerUserId : String) (jobId : Nat) (now : Nat) :
    Paired (ResultExports.retry tables ownerUserId jobId now) := by
  rcases retry_spec tables ownerUserId jobId now with
    same | ⟨job, member, named, ended, write, mirror, same, ids, status, mirrored⟩
  · rw [same]
    exact paired
  · rw [same]
    refine paired.updateJob member named (fun row => ⟨(ids row).1, (ids row).2.1⟩)
      (fun row => (mirrored row).1) ⟨?_, by simp [status]⟩ ?_
    · rcases ended with failed | dead | cancelled
      · simp [failed]
      · simp [dead]
      · simp [cancelled]
    · intro row _
      rw [(mirrored row).2, status]
      rfl

theorem expireArtifacts_paired (current : Nat) (limit : Int) : Paired (expireArtifacts tables current limit).1 := by
  refine paired.rewrite (List.map_id _).symm (List.map_id _).symm rfl rfl (fun _ _ => ⟨rfl, rfl⟩)
    (fun _ _ => ⟨Iff.rfl, fun _ => rfl⟩) (fun _ => rfl) ?_ (fun _ _ _ _ status => status)
  intro row
  split
  · exact ⟨rfl, rfl, rfl⟩
  · exact ⟨rfl, rfl, rfl⟩

theorem cancelSession_paired (sessionId : String) (now : Nat) :
    Paired (ResultExports.cancelSession tables sessionId now) := by
  -- the outbox rows of a job are selected exactly when the job is
  have selects : ∀ job ∈ tables.jobs, tables.ofSession sessionId job.exportJobId = (job.sessionId == sessionId) := by
    intro job member
    rw [Bool.eq_iff_iff, JobTables.ofSession, List.any_eq_true]
    constructor
    · rintro ⟨other, otherMember, own⟩
      simp only [Bool.and_eq_true, beq_iff_eq] at own ⊢
      rw [← paired.jobIds.eq_of_key otherMember member own.1]
      exact own.2
    · intro own
      exact ⟨job, member, by simpa using own⟩
  refine paired.rewrite rfl rfl (List.map_id _).symm rfl ?_ ?_ ?_ (fun _ => ⟨rfl, rfl, rfl⟩) ?_
  · intro job _
    split
    · exact ⟨rfl, rfl⟩
    · exact ⟨rfl, rfl⟩
  · intro job _
    split
    · refine ⟨?_, fun _ => rfl⟩
      cases status : job.status <;> simp [status]
    · exact ⟨Iff.rfl, fun _ => rfl⟩
  · intro row
    split
    · rfl
    · rfl
  · intro job member row listed status
    have own : row.exportJobId = job.exportJobId := by
      simpa using (List.mem_filter.mp listed).2
    have same : tables.ofSession sessionId row.exportJobId = (job.sessionId == sessionId) := by
      rw [own, selects job member]
    by_cases selected : (job.sessionId == sessionId) = true
    · simp only [same, selected, if_true]
      cases current : job.status <;> simp [current, ExportJobStatus.outbox] at status ⊢ <;> simp [status]
    · simpa [same, selected] using status

theorem publishArtifact_paired {call : PublishCall} {artifactId : Nat}
    (done : publishArtifact settings tables call artifactId now = .ok after) : Paired after := by
  obtain ⟨job, member, named, held, rfl⟩ := publishArtifact_spec done
  obtain ⟨running, -, -⟩ := running_of_heldBy held
  have only : ∀ row ∈ tables.jobs, row.exportJobId = call.jobId → row = job :=
    fun row rowMember same => paired.jobIds.eq_of_key rowMember member (same.trans named.symm)
  have bare : tables.artifactsOf call.jobId = [] := by
    rw [← named]
    exact paired.artifactsOf_eq_nil member (by simp [running])
  have jobsAfter : ∀ row ∈ (tables.published settings call job artifactId now).jobs,
      (row.exportJobId = call.jobId ∧ row.status = .succeeded) ∨
        (row ∈ tables.jobs ∧ row.exportJobId ≠ call.jobId) := by
    intro row rowMember
    rcases mem_updateWhere.mp rowMember with ⟨old, oldMember, same, rfl⟩ | ⟨old, other⟩
    · exact .inl ⟨beq_iff_eq.mp same, rfl⟩
    · exact .inr ⟨old, by simpa using other⟩
  constructor
  case jobIds => exact paired.jobIds.updateWhere fun _ => rfl
  case jobsBelow =>
    intro row rowMember
    rcases jobsAfter row rowMember with ⟨same, -⟩ | ⟨old, -⟩
    · rw [same, ← named]
      exact paired.jobsBelow job member
    · exact paired.jobsBelow row old
  case outboxBelow =>
    intro row rowMember
    obtain ⟨old, oldMember, rfl⟩ := exists_of_mem_updateWhere rowMember
    have below := paired.outboxBelow old oldMember
    split
    · exact below
    · exact below
  case mirrored =>
    intro row rowMember
    rcases jobsAfter row rowMember with ⟨same, succeeded⟩ | ⟨old, other⟩
    · obtain ⟨mirror, alone, -⟩ := paired.mirrored job member
      have own : mirror.exportJobId = job.exportJobId := by
        have listed : mirror ∈ tables.outboxOf job.exportJobId := by simp [alone]
        simpa using (List.mem_filter.mp listed).2
      refine ⟨{ mirror with status := .dispatched, dispatchedAt := some now }, ?_, by rw [succeeded]; rfl⟩
      rw [JobTables.outboxOf, same, ← named]
      refine (filter_updateWhere_comm tables.outbox ?_).trans ?_
      · exact fun _ => rfl
      rw [JobTables.outboxOf] at alone
      rw [alone, updateWhere, List.map_singleton, if_pos (by simp [own, named])]
    · obtain ⟨mirror, alone, status⟩ := paired.mirrored row old
      refine ⟨mirror, ?_, status⟩
      rw [← alone]
      exact filter_updateWhere _ (by simp +contextual [other.symm]) (by simp +contextual [other.symm])
  case artifactJob =>
    intro row rowMember
    rcases List.mem_append.mp rowMember with old | new
    · obtain ⟨other, otherMember, owner, session, succeeded, pointed⟩ := paired.artifactJob row old
      have different : other.exportJobId ≠ call.jobId := by
        intro same
        rw [only other otherMember same, running] at succeeded
        cases succeeded
      exact ⟨other, mem_updateWhere.mpr (.inr ⟨otherMember, by simpa using different⟩), owner, session,
        succeeded, pointed⟩
    · rw [List.mem_singleton.mp new]
      exact ⟨_, mem_updateWhere.mpr (.inl ⟨job, member, by simpa using named, rfl⟩), named, rfl, rfl, rfl⟩
  case single =>
    intro row rowMember succeeded
    rcases jobsAfter row rowMember with ⟨same, -⟩ | ⟨old, other⟩
    · refine ⟨call.artifact settings job artifactId now, ?_⟩
      rw [JobTables.artifactsOf] at bare
      rw [JobTables.artifactsOf, same]
      refine (List.filter_append ..).trans ?_
      rw [bare]
      simp [PublishCall.artifact]
    · obtain ⟨artifact, alone⟩ := paired.single row old succeeded
      refine ⟨artifact, ?_⟩
      rw [JobTables.artifactsOf] at alone ⊢
      refine (List.filter_append ..).trans ?_
      rw [alone]
      simp [PublishCall.artifact, other.symm]

theorem Paired.draw {nextId : Nat} (drawn : tables.nextId ≤ nextId) : Paired { tables with nextId } where
  jobIds := paired.jobIds
  jobsBelow := fun job member => Nat.lt_of_lt_of_le (paired.jobsBelow job member) drawn
  outboxBelow := fun row member => Nat.lt_of_lt_of_le (paired.outboxBelow row member) drawn
  mirrored := paired.mirrored
  artifactJob := paired.artifactJob
  single := paired.single

end

theorem publication_paired {call : PublishCall} {lag : Nat} (paired : Paired state.tables)
    (done : state.publication settings call lag = .ok after) : Paired after := by
  unfold ExportState.publication at done
  split at done
  · cases done
  · obtain ⟨published, accepted, rfl⟩ := exists_of_map_eq_ok done
    have sameIds : published.nextId = state.tables.nextId := by
      obtain ⟨job, -, -, -, rfl⟩ := publishArtifact_spec accepted
      rfl
    apply (publishArtifact_paired paired accepted).draw
    rw [sameIds]
    exact Nat.le_succ _

theorem deleteSession_paired (paired : Paired tables) (sessionId : String) :
    Paired (ResultExports.deleteSession tables sessionId) := by
  have foreign : ∀ job ∈ (ResultExports.deleteSession tables sessionId).jobs,
      job ∈ tables.jobs ∧ job.sessionId ≠ sessionId := fun job member => by
    simpa using mem_deleteWhere.mp member
  -- nothing of a job of another session is deleted
  have spared : ∀ job ∈ (ResultExports.deleteSession tables sessionId).jobs,
      tables.ofSession sessionId job.exportJobId = false := by
    intro job member
    obtain ⟨old, other⟩ := foreign job member
    by_contra selected
    rw [Bool.not_eq_false, JobTables.ofSession, List.any_eq_true] at selected
    obtain ⟨twin, twinMember, own⟩ := selected
    simp only [Bool.and_eq_true, beq_iff_eq] at own
    exact other (paired.jobIds.eq_of_key twinMember old own.1 ▸ own.2)
  constructor
  case jobIds => exact paired.jobIds.deleteWhere
  case jobsBelow => exact fun job member => paired.jobsBelow job (foreign job member).1
  case outboxBelow => exact fun row member => paired.outboxBelow row (mem_of_mem_deleteWhere member)
  case mirrored =>
    intro job member
    obtain ⟨row, alone, status⟩ := paired.mirrored job (foreign job member).1
    refine ⟨row, ?_, status⟩
    rw [← alone]
    apply filter_deleteWhere
    intro other selected
    by_contra own
    simp only [Bool.not_eq_false, beq_iff_eq] at own
    rw [own, spared job member] at selected
    cases selected
  case artifactJob =>
    intro row member
    obtain ⟨old, other⟩ := mem_deleteWhere.mp member
    obtain ⟨job, jobMember, named, session, rest⟩ := paired.artifactJob row old
    refine ⟨job, mem_deleteWhere.mpr ⟨jobMember, ?_⟩, named, session, rest⟩
    rwa [session]
  case single =>
    intro job member succeeded
    obtain ⟨old, other⟩ := foreign job member
    obtain ⟨row, alone⟩ := paired.single job old succeeded
    refine ⟨row, ?_⟩
    rw [← alone]
    refine (List.filter_filter ..).trans (List.filter_congr ?_)
    intro artifact artifactMember
    by_cases own : artifact.exportJobId = job.exportJobId
    · obtain ⟨owner, ownerMember, named, session, -⟩ := paired.artifactJob artifact artifactMember
      have same : owner = job := paired.jobIds.eq_of_key ownerMember old (named.trans own)
      simp [own, ← session, same, other]
    · simp [own]

theorem attempt_paired (paired : Paired state.tables) (done : state.attempt settings op = .ok after) :
    Paired after := by
  cases op <;> simp only [ExportState.attempt] at done
  case create call lag => exact create_paired paired done
  case claim jobId workerId leaseSeconds lag =>
      obtain ⟨⟨tables, answer⟩, accepted, rfl⟩ := exists_of_map_eq_ok done
      exact claim_paired paired accepted
  case heartbeat jobId workerId leaseToken leaseSeconds lag => exact heartbeat_paired paired done
  case publish call lag => exact publication_paired paired done
  case fail call lag => exact fail_paired paired done
  case cancel ownerUserId jobId reason lag =>
      cases done
      exact cancel_paired paired ownerUserId jobId reason _
  case retry ownerUserId jobId lag =>
      cases done
      exact retry_paired paired ownerUserId jobId _
  case expire current limit =>
      cases done
      exact expireArtifacts_paired paired current limit
  case cancelSession sessionId lag =>
      cases done
      exact cancelSession_paired paired sessionId _
  case deleteSession sessionId =>
      cases done
      exact deleteSession_paired paired sessionId
  case tick elapsed =>
      cases done
      exact paired

theorem step_paired (paired : Paired state.tables) (op : ExportOp) : Paired (state.step settings op).tables := by
  cases outcome : state.attempt settings op with
  | error => simpa only [ExportState.step, outcome] using paired
  | ok => simpa only [ExportState.step, outcome] using attempt_paired paired outcome

/-- Jobs and their outbox rows are paired in every reachable state. -/
theorem paired_run (settings : Settings) (snapshots : List SnapshotRow) (ops : List ExportOp) :
    Paired ((exportJobs settings snapshots).run ops).tables := by
  refine Machine.invariant (fun state : ExportState => Paired state.tables) ?_
    (fun _ op paired => step_paired paired op) ops
  constructor <;> simp [exportJobs]

end HardwareDatabase.ResultExports
