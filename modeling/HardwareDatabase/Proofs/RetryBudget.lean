/-
Module: HardwareDatabase.Proofs.RetryBudget
Purpose: The attempt counter of an open job is the counter that its request started from plus the claims of its
  generation.
Trusted boundary: none
-/
import HardwareDatabase.Memory.JobLedger

namespace HardwareDatabase.Memory

open Relational

/-! ### Selecting jobs -/

variable {job : Job} {tables : Tables}

theorem mem_of_getJob {jobId : Nat}
    (found : getJob tables jobId = some job) : job ∈ tables.jobs ∧ job.jobId = jobId := by
  have selected := List.find?_some found
  exact ⟨List.mem_of_find?_eq_some found, by simpa using selected⟩

theorem getJob_of_mem (unique : UniqueOn Job.jobId tables.jobs)
    (member : job ∈ tables.jobs) : getJob tables job.jobId = some job :=
  unique.find?_eq member

theorem mem_of_projectJob {sessionId : Nat} (found : projectJob tables sessionId = some job) : job ∈ tables.jobs :=
  List.mem_of_find?_eq_some found

theorem mem_of_nextClaimable {uuid : Nat → String} {now : Time} (selected : nextClaimable uuid tables now = some job) :
    job ∈ tables.jobs ∧ job.claimable now = true :=
  List.mem_filter.mp (mem_of_firstBy selected)

theorem isOpen_of_claimable {now : Time} (claimable : job.claimable now = true) : job.status.isOpen = true := by
  simp only [Job.claimable, Bool.or_eq_true, Bool.and_eq_true, beq_iff_eq] at claimable
  rcases claimable with ⟨⟨pending | retrying, _⟩, _⟩ | ⟨running, _⟩
  · simp [pending, JobStatus.isOpen]
  · simp [retrying, JobStatus.isOpen]
  · simp [running, JobStatus.isOpen]

theorem isOpen_of_heldBy {token generation : Nat}
    (held : job.heldBy token generation = true) : job.status.isOpen = true := by
  simp only [Job.heldBy, Bool.and_eq_true, beq_iff_eq] at held
  simp [held.1.1, JobStatus.isOpen]

variable {f : Job → Job} {row : Job}

theorem mem_updateJob (unique : UniqueOn Job.jobId tables.jobs) (rowMember : row ∈ tables.jobs)
    (member : job ∈ (updateJob tables row.jobId f).jobs) :
    job = f row ∨ (job ∈ tables.jobs ∧ job.jobId ≠ row.jobId) := by
  rcases mem_updateWhere.mp member with ⟨old, oldMember, selected, rfl⟩ | ⟨kept, skipped⟩
  · have same : old = row := unique.eq_of_key oldMember rowMember (by simpa using selected)
    exact Or.inl (by rw [same])
  · exact Or.inr ⟨kept, by simpa using skipped⟩

theorem updateJob_mem (rowMember : row ∈ tables.jobs) : f row ∈ (updateJob tables row.jobId f).jobs := by
  have rewritten := mem_updateWhere_of_mem (p := fun job => job.jobId == row.jobId) (f := f) rowMember
  simpa [updateJob] using rewritten

/-- What `claim_next` does: nothing is claimable, the selected job is out of attempts, or it gets a
lease under a token that was never handed out. -/
theorem claimNext_cases (uuid : Nat → String) (maxRetries : Nat)
    (unique : UniqueOn Job.jobId tables.jobs) (workerId : String) (leaseSeconds : Nat) (now clock : Time) :
    (nextClaimable uuid tables now = none ∧
      claimNext uuid maxRetries tables workerId leaseSeconds now clock = (tables, none)) ∨
    ∃ current, nextClaimable uuid tables now = some current ∧ ((max 1 maxRetries ≤ current.retryCount ∧
        claimNext uuid maxRetries tables workerId leaseSeconds now clock = (updateJob tables current.jobId
            (Job.bury current.retryCount (deadLetterReason current.lastError)), none)) ∨
      (current.retryCount < max 1 maxRetries ∧ claimNext uuid maxRetries tables workerId leaseSeconds now clock =
          (updateJob { tables with nextId := tables.nextId + 1 } current.jobId
            (Job.leaseTo workerId tables.nextId (current.retryCount + 1) (clock + leaseSeconds * 1000000) now),
            some (current.leaseTo workerId tables.nextId (current.retryCount + 1)
              (clock + leaseSeconds * 1000000) now)))) := by
  cases selected : nextClaimable uuid tables now with
  | none => exact Or.inl ⟨rfl, by simp [claimNext, selected]⟩
  | some current =>
    obtain ⟨member, _⟩ := mem_of_nextClaimable selected
    refine Or.inr ⟨current, rfl, ?_⟩
    by_cases exhausted : max 1 maxRetries ≤ current.retryCount
    · exact Or.inl ⟨exhausted, by simp only [claimNext, selected, if_pos exhausted]⟩
    · refine Or.inr ⟨Nat.lt_of_not_le exhausted, ?_⟩
      simp only [claimNext, selected, if_neg exhausted, Prod.mk.injEq, true_and]
      -- the claimed row is read back by its id
      have leasedUnique : UniqueOn Job.jobId
          (updateJob { tables with nextId := tables.nextId + 1 } current.jobId
            (Job.leaseTo workerId tables.nextId (current.retryCount + 1)
              (clock + leaseSeconds * 1000000) now)).jobs :=
        unique.updateWhere (fun _ => rfl)
      exact getJob_of_mem leasedUnique (updateJob_mem member)

/-! ### The invariant of the counter

The retry counter of an open job follows the claims of its generation. -/

/-- The books of the job queue: ids and generations are never reused, and the counter of an open
job is what its request started from plus the claims of its generation. -/
structure Accounted (maxRetries : Nat) (ledger : JobLedger) : Prop where
  unique : UniqueOn Job.jobId ledger.tables.jobs
  known : ∀ job ∈ ledger.tables.jobs, job.jobId < ledger.tables.nextId
  claimed : ∀ claim ∈ ledger.claims, claim.1 < ledger.tables.nextId
  past : ∀ job ∈ ledger.tables.jobs, ∀ claim ∈ ledger.claims,
    claim.1 = job.jobId → claim.2 ≤ job.generation
  bounded : ∀ job ∈ ledger.tables.jobs, job.retryCount ≤ maxRetries
  counted : ∀ job ∈ ledger.tables.jobs, job.status.isOpen = true →
    ∃ opening, ledger.currentOpening job.jobId = some opening ∧
      job.retryCount ≤ opening.found + ledger.claimCount job.jobId job.generation ∧
      (0 < opening.found →
        job.retryCount = opening.found + ledger.claimCount job.jobId job.generation)

/-- A change of a job row that leaves the books as they are: the counter and the generation of a job
that is open afterwards are untouched. -/
structure QuietChange (old new : Job) : Prop where
  sameId : new.jobId = old.jobId
  sameCount : new.retryCount = old.retryCount
  later : old.generation ≤ new.generation
  stillOpen : new.status.isOpen = true →
    old.status.isOpen = true ∧ new.generation = old.generation

theorem QuietChange.refl (job : Job) : QuietChange job job :=
  ⟨rfl, rfl, Nat.le_refl _, fun isOpen => ⟨isOpen, rfl⟩⟩

theorem QuietChange.close {old new : Job} (sameId : new.jobId = old.jobId)
    (sameCount : new.retryCount = old.retryCount) (later : old.generation ≤ new.generation)
    (closed : new.status.isOpen = false) : QuietChange old new :=
  ⟨sameId, sameCount, later, fun isOpen => by simp [closed] at isOpen⟩

namespace Accounted

variable {maxRetries : Nat} {ledger : JobLedger}

theorem start (maxRetries : Nat) : Accounted maxRetries JobLedger.start where
  unique := by simp [JobLedger.start, Tables.empty]
  known := by simp [JobLedger.start, Tables.empty]
  claimed := by simp [JobLedger.start]
  past := by simp [JobLedger.start]
  bounded := by simp [JobLedger.start, Tables.empty]
  counted := by simp [JobLedger.start, Tables.empty]

theorem quiet (accounted : Accounted maxRetries ledger) {tables : Tables}
    (unique : UniqueOn Job.jobId tables.jobs) (sameSupply : tables.nextId = ledger.tables.nextId)
    (rows : ∀ new ∈ tables.jobs, ∃ old ∈ ledger.tables.jobs, QuietChange old new) :
    Accounted maxRetries { ledger with tables } where
  unique := unique
  known := by
    intro new member
    obtain ⟨old, oldMember, change⟩ := rows new member
    have bound := accounted.known old oldMember
    simp only [change.sameId, sameSupply]
    exact bound
  claimed := by
    intro claim member
    simpa [sameSupply] using accounted.claimed claim member
  past := by
    intro new member claim claimMember same
    obtain ⟨old, oldMember, change⟩ := rows new member
    have bound := accounted.past old oldMember claim claimMember (by rw [same, change.sameId])
    exact Nat.le_trans bound change.later
  bounded := by
    intro new member
    obtain ⟨old, oldMember, change⟩ := rows new member
    simpa [change.sameCount] using accounted.bounded old oldMember
  counted := by
    intro new member isOpen
    obtain ⟨old, oldMember, change⟩ := rows new member
    obtain ⟨wasOpen, sameGeneration⟩ := change.stillOpen isOpen
    rw [change.sameId, change.sameCount, sameGeneration]
    exact accounted.counted old oldMember wasOpen

theorem quietUpdate (accounted : Accounted maxRetries ledger) {p : Job → Bool}
    (updated : tables.jobs = updateWhere p f ledger.tables.jobs)
    (sameSupply : tables.nextId = ledger.tables.nextId) (sameIds : ∀ job, (f job).jobId = job.jobId)
    (changes : ∀ job ∈ ledger.tables.jobs, p job = true → QuietChange job (f job)) :
    Accounted maxRetries { ledger with tables } := by
  have unique : UniqueOn Job.jobId tables.jobs := by
    rw [updated]
    exact accounted.unique.updateWhere sameIds
  apply accounted.quiet unique sameSupply
  intro new member
  rw [updated] at member
  rcases mem_updateWhere.mp member with ⟨old, oldMember, selected, rfl⟩ | ⟨kept, _⟩
  · exact ⟨old, oldMember, changes old oldMember selected⟩
  · exact ⟨new, kept, QuietChange.refl new⟩

/-- A row that a request makes pending, noted in the history, keeps the books: either its counter
is zero or its generation has not been claimed. -/
theorem opened (accounted : Accounted maxRetries ledger) {tables : Tables} {row : Job} {jobId : Nat}
    (sameId : row.jobId = jobId) (unique : UniqueOn Job.jobId tables.jobs) (grows : ledger.tables.nextId ≤ tables.nextId)
    (rows : ∀ job ∈ tables.jobs,
      job = row ∨ (job ∈ ledger.tables.jobs ∧ job.jobId ≠ jobId)) (rowKnown : jobId < tables.nextId)
    (rowPast : ∀ claim ∈ ledger.claims, claim.1 = jobId → claim.2 ≤ row.generation)
    (rowBounded : row.retryCount ≤ maxRetries)
    (fresh : row.retryCount = 0 ∨ ledger.claimCount jobId row.generation = 0) :
    Accounted maxRetries { ledger with
        tables
        openings := { jobId, found := row.retryCount } :: ledger.openings } where
  unique := unique
  known := by
    intro job member
    rcases rows job member with rfl | ⟨old, _⟩
    · exact sameId ▸ rowKnown
    · exact Nat.lt_of_lt_of_le (accounted.known job old) grows
  claimed := fun claim member => Nat.lt_of_lt_of_le (accounted.claimed claim member) grows
  past := by
    intro job member
    rcases rows job member with rfl | ⟨old, _⟩
    · exact sameId ▸ rowPast
    · exact accounted.past job old
  bounded := by
    intro job member
    rcases rows job member with rfl | ⟨old, _⟩
    · exact rowBounded
    · exact accounted.bounded job old
  counted := by
    intro job member isOpen
    rcases rows job member with rfl | ⟨old, other⟩
    · subst sameId
      refine ⟨{ jobId := job.jobId, found := job.retryCount }, ?_, Nat.le_add_right _ _, ?_⟩
      · simp [JobLedger.currentOpening]
      · intro positive
        rcases fresh with zero | unclaimed
        · simp [zero] at positive
        · simpa [JobLedger.claimCount] using unclaimed
    · obtain ⟨opening, current, counts⟩ := accounted.counted job old isOpen
      refine ⟨opening, ?_, counts⟩
      simpa [JobLedger.currentOpening, Ne.symm other] using current

end Accounted

/-! ### Requests -/

theorem noteOpening_self (ledger : JobLedger) (jobId : Nat) : ledger.noteOpening ledger.tables jobId = ledger := by
  rw [JobLedger.noteOpening]
  cases found : getJob ledger.tables jobId with
  | none => rfl
  | some =>
    simp only [Option.map_some]
    rw [if_neg]
    rintro ⟨pending, changed⟩
    exact changed (by rw [pending])

theorem noteOpening_eq (ledger : JobLedger) {tables : Tables} {row : Job} {jobId : Nat}
    (sameId : row.jobId = jobId) (unique : UniqueOn Job.jobId tables.jobs) (member : row ∈ tables.jobs)
    (pending : row.status = .pending) (changed : ∀ old ∈ ledger.tables.jobs, old.jobId = jobId →
      old.status ≠ .pending ∨ old.generation ≠ row.generation) :
    ledger.noteOpening tables jobId = { ledger with
        tables
        openings := { jobId, found := row.retryCount } :: ledger.openings } := by
  subst sameId
  rw [JobLedger.noteOpening, getJob_of_mem unique member]
  simp only
  rw [if_pos]
  refine ⟨pending, ?_⟩
  cases found : getJob ledger.tables row.jobId with
  | none => simp
  | some old =>
    intro same
    simp only [Option.map_some, Option.some.injEq, Prod.mk.injEq] at same
    obtain ⟨oldMember, sameId⟩ := mem_of_getJob found
    rcases changed old oldMember sameId with status | generation
    · exact status same.1
    · exact generation same.2

namespace Accounted

variable {maxRetries : Nat} {ledger : JobLedger}

theorem insert (accounted : Accounted maxRetries ledger) {row : Job}
    (fresh : row.jobId = ledger.tables.nextId) (pending : row.status = .pending) (zero : row.retryCount = 0) :
    Accounted maxRetries (ledger.noteOpening { ledger.tables with
          jobs := ledger.tables.jobs ++ [row]
          nextId := ledger.tables.nextId + 1 } ledger.tables.nextId) := by
  have unused : ∀ other ∈ ledger.tables.jobs, other.jobId ≠ row.jobId := by
    intro other member
    have bound := accounted.known other member
    omega
  have unique : UniqueOn Job.jobId (ledger.tables.jobs ++ [row]) := accounted.unique.append unused
  rw [noteOpening_eq ledger fresh unique (by simp) pending]
  · apply accounted.opened fresh unique
    · exact Nat.le_succ _
    · intro job member
      rcases List.mem_append.mp member with old | new
      · exact Or.inr ⟨old, Nat.ne_of_lt (accounted.known job old)⟩
      · exact Or.inl (List.mem_singleton.mp new)
    · exact Nat.lt_succ_self _
    · intro claim member same
      have bound := accounted.claimed claim member
      omega
    · omega
    · exact Or.inl zero
  · intro old member same
    have bound := accounted.known old member
    omega

theorem reopen (accounted : Accounted maxRetries ledger) {existing : Job}
    (member : existing ∈ ledger.tables.jobs) (sameIds : ∀ job, (f job).jobId = job.jobId)
    (pending : ∀ job, (f job).status = .pending) (next : ∀ job, (f job).generation = job.generation + 1)
    (sameCounts : ∀ job, (f job).retryCount = job.retryCount) :
    Accounted maxRetries (ledger.noteOpening (updateJob ledger.tables existing.jobId f) existing.jobId) := by
  have unique : UniqueOn Job.jobId (updateJob ledger.tables existing.jobId f).jobs :=
    accounted.unique.updateWhere sameIds
  rw [noteOpening_eq ledger (sameIds existing) unique (updateJob_mem member) (pending existing)]
  · apply accounted.opened (sameIds existing) unique
    · exact Nat.le_refl _
    · intro job jobMember
      exact mem_updateJob accounted.unique member jobMember
    · exact accounted.known existing member
    · intro claim claimMember same
      have bound := accounted.past existing member claim claimMember same
      rw [next existing]
      omega
    · rw [sameCounts existing]
      exact accounted.bounded existing member
    · -- the next generation has never been claimed
      right
      rw [JobLedger.claimCount, List.count_eq_zero]
      intro claimed
      have bound := accounted.past existing member _ claimed rfl
      simp only [next existing] at bound
      omega
  · intro old oldMember same
    have sameRow : old = existing := accounted.unique.eq_of_key oldMember member same
    right
    rw [sameRow, next existing]
    omega

theorem claim (accounted : Accounted maxRetries ledger) (current : Job) {f : Job → Job}
    {tables : Tables} (member : current ∈ ledger.tables.jobs)
    (isOpen : current.status.isOpen = true) (below : current.retryCount < maxRetries) (updated : tables.jobs =
      updateWhere (fun job => job.jobId == current.jobId) f ledger.tables.jobs)
    (grows : ledger.tables.nextId ≤ tables.nextId) (sameIds : ∀ job, (f job).jobId = job.jobId)
    (sameGenerations : ∀ job, (f job).generation = job.generation)
    (counts : (f current).retryCount = current.retryCount + 1) :
    Accounted maxRetries { ledger with
        tables
        claims := (current.jobId, current.generation) :: ledger.claims } := by
  have rows : ∀ job ∈ tables.jobs, job = f current ∨ (job ∈ ledger.tables.jobs ∧ job.jobId ≠ current.jobId) := by
    intro job jobMember
    rw [updated] at jobMember
    exact mem_updateJob accounted.unique member jobMember
  constructor
  case unique =>
    rw [updated]
    exact accounted.unique.updateWhere sameIds
  case known =>
    intro job jobMember
    rcases rows job jobMember with rfl | ⟨old, _⟩
    · rw [sameIds current]
      exact Nat.lt_of_lt_of_le (accounted.known current member) grows
    · exact Nat.lt_of_lt_of_le (accounted.known job old) grows
  case claimed =>
    intro claim claimMember
    rcases List.mem_cons.mp claimMember with rfl | earlier
    · exact Nat.lt_of_lt_of_le (accounted.known current member) grows
    · exact Nat.lt_of_lt_of_le (accounted.claimed claim earlier) grows
  case past =>
    intro job jobMember claim claimMember same
    rcases List.mem_cons.mp claimMember with rfl | earlier
    · rcases rows job jobMember with rfl | ⟨_, other⟩
      · simp [sameGenerations current]
      · exact absurd same.symm other
    · rcases rows job jobMember with rfl | ⟨old, _⟩
      · rw [sameIds current] at same
        rw [sameGenerations current]
        exact accounted.past current member claim earlier same
      · exact accounted.past job old claim earlier same
  case bounded =>
    intro job jobMember
    rcases rows job jobMember with rfl | ⟨old, _⟩
    · omega
    · exact accounted.bounded job old
  case counted =>
    intro job jobMember jobOpen
    rcases rows job jobMember with rfl | ⟨old, other⟩
    · obtain ⟨opening, known, atMost, exactly⟩ := accounted.counted current member isOpen
      have claimedOnce :
          List.count (current.jobId, current.generation)
              ((current.jobId, current.generation) :: ledger.claims) =
            ledger.claimCount current.jobId current.generation + 1 := by
        simp [JobLedger.claimCount]
      rw [JobLedger.claimCount] at atMost exactly claimedOnce
      refine ⟨opening, by simpa [JobLedger.currentOpening, sameIds current] using known, ?_, ?_⟩
      · simp only [JobLedger.claimCount, sameIds current, sameGenerations current, counts, claimedOnce]
        omega
      · intro positive
        have before := exactly positive
        simp only [JobLedger.claimCount, sameIds current, sameGenerations current, counts, claimedOnce]
        omega
    · obtain ⟨opening, known, counted⟩ := accounted.counted job old jobOpen
      refine ⟨opening, known, ?_⟩
      have skipped : (current.jobId, current.generation) ≠ (job.jobId, job.generation) := by
        intro same
        exact other (congrArg Prod.fst same).symm
      simpa [JobLedger.claimCount, List.count_cons_of_ne skipped] using counted

end Accounted

/-! ### Every transaction keeps the books -/

section Steps

variable {uuid : Nat → String} {maxRetries : Nat} {ledger : JobLedger}

theorem accounted_enqueue (accounted : Accounted maxRetries ledger) (request : ReflectionRequest)
    (now : Time) : Accounted maxRetries (ledger.step uuid maxRetries (.enqueue request now)) := by
  simp only [JobLedger.step, enqueueProjectReflection]
  cases found : projectJob ledger.tables request.sessionId with
  | none => exact accounted.insert rfl rfl rfl
  | some existing =>
    have reopened : Accounted maxRetries
        (ledger.noteOpening
          (updateJob ledger.tables existing.jobId fun job => (job.reopen request now).dropLease)
          existing.jobId) :=
      accounted.reopen (mem_of_projectJob found) (fun _ => rfl) (fun _ => rfl) (fun _ => rfl)
        (fun _ => rfl)
    simp only
    split
    · split
      · exact reopened
      · simpa [noteOpening_self] using accounted
    · exact reopened

theorem accounted_enqueueInConnection (accounted : Accounted maxRetries ledger)
    (request : ReflectionRequest) (now : Time) :
    Accounted maxRetries (ledger.step uuid maxRetries (.enqueueInConnection request now)) := by
  simp only [JobLedger.step, enqueueProjectReflectionInConnection]
  cases found : projectJob ledger.tables request.sessionId with
  | none => exact accounted.insert rfl rfl rfl
  | some =>
    simp only
    split
    · split
      · exact accounted.reopen (mem_of_projectJob found) (fun _ => rfl) (fun _ => rfl)
          (fun _ => rfl) (fun _ => rfl)
      · simpa [noteOpening_self] using accounted
    · exact accounted.reopen (mem_of_projectJob found) (fun _ => rfl) (fun _ => rfl)
        (fun _ => rfl) (fun _ => rfl)

theorem accounted_claimNext (positive : 1 ≤ maxRetries) (accounted : Accounted maxRetries ledger)
    (workerId : String) (leaseSeconds : Nat) (now clock : Time) :
    Accounted maxRetries (ledger.step uuid maxRetries (.claimNext workerId leaseSeconds now clock)) := by
  rcases claimNext_cases uuid maxRetries accounted.unique workerId leaseSeconds now clock with
    ⟨_, unclaimed⟩ | ⟨current, selected, ⟨_, buried⟩ | ⟨below, leased⟩⟩
  · simpa only [JobLedger.step, unclaimed] using accounted
  · obtain ⟨member, _⟩ := mem_of_nextClaimable selected
    simp only [JobLedger.step, buried]
    refine accounted.quietUpdate rfl rfl (fun _ => rfl) ?_
    intro job jobMember selectedJob
    have same : job = current :=
      accounted.unique.eq_of_key jobMember member (by simpa using selectedJob)
    exact QuietChange.close rfl (by rw [same]; rfl) (Nat.le_refl _) rfl
  · obtain ⟨member, claimable⟩ := mem_of_nextClaimable selected
    simp only [JobLedger.step, leased]
    have room : current.retryCount < maxRetries := by omega
    exact accounted.claim current member (isOpen_of_claimable claimable) room rfl (Nat.le_succ _)
      (fun _ => rfl) (fun _ => rfl) rfl

theorem accounted_updateHeld (accounted : Accounted maxRetries ledger)
    {jobId token generation : Nat} (sameIds : ∀ job, (f job).jobId = job.jobId)
    (changes : ∀ job, job.heldBy token generation = true → QuietChange job (f job)) :
    Accounted maxRetries { ledger with tables := updateHeld ledger.tables jobId token generation f } := by
  refine accounted.quietUpdate rfl rfl sameIds ?_
  intro job _ selected
  simp only [Bool.and_eq_true] at selected
  exact changes job selected.2

theorem accounted_markRetry (accounted : Accounted maxRetries ledger)
    (jobId token generation : Nat) (error : String) (retryAfterSeconds : Nat) (clock : Time) :
    Accounted maxRetries (ledger.step uuid maxRetries
        (.markRetry jobId token generation error retryAfterSeconds clock)) := by
  simp only [JobLedger.step, markRetry]
  cases ledger.tables.jobs.find? fun job => job.jobId == jobId && job.heldBy token generation with
  | none => exact accounted
  | some =>
    simp only
    split
    · refine accounted_updateHeld accounted (fun _ => rfl) ?_
      intro job _
      exact QuietChange.close rfl rfl (Nat.le_refl _) rfl
    · refine accounted_updateHeld accounted (fun _ => rfl) ?_
      intro job held
      exact ⟨rfl, rfl, Nat.le_refl _, fun _ => ⟨isOpen_of_heldBy held, rfl⟩⟩

theorem accounted_requeueDeadLetter (accounted : Accounted maxRetries ledger) (jobId : Nat) (now : Time) :
    Accounted maxRetries (ledger.step uuid maxRetries (.requeueDeadLetter jobId now)) := by
  simp only [JobLedger.step]
  by_cases buried : ∃ row ∈ ledger.tables.jobs, row.jobId = jobId ∧ row.status = .deadLetter
  · obtain ⟨row, member, rfl, dead⟩ := buried
    have unique : UniqueOn Job.jobId (requeueDeadLetter ledger.tables row.jobId now).jobs :=
      accounted.unique.updateWhere (fun _ => rfl)
    have requeued :
        { row with status := .pending, retryCount := 0, lastError := "", nextRetryAt := none,
                   availableAt := now } ∈ (requeueDeadLetter ledger.tables row.jobId now).jobs :=
      mem_updateWhere.mpr (Or.inl ⟨row, member, by simp [dead], rfl⟩)
    rw [noteOpening_eq ledger rfl unique requeued rfl]
    · refine accounted.opened rfl unique (Nat.le_refl _) ?_ (accounted.known row member)
        (accounted.past row member) (Nat.zero_le _) (Or.inl rfl)
      intro job jobMember
      rcases mem_updateWhere.mp jobMember with ⟨old, oldMember, selected, rfl⟩ | ⟨kept, skipped⟩
      · simp only [Bool.and_eq_true, beq_iff_eq] at selected
        have same : old = row := accounted.unique.eq_of_key oldMember member selected.1
        exact Or.inl (by rw [same])
      · refine Or.inr ⟨kept, ?_⟩
        intro sameId
        have same : job = row := accounted.unique.eq_of_key kept member sameId
        simp [same, dead] at skipped
    · intro old oldMember sameId
      have same : old = row := accounted.unique.eq_of_key oldMember member sameId
      left
      rw [same, dead]
      decide
  · have untouched : requeueDeadLetter ledger.tables jobId now = ledger.tables := by
      rw [requeueDeadLetter, updateWhere_eq_self]
      intro job member selected
      simp only [Bool.and_eq_true, beq_iff_eq] at selected
      exact absurd ⟨job, member, selected⟩ buried
    rw [untouched, noteOpening_self]
    exact accounted

theorem accounted_step (positive : 1 ≤ maxRetries) (accounted : Accounted maxRetries ledger)
    (op : JobOp) : Accounted maxRetries (ledger.step uuid maxRetries op) := by
  cases op with
  | enqueue request now => exact accounted_enqueue accounted request now
  | enqueueInConnection request now => exact accounted_enqueueInConnection accounted request now
  | enqueueUser =>
    exact accounted.insert rfl rfl rfl
  | claimNext workerId leaseSeconds now clock =>
    exact accounted_claimNext positive accounted workerId leaseSeconds now clock
  | heartbeat =>
    refine accounted_updateHeld accounted (fun _ => rfl) ?_
    intro job held
    exact ⟨rfl, rfl, Nat.le_refl _, fun _ => ⟨isOpen_of_heldBy held, rfl⟩⟩
  | markCompleted =>
    refine accounted_updateHeld accounted (fun _ => rfl) ?_
    intro job _
    exact QuietChange.close rfl rfl (Nat.le_refl _) rfl
  | markRetry jobId token generation error retryAfterSeconds clock =>
    exact accounted_markRetry accounted jobId token generation error retryAfterSeconds clock
  | requeueDeadLetter jobId now => exact accounted_requeueDeadLetter accounted jobId now
  | cancelJob =>
    refine accounted_updateHeld accounted (fun _ => rfl) ?_
    intro job _
    exact QuietChange.close rfl rfl (Nat.le_succ _) rfl
  | cancelSession | cancelProjectJobs | cancelConsents =>
    refine accounted.quietUpdate rfl rfl (fun _ => rfl) ?_
    intro job _ _
    exact QuietChange.close rfl rfl (Nat.le_succ _) rfl
  | dropSession =>
    refine accounted.quiet accounted.unique.deleteWhere rfl ?_
    intro job member
    exact ⟨job, mem_of_mem_deleteWhere member, QuietChange.refl job⟩

end Steps

theorem accounted_run (uuid : Nat → String) {maxRetries : Nat} (positive : 1 ≤ maxRetries)
    (ops : List JobOp) : Accounted maxRetries ((jobQueue uuid maxRetries).run ops) :=
  Machine.invariant (Accounted maxRetries) (Accounted.start maxRetries)
    (fun _ op accounted => accounted_step positive accounted op) ops

/-! ### Dead letters -/

section DeadLetters

variable {uuid : Nat → String} {maxRetries : Nat} {ledger : JobLedger}

/-- Every dead letter after the transaction was one before it. -/
def NoNewDeadLetter (before after : Tables) : Prop :=
  ∀ next ∈ after.jobs, next.status = .deadLetter → next ∈ before.jobs

theorem NoNewDeadLetter.updateWhere {before after : Tables} {p : Job → Bool}
    (updated : after.jobs = updateWhere p f before.jobs) (alive : ∀ job, p job = true → (f job).status ≠ .deadLetter) :
    NoNewDeadLetter before after := by
  intro next member dead
  rw [updated] at member
  rcases mem_updateWhere.mp member with ⟨old, _, selected, rfl⟩ | ⟨kept, _⟩
  · exact absurd dead (alive old selected)
  · exact kept

theorem NoNewDeadLetter.append {before after : Tables}
    (inserted : after.jobs = before.jobs ++ [row]) (alive : row.status ≠ .deadLetter) :
    NoNewDeadLetter before after := by
  intro next member dead
  rw [inserted] at member
  rcases List.mem_append.mp member with old | new
  · exact old
  · rw [List.mem_singleton.mp new] at dead
    exact absurd dead alive

@[simp] theorem noteOpening_tables (ledger : JobLedger) (tables : Tables) (jobId : Nat) :
    (ledger.noteOpening tables jobId).tables = tables := by
  rw [JobLedger.noteOpening]
  split
  · rfl
  · simp only
    split <;> rfl

theorem noNewDeadLetter_step (op : JobOp)
    (notClaim : ∀ workerId leaseSeconds now clock, op ≠ .claimNext workerId leaseSeconds now clock)
    (notRetry : ∀ jobId token generation error retryAfterSeconds clock,
      op ≠ .markRetry jobId token generation error retryAfterSeconds clock) :
    NoNewDeadLetter ledger.tables (ledger.step uuid maxRetries op).tables := by
  have unchanged : NoNewDeadLetter ledger.tables ledger.tables := fun _ member _ => member
  have reopened {after : Tables} {p : Job → Bool} {request : ReflectionRequest} {now : Time}
      (updated : after.jobs = updateWhere p (fun job => (job.reopen request now).dropLease)
        ledger.tables.jobs) : NoNewDeadLetter ledger.tables after :=
    NoNewDeadLetter.updateWhere updated (by simp [Job.reopen, Job.dropLease])
  cases op with
  | enqueue request =>
    simp only [JobLedger.step, noteOpening_tables, enqueueProjectReflection]
    cases projectJob ledger.tables request.sessionId with
    | none => exact NoNewDeadLetter.append rfl (by simp)
    | some =>
      simp only
      split
      · split
        · exact reopened rfl
        · exact unchanged
      · exact reopened rfl
  | enqueueInConnection request =>
    simp only [JobLedger.step, noteOpening_tables, enqueueProjectReflectionInConnection]
    cases projectJob ledger.tables request.sessionId with
    | none => exact NoNewDeadLetter.append rfl (by simp)
    | some =>
      simp only
      split
      · split
        · exact reopened rfl
        · exact unchanged
      · exact NoNewDeadLetter.updateWhere rfl (by simp [Job.reopen])
  | enqueueUser =>
    simp only [JobLedger.step, noteOpening_tables, enqueueUserReflection]
    exact NoNewDeadLetter.append rfl (by simp)
  | claimNext workerId leaseSeconds now clock =>
    exact absurd rfl (notClaim workerId leaseSeconds now clock)
  | heartbeat =>
    refine NoNewDeadLetter.updateWhere rfl ?_
    intro job selected dead
    simp only [Job.heldBy, Bool.and_eq_true, beq_iff_eq] at selected
    rw [selected.2.1.1] at dead
    exact absurd dead (by decide)
  | markRetry jobId token generation error retryAfterSeconds clock =>
    exact absurd rfl (notRetry jobId token generation error retryAfterSeconds clock)
  | requeueDeadLetter =>
    simp only [JobLedger.step, noteOpening_tables]
    exact NoNewDeadLetter.updateWhere rfl (by simp)
  | markCompleted | cancelJob | cancelSession | cancelProjectJobs | cancelConsents =>
    exact NoNewDeadLetter.updateWhere rfl (by simp [Job.cancel, Job.dropLease])
  | dropSession =>
    exact fun next member _ => mem_of_mem_deleteWhere member

theorem BudgetKept.of_noNewDeadLetter {op : JobOp} (accounted : Accounted maxRetries ledger)
    (none : NoNewDeadLetter ledger.tables (ledger.step uuid maxRetries op).tables) :
    BudgetKept uuid maxRetries ledger op := by
  intro job member next nextMember sameId alive dead
  have old := none next nextMember dead
  have same : next = job := accounted.unique.eq_of_key old member sameId
  rw [same] at dead
  exact absurd dead alive

/-- An open job that has used up its attempts was claimed that often in its generation exactly when
its request started from zero. -/
theorem claimCount_ge_iff (accounted : Accounted maxRetries ledger)
    (member : job ∈ ledger.tables.jobs) (isOpen : job.status.isOpen = true) (exhausted : maxRetries ≤ job.retryCount) :
    maxRetries ≤ ledger.claimCount job.jobId job.generation ↔ ledger.startedFrom job.jobId = some 0 := by
  obtain ⟨opening, current, atMost, exactly⟩ := accounted.counted job member isOpen
  have bounded := accounted.bounded job member
  rw [JobLedger.startedFrom, current, Option.map_some, Option.some.injEq]
  constructor
  · intro enough
    by_contra carried
    have counted := exactly (Nat.pos_of_ne_zero carried)
    omega
  · intro fresh
    omega

theorem budgetKept_claimNext (positive : 1 ≤ maxRetries) (accounted : Accounted maxRetries ledger)
    (workerId : String) (leaseSeconds : Nat) (now clock : Time) :
    BudgetKept uuid maxRetries ledger (.claimNext workerId leaseSeconds now clock) ↔
      StartsFresh uuid maxRetries ledger (.claimNext workerId leaseSeconds now clock) := by
  rcases claimNext_cases uuid maxRetries accounted.unique workerId leaseSeconds now clock with
    ⟨unselected, unclaimed⟩ | ⟨current, selected, ⟨exhausted, buried⟩ | ⟨below, leased⟩⟩
  · constructor
    · intro _ job selected
      rw [unselected] at selected
      cases selected
    · intro _
      apply BudgetKept.of_noNewDeadLetter accounted
      simp only [JobLedger.step, unclaimed]
      exact fun next member _ => member
  · obtain ⟨member, claimable⟩ := mem_of_nextClaimable selected
    have isOpen := isOpen_of_claimable claimable
    have used : maxRetries ≤ current.retryCount := by omega
    constructor
    · intro kept job selectedJob _
      have same : current = job := Option.some.inj (selected.symm.trans selectedJob)
      subst same
      rw [← claimCount_ge_iff accounted member isOpen used]
      apply kept current member (current.bury current.retryCount (deadLetterReason current.lastError))
      · simp only [JobLedger.step, buried]
        exact updateJob_mem member
      · rfl
      · intro dead
        simp [dead, JobStatus.isOpen] at isOpen
      · rfl
    · intro fresh job jobMember next nextMember sameId alive dead
      simp only [JobLedger.step, buried] at nextMember
      rcases mem_updateJob accounted.unique member nextMember with rfl | ⟨old, _⟩
      · have same : current = job := accounted.unique.eq_of_key member jobMember sameId
        subst same
        rw [claimCount_ge_iff accounted member isOpen used]
        exact fresh current selected used
      · have same : next = job := accounted.unique.eq_of_key old jobMember sameId
        rw [same] at dead
        exact absurd dead alive
  · constructor
    · intro _ job selectedJob used
      have same : current = job := Option.some.inj (selected.symm.trans selectedJob)
      subst same
      omega
    · intro _
      apply BudgetKept.of_noNewDeadLetter accounted
      simp only [JobLedger.step, leased]
      exact NoNewDeadLetter.updateWhere rfl (by simp [Job.leaseTo])

theorem budgetKept_markRetry (positive : 1 ≤ maxRetries) (accounted : Accounted maxRetries ledger)
    (jobId token generation : Nat) (error : String) (retryAfterSeconds : Nat) (clock : Time) :
    BudgetKept uuid maxRetries ledger (.markRetry jobId token generation error retryAfterSeconds clock) ↔
      StartsFresh uuid maxRetries ledger (.markRetry jobId token generation error retryAfterSeconds clock) := by
  cases found : ledger.tables.jobs.find?
      fun job => job.jobId == jobId && job.heldBy token generation with
  | none =>
    have unheld : ∀ job ∈ ledger.tables.jobs, job.jobId = jobId →
        job.heldBy token generation ≠ true := by
      intro job member sameId held
      have missing := List.find?_eq_none.mp found job member
      simp [sameId, held] at missing
    constructor
    · intro _ job member sameId held
      exact absurd held (unheld job member sameId)
    · intro _
      apply BudgetKept.of_noNewDeadLetter accounted
      simp only [JobLedger.step, markRetry, found]
      exact fun next member _ => member
  | some row =>
    have member := List.mem_of_find?_eq_some found
    have selected := List.find?_some found
    simp only [Bool.and_eq_true, beq_iff_eq] at selected
    obtain ⟨rfl, held⟩ := selected
    have isOpen := isOpen_of_heldBy held
    by_cases exhausted : max 1 maxRetries ≤ row.retryCount
    · have used : maxRetries ≤ row.retryCount := by omega
      constructor
      · intro kept job jobMember sameId _ _
        have same : row = job := accounted.unique.eq_of_key member jobMember sameId.symm
        subst same
        rw [← claimCount_ge_iff accounted member isOpen used]
        apply kept row member (row.giveBack .deadLetter (Python.clip 2000 error) none)
        · simp only [JobLedger.step, markRetry, found, if_pos exhausted]
          exact mem_updateWhere.mpr (Or.inl ⟨row, member, by simp [held], rfl⟩)
        · rfl
        · intro dead
          simp [dead, JobStatus.isOpen] at isOpen
        · rfl
      · intro fresh job jobMember next nextMember sameId alive dead
        simp only [JobLedger.step, markRetry, found, if_pos exhausted] at nextMember
        rcases mem_updateWhere.mp nextMember with ⟨old, oldMember, touched, rfl⟩ | ⟨old, _⟩
        · simp only [Bool.and_eq_true, beq_iff_eq] at touched
          have sameRow : old = row := accounted.unique.eq_of_key oldMember member touched.1
          have same : old = job := accounted.unique.eq_of_key oldMember jobMember sameId
          subst same sameRow
          rw [claimCount_ge_iff accounted member isOpen used]
          exact fresh old member rfl held used
        · have same : next = job := accounted.unique.eq_of_key old jobMember sameId
          rw [same] at dead
          exact absurd dead alive
    · constructor
      · intro _ job jobMember sameId _ used
        have same : row = job := accounted.unique.eq_of_key member jobMember sameId.symm
        subst same
        omega
      · intro _
        apply BudgetKept.of_noNewDeadLetter accounted
        simp only [JobLedger.step, markRetry, found, if_neg exhausted]
        exact NoNewDeadLetter.updateWhere rfl (by simp [Job.giveBack, Job.dropLease])

/-- A transaction dead-letters no job generation before its budget is used exactly when it meets no
counter carried over from an earlier request. -/
theorem budgetKept_iff (positive : 1 ≤ maxRetries) (accounted : Accounted maxRetries ledger)
    (op : JobOp) : BudgetKept uuid maxRetries ledger op ↔ StartsFresh uuid maxRetries ledger op := by
  cases op with
  | claimNext workerId leaseSeconds now clock =>
    exact budgetKept_claimNext positive accounted workerId leaseSeconds now clock
  | markRetry jobId token generation error retryAfterSeconds clock =>
    exact budgetKept_markRetry positive accounted jobId token generation error retryAfterSeconds
      clock
  | _ =>
    refine ⟨fun _ => trivial, fun _ => BudgetKept.of_noNewDeadLetter accounted ?_⟩
    exact noNewDeadLetter_step _ (by intros; simp) (by intros; simp)

end DeadLetters

/-! ### The budget of a request -/

/-- In a run of the job queue, no job generation that was claimed fewer than `maxRetries` times is
moved to `dead_letter` exactly when every exhausted counter that `claim_next` or `mark_retry` meets
belongs to a request that started from zero. -/
theorem retry_budget_per_request_iff (uuid : Nat → String) (maxRetries : Nat)
    (positive : 1 ≤ maxRetries) (ops : List JobOp) :
    (jobQueue uuid maxRetries).Respects (BudgetKept uuid maxRetries) ops ↔
      (jobQueue uuid maxRetries).Respects (StartsFresh uuid maxRetries) ops := by
  constructor
  · intro kept before op after split
    have accounted := accounted_run uuid positive before
    exact (budgetKept_iff positive accounted op).mp (kept before op after split)
  · intro fresh before op after split
    have accounted := accounted_run uuid positive before
    exact (budgetKept_iff positive accounted op).mpr (fresh before op after split)

/-- A project reflection of session 1 up to a message. -/
def sampleRequest (messageId : Nat) : ReflectionRequest :=
  { sessionId := 1, departmentId := "hw", kbId := "kb", targetTurnId := "turn", targetMessageId := messageId,
    availableAt := 0, sourceStartTurnId := none, sourceStartMessageId := none, force := false }

/-- A reflection that is claimed and completed, re-enqueued for a newer message, and claimed again. -/
def reflectedTwice : List JobOp :=
  [.enqueueInConnection (sampleRequest 2) 1, .claimNext "worker" 180 2 2, .markCompleted 1 2 1 3,
    .enqueueInConnection (sampleRequest 4) 4, .claimNext "worker" 180 5 5]

/-- A reflection that is claimed, and fails. -/
def reflectedOnce : List JobOp :=
  [.enqueueInConnection (sampleRequest 2) 1, .claimNext "worker" 180 2 2, .markRetry 1 2 1 "timeout" 60 3]

/-- One request, claimed as often as its budget allows: it is dead-lettered, and the budget is kept. -/
theorem retry_budget_per_request_single_claim :
    (getJob ((jobQueue (fun id => toString id) 1).run reflectedOnce).tables 1).map (·.status) = some .deadLetter ∧
      (jobQueue (fun id => toString id) 1).Respects (BudgetKept (fun id => toString id) 1) reflectedOnce := by
  refine ⟨by decide, (retry_budget_per_request_iff (fun id => toString id) 1 (by decide) reflectedOnce).mpr
    (Machine.RespectsFrom.respects ⟨trivial, ?_, ?_, trivial⟩)⟩
  · intro job selected used
    have unused : some 0 = some job.retryCount := Eq.trans (by decide) (congrArg (Option.map Job.retryCount) selected)
    rw [Option.some.injEq] at unused
    omega
  · intro job member same _ _
    rw [same]
    decide

/-- With a budget of one attempt, the second request of a session whose first reflection succeeded is
dead-lettered before it was ever claimed. -/
theorem second_reflection_dead_lettered :
    ¬ (jobQueue (fun id => toString id) 1).Respects (BudgetKept (fun id => toString id) 1)
      reflectedTwice := by
  intro kept
  have last := kept (reflectedTwice.take 4) (.claimNext "worker" 180 5 5) [] rfl
  have early := last
    ((getJob ((jobQueue (fun id => toString id) 1).run (reflectedTwice.take 4)).tables 1).getD default)
    (by decide)
    ((getJob ((jobQueue (fun id => toString id) 1).run reflectedTwice).tables 1).getD default)
    (by decide) (by decide) (by decide) (by decide)
  exact absurd early (by decide)

end HardwareDatabase.Memory
