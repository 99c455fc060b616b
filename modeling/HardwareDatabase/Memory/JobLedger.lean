/-
Module: HardwareDatabase.Memory.JobLedger
Purpose: Runs of the reflection job queue: any interleaving of the statements that write `memory_jobs`, with arbitrary
  clocks. The history of the claims and of the counters that requests started from is read by no operation.
Trusted boundary: none
-/
import HardwareDatabase.Memory.Jobs
import HardwareDatabase.Relational.Run

namespace HardwareDatabase.Memory

open Relational

/-- The transactions on the job table. -/
inductive JobOp
  | enqueue (request : ReflectionRequest) (now : Time)
  | enqueueInConnection (request : ReflectionRequest) (now : Time)
  | enqueueUser (sessionId : Nat) (scope : Scope) (targetTurnId : String) (targetMessageId : Nat)
      (consent : ConsentEvent) (now : Time)
  | claimNext (workerId : String) (leaseSeconds : Nat) (now clock : Time)
  | heartbeat (jobId token generation leaseSeconds : Nat) (clock : Time)
  | markCompleted (jobId token generation : Nat) (now : Time)
  | markRetry (jobId token generation : Nat) (error : String) (retryAfterSeconds : Nat)
      (clock : Time)
  | requeueDeadLetter (jobId : Nat) (now : Time)
  | cancelJob (jobId token generation : Nat) (reason : String)
  | cancelSession (sessionId : Nat) (reason : String)
  | cancelProjectJobs (sessionId : Nat) (reason : String)
  | cancelConsents (consentIds : List Nat) (reason : String)
  | dropSession (sessionId : Nat)
deriving Repr, DecidableEq

/-- A request that put a job into the queue, with the attempt counter it started from. -/
structure Opening where
  jobId : Nat
  found : Nat
deriving Repr, DecidableEq

/-- The job table with its history, newest entry first. -/
structure JobLedger where
  tables : Tables
  claims : List (Nat × Nat)
  openings : List Opening
deriving Repr, DecidableEq

namespace JobLedger

def start : JobLedger :=
  { tables := Tables.empty, claims := [], openings := [] }

/-- How often a job was claimed in one generation. -/
def claimCount (ledger : JobLedger) (jobId generation : Nat) : Nat :=
  ledger.claims.count (jobId, generation)

/-- The request a job is working on. -/
def currentOpening (ledger : JobLedger) (jobId : Nat) : Option Opening :=
  ledger.openings.find? fun opening => opening.jobId == jobId

/-- The attempt counter the current request of a job started from. -/
def startedFrom (ledger : JobLedger) (jobId : Nat) : Option Nat :=
  (ledger.currentOpening jobId).map Opening.found

/-- Record the request that made `jobId` pending, if the transaction made it so. -/
def noteOpening (ledger : JobLedger) (tables : Tables) (jobId : Nat) : JobLedger :=
  match getJob tables jobId with
  | none => { ledger with tables }
  | some job =>
    let before := (getJob ledger.tables jobId).map fun old => (old.status, old.generation)
    if job.status = .pending ∧ before ≠ some (.pending, job.generation) then
      { ledger with
        tables
        openings := { jobId, found := job.retryCount } :: ledger.openings }
    else { ledger with tables }

/-- One transaction on the job table. -/
def step (uuid : Nat → String) (maxRetries : Nat) (ledger : JobLedger) : JobOp → JobLedger
  | .enqueue request now =>
    let (tables, jobId) := enqueueProjectReflection ledger.tables request now
    ledger.noteOpening tables jobId
  | .enqueueInConnection request now =>
    let (tables, jobId) := enqueueProjectReflectionInConnection ledger.tables request now
    ledger.noteOpening tables jobId
  | .enqueueUser sessionId scope targetTurnId targetMessageId consent now =>
    let (tables, jobId) :=
      enqueueUserReflection ledger.tables sessionId scope targetTurnId targetMessageId consent now
    ledger.noteOpening tables jobId
  | .claimNext workerId leaseSeconds now clock =>
    match claimNext uuid maxRetries ledger.tables workerId leaseSeconds now clock with
    | (tables, none) => { ledger with tables }
    | (tables, some job) =>
      { ledger with tables, claims := (job.jobId, job.generation) :: ledger.claims }
  | .heartbeat jobId token generation leaseSeconds clock =>
    { ledger with
      tables := heartbeat ledger.tables jobId token generation leaseSeconds clock }
  | .markCompleted jobId token generation now =>
    { ledger with tables := markCompleted ledger.tables jobId token generation now }
  | .markRetry jobId token generation error retryAfterSeconds clock =>
    { ledger with
      tables :=
        markRetry maxRetries ledger.tables jobId token generation error retryAfterSeconds clock }
  | .requeueDeadLetter jobId now =>
    ledger.noteOpening (requeueDeadLetter ledger.tables jobId now) jobId
  | .cancelJob jobId token generation reason =>
    { ledger with tables := cancelJob ledger.tables jobId token generation reason }
  | .cancelSession sessionId reason =>
    { ledger with
      tables := cancelJobsWhere ledger.tables (fun job => job.sessionId == sessionId) reason }
  | .cancelProjectJobs sessionId reason =>
    { ledger with
      tables := cancelJobsWhere ledger.tables
        (fun job => job.sessionId == sessionId && job.kind == .projectReflection) reason }
  | .cancelConsents consentIds reason =>
    { ledger with
      tables := cancelJobsWhere ledger.tables
        (fun job => job.consentEventId.any fun consentId => consentIds.contains consentId)
        reason }
  | .dropSession sessionId =>
    { ledger with tables := dropSessionJobs ledger.tables sessionId }

end JobLedger

/-- The job queue under a fixed `max_retries`. -/
def jobQueue (uuid : Nat → String) (maxRetries : Nat) : Machine JobLedger JobOp where
  init := JobLedger.start
  step := JobLedger.step uuid maxRetries

/-- The transaction moves no job to `dead_letter` whose generation was claimed fewer than
`maxRetries` times. -/
def BudgetKept (uuid : Nat → String) (maxRetries : Nat) (ledger : JobLedger) (op : JobOp) : Prop :=
  ∀ job ∈ ledger.tables.jobs, ∀ next ∈ (ledger.step uuid maxRetries op).tables.jobs,
    next.jobId = job.jobId → job.status ≠ .deadLetter → next.status = .deadLetter →
      maxRetries ≤ ledger.claimCount job.jobId job.generation

/-- The transaction meets no exhausted attempt counter that the job brought from an earlier request:
a job that `claim_next` or `mark_retry` finds with `maxRetries` attempts began its request at zero. -/
def StartsFresh (uuid : Nat → String) (maxRetries : Nat) (ledger : JobLedger) : JobOp → Prop
  | .claimNext _ _ now _ =>
    ∀ job, nextClaimable uuid ledger.tables now = some job → maxRetries ≤ job.retryCount →
      ledger.startedFrom job.jobId = some 0
  | .markRetry jobId token generation _ _ _ =>
    ∀ job ∈ ledger.tables.jobs, job.jobId = jobId → job.heldBy token generation = true →
      maxRetries ≤ job.retryCount → ledger.startedFrom job.jobId = some 0
  | _ => True

end HardwareDatabase.Memory
