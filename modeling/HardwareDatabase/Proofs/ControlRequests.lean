/-
Module: HardwareDatabase.Proofs.ControlRequests
Purpose: In exactly which interleavings a cancellation and a pause of an evaluation run are honoured and a call that
  raises has not written, from a table of the statuses that the worker's calls lead to.
Trusted boundary: none
-/
import HardwareDatabase.Evaluation.Control

namespace HardwareDatabase.Evaluation

open Python (Value Dict)
open Relational

/-- The statuses that a cancelled run may take. -/
def RunStatus.honoursCancel (status : RunStatus) : Bool :=
  status == .cancelRequested || status == .cancelled || status == .failed

/-- The statuses that a run may take between an accepted pause request and a restart. -/
def RunStatus.honoursPause (status : RunStatus) : Bool :=
  status == .pauseRequested || status == .paused || status.honoursCancel

/-- The request has been accepted and the run has not been restarted since. -/
def owed (request : Event) (history : List Event) : Bool :=
  history.foldl
    (fun due event => if event = request then true else if event = .restarted then false else due) false

/-- A step that neither collects a run whose worker has been asked to stop, nor pauses a run that has been
cancelled, nor makes a call raise after it has written. -/
def ControlState.Undisturbed (state : ControlState) : Op → Prop
  | .work controller _ =>
    match (state.workers controller).bind Program.pending with
    | some (.markCollected _) => state.run.status.isRequested = false
    | _ => True
  | .loadForDisplay controller _ =>
    (state.workers controller).isNone = true → state.run.status ≠ .cancelRequested
  | .proceed call _ outside =>
    match state.calls.phase call with
    | some .counting => outside.counts.isSome = true
    | some (.requestingScoring _) => state.run.status = .collected ∨ state.run.status = .failed
    | some (.starting controller) => (state.workers controller).isNone = true
    | _ => True
  | _ => True

section Runs

variable (mode : Mode) (config : Dict) (totalSamples : Nat) (verified : Bool) (created : Nat)

/-- The status after a run. -/
def statusAfterRun (ops : List Op) : RunStatus :=
  ((evaluation mode config totalSamples verified created).run ops).run.status

/-- The events of a run. -/
def history (ops : List Op) : List Event :=
  (evaluation mode config totalSamples verified created).emitted ControlState.events ops

/-- Requests are honoured over a run: a cancelled run is cancelled, about to be, or failed; a paused run is
not collected and not completed; and a call that raises has not written. -/
structure ControlHonoured (ops : List Op) : Prop where
  cancelHonoured : ∀ first rest, ops = first ++ rest →
    owed .cancelAccepted (history mode config totalSamples verified created first) = true →
    statusAfterRun mode config totalSamples verified created first ∈
      [RunStatus.cancelRequested, .cancelled, .failed]
  pauseHonoured : ∀ first rest, ops = first ++ rest →
    owed .pauseAccepted (history mode config totalSamples verified created first) = true →
    statusAfterRun mode config totalSamples verified created first ≠ .collected ∧
      statusAfterRun mode config totalSamples verified created first ≠ .completed
  raisedUnwritten : ∀ first rest call, ops = first ++ rest →
    .raised call ∈ history mode config totalSamples verified created first →
    .wrote call ∉ history mode config totalSamples verified created first

end Runs

/-! ### Statuses -/

/-- The status that a call of the worker leads to, if it does not raise. -/
def WorkerCall.statusAfter : WorkerCall → RunStatus → Option RunStatus
  | .markRunning _, .queued => some .running
  | .markRunning _, _ => none
  | .markFailed _, .queued | .markFailed _, .running | .markFailed _, .pauseRequested
  | .markFailed _, .cancelRequested => some .failed
  | .markFailed _, _ => none
  | .beginSample _ _, .running => some .running
  | .beginSample _ _, .pauseRequested | .markPaused, .pauseRequested => some .paused
  | .beginSample _ _, .cancelRequested => some .cancelled
  | .beginSample _ _, _ => none
  | .markPaused, _ => none
  | .markCancelled, .cancelRequested | .markCancelled, .paused | .markCancelled, .collected =>
    some .cancelled
  | .markCancelled, _ => none
  | .markCollected _, .running | .markCollected _, .pauseRequested | .markCollected _, .cancelRequested =>
    some .collected
  | .markCollected _, _ => none
  | .publishPartialReport _, .pauseRequested => some .paused
  | .publishPartialReport _, .cancelRequested => some .cancelled
  | .publishPartialReport _, _ => some .failed
  | .completeReportOrHandleControl _, .queued | .completeReportOrHandleControl _, .running =>
    some .completed
  | .completeReportOrHandleControl _, .pauseRequested => some .paused
  | .completeReportOrHandleControl _, .cancelRequested => some .cancelled
  | .completeReportOrHandleControl _, _ => none
  | _, status => some status

private theorem WorkerCall.status_apply (state : RunState) (now : Nat) (call : WorkerCall) :
    (call.apply state now).toOption.map RunState.status = call.statusAfter state.status := by
  cases call with
  | load => rfl
  | recordCounts => rfl
  | recordServiceMetadata => rfl
  | recordSnapshotManifest => rfl
  | updateScoringProgress => rfl
  | setStage => rfl
  | markRunning =>
    cases status : state.status <;> simp [apply, RunState.markRunning, statusAfter, status, Except.toOption]
  | markFailed =>
    cases status : state.status <;>
      simp [apply, RunState.markFailed, RunState.finish, statusAfter, status, Except.toOption]
  | beginSample =>
    cases status : state.status <;>
      simp [apply, RunState.beginSample, RunState.markPaused, RunState.markCancelled, RunState.finish,
        statusAfter, status, Except.toOption]
  | markPaused =>
    cases status : state.status <;> simp [apply, RunState.markPaused, statusAfter, status, Except.toOption]
  | markCancelled =>
    cases status : state.status <;>
      simp [apply, RunState.markCancelled, RunState.finish, statusAfter, status, Except.toOption]
  | markCollected =>
    cases status : state.status <;>
      simp [apply, RunState.markCollected, statusAfter, status, Except.toOption]
  | publishPartialReport =>
    cases status : state.status <;>
      simp [apply, RunState.publishPartialReport, RunState.finish, statusAfter, status, Except.toOption]
  | completeReportOrHandleControl =>
    cases status : state.status <;>
      simp [apply, RunState.completeReportOrHandleControl, RunState.markCompleted, RunState.markPaused,
        RunState.markCancelled, RunState.finish, statusAfter, status, Except.toOption]

variable {status : RunStatus}

private theorem isRequested_iff : status.isRequested = true ↔ status = .pauseRequested ∨ status = .cancelRequested := by
  simp [RunStatus.isRequested]

/-- The call that collects a run. -/
def WorkerCall.collects : WorkerCall → Bool
  | .markCollected _ => true
  | _ => false

private theorem WorkerCall.statusAfter_honoursCancel {call : WorkerCall} {after : RunStatus}
    (leads : call.statusAfter status = some after) (waits : call.collects = true → status.isRequested = false)
    (honours : status.honoursCancel = true) : after.honoursCancel = true := by
  cases status <;> simp [RunStatus.honoursCancel] at honours <;> cases call <;>
    simp_all [statusAfter, collects, RunStatus.isRequested, RunStatus.honoursCancel]

private theorem WorkerCall.statusAfter_honoursPause {call : WorkerCall} {after : RunStatus}
    (leads : call.statusAfter status = some after) (waits : call.collects = true → status.isRequested = false)
    (honours : status.honoursPause = true) : after.honoursPause = true := by
  cases status <;> simp [RunStatus.honoursPause, RunStatus.honoursCancel] at honours <;> cases call <;>
    simp_all [statusAfter, collects, RunStatus.isRequested, RunStatus.honoursPause, RunStatus.honoursCancel]

private theorem WorkerCall.eq_of_isRequested {call : WorkerCall} {after : RunStatus}
    (leads : call.statusAfter status = some after) (requested : after.isRequested = true) : after = status := by
  cases status <;> cases call <;> simp_all [statusAfter, RunStatus.isRequested] <;> subst leads <;>
    simp_all

variable {now : Nat}

section Steps

variable {state : ControlState}

private theorem work_status (state : ControlState) (controller now : Nat) :
    (state.work controller now).run.status = state.run.status ∨
      ∃ program call, state.workers controller = some program ∧ program.pending = some call ∧
        call.statusAfter state.run.status = some (state.work controller now).run.status := by
  unfold ControlState.work
  cases worker : state.workers controller with
  | none => exact .inl rfl
  | some program =>
    dsimp only
    cases pending : program.pending with
    | none => exact .inl rfl
    | some call =>
      have leads := call.status_apply state.run now
      dsimp only
      cases answer : call.apply state.run now with
      | error => exact .inl rfl
      | ok =>
        refine .inr ⟨program, call, rfl, pending, ?_⟩
        rw [answer] at leads
        exact leads.symm

private theorem waits_of_undisturbed {controller : Nat} {program : Work RunState} {call : WorkerCall}
    (undisturbed : state.Undisturbed (.work controller now))
    (worker : state.workers controller = some program) (pending : program.pending = some call)
    (collects : call.collects = true) : state.run.status.isRequested = false := by
  simp only [ControlState.Undisturbed, worker, Option.bind_some, pending] at undisturbed
  cases call with
  | markCollected => exact undisturbed
  | _ => cases collects

private theorem status_requestCancel {run after : RunState} (done : run.requestCancel now = .ok after) :
    after.status.honoursCancel = true := by
  unfold RunState.requestCancel at done
  split at done <;> cases done
  · rename_i status
    rw [status]
    rfl
  · rfl
  · rfl
  · rfl
  · rfl
  · rfl

/-- An accepted pause request comes while the run is about to be worked on, or repeats one. -/
theorem status_requestPause {run after : RunState} (done : run.requestPause now = .ok after) :
    after.status = .pauseRequested ∧ run.status.honoursCancel = false := by
  unfold RunState.requestPause at done
  split at done <;> cases done <;> rename_i status
  · exact ⟨status, by rw [status]; rfl⟩
  · exact ⟨rfl, by rw [status]; rfl⟩
  · exact ⟨rfl, by rw [status]; rfl⟩

private theorem status_queue {run after : RunState} {mode : String}
    (done : ControlState.queue run mode now = .ok after) : after.status = .queued := by
  unfold ControlState.queue at done
  split at done
  · cases done
  · unfold RunState.queue at done
    split at done
    · cases done
    · split at done
      · cases done
      · cases done
        rfl

private theorem status_requestScoring {run after : RunState}
    (done : run.requestScoring now = .ok after) : after.status = .queued := by
  unfold RunState.requestScoring at done
  split at done <;> cases done <;> rfl

/-- What a step does to the status and to what is owed: nothing; or it accepts a request; or it restarts the
run; or a worker takes a step; or a run that nobody works on here is swept. `calm` says that the step is
undisturbed. -/
inductive StatusEffect (calm : Prop) (before after : RunStatus) (events : List Event) : Prop
  | keeps (same : after = before)
      (silent : ∀ event ∈ events, event ≠ .cancelAccepted ∧ event ≠ .pauseAccepted ∧ event ≠ .restarted)
  | cancels (honours : after.honoursCancel = true) (accepted : events = [.cancelAccepted])
  | pauses (requested : after = .pauseRequested) (free : before.honoursCancel = false)
      (accepted : events = [.pauseAccepted])
  | restarts (queued : after = .queued) (call : Nat) (accepted : events = [.restarted, .wrote call])
  | works (call : WorkerCall) (leads : call.statusAfter before = some after)
      (waits : calm → call.collects = true → before.isRequested = false) (silent : events = [])
  | sweeps (swept : before = .queued ∨ before = .running ∨ before.isRequested = true)
      (paused : after = .paused) (spares : calm → before ≠ .cancelRequested) (silent : events = [])

variable {calm : Prop}

private theorem keeps_silent (status : RunStatus) : StatusEffect calm status status [] :=
  .keeps rfl fun _ member => absurd member List.not_mem_nil

private theorem keeps_call {event : Event} (call : Nat)
    (about : event = .wrote call ∨ event = .raised call) : StatusEffect calm status status [event] := by
  refine .keeps rfl ?_
  intro other member
  rw [List.mem_singleton.mp member]
  rcases about with rfl | rfl <;> simp

private theorem sweep_status (run : RunState) (now : Nat) (spares : calm → run.status ≠ .cancelRequested) :
    StatusEffect calm run.status (run.markOrphanedAsPaused now).status [] := by
  cases status : run.status <;> simp only [RunState.markOrphanedAsPaused, status] <;> rw [status] at spares
  case queued => exact .sweeps (.inl rfl) rfl spares rfl
  case running => exact .sweeps (.inr (.inl rfl)) rfl spares rfl
  case pauseRequested => exact .sweeps (.inr (.inr rfl)) rfl spares rfl
  case cancelRequested => exact .sweeps (.inr (.inr rfl)) rfl spares rfl
  all_goals exact keeps_silent _

private theorem proceed_status (call now : Nat) (outside : Outside) :
    StatusEffect calm state.run.status (state.proceed call now outside).1.run.status
      (state.proceed call now outside).2 := by
  unfold ControlState.proceed
  cases state.calls.phase call with
  | none => exact keeps_silent _
  | some phase =>
    cases phase with
    | refreshing => exact keeps_silent _
    | counting =>
      dsimp only
      cases outside.counts with
      | none => exact keeps_call call (.inr rfl)
      | some => exact keeps_call call (.inl rfl)
    | scoringChecked controller force =>
      dsimp only
      cases ControlState.checkVerdict outside.verdict force with
      | error => exact keeps_call call (.inr rfl)
      | ok => exact keeps_call call (.inl rfl)
    | requestingScoring =>
      dsimp only
      cases done : state.run.requestScoring now with
      | error => exact keeps_call call (.inr rfl)
      | ok => exact .restarts (status_requestScoring done) call rfl
    | starting =>
      dsimp only
      split
      · exact keeps_call call (.inr rfl)
      · exact keeps_silent _

private theorem step_status (op : Op) :
    StatusEffect (state.Undisturbed op) state.run.status (state.step op).run.status (state.events op) := by
  cases op <;> simp only [ControlState.step, ControlState.events, ControlState.perform]
  case pause now =>
      cases done : state.run.requestPause now with
      | error => exact keeps_silent _
      | ok => exact .pauses (status_requestPause done).1 (status_requestPause done).2 rfl
  case cancel now =>
      cases done : state.run.requestCancel now with
      | error => exact keeps_silent _
      | ok => exact .cancels (status_requestCancel done) rfl
  case loadForDisplay controller now =>
      split
      · exact keeps_silent _
      · rename_i idle
        exact sweep_status state.run now fun undisturbed => undisturbed (by simpa using idle)
  case start controller execution =>
      split
      · exact keeps_silent _
      · exact keeps_silent _
  case resume mode now =>
      cases done : ControlState.queue state.run mode now with
      | error => exact keeps_call state.calls.next (.inr rfl)
      | ok => exact .restarts (status_queue done) state.calls.next rfl
  case startScoring controller force =>
      cases ControlState.checkScoring state.run with
      | error => exact keeps_call state.calls.next (.inr rfl)
      | ok => exact keeps_silent _
  case proceed call now outside => exact proceed_status call now outside
  case work controller now =>
      rcases work_status state controller now with same |
          ⟨program, call, worker, pending, leads⟩
      · rw [same]
        exact keeps_silent _
      · exact .works call leads (fun undisturbed => waits_of_undisturbed undisturbed worker pending) rfl

end Steps

/-! ### What is owed -/

variable {request : Event}

private theorem owed_append_of_silent {events : List Event} (history : List Event)
    (silent : ∀ event ∈ events, event ≠ request ∧ event ≠ .restarted) :
    owed request (history ++ events) = owed request history := by
  rw [owed, List.foldl_append, ← owed]
  generalize owed request history = due
  induction events with
  | nil => rfl
  | cons event rest ih =>
    obtain ⟨other, continued⟩ := silent event List.mem_cons_self
    rw [List.foldl_cons, if_neg other, if_neg continued]
    exact ih fun later member => silent later (List.mem_cons_of_mem event member)

private theorem owed_append_request (request : Event) (history : List Event) :
    owed request (history ++ [request]) = true := by
  simp [owed]

private theorem owed_append_restarted {call : Nat} (history : List Event)
    (restart : request ≠ .restarted) (wrote : request ≠ .wrote call) :
    owed request (history ++ [.restarted, .wrote call]) = false := by
  simp [owed, restart.symm, wrote.symm]

section Requests

variable {calm : Prop} {before after : RunStatus} {events past : List Event}

section

variable (effect : StatusEffect calm before after events)
include effect

private theorem StatusEffect.cancel (holds : calm)
    (honours : owed .cancelAccepted past = true → before.honoursCancel = true)
    (due : owed .cancelAccepted (past ++ events) = true) : after.honoursCancel = true := by
  cases effect with
  | keeps same silent =>
    rw [owed_append_of_silent past fun event member => ⟨(silent event member).1, (silent event member).2.2⟩]
      at due
    exact same ▸ honours due
  | cancels done => exact done
  | pauses requested free accepted =>
    rw [owed_append_of_silent past (by simp [accepted])] at due
    rw [honours due] at free
    cases free
  | restarts queued call accepted =>
    rw [accepted, owed_append_restarted past (by simp) (by simp)] at due
    cases due
  | works call leads waits silent =>
    rw [silent, List.append_nil] at due
    exact WorkerCall.statusAfter_honoursCancel leads (waits holds) (honours due)
  | sweeps swept paused spares silent =>
    rw [silent, List.append_nil] at due
    have stopped := honours due
    have spared := spares holds
    rcases swept with rfl | rfl | requested
    · cases stopped
    · cases stopped
    · cases before <;> simp_all [RunStatus.isRequested, RunStatus.honoursCancel]

private theorem StatusEffect.pause (holds : calm)
    (honours : owed .pauseAccepted past = true → before.honoursPause = true)
    (due : owed .pauseAccepted (past ++ events) = true) : after.honoursPause = true := by
  cases effect with
  | keeps same silent =>
    rw [owed_append_of_silent past fun event member => (silent event member).2] at due
    exact same ▸ honours due
  | cancels done => simp [RunStatus.honoursPause, done]
  | pauses requested =>
    rw [requested]
    rfl
  | restarts queued call accepted =>
    rw [accepted, owed_append_restarted past (by simp) (by simp)] at due
    cases due
  | works call leads waits silent =>
    rw [silent, List.append_nil] at due
    exact WorkerCall.statusAfter_honoursPause leads (waits holds) (honours due)
  | sweeps swept paused =>
    rw [paused]
    rfl

private theorem StatusEffect.asked
    (kind : request = .cancelAccepted ∧ status = .cancelRequested ∨ request = .pauseAccepted ∧ status = .pauseRequested)
    (asked : before = status → owed request past = true) (now : after = status) :
    owed request (past ++ events) = true := by
  have requested : after.isRequested = true := by
    rcases kind with ⟨-, rfl⟩ | ⟨-, rfl⟩ <;> rw [now] <;> rfl
  cases effect with
  | keeps same silent =>
    rw [owed_append_of_silent past, asked (same.symm.trans now)]
    intro event member
    rcases kind with ⟨rfl, -⟩ | ⟨rfl, -⟩
    · exact ⟨(silent event member).1, (silent event member).2.2⟩
    · exact ⟨(silent event member).2.1, (silent event member).2.2⟩
  | cancels done accepted =>
    rcases kind with ⟨rfl, -⟩ | ⟨-, rfl⟩
    · rw [accepted, owed_append_request]
    · rw [now] at done
      cases done
  | pauses paused free accepted =>
    rcases kind with ⟨-, rfl⟩ | ⟨rfl, -⟩
    · rw [now] at paused
      cases paused
    · rw [accepted, owed_append_request]
  | restarts queued =>
    rw [queued] at requested
    cases requested
  | works call leads waits silent =>
    rw [silent, List.append_nil]
    exact asked ((WorkerCall.eq_of_isRequested leads requested).symm.trans now)
  | sweeps swept paused =>
    rw [paused] at requested
    cases requested

end

end Requests

/-! ### Calls that write and calls that raise -/

/-- A call has had an effect when it has written; only a start of scoring waits before its first write. -/
def controlAccounts : Calls.Accounts Phase Event where
  acts
    | .wrote call => some call
    | _ => none
  refuses
    | .raised call => some call
    | _ => none
  committed
    | .scoringChecked _ _ => False
    | _ => True

section Calls

variable {state : ControlState} {past : List Event}

section

variable (accounted : state.calls.Accounted controlAccounts past)
include accounted

private theorem accounted_raise {call : Nat} {phase : Phase} (running : state.calls.phase call = some phase)
    (inert : ¬ controlAccounts.Acted past call) :
    (state.calls.moveTo call none).Accounted controlAccounts (past ++ [.raised call]) := by
  refine Calls.Accounted.refuse ?_ rfl rfl ?_ ?_ inert
  · exact accounted.moveTo running (fun acted => absurd acted inert)
  · exact accounted.fresh.lt_next running
  · exact Calls.phase_moveTo_self state.calls call none

private theorem accounted_write {call : Nat} {phase : Phase} {new : Option Phase} {before : List Event}
    (running : state.calls.phase call = some phase)
    (commits : ∀ phase, new = some phase → controlAccounts.committed phase)
    (announced : before = [] ∨ before = [.restarted]) :
    (state.calls.moveTo call new).Accounted controlAccounts (past ++ (before ++ [.wrote call])) := by
  have moved : (state.calls.moveTo call new).Accounted controlAccounts past :=
    accounted.moveTo running fun _ => commits
  have unrefused : ¬ controlAccounts.Refused past call := by
    intro refused
    have ended := accounted.ended call refused
    rw [running] at ended
    cases ended
  have begun : call < (state.calls.moveTo call new).next := accounted.fresh.lt_next running
  rw [← List.append_assoc]
  rcases announced with rfl | rfl
  · rw [List.append_nil]
    refine moved.act rfl rfl begun unrefused ?_
    rw [Calls.phase_moveTo_self]
    exact commits
  · refine (moved.silent rfl rfl).act rfl rfl begun ?_ ?_
    · rintro ⟨event, member, refuses⟩
      rcases List.mem_append.mp member with earlier | last
      · exact unrefused ⟨event, earlier, refuses⟩
      · rw [List.mem_singleton.mp last] at refuses
        cases refuses
    · rw [Calls.phase_moveTo_self]
      exact commits

private theorem next_inert : ¬ controlAccounts.Acted past state.calls.next :=
  fun acted => Nat.lt_irrefl _ (accounted.actedBegun state.calls.next acted)

end

private theorem proceed_accounted {call : Nat} {outside : Outside}
    (undisturbed : state.Undisturbed (.proceed call now outside))
    (accounted : state.calls.Accounted controlAccounts past) :
    (state.proceed call now outside).1.calls.Accounted controlAccounts
      (past ++ (state.proceed call now outside).2) := by
  simp only [ControlState.Undisturbed] at undisturbed
  unfold ControlState.proceed
  cases running : state.calls.phase call with
  | none =>
    rw [List.append_nil]
    exact accounted
  | some phase =>
    rw [running] at undisturbed
    cases phase with
    | refreshing =>
      rw [List.append_nil]
      refine accounted.moveTo running ?_
      rintro - next ⟨⟩
      trivial
    | counting =>
      dsimp only
      cases read : outside.counts with
      | none =>
        rw [read] at undisturbed
        cases undisturbed
      | some => exact accounted_write accounted running (by simp) (.inl rfl)
    | scoringChecked controller force =>
      dsimp only
      cases ControlState.checkVerdict outside.verdict force with
      | error => exact accounted_raise accounted running (accounted.not_acted running id)
      | ok =>
        refine accounted_write accounted running ?_ (.inl rfl)
        rintro next ⟨⟩
        trivial
    | requestingScoring =>
      dsimp only
      cases done : state.run.requestScoring now with
      | error =>
        unfold RunState.requestScoring at done
        rcases undisturbed with status | status <;> rw [status] at done <;> cases done
      | ok =>
        refine accounted_write accounted running ?_ (.inr rfl)
        rintro next ⟨⟩
        trivial
    | starting =>
      dsimp only
      split
      · rename_i busy
        simp only [Option.isNone_iff_eq_none] at undisturbed
        rw [undisturbed] at busy
        cases busy
      · rw [List.append_nil]
        exact accounted.moveTo running (by simp)

private theorem step_accounted {op : Op} (undisturbed : state.Undisturbed op)
    (accounted : state.calls.Accounted controlAccounts past) :
    (state.step op).calls.Accounted controlAccounts (past ++ state.events op) := by
  cases op <;> simp only [ControlState.step, ControlState.events, ControlState.perform]
  case pause now =>
      cases state.run.requestPause now with
      | error => rwa [List.append_nil]
      | ok => exact accounted.silent rfl rfl
  case cancel now =>
      cases state.run.requestCancel now with
      | error => rwa [List.append_nil]
      | ok => exact accounted.silent rfl rfl
  case loadForDisplay controller now =>
      split <;> rwa [List.append_nil]
  case start controller execution =>
      split <;> rwa [List.append_nil]
  case resume mode now =>
      cases ControlState.queue state.run mode now with
      | error =>
        refine (accounted.enter none).refuse rfl rfl (Nat.lt_succ_self _) ?_ (next_inert accounted)
        exact Calls.phase_enter_self state.calls none
      | ok =>
        have announced := (accounted.enter (some .refreshing)).silent
          (show controlAccounts.acts .restarted = none from rfl) rfl
        have written := announced.act
          (show controlAccounts.acts (.wrote state.calls.next) = some state.calls.next from rfl) rfl
          (Nat.lt_succ_self _) ?_ ?_
        · rwa [List.append_assoc] at written
        · rintro ⟨event, member, refuses⟩
          rcases List.mem_append.mp member with earlier | last
          · exact Nat.lt_irrefl _ (accounted.refusedBegun _ ⟨event, earlier, refuses⟩)
          · rw [List.mem_singleton.mp last] at refuses
            cases refuses
        · rw [Calls.phase_enter_self]
          rintro phase ⟨⟩
          trivial
  case startScoring controller force =>
      cases ControlState.checkScoring state.run with
      | error =>
        refine (accounted.enter none).refuse rfl rfl (Nat.lt_succ_self _) ?_ (next_inert accounted)
        exact Calls.phase_enter_self state.calls none
      | ok =>
        rw [List.append_nil]
        exact accounted.enter _
  case proceed call now outside => exact proceed_accounted undisturbed accounted
  case work controller now =>
      rw [List.append_nil]
      have same : (state.work controller now).calls = state.calls := by
        unfold ControlState.work
        split
        · rfl
        · split <;> rfl
      rwa [same]

end Calls

/-! ### Whole runs -/

/-- What an undisturbed run keeps. -/
structure ControlState.Honours (state : ControlState) (past : List Event) : Prop where
  cancel : owed .cancelAccepted past = true → state.run.status.honoursCancel = true
  pause : owed .pauseAccepted past = true → state.run.status.honoursPause = true
  accounted : state.calls.Accounted controlAccounts past

/-- What every run keeps: a run that is about to stop has been asked to, and a call that goes on after its
first write has written. -/
structure ControlState.Asked (state : ControlState) (past : List Event) : Prop where
  cancel : state.run.status = .cancelRequested → owed .cancelAccepted past = true
  pause : state.run.status = .pauseRequested → owed .pauseAccepted past = true
  backed : state.calls.Backed controlAccounts past

section Runs

variable {state : ControlState} {past : List Event}

private theorem Honours.step {op : Op} (honours : state.Honours past) (undisturbed : state.Undisturbed op) :
    (state.step op).Honours (past ++ state.events op) where
  cancel := (step_status op).cancel undisturbed honours.cancel
  pause := (step_status op).pause undisturbed honours.pause
  accounted := step_accounted undisturbed honours.accounted

private theorem acted_append {call : Nat} (before : List Event) :
    controlAccounts.Acted (past ++ (before ++ [.wrote call])) call :=
  ⟨.wrote call, by simp, rfl⟩

private theorem proceed_backed {call : Nat} {outside : Outside} (backed : state.calls.Backed controlAccounts past) :
    (state.proceed call now outside).1.calls.Backed controlAccounts (past ++ (state.proceed call now outside).2) := by
  unfold ControlState.proceed
  have kept := backed.append
  cases running : state.calls.phase call with
  | none => exact kept _
  | some phase =>
    cases phase with
    | refreshing =>
      rw [List.append_nil]
      exact backed.moveTo fun _ _ _ => backed call .refreshing running trivial
    | counting =>
      dsimp only
      cases outside.counts with
      | none => exact (kept _).moveTo (by simp)
      | some => exact (kept _).moveTo (by simp)
    | scoringChecked controller force =>
      dsimp only
      cases ControlState.checkVerdict outside.verdict force with
      | error => exact (kept _).moveTo (by simp)
      | ok => exact (kept _).moveTo fun _ _ _ => acted_append []
    | requestingScoring =>
      dsimp only
      cases state.run.requestScoring now with
      | error => exact (kept _).moveTo (by simp)
      | ok => exact (kept _).moveTo fun _ _ _ => acted_append [.restarted]
    | starting =>
      dsimp only
      split
      · exact (kept _).moveTo (by simp)
      · exact (kept _).moveTo (by simp)

private theorem step_backed (op : Op) (backed : state.calls.Backed controlAccounts past) :
    (state.step op).calls.Backed controlAccounts (past ++ state.events op) := by
  have kept := backed.append
  cases op <;> simp only [ControlState.step, ControlState.events, ControlState.perform]
  case pause now => cases state.run.requestPause now <;> exact kept _
  case cancel now => cases state.run.requestCancel now <;> exact kept _
  case loadForDisplay controller now => split <;> exact kept _
  case start controller execution => split <;> exact kept _
  case resume mode now =>
      cases ControlState.queue state.run mode now with
      | error => exact (kept _).enter (by simp)
      | ok => exact (kept _).enter fun _ _ _ => acted_append [.restarted]
  case startScoring controller force =>
      cases ControlState.checkScoring state.run with
      | error => exact (kept _).enter (by simp)
      | ok =>
        refine (kept _).enter ?_
        rintro phase ⟨⟩ committed
        exact committed.elim
  case proceed call now outside => exact proceed_backed backed
  case work controller now =>
      have same : (state.work controller now).calls = state.calls := by
        unfold ControlState.work
        split
        · rfl
        · split <;> rfl
      rw [same]
      exact kept _

private theorem Asked.step (op : Op) (asked : state.Asked past) :
    (state.step op).Asked (past ++ state.events op) where
  cancel := (step_status op).asked (.inl ⟨rfl, rfl⟩) asked.cancel
  pause := (step_status op).asked (.inr ⟨rfl, rfl⟩) asked.pause
  backed := step_backed op asked.backed

variable {mode : Mode} {config : Dict} {totalSamples : Nat} {verified : Bool} {created : Nat}

private theorem asked_run (ops : List Op) : ((evaluation mode config totalSamples verified created).run ops).Asked
      (history mode config totalSamples verified created ops) := by
  apply Machine.history_invariant ControlState.Asked
  · exact ⟨(by rintro ⟨⟩), (by rintro ⟨⟩), .nil⟩
  · exact fun state past op asked => Asked.step op asked

private theorem honours_run {ops : List Op}
    (respects : (evaluation mode config totalSamples verified created).Respects ControlState.Undisturbed
      ops) : ((evaluation mode config totalSamples verified created).run ops).Honours
      (history mode config totalSamples verified created ops) := by
  apply Machine.guarded_history ControlState.Honours _ _ respects
  · exact ⟨(by rintro ⟨⟩), (by rintro ⟨⟩), .nil⟩
  · exact fun state past op honours undisturbed => Honours.step honours undisturbed

private theorem controlHonoured_of_respects {ops : List Op}
    (respects : (evaluation mode config totalSamples verified created).Respects ControlState.Undisturbed
      ops) : ControlHonoured mode config totalSamples verified created ops where
  cancelHonoured := by
    rintro first rest rfl due
    have honours := (honours_run respects.of_append).cancel due
    simpa [RunStatus.honoursCancel, or_assoc, statusAfterRun] using honours
  pauseHonoured := by
    rintro first rest rfl due
    have honours := (honours_run respects.of_append).pause due
    constructor
    · intro collected
      rw [statusAfterRun] at collected
      rw [collected] at honours
      cases honours
    · intro completed
      rw [statusAfterRun] at completed
      rw [completed] at honours
      cases honours
  raisedUnwritten := by
    rintro first rest call rfl raised written
    exact (honours_run respects.of_append).accounted.exclusive call ⟨_, raised, rfl⟩ ⟨_, written, rfl⟩

/-! ### Steps that break a promise -/

private theorem history_concat (ops : List Op) (op : Op) :
    history mode config totalSamples verified created (ops ++ [op]) =
      history mode config totalSamples verified created ops ++
        ((evaluation mode config totalSamples verified created).run ops).events op :=
  Machine.emitted_concat ControlState.events ops op

private theorem statusAfterRun_concat (ops : List Op) (op : Op) :
    statusAfterRun mode config totalSamples verified created (ops ++ [op]) =
      (((evaluation mode config totalSamples verified created).run ops).step op).run.status := by
  rw [statusAfterRun, Machine.run_concat]
  rfl

private theorem work_collects {controller : Nat} (now : Nat) {program : Work RunState} {verdict : String}
    (worker : state.workers controller = some program) (pending : program.pending = some (.markCollected verdict))
    (requested : state.run.status.isRequested = true) : (state.work controller now).run.status = .collected := by
  unfold ControlState.work
  rw [worker]
  dsimp only
  rw [pending]
  dsimp only
  have leads := (WorkerCall.markCollected verdict).status_apply state.run now
  have accepted : (WorkerCall.markCollected verdict).statusAfter state.run.status = some .collected := by
    rcases isRequested_iff.mp requested with status | status <;> rw [status] <;> rfl
  rw [accepted] at leads
  obtain ⟨after, answer, status⟩ := Option.map_eq_some_iff.mp leads
  rw [answer]
  exact status

private theorem undisturbed_of_honoured {ops before after : List Op} {op : Op}
    (honoured : ControlHonoured mode config totalSamples verified created ops) (split : ops = before ++ op :: after) :
    ((evaluation mode config totalSamples verified created).run before).Undisturbed op := by
  have asked : ((evaluation mode config totalSamples verified created).run before).Asked _ := asked_run before
  have taken : ops = (before ++ [op]) ++ after := by simp [split]
  have cancelled := honoured.cancelHonoured (before ++ [op]) after taken
  have paused := honoured.pauseHonoured (before ++ [op]) after taken
  have unwritten := fun call => honoured.raisedUnwritten (before ++ [op]) after call taken
  rw [history_concat] at cancelled paused unwritten
  rw [statusAfterRun_concat] at cancelled paused
  generalize history mode config totalSamples verified created before = past at *
  generalize (evaluation mode config totalSamples verified created).run before = state at *
  cases op with
  | work controller now =>
    simp only [ControlState.events, ControlState.perform, ControlState.step, List.append_nil] at cancelled paused
    simp only [ControlState.Undisturbed]
    cases worker : state.workers controller with
    | none => trivial
    | some =>
      rw [Option.bind_some]
      split
      · rename_i verdict pending
        by_contra free
        have requested : state.run.status.isRequested = true := by simpa using free
        have collected := work_collects now worker pending requested
        rw [collected] at cancelled paused
        rcases isRequested_iff.mp requested with status | status
        · exact (paused (asked.pause status)).1 rfl
        · simpa using cancelled (asked.cancel status)
      · trivial
  | loadForDisplay =>
    intro idle requested
    simp only [ControlState.events, ControlState.perform, ControlState.step] at cancelled
    rw [if_neg (by simpa using idle)] at cancelled
    rw [List.append_nil] at cancelled
    have due := cancelled (asked.cancel requested)
    simp [RunState.markOrphanedAsPaused, requested] at due
  | proceed call now outside =>
    simp only [ControlState.events, ControlState.perform, ControlState.proceed] at unwritten
    simp only [ControlState.Undisturbed]
    cases running : state.calls.phase call with
    | none => trivial
    | some phase =>
      have wrote : controlAccounts.committed phase → .wrote call ∈ past := by
        intro committed
        obtain ⟨event, member, effect⟩ := asked.backed call phase running committed
        cases event <;> cases effect
        exact member
      rw [running] at unwritten
      cases phase with
      | refreshing => trivial
      | scoringChecked => trivial
      | counting =>
        dsimp only at unwritten ⊢
        cases read : outside.counts with
        | some => rfl
        | none =>
          rw [read] at unwritten
          exact absurd (List.mem_append_left _ (wrote trivial)) (unwritten call (by simp))
      | requestingScoring =>
        dsimp only at unwritten ⊢
        cases done : state.run.requestScoring now with
        | ok =>
          unfold RunState.requestScoring at done
          split at done
          · rename_i status
            exact .inl status
          · rename_i status
            exact .inr status
          · cases done
        | error =>
          rw [done] at unwritten
          exact absurd (List.mem_append_left _ (wrote trivial)) (unwritten call (by simp))
      | starting controller =>
        dsimp only at unwritten ⊢
        cases busy : state.workers controller with
        | none => rfl
        | some =>
          rw [busy] at unwritten
          exact absurd (List.mem_append_left _ (wrote trivial)) (unwritten call (by simp))
  | _ => trivial

end Runs

/-- The requests are honoured in exactly the interleavings in which no worker collects a run whose pause or
cancellation is requested, no controller without a worker displays a run whose cancellation is requested, and
no call that has written meets an obstacle. -/
theorem controlHonoured_iff (mode : Mode) (config : Dict) (totalSamples : Nat) (verified : Bool)
    (created : Nat) (ops : List Op) : ControlHonoured mode config totalSamples verified created ops ↔
      (evaluation mode config totalSamples verified created).Respects ControlState.Undisturbed ops := by
  constructor
  · intro honoured before op after split
    exact undisturbed_of_honoured honoured split
  · exact controlHonoured_of_respects

/-! ### A cancellation at the end of the collection -/

/-- An execution without samples in which nothing raises. -/
def sampleExecution : Execution where
  counts := some { completedSamples := 0, successfulSamples := 0, failedSamples := 0 }
  samplesLoaded := true
  serviceBuilt := true
  publicMetadata := []
  preflightAnswered := true
  preflightErrors := none
  collection := []
  snapshotsLoaded := true
  manifestWritten := true
  manifest := none
  qcVerdict := some "pass"
  scoringPreflightAnswered := true
  scoringErrors := none
  totalItems := 0
  scoring := []
  scored := true
  scoringMetadata := []
  requestedWritten := true
  reportsWritten := true
  overtakenWritten := true
  failureWritten := true
  reportPath := "report.html"

/-- The worker has passed its last check when the user cancels the run. -/
def cancelledLate : List Op :=
  .start 0 sampleExecution :: List.replicate 11 (.work 0 1) ++ [.cancel 2, .work 0 3]

/-- The accepted cancellation is lost: the run is collected. -/
theorem cancellation_lost : ¬ ∀ mode config totalSamples verified created ops,
      ControlHonoured mode config totalSamples verified created ops := by
  intro always
  have honoured := always .online [] 0 true 0 cancelledLate
  have kept := honoured.cancelHonoured cancelledLate [] (List.append_nil _).symm (by decide)
  revert kept
  decide

end HardwareDatabase.Evaluation
