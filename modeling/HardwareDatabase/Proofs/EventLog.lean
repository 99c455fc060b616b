/-
Module: HardwareDatabase.Proofs.EventLog
Purpose: The execution events of a run are numbered from one without gaps, under distinct idempotency keys, and the
  log only grows.
Trusted boundary: none
-/
import HardwareDatabase.Proofs.HarnessSteps

namespace HardwareDatabase.Harness

open Relational

/-- The events of a run, in the order of the log. -/
def eventsOf (events : List ExecutionEvent) (runId : String) : List ExecutionEvent :=
  events.filter fun event => event.harnessRunId == runId

/-- The log is in order: the events of a run are numbered from one, and the ids and keys are unique. -/
structure LogOk (events : List ExecutionEvent) : Prop where
  numbered : ∀ runId, (eventsOf events runId).map ExecutionEvent.sequence = List.range' 1 (eventsOf events runId).length
  eventIds : UniqueOn ExecutionEvent.eventId events
  keys : UniqueOn (fun event : ExecutionEvent => (event.harnessRunId, event.idempotencyKey)) events

/-- An event that may be appended. -/
structure Tables.Accepts (tables : Tables) (event : ExecutionEvent) : Prop where
  sequence : event.sequence = tables.nextSequence event.harnessRunId
  eventId : ∀ other ∈ tables.events, other.eventId ≠ event.eventId
  key : ∀ other ∈ tables.events,
    (other.harnessRunId, other.idempotencyKey) ≠ (event.harnessRunId, event.idempotencyKey)

variable {sha256 : String → String} {state : ServiceState} {op : Op} {tables after : Tables}

/-! ### The next sequence number -/

private theorem foldr_max_range' {count top : Nat} (below : count ≤ top) :
    (List.range' 1 count).foldr max top = top := by
  induction count with
  | zero => rfl
  | succ count ih =>
    have last : max (1 + 1 * count) top = top := Nat.max_eq_right (by omega)
    rw [List.range'_concat, List.foldr_append, List.foldr_cons, List.foldr_nil, last]
    exact ih (by omega)

private theorem LogOk.nextSequence_eq (ok : LogOk tables.events) (runId : String) :
    tables.nextSequence runId = 1 + (eventsOf tables.events runId).length := by
  have column (rows : List ExecutionEvent) :
      rows.filterMap (fun event => some event.sequence) = rows.map ExecutionEvent.sequence :=
    congrFun (List.filterMap_eq_map (f := ExecutionEvent.sequence)) rows
  have largest : coalesceMax (fun event => some event.sequence) (eventsOf tables.events runId) =
      (eventsOf tables.events runId).length := by
    rw [coalesceMax, column, ok.numbered]
    cases (eventsOf tables.events runId).length with
    | zero => rfl
    | succ =>
      rw [List.range'_concat, List.foldr_append]
      exact (foldr_max_range' (by simp)).trans (by simp; omega)
  rw [Tables.nextSequence, Nat.add_comm]
  exact congrArg (1 + ·) largest

/-! ### What an operation appends -/

private theorem accepts_of_putEvent {event : ExecutionEvent} (done : tables.putEvent event = .ok after)
    (sequence : event.sequence = tables.nextSequence event.harnessRunId) : tables.Accepts event := by
  unfold Tables.putEvent at done
  split at done
  · cases done
  · rename_i unused
    split at done
    · cases done
    · simp only [Tables.event?, List.find?_isSome, Bool.or_eq_true, List.any_eq_true, Bool.and_eq_true,
        beq_iff_eq, not_or, not_exists, not_and] at unused
      refine ⟨sequence, unused.1, ?_⟩
      rintro other member same
      obtain ⟨sameRun, sameKey⟩ := Prod.mk.inj same
      exact unused.2 other member sameRun sameKey

/-- An operation appends no event, or one that is accepted. -/
theorem attempt_events (done : state.attempt sha256 op = .ok after) : after.events = state.tables.events ∨
    ∃ event, state.tables.Accepts event ∧ after.events = state.tables.events ++ [event] := by
  cases op with
  | tick =>
    cases done
    exact .inl rfl
  | createRun =>
    obtain ⟨-, rfl⟩ := createRun_cases done
    exact .inl rfl
  | claim =>
    obtain ⟨current, -, rfl⟩ := claim_cases done
    exact .inl rfl
  | update | heartbeat =>
    obtain ⟨current, -, -, rfl⟩ := update_cases done
    exact .inl rfl
  | saveCheckpoint =>
    obtain ⟨-, rows, -, -, rfl⟩ := saveCheckpoint_cases done
    exact .inl rfl
  | beginNode =>
    simp only [ServiceState.attempt] at done
    obtain ⟨⟨result, later⟩, begun, rfl⟩ := exists_of_map_eq_ok done
    obtain ⟨-, -, -, ⟨-, -, rfl⟩ | ⟨existing, -, -, rfl⟩ | put⟩ := beginNode_cases begun
    · exact .inl rfl
    · exact .inl rfl
    · obtain ⟨-, rfl⟩ := putReceipt_cases put
      exact .inl rfl
  | commitNode =>
    simp only [ServiceState.attempt] at done
    obtain ⟨⟨result, later⟩, committed, rfl⟩ := exists_of_map_eq_ok done
    obtain ⟨-, current, -, -, -, ⟨-, -, rfl⟩ | ⟨-, rfl⟩⟩ := commitNode_cases committed
    · exact .inl rfl
    · exact .inl rfl
  | failNode =>
    obtain ⟨-, current, -, -, -, rfl⟩ := failNode_cases done
    exact .inl rfl
  | saveDrafts =>
    obtain ⟨-, rows, rfl⟩ := saveDrafts_cases done
    exact .inl rfl
  | appendEvent =>
    simp only [ServiceState.attempt] at done
    obtain ⟨⟨answer, later⟩, appended, rfl⟩ := exists_of_map_eq_ok done
    unfold appendExecutionEvent at appended
    split at appended
    · cases appended
      exact .inl rfl
    · obtain ⟨next, put, appended⟩ := exists_of_bind_eq_ok appended
      cases appended
      obtain ⟨-, rfl⟩ := putEvent_cases put
      exact .inr ⟨_, accepts_of_putEvent put rfl, rfl⟩
  | requestState =>
    obtain ⟨current, -, rfl⟩ := requestState_cases done
    exact .inl rfl
  | queueRetry =>
    obtain ⟨current, -, rfl⟩ := queueRetry_cases done
    exact .inl rfl
  | resolve =>
    simp only [ServiceState.attempt] at done
    obtain ⟨⟨answer, event, later⟩, resolved, rfl⟩ := exists_of_map_eq_ok done
    obtain ⟨decision, eventKey, current, -, found, ⟨-, -, rfl⟩ | ⟨-, pending, -, rfl, rfl, put⟩⟩ :=
      resolve_cases resolved
    · exact .inl rfl
    · -- the run is rewritten first, which no event sees
      obtain ⟨sequence, eventId, key⟩ := accepts_of_putEvent put rfl
      obtain ⟨-, rfl⟩ := putEvent_cases put
      exact .inr ⟨_, ⟨sequence, eventId, key⟩, rfl⟩

/-! ### Whole runs -/

private theorem LogOk.append (ok : LogOk tables.events) {event : ExecutionEvent} (accepts : tables.Accepts event) :
    LogOk (tables.events ++ [event]) where
  numbered := by
    intro runId
    by_cases own : event.harnessRunId = runId
    · subst own
      have appended : eventsOf (tables.events ++ [event]) event.harnessRunId =
          eventsOf tables.events event.harnessRunId ++ [event] := by
        simp [eventsOf, List.filter_append]
      rw [appended, List.map_append, ok.numbered, List.length_append, List.length_singleton,
        List.range'_concat, List.map_singleton, accepts.sequence, ok.nextSequence_eq, Nat.one_mul]
    · have same : eventsOf (tables.events ++ [event]) runId = eventsOf tables.events runId := by
        simp [eventsOf, List.filter_append, own]
      rw [same]
      exact ok.numbered runId
  eventIds := ok.eventIds.append accepts.eventId
  keys := ok.keys.append accepts.key

private theorem logOk_step (ok : LogOk state.tables.events) (op : Op) : LogOk (state.step sha256 op).tables.events := by
  cases outcome : state.attempt sha256 op with
  | error =>
    rw [step_of_error outcome]
    exact ok
  | ok =>
    rw [step_of_ok outcome]
    rcases attempt_events outcome with same | ⟨event, accepts, events⟩
    · rwa [same]
    · rw [events]
      exact ok.append accepts

/-- In every run the events of each harness run are numbered one, two, three and so on in the order of the log,
no event id and no idempotency key of a run is used twice, and what is in the log once stays at its place. -/
theorem event_log_has_no_gaps (sha256 : String → String) (first second : List Op) :
    LogOk ((harness sha256).run first).tables.events ∧
      ((harness sha256).run first).tables.events <+: ((harness sha256).run (first ++ second)).tables.events := by
  constructor
  · apply Machine.invariant fun state : ServiceState => LogOk state.tables.events
    · exact ⟨fun _ => rfl, List.nodup_nil, List.nodup_nil⟩
    · exact fun state op ok => logOk_step ok op
  · apply Machine.stable fun state : ServiceState =>
      ((harness sha256).run first).tables.events <+: state.tables.events
    · intro before op grown
      obtain ⟨added, events⟩ := (step_written sha256 ((harness sha256).run before) op).events
      exact grown.trans ⟨added, events.symm⟩
    · exact List.prefix_rfl

end HardwareDatabase.Harness
