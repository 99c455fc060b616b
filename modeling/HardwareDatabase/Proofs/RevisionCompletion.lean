/-
Module: HardwareDatabase.Proofs.RevisionCompletion
Purpose: A revision is completed once: what a step can do to the row, the calls and the history (`State.Effect`), and
  what follows for whole runs.
Trusted boundary: none
-/
import HardwareDatabase.Revisions.Service

namespace HardwareDatabase.Revisions

open Python (strip Value Dict)
open Relational

/-- What a completion decides: the child, the status and the result. -/
structure Outcome where
  childArtifactId : Option String
  revalidationStatus : RevalidationStatus
  revalidationResult : Dict

def ArtifactRevision.outcome (revision : ArtifactRevision) : Outcome :=
  { childArtifactId := revision.childArtifactId, revalidationStatus := revision.revalidationStatus,
    revalidationResult := revision.revalidationResult }

/-- The child that a completion has marked as current and not recorded yet. -/
def State.offersCurrent (state : State) (call : Nat) : Option String :=
  match state.calls.phase call with
  | some (.marked _ prepared true) => if prepared.status = .passed then some prepared.childId else none
  | _ => none

/-- The child of a completion is the only one that can become current: the row is not bound to another one,
and no other completion has marked another one. -/
def State.Alone (state : State) (prepared : Prepared) : Prop :=
  state.revision.boundElsewhere prepared.childId = false ∧
    ∀ other < state.calls.next, ∀ childId ∈ state.offersCurrent other, childId = prepared.childId

instance decidableAlone (state : State) (prepared : Prepared) : Decidable (state.Alone prepared) :=
  inferInstanceAs (Decidable (_ ∧ _))

/-- A write finds the outcome that its call has read, the record of a completion that has changed its child
included; and a child is marked as current by one completion at a time. -/
def State.Undisturbed (state : State) : Op → Prop
  | .proceed call _ =>
    match state.calls.phase call with
    | some (.statusRead _ view) => state.revision.outcome = view.outcome
    | some (.childRead _ view) => state.revision.outcome = view.outcome
    | some (.inspected _ prepared) => prepared.status = .passed → state.Alone prepared
    | some (.marked view _ changed) => changed = true → state.revision.outcome = view.outcome
    | _ => True
  | _ => True

section Runs

variable (env : Environment) (identity : RevisionIdentity) (created : Nat) (artifacts : List Artifact)

/-- The row after a run. -/
def rowAfter (ops : List Op) : ArtifactRevision :=
  ((completions env identity created artifacts).run ops).revision

/-- The events of a run. -/
def history (ops : List Op) : List Event :=
  (completions env identity created artifacts).emitted (State.events env) ops

/-- The revision is completed once over a run: a recorded outcome stays, one child is bound at most, a
refused completion has not changed its child, and one child at most is marked as current. -/
structure CompletedOnce (ops : List Op) : Prop where
  recordedStays : ∀ first second rest, ops = first ++ second ++ rest →
    (rowAfter env identity created artifacts first).revalidationStatus ≠ .pending →
    (rowAfter env identity created artifacts (first ++ second)).outcome =
      (rowAfter env identity created artifacts first).outcome
  oneChild : ∀ first second rest childId other, ops = first ++ second ++ rest →
    (rowAfter env identity created artifacts first).childArtifactId = some childId →
    (rowAfter env identity created artifacts (first ++ second)).childArtifactId = some other →
    other = childId
  refusedUnmarked : ∀ call childId validity,
    .refused call ∈ history env identity created artifacts ops →
    .marked call childId validity ∉ history env identity created artifacts ops
  oneCurrent : ∀ call other childId otherId,
    .marked call childId .current ∈ history env identity created artifacts ops →
    .marked other otherId .current ∈ history env identity created artifacts ops → otherId = childId

end Runs

/-! ### The row -/

/-- The row keeps its outcome, or is bound to a child that it does not refuse and keeps a recorded result. -/
def Advances (before after : ArtifactRevision) : Prop :=
  after.outcome = before.outcome ∨
    ∃ childId, before.boundElsewhere childId = false ∧ after.childArtifactId = some childId ∧
      (before.revalidationStatus ≠ .pending →
        after.revalidationStatus = before.revalidationStatus ∧
          after.revalidationResult = before.revalidationResult)

private theorem Advances.of_eq {before after : ArtifactRevision} (same : after.outcome = before.outcome) :
    Advances before after :=
  .inl same

variable {childId : String}

private theorem Advances.keepsChild {before after : ArtifactRevision}
    (advances : Advances before after) (bound : before.childArtifactId = some childId) :
    after.childArtifactId = some childId := by
  rcases advances with same | ⟨other, free, now, -⟩
  · have child := congrArg Outcome.childArtifactId same
    exact child.trans bound
  · rw [now, ArtifactRevision.eq_of_boundElsewhere free bound]

private theorem Advances.keepsOutcome {before after : ArtifactRevision} (advances : Advances before after)
    (recorded : before.revalidationStatus ≠ .pending) (bound : before.childArtifactId.isSome) :
    after.outcome = before.outcome := by
  obtain ⟨childId, child⟩ := Option.isSome_iff_exists.mp bound
  have kept := advances.keepsChild child
  rcases advances with same | ⟨other, free, now, result⟩
  · exact same
  · obtain ⟨status, value⟩ := result recorded
    simp only [ArtifactRevision.outcome, kept, child, status, value]

/-- A row with a result is bound to a child. -/
def ArtifactRevision.BoundIfRecorded (revision : ArtifactRevision) : Prop :=
  revision.revalidationStatus ≠ .pending → revision.childArtifactId.isSome

private theorem Advances.keepsBound {before after : ArtifactRevision} (advances : Advances before after)
    (bound : before.BoundIfRecorded) : after.BoundIfRecorded := by
  rcases advances with same | ⟨childId, -, now, -⟩
  · intro recorded
    have status := congrArg Outcome.revalidationStatus same
    have child := congrArg Outcome.childArtifactId same
    simp only [ArtifactRevision.outcome] at status child
    rw [child]
    exact bound (status ▸ recorded)
  · intro _
    rw [now]
    rfl

variable {row view : ArtifactRevision}

private theorem advances_withStatus (fresh : row.outcome = view.outcome)
    (status : String) (now : Nat) : Advances row (view.withStatus status now) :=
  .of_eq fresh.symm

private theorem advances_withChild
    (fresh : row.outcome = view.outcome) (checked : checkChildArtifact view childId = .ok ()) (now : Nat) :
    Advances row (view.withChild childId now) := by
  have child := congrArg Outcome.childArtifactId fresh
  have status := congrArg Outcome.revalidationStatus fresh
  have result := congrArg Outcome.revalidationResult fresh
  simp only [ArtifactRevision.outcome] at child status result
  have free : view.boundElsewhere childId = false := by
    unfold checkChildArtifact at checked
    split at checked
    · cases checked
    · rename_i free
      simpa using free
  refine .inr ⟨childId, ?_, rfl, fun _ => ⟨status.symm, result.symm⟩⟩
  simpa only [ArtifactRevision.boundElsewhere, child] using free

variable {now : Nat}

private theorem advances_record {after : ArtifactRevision} {status : RevalidationStatus}
    {result : Dict} (done : recordRevalidation row childId status result now = .ok after) : Advances row after := by
  obtain ⟨free, ⟨-, rfl⟩ | ⟨pending, child⟩⟩ := recordRevalidation_ok done
  · exact .of_eq rfl
  · exact .inr ⟨childId, free, child, fun recorded => absurd pending recorded⟩

private theorem child_of_record {after : ArtifactRevision} {status : RevalidationStatus}
    {result : Dict} (bound : row.BoundIfRecorded)
    (done : recordRevalidation row childId status result now = .ok after) : after.childArtifactId = some childId := by
  obtain ⟨free, ⟨recorded, rfl⟩ | ⟨-, child⟩⟩ := recordRevalidation_ok done
  · obtain ⟨other, present⟩ := Option.isSome_iff_exists.mp (bound recorded)
    rw [present, ArtifactRevision.eq_of_boundElsewhere free present]
  · exact child

/-! ### Checked completions

A completion decides on the revision that it has read. What it has checked there is what
`record_revalidation` asks of the row, so a row with the same outcome takes the result. -/

/-- What the checks of a completion have found of the revision that it has read. -/
structure Recordable (view : ArtifactRevision) (prepared : Prepared) : Prop where
  named : prepared.childId ≠ ""
  decided : prepared.status ≠ .pending
  free : view.boundElsewhere prepared.childId = false
  pending : view.revalidationStatus = .pending

variable {prepared : Prepared}

private theorem Recordable.accepted (recordable : Recordable view prepared) (fresh : row.outcome = view.outcome)
    (now : Nat) :
    ∃ after, recordRevalidation row prepared.childId prepared.status prepared.result now = .ok after := by
  have child := congrArg Outcome.childArtifactId fresh
  have status := congrArg Outcome.revalidationStatus fresh
  simp only [ArtifactRevision.outcome] at child status
  have free : row.boundElsewhere prepared.childId = false := by
    simpa only [ArtifactRevision.boundElsewhere, child] using recordable.free
  obtain ⟨revisionStatus, decided⟩ : ∃ text, revisionStatusByRevalidation prepared.status = some text := by
    cases decision : prepared.status with
    | pending => exact absurd decision recordable.decided
    | _ => exact ⟨_, rfl⟩
  simp [recordRevalidation, recordable.named, decided, free, status, recordable.pending]

private theorem withReport_decided {key code : String} {report : Option Dict} {outcome : RevalidationStatus × Dict}
    (decided : outcome.1 ≠ .pending) : (withReport key code report outcome).1 ≠ .pending := by
  unfold withReport
  split
  · exact decided
  · dsimp only
    split
    · exact decided
    · exact nofun

variable {request : Request}

private theorem reported_decided (decided : request.revalidationStatus ≠ .pending)
    (result : Dict) : (request.reported result).1 ≠ .pending :=
  withReport_decided (withReport_decided decided)

/-- A completion that is to be applied names a child and has decided. -/
theorem applyChildBinding_recordable {applied : Prepared}
    (bound : view.BoundIfRecorded) (named : prepared.childId ≠ "") (decided : prepared.status ≠ .pending)
    (done : applyChildBinding view prepared = .ok (some applied)) : Recordable view applied := by
  unfold applyChildBinding at done
  split at done
  · rename_i unbound
    cases done
    refine ⟨named, decided, by simp_all [ArtifactRevision.boundElsewhere], ?_⟩
    by_contra recorded
    have isBound := bound recorded
    simp_all
  · split at done
    · cases done
    · rename_i free
      split at done
      · rename_i pending
        cases done
        exact ⟨named, decided, by simpa using free, pending⟩
      · split at done <;> cases done

variable {env : Environment}

private theorem completeRevision_prepared {artifacts : List Artifact}
    (done : completeRevision env artifacts view childId request = .ok prepared) :
    prepared.childId ≠ "" ∧ prepared.status ≠ .pending := by
  unfold completeRevision at done
  split at done
  · cases done
  rename_i decided
  split at done
  · cases done
  rename_i named
  split at done
  · cases done
  rename_i child found
  split at done
  · cases done
  split at done
  · cases done
  split at done
  · cases done
  split at done
  · cases done
  · cases done
  · cases done
    have here : child.artifactId = strip childId := by simpa using List.find?_some found
    exact ⟨by rw [here, Python.strip_strip]; exact named, reported_decided decided _⟩

private theorem bindGeneratedChild_prepared {child : Artifact}
    (done : bindGeneratedChild env view child request = .ok prepared) :
    prepared.childId ≠ "" ∧ prepared.status ≠ .pending := by
  unfold bindGeneratedChild at done
  split at done
  · cases done
  rename_i decided
  split at done
  · cases done
  rename_i named
  split at done
  · cases done
  split at done
  · cases done
  split at done
  · cases done
  · cases done
    exact ⟨named, reported_decided decided _⟩

/-- A completion that goes on to its mark can be recorded on the revision that it has read. -/
theorem inspect_recordable {artifacts : List Artifact} {completion : Completion} (bound : view.BoundIfRecorded)
    (done : inspect env artifacts view completion = .ok (some prepared)) : Recordable view prepared := by
  cases completion with
  | completeRevision childId request =>
    simp only [inspect] at done
    cases checked : completeRevision env artifacts view childId request with
    | error => simp [checked, Except.bind] at done
    | ok =>
      obtain ⟨named, decided⟩ := completeRevision_prepared checked
      rw [checked] at done
      exact applyChildBinding_recordable bound named decided done
  | bindGeneratedChild child request =>
    simp only [inspect] at done
    cases checked : bindGeneratedChild env view child request with
    | error => simp [checked, Except.bind] at done
    | ok =>
      obtain ⟨named, decided⟩ := bindGeneratedChild_prepared checked
      rw [checked] at done
      exact applyChildBinding_recordable bound named decided done

/-! ### Steps

`State.Effect` lists what a step can do; every later fact about runs is derived from it. -/

/-- A phase in which the child has not been marked. -/
def Phase.unmarked : Phase → Bool
  | .marked _ _ _ => false
  | _ => true

/-- What a call keeps of its reading is fit to be recorded. -/
def Phase.Fit : Phase → Prop
  | .revisionRead _ view => view.BoundIfRecorded
  | .inspected view prepared | .marked view prepared _ => Recordable view prepared
  | _ => True

/-- A row with a result is bound, and the calls have checked what they go on with. -/
structure State.Sound (state : State) : Prop where
  bound : state.revision.BoundIfRecorded
  fit : ∀ call phase, state.calls.phase call = some phase → phase.Fit

/-- What an undisturbed step does to the state, and the events that it emits. -/
inductive State.Effect (before after : State) (events : List Event) : Prop
  | idle (same : after = before) (silent : events = [])
  | begins (phase : Phase) (calls : after.calls = before.calls.enter (some phase))
      (fit : before.revision.BoundIfRecorded → phase.Fit) (row : after.revision = before.revision)
      (silent : events = [])
  | proceeds (call : Nat) (old : Phase) (new : Option Phase) (was : before.calls.phase call = some old)
      (unmarked : old.unmarked = true) (calls : after.calls = before.calls.moveTo call new)
      (fit : ∀ phase ∈ new, before.revision.BoundIfRecorded → phase.Fit)
      (row : Advances before.revision after.revision)
      (emitted : events = [] ∨ events = [.refused call] ∧ new = none)
  | marks (call : Nat) (old : Phase) (view : ArtifactRevision) (prepared : Prepared) (changed : Bool)
      (validity : ValidityStatus) (was : before.calls.phase call = some old) (unmarked : old.unmarked = true)
      (calls : after.calls = before.calls.moveTo call (some (.marked view prepared changed)))
      (row : after.revision = before.revision) (fit : Recordable view prepared)
      (alone : validity = .current → prepared.status = .passed ∧ before.Alone prepared)
      (emitted : events = if changed then [.marked call prepared.childId validity] else [])
  | records (call : Nat) (view : ArtifactRevision) (prepared : Prepared) (changed : Bool)
      (was : before.calls.phase call = some (.marked view prepared changed))
      (calls : after.calls = before.calls.moveTo call none)
      (row : Advances before.revision after.revision)
      (child : before.revision.BoundIfRecorded →
        after.revision.childArtifactId = some prepared.childId)
      (silent : events = [])
  | refuses (call : Nat) (view : ArtifactRevision) (prepared : Prepared)
      (was : before.calls.phase call = some (.marked view prepared false))
      (calls : after.calls = before.calls.moveTo call none)
      (row : after.revision = before.revision) (emitted : events = [.refused call])

variable {events : List Event}

section Steps

variable {env : Environment} {state : State}

private theorem ends_effect {call : Nat} {old : Phase}
    (was : state.calls.phase call = some old) (unmarked : old.unmarked = true)
    (advances : Advances state.revision row) (emitted : events = [] ∨ events = [.refused call]) :
    state.Effect { state.moveTo call none with revision := row } events :=
  .proceeds call old none was unmarked rfl (by simp) advances (emitted.imp_right fun refused => ⟨refused, rfl⟩)

private theorem moves_effect {call : Nat} {old new : Phase} (was : state.calls.phase call = some old)
    (unmarked : old.unmarked = true) (fit : state.revision.BoundIfRecorded → new.Fit) :
    state.Effect (state.moveTo call (some new)) [] := by
  refine .proceeds call old (some new) was unmarked rfl ?_ (.of_eq rfl) (.inl rfl)
  rintro phase ⟨⟩
  exact fit

private theorem passed_of_current
    (current : (prepared.lifecycle env view).validityStatus = .current) : prepared.status = .passed := by
  by_contra other
  simp [Prepared.lifecycle, other] at current

private theorem proceed_effect {call : Nat} (sound : state.Sound) (undisturbed : state.Undisturbed (.proceed call now)) :
    state.Effect (state.proceed env call now) (state.proceedEvents env call now) := by
  unfold State.proceed State.proceedEvents
  simp only [State.Undisturbed] at undisturbed
  cases was : state.calls.phase call with
  | none => exact .idle rfl rfl
  | some phase =>
    rw [was] at undisturbed
    have fit := sound.fit call phase was
    cases phase with
    | releasing => exact moves_effect was rfl fun _ => trivial
    | statusRead status =>
      exact ends_effect was rfl (advances_withStatus undisturbed status now) (.inl rfl)
    | childRead childId view =>
      dsimp only
      cases checked : checkChildArtifact view childId with
      | error => exact ends_effect was rfl (.of_eq rfl) (.inl rfl)
      | ok => exact ends_effect was rfl (advances_withChild undisturbed checked now) (.inl rfl)
    | revisionRead completion view =>
      dsimp only
      cases inspected : inspect env state.artifacts view completion with
      | error => exact ends_effect was rfl (.of_eq rfl) (.inr rfl)
      | ok found =>
        cases found with
        | none => exact ends_effect was rfl (.of_eq rfl) (.inl rfl)
        | some =>
          exact moves_effect was rfl fun _ => inspect_recordable fit inspected
    | inspected view prepared =>
      dsimp only
      cases state.mark env view prepared with
      | error => exact ends_effect was rfl (.of_eq rfl) (.inr rfl)
      | ok =>
        refine .marks call _ view prepared _ (prepared.lifecycle env view).validityStatus was rfl rfl
          rfl fit ?_ rfl
        intro current
        have passed := passed_of_current current
        exact ⟨passed, undisturbed passed⟩
    | marked view prepared changed =>
      dsimp only
      cases done : recordRevalidation state.revision prepared.childId prepared.status prepared.result
          now with
      | error failure =>
        -- the row is as the checks have found it, if the child was changed
        have unchanged : changed = false := by
          by_contra changes
          have fresh := undisturbed (by simpa using changes)
          obtain ⟨row, accepted⟩ := Recordable.accepted fit fresh now
          rw [done] at accepted
          cases accepted
        subst unchanged
        exact .refuses call view prepared was rfl rfl rfl
      | ok row =>
        exact .records call view prepared changed was rfl (advances_record done)
          (fun bound => child_of_record bound done) rfl

private theorem step_effect {op : Op} (sound : state.Sound) (undisturbed : state.Undisturbed op) :
    state.Effect (state.step env op) (state.events env op) := by
  cases op with
  | updateStatus | bindChildArtifact =>
    simp only [State.step, State.events]
    split
    · exact .idle rfl rfl
    · exact .begins _ rfl (fun _ => trivial) rfl rfl
  | markReleased =>
    simp only [State.step, State.events]
    split
    · exact .begins _ rfl (fun _ => trivial) rfl rfl
    · exact .idle rfl rfl
  | complete => exact .begins _ rfl id rfl rfl
  | proceed => exact proceed_effect sound undisturbed

private theorem State.Effect.advances {before after : State}
    (effect : before.Effect after events) : Advances before.revision after.revision := by
  cases effect with
  | idle same => exact .of_eq (by rw [same])
  | begins phase calls fit row => exact .of_eq (by rw [row])
  | proceeds call old new was unmarked calls fit row => exact row
  | marks call old view prepared changed validity was unmarked calls row =>
    exact .of_eq (by rw [row])
  | records call view prepared changed was calls row => exact row
  | refuses call view prepared was calls row => exact .of_eq (by rw [row])

/-- A call that goes on with something fit leaves the other calls as they were. -/
theorem fit_of_moveTo {before after : State} {call : Nat} {new : Option Phase} (sound : before.Sound)
    (calls : after.calls = before.calls.moveTo call new) (fit : ∀ phase ∈ new, phase.Fit) (other : Nat)
    (phase : Phase) (running : after.calls.phase other = some phase) : phase.Fit := by
  rw [calls] at running
  by_cases same : other = call
  · subst same
    rw [Calls.phase_moveTo_self] at running
    exact fit phase running
  · rw [Calls.phase_moveTo_of_ne _ same] at running
    exact sound.fit other phase running

private theorem State.Effect.sound {before after : State}
    (effect : before.Effect after events) (sound : before.Sound) : after.Sound := by
  refine ⟨effect.advances.keepsBound sound.bound, ?_⟩
  cases effect with
  | idle same =>
    rw [same]
    exact sound.fit
  | begins phase calls fit =>
    intro call running there
    rw [calls] at there
    by_cases same : call = before.calls.next
    · subst same
      rw [Calls.phase_enter_self] at there
      cases there
      exact fit sound.bound
    · rw [Calls.phase_enter_of_ne _ same] at there
      exact sound.fit call running there
  | proceeds call old new was unmarked calls fit =>
    exact fit_of_moveTo sound calls fun phase next => fit phase next sound.bound
  | marks call old view prepared changed validity was unmarked calls row fit =>
    refine fit_of_moveTo sound calls ?_
    rintro phase ⟨⟩
    exact fit
  | records call view prepared changed was calls =>
    exact fit_of_moveTo sound calls (by simp)
  | refuses call view prepared was calls => exact fit_of_moveTo sound calls (by simp)

end Steps

/-! ### Histories -/

/-- A mark that changes the child is the effect of a completion. -/
def completionAccounts : Calls.Accounts Phase Event where
  acts
    | .marked call _ _ => some call
    | .refused _ => none
  refuses
    | .marked _ _ _ => none
    | .refused call => some call
  committed phase := ∃ view prepared, phase = .marked view prepared true

/-- What holds of the state and of the events before it, when no step was disturbed. -/
structure State.Settled (state : State) (events : List Event) : Prop where
  accounted : state.calls.Accounted completionAccounts events
  -- the child that is current is bound, or is about to be
  offered : ∀ call childId, .marked call childId .current ∈ events →
    state.revision.childArtifactId = some childId ∨ ∃ other, state.offersCurrent other = some childId
  oneCurrent : ∀ call other childId otherId, .marked call childId .current ∈ events →
    .marked other otherId .current ∈ events → otherId = childId

section Histories

variable {before after : State} {events : List Event}

private theorem offersCurrent_congr {call : Nat} (same : after.calls.phase call = before.calls.phase call) :
    after.offersCurrent call = before.offersCurrent call := by
  simp only [State.offersCurrent, same]

private theorem not_unmarked_of_offersCurrent {call : Nat} {phase : Phase}
    (offers : before.offersCurrent call = some childId) (was : before.calls.phase call = some phase) :
    phase.unmarked = false := by
  rw [State.offersCurrent, was] at offers
  cases phase with
  | marked => rfl
  | _ => cases offers

private theorem uncommitted_of_unmarked {phase : Phase} (unmarked : phase.unmarked = true) :
    ¬ completionAccounts.committed phase := by
  rintro ⟨view, prepared, rfl⟩
  cases unmarked

section

variable (settled : before.Settled events)
include settled

private theorem State.Settled.begins {phase : Phase}
    (calls : after.calls = before.calls.enter (some phase)) (row : after.revision = before.revision) :
    after.Settled events where
  accounted := by rw [calls]; exact settled.accounted.enter (some phase)
  offered := by
    intro call childId member
    rw [row]
    refine (settled.offered call childId member).imp_right ?_
    rintro ⟨other, offers⟩
    refine ⟨other, ?_⟩
    rw [offersCurrent_congr ?_, offers]
    rw [calls, Calls.phase_enter_of_ne]
    rintro rfl
    rw [State.offersCurrent, settled.accounted.fresh before.calls.next (Nat.le_refl _)] at offers
    cases offers
  oneCurrent := settled.oneCurrent

/-- A call that goes on or ends leaves the history as it was, if it keeps its mark and binds what it
offers. -/
theorem State.Settled.moves {call : Nat} {old : Phase} {new : Option Phase} (was : before.calls.phase call = some old)
    (calls : after.calls = before.calls.moveTo call new) (row : Advances before.revision after.revision)
    (keepsMark : completionAccounts.Acted events call → new = none)
    (keepsOffer : ∀ childId, before.offersCurrent call = some childId →
      after.revision.childArtifactId = some childId) : after.Settled events where
  accounted := by
    rw [calls]
    refine settled.accounted.moveTo was ?_
    intro acted phase next
    rw [keepsMark acted] at next
    cases next
  offered := by
    intro other childId member
    rcases settled.offered other childId member with child | ⟨offering, offers⟩
    · exact .inl (row.keepsChild child)
    · by_cases same : offering = call
      · subst same
        exact .inl (keepsOffer childId offers)
      · refine .inr ⟨offering, ?_⟩
        rw [offersCurrent_congr ?_, offers]
        rw [calls, Calls.phase_moveTo_of_ne _ same]
  oneCurrent := settled.oneCurrent

private theorem State.Settled.refuse {call : Nat} (ended : before.calls.phase call = none)
    (begun : call < before.calls.next)
    (unmarked : ¬ completionAccounts.Acted events call) : before.Settled (events ++ [.refused call]) := by
  have marks : ∀ {other childId validity}, .marked other childId validity ∈ events ++ [.refused call] →
      .marked other childId validity ∈ events := by
    intro other childId validity member
    simpa using member
  exact
    { accounted := settled.accounted.refuse rfl rfl begun ended unmarked
      offered := fun other childId member => settled.offered other childId (marks member)
      oneCurrent := fun one another childId otherId first second =>
        settled.oneCurrent one another childId otherId (marks first) (marks second) }

private theorem State.Settled.mark {call : Nat} {validity : ValidityStatus}
    (running : before.calls.phase call = some (.marked view prepared true))
    (passed : validity = .current → prepared.status = .passed)
    (alone : validity = .current → ∀ other childId, .marked other childId .current ∈ events →
      childId = prepared.childId) : before.Settled (events ++ [.marked call prepared.childId validity]) := by
  -- the children that are marked as current are those from before, and this one
  have currents : ∀ {other childId},
      .marked other childId .current ∈ events ++ [.marked call prepared.childId validity] →
      .marked other childId .current ∈ events ∨
        other = call ∧ childId = prepared.childId ∧ validity = .current := by
    intro other childId member
    rcases List.mem_append.mp member with earlier | last
    · exact .inl earlier
    · cases List.mem_singleton.mp last
      exact .inr ⟨rfl, rfl, rfl⟩
  refine
    { accounted := settled.accounted.act rfl rfl (settled.accounted.fresh.lt_next running) ?_ ?_
      offered := ?_
      oneCurrent := ?_ }
  · intro refused
    have ended := settled.accounted.ended call refused
    rw [running] at ended
    cases ended
  · intro phase now
    rw [running] at now
    exact ⟨view, prepared, (Option.some.inj now).symm⟩
  · intro other childId member
    rcases currents member with earlier | ⟨rfl, rfl, current⟩
    · exact settled.offered other childId earlier
    · refine .inr ⟨other, ?_⟩
      simp only [State.offersCurrent, running, passed current, if_true]
  · intro one another childId otherId first second
    rcases currents first with earlier | ⟨-, rfl, current⟩
    · rcases currents second with too | ⟨-, rfl, current⟩
      · exact settled.oneCurrent one another childId otherId earlier too
      · exact (alone current one childId earlier).symm
    · rcases currents second with too | ⟨-, rfl, -⟩
      · exact alone current another otherId too
      · rfl

private theorem State.Settled.eq_of_alone {call : Nat} (alone : before.Alone prepared)
    (member : .marked call childId .current ∈ events) : childId = prepared.childId := by
  rcases settled.offered call childId member with child | ⟨other, offers⟩
  · exact ArtifactRevision.eq_of_boundElsewhere alone.1 child
  · refine alone.2 other ?_ childId offers
    by_contra late
    rw [State.offersCurrent, settled.accounted.fresh other (Nat.le_of_not_lt late)] at offers
    cases offers

private theorem State.Settled.step {emitted : List Event} (sound : before.Sound)
    (effect : before.Effect after emitted) : after.Settled (events ++ emitted) := by
  cases effect with
  | idle same silent =>
    rw [same, silent, List.append_nil]
    exact settled
  | begins phase calls fit row silent =>
    rw [silent, List.append_nil]
    exact settled.begins calls row
  | proceeds call old new was unmarked calls fit row emits =>
    have inert : ¬ completionAccounts.Acted events call :=
      settled.accounted.not_acted was (uncommitted_of_unmarked unmarked)
    have moved : after.Settled events := by
      refine settled.moves was calls row (fun acted => absurd acted inert) ?_
      intro childId offers
      rw [not_unmarked_of_offersCurrent offers was] at unmarked
      cases unmarked
    rcases emits with silent | ⟨refused, ends⟩
    · rw [silent, List.append_nil]
      exact moved
    · rw [refused]
      refine moved.refuse ?_ ?_ inert
      · rw [calls, Calls.phase_moveTo_self, ends]
      · rw [calls]
        exact settled.accounted.fresh.lt_next was
  | marks call old view prepared changed validity was unmarked calls row fit alone emits =>
    have inert : ¬ completionAccounts.Acted events call :=
      settled.accounted.not_acted was (uncommitted_of_unmarked unmarked)
    have moved : after.Settled events := by
      refine settled.moves was calls (.of_eq (by rw [row])) (fun acted => absurd acted inert) ?_
      intro childId offers
      rw [not_unmarked_of_offersCurrent offers was] at unmarked
      cases unmarked
    rw [emits]
    cases changed with
    | false =>
      rw [if_neg (by decide), List.append_nil]
      exact moved
    | true =>
      rw [if_pos rfl]
      have marked : after.calls.phase call = some (.marked view prepared true) := by
        rw [calls, Calls.phase_moveTo_self]
      refine moved.mark marked (fun current => (alone current).1) ?_
      intro current other childId member
      exact settled.eq_of_alone (alone current).2 member
  | records call view prepared changed was calls row child silent =>
    rw [silent, List.append_nil]
    refine settled.moves was calls row (fun _ => rfl) ?_
    intro childId offers
    rw [child sound.bound]
    simp only [State.offersCurrent, was] at offers
    split at offers
    · rename_i marked
      cases marked
      split at offers
      · exact offers
      · cases offers
    · cases offers
  | refuses call view prepared was calls row emits =>
    have moved : after.Settled events := by
      refine settled.moves was calls (.of_eq (by rw [row])) (fun _ => rfl) ?_
      intro childId offers
      rw [State.offersCurrent, was] at offers
      cases offers
    rw [emits]
    refine moved.refuse ?_ ?_ ?_
    · rw [calls, Calls.phase_moveTo_self]
    · rw [calls]
      exact settled.accounted.fresh.lt_next was
    · apply settled.accounted.not_acted was
      rintro ⟨read, other, marked⟩
      cases marked

end

end Histories

/-! ### Whole runs -/

variable {first : List Op}

section Runs

variable {env : Environment} {identity : RevisionIdentity} {created : Nat} {artifacts : List Artifact}

private theorem settled_init : (completions env identity created artifacts).init.Settled [] where
  accounted := .nil
  offered := fun _ _ member => absurd member List.not_mem_nil
  oneCurrent := fun _ _ _ _ member => absurd member List.not_mem_nil

private theorem sound_init : (completions env identity created artifacts).init.Sound where
  bound := fun recorded => absurd rfl recorded
  fit call phase running := by simp [completions, Calls.empty] at running

private theorem sound_run {ops : List Op}
    (respects : (completions env identity created artifacts).Respects State.Undisturbed ops) :
    ((completions env identity created artifacts).run ops).Sound :=
  Machine.guarded_invariant State.Sound sound_init
    (fun _ _ sound undisturbed => (step_effect sound undisturbed).sound sound) respects

private theorem settled_run {ops : List Op}
    (respects : (completions env identity created artifacts).Respects State.Undisturbed ops) :
    ((completions env identity created artifacts).run ops).Settled (history env identity created artifacts ops) := by
  have both : State.Sound _ ∧ State.Settled _ (history env identity created artifacts ops) :=
    Machine.guarded_history (fun state events => state.Sound ∧ state.Settled events)
      ⟨sound_init, settled_init⟩ ?_ respects
  · exact both.2
  · rintro state events op ⟨sound, settled⟩ undisturbed
    have effect : State.Effect _ (State.step env _ op) _ := step_effect sound undisturbed
    exact ⟨effect.sound sound, settled.step sound effect⟩

/-- What every step of a sound row keeps still holds after any undisturbed continuation. -/
theorem row_stable (property : ArtifactRevision → Prop)
    (keeps : ∀ {before after : ArtifactRevision}, before.BoundIfRecorded → Advances before after →
      property before → property after) {second : List Op}
    (respects : (completions env identity created artifacts).Respects State.Undisturbed (first ++ second))
    (holds : property (rowAfter env identity created artifacts first)) :
    property (rowAfter env identity created artifacts (first ++ second)) := by
  have both := Machine.guarded_stable (fun state => state.Sound ∧ property state.revision) ?_
    ⟨sound_run respects.of_append, holds⟩ respects
  · exact both.2
  · rintro before op undisturbed ⟨sound, present⟩
    have effect : State.Effect _ (State.step env _ op) _ := step_effect sound undisturbed
    exact ⟨effect.sound sound, keeps sound.bound effect.advances present⟩

private theorem child_stays {second : List Op}
    (respects : (completions env identity created artifacts).Respects State.Undisturbed (first ++ second))
    (bound : (rowAfter env identity created artifacts first).childArtifactId = some childId) :
    (rowAfter env identity created artifacts (first ++ second)).childArtifactId = some childId :=
  row_stable (·.childArtifactId = some childId) (fun _ advances => advances.keepsChild) respects bound

/-- The outcome of a row with a result stays over every undisturbed continuation. -/
theorem outcome_stays {second : List Op}
    (respects : (completions env identity created artifacts).Respects State.Undisturbed (first ++ second))
    (recorded : (rowAfter env identity created artifacts first).revalidationStatus ≠ .pending) :
    (rowAfter env identity created artifacts (first ++ second)).outcome =
      (rowAfter env identity created artifacts first).outcome := by
  refine row_stable (·.outcome = (rowAfter env identity created artifacts first).outcome) ?_ respects rfl
  intro before after bound advances same
  have status : before.revalidationStatus ≠ .pending := by
    have still := congrArg Outcome.revalidationStatus same
    exact fun pending => recorded (still.symm.trans pending)
  exact (advances.keepsOutcome status (bound status)).trans same

end Runs

/-- In every interleaving whose writes find the outcome that their calls have read, and whose children become
current one at a time, the revision is completed once. -/
theorem completedOnce_of_undisturbed (env : Environment) (identity : RevisionIdentity) (created : Nat)
    (artifacts : List Artifact) (ops : List Op)
    (respects : (completions env identity created artifacts).Respects State.Undisturbed ops) :
    CompletedOnce env identity created artifacts ops where
  recordedStays := by
    rintro first second rest rfl recorded
    exact outcome_stays respects.of_append recorded
  oneChild := by
    rintro first second rest childId other rfl bound later
    rw [child_stays respects.of_append bound] at later
    exact (Option.some.inj later).symm
  refusedUnmarked := by
    intro call childId validity refused marked
    exact (settled_run respects).accounted.exclusive call ⟨_, refused, rfl⟩ ⟨_, marked, rfl⟩
  oneCurrent := (settled_run respects).oneCurrent

/-! ### A status that was read before the completion -/

def sampleEnvironment : Environment where
  contentHash := fun result => toString result.length
  restartOf := fun _ => none
  taskTenant := "default"

def sampleIdentity : RevisionIdentity where
  revisionId := "artifact-revision-1"
  taskId := "task-1"
  workOrderId := "order-1"
  parentArtifactId := "artifact-1"
  inputSnapshotHash := "input-1"
  sourceSnapshotHash := "source-1"
  schemaHash := "schema-1"

/-- A candidate that a worker has rendered for the revision. -/
def candidate (artifactId : String) : Artifact where
  artifactId
  tenantId := "default"
  workOrderId := "order-1"
  parentArtifactId := some "artifact-1"
  stage := .reviewCandidate
  contentHash := "content-" ++ artifactId
  revisionId := none
  lifecycle := { validityStatus := .current, regenerationStatus := .notNeeded, statusReasons := [] }

def sampleArtifacts : List Artifact :=
  [candidate "artifact-2", candidate "artifact-3"]

def passedRequest : Request where
  revalidationStatus := .passed
  revalidationResult := []
  diffReport := none
  preservation := none
  targetChange := none

/-- The worker completes the revision with its candidate; then a user offers another candidate, which is
refused, and the released child closes the revision. -/
def completedThenReleased : List Op :=
  [.complete (.bindGeneratedChild (candidate "artifact-2") passedRequest), .proceed 0 1, .proceed 0 2,
    .proceed 0 3, .complete (.completeRevision "artifact-3" passedRequest), .proceed 1 4,
    .markReleased "artifact-2", .proceed 2 5, .proceed 2 6]

/-- The run is not disturbed, so the revision is completed once. -/
theorem released_revision_completedOnce :
    (rowAfter sampleEnvironment sampleIdentity 0 sampleArtifacts completedThenReleased).childArtifactId =
        some "artifact-2" ∧
      CompletedOnce sampleEnvironment sampleIdentity 0 sampleArtifacts completedThenReleased := by
  refine ⟨by decide, completedOnce_of_undisturbed _ _ _ _ _ (Machine.RespectsFrom.respects ?_)⟩
  exact ⟨trivial, trivial, fun _ => by decide, fun _ => rfl, trivial, trivial, trivial, trivial, rfl,
    trivial⟩

/-- A status update reads the revision, the worker completes it, and the status update writes. -/
def staleStatus : List Op :=
  [.updateStatus "queued", .complete (.bindGeneratedChild (candidate "artifact-2") passedRequest),
    .proceed 1 1, .proceed 1 2, .proceed 1 3, .proceed 0 4]

/-- The recorded result is taken back, and the child with it. -/
theorem stale_status_reverts_completion :
    ¬ ∀ env identity created artifacts ops, CompletedOnce env identity created artifacts ops := by
  intro always
  have once := always sampleEnvironment sampleIdentity 0 sampleArtifacts staleStatus
  have stays := once.recordedStays (staleStatus.take 5) (staleStatus.drop 5) [] rfl (by decide)
  have status := congrArg Outcome.revalidationStatus stays
  revert status
  decide

end HardwareDatabase.Revisions
