/-
Module: HardwareDatabase.Proofs.GovernorCapacity
Purpose: The quotas of the governor hold over whole runs (`Within`), and the share left to the background protects the
  interactive reserve.
Trusted boundary: none
-/
import HardwareDatabase.Governor.Service

namespace HardwareDatabase.Governor

open Relational

/-! ### Permits that are rewritten in place -/

/-- What no operation changes about a permit, and that none activates it. -/
structure Permit.Proceeds (old new : Permit) : Prop where
  permitId : new.permitId = old.permitId
  resource : new.resource = old.resource
  interactive : new.interactive = old.interactive
  weight : new.weight = old.weight
  active : new.state = .active → old.state = .active

theorem Permit.Proceeds.refl (permit : Permit) : permit.Proceeds permit :=
  ⟨rfl, rfl, rfl, rfl, id⟩

theorem Permit.Proceeds.trans {first second third : Permit} (earlier : first.Proceeds second)
    (later : second.Proceeds third) : first.Proceeds third where
  permitId := later.permitId.trans earlier.permitId
  resource := later.resource.trans earlier.resource
  interactive := later.interactive.trans earlier.interactive
  weight := later.weight.trans earlier.weight
  active := fun active => earlier.active (later.active active)

/-- Every permit is still there, rewritten row by row. -/
def Rewritten (before after : Tables) : Prop :=
  ∃ rewrite : Permit → Permit, (∀ permit : Permit, permit.Proceeds (rewrite permit)) ∧
    after.permits = before.permits.map rewrite

theorem Rewritten.refl (tables : Tables) : Rewritten tables tables :=
  ⟨id, Permit.Proceeds.refl, by simp⟩

theorem Rewritten.trans {first second third : Tables} (earlier : Rewritten first second)
    (later : Rewritten second third) : Rewritten first third := by
  obtain ⟨rewrite, proceeds, permits⟩ := earlier
  obtain ⟨again, proceedsAgain, permitsAgain⟩ := later
  refine ⟨fun permit => again (rewrite permit), ?_, ?_⟩
  · exact fun permit => (proceeds permit).trans (proceedsAgain (rewrite permit))
  · rw [permitsAgain, permits, List.map_map]
    rfl

theorem rewritten_updatePermits {selects : Permit → Bool} {write : Permit → Permit} (tables : Tables)
    (proceeds : ∀ permit, selects permit = true → permit.Proceeds (write permit)) :
    Rewritten tables (tables.updatePermits selects write) := by
  refine ⟨fun permit => if selects permit then write permit else permit, ?_, rfl⟩
  intro permit
  by_cases selected : selects permit = true
  · simpa [selected] using proceeds permit selected
  · simpa [selected] using Permit.Proceeds.refl permit

theorem Rewritten.record {before after : Tables} (rewritten : Rewritten before after)
    (entry : AuditEntry) : Rewritten before (after.record entry) :=
  rewritten

theorem isolate_proceeds (permit : Permit) (now : Nat) : permit.Proceeds (permit.isolate now) :=
  ⟨rfl, rfl, rfl, rfl, fun active => by cases active⟩

theorem reapExpired_rewritten (tables : Tables) (now clock : Nat) : Rewritten tables (reapExpired tables now clock) :=
  rewritten_updatePermits tables fun permit _ => isolate_proceeds permit now

theorem maintain_rewritten (tables : Tables) (escalateSeconds : Int) (now clock : Nat) :
    Rewritten tables (maintain tables escalateSeconds now clock) := by
  apply (reapExpired_rewritten tables now clock).trans
  exact rewritten_updatePermits _ fun permit _ => ⟨rfl, rfl, rfl, rfl, id⟩

theorem renew_rewritten (tables : Tables) (permitId : String) (leaseSeconds : Int) (now : Nat) :
    Rewritten tables (renew tables permitId leaseSeconds now) :=
  rewritten_updatePermits tables fun _ _ => ⟨rfl, rfl, rfl, rfl, id⟩

theorem release_rewritten (tables : Tables) (permitId : String) : Rewritten tables (release tables permitId) :=
  rewritten_updatePermits tables fun _ _ => ⟨rfl, rfl, rfl, rfl, fun active => by cases active⟩

theorem finishChecked_rewritten (tables : Tables) (call : FinishCall) (outcome : FinishOutcome)
    (evidence : String) : Rewritten tables (finishChecked tables call outcome evidence).1 := by
  unfold finishChecked
  split
  · exact Rewritten.refl tables
  · split
    · exact Rewritten.refl tables
    · split
      · apply Rewritten.record
        exact rewritten_updatePermits tables fun _ _ => ⟨rfl, rfl, rfl, rfl, fun active => by cases active⟩
      · apply Rewritten.record
        exact rewritten_updatePermits tables fun _ _ => ⟨rfl, rfl, rfl, rfl, fun active => by cases active⟩

theorem finish_rewritten {tables after : Tables} {call : FinishCall} {confirmed : Bool}
    (done : finish tables call = .ok (after, confirmed)) : Rewritten tables after := by
  unfold finish at done
  cases checked : call.check with
  | error =>
    rw [checked] at done
    cases done
  | ok outcome =>
    simp only [checked, Except.ok.injEq] at done
    have rewritten := finishChecked_rewritten tables call outcome.1 outcome.2
    rwa [done] at rewritten

theorem releaseUncertain_rewritten {tables after : Tables} {call : RecoveryCall} {recovered : Bool}
    (done : releaseUncertain tables call = .ok (after, recovered)) : Rewritten tables after := by
  unfold releaseUncertain at done
  split at done
  · cases done
  · split at done
    · cases done
      exact Rewritten.refl tables
    · split at done
      · cases done
        exact Rewritten.refl tables
      · cases done
        apply Rewritten.record
        exact rewritten_updatePermits tables fun _ _ => ⟨rfl, rfl, rfl, rfl, fun active => by cases active⟩

/-! ### Admissions -/

/-- An admission adds one active permit to the reaped permits, which leave room for it. -/
def Admits (before after : Tables) (call : AcquireCall) (capacity reserved : Int) : Prop :=
  ∃ reaped, Rewritten before reaped ∧
    reaped.hasRoom call.resource capacity reserved call.interactive = true ∧
    after.permits = reaped.permits ++ [call.permit]

/-- What `try_acquire` answers: a refusal after the reaping, or an admission. -/
theorem tryAcquire_cases {tables after : Tables} {call : AcquireCall} {capacity reserved : Int}
    {granted : Option String} (done : tryAcquire tables call capacity reserved = .ok (after, granted)) :
    (granted = none ∧ Rewritten tables after) ∨
      (granted = some call.uuid ∧ Admits tables after call capacity reserved) := by
  simp only [tryAcquire] at done
  split at done
  · cases done
    exact .inl ⟨rfl, Rewritten.refl tables⟩
  · have reaped := reapExpired_rewritten tables call.now call.clock
    split at done
    · cases done
      exact .inl ⟨rfl, reaped⟩
    · split at done
      · cases done
        exact .inl ⟨rfl, reaped⟩
      · rename_i room
        split at done
        · cases done
        · cases done
          exact .inr ⟨rfl, _, reaped, by simpa using room, rfl⟩

/-- A transaction rewrites the permits in place, or it is an admission. -/
theorem attempt_cases {quotas : String → Quota} {state : ServiceState} {op : Op} {after : Tables}
    (done : state.attempt quotas op = .ok after) : Rewritten state.tables after ∨
      ∃ call, Admits state.tables after call (quotas call.resource).capacity (quotas call.resource).reserved := by
  have admitted : ∀ call, (state.admission quotas call).map Prod.fst = .ok after →
      Rewritten state.tables after ∨
        ∃ call, Admits state.tables after call (quotas call.resource).capacity
          (quotas call.resource).reserved := by
    intro call answered
    obtain ⟨⟨tables, granted⟩, answer, rfl⟩ := exists_of_map_eq_ok answered
    rcases tryAcquire_cases answer with ⟨-, rewritten⟩ | ⟨-, admits⟩
    · exact .inl rewritten
    · exact .inr ⟨call, admits⟩
  cases op <;> simp only [ServiceState.attempt] at done
  case tryAcquire call => exact admitted call done
  case enter call => exact admitted call done
  case release permitId =>
      cases done
      exact .inl (release_rewritten state.tables permitId)
  case renew permitId leaseSeconds now =>
      cases done
      exact .inl (renew_rewritten state.tables permitId leaseSeconds now)
  case finish call =>
      obtain ⟨⟨tables, confirmed⟩, answer, rfl⟩ := exists_of_map_eq_ok done
      exact .inl (finish_rewritten answer)
  case releaseUncertain call =>
      obtain ⟨⟨tables, recovered⟩, answer, rfl⟩ := exists_of_map_eq_ok done
      exact .inl (releaseUncertain_rewritten answer)
  case reapExpired now clock =>
      cases done
      exact .inl (reapExpired_rewritten state.tables now clock)
  case maintain escalateSeconds now clock =>
      cases done
      exact .inl (maintain_rewritten state.tables escalateSeconds now clock)
  case exit permitId =>
      cases done
      split
      · exact .inl (release_rewritten state.tables permitId)
      · exact .inl (Rewritten.refl state.tables)

/-! ### The quotas as an invariant

Permits that are rewritten in place raise no count, so only admissions have to be looked at. -/

/-- The number of active permits of a resource. -/
def Tables.activeCount (tables : Tables) (resource : String) : Nat :=
  tables.permits.countP (Permit.activeOn resource)

/-- The number of active background permits of a resource. -/
def Tables.backgroundCount (tables : Tables) (resource : String) : Nat :=
  tables.permits.countP (Permit.backgroundOn resource)

/-- The number of active interactive permits of a resource. -/
def Tables.interactiveCount (tables : Tables) (resource : String) : Nat :=
  tables.permits.countP (Permit.interactiveOn resource)

theorem activeCount_eq (tables : Tables) (resource : String) : tables.activeCount resource =
      tables.backgroundCount resource + tables.interactiveCount resource := by
  unfold Tables.activeCount Tables.backgroundCount Tables.interactiveCount
  induction tables.permits with
  | nil => rfl
  | cons permit rest ih =>
    simp only [List.countP_cons, ih, Permit.backgroundOn, Permit.interactiveOn]
    by_cases active : permit.activeOn resource = true
    · by_cases interactive : permit.interactive = true
      · simp [active, interactive]
        omega
      · simp [active, interactive]
        omega
    · simp [active]

/-- The permits keep the quotas, and each of them weighs one. -/
structure Within (quotas : String → Quota) (tables : Tables) : Prop where
  single : ∀ permit ∈ tables.permits, permit.weight = 1
  active : ∀ resource, tables.activeCount resource ≤ (quotas resource).capacity
  background : ∀ resource, (tables.backgroundCount resource : Int) ≤
    max 0 ((quotas resource).capacity - (quotas resource).reserved)

variable {quotas : String → Quota} {tables after : Tables}

theorem Permit.Proceeds.activeOn {old new : Permit} {resource : String} (proceeds : old.Proceeds new)
    (active : new.activeOn resource = true) : old.activeOn resource = true := by
  simp only [Permit.activeOn, Bool.and_eq_true, beq_iff_eq] at active ⊢
  exact ⟨proceeds.resource.symm.trans active.1, proceeds.active active.2⟩

theorem Rewritten.activeCount_le (rewritten : Rewritten tables after) (resource : String) :
    after.activeCount resource ≤ tables.activeCount resource := by
  obtain ⟨rewrite, proceeds, permits⟩ := rewritten
  unfold Tables.activeCount
  rw [permits, List.countP_map]
  exact List.countP_mono_left fun permit _ active => (proceeds permit).activeOn active

theorem Rewritten.backgroundCount_le (rewritten : Rewritten tables after) (resource : String) :
    after.backgroundCount resource ≤ tables.backgroundCount resource := by
  obtain ⟨rewrite, proceeds, permits⟩ := rewritten
  unfold Tables.backgroundCount
  rw [permits, List.countP_map]
  apply List.countP_mono_left
  intro permit _ background
  simp only [Function.comp_apply, Permit.backgroundOn, Bool.and_eq_true] at background ⊢
  exact ⟨(proceeds permit).activeOn background.1, (proceeds permit).interactive ▸ background.2⟩

theorem Within.rewritten (within : Within quotas tables) (rewritten : Rewritten tables after) :
    Within quotas after where
  single := by
    obtain ⟨rewrite, proceeds, permits⟩ := rewritten
    intro permit member
    rw [permits] at member
    obtain ⟨old, oldMember, rfl⟩ := List.mem_map.mp member
    exact (proceeds old).weight.trans (within.single old oldMember)
  active := fun resource =>
    Nat.le_trans (rewritten.activeCount_le resource) (within.active resource)
  background := fun resource =>
    Int.le_trans (Int.ofNat_le.mpr (rewritten.backgroundCount_le resource)) (within.background resource)

theorem Within.room {resource : String} {capacity reserved : Int} {interactive : Bool}
    (within : Within quotas tables) :
    tables.hasRoom resource capacity reserved interactive = true ↔ (tables.activeCount resource : Int) < capacity ∧
        (interactive = false → (tables.backgroundCount resource : Int) < max 0 (capacity - reserved)) := by
  have active : tables.activeWeight resource = tables.activeCount resource :=
    sumWhere_eq_countP within.single
  have background : tables.backgroundWeight resource = tables.backgroundCount resource :=
    sumWhere_eq_countP within.single
  rw [Tables.hasRoom, active, background]
  cases interactive with
  | true => simp
  | false =>
    rw [Bool.not_eq_true', Bool.or_eq_false_iff, Bool.not_false, Bool.true_and, decide_eq_false_iff_not,
      decide_eq_false_iff_not, Int.not_le, Int.not_le]
    exact ⟨fun room => ⟨room.1, fun _ => room.2⟩, fun room => ⟨room.1, room.2 rfl⟩⟩

theorem Within.admits {call : AcquireCall} (within : Within quotas tables)
    (admits : Admits tables after call (quotas call.resource).capacity (quotas call.resource).reserved) :
    Within quotas after := by
  obtain ⟨reaped, rewritten, room, permits⟩ := admits
  have before := within.rewritten rewritten
  obtain ⟨active, background⟩ := before.room.mp room
  constructor
  · intro permit member
    rw [permits, List.mem_append, List.mem_singleton] at member
    rcases member with old | rfl
    · exact before.single permit old
    · rfl
  · intro resource
    have bound := before.active resource
    unfold Tables.activeCount at bound active ⊢
    rw [permits, List.countP_append, List.countP_singleton]
    split
    · rename_i counted
      simp only [Permit.activeOn, AcquireCall.permit, Bool.and_eq_true, beq_iff_eq] at counted
      rw [← counted.1]
      omega
    · exact bound
  · intro resource
    have bound := before.background resource
    unfold Tables.backgroundCount at bound background ⊢
    rw [permits, List.countP_append, List.countP_singleton]
    split
    · rename_i counted
      simp only [Permit.backgroundOn, Permit.activeOn, AcquireCall.permit, Bool.and_eq_true, beq_iff_eq,
        Bool.not_eq_true'] at counted
      have room := background counted.2
      rw [← counted.1.1]
      omega
    · exact bound

/-- The quotas hold in every reachable state. -/
theorem within_run (quotas : String → Quota) (ops : List Op) : Within quotas ((governor quotas).run ops).tables := by
  apply Machine.invariant fun state : ServiceState => Within quotas state.tables
  · refine ⟨fun _ member => (by cases member), fun _ => Nat.zero_le _, ?_⟩
    intro resource
    exact Int.le_max_left 0 _
  · intro state op within
    simp only [governor, ServiceState.step]
    split
    · rename_i after done
      rcases attempt_cases done with rewritten | ⟨call, admits⟩
      · exact within.rewritten rewritten
      · exact within.admits admits
    · exact within

/-! ### Refused requests -/

/-- The call is refused although the lock was free and the resource is not escalated: there is no room. -/
def RefusedForCapacity (quotas : String → Quota) (tables : Tables) (call : AcquireCall) (after : Tables) : Prop :=
  tryAcquire tables call (quotas call.resource).capacity (quotas call.resource).reserved =
      .ok (after, none) ∧
    call.locked = false ∧ (reapExpired tables call.now call.clock).escalated call.resource = false

/-- The background share of the capacity leaves the reserve to the interactive permits. -/
theorem refused_beyond_reserve {call : AcquireCall} (within : Within quotas tables)
    (interactive : call.interactive = true) (refused : RefusedForCapacity quotas tables call after) :
    (quotas call.resource).reserved ≤ after.interactiveCount call.resource := by
  obtain ⟨answer, unlocked, notEscalated⟩ := refused
  have reaped := within.rewritten (reapExpired_rewritten tables call.now call.clock)
  simp only [tryAcquire, unlocked, notEscalated, Bool.false_eq_true, if_false] at answer
  split at answer
  · rename_i noRoom
    cases answer
    have full : ¬ ((reapExpired tables call.now call.clock).activeCount call.resource : Int) <
        (quotas call.resource).capacity := by
      intro below
      have room : (reapExpired tables call.now call.clock).hasRoom call.resource
          (quotas call.resource).capacity (quotas call.resource).reserved call.interactive = true := by
        rw [reaped.room]
        exact ⟨below, fun background => by simp [interactive] at background⟩
      rw [room] at noRoom
      cases noRoom
    have split := activeCount_eq (reapExpired tables call.now call.clock) call.resource
    have share := reaped.background call.resource
    have fits := (quotas call.resource).reservedLe
    omega
  · split at answer
    · cases answer
    · cases answer

/-- The capacity and the interactive reserve after a run. -/
structure CapacityKept (quotas : String → Quota) (ops : List Op) : Prop where
  active : ∀ resource,
    ((governor quotas).run ops).tables.activeCount resource ≤ (quotas resource).capacity
  background : ∀ resource, (((governor quotas).run ops).tables.backgroundCount resource : Int) ≤
    max 0 ((quotas resource).capacity - (quotas resource).reserved)
  reserve : ∀ call after, call.interactive = true →
    RefusedForCapacity quotas ((governor quotas).run ops).tables call after →
    (quotas call.resource).reserved ≤ after.interactiveCount call.resource

/-- Every interleaving keeps the capacities, and background work never eats the interactive reserve. -/
theorem capacity_and_reserve (quotas : String → Quota) (ops : List Op) : CapacityKept quotas ops := by
  have within := within_run quotas ops
  constructor
  · exact within.active
  · exact within.background
  · intro call after interactive refused
    exact refused_beyond_reserve within interactive refused

/-! ### The life of a permit -/

/-- The permit is at its place, as far as it may have come. -/
def Tables.Holds (tables : Tables) (index : Nat) (permit : Permit) : Prop :=
  ∃ new, tables.permits[index]? = some new ∧ permit.Proceeds new

theorem Tables.Holds.rewritten {index : Nat} {permit : Permit} (holds : tables.Holds index permit)
    (rewritten : Rewritten tables after) : after.Holds index permit := by
  obtain ⟨old, stored, proceeds⟩ := holds
  obtain ⟨rewrite, proceedsAgain, permits⟩ := rewritten
  refine ⟨rewrite old, ?_, proceeds.trans (proceedsAgain old)⟩
  rw [permits, List.getElem?_map, stored, Option.map_some]

theorem Tables.Holds.step {state : ServiceState} {index : Nat} {permit : Permit}
    (holds : state.tables.Holds index permit) (op : Op) : (state.step quotas op).tables.Holds index permit := by
  rw [ServiceState.step]
  split
  · rename_i after done
    rcases attempt_cases done with rewritten | ⟨call, reaped, rewritten, -, permits⟩
    · exact holds.rewritten rewritten
    · obtain ⟨new, stored, proceeds⟩ := holds.rewritten rewritten
      obtain ⟨inside, -⟩ := List.getElem?_eq_some_iff.mp stored
      refine ⟨new, ?_, proceeds⟩
      rw [permits, List.getElem?_append_left inside, stored]
  · exact holds

/-- In every run each permit stays at its place, with its id, its resource, its kind and its weight, and once it is
not active it is never active again: no renewal, report or recovery brings back what has been released or isolated. -/
theorem permits_never_revive (quotas : String → Quota) (first second : List Op) :
    ∀ (index : Nat) (permit : Permit), ((governor quotas).run first).tables.permits[index]? = some permit →
      ∃ new, ((governor quotas).run (first ++ second)).tables.permits[index]? = some new ∧ permit.Proceeds new := by
  intro index permit stored
  apply Machine.stable fun state : ServiceState => state.tables.Holds index permit
  · exact fun before op holds => holds.step op
  · exact ⟨permit, stored, Permit.Proceeds.refl permit⟩

/-- A permit whose lease expires goes on at its place. -/
theorem expired_permit_never_revives :
    ∃ old, ((governor fun _ => ⟨1, 0, by decide⟩).run
        [.tryAcquire ⟨"tool", true, "", "", 1, "p", 0, 0, false⟩]).tables.permits[0]? = some old ∧
      ∃ new, ((governor fun _ => ⟨1, 0, by decide⟩).run ([.tryAcquire ⟨"tool", true, "", "", 1, "p", 0, 0, false⟩] ++
        [.reapExpired 90000000 90000000])).tables.permits[0]? = some new ∧ old.Proceeds new :=
  ⟨_, rfl, permits_never_revive _ _ _ 0 _ rfl⟩

end HardwareDatabase.Governor
