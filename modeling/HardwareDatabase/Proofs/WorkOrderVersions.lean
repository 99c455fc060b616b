/-
Module: HardwareDatabase.Proofs.WorkOrderVersions
Purpose: Each version of a work order is written by one successful call and has one outbox event.
Trusted boundary: none
-/
import HardwareDatabase.WorkOrders.Service

namespace HardwareDatabase.WorkOrders

open Relational

variable {tables after : Tables} {order : WorkOrder} {uuid : String} {now : Nat}

/-! ### What a call writes -/

private theorem putOutboxEvent_cases {event : OutboxEvent} (done : putOutboxEvent tables event = .ok after) :
    after = { tables with outbox := tables.outbox ++ [event] } := by
  unfold putOutboxEvent at done
  split at done <;> cases done
  rfl

private theorem create_cases {referencesAccepted : Bool}
    (done : createWorkOrder tables order referencesAccepted uuid now = .ok after) :
    (∀ row ∈ tables.orders, row.workOrderId ≠ order.workOrderId) ∧ after =
        { orders := tables.orders ++ [order.row]
          outbox := tables.outbox ++ [workOrderOutboxEvent order "created" uuid now] } := by
  unfold createWorkOrder at done
  split at done
  · cases done
  · obtain ⟨inserted, put, done⟩ := exists_of_bind_eq_ok done
    obtain rfl := putOutboxEvent_cases done
    simp only [putWorkOrder] at put
    split at put
    · cases put
    · next unused =>
        cases put
        refine ⟨?_, rfl⟩
        intro row member
        simp only [List.any_eq_true, not_exists, not_and, Bool.or_eq_true, not_or, beq_iff_eq] at unused
        exact (unused row member).1

private theorem replace_cases (done : replaceWorkOrder tables order uuid now = .ok after) :
    (∃ row ∈ tables.orders, row.precedes order = true) ∧ after = {
        orders := updateWhere (fun row => row.precedes order) (fun row => { row with payload := order }) tables.orders
        outbox := tables.outbox ++ [workOrderOutboxEvent order "state_changed" uuid now] } := by
  simp only [replaceWorkOrder] at done
  split at done
  · next one =>
      obtain rfl := putOutboxEvent_cases done
      refine ⟨?_, rfl⟩
      have matched : 0 < tables.orders.countP fun row => row.precedes order := by
        rw [one]
        exact Nat.one_pos
      exact List.countP_pos_iff.mp matched
  · cases done

private theorem markOutbox_cases {eventId : String} {mark : DeliveryMark}
    (done : updateOutboxEvent tables eventId mark = .ok after) :
    after = { tables with
      outbox := updateWhere (fun event => event.eventId == eventId) (fun event => event.marked mark)
        tables.outbox } := by
  unfold updateOutboxEvent at done
  split at done <;> cases done
  rfl

/-! ### Events and versions -/

/-- What identifies an outbox event; a delivery attempt leaves it. -/
def OutboxEvent.identity (event : OutboxEvent) : String × AggregateType × String × EventPayload :=
  (event.eventKey, event.aggregateType, event.aggregateId, event.payload)

@[simp] theorem identity_marked (event : OutboxEvent) (mark : DeliveryMark) :
    (event.marked mark).identity = event.identity := by
  cases mark <;> rfl

/-- The identity of the event of a written version. -/
def WorkOrder.eventIdentity (order : WorkOrder) : String × AggregateType × String × EventPayload :=
  (orderKey order.workOrderId order.lockVersion, .workOrder, order.workOrderId, .order order.facts)

/-- The events of work orders. -/
def orderEvents (outbox : List OutboxEvent) : List OutboxEvent :=
  outbox.filter fun event => event.aggregateType == .workOrder

private theorem orderEvents_append (outbox : List OutboxEvent) (event : OutboxEvent) : orderEvents (outbox ++ [event]) =
      orderEvents outbox ++ if event.aggregateType = .workOrder then [event] else [] := by
  simp only [orderEvents, List.filter_append]
  split
  · next own => simp [own]
  · next other => simp [other]

private theorem orderEvents_marked (outbox : List OutboxEvent) (p : OutboxEvent → Bool) (mark : DeliveryMark) :
    (orderEvents (updateWhere p (fun event => event.marked mark) outbox)).map OutboxEvent.identity =
      (orderEvents outbox).map OutboxEvent.identity := by
  induction outbox with
  | nil => rfl
  | cons event outbox ih =>
    have aggregate : (event.marked mark).aggregateType = event.aggregateType := by
      cases mark <;> rfl
    simp only [orderEvents, updateWhere, List.map_cons, List.filter_cons] at ih ⊢
    by_cases marked : p event = true
    · simp only [marked, if_true, aggregate]
      split
      · simp only [List.map_cons, identity_marked, ih]
      · exact ih
    · simp only [marked, Bool.false_eq_true, if_false]
      split
      · simp only [List.map_cons, ih]
      · exact ih

/-- A version of a work order. -/
def WorkOrder.version (order : WorkOrder) : String × Int :=
  (order.workOrderId, order.lockVersion)

/-- The order is this version of this work order. -/
def WorkOrder.isVersion (workOrderId : String) (version : Int) (order : WorkOrder) : Bool :=
  decide (order.version = (workOrderId, version))

/-- The event is about this version of this work order. -/
def OutboxEvent.concerns (workOrderId : String) (version : Int) (event : OutboxEvent) : Bool :=
  event.aggregateType == .workOrder && event.aggregateId == workOrderId &&
    match event.payload with
    | .order facts => facts.lockVersion == version
    | .other _ => false

/-! ### The invariant -/

/-- The stored work orders, their events and the copies of the clients come from the written versions. -/
structure VersionsOk (state : ServiceState) (written : List WorkOrder) : Prop where
  rows : UniqueOn OrderRow.workOrderId state.tables.orders
  named : ∀ row ∈ state.tables.orders, row.payload.workOrderId = row.workOrderId
  latest : ∀ row ∈ state.tables.orders, row.payload ∈ written
  known : ∀ order ∈ written, ∃ row ∈ state.tables.orders, row.workOrderId = order.workOrderId
  once : UniqueOn WorkOrder.version written
  -- the versions of a work order run from its creation to its current one
  range : ∀ row ∈ state.tables.orders, ∃ created ≤ row.payload.lockVersion, ∀ version,
    (∃ order ∈ written, order.version = (row.workOrderId, version)) ↔
      created ≤ version ∧ version ≤ row.payload.lockVersion
  events : (orderEvents state.tables.outbox).map OutboxEvent.identity =
    written.map WorkOrder.eventIdentity
  copies : ∀ copy ∈ state.copies, copy ∈ written

private theorem VersionsOk.start : VersionsOk ServiceState.start [] := by
  constructor
  · exact UniqueOn.nil _
  · exact fun row member => nomatch member
  · exact fun row member => nomatch member
  · exact fun order member => nomatch member
  · exact UniqueOn.nil _
  · exact fun row member => nomatch member
  · rfl
  · exact fun copy member => nomatch member

variable {state : ServiceState} {written copies : List WorkOrder}

section

variable (ok : VersionsOk state written)
include ok

private theorem VersionsOk.keep (orders : after.orders = state.tables.orders)
    (events : (orderEvents after.outbox).map OutboxEvent.identity =
      (orderEvents state.tables.outbox).map OutboxEvent.identity) (held : ∀ copy ∈ copies, copy ∈ written) :
    VersionsOk { tables := after, copies := copies ++ state.copies } written := by
  constructor
  · exact orders ▸ ok.rows
  · exact orders ▸ ok.named
  · exact orders ▸ ok.latest
  · exact orders ▸ ok.known
  · exact ok.once
  · exact orders ▸ ok.range
  · exact events.trans ok.events
  · intro copy member
    obtain new | old := List.mem_append.mp member
    · exact held copy new
    · exact ok.copies copy old

private theorem VersionsOk.events_append (action : String) :
    (orderEvents (state.tables.outbox ++ [workOrderOutboxEvent order action uuid now])).map
        OutboxEvent.identity = (written ++ [order]).map WorkOrder.eventIdentity := by
  rw [orderEvents_append, List.map_append, List.map_append, ok.events]
  rfl

private theorem VersionsOk.copies_append : ∀ copy ∈ [order] ++ state.copies, copy ∈ written ++ [order] := by
  intro copy member
  obtain new | old := List.mem_append.mp member
  · exact List.mem_append_right written new
  · exact List.mem_append_left _ (ok.copies copy old)

end

private theorem exists_version_append {workOrderId : String} {version : Int} (apart : order.workOrderId ≠ workOrderId) :
    (∃ other ∈ written ++ [order], other.version = (workOrderId, version)) ↔
      ∃ other ∈ written, other.version = (workOrderId, version) := by
  constructor
  · rintro ⟨other, member, same⟩
    obtain earlier | latest := List.mem_append.mp member
    · exact ⟨other, earlier, same⟩
    · obtain rfl := List.mem_singleton.mp latest
      exact absurd (congrArg Prod.fst same) apart
  · rintro ⟨other, member, same⟩
    exact ⟨other, List.mem_append_left _ member, same⟩

private theorem VersionsOk.create {referencesAccepted : Bool} (ok : VersionsOk state written)
    (done : createWorkOrder state.tables order referencesAccepted uuid now = .ok after) :
    VersionsOk { tables := after, copies := [order] ++ state.copies } (written ++ [order]) := by
  obtain ⟨unused, rfl⟩ := create_cases done
  have unwritten : ∀ other ∈ written, other.workOrderId ≠ order.workOrderId := by
    intro other member same
    obtain ⟨row, rowMember, rowNamed⟩ := ok.known other member
    exact unused row rowMember (rowNamed.trans same)
  constructor
  · exact ok.rows.append unused
  · intro row member
    obtain old | new := List.mem_append.mp member
    · exact ok.named row old
    · obtain rfl := List.mem_singleton.mp new
      rfl
  · intro row member
    obtain old | new := List.mem_append.mp member
    · exact List.mem_append_left _ (ok.latest row old)
    · obtain rfl := List.mem_singleton.mp new
      exact List.mem_append_right written (List.mem_singleton_self order)
  · intro other member
    obtain old | new := List.mem_append.mp member
    · obtain ⟨row, rowMember, named⟩ := ok.known other old
      exact ⟨row, List.mem_append_left _ rowMember, named⟩
    · obtain rfl := List.mem_singleton.mp new
      exact ⟨other.row, List.mem_append_right _ (List.mem_singleton_self _), rfl⟩
  · apply ok.once.append
    intro other member same
    exact unwritten other member (congrArg Prod.fst same)
  · intro row member
    obtain old | new := List.mem_append.mp member
    · obtain ⟨created, below, range⟩ := ok.range row old
      refine ⟨created, below, ?_⟩
      intro version
      rw [exists_version_append (unused row old).symm]
      exact range version
    · obtain rfl := List.mem_singleton.mp new
      refine ⟨order.lockVersion, Int.le_refl _, ?_⟩
      intro version
      constructor
      · rintro ⟨other, otherMember, same⟩
        obtain earlier | latest := List.mem_append.mp otherMember
        · exact absurd (congrArg Prod.fst same) (unwritten other earlier)
        · obtain rfl := List.mem_singleton.mp latest
          have reached : other.lockVersion = version := congrArg Prod.snd same
          exact ⟨Int.le_of_eq reached, Int.le_of_eq reached.symm⟩
      · rintro ⟨above, below⟩
        refine ⟨order, List.mem_append_right _ (List.mem_singleton_self _), ?_⟩
        exact Prod.ext rfl (Int.le_antisymm above below)
  · exact ok.events_append "created"
  · exact ok.copies_append

private theorem VersionsOk.replace (ok : VersionsOk state written)
    (done : replaceWorkOrder state.tables order uuid now = .ok after) :
    VersionsOk { tables := after, copies := [order] ++ state.copies } (written ++ [order]) := by
  obtain ⟨⟨current, currentMember, preceding⟩, rfl⟩ := replace_cases done
  simp only [OrderRow.precedes, Bool.and_eq_true, beq_iff_eq] at preceding
  obtain ⟨currentNamed, currentVersion⟩ := preceding
  obtain ⟨created, createdBelow, currentRange⟩ := ok.range current currentMember
  have unwritten : ∀ other ∈ written, other.version ≠ order.version := by
    intro other member same
    have within := (currentRange order.lockVersion).mp ⟨other, member, by
      rw [same, WorkOrder.version, currentNamed]⟩
    omega
  constructor
  · exact ok.rows.updateWhere fun row => rfl
  · intro row member
    obtain ⟨old, oldMember, matched, rfl⟩ | ⟨oldMember, unmatched⟩ := mem_updateWhere.mp member
    · simp only [OrderRow.precedes, Bool.and_eq_true, beq_iff_eq] at matched
      exact matched.1.symm
    · exact ok.named row oldMember
  · intro row member
    obtain ⟨old, oldMember, matched, rfl⟩ | ⟨oldMember, unmatched⟩ := mem_updateWhere.mp member
    · exact List.mem_append_right written (List.mem_singleton_self order)
    · exact List.mem_append_left _ (ok.latest row oldMember)
  · intro other member
    have stored : ∃ row ∈ state.tables.orders, row.workOrderId = other.workOrderId := by
      obtain old | new := List.mem_append.mp member
      · exact ok.known other old
      · obtain rfl := List.mem_singleton.mp new
        exact ⟨current, currentMember, currentNamed⟩
    obtain ⟨row, rowMember, named⟩ := stored
    refine ⟨_, mem_updateWhere_of_mem rowMember, ?_⟩
    split <;> exact named
  · exact ok.once.append unwritten
  · intro row member
    obtain ⟨old, oldMember, matched, rfl⟩ | ⟨oldMember, unmatched⟩ := mem_updateWhere.mp member
    · simp only [OrderRow.precedes, Bool.and_eq_true, beq_iff_eq] at matched
      obtain rfl := ok.rows.eq_of_key oldMember currentMember (matched.1.trans currentNamed.symm)
      refine ⟨created, by simp only; omega, ?_⟩
      intro version
      constructor
      · rintro ⟨other, otherMember, same⟩
        obtain earlier | latest := List.mem_append.mp otherMember
        · have within := (currentRange version).mp ⟨other, earlier, same⟩
          simp only
          omega
        · obtain rfl := List.mem_singleton.mp latest
          have reached : other.lockVersion = version := congrArg Prod.snd same
          simp only
          omega
      · rintro ⟨above, below⟩
        simp only at below
        by_cases newest : version = order.lockVersion
        · refine ⟨order, List.mem_append_right _ (List.mem_singleton_self _), ?_⟩
          rw [WorkOrder.version, newest, ← matched.1]
        · obtain ⟨other, otherMember, same⟩ := (currentRange version).mpr ⟨above, by omega⟩
          exact ⟨other, List.mem_append_left _ otherMember, same⟩
    · obtain ⟨start, below, range⟩ := ok.range row oldMember
      have apart : row.workOrderId ≠ order.workOrderId := by
        intro same
        obtain rfl := ok.rows.eq_of_key oldMember currentMember (same.trans currentNamed.symm)
        simp [OrderRow.precedes, currentNamed, currentVersion] at unmatched
      refine ⟨start, below, ?_⟩
      intro version
      rw [exists_version_append apart.symm]
      exact range version
  · exact ok.events_append "state_changed"
  · exact ok.copies_append

private theorem VersionsOk.step (ok : VersionsOk state written) (op : Op) :
    VersionsOk (state.step op) (written ++ state.written op) := by
  have raised : ∀ failure, state.attempt op = .error failure → state.written op = [] →
      state.handedOut op = [] → VersionsOk (state.step op) (written ++ state.written op) := by
    intro failure outcome nothing nobody
    simp only [ServiceState.step, outcome, nothing, nobody, List.append_nil, List.nil_append]
    exact ok
  cases op with
  | create order referencesAccepted uuid now =>
    cases outcome : state.attempt (.create order referencesAccepted uuid now) with
    | error failure =>
      apply raised failure outcome <;>
        simp [ServiceState.handedOut, ServiceState.written, outcome, Except.isOk, Except.toBool]
    | ok =>
      simp only [ServiceState.step, ServiceState.handedOut, ServiceState.written, outcome,
        Except.isOk, Except.toBool, if_true]
      exact ok.create outcome
  | replace order uuid now =>
    cases outcome : state.attempt (.replace order uuid now) with
    | error failure =>
      apply raised failure outcome <;>
        simp [ServiceState.handedOut, ServiceState.written, outcome, Except.isOk, Except.toBool]
    | ok =>
      simp only [ServiceState.step, ServiceState.handedOut, ServiceState.written, outcome,
        Except.isOk, Except.toBool, if_true]
      exact ok.replace outcome
  | read =>
    simp only [ServiceState.written, List.append_nil]
    apply ok.keep
    · rfl
    · rfl
    · intro copy member
      simp only [ServiceState.handedOut, getWorkOrder, Option.mem_toList, Option.map_eq_some_iff] at member
      obtain ⟨row, found, rfl⟩ := member
      exact ok.latest row (List.mem_of_find?_eq_some found)
  | putOther subject aggregateId eventType json uuid now =>
    cases outcome : state.attempt (.putOther subject aggregateId eventType json uuid now) with
    | error failure => exact raised failure outcome rfl rfl
    | ok =>
      obtain rfl := putOutboxEvent_cases outcome
      simp only [ServiceState.step, outcome, ServiceState.written, List.append_nil]
      apply ok.keep
      · rfl
      · rw [orderEvents_append]
        cases subject <;> simp [pendingEvent, OtherSubject.aggregateType]
      · exact fun copy member => nomatch member
  | markOutbox eventId mark =>
    cases outcome : state.attempt (.markOutbox eventId mark) with
    | error failure => exact raised failure outcome rfl rfl
    | ok =>
      obtain rfl := markOutbox_cases outcome
      simp only [ServiceState.step, outcome, ServiceState.written, List.append_nil]
      apply ok.keep
      · rfl
      · exact orderEvents_marked _ _ mark
      · exact fun copy member => nomatch member

private theorem run_concat_step (ops : List Op) (op : Op) :
    workOrders.run (ops ++ [op]) = (workOrders.run ops).step op :=
  workOrders.run_concat ops op

private theorem versions_ok (ops : List Op) : VersionsOk (workOrders.run ops) (writtenBy ops) := by
  apply Machine.history_invariant VersionsOk
  · exact VersionsOk.start
  · exact fun state written op ok => ok.step op

/-! ### One event for each version -/

/-- Whether the event of a work order concerns a version, read off its identity. -/
def identityConcerns (workOrderId : String) (version : Int)
    (identity : String × AggregateType × String × EventPayload) : Bool :=
  identity.2.2.1 == workOrderId &&
    match identity.2.2.2 with
    | .order facts => facts.lockVersion == version
    | .other _ => false

private theorem filter_concerns (outbox : List OutboxEvent) (workOrderId : String) (version : Int) :
    (outbox.filter fun event => event.concerns workOrderId version) =
      (orderEvents outbox).filter (identityConcerns workOrderId version ∘ OutboxEvent.identity) := by
  rw [orderEvents, List.filter_filter]
  apply List.filter_congr
  intro event member
  simp only [OutboxEvent.concerns, identityConcerns, Function.comp, OutboxEvent.identity, Bool.and_assoc]
  rw [Bool.and_comm, Bool.and_assoc]

private theorem identities_concerning (outbox : List OutboxEvent) (workOrderId : String) (version : Int)
    (events : (orderEvents outbox).map OutboxEvent.identity = written.map WorkOrder.eventIdentity) :
    (outbox.filter fun event => event.concerns workOrderId version).map OutboxEvent.identity =
      (written.filter fun order => order.isVersion workOrderId version).map WorkOrder.eventIdentity := by
  rw [filter_concerns, ← List.filter_map, events, List.filter_map]
  congr 1
  apply List.filter_congr
  intro order member
  rw [Bool.eq_iff_iff]
  simp [identityConcerns, WorkOrder.eventIdentity, WorkOrder.facts, WorkOrder.isVersion, WorkOrder.version]

/-- What every run of the store owes to the versions of its work orders. -/
structure VersionsAndOutboxAgree (ops : List Op) : Prop where
  -- one successful call and one event for each version up to the current one, and no others
  versions : ∀ row ∈ (workOrders.run ops).tables.orders, row.payload ∈ writtenBy ops ∧
    ∃ created ≤ row.payload.lockVersion, ∀ version,
      (created ≤ version ∧ version ≤ row.payload.lockVersion → ∃ order event,
        (writtenBy ops).filter (fun other => other.isVersion row.workOrderId version) = [order] ∧
          (workOrders.run ops).tables.outbox.filter
            (fun other => other.concerns row.workOrderId version) = [event] ∧
          event.eventKey = orderKey row.workOrderId version ∧ event.payload = .order order.facts) ∧
      (¬ (created ≤ version ∧ version ≤ row.payload.lockVersion) →
        (writtenBy ops).filter (fun other => other.isVersion row.workOrderId version) = [] ∧
          (workOrders.run ops).tables.outbox.filter
            (fun other => other.concerns row.workOrderId version) = [])
  -- a client's successful call replaces the very order that it has read
  notOverwritten : ∀ before order uuid now rest after, ops = before ++ .replace order uuid now :: rest →
    (workOrders.run before).attempt (.replace order uuid now) = .ok after →
    ∀ copy ∈ (workOrders.run before).copies, copy.workOrderId = order.workOrderId →
      order.lockVersion = copy.lockVersion + 1 →
      ∃ row ∈ (workOrders.run before).tables.orders, row.precedes order = true ∧ row.payload = copy
  -- a call that raises changes nothing
  failed : ∀ before op rest failure, ops = before ++ op :: rest →
    (workOrders.run before).attempt op = .error failure →
    (workOrders.run (before ++ [op])).tables = (workOrders.run before).tables

/-- Whatever clients do and in whatever order, the stored order, its written versions and their events agree. -/
theorem versions_and_outbox_agree (ops : List Op) : VersionsAndOutboxAgree ops := by
  constructor
  · intro row member
    have ok := versions_ok ops
    obtain ⟨created, below, range⟩ := ok.range row member
    refine ⟨ok.latest row member, created, below, ?_⟩
    intro version
    have events := identities_concerning _ row.workOrderId version ok.events
    constructor
    · intro within
      obtain ⟨order, orderMember, same⟩ := (range version).mpr within
      have single : (writtenBy ops).filter (fun other => other.isVersion row.workOrderId version) =
          [order] := by
        simp only [WorkOrder.isVersion, ← same]
        exact ok.once.filter_eq orderMember
      rw [single, List.map_singleton] at events
      obtain ⟨event, only, identity⟩ := List.map_eq_singleton_iff.mp events
      simp only [OutboxEvent.identity, WorkOrder.eventIdentity, Prod.mk.injEq] at identity
      obtain ⟨key, -, -, payload⟩ := identity
      simp only [WorkOrder.version, Prod.mk.injEq] at same
      rw [same.1, same.2] at key
      exact ⟨order, event, single, only, key, payload⟩
    · intro outside
      have none : (writtenBy ops).filter (fun other => other.isVersion row.workOrderId version) = [] := by
        apply List.filter_eq_nil_iff.mpr
        intro order orderMember same
        simp only [WorkOrder.isVersion, decide_eq_true_eq] at same
        exact outside ((range version).mp ⟨order, orderMember, same⟩)
      rw [none, List.map_nil] at events
      exact ⟨none, List.map_eq_nil_iff.mp events⟩
  · intro before order uuid now rest after split done copy held named next
    have ok := versions_ok before
    obtain ⟨⟨row, member, preceding⟩, -⟩ := replace_cases done
    refine ⟨row, member, preceding, ?_⟩
    simp only [OrderRow.precedes, Bool.and_eq_true, beq_iff_eq] at preceding
    apply ok.once.eq_of_key (ok.latest row member) (ok.copies copy held)
    -- the stored order and the copy are the same version, and a version is written once
    apply Prod.ext
    · exact (ok.named row member).trans (preceding.1.trans named.symm)
    · simp only [WorkOrder.version]
      omega
  · intro before op rest failure split raised
    rw [run_concat_step]
    simp only [ServiceState.step, raised]

end HardwareDatabase.WorkOrders
