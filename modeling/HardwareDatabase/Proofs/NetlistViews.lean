/-
Module: HardwareDatabase.Proofs.NetlistViews
Purpose: The two views of a parsed netlist, components with pins and nets with connections, agree; what is nested
  deeper than `joined` is not read.
Trusted boundary: none
-/
import HardwareDatabase.Circuit.OrcadEdif
import HardwareDatabase.Proofs.SExprReading

namespace HardwareDatabase.Circuit

open Python (OrderedDict)

/-! ### Pins -/

variable {net name : String}

theorem mem_attach {pin other : String} {pins : List Pin} : ⟨name, some other⟩ ∈ attach pin net pins ↔
      ⟨name, some other⟩ ∈ pins ∨ (name = pin ∧ other = net) := by
  induction pins with
  | nil => simp [attach]
  | cons first rest ih =>
    rw [attach]
    by_cases free : first.name = pin ∧ first.net = none
    · rw [if_pos free, List.mem_cons, List.mem_cons]
      obtain ⟨same, unused⟩ := free
      constructor
      · rintro (here | later)
        · cases here
          exact Or.inr ⟨same, rfl⟩
        · exact Or.inl (Or.inr later)
      · rintro ((here | later) | ⟨rfl, rfl⟩)
        · rw [← here] at unused
          cases unused
        · exact Or.inr later
        · exact Or.inl (by rw [same])
    · rw [if_neg free, List.mem_cons, List.mem_cons, ih, or_assoc]

/-! ### One connection -/

namespace Wiring

/-- What a net lists. -/
def refsOf (wiring : Wiring) (net : String) : List PinRef :=
  (wiring.connections.get? net).getD []

/-- The pairs that were seen for a net. -/
def seenOn (wiring : Wiring) (net : String) : List (String × String) :=
  (wiring.seen.get? net).getD []

/-- The nets are known by name before their connections come. -/
def openNet (wiring : Wiring) (net : String) : Wiring :=
  { wiring with
    connections := wiring.connections.setDefault net []
    seen := wiring.seen.setDefault net [] }

@[simp] theorem refsOf_openNet (wiring : Wiring) (net other : String) :
    (wiring.openNet net).refsOf other = wiring.refsOf other := by
  rw [refsOf, openNet, OrderedDict.get?_setDefault, refsOf]
  by_cases here : other = net
  · rw [if_pos here, here, Option.getD_some]
  · rw [if_neg here]

@[simp] theorem seenOn_openNet (wiring : Wiring) (net other : String) :
    (wiring.openNet net).seenOn other = wiring.seenOn other := by
  rw [seenOn, openNet, OrderedDict.get?_setDefault, seenOn]
  by_cases here : other = net
  · rw [if_pos here, here, Option.getD_some]
  · rw [if_neg here]

/-- A new pair on a net, with the pin of its component. -/
def listPair (wiring : Wiring) (component : ComponentInstance) (net refdes pin : String) : Wiring :=
  { components := wiring.components.assign refdes
      { component with pins := attach pin net component.pins }
    connections := wiring.connections.assign net (wiring.refsOf net ++ [⟨refdes, some pin⟩])
    seen := wiring.seen.assign net ((refdes, pin) :: wiring.seenOn net) }

theorem refsOf_listPair (wiring : Wiring) (component : ComponentInstance) (net refdes pin other : String) :
    (wiring.listPair component net refdes pin).refsOf other =
      wiring.refsOf other ++ if other = net then [⟨refdes, some pin⟩] else [] := by
  rw [refsOf, listPair, OrderedDict.get?_assign]
  by_cases onNet : other = net
  · rw [if_pos onNet, if_pos onNet, onNet, Option.getD_some]
  · rw [if_neg onNet, if_neg onNet, List.append_nil, refsOf]

theorem seenOn_listPair (wiring : Wiring) (component : ComponentInstance) (net refdes pin other : String) :
    (wiring.listPair component net refdes pin).seenOn other =
      if other = net then (refdes, pin) :: wiring.seenOn other else wiring.seenOn other := by
  rw [seenOn, listPair, OrderedDict.get?_assign]
  by_cases onNet : other = net
  · rw [if_pos onNet, if_pos onNet, onNet, Option.getD_some]
  · rw [if_neg onNet, if_neg onNet, seenOn]

end Wiring

/-- The views agree while the nets are wired. -/
structure Wired (byId : OrderedDict String RawInstance) (wiring : Wiring) : Prop where
  named : ∀ {refdes component}, wiring.components.get? refdes = some component →
    component.refdes = refdes
  known : ∀ {id raw}, byId.get? id = some raw → raw.refdes ≠ "" →
    ∃ component, wiring.components.get? raw.refdes = some component
  attached : ∀ refdes pin net, PinRef.mk refdes (some pin) ∈ wiring.refsOf net ↔
    ∃ component, wiring.components.get? refdes = some component ∧
      Pin.mk pin (some net) ∈ component.pins
  seen : ∀ refdes pin net, PinRef.mk refdes (some pin) ∈ wiring.refsOf net ↔
    (refdes, pin) ∈ wiring.seenOn net
  once : ∀ net, (wiring.refsOf net).Nodup
  pinned : ∀ net, ∀ ref ∈ wiring.refsOf net, ref.pin.isSome = true

/-- Nets keep what they list. -/
def Grows (before after : Wiring) : Prop :=
  ∀ net, ∃ more, after.refsOf net = before.refsOf net ++ more

theorem Grows.refl (wiring : Wiring) : Grows wiring wiring :=
  fun _ => ⟨[], (List.append_nil _).symm⟩

theorem Grows.trans {first second third : Wiring} (before : Grows first second)
    (after : Grows second third) : Grows first third := by
  intro net
  obtain ⟨more, there⟩ := before net
  obtain ⟨rest, last⟩ := after net
  exact ⟨more ++ rest, by rw [last, there, List.append_assoc]⟩

theorem Grows.mem {before after : Wiring} (grows : Grows before after) {ref : PinRef}
    (listed : ref ∈ before.refsOf net) : ref ∈ after.refsOf net := by
  obtain ⟨more, there⟩ := grows net
  rw [there]
  exact List.mem_append_left _ listed

variable {byId : OrderedDict String RawInstance} {wiring : Wiring}

theorem Wired.listPair (ok : Wired byId wiring) {refdes pin : String}
    {component : ComponentInstance} (found : wiring.components.get? refdes = some component)
    (fresh : (refdes, pin) ∉ wiring.seenOn net) : Wired byId (wiring.listPair component net refdes pin) where
  named := by
    intro other otherComponent stored
    rw [Wiring.listPair, OrderedDict.get?_assign] at stored
    split at stored
    · rename_i here
      cases stored
      exact (ok.named found).trans here.symm
    · exact ok.named stored
  known := by
    intro id raw resolved filled
    rw [Wiring.listPair, OrderedDict.get?_assign]
    split
    · exact ⟨_, rfl⟩
    · exact ok.known resolved filled
  attached := by
    intro other name otherNet
    have listed : PinRef.mk other (some name) ∈ (wiring.listPair component net refdes pin).refsOf otherNet ↔
        PinRef.mk other (some name) ∈ wiring.refsOf otherNet ∨
          (other = refdes ∧ name = pin ∧ otherNet = net) := by
      rw [Wiring.refsOf_listPair, List.mem_append]
      by_cases onNet : otherNet = net
      · simp [onNet]
      · simp [onNet]
    have held : (∃ after, (wiring.listPair component net refdes pin).components.get? other = some after ∧
          Pin.mk name (some otherNet) ∈ after.pins) ↔
        (∃ before, wiring.components.get? other = some before ∧
            Pin.mk name (some otherNet) ∈ before.pins) ∨
          (other = refdes ∧ name = pin ∧ otherNet = net) := by
      rw [Wiring.listPair, OrderedDict.get?_assign]
      by_cases here : other = refdes
      · simp [here, found, mem_attach]
      · simp [here]
    rw [listed, held, ok.attached other name otherNet]
  seen := by
    intro other name otherNet
    rw [Wiring.refsOf_listPair, Wiring.seenOn_listPair, List.mem_append, ok.seen other name otherNet]
    by_cases onNet : otherNet = net
    · simp [onNet, or_comm]
    · simp [onNet]
  once := by
    intro otherNet
    rw [Wiring.refsOf_listPair]
    by_cases onNet : otherNet = net
    · rw [if_pos onNet]
      refine (ok.once otherNet).append (List.nodup_singleton _) ?_
      rw [List.disjoint_singleton, onNet]
      exact fun listed => fresh ((ok.seen refdes pin net).mp listed)
    · rw [if_neg onNet, List.append_nil]
      exact ok.once otherNet
  pinned := by
    intro otherNet ref listed
    rw [Wiring.refsOf_listPair, List.mem_append] at listed
    rcases listed with earlier | here
    · exact ok.pinned otherNet ref earlier
    · split at here
      · rw [List.mem_singleton.mp here]
        rfl
      · cases here

theorem resolve_spec {connection : RawConnection} {raw : RawInstance} (resolved : resolve byId connection = some raw) :
    (∃ id, byId.get? id = some raw) ∧ raw.refdes ≠ "" := by
  rw [resolve, Option.filter_eq_some_iff, Option.bind_eq_some_iff] at resolved
  obtain ⟨⟨id, _, found⟩, filled⟩ := resolved
  exact ⟨⟨id, found⟩, by simpa using filled⟩

theorem connect_wired (ok : Wired byId wiring) (net : String) (connection : RawConnection) :
    Wired byId (connect byId net wiring connection) ∧ Grows wiring (connect byId net wiring connection) ∧
        ∀ raw, resolve byId connection = some raw →
          ⟨raw.refdes, some connection.pin⟩ ∈ (connect byId net wiring connection).refsOf net := by
  rw [connect]
  cases resolved : resolve byId connection with
  | none => exact ⟨ok, Grows.refl wiring, by simp⟩
  | some raw =>
    obtain ⟨⟨id, stored⟩, filled⟩ := resolve_spec resolved
    obtain ⟨component, found⟩ := ok.known stored filled
    simp only [found]
    split
    · rename_i known
      refine ⟨ok, Grows.refl wiring, ?_⟩
      intro other same
      cases same
      exact (ok.seen raw.refdes connection.pin net).mpr known
    · rename_i fresh
      have listed := Wiring.refsOf_listPair wiring component net raw.refdes connection.pin
      refine ⟨ok.listPair found fresh, fun other => ⟨_, listed other⟩, ?_⟩
      intro other same
      cases same
      have here : ⟨raw.refdes, some connection.pin⟩ ∈
          (wiring.listPair component net raw.refdes connection.pin).refsOf net := by
        rw [listed net, if_pos rfl]
        simp
      exact here

/-! ### Nets -/

theorem connections_wired (net : String) (connections : List RawConnection) (ok : Wired byId wiring) :
    Wired byId (connections.foldl (connect byId net) wiring) ∧
      Grows wiring (connections.foldl (connect byId net) wiring) ∧
        ∀ connection ∈ connections, ∀ raw, resolve byId connection = some raw →
          ⟨raw.refdes, some connection.pin⟩ ∈ (connections.foldl (connect byId net) wiring).refsOf net := by
  induction connections generalizing wiring with
  | nil => exact ⟨ok, Grows.refl wiring, by simp⟩
  | cons connection rest ih =>
    obtain ⟨stepped, grows, listed⟩ := connect_wired ok net connection
    obtain ⟨last, further, others⟩ := ih stepped
    rw [List.foldl_cons]
    refine ⟨last, grows.trans further, ?_⟩
    intro other member raw resolved
    rcases List.mem_cons.mp member with rfl | later
    · exact further.mem (listed raw resolved)
    · exact others other later raw resolved

theorem Wired.openNet (ok : Wired byId wiring) (net : String) : Wired byId (wiring.openNet net) where
  named := ok.named
  known := ok.known
  attached refdes pin other := by
    rw [Wiring.refsOf_openNet]
    exact ok.attached refdes pin other
  seen refdes pin other := by
    rw [Wiring.refsOf_openNet, Wiring.seenOn_openNet]
    exact ok.seen refdes pin other
  once other := by
    rw [Wiring.refsOf_openNet]
    exact ok.once other
  pinned other := by
    rw [Wiring.refsOf_openNet]
    exact ok.pinned other

theorem wireNets_wired (nets : List (String × List RawConnection)) (ok : Wired byId wiring) :
    Wired byId (nets.foldl (wireNet byId) wiring) ∧ Grows wiring (nets.foldl (wireNet byId) wiring) ∧
        ∀ net ∈ nets, ∀ connection ∈ net.2, ∀ raw, resolve byId connection = some raw →
          ⟨raw.refdes, some connection.pin⟩ ∈ (nets.foldl (wireNet byId) wiring).refsOf net.1 := by
  induction nets generalizing wiring with
  | nil => exact ⟨ok, Grows.refl wiring, by simp⟩
  | cons net rest ih =>
    have opens : Grows wiring (wiring.openNet net.1) :=
      fun other => ⟨[], by rw [Wiring.refsOf_openNet, List.append_nil]⟩
    obtain ⟨wired, grows, listed⟩ := connections_wired net.1 net.2 (ok.openNet net.1)
    obtain ⟨last, further, others⟩ := ih wired
    rw [List.foldl_cons]
    refine ⟨last, (opens.trans grows).trans further, ?_⟩
    intro other member connection inside raw resolved
    rcases List.mem_cons.mp member with rfl | later
    · exact further.mem (listed connection inside raw resolved)
    · exact others other later connection inside raw resolved

/-! ### Components -/

/-- The components before the nets are wired: each under its own designator, with free pins. -/
structure Unwired (components : OrderedDict String ComponentInstance) : Prop where
  named : ∀ {refdes component}, components.get? refdes = some component → component.refdes = refdes
  free : ∀ {refdes component}, components.get? refdes = some component →
    ∀ pin ∈ component.pins, pin.net = none

theorem declaredPins_free (cellPins : OrderedDict (String × String) (List String)) (raw : RawInstance) :
    ∀ pin ∈ declaredPins cellPins raw, pin.net = none := by
  intro pin member
  obtain ⟨name, _, rfl⟩ := List.mem_map.mp member
  rfl

theorem addInstance_unwired {source : String} {cellPins : OrderedDict (String × String) (List String)}
    {components : OrderedDict String ComponentInstance} (ok : Unwired components) (raw : RawInstance) :
    Unwired (addInstance source cellPins components raw) ∧
      ∀ refdes, refdes ≠ "" → (refdes = raw.refdes ∨ ∃ before, components.get? refdes = some before) →
        ∃ component, (addInstance source cellPins components raw).get? refdes = some component := by
  rw [addInstance]
  split
  · rename_i blank
    refine ⟨ok, ?_⟩
    rintro refdes filled (rfl | known)
    · exact absurd blank filled
    · exact known
  · have assigned (component : ComponentInstance) (name : component.refdes = raw.refdes)
        (free : ∀ pin ∈ component.pins, pin.net = none) :
        Unwired (components.assign raw.refdes component) ∧
          ∀ refdes, refdes ≠ "" →
            (refdes = raw.refdes ∨ ∃ before, components.get? refdes = some before) →
              ∃ last, (components.assign raw.refdes component).get? refdes = some last := by
      refine ⟨⟨?_, ?_⟩, ?_⟩
      · intro refdes other stored
        rw [OrderedDict.get?_assign] at stored
        split at stored
        · rename_i here
          cases stored
          exact name.trans here.symm
        · exact ok.named stored
      · intro refdes other stored
        rw [OrderedDict.get?_assign] at stored
        split at stored
        · cases stored
          exact free
        · exact ok.free stored
      · intro refdes _ known
        rw [OrderedDict.get?_assign]
        split
        · exact ⟨_, rfl⟩
        · rename_i other
          exact known.resolve_left other
    simp only
    split
    · exact assigned _ rfl (declaredPins_free cellPins raw)
    · rename_i existing found
      have name : existing.refdes = raw.refdes := ok.named found
      refine assigned _ name ?_
      intro pin member
      rcases List.mem_append.mp member with earlier | added
      · exact ok.free found pin earlier
      · exact declaredPins_free cellPins raw pin added

theorem addInstances_unwired {source : String}
    {cellPins : OrderedDict (String × String) (List String)} (raws : List RawInstance)
    {components : OrderedDict String ComponentInstance} (ok : Unwired components) :
    Unwired (raws.foldl (addInstance source cellPins) components) ∧ ∀ refdes, refdes ≠ "" →
        ((∃ raw ∈ raws, raw.refdes = refdes) ∨ ∃ before, components.get? refdes = some before) →
          ∃ component, (raws.foldl (addInstance source cellPins) components).get? refdes = some component := by
  induction raws generalizing components with
  | nil => exact ⟨ok, fun refdes _ known => by simpa using known⟩
  | cons raw rest ih =>
    obtain ⟨added, covers⟩ := @addInstance_unwired source cellPins _ ok raw
    obtain ⟨last, others⟩ := ih added
    rw [List.foldl_cons]
    refine ⟨last, ?_⟩
    rintro refdes filled (⟨other, member, rfl⟩ | known)
    · rcases List.mem_cons.mp member with rfl | later
      · exact others _ filled (Or.inr (covers _ filled (Or.inl rfl)))
      · exact others _ filled (Or.inl ⟨other, later, rfl⟩)
    · exact others _ filled (Or.inr (covers _ filled (Or.inr known)))

theorem mem_of_instancesById {raws : List RawInstance} {id : String} {raw : RawInstance}
    (found : (instancesById raws).get? id = some raw) : raw ∈ raws := by
  have kept : ∀ (later : List RawInstance) (dict : OrderedDict String RawInstance),
      (∀ id raw, dict.get? id = some raw → raw ∈ raws) → (∀ raw ∈ later, raw ∈ raws) →
        ∀ id raw, (later.foldl (fun byId raw =>
          if raw.instanceId = "" then byId else byId.setDefault raw.instanceId raw) dict).get? id =
            some raw → raw ∈ raws := by
    intro later
    induction later with
    | nil => exact fun dict start _ => start
    | cons first rest ih =>
      intro dict start members
      rw [List.foldl_cons]
      apply ih _ _ fun raw member => members raw (List.mem_cons_of_mem _ member)
      intro id raw stored
      split at stored
      · exact start id raw stored
      · rw [OrderedDict.get?_setDefault] at stored
        split at stored
        · cases present : dict.get? first.instanceId with
          | none =>
            rw [present] at stored
            cases stored
            exact members _ List.mem_cons_self
          | some =>
            rw [present] at stored
            cases stored
            exact start _ _ present
        · exact start id raw stored
  exact kept raws OrderedDict.empty (by simp) (fun _ member => member) id raw found

theorem wired_agrees (source : String) (codec : Codec) (root : SExpr) :
    Wired (instancesById (walkInstances codec root)) (wired source codec root) ∧
      ∀ net ∈ walkNets root, ∀ connection ∈ net.2, ∀ raw,
        resolve (instancesById (walkInstances codec root)) connection = some raw →
          ⟨raw.refdes, some connection.pin⟩ ∈ (wired source codec root).refsOf net.1 := by
  obtain ⟨unwired, covers⟩ := @addInstances_unwired source
    (collectCellPins root) (walkInstances codec root) OrderedDict.empty
    ⟨by simp, by simp⟩
  have start : Wired (instancesById (walkInstances codec root))
      { components := (walkInstances codec root).foldl (addInstance source (collectCellPins root))
          OrderedDict.empty
        connections := OrderedDict.empty
        seen := OrderedDict.empty } := by
    refine ⟨unwired.named, ?_, ?_, ?_, ?_, ?_⟩
    · intro id raw found filled
      exact covers raw.refdes filled (Or.inl ⟨raw, mem_of_instancesById found, rfl⟩)
    · intro refdes pin net
      constructor
      · intro listed
        simp [Wiring.refsOf] at listed
      · rintro ⟨component, found, member⟩
        have free := unwired.free found _ member
        simp at free
    · intro refdes pin net
      simp [Wiring.refsOf, Wiring.seenOn]
    · intro net
      simp [Wiring.refsOf]
    · intro net
      simp [Wiring.refsOf]
  obtain ⟨last, _, listed⟩ := wireNets_wired (walkNets root) start
  exact ⟨last, listed⟩

/-! ### Forms in a tree -/

/-- A child occurs in another one, at any depth. -/
inductive Child.Within (inner : Child) : Child → Prop
  | here : Child.Within inner inner
  | inside {head : String} {children : List Child} {child : Child} (member : child ∈ children)
      (deeper : Child.Within inner child) : Child.Within inner (.node head children)

theorem mem_visitNetsIn {children : List Child} {child : Child} (member : child ∈ children)
    {net : String × List RawConnection} (found : net ∈ visitNets child) : net ∈ visitNetsIn children := by
  induction children with
  | nil => simp at member
  | cons first rest ih =>
    rw [visitNetsIn, List.mem_append]
    rcases List.mem_cons.mp member with rfl | later
    · exact Or.inl found
    · exact Or.inr (ih later)

theorem mem_walkNets {root net : SExpr} (within : net.asChild.Within root.asChild)
    (isNet : net.head = "net") (named : nodeName net = some name) :
    (name, (netPortRefs net).map rawConnection) ∈ walkNets root := by
  rw [walkNets]
  generalize root.asChild = outer at within
  induction within with
  | here =>
    obtain ⟨head, children⟩ := net
    obtain rfl : head = "net" := isNet
    rw [SExpr.asChild, visitNets]
    simp [named]
  | inside member _ ih =>
    rw [visitNets, List.mem_append]
    exact Or.inr (mem_visitNetsIn member ih)

/-! ### Accepted files -/

/-- The net view and the component view agree. -/
structure ViewsAgree (instances : List ComponentInstance) (nets : List Net) : Prop where
  /-- a designator has one component, and a name one net -/
  components : (instances.map ComponentInstance.refdes).Nodup
  names : (nets.map Net.name).Nodup
  /-- a pin is listed by a net exactly if its component has it on the net -/
  attached : ∀ refdes pin name,
    (∃ net ∈ nets, net.name = name ∧ PinRef.mk refdes (some pin) ∈ net.connections) ↔
      ∃ component ∈ instances, component.refdes = refdes ∧ Pin.mk pin (some name) ∈ component.pins
  known : ∀ net ∈ nets, ∀ ref ∈ net.connections, ref.pin.isSome = true ∧
    ∃ component ∈ instances, component.refdes = ref.refdes
  once : ∀ net ∈ nets, net.connections.Nodup

theorem mem_parsed {wiring : Wiring} {net : Net} :
    net ∈ (wiring.connections.entries.insertionSort fun left right => left.1 ≤ right.1).map
        (fun entry => { name := entry.1, connections := entry.2, netType := "signal" : Net }) ↔
      wiring.connections.get? net.name = some net.connections ∧ net.netType = "signal" := by
  rw [List.mem_map]
  constructor
  · rintro ⟨⟨name, refs⟩, member, rfl⟩
    rw [List.mem_insertionSort, OrderedDict.mem_entries_iff] at member
    exact ⟨member, rfl⟩
  · rintro ⟨found, kind⟩
    refine ⟨(net.name, net.connections), ?_, ?_⟩
    · rw [List.mem_insertionSort, OrderedDict.mem_entries_iff]
      exact found
    · cases net
      simp only at kind
      rw [kind]

variable {wiring : Wiring} {byId : OrderedDict String RawInstance}

theorem mem_values_iff (ok : Wired byId wiring) {component : ComponentInstance} : component ∈ wiring.components.values ↔
      wiring.components.get? component.refdes = some component := by
  rw [OrderedDict.values, List.mem_map]
  constructor
  · rintro ⟨⟨refdes, stored⟩, member, rfl⟩
    rw [OrderedDict.mem_entries_iff] at member
    rw [ok.named member]
    exact member
  · intro found
    exact ⟨(component.refdes, component), OrderedDict.mem_entries_iff.mpr found, rfl⟩

theorem refsOf_iff {ref : PinRef} :
    ref ∈ wiring.refsOf name ↔ ∃ refs, wiring.connections.get? name = some refs ∧ ref ∈ refs := by
  rw [Wiring.refsOf]
  cases wiring.connections.get? name with
  | none => simp
  | some => simp

variable {nets : List Net}

theorem viewsAgree_of_wired (ok : Wired byId wiring) {instances : List ComponentInstance} (sorted : instances =
      wiring.components.values.insertionSort fun left right => left.refdes ≤ right.refdes) (named : nets =
      (wiring.connections.entries.insertionSort fun left right => left.1 ≤ right.1).map
        fun entry => { name := entry.1, connections := entry.2, netType := "signal" }) :
    ViewsAgree instances nets := by
  have mem_instances {component : ComponentInstance} : component ∈ instances ↔
      wiring.components.get? component.refdes = some component := by
    rw [sorted, List.mem_insertionSort]
    exact mem_values_iff ok
  have mem_nets {net : Net} : net ∈ nets ↔
      wiring.connections.get? net.name = some net.connections ∧ net.netType = "signal" := by
    rw [named]
    exact mem_parsed
  have listed (name : String) (ref : PinRef) :
      (∃ net ∈ nets, net.name = name ∧ ref ∈ net.connections) ↔ ref ∈ wiring.refsOf name := by
    rw [refsOf_iff]
    constructor
    · rintro ⟨net, member, rfl, listed⟩
      exact ⟨net.connections, (mem_nets.mp member).1, listed⟩
    · rintro ⟨refs, found, listed⟩
      exact ⟨⟨name, refs, "signal"⟩, mem_nets.mpr ⟨found, rfl⟩, rfl, listed⟩
  have held (refdes : String) (pin : Pin) :
      (∃ component, wiring.components.get? refdes = some component ∧ pin ∈ component.pins) ↔
        ∃ component ∈ instances, component.refdes = refdes ∧ pin ∈ component.pins := by
    constructor
    · rintro ⟨component, found, member⟩
      have name := ok.named found
      exact ⟨component, mem_instances.mpr (name ▸ found), name, member⟩
    · rintro ⟨component, member, rfl, onPin⟩
      exact ⟨component, mem_instances.mp member, onPin⟩
  constructor
  · have keys : (wiring.components.values.map ComponentInstance.refdes).Nodup := by
      have same : wiring.components.values.map ComponentInstance.refdes =
          wiring.components.entries.map Prod.fst := by
        rw [OrderedDict.values, List.map_map]
        apply List.map_congr_left
        intro entry member
        exact ok.named (OrderedDict.mem_entries_iff.mp member)
      rw [same]
      exact wiring.components.distinct
    rw [sorted]
    exact ((List.perm_insertionSort _ _).map _).nodup_iff.mpr keys
  · rw [named, List.map_map]
    exact ((List.perm_insertionSort _ _).map _).nodup_iff.mpr wiring.connections.distinct
  · intro refdes pin name
    rw [listed, ok.attached, held]
  · intro net member ref onNet
    have there := (listed net.name ref).mp ⟨net, member, rfl, onNet⟩
    have pinned := ok.pinned net.name ref there
    obtain ⟨refdes, pin⟩ := ref
    obtain ⟨pin, rfl⟩ := Option.isSome_iff_exists.mp pinned
    obtain ⟨component, found, _⟩ := (ok.attached refdes pin net.name).mp there
    have name := ok.named found
    exact ⟨rfl, component, mem_instances.mpr (name ▸ found), name⟩
  · intro net member
    have bucket := (mem_nets.mp member).1
    have refs : wiring.refsOf net.name = net.connections := by
      rw [Wiring.refsOf, bucket, Option.getD_some]
    rw [← refs]
    exact ok.once net.name

theorem parseOrcadEdif_spec {codec : Codec} {filePath : String} {sourceLabel : Option String}
    {text : List Char} {instances : List ComponentInstance}
    (parsed : parseOrcadEdif codec filePath sourceLabel text = .ok (instances, nets)) :
    ∃ root, parseEdif text = .ok root ∧ instances = (wired ((nonBlank sourceLabel).getD (baseName filePath)) codec
        root).components.values.insertionSort (fun left right => left.refdes ≤ right.refdes) ∧
      nets = ((wired ((nonBlank sourceLabel).getD (baseName filePath)) codec
          root).connections.entries.insertionSort fun left right => left.1 ≤ right.1).map
        fun entry => { name := entry.1, connections := entry.2, netType := "signal" } := by
  rw [parseOrcadEdif] at parsed
  cases read : parseEdif text with
  | error =>
    rw [read] at parsed
    cases parsed
  | ok root =>
    rw [read] at parsed
    cases parsed
    exact ⟨root, rfl, rfl, rfl⟩

/-- For every file that is accepted the net view and the component view agree, and every `portRef` that
stands directly in the first `joined` form of a named net and whose `instanceRef` leads to an instance is
listed by the net of that name. -/
theorem netlist_views_agree {codec : Codec} {filePath : String} {sourceLabel : Option String}
    {text : List Char} {instances : List ComponentInstance} {nets : List Net}
    (parsed : parseOrcadEdif codec filePath sourceLabel text = .ok (instances, nets)) : ViewsAgree instances nets ∧
      ∃ root, parseEdif text = .ok root ∧ ∀ net : SExpr, net.asChild.Within root.asChild → net.head = "net" →
          ∀ name, nodeName net = some name → ∀ ref ∈ netPortRefs net, ∀ raw,
            resolve (instancesById (walkInstances codec root)) (rawConnection ref) = some raw →
              ∃ listed ∈ nets, listed.name = name ∧
                PinRef.mk raw.refdes (some (rawConnection ref).pin) ∈ listed.connections := by
  obtain ⟨root, read, sorted, named⟩ := parseOrcadEdif_spec parsed
  obtain ⟨ok, lists⟩ := wired_agrees ((nonBlank sourceLabel).getD (baseName filePath)) codec root
  refine ⟨viewsAgree_of_wired ok sorted named, root, read, ?_⟩
  intro net within isNet name isNamed ref member raw resolved
  have there := lists _ (mem_walkNets within isNet isNamed) (rawConnection ref)
    (List.mem_map.mpr ⟨ref, member, rfl⟩) raw resolved
  obtain ⟨refs, bucket, listed⟩ := refsOf_iff.mp there
  refine ⟨⟨name, refs, "signal"⟩, ?_, rfl, listed⟩
  rw [named]
  exact mem_parsed.mpr ⟨bucket, rfl⟩

/-! ### Samples -/

/-- A host that knows the ASCII digits. -/
def plainCodec : Codec where
  gbk _ := ""
  decimal character := if character.isDigit then some (character.toNat - 48) else none

/-- A net that joins the pin of a resistor. -/
def joinedNet : List Char :=
  "(edif D (instance I1 (designator \"R1\")) (net N (joined (portRef 1 (instanceRef I1)))))".toList

/-- A net that joins the same pin through a `portList`. -/
def bundledForm : SExpr :=
  ⟨"net", [.symbol "N", .node "joined" [.node "portList"
    [.node "portRef" [.symbol "1", .node "instanceRef" [.symbol "I1"]]]]]⟩

/-- The file of the bundled net. -/
def bundledNet : List Char :=
  "(edif D (instance I1 (designator \"R1\")) (net N (joined (portList (portRef 1 (instanceRef I1))))))".toList

/-- The tree of the file. -/
def bundledTree : SExpr :=
  ⟨"edif", [.symbol "D", .node "instance" [.symbol "I1", .node "designator" [.string "R1"]],
    bundledForm.asChild]⟩

/-- What is parsed from a file. -/
def parsedNets (text : List Char) : Option (List Net) :=
  (parseOrcadEdif plainCodec "a.edf" none text).toOption.map Prod.snd

theorem exists_of_parsedNets {text : List Char} (parsed : parsedNets text = some nets) :
    ∃ instances, parseOrcadEdif plainCodec "a.edf" none text = .ok (instances, nets) := by
  rw [parsedNets] at parsed
  cases result : parseOrcadEdif plainCodec "a.edf" none text with
  | error =>
    rw [result] at parsed
    cases parsed
  | ok views =>
    rw [result] at parsed
    cases parsed
    exact ⟨views.1, rfl⟩

/-- The pin of the resistor is on the net. -/
theorem joined_net_agrees : ∃ instances, ViewsAgree instances [⟨"N", [⟨"R1", some "1"⟩], "signal"⟩] := by
  have parsed : parsedNets joinedNet = some [⟨"N", [⟨"R1", some "1"⟩], "signal"⟩] := by decide +kernel
  obtain ⟨instances, accepted⟩ := exists_of_parsedNets parsed
  exact ⟨instances, (netlist_views_agree accepted).1⟩

/-- A `portRef` inside a `portList` names an instance, and its net lists nothing. -/
theorem listed_port_is_lost : ¬ ∀ (codec : Codec) (filePath : String) (sourceLabel : Option String) (text : List Char)
        (instances : List ComponentInstance) (nets : List Net) (root : SExpr),
      parseOrcadEdif codec filePath sourceLabel text = .ok (instances, nets) → parseEdif text = .ok root →
        ∀ net : SExpr, net.asChild.Within root.asChild → net.head = "net" →
          ∀ name, nodeName net = some name →
            ∀ ref : SExpr, ref.asChild.Within net.asChild → ref.head = "portRef" → ∀ raw,
              resolve (instancesById (walkInstances codec root)) (rawConnection ref) = some raw →
                ∃ listed ∈ nets, listed.name = name ∧
                  PinRef.mk raw.refdes (some (rawConnection ref).pin) ∈ listed.connections := by
  intro represented
  have parsed : parsedNets bundledNet = some [⟨"N", [], "signal"⟩] := by decide +kernel
  obtain ⟨instances, accepted⟩ := exists_of_parsedNets parsed
  have tokens : tokenize bundledNet = ⟨bundledTree.tokens, none⟩ := by decide +kernel
  have read : parseEdif bundledNet = .ok bundledTree := parseEdif_of_tokens tokens (by decide)
  have resolved : (resolve (instancesById (walkInstances plainCodec bundledTree))
      (rawConnection ⟨"portRef", [.symbol "1", .node "instanceRef" [.symbol "I1"]]⟩)).isSome = true := by
    decide +kernel
  obtain ⟨raw, found⟩ := Option.isSome_iff_exists.mp resolved
  have within : bundledForm.asChild.Within bundledTree.asChild :=
    .inside (List.mem_cons_of_mem _ (List.mem_cons_of_mem _ (List.mem_singleton_self _))) .here
  have inner : (SExpr.mk "portRef" [.symbol "1", .node "instanceRef" [.symbol "I1"]]).asChild.Within
      bundledForm.asChild :=
    .inside (List.mem_cons_of_mem _ (List.mem_singleton_self _))
      (.inside (List.mem_singleton_self _) (.inside (List.mem_singleton_self _) .here))
  obtain ⟨listed, member, _, onNet⟩ := represented plainCodec "a.edf" none bundledNet instances _
    bundledTree accepted read bundledForm within rfl "N" (by decide) _ inner rfl raw found
  obtain rfl := List.mem_singleton.mp member
  cases onNet

end HardwareDatabase.Circuit
