/-
Module: HardwareDatabase.Proofs.NamedLookups
Purpose: When an entity is found by its own name, and a condition on the design under which the peers of pins are
  mutual.
Trusted boundary: none
-/
import HardwareDatabase.Circuit.QueryEngine

namespace HardwareDatabase.Circuit

open Python

variable {casing : Casing} {design : CircuitDesign}

/-! ### Lookups by name

Names are compared by their normal forms, and the first match wins. -/

theorem map_find?_eq_some_iff {α β : Type} {p : α → Bool} {f : α → β} {before after : List α} {item : α}
    (self : p item = true) (apart : ∀ other ∈ before, f other ≠ f item) :
    ((before ++ item :: after).find? p).map f = some (f item) ↔ ∀ other ∈ before, p other = false := by
  rw [List.find?_append]
  cases found : before.find? p with
  | none =>
    have unmatched : ∀ other ∈ before, p other = false := fun other member => by
      simpa using List.find?_eq_none.mp found other member
    refine iff_of_true ?_ unmatched
    simp [self]
  | some other =>
    have member := List.mem_of_find?_eq_some found
    have matched := List.find?_some found
    constructor
    · intro same
      exact absurd (Option.some.inj same) (apart other member)
    · intro unmatched
      rw [unmatched other member] at matched
      cases matched

variable {α : Type}

theorem ne_of_nodup_map {κ : Type} {key : α → κ} {before after : List α} {item : α}
    (distinct : ((before ++ item :: after).map key).Nodup) : ∀ other ∈ before, key other ≠ key item := by
  intro other member same
  rw [List.map_append, List.map_cons, List.nodup_append] at distinct
  exact distinct.2.2 _ (List.mem_map_of_mem member) _ List.mem_cons_self same

/-- The names of a design are distinct. -/
structure DistinctNames (design : CircuitDesign) : Prop where
  netNames : (design.nets.map (·.name)).Nodup
  refdes : (design.instances.map (·.refdes)).Nodup
  moduleIds : (design.modules.map (·.moduleId)).Nodup
  moduleNames : (design.modules.map (·.name)).Nodup

/-- The entities of a design with distinct names are found by their names exactly if nothing before them in the design
looks like the name. -/
theorem exact_name_finds_iff (casing : Casing) (design : CircuitDesign) (distinct : DistinctNames design) :
    (∀ before net after, design.nets = before ++ net :: after →
      (netConnections casing design net.name = some (connectionsOn design net) ↔
        ∀ other ∈ before, netMatches casing net.name other = false)) ∧
    (∀ before component after, design.instances = before ++ component :: after →
      (instanceConnections design component.refdes = some (connectionsOf design component) ↔
        ∀ other ∈ before, refdesMatches component.refdes other = false) ∧
      (instanceDetail design component.refdes = some (detailOf design component) ↔
        ∀ other ∈ before, refdesMatches component.refdes other = false)) ∧
    ∀ before listed after, design.modules = before ++ listed :: after → ∀ name ∈ [listed.moduleId, listed.name],
      (findModuleByIdOrName casing design name = some listed ↔
        ∀ other ∈ before, moduleMatches casing name other = false) ∧
      (moduleDetail casing design name = some (moduleToRow design listed 1000) ↔
        ∀ other ∈ before, moduleMatches casing name other = false) := by
  refine ⟨fun before net after split => ?_, fun before component after split => ?_,
    fun before listed after split name own => ?_⟩
  · have apart := ne_of_nodup_map (split ▸ distinct.netNames)
    rw [netConnections, findNetByName, split]
    refine map_find?_eq_some_iff (by simp [netMatches]) fun other member same => ?_
    exact apart other member (congrArg NetConnections.netName same)
  · have apart := ne_of_nodup_map (split ▸ distinct.refdes)
    have self : refdesMatches component.refdes component = true := beq_self_eq_true _
    rw [instanceConnections, instanceDetail, findInstanceByRefdes, split]
    constructor
    · refine map_find?_eq_some_iff self fun other member same => ?_
      exact apart other member (congrArg InstanceConnections.refdes same)
    · refine map_find?_eq_some_iff self fun other member same => ?_
      exact apart other member (congrArg InstanceDetail.refdes same)
  · have apart := ne_of_nodup_map (split ▸ distinct.moduleIds)
    have self : moduleMatches casing name listed = true := by
      rcases List.mem_cons.mp own with rfl | own
      · simp [moduleMatches]
      · obtain rfl := List.mem_singleton.mp own
        simp [moduleMatches]
    have found : findModuleByIdOrName casing design name = _ :=
      congrArg (List.find? (moduleMatches casing name)) split
    constructor
    · rw [found]
      have others : ∀ other ∈ before, id other ≠ id listed := fun other member same =>
        apart other member (congrArg CircuitModule.moduleId same)
      have direct := @map_find?_eq_some_iff _ _ (moduleMatches casing name) id before after listed self others
      rwa [Option.map_id] at direct
    · rw [moduleDetail, found]
      refine map_find?_eq_some_iff self fun other member same => ?_
      exact apart other member (congrArg ModuleRow.moduleId same)

/-! ### Peers of a pin

`get_instance_connections` keeps one net for each pin, the last one whose connection looks like it, and then
takes the last net of that name. The condition under which this finds the net of the pin is one on the
design alone. -/

/-- The peers that `get_instance_connections` reports for a pin. -/
def peersOfPin (design : CircuitDesign) (refdes pin : String) : List String :=
  match instanceConnections design refdes with
  | none => []
  | some answer => (answer.pins.filter fun row => row.name == pin).flatMap (·.peers)

/-- A net has connections to both pins. -/
def SharesNet (design : CircuitDesign) (first second : PinRef) : Prop :=
  ∃ net ∈ design.nets, first ∈ net.connections ∧ second ∈ net.connections

/-- The peers of both pins are those of the netlist. -/
structure PeersMutual (design : CircuitDesign) (first second : PinRef) : Prop where
  both : second.endpoint ∈ peersOfPin design first.refdes first.pinText ↔
    first.endpoint ∈ peersOfPin design second.refdes second.pinText
  shared : second.endpoint ∈ peersOfPin design first.refdes first.pinText ↔ SharesNet design first second

/-- The last net with this pin at a designator of the same normal form. -/
def lastNetOfPin (design : CircuitDesign) (place : PinRef) : Option Net :=
  design.nets.reverse.find? fun net => net.connections.any fun connection =>
    sameRefdes place.refdes connection && connection.pinText == place.pinText

/-- The last net of a name. -/
def lastNetNamed (design : CircuitDesign) (name : String) : Option Net :=
  design.nets.reverse.find? fun net => decide (net.name = name)

/-- The first instance that looks like the designator lists the pin, unless it lists none. -/
def Listed (design : CircuitDesign) (place : PinRef) : Prop :=
  ∃ found, findInstanceByRefdes design place.refdes = some found ∧
    (found.pins = [] ∨ place.pinText ∈ found.pins.map (·.name))

/-- The pin has a name and is listed, the last net that has it has a name, and on the last net of that name there is
an endpoint with the text of the other pin, at a designator of another normal form. -/
def Reaches (design : CircuitDesign) (first second : PinRef) : Prop :=
  first.pinText ≠ "" ∧ Listed design first ∧ ∃ last net, lastNetOfPin design first = some last ∧ last.name ≠ "" ∧
    lastNetNamed design last.name = some net ∧
      ∃ connection ∈ net.connections, sameRefdes first.refdes connection = false ∧
        connection.endpoint = second.endpoint

/-- Nothing else in the design is taken for the pin: no other connection has a designator of its normal form or
its text; it is on one net at most, whose name is not blank and no other net's; and if it is on one, it
has a name, and every component of its normal form (there is one) lists it, unless that one lists no pins. -/
structure Unambiguous (design : CircuitDesign) (place : PinRef) : Prop where
  ownRefdes : ∀ net ∈ design.nets, ∀ connection ∈ net.connections,
    normalizeRefdes connection.refdes = normalizeRefdes place.refdes → connection.refdes = place.refdes
  ownText : ∀ net ∈ design.nets, ∀ connection ∈ net.connections,
    connection.endpoint = place.endpoint → connection = place
  oneNet : ∀ net ∈ design.nets, place ∈ net.connections →
    ∀ other ∈ design.nets, place ∈ other.connections → other = net
  ownName : ∀ net ∈ design.nets, place ∈ net.connections →
    net.name ≠ "" ∧ ∀ other ∈ design.nets, other.name = net.name → other = net
  listed : ∀ net ∈ design.nets, place ∈ net.connections → place.pinText ≠ "" ∧
    (∃ component ∈ design.instances, refdesMatches place.refdes component = true) ∧
      ∀ component ∈ design.instances, refdesMatches place.refdes component = true →
        component.pins = [] ∨ place.pinText ∈ component.pins.map (·.name)

theorem get?_netByName (design : CircuitDesign) (name : String) :
    design.netByName.get? name = lastNetNamed design name := by
  rw [CircuitDesign.netByName, OrderedDict.get?_ofEntries, ← List.map_reverse, List.find?_map, Option.map_map,
    lastNetNamed]
  exact congrFun Option.map_id _

theorem find?_reverse_flatMap {β : Type} {f : α → List β} {p : β → Bool} (items : List α) :
    (items.flatMap f).reverse.find? p = items.reverse.findSome? fun item => (f item).reverse.find? p := by
  rw [List.reverse_flatMap, List.find?_flatMap]
  rfl

variable {place : PinRef}

theorem find?_pinEntries (net : Net) (named : place.pinText ≠ "") :
    ((((net.connections.filter fun connection => sameRefdes place.refdes connection && connection.pinText != "").map
        fun connection => (connection.pinText, net.name)).reverse.find? fun entry =>
          decide (entry.1 = place.pinText)).map Prod.snd) =
      if net.connections.any (fun connection =>
        sameRefdes place.refdes connection && connection.pinText == place.pinText) then some net.name else none := by
  split
  · rename_i has
    obtain ⟨connection, member, own⟩ := List.any_eq_true.mp has
    rw [Bool.and_eq_true, beq_iff_eq] at own
    have there : (connection.pinText, net.name) ∈ ((net.connections.filter fun connection =>
        sameRefdes place.refdes connection && connection.pinText != "").map
          fun connection => (connection.pinText, net.name)).reverse := by
      refine List.mem_reverse.mpr (List.mem_map.mpr ⟨connection, List.mem_filter.mpr ⟨member, ?_⟩, rfl⟩)
      rw [own.1, own.2, Bool.true_and]
      exact bne_iff_ne.mpr named
    have found := (@List.find?_isSome _ _ fun entry : String × String => decide (entry.1 = place.pinText)).mpr
      ⟨_, there, decide_eq_true own.2⟩
    obtain ⟨entry, found⟩ := Option.isSome_iff_exists.mp found
    obtain ⟨other, -, rfl⟩ := List.mem_map.mp (List.mem_reverse.mp (List.mem_of_find?_eq_some found))
    rw [found]
    rfl
  · rename_i lacks
    rw [Option.map_eq_none_iff, List.find?_eq_none]
    intro entry member own
    obtain ⟨connection, kept, rfl⟩ := List.mem_map.mp (List.mem_reverse.mp member)
    obtain ⟨member, same⟩ := List.mem_filter.mp kept
    rw [Bool.and_eq_true] at same
    refine lacks (List.any_eq_true.mpr ⟨connection, member, ?_⟩)
    rw [same.1, Bool.true_and]
    exact beq_iff_eq.mpr (of_decide_eq_true own)

theorem get?_netOfPin (design : CircuitDesign) (named : place.pinText ≠ "") :
    (netOfPin design place.refdes).get? place.pinText = (lastNetOfPin design place).map (·.name) := by
  rw [netOfPin, OrderedDict.get?_ofEntries, find?_reverse_flatMap, lastNetOfPin]
  induction design.nets.reverse with
  | nil => rfl
  | cons net rest ih =>
    have entry := find?_pinEntries net named
    rw [List.findSome?_cons, List.find?_cons]
    split
    · rename_i here
      rw [here, Option.map_some] at entry
      split at entry
      · rename_i has
        rw [has]
        exact entry
      · cases entry
    · rename_i elsewhere
      rw [elsewhere, Option.map_none] at entry
      split at entry
      · cases entry
      · rename_i lacks
        rw [Bool.eq_false_iff.mpr lacks]
        exact ih

theorem get?_netOfPin_blank (design : CircuitDesign) (refdes : String) : (netOfPin design refdes).get? "" = none := by
  rw [netOfPin, OrderedDict.get?_ofEntries, Option.map_eq_none_iff, List.find?_eq_none]
  intro entry member blank
  obtain ⟨net, -, listed⟩ := List.mem_flatMap.mp (List.mem_reverse.mp member)
  obtain ⟨connection, kept, rfl⟩ := List.mem_map.mp listed
  have named := (List.mem_filter.mp kept).2
  rw [Bool.and_eq_true, bne_iff_ne] at named
  exact named.2 (of_decide_eq_true blank)

variable {net : Net}

theorem mem_peersOn {refdes endpoint : String} : endpoint ∈ peersOn refdes net ↔
    ∃ connection ∈ net.connections, sameRefdes refdes connection = false ∧ connection.endpoint = endpoint := by
  simp only [peersOn, List.mem_map, List.mem_filter, Bool.not_eq_true', and_assoc]

theorem mem_peersOfPin (design : CircuitDesign) (first second : PinRef) :
    second.endpoint ∈ peersOfPin design first.refdes first.pinText ↔ Reaches design first second := by
  rw [peersOfPin, instanceConnections]
  cases looked : findInstanceByRefdes design first.refdes with
  | none =>
    refine iff_of_false List.not_mem_nil ?_
    rintro ⟨-, ⟨found, there, -⟩, -⟩
    rw [looked] at there
    cases there
  | some found =>
    have alike : normalizeRefdes found.refdes = normalizeRefdes first.refdes :=
      beq_iff_eq.mp (List.find?_some looked : refdesMatches first.refdes found = true)
    have sameTest : sameRefdes found.refdes = sameRefdes first.refdes := by
      unfold sameRefdes
      rw [alike]
    have sameNets : netOfPin design found.refdes = netOfPin design first.refdes := by
      rw [netOfPin, netOfPin, sameTest]
    have samePeers : peersOn found.refdes = peersOn first.refdes := by
      unfold peersOn
      rw [sameTest]
    simp only [Option.map_some, List.mem_flatMap, List.mem_filter, beq_iff_eq, connectionsOf, List.mem_map,
      sameNets, samePeers]
    by_cases named : first.pinText = ""
    · constructor
      · rintro ⟨_, ⟨⟨name, -, rfl⟩, own⟩, member⟩
        have own : name = first.pinText := own
        rw [own, named, get?_netOfPin_blank] at member
        cases member
      · exact fun reached => absurd named reached.1
    · have onNet := get?_netOfPin design named
      constructor
      · rintro ⟨_, ⟨⟨name, listed, rfl⟩, own⟩, member⟩
        have own : name = first.pinText := own
        subst own
        rw [onNet] at member
        cases last : lastNetOfPin design first with
        | none =>
          rw [last] at member
          cases member
        | some lastNet =>
          rw [last, Option.map_some, nonBlank] at member
          by_cases blank : lastNet.name = ""
          · rw [blank] at member
            cases member
          · rw [Option.filter_some, if_pos (bne_iff_ne.mpr blank), Option.bind_some, get?_netByName] at member
            cases shown : lastNetNamed design lastNet.name with
            | none =>
              rw [shown] at member
              cases member
            | some net =>
              rw [shown] at member
              refine ⟨named, ⟨found, looked, ?_⟩, lastNet, net, last, blank, shown, mem_peersOn.mp member⟩
              split at listed
              · exact .inl ‹_›
              · exact .inr listed
      · rintro ⟨-, ⟨other, there, listed⟩, lastNet, net, last, filled, shown, reached⟩
        obtain rfl : found = other := Option.some.inj (looked.symm.trans there)
        refine ⟨_, ⟨⟨first.pinText, ?_, rfl⟩, rfl⟩, ?_⟩
        · split
          · refine OrderedDict.mem_keys_iff.mpr ⟨lastNet.name, ?_⟩
            rw [onNet, last, Option.map_some]
          · exact listed.resolve_left ‹_›
        · rw [onNet, last, Option.map_some, nonBlank, Option.filter_some, if_pos (bne_iff_ne.mpr filled),
            Option.bind_some, get?_netByName, shown]
          exact mem_peersOn.mpr reached

section Unambiguous

variable {first second : PinRef}

theorem find?_eq_of_unique {p : α → Bool} {items : List α} {item : α} (member : item ∈ items)
    (holds : p item = true) (unique : ∀ other ∈ items, p other = true → other = item) : items.find? p = some item := by
  obtain ⟨found, here⟩ := Option.isSome_iff_exists.mp (List.find?_isSome.mpr ⟨item, member, holds⟩)
  rw [here, unique found (List.mem_of_find?_eq_some here) (List.find?_some here)]

theorem lastNetOfPin_spec {last : Net} (isLast : lastNetOfPin design place = some last) :
    last ∈ design.nets ∧ ∃ connection ∈ last.connections, sameRefdes place.refdes connection = true ∧
      connection.pinText = place.pinText := by
  rw [lastNetOfPin] at isLast
  have touches := List.find?_some isLast
  obtain ⟨connection, member, alike⟩ := List.any_eq_true.mp touches
  rw [Bool.and_eq_true, beq_iff_eq] at alike
  exact ⟨List.mem_reverse.mp (List.mem_of_find?_eq_some isLast), connection, member, alike⟩

theorem lastNetNamed_spec {name : String} (isLast : lastNetNamed design name = some net) :
    net ∈ design.nets ∧ net.name = name := by
  rw [lastNetNamed] at isLast
  exact ⟨List.mem_reverse.mp (List.mem_of_find?_eq_some isLast), by simpa using List.find?_some isLast⟩

section

variable (clear : Unambiguous design first)
include clear

/-- A connection that looks like a named pin is the pin. -/
theorem Unambiguous.eq_of_alike (named : first.pinText ≠ "")
    (known : net ∈ design.nets) {connection : PinRef} (member : connection ∈ net.connections)
    (alike : sameRefdes first.refdes connection = true) (pin : connection.pinText = first.pinText) :
    connection = first := by
  have refdes := clear.ownRefdes net known connection member (beq_iff_eq.mp alike)
  obtain ⟨connected, connectedPin⟩ := connection
  obtain ⟨wanted, wantedPin⟩ := first
  simp only [PinRef.pinText] at named pin
  cases wantedPin with
  | none => exact absurd rfl named
  | some name =>
    cases connectedPin with
    | none => exact absurd pin.symm named
    | some other =>
      rw [show connected = wanted from refdes, show other = name from pin]

/-- The last net of an unambiguous pin is its net. -/
theorem Unambiguous.lastNetOfPin_eq (known : net ∈ design.nets)
    (member : first ∈ net.connections) : lastNetOfPin design first = some net := by
  have named := (clear.listed net known member).1
  refine find?_eq_of_unique (List.mem_reverse.mpr known) ?_ ?_
  · exact List.any_eq_true.mpr ⟨first, member, by simp [sameRefdes]⟩
  · intro other listed touches
    have otherKnown := List.mem_reverse.mp listed
    obtain ⟨connection, onOther, alike⟩ := List.any_eq_true.mp touches
    rw [Bool.and_eq_true, beq_iff_eq] at alike
    obtain rfl := clear.eq_of_alike named otherKnown onOther alike.1 alike.2
    exact clear.oneNet net known member other otherKnown onOther

/-- An unambiguous pin reaches another one exactly over a common net. -/
theorem Unambiguous.reaches_iff (other : Unambiguous design second)
    (different : normalizeRefdes first.refdes ≠ normalizeRefdes second.refdes) :
    Reaches design first second ↔ SharesNet design first second := by
  constructor
  · rintro ⟨named, -, last, net, isLast, -, isNamed, connection, member, -, text⟩
    obtain ⟨lastKnown, own, onLast, alike, pin⟩ := lastNetOfPin_spec isLast
    obtain rfl := clear.eq_of_alike named lastKnown onLast alike pin
    obtain ⟨known, sameName⟩ := lastNetNamed_spec isNamed
    obtain rfl := (clear.ownName last lastKnown onLast).2 net known sameName
    obtain rfl := other.ownText net known connection member text
    exact ⟨net, known, onLast, member⟩
  · rintro ⟨net, known, onFirst, onSecond⟩
    obtain ⟨named, present, listed⟩ := clear.listed net known onFirst
    obtain ⟨component, found⟩ := Option.isSome_iff_exists.mp (List.find?_isSome.mpr present)
    have lists := listed component (List.mem_of_find?_eq_some found) (List.find?_some found)
    obtain ⟨filled, onlyName⟩ := clear.ownName net known onFirst
    refine ⟨named, ⟨component, found, lists⟩, net, net, clear.lastNetOfPin_eq known onFirst, filled, ?_, second,
      onSecond, ?_, rfl⟩
    · exact find?_eq_of_unique (List.mem_reverse.mpr known) (decide_eq_true rfl)
        fun candidate member same => onlyName candidate (List.mem_reverse.mp member) (of_decide_eq_true same)
    · exact beq_eq_false_iff_ne.mpr different.symm

end

theorem sharesNet_comm : SharesNet design first second ↔ SharesNet design second first := by
  simp only [SharesNet, and_comm]

/-- Two pins that the design is unambiguous about, at components of different normal forms, are each other's
peers exactly if a net connects them. -/
theorem unambiguous_pins_are_mutual (design : CircuitDesign) (first second : PinRef)
    (clear : Unambiguous design first) (otherClear : Unambiguous design second)
    (different : normalizeRefdes first.refdes ≠ normalizeRefdes second.refdes) : PeersMutual design first second := by
  have forth := (mem_peersOfPin design first second).trans (clear.reaches_iff otherClear different)
  have back := (mem_peersOfPin design second first).trans (otherClear.reaches_iff clear different.symm)
  exact ⟨forth.trans (sharesNet_comm.trans back.symm), forth⟩

end Unambiguous

/-! ### Look-alikes -/

/-- Upper and lower case of the ASCII letters. -/
def asciiCasing : Casing where
  upper := String.map Char.toUpper
  lower := String.map Char.toLower

/-- The casing letter by letter, which evaluates faster. -/
theorem asciiCasing_eq : asciiCasing =
    { upper := fun text => String.ofList (text.toList.map Char.toUpper)
      lower := fun text => String.ofList (text.toList.map Char.toLower) } := by
  rw [asciiCasing, Casing.mk.injEq]
  exact ⟨funext fun text => String.map_eq_internal, funext fun text => String.map_eq_internal⟩

/-- A component with its designator. -/
def component (refdes : String) (pins : List Pin) : ComponentInstance where
  refdes
  libraryCell := none
  partNumber := none
  footprint := none
  value := none
  erpNumber := none
  pins
  properties := .empty
  provenance := []

/-- The first net of a differential pair. -/
def positiveNet : Net :=
  ⟨"USB_D+", [⟨"R1", some "1"⟩, ⟨"U1", some "1"⟩], "signal"⟩

/-- A page with a Chinese name. -/
def powerModule : CircuitModule where
  moduleId := "m1"
  name := "电源"
  strategy := ""
  instances := ["R1"]
  nets := []
  connectivityDescription := ""

/-- A design with a differential pair, two pages with Chinese names and a designator with a leading zero. -/
def lookAlikes : CircuitDesign where
  designId := "board"
  instances := [component "R1" [⟨"1", none⟩], component "R01" [⟨"1", none⟩], component "U1" [⟨"1", none⟩]]
  nets := [positiveNet, ⟨"USB_D-", [⟨"R01", some "1"⟩, ⟨"U1", some "2"⟩], "signal"⟩]
  modules := [powerModule, { powerModule with moduleId := "m2", name := "时钟", instances := ["R01"] }]

theorem lookAlikes_distinct : DistinctNames lookAlikes where
  netNames := by decide
  refdes := by decide
  moduleIds := by decide
  moduleNames := by decide

/-- A component behind the two look-alikes is found by its name. -/
theorem component_behind_look_alikes_is_found : instanceConnections lookAlikes "U1" =
      some (connectionsOf lookAlikes (component "U1" [⟨"1", none⟩])) := by
  obtain ⟨-, components, -⟩ := exact_name_finds_iff asciiCasing lookAlikes lookAlikes_distinct
  exact (components [component "R1" [⟨"1", none⟩], component "R01" [⟨"1", none⟩]] _ [] rfl).1.mpr
    (by decide +kernel)

/-- By their own names the second net, component and module are not found: the first ones are. -/
theorem second_names_find_the_first : DistinctNames lookAlikes ∧
    (netConnections asciiCasing lookAlikes "USB_D-").map (·.netName) = some "USB_D+" ∧
      (instanceConnections lookAlikes "R01").map (·.refdes) = some "R1" ∧
      (findModuleByIdOrName asciiCasing lookAlikes "时钟").map (·.moduleId) = some "m1" := by
  refine ⟨lookAlikes_distinct, ?_⟩
  rw [asciiCasing_eq]
  decide +kernel

/-- The design with another designator for the second resistor. -/
def separated : CircuitDesign :=
  { lookAlikes with
    instances := [component "R1" [⟨"1", none⟩], component "R2" [⟨"1", none⟩], component "U1" [⟨"1", none⟩]]
    nets := [positiveNet, ⟨"USB_D-", [⟨"R2", some "1"⟩, ⟨"U1", some "2"⟩], "signal"⟩] }

/-- There the pins of the first net are each other's peers. -/
theorem separated_pins_are_mutual : PeersMutual separated ⟨"R1", some "1"⟩ ⟨"U1", some "1"⟩ := by
  refine unambiguous_pins_are_mutual separated _ _ ?_ ?_ (by decide +kernel)
  · constructor <;> decide +kernel
  · constructor <;> decide +kernel

/-- The peers of a pin are not mutual: the pin of the other component with that normal form is taken for it. -/
theorem look_alike_takes_the_pin : ¬ PeersMutual lookAlikes ⟨"R1", some "1"⟩ ⟨"U1", some "1"⟩ := by
  rintro ⟨both, -⟩
  have forth : PinRef.endpoint ⟨"U1", some "1"⟩ ∉ peersOfPin lookAlikes "R1" "1" := by decide +kernel
  have back : PinRef.endpoint ⟨"R1", some "1"⟩ ∈ peersOfPin lookAlikes "U1" "1" := by decide +kernel
  exact forth (both.mpr back)

end HardwareDatabase.Circuit
