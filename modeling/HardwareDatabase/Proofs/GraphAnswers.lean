/-
Module: HardwareDatabase.Proofs.GraphAnswers
Purpose: The answers of the graph of a design are those of its netlist exactly if different pins have different ids,
  no pin is on two nets, and a lookup does not strip a name that matters to another.
Trusted boundary: none
-/
import HardwareDatabase.Circuit.GraphStore

namespace HardwareDatabase.Circuit

open Python

variable {design : CircuitDesign} {casefold : String → String}

/-! ### Entities -/

/-- What a node stands for. -/
inductive Entity where
  | component (refdes : String)
  | pin (refdes name : String)
  | net (name : String)
deriving Repr, DecidableEq

/-- The id of an entity. -/
def Entity.id : Entity → String
  | .component refdes => componentId refdes
  | .pin refdes name => pinId refdes name
  | .net name => netId name

/-- The entity of a node. -/
def GraphNode.entity (node : GraphNode) : Entity :=
  match node.body with
  | .component refdes _ => .component refdes
  | .pin refdes pin => .pin refdes pin
  | .net name _ => .net name

/-- The entities of an answer. -/
def answerEntities (graph : Graph) (refdes netName : String) : List Entity :=
  (connectedEntities graph refdes netName "").map fun row => row.2.entity

/-- A connection of a net of the design. -/
def Connected (design : CircuitDesign) (net : Net) (connection : PinRef) : Prop :=
  net ∈ design.nets ∧ connection ∈ net.connections

/-- The design has the component. -/
def HasComponent (design : CircuitDesign) (refdes : String) : Prop :=
  (∃ component ∈ design.instances, component.refdes = refdes) ∨
    ∃ net connection, Connected design net connection ∧ connection.refdes = refdes

/-- Designators and pins are not blank and have no spaces around them. -/
structure CleanNames (design : CircuitDesign) : Prop where
  instances : ∀ component ∈ design.instances, component.refdes ≠ "" ∧ strip component.refdes = component.refdes
  refdes : ∀ net connection, Connected design net connection →
    connection.refdes ≠ "" ∧ strip connection.refdes = connection.refdes
  pins : ∀ net connection, Connected design net connection →
    connection.pinText ≠ "" ∧ strip connection.pinText = connection.pinText

/-- The component that a query for a designator asks for. -/
def componentKey (refdes : String) : String :=
  withoutStart "component:" refdes

/-- The net that a query for a name asks for. -/
def netKey (name : String) : String :=
  withoutStart "net:" (strip name)

/-! ### Ids -/

variable {refdes other : String}

private theorem componentId_inj : componentId refdes = componentId other ↔ refdes = other := by
  simp [componentId]

private theorem netId_inj {name : String} : netId name = netId other ↔ name = other := by
  simp [netId]

private theorem pinId_inj_right {pin : String} : pinId refdes pin = pinId refdes other ↔ pin = other := by
  simp [pinId]

private theorem append_ne_append {first second left right : String} {c d : Char} (starts : first.toList.head? = some c)
    (also : second.toList.head? = some d) (apart : c ≠ d) : first ++ left ≠ second ++ right := by
  intro same
  have chars := congrArg (fun text => text.toList.head?) same
  simp only [String.toList_append, List.head?_append, starts, also, Option.some_or, Option.some.injEq] at chars
  exact apart chars

private theorem componentId_ne_pinId (refdes other pin : String) : componentId refdes ≠ pinId other pin :=
  append_ne_append rfl rfl (by decide)

private theorem componentId_ne_netId (refdes name : String) : componentId refdes ≠ netId name :=
  append_ne_append rfl rfl (by decide)

private theorem netId_ne_pinId (name refdes pin : String) : netId name ≠ pinId refdes pin :=
  append_ne_append rfl rfl (by decide)

/-- The entity is a component or a net. -/
def IsHub : Entity → Prop
  | .pin _ _ => False
  | _ => True

variable {entity hub : Entity}

private theorem eq_of_id_hub (isHub : IsHub hub) (same : entity.id = hub.id) : entity = hub := by
  cases hub with
  | pin => exact isHub.elim
  | component =>
    cases entity with
    | component => exact congrArg Entity.component (componentId_inj.mp same)
    | pin => exact absurd same.symm (componentId_ne_pinId _ _ _)
    | net => exact absurd same.symm (componentId_ne_netId _ _)
  | net name =>
    cases entity with
    | component => exact absurd same (componentId_ne_netId _ _)
    | pin => exact absurd same.symm (netId_ne_pinId _ _ _)
    | net => exact congrArg Entity.net (netId_inj.mp same)

private theorem exists_of_id_pin {pin : String} (same : entity.id = pinId refdes pin) :
    ∃ other name, entity = .pin other name := by
  cases entity with
  | component => exact absurd same (componentId_ne_pinId _ _ _)
  | pin other name => exact ⟨other, name, rfl⟩
  | net => exact absurd same (netId_ne_pinId _ _ _)

/-! ### The projection -/

variable {edge : Edge}

private theorem mem_foldl_addEdge (added edges : List Edge) :
    edge ∈ added.foldl addEdge edges ↔ edge ∈ edges ∨ edge ∈ added := by
  induction added generalizing edges with
  | nil => simp
  | cons first rest ih =>
    rw [List.foldl_cons, ih, addEdge]
    split <;> grind

variable {edges : List Edge}

private theorem nodup_foldl_addEdge (added : List Edge) (distinct : edges.Nodup) :
    (added.foldl addEdge edges).Nodup := by
  induction added generalizing edges with
  | nil => exact distinct
  | cons first rest ih =>
    apply ih
    rw [addEdge]
    split
    · exact distinct
    · rename_i absent
      exact List.nodup_append.mpr ⟨distinct, List.nodup_singleton _, by
        intro other known last same rfl
        exact absent (List.mem_singleton.mp same ▸ known)⟩

private theorem get?_foldl_setDefault {κ α : Type} [DecidableEq κ] (entries : List (κ × α))
    (dict : OrderedDict κ α) (key : κ) :
    (entries.foldl (fun dict entry => dict.setDefault entry.1 entry.2) dict).get? key =
      (dict.get? key).or ((entries.find? fun entry => decide (entry.1 = key)).map Prod.snd) := by
  induction entries generalizing dict with
  | nil => simp
  | cons entry rest ih =>
    rw [List.foldl_cons, ih, OrderedDict.get?_setDefault, List.find?_cons]
    by_cases here : key = entry.1
    · rw [if_pos here, decide_eq_true here.symm, here]
      cases dict.get? entry.1 <;> rfl
    · rw [if_neg here, decide_eq_false (Ne.symm here)]

/-- The entity is in the design. -/
def Present (design : CircuitDesign) : Entity → Prop
  | .component refdes => HasComponent design refdes
  | .pin refdes name => ∃ net connection, Connected design net connection ∧
      connection.refdes = refdes ∧ connection.pinText = name
  | .net name => ∃ net ∈ design.nets, net.name = name

variable {net : Net} {connection : PinRef} {nodeId : String}

section Clean

variable (clean : CleanNames design)
include clean

private theorem attached_eq (there : net ∈ design.nets) : attached net = net.connections :=
  List.filter_eq_self.mpr fun connection member => by
    obtain ⟨filled, same⟩ := clean.refdes net connection ⟨there, member⟩
    simpa [same] using filled

private theorem pinName_eq (connected : Connected design net connection) : pinName connection = connection.pinText := by
  obtain ⟨filled, same⟩ := clean.pins net connection connected
  have shown : nonBlank (some connection.pinText) = some connection.pinText := by
    rw [nonBlank, Option.filter_some, if_pos (by simpa using filled)]
  have named : nonBlank connection.pin = some connection.pinText := by
    rw [PinRef.pinText] at filled shown ⊢
    cases stored : connection.pin with
    | none => exact absurd (by rw [stored]; rfl) filled
    | some =>
      rw [stored] at shown
      exact shown
  rw [pinName, named, Option.getD_some, same, shown, Option.getD_some]

private theorem mem_edges : edge ∈ (buildProjection design casefold).2 ↔
    ∃ net connection, Connected design net connection ∧
      (edge = ⟨componentId connection.refdes, pinId connection.refdes connection.pinText, "contains"⟩ ∨
        edge = ⟨pinId connection.refdes connection.pinText, netId net.name, "on_net"⟩) := by
  rw [buildProjection, mem_foldl_addEdge, edgeEntries]
  simp only [List.not_mem_nil, false_or, List.mem_flatMap]
  constructor
  · rintro ⟨net, there, connection, member, shape⟩
    rw [attached_eq clean there] at member
    have connected : Connected design net connection := ⟨there, member⟩
    rw [pinName_eq clean connected, (clean.refdes net connection connected).2] at shape
    exact ⟨net, connection, connected, by simpa using shape⟩
  · rintro ⟨net, connection, connected, shape⟩
    refine ⟨net, connected.1, connection, (attached_eq clean connected.1).symm ▸ connected.2, ?_⟩
    rw [pinName_eq clean connected, (clean.refdes net connection connected).2]
    simpa using shape

private theorem entity_of_mem {entry : String × GraphNode} (member : entry ∈ nodeEntries design casefold) :
    entry.2.entity.id = entry.1 ∧ Present design entry.2.entity := by
  rcases List.mem_append.mp member with placed | wired
  · obtain ⟨component, there, rfl⟩ := List.mem_map.mp placed
    have there := (List.mem_filter.mp there).1
    exact ⟨rfl, .inl ⟨component, there, (clean.instances component there).2.symm⟩⟩
  · obtain ⟨net, there, shape⟩ := List.mem_flatMap.mp wired
    rcases List.mem_cons.mp shape with rfl | shape
    · exact ⟨rfl, net, there, rfl⟩
    · obtain ⟨connection, member, shape⟩ := List.mem_flatMap.mp shape
      rw [attached_eq clean there] at member
      have connected : Connected design net connection := ⟨there, member⟩
      have same := (clean.refdes net connection connected).2
      simp only [List.mem_cons, List.not_mem_nil, or_false] at shape
      rcases shape with rfl | rfl
      · exact ⟨rfl, .inr ⟨net, connection, connected, same.symm⟩⟩
      · exact ⟨rfl, net, connection, connected, same.symm, (pinName_eq clean connected).symm⟩

private theorem exists_mem_of_present (present : Present design entity) :
    ∃ entry ∈ nodeEntries design casefold, entry.1 = entity.id := by
  have wired : ∀ net connection, Connected design net connection → ∀ entry : String × GraphNode,
      entry = componentEntry design casefold connection.refdes ∨
        entry = (pinId connection.refdes connection.pinText,
          ⟨design.designId, sourceName casefold design, .pin connection.refdes connection.pinText⟩) →
        entry ∈ nodeEntries design casefold := by
    intro net connection connected entry shape
    refine List.mem_append_right _ (List.mem_flatMap.mpr ⟨net, connected.1, List.mem_cons_of_mem _
      (List.mem_flatMap.mpr ⟨connection, (attached_eq clean connected.1).symm ▸ connected.2, ?_⟩)⟩)
    rw [pinName_eq clean connected, (clean.refdes net connection connected).2]
    simpa using shape
  cases entity with
  | component refdes =>
    rcases present with ⟨component, there, rfl⟩ | ⟨net, connection, connected, rfl⟩
    · obtain ⟨filled, same⟩ := clean.instances component there
      refine ⟨componentEntry design casefold (strip component.refdes), List.mem_append_left _
        (List.mem_map.mpr ⟨component, List.mem_filter.mpr ⟨there, ?_⟩, rfl⟩), congrArg componentId same⟩
      simpa [same] using filled
    · exact ⟨_, wired net connection connected _ (.inl rfl), rfl⟩
  | pin =>
    obtain ⟨net, connection, connected, rfl, rfl⟩ := present
    exact ⟨_, wired net connection connected _ (.inr rfl), rfl⟩
  | net =>
    obtain ⟨net, there, rfl⟩ := present
    exact ⟨_, List.mem_append_right _ (List.mem_flatMap.mpr ⟨net, there, List.mem_cons_self⟩), rfl⟩

private theorem entity_of_get? {node : GraphNode} (found : (buildProjection design casefold).1.get? nodeId = some node) :
    node.entity.id = nodeId ∧ Present design node.entity := by
  rw [buildProjection, get?_foldl_setDefault, OrderedDict.get?_empty, Option.none_or, Option.map_eq_some_iff] at found
  obtain ⟨entry, found, rfl⟩ := found
  have key : entry.1 = nodeId := by simpa using List.find?_some found
  obtain ⟨own, present⟩ := entity_of_mem clean (List.mem_of_find?_eq_some found)
  exact ⟨own.trans key, present⟩

private theorem exists_get?_of_present {entity : Entity} (present : Present design entity) :
    ∃ node, (buildProjection design casefold).1.get? entity.id = some node := by
  obtain ⟨entry, member, same⟩ := exists_mem_of_present clean present
  rw [buildProjection, get?_foldl_setDefault, OrderedDict.get?_empty, Option.none_or]
  cases found : (nodeEntries design casefold).find? fun entry => decide (entry.1 = entity.id) with
  | none => exact absurd (decide_eq_true same) (List.find?_eq_none.mp found entry member)
  | some first => exact ⟨first.2, rfl⟩

end Clean

/-! ### The two representations

The graph of the library and the plain dictionaries hold the same nodes and edges. -/

private theorem foldl_addSimpleEdge (added : List Edge)
    (apart : (edges ++ added).Pairwise fun earlier later => earlier.parallel later = false) :
    added.foldl addSimpleEdge edges = edges ++ added := by
  induction added generalizing edges with
  | nil => rw [List.foldl_nil, List.append_nil]
  | cons first rest ih =>
    have fresh : edges.any (·.parallel first) = false := List.any_eq_false.mpr fun earlier known => by
      rw [(List.pairwise_append.mp apart).2.2 earlier known first List.mem_cons_self]
      exact Bool.false_ne_true
    rw [List.foldl_cons, addSimpleEdge, fresh, if_neg Bool.false_ne_true]
    rw [ih (by rwa [List.append_assoc, List.singleton_append]), List.append_assoc, List.singleton_append]

private theorem nodes_buildGraph (library : Bool) :
    (buildGraph library design casefold).nodes = (buildProjection design casefold).1 := by
  cases library <;> rfl

section Clean

variable (clean : CleanNames design)
include clean

private theorem eq_of_parallel {other : Edge} (member : edge ∈ (buildProjection design casefold).2)
    (also : other ∈ (buildProjection design casefold).2) (parallel : edge.parallel other = true) : edge = other := by
  simp only [Edge.parallel, Bool.or_eq_true, Bool.and_eq_true, beq_iff_eq] at parallel
  obtain ⟨_, _, _, rfl | rfl⟩ := (mem_edges clean).mp member <;>
    obtain ⟨_, _, _, rfl | rfl⟩ := (mem_edges clean).mp also <;>
    rcases parallel with ⟨src, dst⟩ | ⟨src, dst⟩
  · exact congrArg₂ (fun first second => Edge.mk first second _) src dst
  · exact absurd src (componentId_ne_pinId _ _ _)
  · exact absurd src (componentId_ne_pinId _ _ _)
  · exact absurd src (componentId_ne_netId _ _)
  · exact absurd src.symm (componentId_ne_pinId _ _ _)
  · exact absurd dst.symm (componentId_ne_netId _ _)
  · exact congrArg₂ (fun first second => Edge.mk first second _) src dst
  · exact absurd src.symm (netId_ne_pinId _ _ _)

private theorem simple_edges_eq : (buildProjection design casefold).2.foldl addSimpleEdge [] =
    (buildProjection design casefold).2 := by
  have distinct : (buildProjection design casefold).2.Nodup := nodup_foldl_addEdge _ List.nodup_nil
  refine foldl_addSimpleEdge _ (distinct.imp_of_mem ?_)
  intro edge other member also apart
  exact Bool.eq_false_iff.mpr fun parallel => apart (eq_of_parallel clean member also parallel)

private theorem edges_buildGraph (library : Bool) :
    (buildGraph library design casefold).edges = (buildProjection design casefold).2 := by
  cases library with
  | false => rfl
  | true => exact simple_edges_eq clean

private theorem connectedEntities_eq (library : Bool) (refdes netName pin : String) :
    connectedEntities (buildGraph library design casefold) refdes netName pin =
      connectedEntities (buildGraph false design casefold) refdes netName pin := by
  simp only [connectedEntities, nodes_buildGraph, edges_buildGraph clean]

end Clean

/-! ### Reached entities -/

/-- The connection belongs to the component, or is on the net. -/
def Touches (net : Net) (connection : PinRef) : Entity → Prop
  | .component refdes => connection.refdes = refdes
  | .net name => net.name = name
  | .pin _ _ => False

/-- The other end of a connection. -/
def farEnd (net : Net) (connection : PinRef) : Entity → Entity
  | .net _ => .component connection.refdes
  | _ => .net net.name

/-- The entity of the pin of a connection. -/
def ownPin (connection : PinRef) : Entity :=
  .pin connection.refdes connection.pinText

private theorem mem_neighbours : other ∈ neighbours edges nodeId ↔
      ∃ edge ∈ edges, (edge.src = nodeId ∧ edge.dst = other) ∨ (edge.dst = nodeId ∧ edge.src = other) := by
  rw [neighbours, List.mem_flatMap]
  refine exists_congr fun edge => and_congr_right fun _ => ?_
  rw [List.mem_append]
  by_cases out : edge.src = nodeId <;> by_cases into : edge.dst = nodeId <;> simp [out, into, eq_comm]

private theorem isPin_iff (node : GraphNode) : node.isPin = true ↔ ¬ IsHub node.entity := by
  unfold GraphNode.isPin GraphNode.entity
  cases node.body <;> simp [IsHub]

section Clean

variable (clean : CleanNames design)
include clean

private theorem mem_neighbours_iff :
    other ∈ neighbours (buildProjection design casefold).2 nodeId ↔ ∃ net connection, Connected design net connection ∧
      (((nodeId = componentId connection.refdes ∨ nodeId = netId net.name) ∧ other = (ownPin connection).id) ∨
        (nodeId = (ownPin connection).id ∧ (other = componentId connection.refdes ∨ other = netId net.name))) := by
  rw [mem_neighbours]
  constructor
  · rintro ⟨edge, member, joined⟩
    obtain ⟨net, connection, connected, rfl | rfl⟩ := (mem_edges clean).mp member
    · rcases joined with ⟨rfl, rfl⟩ | ⟨rfl, rfl⟩
      · exact ⟨net, connection, connected, .inl ⟨.inl rfl, rfl⟩⟩
      · exact ⟨net, connection, connected, .inr ⟨rfl, .inl rfl⟩⟩
    · rcases joined with ⟨rfl, rfl⟩ | ⟨rfl, rfl⟩
      · exact ⟨net, connection, connected, .inr ⟨rfl, .inr rfl⟩⟩
      · exact ⟨net, connection, connected, .inl ⟨.inr rfl, rfl⟩⟩
  · rintro ⟨net, connection, connected, ⟨rfl | rfl, rfl⟩ | ⟨rfl, rfl | rfl⟩⟩
    · exact ⟨_, (mem_edges clean).mpr ⟨net, connection, connected, .inl rfl⟩, .inl ⟨rfl, rfl⟩⟩
    · exact ⟨_, (mem_edges clean).mpr ⟨net, connection, connected, .inr rfl⟩, .inr ⟨rfl, rfl⟩⟩
    · exact ⟨_, (mem_edges clean).mpr ⟨net, connection, connected, .inl rfl⟩, .inr ⟨rfl, rfl⟩⟩
    · exact ⟨_, (mem_edges clean).mpr ⟨net, connection, connected, .inr rfl⟩, .inl ⟨rfl, rfl⟩⟩

private theorem mem_neighbours_hub (isHub : IsHub hub) :
    other ∈ neighbours (buildProjection design casefold).2 hub.id ↔ ∃ net connection,
      Connected design net connection ∧ Touches net connection hub ∧ other = (ownPin connection).id := by
  rw [mem_neighbours_iff clean]
  refine exists_congr fun net => exists_congr fun connection => and_congr_right fun _ => ?_
  cases hub with
  | pin => exact isHub.elim
  | component refdes =>
    have apart := componentId_ne_pinId refdes connection.refdes connection.pinText
    have notNet := componentId_ne_netId refdes net.name
    simp [Entity.id, ownPin, Touches, apart, notNet, componentId_inj, eq_comm]
  | net name =>
    have apart := netId_ne_pinId name connection.refdes connection.pinText
    have notComponent := (componentId_ne_netId connection.refdes name).symm
    simp [Entity.id, ownPin, Touches, apart, notComponent, netId_inj, eq_comm]

private theorem mem_neighbours_pin :
    other ∈ neighbours (buildProjection design casefold).2 (ownPin connection).id ↔ ∃ net joined,
      Connected design net joined ∧ (ownPin joined).id = (ownPin connection).id ∧
        (other = componentId joined.refdes ∨ other = netId net.name) := by
  rw [mem_neighbours_iff clean]
  refine exists_congr fun net => exists_congr fun joined => and_congr_right fun _ => ?_
  have notComponent := (componentId_ne_pinId joined.refdes connection.refdes connection.pinText).symm
  have notNet := (netId_ne_pinId net.name connection.refdes connection.pinText).symm
  simp [Entity.id, ownPin, notComponent, notNet, eq_comm]

/-- The entity is the one stored under its id. -/
def Stored (design : CircuitDesign) (casefold : String → String) (entity : Entity) : Prop :=
  ∃ node, (buildProjection design casefold).1.get? entity.id = some node ∧ node.entity = entity

private theorem exists_stored {entity : Entity} (present : Present design entity) :
    ∃ other, Stored design casefold other ∧ other.id = entity.id ∧ Present design other := by
  obtain ⟨node, found⟩ := @exists_get?_of_present _ casefold clean _ present
  obtain ⟨same, known⟩ := entity_of_get? clean found
  exact ⟨node.entity, ⟨node, same.symm ▸ found, rfl⟩, same, known⟩

private theorem stored_hub {hub : Entity} (isHub : IsHub hub) (present : Present design hub) :
    Stored design casefold hub := by
  obtain ⟨other, stored, same, -⟩ := @exists_stored _ casefold clean _ present
  exact eq_of_id_hub isHub same ▸ stored

private theorem isPinId_ownPin (connected : Connected design net connection) :
    isPinId (buildProjection design casefold).1 (ownPin connection).id = true := by
  obtain ⟨node, found⟩ := @exists_get?_of_present _ casefold clean (ownPin connection)
    ⟨net, connection, connected, rfl, rfl⟩
  obtain ⟨other, name, shape⟩ := exists_of_id_pin (entity_of_get? clean found).1
  rw [isPinId, found, Option.any_some, isPin_iff, shape]
  exact id

private theorem mem_reachedFrom (isHub : IsHub hub) (present : Present design hub) :
    other ∈ reachedFrom (buildProjection design casefold).1 (buildProjection design casefold).2 hub.id ↔
      ∃ net connection, Connected design net connection ∧ Touches net connection hub ∧
        (other = (ownPin connection).id ∨ ∃ far joined, Connected design far joined ∧
          (ownPin joined).id = (ownPin connection).id ∧
            (other = componentId joined.refdes ∨ other = netId far.name)) := by
  obtain ⟨node, found, same⟩ := @stored_hub _ casefold clean _ isHub present
  have notPin : node.isPin = false := Bool.eq_false_iff.mpr fun pin => (isPin_iff node).mp pin (same ▸ isHub)
  simp only [reachedFrom, found, Option.any_some, notPin, Bool.not_false, if_true, List.mem_append, List.mem_flatMap,
    List.mem_filter, mem_neighbours_hub clean isHub]
  constructor
  · rintro (⟨net, connection, connected, touches, rfl⟩ | ⟨_, ⟨⟨net, connection, connected, touches, rfl⟩, -⟩, joined⟩)
    · exact ⟨net, connection, connected, touches, .inl rfl⟩
    · exact ⟨net, connection, connected, touches, .inr ((mem_neighbours_pin clean).mp joined)⟩
  · rintro ⟨net, connection, connected, touches, rfl | joined⟩
    · exact .inl ⟨net, connection, connected, touches, rfl⟩
    · exact .inr ⟨_, ⟨⟨net, connection, connected, touches, rfl⟩, isPinId_ownPin clean connected⟩,
        (mem_neighbours_pin clean).mpr joined⟩

end Clean

/-! ### Answers -/

/-- The entity that a query for an entity looks up. -/
def Entity.key : Entity → Option Entity
  | .component refdes => some (.component (componentKey refdes))
  | .net name => if strip name = "" then none else some (.net (netKey name))
  | .pin _ _ => none

/-- The answer for a component or a net. -/
def Entity.answer (library : Bool) (design : CircuitDesign) (casefold : String → String) : Entity → List Entity
  | .component refdes => answerEntities (buildGraph library design casefold) refdes ""
  | .net name => answerEntities (buildGraph library design casefold) "" name
  | .pin _ _ => []

/-- The targets of a query for a component or a net. -/
def Entity.targets (nodes : OrderedDict String GraphNode) : Entity → List String
  | .component refdes => queryTargets nodes refdes "" ""
  | .net name => queryTargets nodes "" name ""
  | .pin _ _ => []

/-- The near end of a connection. -/
def nearEnd (net : Net) (connection : PinRef) : Entity → Entity
  | .net _ => .net net.name
  | _ => .component connection.refdes

variable {asked : Entity}

private theorem key_isHub {target : Entity} (looked : asked.key = some target) : IsHub target := by
  cases asked with
  | pin => cases looked
  | component =>
    cases looked
    trivial
  | net =>
    rw [Entity.key] at looked
    split at looked
    · cases looked
    · cases looked
      trivial

private theorem id_eq_iff {entity hub : Entity} (isHub : IsHub hub) : entity.id = hub.id ↔ entity = hub :=
  ⟨eq_of_id_hub isHub, congrArg Entity.id⟩

private theorem present_of_touches {target : Entity}
    (connected : Connected design net connection) (touches : Touches net connection target) : Present design target := by
  cases target with
  | pin => exact touches.elim
  | component => exact .inr ⟨net, connection, connected, touches⟩
  | net => exact ⟨net, connected.1, touches⟩

private theorem strip_empty : strip "" = "" := by
  decide

section Clean

variable (clean : CleanNames design)
include clean

private theorem filled_of_hasComponent (there : HasComponent design refdes) : refdes ≠ "" ∧ strip refdes = refdes := by
  rcases there with ⟨component, member, rfl⟩ | ⟨net, connection, connected, rfl⟩
  · exact clean.instances component member
  · exact clean.refdes net connection connected

private theorem targets_eq (isHub : IsHub asked) (present : Present design asked)
    (nodes : OrderedDict String GraphNode) :
    asked.targets nodes = asked.key.toList.flatMap fun target => knownTarget nodes target.id := by
  cases asked with
  | pin => exact isHub.elim
  | component =>
    obtain ⟨filled, same⟩ := filled_of_hasComponent clean present
    simp [Entity.targets, queryTargets, strip_empty, same, filled, Entity.key, Entity.id, componentKey]
  | net name =>
    by_cases blank : strip name = "" <;>
      simp [Entity.targets, queryTargets, strip_empty, blank, Entity.key, Entity.id, netKey]

private theorem contains_iff_present {hub : Entity} (isHub : IsHub hub) :
    (buildProjection design casefold).1.contains hub.id = true ↔ Present design hub := by
  rw [OrderedDict.contains_iff]
  constructor
  · rintro ⟨node, found⟩
    obtain ⟨same, present⟩ := entity_of_get? clean found
    exact eq_of_id_hub isHub same ▸ present
  · exact exists_get?_of_present clean

private theorem mem_answer_iff_mem (isHub : IsHub asked) {library : Bool} :
    entity ∈ asked.answer library design casefold ↔ Stored design casefold entity ∧
      entity.id ∉ asked.targets (buildProjection design casefold).1 ∧
        ∃ target ∈ asked.targets (buildProjection design casefold).1,
          entity.id ∈ reachedFrom (buildProjection design casefold).1 (buildProjection design casefold).2 target := by
  have shown : ∀ refdes name, entity ∈ answerEntities (buildGraph library design casefold) refdes name ↔
      Stored design casefold entity ∧
        entity.id ∉ queryTargets (buildProjection design casefold).1 refdes name "" ∧
          ∃ target ∈ queryTargets (buildProjection design casefold).1 refdes name "", entity.id ∈
            reachedFrom (buildProjection design casefold).1 (buildProjection design casefold).2 target := by
    intro refdes name
    simp only [answerEntities, connectedEntities, nodes_buildGraph, edges_buildGraph clean, List.mem_map,
      List.mem_filterMap, mem_sortedSet, List.mem_filter, List.mem_flatMap, Option.map_eq_some_iff]
    constructor
    · rintro ⟨_, ⟨nodeId, ⟨reached, fresh⟩, node, found, rfl⟩, rfl⟩
      obtain ⟨same, -⟩ := entity_of_get? clean found
      dsimp only
      rw [same]
      exact ⟨⟨node, same.symm ▸ found, rfl⟩, by simpa using fresh, reached⟩
    · rintro ⟨⟨node, found, rfl⟩, fresh, reached⟩
      exact ⟨(node.entity.id, node), ⟨_, ⟨reached, by simpa using fresh⟩, node, found, rfl⟩, rfl⟩
  cases asked with
  | pin => exact isHub.elim
  | component refdes => exact shown refdes ""
  | net name => exact shown "" name

private theorem mem_answer (isHub : IsHub asked) (present : Present design asked) {library : Bool}
    : entity ∈ asked.answer library design casefold ↔ Stored design casefold entity ∧
      ∃ target, asked.key = some target ∧ entity ≠ target ∧ ∃ net connection, Connected design net connection ∧
        Touches net connection target ∧ (entity.id = (ownPin connection).id ∨ ∃ far joined, Connected design far joined ∧
          (ownPin joined).id = (ownPin connection).id ∧
            (entity = .component joined.refdes ∨ entity = .net far.name)) := by
  rw [mem_answer_iff_mem clean isHub, targets_eq clean isHub present]
  refine and_congr_right fun _ => ?_
  cases looked : asked.key with
  | none => simp
  | some target =>
    have targetIsHub := key_isHub looked
    have component : ∀ refdes, entity.id = componentId refdes ↔ entity = .component refdes :=
      fun refdes => @id_eq_iff _ (.component refdes) trivial
    have net : ∀ name, entity.id = netId name ↔ entity = .net name := fun name => @id_eq_iff _ (.net name) trivial
    by_cases there : Present design target
    · have known := (@contains_iff_present _ casefold clean _ targetIsHub).mpr there
      simp [knownTarget, known, mem_reachedFrom clean targetIsHub there, id_eq_iff targetIsHub, component, net]
    · have unknown := mt (@contains_iff_present _ casefold clean _ targetIsHub).mp there
      constructor
      · simp [knownTarget, unknown]
      · rintro ⟨_, ⟨⟩, -, net, connection, connected, touches, -⟩
        exact absurd (present_of_touches connected touches) there

/-- The answer for an entity is the one of the netlist. -/
def Exact (design : CircuitDesign) (casefold : String → String) (asked : Entity) : Prop :=
  ∀ library entity, entity ∈ asked.answer library design casefold ↔ ∃ net connection, Connected design net connection ∧
    Touches net connection asked ∧ (entity = ownPin connection ∨ entity = farEnd net connection asked)

/-- The query looks up the entity, unless nothing is connected to it or to what the query looks up. -/
def Keyed (design : CircuitDesign) (asked : Entity) : Prop :=
  asked.key = some asked ∨ ∀ net connection, Connected design net connection → ¬ Touches net connection asked ∧
    ∀ target, asked.key = some target → ¬ Touches net connection target

/-- The same ids are the same pins on the same nets. -/
def PinsApart (design : CircuitDesign) : Prop :=
  ∀ net connection, Connected design net connection → ∀ far joined, Connected design far joined →
    (ownPin joined).id = (ownPin connection).id → joined.refdes = connection.refdes ∧ far.name = net.name

private theorem eq_ownPin (apart : PinsApart design)
    (connected : Connected design net connection) (stored : Stored design casefold entity)
    (same : entity.id = (ownPin connection).id) : entity = ownPin connection := by
  obtain ⟨node, found, rfl⟩ := stored
  obtain ⟨-, present⟩ := entity_of_get? clean found
  obtain ⟨refdes, name, shape⟩ := exists_of_id_pin same
  rw [shape] at same present ⊢
  obtain ⟨far, joined, known, rfl, rfl⟩ := present
  obtain ⟨refdes, -⟩ := apart net connection connected far joined known same
  have pins : joined.pinText = connection.pinText := pinId_inj_right.mp (same.trans (by rw [ownPin, Entity.id, refdes]))
  rw [ownPin, refdes, pins]

private theorem exact_of_keyed (apart : PinsApart design) (isHub : IsHub asked)
    (present : Present design asked) (keyed : Keyed design asked) : Exact design casefold asked := by
  intro library entity
  rw [mem_answer clean isHub present]
  constructor
  · rintro ⟨stored, target, looked, fresh, net, connection, connected, touches, shape⟩
    rcases keyed with own | loose
    · obtain rfl : asked = target := Option.some.inj (own.symm.trans looked)
      refine ⟨net, connection, connected, touches, ?_⟩
      rcases shape with same | ⟨far, joined, known, same, shape⟩
      · exact .inl (eq_ownPin clean apart connected stored same)
      · obtain ⟨refdes, name⟩ := apart net connection connected far joined known same
        rw [refdes, name] at shape
        right
        cases asked with
        | pin => exact isHub.elim
        | component => exact shape.resolve_left fun own => fresh (own.trans (congrArg Entity.component touches))
        | net => exact shape.resolve_right fun own => fresh (own.trans (congrArg Entity.net touches))
    · exact absurd touches ((loose net connection connected).2 target looked)
  · rintro ⟨net, connection, connected, touches, shape⟩
    rcases keyed with own | loose
    · rcases shape with rfl | rfl
      · obtain ⟨other, stored, same, -⟩ := @exists_stored _ casefold clean (ownPin connection)
          ⟨net, connection, connected, rfl, rfl⟩
        refine ⟨eq_ownPin clean apart connected stored same ▸ stored, asked, own, ?_, net, connection, connected,
          touches, .inl rfl⟩
        rintro rfl
        exact isHub
      · cases asked with
        | pin => exact isHub.elim
        | component _ =>
          exact ⟨stored_hub clean trivial ⟨net, connected.1, rfl⟩, _, own, nofun, net, connection, connected, touches,
            .inr ⟨net, connection, connected, rfl, .inr rfl⟩⟩
        | net _ =>
          exact ⟨stored_hub clean trivial (.inr ⟨net, connection, connected, rfl⟩), _, own, nofun, net, connection,
            connected, touches, .inr ⟨net, connection, connected, rfl, .inl rfl⟩⟩
    · exact absurd touches (loose net connection connected).1

private theorem near_of_exact {asked : Entity} (isHub : IsHub asked) (present : Present design asked)
    (exact : Exact design casefold asked) {net : Net} {connection : PinRef}
    (connected : Connected design net connection) (touches : Touches net connection asked) :
    asked.key = some asked ∧ ∀ far joined, Connected design far joined →
      (ownPin joined).id = (ownPin connection).id → nearEnd far joined asked = asked := by
  obtain ⟨-, target, looked, -, first, leading, there, leads, shape⟩ := (mem_answer clean isHub present).mp
    ((exact false _).mpr ⟨net, connection, connected, touches, .inl rfl⟩)
  have same : (ownPin connection).id = (ownPin leading).id :=
    shape.resolve_right fun ⟨_, _, _, _, shape⟩ => by rcases shape with shape | shape <;> cases shape
  have near : ∀ far joined, Connected design far joined → (ownPin joined).id = (ownPin connection).id →
      nearEnd far joined asked = target := by
    intro far joined known also
    by_contra fresh
    have hub : IsHub (nearEnd far joined asked) := by cases asked <;> trivial
    have known' : Present design (nearEnd far joined asked) := by
      cases asked with
      | net => exact ⟨far, known.1, rfl⟩
      | _ => exact .inr ⟨far, joined, known, rfl⟩
    have shape : nearEnd far joined asked = .component joined.refdes ∨ nearEnd far joined asked = .net far.name := by
      cases asked <;> simp [nearEnd]
    obtain ⟨_, _, -, -, shape⟩ := (exact false _).mp ((mem_answer clean isHub present).mpr
      ⟨stored_hub clean hub known', target, looked, fresh, first, leading, there, leads,
        .inr ⟨far, joined, known, also.trans same, shape⟩⟩)
    cases asked with
    | pin => exact isHub
    | component => rcases shape with shape | shape <;> cases shape
    | net => rcases shape with shape | shape <;> cases shape
  have own : nearEnd net connection asked = asked := by
    cases asked with
    | pin => exact isHub.elim
    | component => exact congrArg Entity.component touches
    | net => exact congrArg Entity.net touches
  obtain rfl : asked = target := own.symm.trans (near net connection connected rfl)
  exact ⟨looked, near⟩

private theorem keyed_of_exact (isHub : IsHub asked) (present : Present design asked)
    (exact : Exact design casefold asked) : Keyed design asked := by
  by_cases own : asked.key = some asked
  · exact .inl own
  · have loose : ∀ net connection, Connected design net connection → ¬ Touches net connection asked :=
      fun net connection connected touches => own (near_of_exact clean isHub present exact connected touches).1
    refine .inr fun net connection connected => ⟨loose net connection connected, fun target looked touches => ?_⟩
    obtain ⟨other, stored, same, -⟩ := @exists_stored _ casefold clean (ownPin connection)
      ⟨net, connection, connected, rfl, rfl⟩
    obtain ⟨refdes, name, rfl⟩ := exists_of_id_pin same
    obtain ⟨_, _, known, near, -⟩ := (exact false _).mp ((mem_answer clean isHub present).mpr
      ⟨stored, target, looked, by rintro rfl; exact key_isHub looked, net, connection, connected, touches, .inl same⟩)
    exact loose _ _ known near

end Clean

/-! ### The netlist -/

/-- The answers for components and nets are those of the netlist, and the two representations agree. -/
structure AnswersExact (design : CircuitDesign) (casefold : String → String) : Prop where
  component : ∀ refdes, HasComponent design refdes → Exact design casefold (.component refdes)
  net : ∀ net ∈ design.nets, Exact design casefold (.net net.name)
  same : ∀ refdes netName pin, connectedEntities (buildGraph true design casefold) refdes netName pin =
    connectedEntities (buildGraph false design casefold) refdes netName pin
  counts : (buildGraph true design casefold).counts = (buildGraph false design casefold).counts

/-- Ids tell pins apart, no pin is on two nets, and a name that a lookup changes matters to no connection. -/
structure KeysFaithful (design : CircuitDesign) : Prop where
  pins : PinsApart design
  component : ∀ refdes, HasComponent design refdes → Keyed design (.component refdes)
  net : ∀ net ∈ design.nets, Keyed design (.net net.name)

/-- The graph answers for every component and net as the netlist does if and only if its keys are faithful. -/
theorem graph_answers_iff (design : CircuitDesign) (casefold : String → String) (clean : CleanNames design) :
    AnswersExact design casefold ↔ KeysFaithful design := by
  constructor
  · intro exact
    refine ⟨fun net connection connected far joined known same => ?_, fun refdes there => ?_, fun net there => ?_⟩
    · have there : HasComponent design connection.refdes := .inr ⟨net, connection, connected, rfl⟩
      have own := (@near_of_exact _ _ clean (.component connection.refdes) trivial there (exact.component _ there) _ _
        connected rfl).2 far joined known same
      have shared := (@near_of_exact _ _ clean (.net net.name) trivial ⟨net, connected.1, rfl⟩
        (exact.net _ connected.1) _ _ connected rfl).2 far joined known same
      exact ⟨Entity.component.inj own, Entity.net.inj shared⟩
    · exact keyed_of_exact clean trivial there (exact.component refdes there)
    · exact keyed_of_exact clean trivial ⟨net, there, rfl⟩ (exact.net net there)
  · intro faithful
    refine ⟨fun refdes there => ?_, fun net there => ?_, connectedEntities_eq clean true, ?_⟩
    · exact exact_of_keyed clean faithful.pins trivial there (faithful.component refdes there)
    · exact exact_of_keyed clean faithful.pins trivial ⟨net, there, rfl⟩ (faithful.net net there)
    · simp only [Graph.counts, nodes_buildGraph, edges_buildGraph clean]

/-- Two nets with a pin each. -/
def twoNets (first second : PinRef) : CircuitDesign :=
  { designId := "D", instances := [], nets := [⟨"A", [first], "signal"⟩, ⟨"B", [second], "signal"⟩] }

private theorem connected_twoNets {first second : PinRef} (connected : Connected (twoNets first second) net connection) :
    (net = ⟨"A", [first], "signal"⟩ ∧ connection = first) ∨ (net = ⟨"B", [second], "signal"⟩ ∧ connection = second) := by
  obtain ⟨there, member⟩ := connected
  simp only [twoNets, List.mem_cons, List.not_mem_nil, or_false] at there
  rcases there with rfl | rfl
  · exact .inl ⟨rfl, List.mem_singleton.mp member⟩
  · exact .inr ⟨rfl, List.mem_singleton.mp member⟩

private theorem clean_twoNets {first second : PinRef}
    (names : ∀ name ∈ [first.refdes, first.pinText, second.refdes, second.pinText], name ≠ "" ∧ strip name = name) :
    CleanNames (twoNets first second) where
  instances := fun _ member => absurd member List.not_mem_nil
  refdes := fun net connection connected => by
    rcases connected_twoNets connected with ⟨-, rfl⟩ | ⟨-, rfl⟩
    · exact names _ (by simp)
    · exact names _ (by simp)
  pins := fun net connection connected => by
    rcases connected_twoNets connected with ⟨-, rfl⟩ | ⟨-, rfl⟩
    · exact names _ (by simp)
    · exact names _ (by simp)

/-- Two pins of one component, on a net each. -/
theorem two_pins_are_answered : AnswersExact (twoNets ⟨"R1", some "1"⟩ ⟨"R1", some "2"⟩) id := by
  refine (graph_answers_iff _ _ (clean_twoNets (by decide))).mpr ⟨?_, ?_, ?_⟩
  · intro net connection connected far joined known
    rcases connected_twoNets connected with ⟨rfl, rfl⟩ | ⟨rfl, rfl⟩ <;>
      rcases connected_twoNets known with ⟨rfl, rfl⟩ | ⟨rfl, rfl⟩ <;> decide
  · rintro refdes (⟨component, member, -⟩ | ⟨net, connection, connected, rfl⟩)
    · exact absurd member List.not_mem_nil
    · rcases connected_twoNets connected with ⟨rfl, rfl⟩ | ⟨rfl, rfl⟩
      · exact .inl (by decide)
      · exact .inl (by decide)
  · intro net there
    simp only [twoNets, List.mem_cons, List.not_mem_nil, or_false] at there
    rcases there with rfl | rfl
    · exact .inl (by decide)
    · exact .inl (by decide)

/-- Pin `1.2` of `A` and pin `2` of `A.1` have one id. -/
theorem pins_of_two_components_meet : CleanNames (twoNets ⟨"A", some "1.2"⟩ ⟨"A.1", some "2"⟩) ∧
    ¬ AnswersExact (twoNets ⟨"A", some "1.2"⟩ ⟨"A.1", some "2"⟩) id := by
  have clean : CleanNames (twoNets ⟨"A", some "1.2"⟩ ⟨"A.1", some "2"⟩) := clean_twoNets (by decide)
  refine ⟨clean, fun exact => ?_⟩
  have first : Connected (twoNets ⟨"A", some "1.2"⟩ ⟨"A.1", some "2"⟩) ⟨"A", [⟨"A", some "1.2"⟩], "signal"⟩
    ⟨"A", some "1.2"⟩ :=
    ⟨by simp [twoNets], by simp⟩
  have second : Connected (twoNets ⟨"A", some "1.2"⟩ ⟨"A.1", some "2"⟩) ⟨"B", [⟨"A.1", some "2"⟩], "signal"⟩
    ⟨"A.1", some "2"⟩ :=
    ⟨by simp [twoNets], by simp⟩
  have there : HasComponent (twoNets ⟨"A", some "1.2"⟩ ⟨"A.1", some "2"⟩) "A" := .inr ⟨_, _, first, rfl⟩
  have near := (@near_of_exact _ _ clean (.component "A") trivial there (exact.component _ there) _ _ first rfl).2 _ _
    second (by decide)
  exact absurd near (by decide)

end HardwareDatabase.Circuit
