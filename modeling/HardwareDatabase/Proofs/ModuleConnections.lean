/-
Module: HardwareDatabase.Proofs.ModuleConnections
Purpose: The queries on the connections between the modules of a partition, and when they tell one relation.
Trusted boundary: none
-/
import HardwareDatabase.Circuit.QueryEngine
import HardwareDatabase.Proofs.PagePartition

namespace HardwareDatabase.Circuit

open Python

/-- A stored design: what the parser hands over, with the modules of the partition. -/
def ParsedDesign.withModules (parsed : ParsedDesign) (host : Host) (designId : String) : CircuitDesign where
  designId
  instances := parsed.instances
  nets := parsed.nets
  modules := partitionByRefdesPage host parsed.instances parsed.nets

/-- The net has a connection in the module. -/
def Net.Touches (net : Net) (listed : CircuitModule) : Prop :=
  ∃ connection ∈ net.connections, connection.refdes ∈ listed.instances

/-- A net of this name has a connection in each of the modules. -/
def SharedNet (design : CircuitDesign) (first second : CircuitModule) (name : String) : Prop :=
  ∃ net ∈ design.nets, net.name = name ∧ net.Touches first ∧ net.Touches second

/-- The shared nets that the connected modules give for a module. -/
def sharedWith (rows : List ConnectedModule) (moduleId : String) : Option (List String) :=
  (rows.find? fun row => decide (row.moduleId = moduleId)).map (·.sharedNets)

/-- The rows of two modules that match. -/
def matchingRows (design : CircuitDesign) (first second : CircuitModule) (maxInstances : Nat) : List ModuleRow :=
  [moduleToRow design first maxInstances, moduleToRow design second maxInstances]

/-- The queries on two modules give the relation of the netlist. -/
structure ConnectionsAgree (design : CircuitDesign) (first second : CircuitModule) : Prop where
  symmetric : sharedWith (connectedModules design first) second.moduleId =
    sharedWith (connectedModules design second) first.moduleId
  complete : ∀ names, sharedWith (connectedModules design first) second.moduleId = some names →
    ∀ name, name ∈ names ↔ SharedNet design first second name
  absent : sharedWith (connectedModules design first) second.moduleId = none →
    ∀ name, ¬ SharedNet design first second name
  interfaces : ∀ name, name ∈ (moduleInterfaces design first).map (·.netName) ↔
    name ∈ first.nets ∧ ∃ net ∈ design.nets, net.name = name ∧
      ∃ connection ∈ net.connections, connection.refdes ∉ first.instances
  reported : ∀ maxInstances limit,
    (designConnections design (matchingRows design first second maxInstances)).length ≤ limit →
      ∀ name, name ∈ (searchConnections (matchingRows design first second maxInstances) limit [design] []).map (·.net) ↔
        SharedNet design first second name

/-- Connections outside a module are seen as such, and shared nets are shown. -/
structure NamesApart (design : CircuitDesign) (first second : CircuitModule) : Prop where
  forth : ∀ net ∈ design.nets, net.Touches first → net.Touches second →
    ∃ connection ∈ net.connections, connection.refdes ∈ second.instances ∧ inModule first connection = false
  back : ∀ net ∈ design.nets, net.Touches first → net.Touches second →
    ∃ connection ∈ net.connections, connection.refdes ∈ first.instances ∧ inModule second connection = false
  outside : ∀ net ∈ design.nets, net.Touches first →
    (∃ connection ∈ net.connections, connection.refdes ∉ first.instances) →
      ∃ connection ∈ net.connections, inModule first connection = false
  shown : ∀ name, SharedNet design first second name → name ∈ first.nets.take 20 ∧ name ∈ second.nets.take 20

/-! ### What the modules list -/

variable {design : CircuitDesign}

section Modules

variable {parsed : ParsedDesign} {host : Host} {designId : String} {first second listed : CircuitModule} {net : Net}
  {name : String}

private theorem get?_netByName_withModules : (parsed.withModules host designId).netByName.get? name = some net ↔
    net ∈ parsed.nets ∧ net.name = name := by
  have distinct : ((parsed.nets.map fun net => (net.name, net)).map Prod.fst).Nodup := by
    rw [List.map_map]
    exact parsed.netNames
  refine (OrderedDict.get?_ofEntries_iff distinct).trans ?_
  rw [List.mem_map]
  constructor
  · rintro ⟨other, member, same⟩
    cases same
    exact ⟨member, rfl⟩
  · rintro ⟨member, rfl⟩
    exact ⟨net, member, rfl⟩

private theorem mem_listedNets (member : listed ∈ (parsed.withModules host designId).modules) :
    net ∈ listedNets (parsed.withModules host designId) listed ↔ net ∈ parsed.nets ∧ net.Touches listed := by
  have parts := partitions_partitionByRefdesPage host parsed
  rw [listedNets, List.mem_filterMap]
  simp only [get?_netByName_withModules]
  constructor
  · rintro ⟨name, known, there, rfl⟩
    exact ⟨there, (parts.nets listed member net there).mp known⟩
  · rintro ⟨there, touches⟩
    exact ⟨net.name, (parts.nets listed member net there).mpr touches, there, rfl⟩

private theorem mem_membership {refdes : String} {entry : String × String} : entry ∈ design.membership refdes ↔
      ∃ listed ∈ design.modules, refdes ∈ listed.instances ∧ entry = (listed.moduleId, listed.name) := by
  rw [CircuitDesign.membership, group_eq_filter, List.mem_map]
  simp only [List.mem_filter, List.mem_flatMap, List.mem_map, decide_eq_true_eq]
  constructor
  · rintro ⟨_, ⟨⟨listed, known, member, inside, rfl⟩, rfl⟩, rfl⟩
    exact ⟨listed, known, inside, rfl⟩
  · rintro ⟨listed, known, inside, rfl⟩
    exact ⟨_, ⟨⟨listed, known, refdes, inside, rfl⟩, rfl⟩, rfl⟩

private theorem exists_touch_iff (firstThere : first ∈ (parsed.withModules host designId).modules)
    (secondThere : second ∈ (parsed.withModules host designId).modules) (apart : first ≠ second) :
    (∃ entry ∈ touches (parsed.withModules host designId) first, entry.1 = second.moduleId ∧ entry.2.2 = name) ↔
      ∃ net ∈ parsed.nets, net.name = name ∧ net.Touches first ∧
        ∃ connection ∈ net.connections, connection.refdes ∈ second.instances ∧ inModule first connection = false := by
  have parts := partitions_partitionByRefdesPage host parsed
  have ids : second.moduleId ≠ first.moduleId := fun same =>
    apart (List.inj_on_of_nodup_map parts.ids firstThere secondThere same.symm)
  simp only [touches, List.mem_flatMap, mem_listedNets firstThere, List.mem_filter, Bool.not_eq_true', List.mem_map,
    otherModules, mem_membership, bne_iff_ne]
  constructor
  · rintro ⟨_, ⟨net, ⟨there, touch⟩, connection, ⟨member, out⟩, _, ⟨⟨listed, known, inside, rfl⟩, -⟩, rfl⟩, id, rfl⟩
    obtain rfl : listed = second := List.inj_on_of_nodup_map parts.ids known secondThere id
    exact ⟨net, there, rfl, touch, connection, member, inside, out⟩
  · rintro ⟨net, there, rfl, touch, connection, member, inside, out⟩
    exact ⟨(second.moduleId, second.name, net.name), ⟨net, ⟨there, touch⟩, connection, ⟨member, out⟩,
      (second.moduleId, second.name), ⟨⟨second, secondThere, inside, rfl⟩, ids⟩, rfl⟩, rfl, rfl⟩

end Modules

/-! ### Shared nets -/

private theorem sharedWith_connectedModules (design : CircuitDesign) (listed : CircuitModule) (moduleId : String) :
    sharedWith (connectedModules design listed) moduleId =
      ((grouped Prod.fst (touches design listed)).get? moduleId).map fun entries =>
        sortedSet (entries.map (·.2.2)) := by
  rw [sharedWith, connectedModules, List.find?_map, Option.map_map, OrderedDict.get?, Option.map_map]
  rfl

variable {listed : CircuitModule}

private theorem sharedWith_eq_none_iff {moduleId : String} :
    sharedWith (connectedModules design listed) moduleId = none ↔
      ∀ name, ¬ ∃ entry ∈ touches design listed, entry.1 = moduleId ∧ entry.2.2 = name := by
  rw [sharedWith_connectedModules, Option.map_eq_none_iff]
  constructor
  · rintro missing name ⟨entry, member, own, -⟩
    have known : moduleId ∈ (grouped Prod.fst (touches design listed)).keys :=
      mem_keys_grouped.mpr ⟨entry, member, own⟩
    obtain ⟨found, present⟩ := OrderedDict.mem_keys_iff.mp known
    rw [missing] at present
    cases present
  · intro lacking
    refine Option.eq_none_iff_forall_not_mem.mpr fun found present => ?_
    obtain ⟨entry, member, own⟩ := mem_keys_grouped.mp (OrderedDict.mem_keys_iff.mpr ⟨found, present⟩)
    exact lacking _ ⟨entry, member, own, rfl⟩

private theorem mem_of_sharedWith {moduleId : String} {names : List String}
    (shared : sharedWith (connectedModules design listed) moduleId = some names) (name : String) :
    name ∈ names ↔ ∃ entry ∈ touches design listed, entry.1 = moduleId ∧ entry.2.2 = name := by
  rw [sharedWith_connectedModules, Option.map_eq_some_iff] at shared
  obtain ⟨entries, found, rfl⟩ := shared
  have filtered := group_eq_filter Prod.fst (touches design listed) moduleId
  rw [group, found, Option.getD_some] at filtered
  simp only [filtered, mem_sortedSet, List.mem_map, List.mem_filter, decide_eq_true_eq, and_assoc]

private theorem sharedWith_congr {first second : CircuitModule} {firstId secondId : String}
    (same : ∀ name, (∃ entry ∈ touches design first, entry.1 = secondId ∧ entry.2.2 = name) ↔
      ∃ entry ∈ touches design second, entry.1 = firstId ∧ entry.2.2 = name) :
    sharedWith (connectedModules design first) secondId = sharedWith (connectedModules design second) firstId := by
  cases left : sharedWith (connectedModules design first) secondId with
  | none =>
    refine (sharedWith_eq_none_iff.mpr fun name there => ?_).symm
    exact sharedWith_eq_none_iff.mp left name ((same name).mpr there)
  | some names =>
    cases right : sharedWith (connectedModules design second) firstId with
    | none =>
      obtain ⟨entries, found, -⟩ := Option.map_eq_some_iff.mp (sharedWith_connectedModules design first _ ▸ left)
      obtain ⟨entry, member, own⟩ := mem_keys_grouped.mp (OrderedDict.mem_keys_iff.mpr ⟨entries, found⟩)
      exact absurd ((same _).mp ⟨entry, member, own, rfl⟩) (sharedWith_eq_none_iff.mp right _)
    | some others =>
      have members (name : String) : name ∈ names ↔ name ∈ others := by
        rw [mem_of_sharedWith left, mem_of_sharedWith right, same]
      rw [sharedWith_connectedModules, Option.map_eq_some_iff] at left right
      obtain ⟨_, -, rfl⟩ := left
      obtain ⟨_, -, rfl⟩ := right
      simp only [mem_sortedSet] at members
      rw [sortedSet_congr members]

/-! ### Interfaces and pairs -/

section Agreement

variable {parsed : ParsedDesign} {host : Host} {designId : String} {first second listed : CircuitModule}
  {name : String}

private theorem inModule_of_mem {connection : PinRef} (inside : connection.refdes ∈ listed.instances) :
    inModule listed connection = true :=
  List.contains_iff_mem.mpr (List.mem_map_of_mem inside)

private theorem mem_interfaces (there : listed ∈ (parsed.withModules host designId).modules) :
    name ∈ (moduleInterfaces (parsed.withModules host designId) listed).map (·.netName) ↔
      ∃ net ∈ parsed.nets, net.name = name ∧ net.Touches listed ∧
        ∃ connection ∈ net.connections, inModule listed connection = false := by
  simp only [moduleInterfaces, List.mem_map, List.mem_filterMap, mem_listedNets there]
  constructor
  · rintro ⟨_, ⟨net, ⟨member, touch⟩, made⟩, rfl⟩
    split at made
    · cases made
    · rename_i some
      cases made
      obtain ⟨connection, kept⟩ := List.exists_mem_of_ne_nil _ some
      obtain ⟨connected, out⟩ := List.mem_filter.mp kept
      exact ⟨net, member, rfl, touch, connection, connected, by simpa using out⟩
  · rintro ⟨net, member, rfl, touch, connection, connected, out⟩
    have some : (net.connections.filter fun connection => !inModule listed connection) ≠ [] :=
      List.ne_nil_of_mem (List.mem_filter.mpr ⟨connected, by rw [out]; rfl⟩)
    exact ⟨_, ⟨net, ⟨member, touch⟩, if_neg some⟩, rfl⟩

private theorem mem_reported {maxInstances limit : Nat}
    (enough : (designConnections design (matchingRows design first second maxInstances)).length ≤ limit) :
    name ∈ (searchConnections (matchingRows design first second maxInstances) limit [design] []).map (·.net) ↔
      name ∈ first.nets.take 20 ∧ name ∈ second.nets.take 20 := by
  have kept : (matchingRows design first second maxInstances).filter (fun row => row.designId == design.designId) =
      matchingRows design first second maxInstances := by
    simp [matchingRows, moduleToRow]
  have found : searchConnections (matchingRows design first second maxInstances) limit [design] [] =
      designConnections design (matchingRows design first second maxInstances) := by
    simp only [searchConnections, kept, List.nil_append]
    rw [List.take_of_length_le enough, ite_self]
  have pairs : designConnections design (matchingRows design first second maxInstances) =
      (sortedSet ((first.nets.take 20).filter (second.nets.take 20).contains)).map
        (moduleConnection design first.name (some second.name)) := by
    simp [designConnections, matchingRows, pairConnections, moduleToRow]
  rw [found, pairs, List.map_map]
  have same : (fun row : ModuleConnection => row.net) ∘ moduleConnection design first.name (some second.name) = id := rfl
  rw [same, List.map_id, mem_sortedSet, List.mem_filter, List.contains_iff_mem]

private theorem sharedNet_iff (firstThere : first ∈ (parsed.withModules host designId).modules)
    (secondThere : second ∈ (parsed.withModules host designId).modules) :
    SharedNet (parsed.withModules host designId) first second name ↔ name ∈ first.nets ∧ name ∈ second.nets := by
  have parts := partitions_partitionByRefdesPage host parsed
  constructor
  · rintro ⟨net, there, rfl, inFirst, inSecond⟩
    exact ⟨(parts.nets first firstThere net there).mpr inFirst, (parts.nets second secondThere net there).mpr inSecond⟩
  · rintro ⟨inFirst, inSecond⟩
    obtain ⟨net, there, rfl⟩ := parts.named first firstThere name inFirst
    exact ⟨net, there, rfl, (parts.nets first firstThere net there).mp inFirst,
      (parts.nets second secondThere net there).mp inSecond⟩

private theorem net_eq_of_name {net other : Net} (there : net ∈ parsed.nets) (otherThere : other ∈ parsed.nets)
    (same : other.name = net.name) : other = net :=
  List.inj_on_of_nodup_map parsed.netNames otherThere there same

/-- The queries on two modules of a partition agree with the netlist exactly if no connection outside a module stands
alone with a designator that looks like one in it, and the shared nets are among the first twenty of both. -/
theorem module_connections_agree_iff (parsed : ParsedDesign) (host : Host) (designId : String)
    {first second : CircuitModule} (firstThere : first ∈ (parsed.withModules host designId).modules)
    (secondThere : second ∈ (parsed.withModules host designId).modules) (apart : first ≠ second) :
    ConnectionsAgree (parsed.withModules host designId) first second ↔
      NamesApart (parsed.withModules host designId) first second := by
  have parts := partitions_partitionByRefdesPage host parsed
  have ahead (name : String) := @exists_touch_iff parsed host designId _ _ name firstThere secondThere apart
  have behind (name : String) := @exists_touch_iff parsed host designId _ _ name secondThere firstThere apart.symm
  constructor
  · rintro ⟨symmetric, complete, absent, interfaces, reported⟩
    have seen (net : Net) (there : net ∈ parsed.nets) (inFirst : net.Touches first) (inSecond : net.Touches second) :
        ∃ names, sharedWith (connectedModules (parsed.withModules host designId) first) second.moduleId = some names ∧
          net.name ∈ names := by
      have shared : SharedNet (parsed.withModules host designId) first second net.name :=
        ⟨net, there, rfl, inFirst, inSecond⟩
      cases found : sharedWith (connectedModules (parsed.withModules host designId) first) second.moduleId with
      | none => exact absurd shared (absent found net.name)
      | some names => exact ⟨names, rfl, (complete names found net.name).mpr shared⟩
    constructor
    · intro net there inFirst inSecond
      obtain ⟨names, found, member⟩ := seen net there inFirst inSecond
      obtain ⟨other, otherThere, sameName, -, witness⟩ := (ahead net.name).mp
        ((mem_of_sharedWith found net.name).mp member)
      rwa [net_eq_of_name there otherThere sameName] at witness
    · intro net there inFirst inSecond
      obtain ⟨names, found, member⟩ := seen net there inFirst inSecond
      rw [symmetric] at found
      obtain ⟨other, otherThere, sameName, -, witness⟩ := (behind net.name).mp
        ((mem_of_sharedWith found net.name).mp member)
      rwa [net_eq_of_name there otherThere sameName] at witness
    · intro net there inFirst out
      have known := (parts.nets first firstThere net there).mpr inFirst
      have listed := (interfaces net.name).mpr ⟨known, net, there, rfl, out⟩
      obtain ⟨other, otherThere, sameName, -, witness⟩ := (mem_interfaces firstThere).mp listed
      rwa [net_eq_of_name there otherThere sameName] at witness
    · intro name shared
      exact (mem_reported (Nat.le_refl _)).mp ((reported 0 _ (Nat.le_refl _) name).mpr shared)
  · rintro ⟨forth, back, outside, shown⟩
    have seenAhead (name : String) : (∃ entry ∈ touches (parsed.withModules host designId) first,
        entry.1 = second.moduleId ∧ entry.2.2 = name) ↔
          SharedNet (parsed.withModules host designId) first second name := by
      rw [ahead]
      constructor
      · rintro ⟨net, there, own, touch, connection, member, inside, -⟩
        exact ⟨net, there, own, touch, connection, member, inside⟩
      · rintro ⟨net, there, own, inFirst, inSecond⟩
        exact ⟨net, there, own, inFirst, forth net there inFirst inSecond⟩
    have seenBehind (name : String) : (∃ entry ∈ touches (parsed.withModules host designId) second,
        entry.1 = first.moduleId ∧ entry.2.2 = name) ↔
          SharedNet (parsed.withModules host designId) first second name := by
      rw [behind]
      constructor
      · rintro ⟨net, there, own, touch, connection, member, inside, -⟩
        exact ⟨net, there, own, ⟨connection, member, inside⟩, touch⟩
      · rintro ⟨net, there, own, inFirst, inSecond⟩
        exact ⟨net, there, own, inSecond, back net there inFirst inSecond⟩
    constructor
    · exact sharedWith_congr fun name => (seenAhead name).trans (seenBehind name).symm
    · intro names found name
      rw [mem_of_sharedWith found, seenAhead]
    · intro missing name shared
      exact sharedWith_eq_none_iff.mp missing name ((seenAhead name).mpr shared)
    · intro name
      rw [mem_interfaces firstThere]
      constructor
      · rintro ⟨net, there, rfl, touch, connection, member, out⟩
        refine ⟨(parts.nets first firstThere net there).mpr touch, net, there, rfl, connection, member, fun inside => ?_⟩
        rw [inModule_of_mem inside] at out
        cases out
      · rintro ⟨known, net, there, rfl, out⟩
        have touch := (parts.nets first firstThere net there).mp known
        exact ⟨net, there, rfl, touch, outside net there touch out⟩
    · intro maxInstances limit enough name
      rw [mem_reported enough]
      constructor
      · rintro ⟨inFirst, inSecond⟩
        exact (sharedNet_iff firstThere secondThere).mpr ⟨List.mem_of_mem_take inFirst, List.mem_of_mem_take inSecond⟩
      · exact shown name

end Agreement

/-! ### Two components on a net -/

/-- A host that knows ASCII digits. -/
def asciiHost : Host where
  isDigit := Char.isDigit
  isDecimal := Char.isDigit

def twoComponents : List String → List ComponentInstance :=
  List.map fun refdes => ⟨refdes, none, none, none, none, none, [], .empty, []⟩

/-- Two components with a net between them. -/
def joinedBy (first second : String) (apart : first ≠ second) : ParsedDesign where
  instances := twoComponents [first, second]
  nets := [⟨"N", [⟨first, some "1"⟩, ⟨second, some "1"⟩], "signal"⟩]
  refdes := by simpa [twoComponents] using apart
  netNames := List.nodup_singleton _

/-- Components with different groups are in different modules. -/
theorem exists_modules {first second : String} (apart : first ≠ second)
    (keys : instancePageKey asciiHost first ≠ instancePageKey asciiHost second) :
    ∃ left ∈ ((joinedBy first second apart).withModules asciiHost "D").modules,
      ∃ right ∈ ((joinedBy first second apart).withModules asciiHost "D").modules, left ≠ right ∧
        (∀ refdes, refdes ∈ left.instances ↔ refdes = first) ∧ ∀ refdes, refdes ∈ right.instances ↔ refdes = second := by
  have parts := partitions_partitionByRefdesPage asciiHost (joinedBy first second apart)
  have digits : partitionByRefdesPage asciiHost (joinedBy first second apart).instances
      (joinedBy first second apart).nets =
        partitionByRefdesDigits asciiHost (joinedBy first second apart).instances (joinedBy first second apart).nets :=
    rfl
  have members (listed : CircuitModule) (there : listed ∈ partitionByRefdesPage asciiHost
      (joinedBy first second apart).instances (joinedBy first second apart).nets) :
      ∃ name, ∀ refdes, refdes ∈ listed.instances ↔
        (refdes = first ∨ refdes = second) ∧ instancePageKey asciiHost refdes = name := by
    rw [digits, partitionByRefdesDigits] at there
    obtain ⟨name, instances, -⟩ := exists_of_mem_modulesOf _ _ _ _ _ there
    refine ⟨name, fun refdes => (instances refdes).trans ?_⟩
    simp only [joinedBy, twoComponents, List.map_cons, List.map_nil, List.mem_cons, List.not_mem_nil, or_false]
    constructor
    · rintro ⟨_, rfl | rfl, rfl, key⟩
      · exact ⟨.inl rfl, key⟩
      · exact ⟨.inr rfl, key⟩
    · rintro ⟨rfl | rfl, key⟩
      · exact ⟨_, .inl rfl, rfl, key⟩
      · exact ⟨_, .inr rfl, rfl, key⟩
  have placed (refdes : String) (known : refdes = first ∨ refdes = second) :
      ∃ listed ∈ partitionByRefdesPage asciiHost (joinedBy first second apart).instances
        (joinedBy first second apart).nets, ∀ other, other ∈ listed.instances ↔ other = refdes := by
    obtain ⟨listed, there, inside⟩ := List.mem_flatMap.mp (parts.instances.mem_iff.mpr
      (by simpa [joinedBy, twoComponents] using known : refdes ∈ (joinedBy first second apart).instances.map (·.refdes)))
    obtain ⟨name, shape⟩ := members listed there
    obtain ⟨-, rfl⟩ := (shape refdes).mp inside
    refine ⟨listed, there, fun other => (shape other).trans ?_⟩
    constructor
    · rintro ⟨own, key⟩
      grind
    · rintro rfl
      exact ⟨known, rfl⟩
  obtain ⟨left, leftThere, leftMembers⟩ := placed first (.inl rfl)
  obtain ⟨right, rightThere, rightMembers⟩ := placed second (.inr rfl)
  refine ⟨left, leftThere, right, rightThere, ?_, leftMembers, rightMembers⟩
  rintro rfl
  exact apart ((rightMembers first).mp ((leftMembers first).mpr rfl))

private theorem inModule_iff {refdes : String}
    (members : ∀ other, other ∈ listed.instances ↔ other = refdes) (connection : PinRef) :
    inModule listed connection = true ↔ normalizeRefdes refdes = normalizeRefdes connection.refdes := by
  rw [inModule, List.contains_iff_mem, List.mem_map]
  constructor
  · rintro ⟨other, inside, same⟩
    rwa [(members other).mp inside] at same
  · exact fun same => ⟨refdes, (members refdes).mpr rfl, same⟩

private theorem mem_take_nets {first second : String} {apart : first ≠ second} {name : String}
    (there : listed ∈ ((joinedBy first second apart).withModules asciiHost "D").modules) (known : name ∈ listed.nets) :
    name ∈ listed.nets.take 20 := by
  have parts := partitions_partitionByRefdesPage asciiHost (joinedBy first second apart)
  have only : listed.nets ⊆ ["N"] := fun other member => by
    obtain ⟨net, inside, rfl⟩ := parts.named listed there other member
    rw [List.mem_singleton.mp inside]
    exact List.mem_singleton_self _
  have short : listed.nets.length ≤ 1 := (List.subperm_of_subset (parts.once listed there) only).length_le
  rwa [List.take_of_length_le (by omega)]

/-- Resistors with different designators on two pages. -/
theorem joined_modules_agree :
    ∃ left ∈ ((joinedBy "R100" "R200" (by decide)).withModules asciiHost "D").modules,
      ∃ right ∈ ((joinedBy "R100" "R200" (by decide)).withModules asciiHost "D").modules, left ≠ right ∧
        ConnectionsAgree ((joinedBy "R100" "R200" (by decide)).withModules asciiHost "D") left right := by
  obtain ⟨left, leftThere, right, rightThere, apart, leftMembers, rightMembers⟩ :=
    @exists_modules "R100" "R200" (by decide) (by decide +kernel)
  have other : normalizeRefdes "R100" ≠ normalizeRefdes "R200" := by decide +kernel
  have outOfLeft : inModule left ⟨"R200", some "1"⟩ = false := by
    rw [← Bool.not_eq_true, inModule_iff leftMembers]
    exact other
  have outOfRight : inModule right ⟨"R100", some "1"⟩ = false := by
    rw [← Bool.not_eq_true, inModule_iff rightMembers]
    exact other.symm
  refine ⟨left, leftThere, right, rightThere, apart,
    (module_connections_agree_iff _ asciiHost "D" leftThere rightThere apart).mpr ⟨?_, ?_, ?_, ?_⟩⟩
  · rintro net there - -
    obtain rfl := List.mem_singleton.mp there
    exact ⟨⟨"R200", some "1"⟩, .tail _ (.head _), (rightMembers _).mpr rfl, outOfLeft⟩
  · rintro net there - -
    obtain rfl := List.mem_singleton.mp there
    exact ⟨⟨"R100", some "1"⟩, .head _, (leftMembers _).mpr rfl, outOfRight⟩
  · rintro net there - -
    obtain rfl := List.mem_singleton.mp there
    exact ⟨⟨"R200", some "1"⟩, .tail _ (.head _), outOfLeft⟩
  · intro name shared
    obtain ⟨inLeft, inRight⟩ := (sharedNet_iff leftThere rightThere).mp shared
    exact ⟨mem_take_nets leftThere inLeft, mem_take_nets rightThere inRight⟩

/-- `R0100` on another page looks like `R100`, so the net between them connects no modules. -/
theorem look_alike_connects_no_modules :
    ∃ left ∈ ((joinedBy "R100" "R0100" (by decide)).withModules asciiHost "D").modules,
      ∃ right ∈ ((joinedBy "R100" "R0100" (by decide)).withModules asciiHost "D").modules, left ≠ right ∧
        ¬ ConnectionsAgree ((joinedBy "R100" "R0100" (by decide)).withModules asciiHost "D") left right := by
  obtain ⟨left, leftThere, right, rightThere, apart, leftMembers, rightMembers⟩ :=
    @exists_modules "R100" "R0100" (by decide) (by decide +kernel)
  refine ⟨left, leftThere, right, rightThere, apart, fun agree => ?_⟩
  refine agree.absent (sharedWith_eq_none_iff.mpr fun name touched => ?_) "N" ⟨_, List.mem_singleton_self _, rfl,
    ⟨⟨"R100", some "1"⟩, .head _, (leftMembers _).mpr rfl⟩, ⟨"R0100", "1"⟩, .tail _ (.head _), (rightMembers _).mpr rfl⟩
  obtain ⟨net, there, -, -, connection, member, inside, out⟩ := (exists_touch_iff leftThere rightThere apart).mp touched
  obtain rfl := List.mem_singleton.mp there
  have own := (rightMembers _).mp inside
  rw [← Bool.not_eq_true, inModule_iff leftMembers, own] at out
  exact out (by decide +kernel)

end HardwareDatabase.Circuit
