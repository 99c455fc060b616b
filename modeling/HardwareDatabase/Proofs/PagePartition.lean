/-
Module: HardwareDatabase.Proofs.PagePartition
Purpose: The modules of a parsed design divide its instances, have ids of their own, and list a net exactly when it
  reaches them.
Trusted boundary: none
-/
import HardwareDatabase.Circuit.Partition
import HardwareDatabase.Proofs.NetlistViews
import Mathlib.Data.List.Perm.Basic

namespace HardwareDatabase.Circuit

open Python

/-! ### Designs -/

/-- What a parser hands over: no designator and no net name comes twice. -/
structure ParsedDesign where
  instances : List ComponentInstance
  nets : List Net
  refdes : (instances.map (·.refdes)).Nodup
  netNames : (nets.map (·.name)).Nodup

/-- The modules divide the design. -/
structure Partitions (design : ParsedDesign) (modules : List CircuitModule) : Prop where
  /-- the ids are distinct -/
  ids : (modules.map (·.moduleId)).Nodup
  /-- each instance is in one module, once -/
  instances : (modules.flatMap (·.instances)).Perm (design.instances.map (·.refdes))
  /-- a module lists the nets with a connection to one of its instances, each once -/
  nets : ∀ made ∈ modules, ∀ net ∈ design.nets,
    net.name ∈ made.nets ↔ ∃ connection ∈ net.connections, connection.refdes ∈ made.instances
  named : ∀ made ∈ modules, ∀ name ∈ made.nets, ∃ net ∈ design.nets, net.name = name
  once : ∀ made ∈ modules, made.nets.Nodup

/-! ### Groups of a design -/

section Groups

variable (design : ParsedDesign) (strategy : String) (moduleId : Nat → String)
  (nameOf : String → List ComponentInstance → String) (keyOf : ComponentInstance → String)

theorem get?_instanceToGroup {refdes name : String} :
    (OrderedDict.ofEntries (design.instances.map fun component => (component.refdes, keyOf component))).get? refdes =
        some name ↔ ∃ component ∈ design.instances, component.refdes = refdes ∧ keyOf component = name := by
  have distinct :
      ((design.instances.map fun component => (component.refdes, keyOf component)).map Prod.fst).Nodup := by
    rw [List.map_map]
    exact design.refdes
  rw [OrderedDict.get?_ofEntries_iff distinct, List.mem_map]
  simp only [Prod.mk.injEq]

theorem mem_touchedGroups {net : Net} {name : String} : name ∈ touchedGroups
        (.ofEntries (design.instances.map fun component => (component.refdes, keyOf component))) net ↔
      name ≠ "" ∧ ∃ connection ∈ net.connections, ∃ component ∈ design.instances,
        component.refdes = connection.refdes ∧ keyOf component = name := by
  rw [touchedGroups, List.mem_filterMap]
  simp only [nonBlank, Option.filter_eq_some_iff, get?_instanceToGroup, bne_iff_ne]
  constructor
  · rintro ⟨connection, there, found, blank⟩
    exact ⟨blank, connection, there, found⟩
  · rintro ⟨blank, connection, there, found⟩
    exact ⟨connection, there, found, blank⟩

theorem mem_group {component : ComponentInstance} {name : String} :
    component ∈ group keyOf design.instances name ↔ component ∈ design.instances ∧ keyOf component = name := by
  rw [group_eq_filter, List.mem_filter, decide_eq_true_iff]

theorem moduleIds_modulesOf (distinct : Function.Injective moduleId) :
    ((modulesOf strategy moduleId nameOf keyOf design.instances design.nets).map (·.moduleId)).Nodup := by
  rw [modulesOf, List.map_map]
  have indices (names : List String) (start : Nat) : (names.zipIdx start).map (moduleId ∘ Prod.snd) =
      (List.range' start names.length).map moduleId := by
    rw [← List.map_map, List.zipIdx_map_snd]
  refine (congrArg List.Nodup (indices _ 1)).mpr ?_
  exact (List.nodup_range').map distinct

theorem exists_of_mem_modulesOf {made : CircuitModule}
    (member : made ∈ modulesOf strategy moduleId nameOf keyOf design.instances design.nets) :
    ∃ name, (∀ refdes, refdes ∈ made.instances ↔
        ∃ component ∈ design.instances, component.refdes = refdes ∧ keyOf component = name) ∧
      (∀ netName, netName ∈ made.nets ↔ ∃ net ∈ design.nets, net.name = netName ∧ name ∈ touchedGroups
          (.ofEntries (design.instances.map fun component => (component.refdes, keyOf component))) net) ∧
      made.nets.Nodup := by
  obtain ⟨⟨name, index⟩, -, rfl⟩ := List.mem_map.mp member
  refine ⟨name, ?_, ?_, ?_⟩
  · intro refdes
    simp only [List.mem_mergeSort, List.mem_map, mem_group]
    constructor
    · rintro ⟨component, ⟨there, key⟩, rfl⟩
      exact ⟨component, there, rfl, key⟩
    · rintro ⟨component, there, rfl, key⟩
      exact ⟨component, ⟨there, key⟩, rfl⟩
  · intro netName
    simp only [mem_sortedSet, List.mem_map, group_eq_filter, List.mem_filter, List.mem_flatMap, decide_eq_true_iff]
    constructor
    · rintro ⟨pair, ⟨⟨net, there, touched, inTouched, rfl⟩, rfl⟩, rfl⟩
      exact ⟨net, there, rfl, inTouched⟩
    · rintro ⟨net, there, rfl, touched⟩
      exact ⟨(name, net.name), ⟨⟨net, there, name, touched, rfl⟩, rfl⟩, rfl⟩
  · exact (List.mergeSort_perm _ _).nodup_iff.mpr (List.nodup_dedup _)

theorem perm_modulesOf :
    ((modulesOf strategy moduleId nameOf keyOf design.instances design.nets).flatMap (·.instances)).Perm
      (design.instances.map (·.refdes)) := by
  let names := (grouped keyOf design.instances).keys.mergeSort fun left right => decide (left ≤ right)
  have parts : ((modulesOf strategy moduleId nameOf keyOf design.instances design.nets).flatMap (·.instances)) =
      names.flatMap fun name => ((group keyOf design.instances name).map (·.refdes)).mergeSort fun left right =>
        decide (left ≤ right) := by
    conv_rhs => rw [← List.zipIdx_map_fst 1 names]
    rw [modulesOf, List.flatMap_map, List.flatMap_map]
  rw [parts]
  have sorted := List.Perm.flatMap_left names fun name _ =>
    List.mergeSort_perm ((group keyOf design.instances name).map (·.refdes)) fun left right => decide (left ≤ right)
  refine sorted.trans ?_
  rw [← List.map_flatMap]
  exact (perm_flatMap_group (List.mergeSort_perm _ _)).map _

theorem partitions_modulesOf (distinct : Function.Injective moduleId)
    (keyed : ∀ component ∈ design.instances, keyOf component ≠ "") :
    Partitions design (modulesOf strategy moduleId nameOf keyOf design.instances design.nets) where
  ids := moduleIds_modulesOf design strategy moduleId nameOf keyOf distinct
  instances := perm_modulesOf design strategy moduleId nameOf keyOf
  nets := by
    intro made member net there
    obtain ⟨name, instances, nets, -⟩ := exists_of_mem_modulesOf design strategy moduleId nameOf keyOf member
    rw [nets]
    constructor
    · rintro ⟨other, otherThere, sameName, touched⟩
      obtain rfl := List.inj_on_of_nodup_map design.netNames otherThere there sameName
      obtain ⟨-, connection, listed, component, known, sameRefdes, key⟩ :=
        (mem_touchedGroups design keyOf).mp touched
      exact ⟨connection, listed, (instances _).mpr ⟨component, known, sameRefdes, key⟩⟩
    · rintro ⟨connection, listed, inside⟩
      obtain ⟨component, known, sameRefdes, rfl⟩ := (instances _).mp inside
      exact ⟨net, there, rfl, (mem_touchedGroups design keyOf).mpr
        ⟨keyed component known, connection, listed, component, known, sameRefdes, rfl⟩⟩
  named := by
    intro made member name listed
    obtain ⟨_, -, nets, -⟩ := exists_of_mem_modulesOf design strategy moduleId nameOf keyOf member
    obtain ⟨net, there, sameName, -⟩ := (nets name).mp listed
    exact ⟨net, there, sameName⟩
  once := by
    intro made member
    obtain ⟨_, -, -, once⟩ := exists_of_mem_modulesOf design strategy moduleId nameOf keyOf member
    exact once

end Groups

/-! ### Both strategies -/

theorem ofDigitChars_twoDigits (index : Nat) : Nat.ofDigitChars 10 (twoDigits index).toList 0 = index := by
  have read : Nat.ofDigitChars 10 (toString index).toList 0 = index := by
    rw [Nat.toString_eq_repr, Nat.toList_repr]
    exact Nat.ofDigitChars_ten_toDigits
  rw [twoDigits]
  split
  · rw [String.toList_append]
    exact read
  · exact read

theorem pageId_injective : Function.Injective fun index => "edf_page_" ++ twoDigits index := by
  intro left right same
  have digits : twoDigits left = twoDigits right := by simpa using same
  rw [← ofDigitChars_twoDigits left, digits, ofDigitChars_twoDigits]

theorem refPageId_injective : Function.Injective fun index => "edf_ref_page_" ++ toString (index : Nat) := by
  intro left right same
  have digits : toString left = toString right := by simpa using same
  rw [← @Nat.ofDigitChars_ten_toDigits left, ← Nat.toList_repr, ← Nat.toString_eq_repr, digits, Nat.toString_eq_repr,
    Nat.toList_repr, Nat.ofDigitChars_ten_toDigits]

theorem instancePageKey_ne (host : Host) (refdes : String) : instancePageKey host refdes ≠ "" := by
  rw [instancePageKey]
  split
  · rename_i enough
    rw [nonBlank, Option.filter_some]
    split
    · rename_i blank
      simpa using blank
    · rw [Option.getD_none]
      decide
  · decide

theorem partitions_partitionByRefdesPage (host : Host) (design : ParsedDesign) :
    Partitions design (partitionByRefdesPage host design.instances design.nets) := by
  rw [partitionByRefdesPage]
  split
  · rename_i paged
    rw [partitionByPage] at paged ⊢
    split at paged
    · exact absurd rfl paged
    · rename_i every
      rw [if_neg every]
      refine partitions_modulesOf design _ _ _ _ pageId_injective ?_
      intro component there blank
      refine every ⟨component, there, ?_⟩
      cases page : instancePageName component with
      | none => rfl
      | some =>
        rw [page, Option.getD_some] at blank
        rw [blank]
        rfl
  · rw [partitionByRefdesDigits]
    exact partitions_modulesOf design _ _ _ _ refPageId_injective fun component _ =>
      instancePageKey_ne host component.refdes

/-- The modules of a parsed design divide its instances, have distinct ids, and list exactly the nets with a connection
to one of their instances. -/
theorem modules_partition_design (host : Host) (design : ParsedDesign) :
    Partitions design (partitionByRefdesPage host design.instances design.nets) :=
  partitions_partitionByRefdesPage host design

end HardwareDatabase.Circuit
