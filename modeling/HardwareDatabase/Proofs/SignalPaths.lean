/-
Module: HardwareDatabase.Proofs.SignalPaths
Purpose: The signal path that a trace finds is a shortest one, whatever depth the caller allows.
Trusted boundary: none
-/
import HardwareDatabase.Circuit.QueryEngine
import HardwareDatabase.Proofs.NamedLookups

namespace HardwareDatabase.Circuit

open Python Relational

/-! ### Hops in the netlist -/

/-- The net connects two components; a connection without a designator is none of a component. -/
structure Net.Joins (net : Net) (first second : String) : Prop where
  apart : first ≠ second
  first_mem : ∃ connection ∈ net.connections, connection.refdes = first
  second_mem : ∃ connection ∈ net.connections, connection.refdes = second
  named : first ≠ "" ∧ second ≠ ""

/-- The components share a net. -/
def Hops (design : CircuitDesign) (first second : String) : Prop :=
  ∃ net ∈ design.nets, net.Joins first second

/-- A path from a component of the one entity to a component of the other. -/
abbrev JoiningPath (casing : Casing) (order : SetOrder) (design : CircuitDesign) (fromEntity toEntity : String)
    (path : List String) : Prop :=
  IsPath (Hops design) (resolveEntityToRefdes casing order design fromEntity)
    (resolveEntityToRefdes casing order design toEntity) path

/-- The hops of an answer are those between the components of its path, each along a net of the design. -/
structure HopsOf (design : CircuitDesign) (answer : SignalPath) : Prop where
  sources : answer.hops.map (·.source) = answer.path.dropLast
  targets : answer.hops.map (·.target) = answer.path.tail
  nets : ∀ hop ∈ answer.hops, ∃ net ∈ design.nets, net.name = hop.net ∧ net.netType = hop.netType ∧
    net.Joins hop.source hop.target

/-- There is an answer if and only if some path has at most the given number of hops. The path of the answer leads
from the one entity to the other along nets, and no path is shorter. -/
structure RightTrace (casing : Casing) (order : SetOrder) (design : CircuitDesign) (fromEntity toEntity : String)
    (maxDepth : Nat) (answer : Option SignalPath) : Prop where
  answered : (∃ found, answer = some found) ↔
    ∃ path, JoiningPath casing order design fromEntity toEntity path ∧ path.length ≤ maxDepth + 1
  correct : ∀ found, answer = some found → JoiningPath casing order design fromEntity toEntity found.path ∧
    HopsOf design found ∧
      ∀ path, JoiningPath casing order design fromEntity toEntity path → found.path.length ≤ path.length

private theorem mem_pairEntries {net : Net} {components : List String} {first second name kind : String} :
    (first, second, name, kind) ∈ pairEntries net components ↔
      first ∈ components ∧ second ∈ components ∧ first ≠ second ∧ name = net.name ∧ kind = net.netType := by
  induction components with
  | nil => simp [pairEntries]
  | cons source rest ih =>
    rw [pairEntries, List.mem_append, ih, List.mem_flatMap]
    constructor
    · rintro (⟨target, there, entry⟩ | ⟨firstMember, secondMember, rest⟩)
      · obtain ⟨member, apart⟩ := List.mem_filter.mp there
        have apart : target ≠ source := bne_iff_ne.mp apart
        rcases List.mem_cons.mp entry with forth | back
        · cases forth
          exact ⟨List.mem_cons_self, List.mem_cons_of_mem _ member, apart.symm, rfl, rfl⟩
        · cases List.mem_singleton.mp back
          exact ⟨List.mem_cons_of_mem _ member, List.mem_cons_self, apart, rfl, rfl⟩
      · exact ⟨List.mem_cons_of_mem _ firstMember, List.mem_cons_of_mem _ secondMember, rest⟩
    · rintro ⟨firstMember, secondMember, apart, rfl, rfl⟩
      rcases List.mem_cons.mp firstMember with rfl | firstLater
      · have later := (List.mem_cons.mp secondMember).resolve_left apart.symm
        exact .inl ⟨second, List.mem_filter.mpr ⟨later, bne_iff_ne.mpr apart.symm⟩, List.mem_cons_self⟩
      · rcases List.mem_cons.mp secondMember with rfl | secondLater
        · exact .inl ⟨first, List.mem_filter.mpr ⟨firstLater, bne_iff_ne.mpr apart⟩,
            List.mem_cons_of_mem _ List.mem_cons_self⟩
        · exact .inr ⟨firstLater, secondLater, apart, rfl, rfl⟩

private theorem mem_componentsOn {net : Net} {refdes : String} :
    refdes ∈ componentsOn net ↔ (∃ connection ∈ net.connections, connection.refdes = refdes) ∧ refdes ≠ "" := by
  rw [componentsOn, List.mem_filter, List.mem_map, bne_iff_ne]

private theorem mem_instanceAdjacency {design : CircuitDesign} {first second name kind : String} :
    (second, name, kind) ∈ instanceAdjacency design first ↔
      ∃ net ∈ design.nets, net.name = name ∧ net.netType = kind ∧ net.Joins first second := by
  rw [instanceAdjacency, group_eq_filter, List.mem_map]
  constructor
  · rintro ⟨⟨owner, peer⟩, member, rfl⟩
    obtain ⟨there, same⟩ := List.mem_filter.mp member
    obtain ⟨net, listed, entry⟩ := List.mem_flatMap.mp there
    have owned : owner = first := by simpa using same
    obtain ⟨firstMember, secondMember, apart, rfl, rfl⟩ := mem_pairEntries.mp entry
    obtain ⟨firstPin, firstNamed⟩ := mem_componentsOn.mp firstMember
    obtain ⟨secondPin, secondNamed⟩ := mem_componentsOn.mp secondMember
    rw [← owned]
    exact ⟨net, listed, rfl, rfl, apart, firstPin, secondPin, firstNamed, secondNamed⟩
  · rintro ⟨net, listed, rfl, rfl, joins⟩
    refine ⟨(first, second, net.name, net.netType), List.mem_filter.mpr ⟨List.mem_flatMap.mpr ⟨net, listed, ?_⟩, ?_⟩,
      rfl⟩
    · exact mem_pairEntries.mpr ⟨mem_componentsOn.mpr ⟨joins.first_mem, joins.named.1⟩,
        mem_componentsOn.mpr ⟨joins.second_mem, joins.named.2⟩, joins.apart, rfl, rfl⟩
    · simp

private theorem leads_eq (design : CircuitDesign) : Leads (instanceAdjacency design) = Hops design := by
  funext first second
  refine propext ⟨?_, ?_⟩
  · rintro ⟨⟨name, kind⟩, entry⟩
    obtain ⟨net, listed, -, -, joins⟩ := mem_instanceAdjacency.mp entry
    exact ⟨net, listed, joins⟩
  · rintro ⟨net, listed, joins⟩
    exact ⟨(net.name, net.netType), mem_instanceAdjacency.mpr ⟨net, listed, rfl, rfl, joins⟩⟩

/-! ### The trace -/

section Trace

variable (casing : Casing) (order : SetOrder) (design : CircuitDesign) {fromEntity toEntity : String}

private theorem traceSignalPath_spec (named : fromEntity ≠ "" ∧ toEntity ≠ "")
    (some : resolveEntityToRefdes casing order design fromEntity ≠ [])
    (other : resolveEntityToRefdes casing order design toEntity ≠ []) (maxDepth : Nat) :
    ((∃ found, traceSignalPath casing order design fromEntity toEntity maxDepth = .some found) ↔
      ∃ path, JoiningPath casing order design fromEntity toEntity path) ∧
    ∀ found, traceSignalPath casing order design fromEntity toEntity maxDepth = .some found →
      JoiningPath casing order design fromEntity toEntity found.path ∧ HopsOf design found ∧
        ∀ path, JoiningPath casing order design fromEntity toEntity path → found.path.length ≤ path.length := by
  have asked : ¬ (fromEntity = "" ∨ toEntity = "" ∨ resolveEntityToRefdes casing order design fromEntity = [] ∨
      resolveEntityToRefdes casing order design toEntity = []) := by
    simp [named, some, other]
  simp only [traceSignalPath, if_neg asked]
  have covers : ∀ refdes, ∀ step ∈ instanceAdjacency design refdes, step.1 ∈
      (design.nets.flatMap fun net => pairEntries net (componentsOn net)).map fun entry => entry.2.1 := by
    intro refdes step member
    obtain ⟨entry, there, rfl⟩ := List.mem_map.mp member
    rw [group_eq_filter] at there
    exact List.mem_map.mpr ⟨entry, (List.mem_filter.mp there).1, rfl⟩
  have outcome := @breadthFirst_spec String (String × String) _ (instanceAdjacency design)
    (resolveEntityToRefdes casing order design fromEntity) (resolveEntityToRefdes casing order design toEntity) _ covers
    _ (Nat.le_of_eq (by rw [List.length_map]))
  rw [leads_eq] at outcome
  rcases outcome with ⟨way, found, isPath, steps, least⟩ | ⟨none, noPath⟩
  · rw [found]
    refine ⟨iff_of_true ⟨_, rfl⟩ ⟨way.1, isPath⟩, fun answer same => ?_⟩
    obtain rfl := Option.some.inj same
    refine ⟨isPath, ⟨?_, ?_, fun hop member => ?_⟩, least⟩
    · rw [List.map_map]
      exact steps.befores
    · rw [List.map_map]
      exact steps.afters
    · obtain ⟨step, there, rfl⟩ := List.mem_map.mp member
      exact mem_instanceAdjacency.mp (steps.each step there)
  · rw [none]
    exact ⟨iff_of_false nofun fun ⟨path, isPath⟩ => noPath path isPath, nofun⟩

private theorem traceSignalPath_unnamed (unnamed : ¬ (fromEntity ≠ "" ∧ toEntity ≠ "")) (maxDepth : Nat) :
    traceSignalPath casing order design fromEntity toEntity maxDepth = none := by
  rw [traceSignalPath]
  refine if_pos ?_
  by_cases first : fromEntity = ""
  · exact .inl first
  · exact .inr (.inl (not_not.mp fun second => unnamed ⟨first, second⟩))

/-- The trace is right if and only if a path within the depth exists whenever the entities are named and some path
joins them, and only then. -/
theorem right_trace_iff (some : resolveEntityToRefdes casing order design fromEntity ≠ [])
    (other : resolveEntityToRefdes casing order design toEntity ≠ []) (maxDepth : Nat) :
    RightTrace casing order design fromEntity toEntity maxDepth
        (traceSignalPath casing order design fromEntity toEntity maxDepth) ↔
      ((fromEntity ≠ "" ∧ toEntity ≠ "" ∧ ∃ path, JoiningPath casing order design fromEntity toEntity path) ↔
        ∃ path, JoiningPath casing order design fromEntity toEntity path ∧ path.length ≤ maxDepth + 1) := by
  by_cases named : fromEntity ≠ "" ∧ toEntity ≠ ""
  · obtain ⟨answered, correct⟩ := traceSignalPath_spec casing order design named some other maxDepth
    have same : (fromEntity ≠ "" ∧ toEntity ≠ "" ∧ ∃ path, JoiningPath casing order design fromEntity toEntity path) ↔
        ∃ found, traceSignalPath casing order design fromEntity toEntity maxDepth = .some found := by
      rw [answered, ← and_assoc, and_iff_right named]
    rw [same]
    exact ⟨RightTrace.answered, fun within => ⟨within, correct⟩⟩
  · have refused := traceSignalPath_unnamed casing order design named maxDepth
    have never : ¬ (fromEntity ≠ "" ∧ toEntity ≠ "" ∧
        ∃ path, JoiningPath casing order design fromEntity toEntity path) :=
      fun all => named ⟨all.1, all.2.1⟩
    have silent : ¬ ∃ found, (none : Option SignalPath) = .some found := nofun
    rw [refused, iff_false_left never]
    exact ⟨fun right => fun within => silent (right.answered.mpr within),
      fun none => ⟨iff_of_false silent none, nofun⟩⟩

end Trace

/-! ### Two components on a net -/

/-- The order of a list without its duplicates. -/
def listOrder : SetOrder where
  list := List.dedup
  mem_list _ _ := List.mem_dedup
  distinct := List.nodup_dedup

/-- Two components that share a net. -/
def linked : CircuitDesign where
  designId := "board"
  instances := [component "U1" [], component "U2" []]
  nets := [⟨"CLK", [⟨"U1", "1"⟩, ⟨"U2", "2"⟩], "clock"⟩]

private theorem resolve_linked : resolveEntityToRefdes asciiCasing listOrder linked "U1" = ["U1"] ∧
    resolveEntityToRefdes asciiCasing listOrder linked "U2" = ["U2"] := by
  decide +kernel

private theorem linked_path : JoiningPath asciiCasing listOrder linked "U1" "U2" ["U1", "U2"] := by
  rw [JoiningPath, resolve_linked.1, resolve_linked.2]
  have joins : Net.Joins ⟨"CLK", [⟨"U1", "1"⟩, ⟨"U2", "2"⟩], "clock"⟩ "U1" "U2" :=
    ⟨by decide, ⟨_, .head _, rfl⟩, ⟨_, .tail _ (.head _), rfl⟩, by decide, by decide⟩
  exact ⟨List.isChain_pair.mpr ⟨_, .head _, joins⟩, ⟨"U1", .head _, rfl⟩, "U2", .head _, rfl⟩

/-- One hop is found within a depth of one. -/
theorem one_hop_is_traced : RightTrace asciiCasing listOrder linked "U1" "U2" 1
    (traceSignalPath asciiCasing listOrder linked "U1" "U2" 1) :=
  (right_trace_iff asciiCasing listOrder linked (by rw [resolve_linked.1]; decide)
    (by rw [resolve_linked.2]; decide) 1).mpr
      (iff_of_true ⟨by decide, by decide, _, linked_path⟩ ⟨_, linked_path, by decide⟩)

/-- One hop is answered although no hop is allowed. -/
theorem depth_is_ignored : ¬ RightTrace asciiCasing listOrder linked "U1" "U2" 0
    (traceSignalPath asciiCasing listOrder linked "U1" "U2" 0) := by
  intro right
  have found : (traceSignalPath asciiCasing listOrder linked "U1" "U2" 0).isSome = true := by decide +kernel
  obtain ⟨path, ⟨-, starts, ends⟩, short⟩ := right.answered.mp (Option.isSome_iff_exists.mp found)
  rw [resolve_linked.1] at starts
  rw [resolve_linked.2] at ends
  obtain ⟨source, first, head⟩ := starts
  obtain ⟨target, last, tail⟩ := ends
  rw [List.mem_singleton.mp first] at head
  rw [List.mem_singleton.mp last] at tail
  match path, short with
  | [node], _ =>
    have same : "U1" = "U2" := (Option.some.inj head).symm.trans (Option.some.inj tail)
    exact absurd same (by decide)

end HardwareDatabase.Circuit
