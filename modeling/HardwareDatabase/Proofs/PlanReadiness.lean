/-
Module: HardwareDatabase.Proofs.PlanReadiness
Purpose: The nodes that the plan executor finds ready, and the receipts that it takes over.
Trusted boundary: none
-/
import HardwareDatabase.Harness.PlanGraph

namespace HardwareDatabase.Harness.PlanGraph

open Planning (CompiledTaskNode TaskGraph WellFormed mem_of_node?)

variable {ρ : Type} {graph : TaskGraph} {result : PlanDAGExecutionResult ρ}

/-! ### Sets of nodes -/

/-- There is a receipt for a node. -/
def Held (committed : List (String × ρ)) (nodeId : String) : Prop :=
  (committed.lookup nodeId).isSome = true

/-- A node is committed. -/
def Committed (result : PlanDAGExecutionResult ρ) (nodeId : String) : Prop :=
  result.statuses nodeId = some .committed

/-- A set of nodes is closed under dependencies. -/
def DownClosed (graph : TaskGraph) (set : String → Prop) : Prop :=
  ∀ node ∈ graph.nodes, set node.nodeId → ∀ dependency ∈ node.dependencies, set dependency

/-- A node that has not run and whose dependencies are committed. -/
structure Waiting (graph : TaskGraph) (result : PlanDAGExecutionResult ρ) (node : CompiledTaskNode) : Prop where
  member : node ∈ graph.nodes
  idle : result.statuses node.nodeId = none
  depends : ∀ dependency ∈ node.dependencies, Committed result dependency

/-! ### Ready nodes -/

theorem isCommitted_iff {nodeId : String} : result.isCommitted nodeId = true ↔ Committed result nodeId :=
  beq_iff_eq

theorem mem_ready_iff (formed : WellFormed graph) {node : CompiledTaskNode} :
    node ∈ ready graph result ↔ Waiting graph result node := by
  unfold ready
  rw [List.mem_filterMap]
  constructor
  · rintro ⟨nodeId, -, found⟩
    obtain ⟨there, waits⟩ := Option.mem_filter_iff.mp found
    obtain ⟨member, rfl⟩ := mem_of_node? there
    obtain ⟨idle, depends⟩ := (Bool.and_eq_true _ _).mp waits
    refine ⟨member, Option.isNone_iff_eq_none.mp idle, fun dependency needed => ?_⟩
    exact isCommitted_iff.mp (List.all_eq_true.mp depends dependency needed)
  · intro waiting
    have listed : node.nodeId ∈ graph.topologicalOrder :=
      (formed.listed node.nodeId).mpr (List.mem_map_of_mem waiting.member)
    refine ⟨node.nodeId, listed, Option.mem_filter_iff.mpr ⟨formed.node?_eq waiting.member, ?_⟩⟩
    rw [waiting.idle, Option.isNone_none, Bool.true_and, List.all_eq_true]
    exact fun dependency needed => isCommitted_iff.mpr (waiting.depends dependency needed)

theorem ready_sublist (graph : TaskGraph) (result : PlanDAGExecutionResult ρ) :
    ((ready graph result).map (·.nodeId)).Sublist graph.topologicalOrder := by
  unfold ready
  generalize graph.topologicalOrder = order
  induction order with
  | nil => exact List.Sublist.refl _
  | cons nodeId rest ih =>
    rw [List.filterMap_cons]
    split
    · exact ih.cons nodeId
    · rename_i node found
      obtain ⟨-, named⟩ := mem_of_node? (Option.mem_filter_iff.mp found).1
      rw [List.map_cons, named]
      exact ih.cons_cons nodeId

theorem ready_nodup (formed : WellFormed graph) : ((ready graph result).map (·.nodeId)).Nodup :=
  (ready_sublist graph result).nodup formed.order

theorem exists_ready (formed : WellFormed graph) (unfailed : ∀ nodeId, result.statuses nodeId ≠ some .failed)
    {node : CompiledTaskNode} (member : node ∈ graph.nodes) (open_ : ¬ Committed result node.nodeId) :
    ∃ other, other ∈ ready graph result := by
  -- the induction is on the place of the node in the order of the graph
  induction place : graph.topologicalOrder.idxOf node.nodeId using Nat.strongRecOn generalizing node with
  | ind place ih =>
    by_cases depends : ∀ dependency ∈ node.dependencies, Committed result dependency
    · have idle : result.statuses node.nodeId = none := by
        cases status : result.statuses node.nodeId with
        | none => rfl
        | some reached =>
          cases reached with
          | committed => exact absurd status open_
          | failed => exact absurd status (unfailed node.nodeId)
      exact ⟨node, (mem_ready_iff formed).mpr ⟨member, idle, depends⟩⟩
    · obtain ⟨dependency, missed⟩ := not_forall.mp depends
      obtain ⟨needed, missing⟩ := Classical.not_imp.mp missed
      obtain ⟨other, otherMember, rfl⟩ := List.mem_map.mp (formed.known node member dependency needed)
      have earlier := formed.precedes node member other.nodeId needed
      rw [place] at earlier
      exact ih _ earlier otherMember missing rfl

/-! ### Taking over receipts -/

theorem held_iff {committed : List (String × ρ)} {nodeId : String} :
    Held committed nodeId ↔ ∃ entry ∈ committed, entry.1 = nodeId := by
  rw [Held, List.lookup_isSome_iff]
  constructor
  · rintro ⟨entry, member, same⟩
    exact ⟨entry, member, (eq_of_beq same).symm⟩
  · rintro ⟨entry, member, same⟩
    exact ⟨entry, member, beq_iff_eq.mpr same.symm⟩

/-- The receipts that a run takes over are of nodes of the graph and closed under dependencies. -/
structure Downward (graph : TaskGraph) (committed : List (String × ρ)) : Prop where
  known : ∀ entry ∈ committed, entry.1 ∈ graph.nodeIds
  closed : DownClosed graph (Held committed)

/-- The receipts of the nodes in a list have been taken over, and no others. -/
structure Restored (committed : List (String × ρ)) (taken : List String) (result : PlanDAGExecutionResult ρ) :
    Prop where
  listed : result.completedNodes = taken.filter fun nodeId => (committed.lookup nodeId).isSome
  statuses : ∀ nodeId, result.statuses nodeId = none ∨ Committed result nodeId
  committed : ∀ nodeId, Committed result nodeId ↔ nodeId ∈ taken ∧ Held committed nodeId

variable {committed : List (String × ρ)}

theorem Restored.empty (committed : List (String × ρ)) :
    Restored committed [] (PlanDAGExecutionResult.empty : PlanDAGExecutionResult ρ) where
  listed := rfl
  statuses := fun _ => Or.inl rfl
  committed := by
    intro nodeId
    constructor
    · intro status
      cases status
    · intro there
      exact absurd there.1 List.not_mem_nil

theorem Restored.skip {taken : List String} {nodeId : String} (restored : Restored committed taken result)
    (missing : committed.lookup nodeId = none) : Restored committed (taken ++ [nodeId]) result where
  listed := by
    rw [List.filter_append, restored.listed, List.filter_singleton, missing]
    exact (List.append_nil _).symm
  statuses := restored.statuses
  committed := by
    intro other
    rw [restored.committed, List.mem_append, List.mem_singleton]
    constructor
    · exact fun there => ⟨Or.inl there.1, there.2⟩
    · rintro ⟨old | rfl, held⟩
      · exact ⟨old, held⟩
      · rw [Held, missing] at held
        cases held

theorem committed_commit {nodeId other : String} {output : ρ} :
    Committed (result.commit nodeId output) other ↔ other = nodeId ∨ Committed result other := by
  unfold Committed
  rw [PlanDAGExecutionResult.statuses_commit]
  split
  · rename_i same
    exact ⟨fun _ => Or.inl same, fun _ => rfl⟩
  · rename_i different
    exact ⟨Or.inr, fun either => either.resolve_left different⟩

theorem Restored.take {taken : List String} {nodeId : String} {receipt : ρ}
    (restored : Restored committed taken result) (held : committed.lookup nodeId = some receipt) :
    Restored committed (taken ++ [nodeId]) ((result.commit nodeId receipt).complete [nodeId]) where
  listed := by
    rw [List.filter_append, ← restored.listed, List.filter_singleton, held]
    rfl
  statuses := by
    intro other
    by_cases same : other = nodeId
    · exact Or.inr (committed_commit.mpr (Or.inl same))
    · rcases restored.statuses other with idle | old
      · exact Or.inl (by simp [PlanDAGExecutionResult.statuses_commit, same, idle])
      · exact Or.inr (committed_commit.mpr (Or.inr old))
  committed := by
    intro other
    have iff : Committed ((result.commit nodeId receipt).complete [nodeId]) other ↔
        other = nodeId ∨ Committed result other := committed_commit
    rw [iff, restored.committed, List.mem_append, List.mem_singleton]
    constructor
    · rintro (rfl | ⟨old, there⟩)
      · exact ⟨Or.inr rfl, by rw [Held, held]; rfl⟩
      · exact ⟨Or.inl old, there⟩
    · rintro ⟨old | same, there⟩
      · exact Or.inr ⟨old, there⟩
      · exact Or.inl same

theorem restore_eq_ok (downward : Downward graph committed) {taken rest : List String}
    (nodes : ∀ nodeId ∈ rest, nodeId ∈ graph.nodeIds) (restored : Restored committed taken result) :
    ∃ last, restore graph committed rest result = .ok last ∧ Restored committed (taken ++ rest) last := by
  induction rest generalizing taken result with
  | nil => exact ⟨result, rfl, by rwa [List.append_nil]⟩
  | cons nodeId rest ih =>
    have others : ∀ other ∈ rest, other ∈ graph.nodeIds := fun other member =>
      nodes other (List.mem_cons_of_mem nodeId member)
    rw [List.append_cons]
    unfold restore
    split
    · rename_i receipt node held found
      obtain ⟨member, rfl⟩ := mem_of_node? found
      have none_missing : (node.dependencies.filter fun dependency =>
          (committed.lookup dependency).isNone) = [] := by
        rw [List.filter_eq_nil_iff]
        intro dependency needed
        have there : Held committed dependency :=
          downward.closed node member (by rw [Held, held]; rfl) dependency needed
        rw [Option.isNone_iff_eq_none, ← Option.not_isSome_iff_eq_none]
        exact not_not_intro there
      rw [none_missing]
      exact ih others (restored.take held)
    · rename_i absent
      cases held : committed.lookup nodeId with
      | none => exact ih others (restored.skip held)
      | some receipt =>
        obtain ⟨node, member, rfl⟩ := List.mem_map.mp (nodes nodeId List.mem_cons_self)
        cases found : graph.node? node.nodeId with
        | some found_ => exact absurd found (absent receipt found_ held)
        | none =>
          have named := List.find?_eq_none.mp found node member
          exact absurd (beq_self_eq_true node.nodeId) named

theorem takeOver_eq_ok (formed : WellFormed graph) (downward : Downward graph committed) :
    ∃ result, takeOver graph committed = .ok result ∧ Restored committed graph.topologicalOrder result := by
  unfold takeOver
  split
  · rename_i entry found
    have unknown := List.find?_some found
    have known := downward.known entry (List.mem_of_find?_eq_some found)
    rw [Bool.not_eq_true', List.contains_eq_mem, decide_eq_false_iff_not] at unknown
    exact absurd known unknown
  · exact restore_eq_ok downward (fun nodeId member => (formed.listed nodeId).mp member) (Restored.empty committed)

end HardwareDatabase.Harness.PlanGraph
