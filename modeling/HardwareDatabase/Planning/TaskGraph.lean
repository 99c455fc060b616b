/-
Module: HardwareDatabase.Planning.TaskGraph
Purpose: The compiled task graph (`src/src/document_authoring/planning/task_graph.py`) with the validators of the
  models. The schemas, attempts, timeouts and length limits are left out: neither the validators between the rows nor
  the executor read them.
Trusted boundary: none
-/
import HardwareDatabase.Relational.Table
import Mathlib.Data.List.Perm.Subperm

namespace HardwareDatabase.Planning

open Relational

/-! ### Rows -/

/-- `NodeKind`. -/
inductive NodeKind
  | preflight
  | unit
  | barrier
  | aggregate
  | preRenderReview
  | render
  | postRenderReview
  | release
deriving Repr, DecidableEq

/-- A `CompiledTaskNode`. -/
structure CompiledTaskNode where
  nodeId : String
  kind : NodeKind
  taskId : Option String := none
  unitId : Option String := none
  dependencies : List String := []
  actionKey : String
deriving Repr, DecidableEq

/-- A `CompiledTaskEdge`. -/
structure CompiledTaskEdge where
  upstreamNodeId : String
  downstreamNodeId : String
deriving Repr, DecidableEq

/-- A `CompiledTaskBarrier`. -/
structure CompiledTaskBarrier where
  barrierId : String
  memberNodeIds : List String
  nodeId : String
deriving Repr, DecidableEq

/-- The columns of a `CompiledTaskGraph`. -/
structure TaskGraph where
  nodes : List CompiledTaskNode
  edges : List CompiledTaskEdge := []
  barriers : List CompiledTaskBarrier := []
  topologicalOrder : List String
  graphHash : Option String := none
deriving Repr, DecidableEq

/-! ### Validators -/

/-- `if not condition: raise ValueError(message)`. -/
def ensure (condition : Prop) [Decidable condition] (message : String) : Except String Unit :=
  if condition then .ok () else .error message

/-- `CompiledTaskNode.validate_identity`; the ids that are there are not empty. -/
def CompiledTaskNode.validateIdentity (node : CompiledTaskNode) : Except String Unit := do
  ensure (node.kind = .unit → node.taskId.isSome = true ∧ node.unitId.isSome = true)
    "unit graph nodes require task_id and unit_id"
  ensure (node.kind ≠ .unit → node.taskId = none ∧ node.unitId = none)
    "non-unit graph nodes may not carry task identity"
  ensure node.dependencies.Nodup "graph node dependencies must be unique"
  ensure (node.nodeId ∉ node.dependencies) "graph node may not depend on itself"

namespace TaskGraph

/-- `node_ids`. -/
def nodeIds (graph : TaskGraph) : List String :=
  graph.nodes.map (·.nodeId)

/-- `expected_pairs`. -/
def expectedPairs (graph : TaskGraph) : List (String × String) :=
  graph.nodes.flatMap fun node => node.dependencies.map fun dependency => (dependency, node.nodeId)

/-- `edge_pairs`. -/
def edgePairs (graph : TaskGraph) : List (String × String) :=
  graph.edges.map fun edge => (edge.upstreamNodeId, edge.downstreamNodeId)

/-- The loop over the dependencies of the nodes. -/
def checkDependencies (graph : TaskGraph) : Except String Unit :=
  match graph.expectedPairs.find? fun pair => !graph.nodeIds.contains pair.1 with
  | none => .ok ()
  | some pair => .error ("graph dependency references unknown node: " ++ pair.1)

/-- The loop over the barriers. -/
def checkBarriers (graph : TaskGraph) : List CompiledTaskBarrier → Except String Unit
  | [] => .ok ()
  | barrier :: rest => do
    ensure (barrier.nodeId ∈ graph.nodeIds) "barrier node is not in graph"
    ensure (∀ member ∈ barrier.memberNodeIds, member ∈ graph.nodeIds)
      "barrier references an unknown member node"
    ensure (barrier.nodeId ∉ barrier.memberNodeIds) "barrier node cannot be one of its members"
    graph.checkBarriers rest

/-- The ends of an edge are compared one by one. -/
local instance lawfulBEqEdge : LawfulBEq (String × String) := inferInstance

/-- `CompiledTaskGraph.validate_graph`, with `planning_content_hash`. -/
def validateGraph (contentHash : TaskGraph → String) (graph : TaskGraph) : Except String Unit := do
  ensure graph.nodeIds.Nodup "graph node IDs must be unique"
  ensure (graph.nodes.map (·.actionKey)).Nodup "graph action keys must be unique"
  ensure graph.edgePairs.Nodup "graph edges must be unique"
  graph.checkDependencies
  ensure ((∀ pair ∈ graph.edgePairs, pair ∈ graph.expectedPairs) ∧
      ∀ pair ∈ graph.expectedPairs, pair ∈ graph.edgePairs)
    "graph edges do not match node dependencies"
  ensure (graph.topologicalOrder.length = graph.nodeIds.length ∧
      (∀ nodeId ∈ graph.topologicalOrder, nodeId ∈ graph.nodeIds) ∧
      ∀ nodeId ∈ graph.nodeIds, nodeId ∈ graph.topologicalOrder)
    "topological_order must contain every graph node exactly once"
  ensure (∀ pair ∈ graph.expectedPairs,
      graph.topologicalOrder.idxOf pair.1 < graph.topologicalOrder.idxOf pair.2)
    "topological_order violates a graph dependency"
  ensure (graph.barriers.map (·.barrierId)).Nodup "graph barrier IDs must be unique"
  graph.checkBarriers graph.barriers
  ensure (∀ given ∈ graph.graphHash, given = contentHash { graph with graphHash := none })
    "graph_hash does not match the canonical compiled graph"

/-- The validators of the nodes, then that of the graph. -/
def validate (contentHash : TaskGraph → String) (graph : TaskGraph) : Except String Unit := do
  graph.nodes.forM CompiledTaskNode.validateIdentity
  graph.validateGraph contentHash

/-- The node under an id. -/
def node? (graph : TaskGraph) (nodeId : String) : Option CompiledTaskNode :=
  graph.nodes.find? fun node => node.nodeId == nodeId

end TaskGraph

/-- A graph that has passed its validators. -/
structure CompiledTaskGraph (contentHash : TaskGraph → String) where
  graph : TaskGraph
  valid : graph.validate contentHash = .ok ()

/-! ### What the validators say -/

/-- The nodes have ids of their own, depend on nodes of the graph, and stand in the order after their
dependencies. -/
structure WellFormed (graph : TaskGraph) : Prop where
  ids : graph.nodeIds.Nodup
  order : graph.topologicalOrder.Nodup
  listed : ∀ nodeId, nodeId ∈ graph.topologicalOrder ↔ nodeId ∈ graph.nodeIds
  known : ∀ node ∈ graph.nodes, ∀ dependency ∈ node.dependencies, dependency ∈ graph.nodeIds
  precedes : ∀ node ∈ graph.nodes, ∀ dependency ∈ node.dependencies,
    graph.topologicalOrder.idxOf dependency < graph.topologicalOrder.idxOf node.nodeId

theorem ensure_eq_ok {condition : Prop} [Decidable condition] {message : String}
    (passed : ensure condition message = .ok ()) : condition := by
  unfold ensure at passed
  split at passed
  · assumption
  · cases passed

theorem mem_expectedPairs {graph : TaskGraph} {node : CompiledTaskNode} {dependency : String}
    (member : node ∈ graph.nodes) (needed : dependency ∈ node.dependencies) :
    (dependency, node.nodeId) ∈ graph.expectedPairs :=
  List.mem_flatMap.mpr ⟨node, member, List.mem_map.mpr ⟨dependency, needed, rfl⟩⟩

theorem checkDependencies_eq_ok {graph : TaskGraph} (passed : graph.checkDependencies = .ok ())
    {pair : String × String} (member : pair ∈ graph.expectedPairs) : pair.1 ∈ graph.nodeIds := by
  unfold TaskGraph.checkDependencies at passed
  split at passed
  · rename_i none
    have found := List.find?_eq_none.mp none pair member
    simpa using found
  · cases passed

theorem CompiledTaskGraph.wellFormed {contentHash : TaskGraph → String}
    (compiled : CompiledTaskGraph contentHash) : WellFormed compiled.graph := by
  obtain ⟨graph, valid⟩ := compiled
  obtain ⟨-, -, valid⟩ := exists_of_bind_eq_ok valid
  obtain ⟨⟨⟩, unique, valid⟩ := exists_of_bind_eq_ok valid
  obtain ⟨-, -, valid⟩ := exists_of_bind_eq_ok valid
  obtain ⟨-, -, valid⟩ := exists_of_bind_eq_ok valid
  obtain ⟨⟨⟩, known, valid⟩ := exists_of_bind_eq_ok valid
  obtain ⟨-, -, valid⟩ := exists_of_bind_eq_ok valid
  obtain ⟨⟨⟩, ordered, valid⟩ := exists_of_bind_eq_ok valid
  obtain ⟨⟨⟩, precedes, -⟩ := exists_of_bind_eq_ok valid
  obtain ⟨length, onlyNodes, allNodes⟩ := ensure_eq_ok ordered
  have ids := ensure_eq_ok unique
  have permuted : graph.nodeIds.Perm graph.topologicalOrder :=
    (ids.subperm allNodes).perm_of_length_le (Nat.le_of_eq length)
  exact
    { ids
      order := permuted.nodup_iff.mp ids
      listed := fun nodeId => ⟨onlyNodes nodeId, allNodes nodeId⟩
      known := fun node member dependency needed =>
        checkDependencies_eq_ok known (mem_expectedPairs member needed)
      precedes := fun node member dependency needed =>
        ensure_eq_ok precedes _ (mem_expectedPairs member needed) }

/-! ### Nodes -/

section Nodes

variable {graph : TaskGraph}

theorem mem_of_node? {nodeId : String} {node : CompiledTaskNode} (found : graph.node? nodeId = some node) :
    node ∈ graph.nodes ∧ node.nodeId = nodeId := by
  have named := List.find?_some found
  exact ⟨List.mem_of_find?_eq_some found, eq_of_beq named⟩

theorem WellFormed.node?_eq (formed : WellFormed graph) {node : CompiledTaskNode}
    (member : node ∈ graph.nodes) : graph.node? node.nodeId = some node :=
  UniqueOn.find?_eq formed.ids member

theorem WellFormed.eq_of_nodeId (formed : WellFormed graph) {left right : CompiledTaskNode}
    (leftMember : left ∈ graph.nodes) (rightMember : right ∈ graph.nodes)
    (same : left.nodeId = right.nodeId) : left = right :=
  UniqueOn.eq_of_key formed.ids leftMember rightMember same

end Nodes

end HardwareDatabase.Planning
