/-
Module: HardwareDatabase.Circuit.GraphStore
Purpose: The graph of components, pins and nets of a design (`src/src/circuit/graph_store.py`). The graph library is a
  simple undirected graph; `str.casefold` is a parameter.
Trusted boundary: none
-/
import HardwareDatabase.Circuit.QueryEngine

namespace HardwareDatabase.Circuit

open Python

/-! ### Nodes and edges -/

/-- The attributes of a node that depend on its kind. -/
inductive NodeBody where
  | component (refdes : String) (known : Option ComponentInstance)
  | pin (refdes pin : String)
  | net (name netType : String)

/-- The attributes of a node. -/
structure GraphNode where
  designId : String
  sourceName : String
  body : NodeBody

/-- The node is a pin. -/
def GraphNode.isPin (node : GraphNode) : Bool :=
  match node.body with
  | .pin _ _ => true
  | _ => false

/-- An edge of the projection. -/
structure Edge where
  src : String
  dst : String
  relation : String
deriving Repr, DecidableEq

def componentId (refdes : String) : String := "component:" ++ refdes

def netId (name : String) : String := "net:" ++ name

def pinId (refdes pin : String) : String := "pin:" ++ (refdes ++ "." ++ pin)

/-! ### The projection -/

/-- `os.path.splitext(fileName)[1]` of a POSIX path: leading dots start no extension. -/
def extension (fileName : String) : String :=
  let base := (afterLast '/' fileName).toList.dropWhile fun character => character == '.'
  if '.' ∈ base then String.ofList ('.' :: (base.reverse.takeWhile fun character => character != '.').reverse)
  else ""

/-- `_source_name`: the first netlist of the design, or its first file. -/
def sourceName (casefold : String → String) (design : CircuitDesign) : String :=
  let isNetlist (file : DesignFile) : Bool :=
    ["edf", "edif", "netlist"].contains (casefold file.fileType) ||
      [".edf", ".edif"].contains (casefold (extension file.fileName))
  (((design.files.find? isNetlist).or design.files.head?).map (·.fileName)).getD ""

section Projection

variable (design : CircuitDesign) (casefold : String → String)

/-- `instances_by_refdes`: the first instance of each designator. -/
def instancesByRefdes : OrderedDict String ComponentInstance :=
  (design.instances.filter fun component => strip component.refdes != "").foldl
    (fun known component => known.setDefault (strip component.refdes) component) .empty

/-- The node of a component. -/
def componentEntry (refdes : String) : String × GraphNode :=
  (componentId refdes,
    { designId := design.designId
      sourceName := sourceName casefold design
      body := .component refdes ((instancesByRefdes design).get? refdes) })

/-- `str(connection.pin or "?").strip() or "?"`. -/
def pinName (connection : PinRef) : String :=
  (nonBlank (some (strip ((nonBlank connection.pin).getD "?")))).getD "?"

/-- The connections of a net that have a designator. -/
def attached (net : Net) : List PinRef :=
  net.connections.filter fun connection => strip connection.refdes != ""

/-- The nodes in the order in which the loops set them, unless they are there. -/
def nodeEntries : List (String × GraphNode) :=
  ((design.instances.filter fun component => strip component.refdes != "").map fun component =>
    componentEntry design casefold (strip component.refdes)) ++
  design.nets.flatMap fun net =>
    (netId net.name,
        { designId := design.designId
          sourceName := sourceName casefold design
          body := .net net.name net.netType }) ::
      (attached net).flatMap fun connection =>
        let refdes := strip connection.refdes
        [componentEntry design casefold refdes,
          (pinId refdes (pinName connection),
            { designId := design.designId
              sourceName := sourceName casefold design
              body := .pin refdes (pinName connection) })]

/-- The edges in the order in which the loops add them. -/
def edgeEntries : List Edge :=
  design.nets.flatMap fun net => (attached net).flatMap fun connection =>
    let refdes := strip connection.refdes
    let pin := pinId refdes (pinName connection)
    [⟨componentId refdes, pin, "contains"⟩, ⟨pin, netId net.name, "on_net"⟩]

/-- `add_edge` of the projection. -/
def addEdge (edges : List Edge) (edge : Edge) : List Edge :=
  if edge ∈ edges then edges else edges ++ [edge]

/-- `_build_projection`. -/
def buildProjection : OrderedDict String GraphNode × List Edge :=
  ((nodeEntries design casefold).foldl (fun nodes entry => nodes.setDefault entry.1 entry.2) .empty,
    (edgeEntries design).foldl addEdge [])

end Projection

/-! ### The two representations -/

/-- A graph of the library, or the dictionary. -/
inductive Graph where
  | networkx (nodes : OrderedDict String GraphNode) (edges : List Edge)
  | fallback (nodes : OrderedDict String GraphNode) (edges : List Edge)

/-- The edges join the same nodes. -/
def Edge.parallel (edge other : Edge) : Bool :=
  (edge.src == other.src && edge.dst == other.dst) || (edge.src == other.dst && edge.dst == other.src)

/-- `graph.add_edge` of an undirected graph: an edge between two nodes is there once, with the last relation. -/
def addSimpleEdge (edges : List Edge) (edge : Edge) : List Edge :=
  if edges.any (·.parallel edge) then
    edges.map fun other => if other.parallel edge then { other with relation := edge.relation } else other
  else edges ++ [edge]

/-- `build_graph`, with or without the library. -/
def buildGraph (library : Bool) (design : CircuitDesign) (casefold : String → String) : Graph :=
  let projection := buildProjection design casefold
  if library then .networkx projection.1 (projection.2.foldl addSimpleEdge [])
  else .fallback projection.1 projection.2

namespace Graph

/-- `_iter_nodes`. -/
def nodes : Graph → OrderedDict String GraphNode
  | networkx nodes _ | fallback nodes _ => nodes

/-- `_iter_edges`. -/
def edges : Graph → List Edge
  | networkx _ edges | fallback _ edges => edges

/-- `_graph_counts`. -/
def counts (graph : Graph) : Nat × Nat :=
  (graph.nodes.entries.length, graph.edges.length)

end Graph

/-! ### Connected entities -/

/-- `{target_id}` if it is a node. -/
def knownTarget (nodes : OrderedDict String GraphNode) (targetId : String) : List String :=
  if nodes.contains targetId then [targetId] else []

/-- `_query_targets`. -/
def queryTargets (nodes : OrderedDict String GraphNode) (refdes netName pin : String) : List String :=
  let cleanRefdes := strip refdes
  let cleanNetName := strip netName
  let cleanPin := strip pin
  (if cleanRefdes = "" then [] else knownTarget nodes (componentId (withoutStart "component:" cleanRefdes))) ++
  (if cleanNetName = "" then [] else knownTarget nodes (netId (withoutStart "net:" cleanNetName))) ++
  if cleanPin = "" then []
  else
    let targetPin := withoutStart "pin:" cleanPin
    let targetPin :=
      if hasPart targetPin "." = false ∧ cleanRefdes ≠ "" then
        withoutStart "component:" cleanRefdes ++ "." ++ targetPin
      else targetPin
    if hasPart targetPin "." then knownTarget nodes ("pin:" ++ targetPin)
    else (nodes.entries.filter fun entry =>
      match entry.2.body with
      | .pin _ name => name == targetPin
      | _ => false).map Prod.fst

/-- `adjacency[node_id]`. -/
def neighbours (edges : List Edge) (nodeId : String) : List String :=
  edges.flatMap fun edge =>
    (if edge.src = nodeId then [edge.dst] else []) ++ if edge.dst = nodeId then [edge.src] else []

/-- The node is there and is a pin. -/
def isPinId (nodes : OrderedDict String GraphNode) (nodeId : String) : Bool :=
  (nodes.get? nodeId).any GraphNode.isPin

/-- The ids that a target adds: its neighbours, and those of the pins among them unless it is a pin. -/
def reachedFrom (nodes : OrderedDict String GraphNode) (edges : List Edge) (targetId : String) : List String :=
  let direct := neighbours edges targetId
  direct ++
    if (nodes.get? targetId).any fun node => !node.isPin then
      (direct.filter (isPinId nodes)).flatMap (neighbours edges)
    else []

/-- `connected_entities`. -/
def connectedEntities (graph : Graph) (refdes netName pin : String) : List (String × GraphNode) :=
  let targetIds := queryTargets graph.nodes refdes netName pin
  let resultIds := (targetIds.flatMap (reachedFrom graph.nodes graph.edges)).filter fun nodeId =>
    !targetIds.contains nodeId
  (sortedSet resultIds).filterMap fun nodeId => (graph.nodes.get? nodeId).map fun node => (nodeId, node)

end HardwareDatabase.Circuit
