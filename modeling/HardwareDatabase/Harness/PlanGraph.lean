/-
Module: HardwareDatabase.Harness.PlanGraph
Purpose: `PlanDAGExecutor.run` (`src/src/document_authoring/harness/plan_graph.py`) over a task graph. The loop of the
  executor and the workers of the pool, with any order and outcome of their callbacks, interleave.
Trusted boundary: none
-/
import HardwareDatabase.Planning.TaskGraph
import HardwareDatabase.Relational.Run
import Mathlib.Logic.Function.Basic

namespace HardwareDatabase.Harness.PlanGraph

open Planning (CompiledTaskNode TaskGraph)
open Relational

variable {ρ : Type}

/-! ### Results -/

/-- A text in `statuses`. -/
inductive NodeStatus
  | committed
  | failed
deriving Repr, DecidableEq

/-- A `PlanDAGExecutionResult`. -/
structure PlanDAGExecutionResult (ρ : Type) where
  statuses : String → Option NodeStatus
  outputs : String → Option ρ
  receipts : String → Option ρ
  completedNodes : List String

/-- A `PlanDAGExecutionError`. -/
structure PlanDAGExecutionError where
  message : String
  statuses : String → Option NodeStatus
  nodeId : Option String

namespace PlanDAGExecutionResult

def empty : PlanDAGExecutionResult ρ :=
  { statuses := fun _ => none, outputs := fun _ => none, receipts := fun _ => none, completedNodes := [] }

/-- The status of a node. -/
def mark (result : PlanDAGExecutionResult ρ) (nodeId : String) (status : NodeStatus) : PlanDAGExecutionResult ρ :=
  { result with statuses := Function.update result.statuses nodeId (some status) }

/-- The output of a node, which is its receipt, and its status. -/
def commit (result : PlanDAGExecutionResult ρ) (nodeId : String) (output : ρ) : PlanDAGExecutionResult ρ :=
  { result with
    outputs := Function.update result.outputs nodeId (some output)
    receipts := Function.update result.receipts nodeId (some output) }.mark nodeId .committed

/-- `completed_nodes.append`. -/
def complete (result : PlanDAGExecutionResult ρ) (nodeIds : List String) : PlanDAGExecutionResult ρ :=
  { result with completedNodes := result.completedNodes ++ nodeIds }

/-- `result.statuses.get(node_id) == "committed"`. -/
def isCommitted (result : PlanDAGExecutionResult ρ) (nodeId : String) : Bool :=
  result.statuses nodeId == some .committed

section Lemmas

variable (result : PlanDAGExecutionResult ρ) (nodeId : String)

theorem statuses_mark (status : NodeStatus) (other : String) : (result.mark nodeId status).statuses other =
      if other = nodeId then some status else result.statuses other :=
  Function.update_apply _ _ _ _

theorem statuses_commit (output : ρ) (other : String) : (result.commit nodeId output).statuses other =
      if other = nodeId then some .committed else result.statuses other :=
  Function.update_apply _ _ _ _

@[simp] theorem statuses_complete (nodeIds : List String) : (result.complete nodeIds).statuses = result.statuses :=
  rfl

@[simp] theorem completedNodes_mark (status : NodeStatus) :
    (result.mark nodeId status).completedNodes = result.completedNodes := rfl

@[simp] theorem completedNodes_commit (output : ρ) :
    (result.commit nodeId output).completedNodes = result.completedNodes := rfl

@[simp] theorem completedNodes_complete (nodeIds : List String) :
    (result.complete nodeIds).completedNodes = result.completedNodes ++ nodeIds := rfl

end Lemmas

end PlanDAGExecutionResult

/-! ### Receipts -/

/-- `str(list)` of the ids that are missing. -/
def listText (nodeIds : List String) : String :=
  "[" ++ String.intercalate ", " (nodeIds.map fun nodeId => "'" ++ nodeId ++ "'") ++ "]"

/-- The loop that takes over the receipts, in the order of the graph. -/
def restore (graph : TaskGraph) (committed : List (String × ρ)) :
    List String → PlanDAGExecutionResult ρ → Except PlanDAGExecutionError (PlanDAGExecutionResult ρ)
  | [], result => .ok result
  | nodeId :: rest, result =>
    match committed.lookup nodeId, graph.node? nodeId with
    | some receipt, some node =>
      let missing := node.dependencies.filter fun dependency => (committed.lookup dependency).isNone
      if missing.isEmpty then
        restore graph committed rest ((result.commit nodeId receipt).complete [nodeId])
      else
        .error
          { message := "committed receipt bypasses graph dependencies: " ++ nodeId ++ " requires " ++
              listText missing
            statuses := result.statuses
            nodeId := some nodeId }
    | _, _ => restore graph committed rest result

/-- The checks at the beginning of a run. -/
def takeOver (graph : TaskGraph) (committed : List (String × ρ)) :
    Except PlanDAGExecutionError (PlanDAGExecutionResult ρ) :=
  match committed.find? fun entry => !graph.nodeIds.contains entry.1 with
  | some entry =>
    .error
      { message := "receipt references unknown graph node: " ++ entry.1
        statuses := fun _ => none
        nodeId := some entry.1 }
  | none => restore graph committed graph.topologicalOrder .empty

/-! ### The loop -/

/-- The executor and the callbacks that a run is given. -/
structure Settings where
  maxWorkers : Int := 1
  /-- `execute_node is not None`. -/
  hasExecuteNode : Bool := true

/-- `max(1, int(max_workers))`. -/
def Settings.workers (settings : Settings) : Nat :=
  (max 1 settings.maxWorkers).toNat

/-- The callback of a node of a batch. -/
inductive Future (ρ : Type)
  | submitted
  | running
  | finished (outcome : Except String ρ)

/-- Where a run is: at the head of its loop, in the callback of a structural node, in a batch with the nodes whose
futures are left to collect and the first failure, or at its end. -/
inductive Phase (ρ : Type)
  | scheduling
  | structural (node : CompiledTaskNode)
  | batch (nodes rest : List CompiledTaskNode) (futures : String → Future ρ) (failure : Option (String × String))
  | returned
  | raised (error : PlanDAGExecutionError)

/-- A run: its result so far and where it is. -/
structure State (ρ : Type) where
  result : PlanDAGExecutionResult ρ
  phase : Phase ρ

/-- A run has ended. -/
def Phase.IsOver : Phase ρ → Prop
  | .returned => True
  | .raised _ => True
  | _ => False

/-- `ready`, in the order of the graph. -/
def ready (graph : TaskGraph) (result : PlanDAGExecutionResult ρ) : List CompiledTaskNode :=
  graph.topologicalOrder.filterMap fun nodeId =>
    (graph.node? nodeId).filter fun node =>
      (result.statuses nodeId).isNone && node.dependencies.all fun dependency => result.isCommitted dependency

/-- A step: the loop goes on, a worker begins or finishes a callback, or the loop collects a future. -/
inductive Op (ρ : Type)
  | schedule
  | start (nodeId : String)
  | finish (nodeId : String) (outcome : Except String ρ)
  | collect

namespace State

variable (graph : TaskGraph) (settings : Settings)

/-- The run ends with an error. -/
def raise (state : State ρ) (message : String) (nodeId : Option String) : State ρ :=
  { state with phase := .raised { message, statuses := state.result.statuses, nodeId } }

/-- A structural node is committed, and the loop goes on. -/
def commitStructural (state : State ρ) (node : CompiledTaskNode) (output : ρ) : State ρ :=
  { result := (state.result.commit node.nodeId output).complete [node.nodeId], phase := .scheduling }

/-- The first half of the loop, up to the callback of a structural node or the submission of a batch. The callback
that is missing has no output, which is the default. -/
def schedule [Inhabited ρ] (state : State ρ) : State ρ × List String :=
  if state.result.completedNodes.length < graph.nodes.length then
    match ready graph state.result with
    | [] => (state.raise "compiled graph cannot make progress" none, [])
    | first :: others =>
      match (first :: others).find? fun node => node.kind ≠ .unit with
      | some node =>
        if settings.hasExecuteNode then ({ state with phase := .structural node }, [node.nodeId])
        else (state.commitStructural node default, [node.nodeId])
      | none =>
        let batch := (first :: others).take settings.workers
        ({ state with phase := .batch batch batch (fun _ => .submitted) none }, [])
  else ({ state with phase := .returned }, [])

/-- A worker of the pool begins the callback of a node. -/
def start (state : State ρ) (nodeId : String) : State ρ × List String :=
  match state.phase with
  | .batch nodes rest futures failure =>
    if nodes.any fun node => node.nodeId == nodeId then
      match futures nodeId with
      | .submitted =>
        ({ state with phase := .batch nodes rest (Function.update futures nodeId .running) failure }, [nodeId])
      | _ => (state, [])
    else (state, [])
  | _ => (state, [])

/-- A callback finishes. -/
def finish (state : State ρ) (nodeId : String) (outcome : Except String ρ) : State ρ :=
  match state.phase with
  | .structural node =>
    if node.nodeId = nodeId then
      match outcome with
      | .ok output => state.commitStructural node output
      | .error message =>
        { state with result := state.result.mark nodeId .failed }.raise message (some nodeId)
    else state
  | .batch nodes rest futures failure =>
    match futures nodeId with
    | .running =>
      { state with phase := .batch nodes rest (Function.update futures nodeId (.finished outcome)) failure }
    | _ => state
  | _ => state

/-- The loop waits for the next future of the batch, or merges the batch when all are collected. -/
def collect (state : State ρ) : State ρ :=
  match state.phase with
  | .batch nodes (node :: rest) futures failure =>
    match futures node.nodeId with
    | .finished (.ok output) =>
      { result := state.result.commit node.nodeId output, phase := .batch nodes rest futures failure }
    | .finished (.error message) =>
      { result := state.result.mark node.nodeId .failed
        phase := .batch nodes rest futures (failure.or (some (node.nodeId, message))) }
    | _ => state
  | .batch nodes [] _ failure =>
    let merged := state.result.complete
      ((nodes.map (·.nodeId)).filter fun nodeId => state.result.isCommitted nodeId)
    match failure with
    | none => { result := merged, phase := .scheduling }
    | some (nodeId, message) => { state with result := merged }.raise message (some nodeId)
  | _ => state

/-- One step, with the nodes whose callbacks begin. -/
def step [Inhabited ρ] (state : State ρ) : Op ρ → State ρ × List String
  | .schedule =>
    match state.phase with
    | .scheduling => state.schedule graph settings
    | _ => (state, [])
  | .start nodeId => state.start nodeId
  | .finish nodeId outcome => (state.finish nodeId outcome, [])
  | .collect => (state.collect, [])

/-- The state in which a run begins. -/
def init (committed : List (String × ρ)) : State ρ :=
  match takeOver graph committed with
  | .ok result => { result, phase := .scheduling }
  | .error error => { result := .empty, phase := .raised error }

end State

section Runs

variable [Inhabited ρ] (graph : TaskGraph) (settings : Settings) (committed : List (String × ρ))

/-- The interleavings of a run with its workers. -/
def executor : Machine (State ρ) (Op ρ) where
  init := State.init graph committed
  step state op := (state.step graph settings op).1

/-- The nodes that are executed in a run, in the order in which their callbacks begin. -/
def executed (ops : List (Op ρ)) : List String :=
  (executor graph settings committed).emitted (fun state op => (state.step graph settings op).2) ops

end Runs

end HardwareDatabase.Harness.PlanGraph
