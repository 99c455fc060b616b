/-
Module: HardwareDatabase.Proofs.PlanExecution
Purpose: What every run of the plan executor keeps to (`Fits`), whatever its callbacks do.
Trusted boundary: none
-/
import HardwareDatabase.Proofs.PlanBatches

namespace HardwareDatabase.Harness.PlanGraph

open Planning (CompiledTaskNode TaskGraph WellFormed)
open Relational

variable {ρ : Type} {graph : TaskGraph} {result : PlanDAGExecutionResult ρ} {committed : List (String × ρ)}

/-! ### Phases -/

/-- What holds in each phase of the loop. -/
inductive Fits (graph : TaskGraph) (started : List String) : State ρ → Prop
  | scheduling {result : PlanDAGExecutionResult ρ} (listed : Listed result []) (unfailed : Unfailed result)
      (recorded : ∀ nodeId ∈ started, result.statuses nodeId ≠ none) :
      Fits graph started { result, phase := .scheduling }
  | structural {result : PlanDAGExecutionResult ρ} {node : CompiledTaskNode} (listed : Listed result [])
      (unfailed : Unfailed result) (waiting : Waiting graph result node) (executes : node.nodeId ∈ started)
      (recorded : ∀ nodeId ∈ started, result.statuses nodeId ≠ none ∨ nodeId = node.nodeId) :
      Fits graph started { result, phase := .structural node }
  | batch {result : PlanDAGExecutionResult ρ} {nodes rest : List CompiledTaskNode} {futures : String → Future ρ}
      {failure : Option (String × String)}
      (collecting : Collecting graph result started nodes rest futures failure) :
      Fits graph started { result, phase := .batch nodes rest futures failure }
  | returned {result : PlanDAGExecutionResult ρ} (every : ∀ nodeId ∈ graph.nodeIds, Committed result nodeId) :
      Fits graph started { result, phase := .returned }
  | raised {result : PlanDAGExecutionResult ρ} {error : PlanDAGExecutionError}
      (statuses : error.statuses = result.statuses)
      (blamed : ∃ nodeId, error.nodeId = some nodeId ∧ result.statuses nodeId = some .failed) :
      Fits graph started { result, phase := .raised error }

variable {held : String → Prop} {started : List String}

/-! ### Scheduling -/

theorem Listed.all_committed (known : ∀ nodeId, Committed result nodeId → nodeId ∈ graph.nodeIds)
    (listed : Listed result []) (full : ¬ result.completedNodes.length < graph.nodes.length)
    {nodeId : String} (member : nodeId ∈ graph.nodeIds) : Committed result nodeId := by
  have inside : result.completedNodes ⊆ graph.nodeIds := fun other there =>
    known other ((listed.mem_iff other).mp there).1
  have length : graph.nodeIds.length ≤ result.completedNodes.length := by
    rw [TaskGraph.nodeIds, List.length_map]
    exact Nat.le_of_not_lt full
  have same := (listed.nodup.subperm inside).perm_of_length_le length
  exact ((listed.mem_iff nodeId).mp (same.mem_iff.mpr member)).1

theorem Listed.exists_open (formed : WellFormed graph) (listed : Listed result [])
    (room : result.completedNodes.length < graph.nodes.length) :
    ∃ node ∈ graph.nodes, ¬ Committed result node.nodeId := by
  by_contra none
  have every : ∀ node ∈ graph.nodes, Committed result node.nodeId := by
    intro node member
    by_contra missing
    exact none ⟨node, member, missing⟩
  have inside : graph.nodeIds ⊆ result.completedNodes := by
    intro nodeId member
    obtain ⟨node, there, rfl⟩ := List.mem_map.mp member
    exact (listed.mem_iff node.nodeId).mpr ⟨every node there, List.not_mem_nil⟩
  have length := (formed.ids.subperm inside).length_le
  rw [TaskGraph.nodeIds, List.length_map] at length
  omega

variable {settings : Settings}

theorem schedule_cases [Inhabited ρ] (formed : WellFormed graph) (sound : Sound graph held result started)
    (listed : Listed result []) (unfailed : Unfailed result) (phase : Phase ρ) :
    let state : State ρ := { result, phase }
    (∃ node, Waiting graph result node ∧
      state.schedule graph settings = ({ result, phase := .structural node }, [node.nodeId])) ∨
    (∃ node, Waiting graph result node ∧
      state.schedule graph settings = (state.commitStructural node default, [node.nodeId])) ∨
    (∃ batch, batch ≠ [] ∧ (batch.map (·.nodeId)).Nodup ∧ (∀ node ∈ batch, Waiting graph result node) ∧
      state.schedule graph settings = ({ result, phase := .batch batch batch (fun _ => .submitted) none }, [])) ∨
    (∀ nodeId ∈ graph.nodeIds, Committed result nodeId) ∧
      state.schedule graph settings = ({ result, phase := .returned }, []) := by
  intro state
  unfold State.schedule
  split
  · rename_i room
    obtain ⟨node, member, missing⟩ := listed.exists_open formed room
    obtain ⟨other, here⟩ := exists_ready formed unfailed member missing
    split
    · rename_i none
      rw [none] at here
      exact absurd here List.not_mem_nil
    · rename_i first others readyNodes
      have waits : ∀ node ∈ first :: others, Waiting graph result node := fun node there =>
        (mem_ready_iff formed).mp (readyNodes ▸ there)
      split
      · rename_i node found
        have waiting := waits node (List.mem_of_find?_eq_some found)
        split
        · exact Or.inl ⟨node, waiting, rfl⟩
        · exact Or.inr (Or.inl ⟨node, waiting, rfl⟩)
      · refine Or.inr (Or.inr (Or.inl ⟨(first :: others).take settings.workers, ?_, ?_, ?_, rfl⟩))
        · have positive : 0 < settings.workers := by
            unfold Settings.workers
            omega
          rw [Ne, List.take_eq_nil_iff]
          simp
          omega
        · have all : ((first :: others).map (·.nodeId)).Nodup := readyNodes ▸ ready_nodup formed
          exact ((List.take_sublist _ _).map _).nodup all
        · exact fun node there => waits node (List.mem_of_mem_take there)
  · rename_i full
    refine Or.inr (Or.inr (Or.inr ⟨fun nodeId member => ?_, rfl⟩))
    refine listed.all_committed (fun other there => sound.known other ?_) full member
    rw [there]
    exact Option.some_ne_none _

/-! ### Steps -/

/-- What holds of a run and of the nodes that it has executed. -/
structure Steady (graph : TaskGraph) (held : String → Prop) (state : State ρ) (started : List String) : Prop where
  sound : Sound graph held state.result started
  fits : Fits graph started state

variable {state : State ρ}

theorem Steady.commit_structural (formed : WellFormed graph) {node : CompiledTaskNode}
    (sound : Sound graph held state.result started) (listed : Listed state.result []) (unfailed : Unfailed state.result)
    (waiting : Waiting graph state.result node) (executes : node.nodeId ∈ started)
    (recorded : ∀ nodeId ∈ started, state.result.statuses nodeId ≠ none ∨ nodeId = node.nodeId) (output : ρ) :
    Steady graph held (state.commitStructural node output) started where
  sound := (sound.commit formed waiting.member waiting.depends executes output).complete _
  fits := by
    refine .scheduling (listed.commit_structural waiting.idle output) ?_ ?_
    · intro nodeId status
      rw [PlanDAGExecutionResult.statuses_complete, PlanDAGExecutionResult.statuses_commit] at status
      split at status
      · cases status
      · exact unfailed nodeId status
    · intro nodeId there
      rw [PlanDAGExecutionResult.statuses_complete, PlanDAGExecutionResult.statuses_commit]
      split
      · exact Option.some_ne_none _
      · rename_i different
        exact (recorded nodeId there).resolve_right different

/-- A node with its dependencies committed. -/
def Enabled (graph : TaskGraph) (result : PlanDAGExecutionResult ρ) (nodeId : String) : Prop :=
  ∃ node ∈ graph.nodes, node.nodeId = nodeId ∧ ∀ dependency ∈ node.dependencies, Committed result dependency

theorem Waiting.enabled {node : CompiledTaskNode} (waiting : Waiting graph result node) :
    Enabled graph result node.nodeId :=
  ⟨node, waiting.member, rfl, waiting.depends⟩

/-- What a step keeps, and which nodes it executes. -/
structure Keeps (graph : TaskGraph) (held : String → Prop) (started : List String) (before : State ρ)
    (after : State ρ × List String) : Prop where
  steady : Steady graph held after.1 (started ++ after.2)
  enabled : ∀ nodeId ∈ after.2, Enabled graph before.result nodeId

theorem Keeps.of_steady {before after : State ρ} (steady : Steady graph held after started) :
    Keeps graph held started before (after, []) where
  steady := by rwa [List.append_nil]
  enabled := fun nodeId there => absurd there List.not_mem_nil

theorem Keeps.of_enabled {before after : State ρ} {nodeId : String}
    (steady : Steady graph held after (started ++ [nodeId])) (enabled : Enabled graph before.result nodeId) :
    Keeps graph held started before (after, [nodeId]) where
  steady := steady
  enabled := by
    intro other there
    rw [List.mem_singleton.mp there]
    exact enabled

theorem Waiting.absent {node : CompiledTaskNode} (waiting : Waiting graph result node)
    (recorded : ∀ nodeId ∈ started, result.statuses nodeId ≠ none) : node.nodeId ∉ started :=
  fun there => recorded node.nodeId there waiting.idle

theorem keeps_schedule [Inhabited ρ] (formed : WellFormed graph)
    (sound : Sound graph held result started) (listed : Listed result []) (unfailed : Unfailed result)
    (recorded : ∀ nodeId ∈ started, result.statuses nodeId ≠ none) :
    let state : State ρ := { result, phase := .scheduling }
    Keeps graph held started state (state.schedule graph settings) := by
  intro state
  -- a structural node is executed at once
  have begins : ∀ node, Waiting graph result node →
      Sound graph held result (started ++ [node.nodeId]) ∧ node.nodeId ∈ started ++ [node.nodeId] ∧
        ∀ nodeId ∈ started ++ [node.nodeId], result.statuses nodeId ≠ none ∨ nodeId = node.nodeId := by
    intro node waiting
    refine ⟨sound.start (List.mem_map_of_mem waiting.member) waiting.idle (waiting.absent recorded), ?_, ?_⟩
    · exact List.mem_append_right _ (List.mem_singleton_self _)
    · intro nodeId there
      rcases List.mem_append.mp there with old | new
      · exact Or.inl (recorded nodeId old)
      · exact Or.inr (List.mem_singleton.mp new)
  rcases schedule_cases formed sound listed unfailed (.scheduling : Phase ρ) with
    ⟨node, waiting, scheduled⟩ | ⟨node, waiting, scheduled⟩ | ⟨batch, nonempty, nodup, waits, scheduled⟩ |
      ⟨every, scheduled⟩
  · rw [scheduled]
    obtain ⟨begun, executes, others⟩ := begins node waiting
    exact .of_enabled ⟨begun, .structural listed unfailed waiting executes others⟩ waiting.enabled
  · rw [scheduled]
    obtain ⟨begun, executes, others⟩ := begins node waiting
    exact .of_enabled (.commit_structural formed begun listed unfailed waiting executes others default)
      waiting.enabled
  · rw [scheduled]
    exact .of_steady ⟨sound, .batch (.submit listed unfailed recorded nonempty nodup waits)⟩
  · rw [scheduled]
    exact .of_steady ⟨sound, .returned every⟩

theorem keeps_start (steady : Steady graph held state started) (nodeId : String) :
    Keeps graph held started state (state.start nodeId) := by
  obtain ⟨sound, fits⟩ := steady
  cases fits with
  | scheduling listed unfailed recorded => exact .of_steady ⟨sound, .scheduling listed unfailed recorded⟩
  | structural listed unfailed waiting executes recorded =>
    exact .of_steady ⟨sound, .structural listed unfailed waiting executes recorded⟩
  | returned every => exact .of_steady ⟨sound, .returned every⟩
  | raised statuses blamed => exact .of_steady ⟨sound, .raised statuses blamed⟩
  | batch collecting =>
    rename_i result nodes rest futures failure
    simp only [State.start]
    split
    · rename_i inBatch
      split
      · rename_i submitted
        obtain ⟨node, member, named⟩ := List.any_eq_true.mp inBatch
        obtain rfl := eq_of_beq named
        have absent : node.nodeId ∉ started := (collecting.submitted node member).mp submitted
        have there : node ∈ rest := (collecting.collected node member).resolve_right fun done => absent done.1
        obtain ⟨known, depends⟩ := collecting.members node member
        have begun := sound.start (List.mem_map_of_mem known) (collecting.idle node there) absent
        exact .of_enabled ⟨begun, .batch (collecting.start there)⟩ ⟨node, known, rfl, depends⟩
      · exact .of_steady ⟨sound, .batch collecting⟩
    · exact .of_steady ⟨sound, .batch collecting⟩

theorem steady_finish (formed : WellFormed graph) (steady : Steady graph held state started)
    (nodeId : String) (outcome : Except String ρ) : Steady graph held (state.finish nodeId outcome) started := by
  obtain ⟨sound, fits⟩ := steady
  cases fits with
  | scheduling listed unfailed recorded => exact ⟨sound, .scheduling listed unfailed recorded⟩
  | returned every => exact ⟨sound, .returned every⟩
  | raised statuses blamed => exact ⟨sound, .raised statuses blamed⟩
  | structural listed unfailed waiting executes recorded =>
    rename_i result node
    simp only [State.finish]
    split
    · rename_i same
      cases outcome with
      | ok output => exact .commit_structural formed sound listed unfailed waiting executes recorded output
      | error =>
        obtain rfl := same
        refine ⟨sound.fail waiting.idle executes, .raised rfl ⟨node.nodeId, rfl, ?_⟩⟩
        rw [PlanDAGExecutionResult.statuses_mark, if_pos rfl]
    · exact ⟨sound, .structural listed unfailed waiting executes recorded⟩
  | batch collecting =>
    simp only [State.finish]
    split
    · rename_i running
      exact ⟨sound, .batch (collecting.finish running outcome)⟩
    · exact ⟨sound, .batch collecting⟩

theorem steady_collect (formed : WellFormed graph) (steady : Steady graph held state started) :
    Steady graph held state.collect started := by
  obtain ⟨sound, fits⟩ := steady
  cases fits with
  | scheduling listed unfailed recorded => exact ⟨sound, .scheduling listed unfailed recorded⟩
  | structural listed unfailed waiting executes recorded =>
    exact ⟨sound, .structural listed unfailed waiting executes recorded⟩
  | returned every => exact ⟨sound, .returned every⟩
  | raised statuses blamed => exact ⟨sound, .raised statuses blamed⟩
  | batch collecting =>
    rename_i result nodes rest futures failure
    cases rest with
    | nil =>
      simp only [State.collect]
      cases failure with
      | none =>
        refine ⟨sound.complete _, .scheduling (collecting.listed.merge collecting.nodup) ?_ ?_⟩
        · exact collecting.unfailed rfl
        · intro nodeId there
          exact (collecting.recorded nodeId there).resolve_right List.not_mem_nil
      | some first => exact ⟨sound.complete _, .raised rfl ⟨first.1, rfl, collecting.blamed first rfl⟩⟩
    | cons node =>
      have member : node ∈ nodes := collecting.left.subset List.mem_cons_self
      simp only [State.collect]
      split
      · rename_i output future
        have finished : futures node.nodeId ≠ .submitted := by
          rw [future]
          exact fun submitted => by cases submitted
        obtain ⟨known, depends⟩ := collecting.members node member
        have executes := collecting.executes member finished
        exact ⟨sound.commit formed known depends executes output, .batch (collecting.commit finished output)⟩
      · rename_i message future
        have finished : futures node.nodeId ≠ .submitted := by
          rw [future]
          exact fun submitted => by cases submitted
        have idle := collecting.idle node List.mem_cons_self
        have executes := collecting.executes member finished
        exact ⟨sound.fail idle executes, .batch (collecting.fail finished message)⟩
      · exact ⟨sound, .batch collecting⟩

theorem keeps_step [Inhabited ρ] (formed : WellFormed graph) (steady : Steady graph held state started) (op : Op ρ) :
    Keeps graph held started state (state.step graph settings op) := by
  cases op with
  | schedule =>
    obtain ⟨sound, fits⟩ := steady
    cases fits with
    | scheduling listed unfailed recorded => exact keeps_schedule formed sound listed unfailed recorded
    | structural listed unfailed waiting executes recorded =>
      exact .of_steady ⟨sound, .structural listed unfailed waiting executes recorded⟩
    | batch collecting => exact .of_steady ⟨sound, .batch collecting⟩
    | returned every => exact .of_steady ⟨sound, .returned every⟩
    | raised statuses blamed => exact .of_steady ⟨sound, .raised statuses blamed⟩
  | start nodeId => exact keeps_start steady nodeId
  | finish nodeId outcome => exact .of_steady (steady_finish formed steady nodeId outcome)
  | collect => exact .of_steady (steady_collect formed steady)

/-! ### Runs -/

theorem steady_init (formed : WellFormed graph) (downward : Downward graph committed) :
    Steady graph (Held committed) (State.init graph committed) [] := by
  obtain ⟨result, taken, restored⟩ := takeOver_eq_ok formed downward
  unfold State.init
  rw [taken]
  have inGraph : ∀ nodeId, Held committed nodeId → nodeId ∈ graph.topologicalOrder := by
    intro nodeId there
    obtain ⟨entry, member, rfl⟩ := held_iff.mp there
    exact (formed.listed entry.1).mpr (downward.known entry member)
  have iff : ∀ nodeId, Committed result nodeId ↔ Held committed nodeId := fun nodeId =>
    ⟨fun there => ((restored.committed nodeId).mp there).2,
      fun there => (restored.committed nodeId).mpr ⟨inGraph nodeId there, there⟩⟩
  have only : ∀ nodeId, result.statuses nodeId ≠ none → Held committed nodeId := fun nodeId status =>
    (iff nodeId).mp ((restored.statuses nodeId).resolve_left status)
  constructor
  · exact
      { closed := by
          intro node member there dependency needed
          exact (iff dependency).mpr (downward.closed node member ((iff node.nodeId).mp there) dependency needed)
        known := fun nodeId status => (formed.listed nodeId).mp (inGraph nodeId (only nodeId status))
        kept := fun nodeId there => (iff nodeId).mpr there
        nodup := List.nodup_nil
        fresh := fun nodeId there => absurd there List.not_mem_nil
        ran := fun nodeId status => Or.inl (only nodeId status) }
  · refine .scheduling ⟨?_, ?_⟩ ?_ ?_
    · rw [restored.listed]
      exact formed.order.filter _
    · intro nodeId
      rw [restored.listed, List.mem_filter, restored.committed]
      exact ⟨fun there => ⟨there, List.not_mem_nil⟩, fun there => there.1⟩
    · intro nodeId status
      rcases restored.statuses nodeId with idle | there
      · rw [idle] at status
        cases status
      · rw [there] at status
        cases status
    · exact fun nodeId there => absurd there List.not_mem_nil

/-- What the scheduler keeps holds after every run over a well-formed graph. -/
theorem steady_run [Inhabited ρ] (settings : Settings) (formed : WellFormed graph)
    (downward : Downward graph committed) (ops : List (Op ρ)) :
    Steady graph (Held committed) ((executor graph settings committed).run ops)
      (executed graph settings committed ops) :=
  (executor graph settings committed).history_invariant
    (fun (state : State ρ) started => Steady graph (Held committed) state started)
    (steady_init formed downward)
    (fun _ _ op steady => (keeps_step formed steady op).steady) ops

end HardwareDatabase.Harness.PlanGraph
