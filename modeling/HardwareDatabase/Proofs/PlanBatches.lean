/-
Module: HardwareDatabase.Proofs.PlanBatches
Purpose: What the result of the plan executor keeps to, and what holds of a batch until it is merged.
Trusted boundary: none
-/
import HardwareDatabase.Proofs.PlanReadiness

namespace HardwareDatabase.Harness.PlanGraph

open Planning (CompiledTaskNode TaskGraph WellFormed)

variable {ρ : Type} {graph : TaskGraph} {result : PlanDAGExecutionResult ρ}

/-! ### What every state keeps -/

/-- What holds of the result of a run and of the nodes that it has executed. -/
structure Sound (graph : TaskGraph) (held : String → Prop) (result : PlanDAGExecutionResult ρ)
    (started : List String) : Prop where
  closed : DownClosed graph (Committed result)
  known : ∀ nodeId, result.statuses nodeId ≠ none → nodeId ∈ graph.nodeIds
  kept : ∀ nodeId, held nodeId → Committed result nodeId
  nodup : started.Nodup
  fresh : ∀ nodeId ∈ started, nodeId ∈ graph.nodeIds ∧ ¬ held nodeId
  ran : ∀ nodeId, result.statuses nodeId ≠ none → held nodeId ∨ nodeId ∈ started

/-- The completed nodes are the committed ones, but for those of a batch that is not merged yet. -/
structure Listed (result : PlanDAGExecutionResult ρ) (collecting : List String) : Prop where
  nodup : result.completedNodes.Nodup
  mem_iff : ∀ nodeId, nodeId ∈ result.completedNodes ↔ Committed result nodeId ∧ nodeId ∉ collecting

/-- No node has failed. -/
def Unfailed (result : PlanDAGExecutionResult ρ) : Prop :=
  ∀ nodeId, result.statuses nodeId ≠ some .failed

/-- What holds while the futures of `rest` are left to collect. -/
structure Collecting (graph : TaskGraph) (result : PlanDAGExecutionResult ρ) (started : List String)
    (nodes rest : List CompiledTaskNode) (futures : String → Future ρ) (failure : Option (String × String)) :
    Prop where
  nonempty : nodes ≠ []
  nodup : (nodes.map (·.nodeId)).Nodup
  left : rest.Sublist nodes
  listed : Listed result (nodes.map (·.nodeId))
  members : ∀ node ∈ nodes, node ∈ graph.nodes ∧ ∀ dependency ∈ node.dependencies, Committed result dependency
  idle : ∀ node ∈ rest, result.statuses node.nodeId = none
  collected : ∀ node ∈ nodes, node ∈ rest ∨ node.nodeId ∈ started ∧ result.statuses node.nodeId ≠ none
  recorded : ∀ nodeId ∈ started, result.statuses nodeId ≠ none ∨ nodeId ∈ rest.map (·.nodeId)
  submitted : ∀ node ∈ nodes, futures node.nodeId = .submitted ↔ node.nodeId ∉ started
  unfailed : failure = none → Unfailed result
  blamed : ∀ found ∈ failure, result.statuses found.1 = some .failed

variable {held : String → Prop} {started : List String}

/-! ### Changes of the result -/

variable {nodeId : String}

theorem Committed.ne_of_idle {other : String} (there : Committed result other)
    (idle : result.statuses nodeId = none) : other ≠ nodeId := by
  rintro rfl
  rw [Committed, idle] at there
  cases there

theorem committed_mark {other : String} (idle : result.statuses nodeId = none) :
    Committed (result.mark nodeId .failed) other ↔ Committed result other := by
  unfold Committed
  rw [PlanDAGExecutionResult.statuses_mark]
  split
  · rename_i same
    rw [same, idle]
    constructor
    · intro status
      cases status
    · intro status
      cases status
  · exact Iff.rfl

theorem Sound.complete (sound : Sound graph held result started) (nodeIds : List String) :
    Sound graph held (result.complete nodeIds) started :=
  { sound with }

theorem Sound.start (sound : Sound graph held result started) {nodeId : String} (known : nodeId ∈ graph.nodeIds)
    (idle : result.statuses nodeId = none) (absent : nodeId ∉ started) :
    Sound graph held result (started ++ [nodeId]) :=
  { sound with
    nodup := by
      rw [← List.concat_eq_append]
      exact sound.nodup.concat absent
    fresh := by
      intro other member
      rcases List.mem_append.mp member with old | new
      · exact sound.fresh other old
      · rw [List.mem_singleton.mp new]
        exact ⟨known, fun there => (sound.kept nodeId there).ne_of_idle idle rfl⟩
    ran := fun other status => (sound.ran other status).imp_right (List.mem_append_left _) }

theorem Sound.commit (formed : WellFormed graph) (sound : Sound graph held result started) {node : CompiledTaskNode}
    (member : node ∈ graph.nodes) (depends : ∀ dependency ∈ node.dependencies, Committed result dependency)
    (executes : node.nodeId ∈ started) (output : ρ) : Sound graph held (result.commit node.nodeId output) started :=
  { sound with
    closed := by
      intro other otherMember status dependency needed
      rcases committed_commit.mp status with same | old
      · rw [formed.eq_of_nodeId otherMember member same] at needed
        exact committed_commit.mpr (Or.inr (depends dependency needed))
      · exact committed_commit.mpr (Or.inr (sound.closed other otherMember old dependency needed))
    known := by
      intro other status
      rw [PlanDAGExecutionResult.statuses_commit] at status
      split at status
      · rename_i same
        exact same ▸ List.mem_map_of_mem member
      · exact sound.known other status
    kept := fun other there => committed_commit.mpr (Or.inr (sound.kept other there))
    ran := by
      intro other status
      rw [PlanDAGExecutionResult.statuses_commit] at status
      split at status
      · rename_i same
        exact Or.inr (same ▸ executes)
      · exact sound.ran other status }

theorem Sound.fail (sound : Sound graph held result started)
    (idle : result.statuses nodeId = none) (executes : nodeId ∈ started) :
    Sound graph held (result.mark nodeId .failed) started :=
  { sound with
    closed := by
      intro other member status dependency needed
      exact (committed_mark idle).mpr
        (sound.closed other member ((committed_mark idle).mp status) dependency needed)
    known := by
      intro other status
      rw [PlanDAGExecutionResult.statuses_mark] at status
      split at status
      · rename_i same
        exact same ▸ (sound.fresh nodeId executes).1
      · exact sound.known other status
    kept := fun other there => (committed_mark idle).mpr (sound.kept other there)
    ran := by
      intro other status
      rw [PlanDAGExecutionResult.statuses_mark] at status
      split at status
      · rename_i same
        exact Or.inr (same ▸ executes)
      · exact sound.ran other status }

/-! ### The completed nodes -/

theorem Listed.open_batch (listed : Listed result []) {nodeIds : List String}
    (idle : ∀ nodeId ∈ nodeIds, result.statuses nodeId = none) : Listed result nodeIds where
  nodup := listed.nodup
  mem_iff := by
    intro nodeId
    rw [listed.mem_iff]
    constructor
    · rintro ⟨there, -⟩
      exact ⟨there, fun member => there.ne_of_idle (idle nodeId member) rfl⟩
    · exact fun there => ⟨there.1, List.not_mem_nil⟩

theorem Listed.commit_structural (listed : Listed result []) {nodeId : String}
    (idle : result.statuses nodeId = none) (output : ρ) :
    Listed ((result.commit nodeId output).complete [nodeId]) [] where
  nodup := by
    have absent : nodeId ∉ result.completedNodes := fun member =>
      ((listed.mem_iff nodeId).mp member).1.ne_of_idle idle rfl
    have whole := listed.nodup.concat absent
    rwa [List.concat_eq_append] at whole
  mem_iff := by
    intro other
    have iff : Committed ((result.commit nodeId output).complete [nodeId]) other ↔
        other = nodeId ∨ Committed result other := committed_commit
    rw [iff, PlanDAGExecutionResult.completedNodes_complete, PlanDAGExecutionResult.completedNodes_commit,
      List.mem_append, List.mem_singleton, listed.mem_iff]
    constructor
    · rintro (⟨old, -⟩ | same)
      · exact ⟨Or.inr old, List.not_mem_nil⟩
      · exact ⟨Or.inl same, List.not_mem_nil⟩
    · rintro ⟨same | old, -⟩
      · exact Or.inr same
      · exact Or.inl ⟨old, List.not_mem_nil⟩

theorem Listed.commit_collecting {collecting : List String} (listed : Listed result collecting)
    (member : nodeId ∈ collecting) (output : ρ) : Listed (result.commit nodeId output) collecting where
  nodup := listed.nodup
  mem_iff := by
    intro other
    rw [PlanDAGExecutionResult.completedNodes_commit, listed.mem_iff, committed_commit]
    constructor
    · exact fun there => ⟨Or.inr there.1, there.2⟩
    · rintro ⟨rfl | old, outside⟩
      · exact absurd member outside
      · exact ⟨old, outside⟩

theorem Listed.fail {collecting : List String} (listed : Listed result collecting) {nodeId : String}
    (idle : result.statuses nodeId = none) : Listed (result.mark nodeId .failed) collecting where
  nodup := listed.nodup
  mem_iff := by
    intro other
    rw [PlanDAGExecutionResult.completedNodes_mark, listed.mem_iff, committed_mark idle]

theorem Listed.merge {collecting : List String} (listed : Listed result collecting) (nodup : collecting.Nodup) :
    Listed (result.complete (collecting.filter fun nodeId => result.isCommitted nodeId)) [] where
  nodup := by
    refine listed.nodup.append (nodup.filter _) ?_
    intro nodeId old new
    exact ((listed.mem_iff nodeId).mp old).2 (List.mem_filter.mp new).1
  mem_iff := by
    intro nodeId
    rw [PlanDAGExecutionResult.completedNodes_complete, List.mem_append, listed.mem_iff, List.mem_filter,
      isCommitted_iff]
    constructor
    · rintro (⟨there, -⟩ | ⟨-, there⟩)
      · exact ⟨there, List.not_mem_nil⟩
      · exact ⟨there, List.not_mem_nil⟩
    · rintro ⟨there, -⟩
      by_cases inside : nodeId ∈ collecting
      · exact Or.inr ⟨inside, there⟩
      · exact Or.inl ⟨there, inside⟩

/-! ### Batches -/

section Batches

variable {nodes rest : List CompiledTaskNode} {futures : String → Future ρ} {failure : Option (String × String)}

theorem Collecting.submit (listed : Listed result []) (unfailed : Unfailed result)
    (recorded : ∀ nodeId ∈ started, result.statuses nodeId ≠ none) (nonempty : nodes ≠ [])
    (nodup : (nodes.map (·.nodeId)).Nodup) (waits : ∀ node ∈ nodes, Waiting graph result node) :
    Collecting graph result started nodes nodes (fun _ => .submitted) none where
  nonempty := nonempty
  nodup := nodup
  left := List.Sublist.refl nodes
  listed := by
    refine listed.open_batch fun nodeId member => ?_
    obtain ⟨node, there, rfl⟩ := List.mem_map.mp member
    exact (waits node there).idle
  members := fun node there => ⟨(waits node there).member, (waits node there).depends⟩
  idle := fun node there => (waits node there).idle
  collected := fun node there => Or.inl there
  recorded := fun nodeId there => Or.inl (recorded nodeId there)
  submitted := by
    intro node there
    constructor
    · exact fun _ executed => recorded node.nodeId executed (waits node there).idle
    · exact fun _ => rfl
  unfailed := fun _ => unfailed
  blamed := fun found none => by cases none

theorem Collecting.start (collecting : Collecting graph result started nodes rest futures failure)
    {node : CompiledTaskNode} (there : node ∈ rest) : Collecting graph result (started ++ [node.nodeId]) nodes rest
      (Function.update futures node.nodeId .running) failure :=
  { collecting with
    collected := fun other member => (collecting.collected other member).imp_right fun settled =>
      ⟨List.mem_append_left _ settled.1, settled.2⟩
    recorded := by
      intro nodeId member
      rcases List.mem_append.mp member with old | new
      · exact collecting.recorded nodeId old
      · rw [List.mem_singleton.mp new]
        exact Or.inr (List.mem_map_of_mem there)
    submitted := by
      intro other member
      rw [Function.update_apply]
      split
      · rename_i same
        rw [same]
        constructor
        · intro running
          cases running
        · intro absent
          exact absurd (List.mem_append_right _ (List.mem_singleton_self _)) absent
      · rename_i different
        rw [collecting.submitted other member, List.mem_append, List.mem_singleton, not_or]
        exact ⟨fun absent => ⟨absent, different⟩, fun absent => absent.1⟩ }

theorem Collecting.finish (collecting : Collecting graph result started nodes rest futures failure)
    (running : futures nodeId = .running) (outcome : Except String ρ) :
    Collecting graph result started nodes rest (Function.update futures nodeId (.finished outcome)) failure :=
  { collecting with
    submitted := by
      intro node member
      have before := collecting.submitted node member
      rw [Function.update_apply]
      split
      · rename_i same
        rw [same, running] at before
        rw [same, ← before]
        constructor
        · intro finished
          cases finished
        · intro submitted
          cases submitted
      · exact before }

theorem Collecting.executes (collecting : Collecting graph result started nodes rest futures failure)
    {node : CompiledTaskNode} (member : node ∈ nodes) (begun : futures node.nodeId ≠ .submitted) :
    node.nodeId ∈ started := by
  by_contra absent
  exact begun ((collecting.submitted node member).mpr absent)

theorem Collecting.advance {node : CompiledTaskNode}
    (collecting : Collecting graph result started nodes (node :: rest) futures failure)
    (finished : futures node.nodeId ≠ .submitted) {after : PlanDAGExecutionResult ρ}
    {first : Option (String × String)} (listed : Listed after (nodes.map (·.nodeId)))
    (kept : ∀ nodeId, Committed result nodeId → Committed after nodeId) (settled : after.statuses node.nodeId ≠ none)
    (others : ∀ nodeId, nodeId ≠ node.nodeId → after.statuses nodeId = result.statuses nodeId)
    (unfailed : first = none → Unfailed after) (blamed : ∀ found ∈ first, after.statuses found.1 = some .failed) :
    Collecting graph after started nodes rest futures first := by
  have member : node ∈ nodes := collecting.left.subset List.mem_cons_self
  have executes := collecting.executes member finished
  have distinct : node.nodeId ∉ rest.map (·.nodeId) :=
    (List.nodup_cons.mp ((collecting.left.map (·.nodeId)).nodup collecting.nodup)).1
  have stays : ∀ nodeId, result.statuses nodeId ≠ none → after.statuses nodeId ≠ none := by
    intro nodeId status
    by_cases same : nodeId = node.nodeId
    · rw [same]
      exact settled
    · rw [others nodeId same]
      exact status
  exact
    { nonempty := collecting.nonempty
      nodup := collecting.nodup
      left := (List.sublist_cons_self node rest).trans collecting.left
      listed
      members := fun other there => ⟨(collecting.members other there).1, fun dependency needed =>
        kept dependency ((collecting.members other there).2 dependency needed)⟩
      idle := by
        intro other there
        rw [others other.nodeId fun same => distinct (same ▸ List.mem_map_of_mem there)]
        exact collecting.idle other (List.mem_cons_of_mem node there)
      collected := by
        intro other there
        rcases collecting.collected other there with waits | done
        · rcases List.mem_cons.mp waits with rfl | later
          · exact Or.inr ⟨executes, settled⟩
          · exact Or.inl later
        · exact Or.inr ⟨done.1, stays other.nodeId done.2⟩
      recorded := by
        intro nodeId there
        rcases collecting.recorded nodeId there with status | waits
        · exact Or.inl (stays nodeId status)
        · rcases List.mem_cons.mp waits with rfl | later
          · exact Or.inl settled
          · exact Or.inr later
      submitted := collecting.submitted
      unfailed
      blamed }

section

variable (collecting : Collecting graph result started nodes (node :: rest) futures failure)
include collecting

theorem Collecting.commit (finished : futures node.nodeId ≠ .submitted) (output : ρ) :
    Collecting graph (result.commit node.nodeId output) started nodes rest futures failure := by
  have member : node ∈ nodes := collecting.left.subset List.mem_cons_self
  have idle : result.statuses node.nodeId = none := collecting.idle node List.mem_cons_self
  refine collecting.advance finished (collecting.listed.commit_collecting (List.mem_map_of_mem member) output) ?_ ?_
    ?_ ?_ ?_
  · exact fun nodeId there => committed_commit.mpr (Or.inr there)
  · rw [PlanDAGExecutionResult.statuses_commit, if_pos rfl]
    exact Option.some_ne_none _
  · intro nodeId different
    rw [PlanDAGExecutionResult.statuses_commit, if_neg different]
  · intro none nodeId status
    rw [PlanDAGExecutionResult.statuses_commit] at status
    split at status
    · cases status
    · exact collecting.unfailed none nodeId status
  · intro found first
    have failed := collecting.blamed found first
    have different : found.1 ≠ node.nodeId := by
      intro same
      rw [same, idle] at failed
      cases failed
    rw [PlanDAGExecutionResult.statuses_commit, if_neg different]
    exact failed

theorem Collecting.fail (finished : futures node.nodeId ≠ .submitted) (message : String) :
    Collecting graph (result.mark node.nodeId .failed) started nodes rest futures
      (failure.or (some (node.nodeId, message))) := by
  have idle : result.statuses node.nodeId = none := collecting.idle node List.mem_cons_self
  refine collecting.advance finished (collecting.listed.fail idle) ?_ ?_ ?_ ?_ ?_
  · exact fun nodeId there => (committed_mark idle).mpr there
  · rw [PlanDAGExecutionResult.statuses_mark, if_pos rfl]
    exact Option.some_ne_none _
  · intro nodeId different
    rw [PlanDAGExecutionResult.statuses_mark, if_neg different]
  · intro none
    rw [Option.or_eq_none_iff] at none
    cases none.2
  · intro found first
    rw [PlanDAGExecutionResult.statuses_mark]
    split
    · rfl
    · rename_i different
      rcases Option.or_eq_some_iff.mp first with old | ⟨-, new⟩
      · exact collecting.blamed found old
      · cases new
        exact absurd rfl different

end

end Batches

end HardwareDatabase.Harness.PlanGraph
