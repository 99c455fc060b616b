/-
Module: HardwareDatabase.Proofs.PlanResumption
Purpose: The executor of a plan, from one run to the next.
Trusted boundary: none
-/
import HardwareDatabase.Proofs.PlanExecution

namespace HardwareDatabase.Harness.PlanGraph

open Planning (CompiledTaskGraph CompiledTaskNode TaskGraph WellFormed)
open Relational

variable {ρ : Type} {graph : TaskGraph} {result : PlanDAGExecutionResult ρ} {committed : List (String × ρ)}
  {held : String → Prop} {started : List String}

/-! ### Rank -/

/-- The steps that a future is away from its collection. -/
def Future.left : Future ρ → Nat
  | .submitted => 3
  | .running => 2
  | .finished _ => 1

/-- The steps until a batch is merged, when the futures are taken one after the other. -/
def leftOf (futures : String → Future ρ) : List CompiledTaskNode → Nat
  | [] => 1
  | node :: rest => 3 * rest.length + (futures node.nodeId).left + 1

/-- The nodes that are not completed, and the steps until more are. -/
def rank (graph : TaskGraph) (state : State ρ) : Nat × Nat :=
  (graph.nodes.length - state.result.completedNodes.length,
    match state.phase with
    | .scheduling => 3 * graph.nodes.length + 2
    | .structural _ => 1
    | .batch _ rest futures _ => leftOf futures rest
    | .returned => 0
    | .raised _ => 0)

/-- Fewer nodes are left, or fewer steps until more are completed. -/
def Lower : Nat × Nat → Nat × Nat → Prop :=
  Prod.Lex (· < ·) (· < ·)

private theorem lower_wellFounded : WellFounded Lower :=
  (Prod.lex Nat.lt_wfRel Nat.lt_wfRel).wf

private theorem Lower.of_le {first first' second second' : Nat} (le : first' ≤ first) (lt : second' < second) :
    Lower (first', second') (first, second) := by
  rcases Nat.lt_or_eq_of_le le with less | same
  · exact .left _ _ less
  · rw [same]
    exact .right _ lt

private theorem Future.left_le (future : Future ρ) : future.left ≤ 3 := by
  cases future with
  | submitted => exact Nat.le_refl 3
  | running => exact Nat.le_succ 2
  | finished => exact Nat.le_add_left 1 2

private theorem leftOf_le (futures : String → Future ρ) (rest : List CompiledTaskNode) :
    leftOf futures rest ≤ 3 * rest.length + 1 := by
  cases rest with
  | nil => exact Nat.le_refl _
  | cons node =>
    have left := (futures node.nodeId).left_le
    rw [leftOf, List.length_cons]
    omega

variable {futures : String → Future ρ}

private theorem leftOf_lt {node : CompiledTaskNode} {outcome : Except String ρ}
    (future : futures node.nodeId = .finished outcome) (rest : List CompiledTaskNode) :
    leftOf futures rest < leftOf futures (node :: rest) := by
  have next := leftOf_le futures rest
  rw [leftOf, future, Future.left]
  omega

/-! ### Progress

Every step of a run without failures lowers the rank, so the batches come to an end. -/

/-- A step in which no callback fails. -/
def Op.Succeeds : Op ρ → Prop
  | .finish _ (.error _) => False
  | _ => True

private theorem length_le_of_nodup (graph : TaskGraph) {nodeIds : List String} (nodup : nodeIds.Nodup)
    (known : ∀ nodeId ∈ nodeIds, nodeId ∈ graph.nodeIds) : nodeIds.length ≤ graph.nodes.length := by
  have length := (nodup.subperm known).length_le
  rwa [TaskGraph.nodeIds, List.length_map] at length

variable {nodeId : String}

private theorem Listed.length_lt {collecting : List String} (sound : Sound graph held result started)
    (listed : Listed result collecting) (known : nodeId ∈ graph.nodeIds)
    (absent : nodeId ∉ result.completedNodes) : result.completedNodes.length < graph.nodes.length := by
  have length := length_le_of_nodup graph (List.nodup_cons.mpr ⟨absent, listed.nodup⟩) <| by
    intro other there
    rcases List.mem_cons.mp there with rfl | completed
    · exact known
    · have status : Committed result other := ((listed.mem_iff other).mp completed).1
      exact sound.known other (by rw [status]; exact Option.some_ne_none _)
  rwa [List.length_cons] at length

private theorem Listed.not_mem_of_idle {collecting : List String} (listed : Listed result collecting)
    (idle : result.statuses nodeId = none) : nodeId ∉ result.completedNodes :=
  fun there => ((listed.mem_iff nodeId).mp there).1.ne_of_idle idle rfl

private theorem lower_commitStructural (sound : Sound graph held result started) (listed : Listed result [])
    {node : CompiledTaskNode} (waiting : Waiting graph result node) (phase : Phase ρ) (output : ρ) :
    let state : State ρ := { result, phase }
    Lower (rank graph (state.commitStructural node output)) (rank graph state) := by
  have room := listed.length_lt sound (List.mem_map_of_mem waiting.member) (listed.not_mem_of_idle waiting.idle)
  refine .left _ _ ?_
  change graph.nodes.length - (result.completedNodes ++ [node.nodeId]).length <
    graph.nodes.length - result.completedNodes.length
  rw [List.length_append, List.length_singleton]
  omega

variable {settings : Settings}

private theorem lower_schedule [Inhabited ρ] (formed : WellFormed graph)
    (sound : Sound graph held result started) (listed : Listed result []) (unfailed : Unfailed result) :
    let state : State ρ := { result, phase := .scheduling }
    Lower (rank graph (state.schedule graph settings).1) (rank graph state) := by
  intro state
  rcases schedule_cases formed sound listed unfailed (.scheduling : Phase ρ) with
    ⟨node, waiting, scheduled⟩ | ⟨node, waiting, scheduled⟩ | ⟨batch, -, nodup, waits, scheduled⟩ | ⟨-, scheduled⟩
  · rw [scheduled]
    exact .of_le (Nat.le_refl _) (show 1 < 3 * graph.nodes.length + 2 by omega)
  · rw [scheduled]
    exact lower_commitStructural sound listed waiting _ default
  · rw [scheduled]
    have length := length_le_of_nodup graph nodup fun nodeId there => by
      obtain ⟨node, member, rfl⟩ := List.mem_map.mp there
      exact List.mem_map_of_mem (waits node member).member
    rw [List.length_map] at length
    have left := leftOf_le (fun _ => (.submitted : Future ρ)) batch
    exact .of_le (Nat.le_refl _)
      (show leftOf (fun _ => (.submitted : Future ρ)) batch < 3 * graph.nodes.length + 2 by omega)
  · rw [scheduled]
    exact .of_le (Nat.le_refl _) (show 0 < 3 * graph.nodes.length + 2 by omega)

private theorem lower_merge (sound : Sound graph held result started) {nodes : List CompiledTaskNode}
    (collecting : Collecting graph result started nodes [] futures none) :
    let merged := result.complete ((nodes.map (·.nodeId)).filter fun nodeId => result.isCommitted nodeId)
    graph.nodes.length - merged.completedNodes.length < graph.nodes.length - result.completedNodes.length := by
  obtain ⟨node, member⟩ := List.exists_mem_of_ne_nil nodes collecting.nonempty
  have settled := (collecting.collected node member).resolve_left List.not_mem_nil
  have there : Committed result node.nodeId := by
    cases status : result.statuses node.nodeId with
    | none => exact absurd status settled.2
    | some reached =>
      cases reached with
      | committed => exact status
      | failed => exact absurd status (collecting.unfailed rfl node.nodeId)
  have named : node.nodeId ∈ nodes.map (·.nodeId) := List.mem_map_of_mem member
  have outside : node.nodeId ∉ result.completedNodes := fun completed =>
    ((collecting.listed.mem_iff node.nodeId).mp completed).2 named
  have room := collecting.listed.length_lt sound (List.mem_map_of_mem (collecting.members node member).1) outside
  have grows : 0 < ((nodes.map (·.nodeId)).filter fun nodeId => result.isCommitted nodeId).length :=
    List.length_pos_of_mem (List.mem_filter.mpr ⟨named, isCommitted_iff.mpr there⟩)
  change graph.nodes.length - (result.completedNodes ++ _).length < _
  rw [List.length_append]
  omega

variable {state : State ρ}

private theorem exists_lower [Inhabited ρ] (formed : WellFormed graph)
    (steady : Steady graph held state started) (going : ¬ state.phase.IsOver) :
    ∃ op : Op ρ, op.Succeeds ∧ Lower (rank graph (state.step graph settings op).1) (rank graph state) := by
  obtain ⟨sound, fits⟩ := steady
  cases fits with
  | scheduling listed unfailed =>
    exact ⟨.schedule, trivial, lower_schedule formed sound listed unfailed⟩
  | structural listed unfailed waiting executes recorded =>
    rename_i result node
    refine ⟨.finish node.nodeId (.ok default), trivial, ?_⟩
    have lower := lower_commitStructural sound listed waiting (.structural node) default
    simpa only [State.step, State.finish, if_pos] using lower
  | returned => exact absurd trivial going
  | raised => exact absurd trivial going
  | batch collecting =>
    rename_i result nodes rest futures failure
    cases rest with
    | nil =>
      refine ⟨.collect, trivial, ?_⟩
      cases failure with
      | none => exact .left _ _ (lower_merge sound collecting)
      | some =>
        refine .of_le ?_ (Nat.zero_lt_one)
        exact Nat.sub_le_sub_left (by simp [State.step, State.collect, State.raise]) _
    | cons node rest =>
      have member : node ∈ nodes := collecting.left.subset List.mem_cons_self
      cases future : futures node.nodeId with
      | submitted =>
        refine ⟨.start node.nodeId, trivial, ?_⟩
        have inBatch : (nodes.any fun other => other.nodeId == node.nodeId) = true :=
          List.any_eq_true.mpr ⟨node, member, beq_self_eq_true _⟩
        have next : leftOf (Function.update futures node.nodeId .running) (node :: rest) <
            leftOf futures (node :: rest) := by
          simp [leftOf, future, Future.left]
        simp only [State.step, State.start, inBatch, if_true, future]
        exact .of_le (Nat.le_refl _) next
      | running =>
        refine ⟨.finish node.nodeId (.ok default), trivial, ?_⟩
        have next : leftOf (Function.update futures node.nodeId (.finished (.ok default))) (node :: rest) <
            leftOf futures (node :: rest) := by
          simp [leftOf, future, Future.left]
        simp only [State.step, State.finish, future]
        exact .of_le (Nat.le_refl _) next
      | finished outcome =>
        refine ⟨.collect, trivial, ?_⟩
        have next := leftOf_lt future rest
        cases outcome with
        | ok | error =>
          simp only [State.step, State.collect, future]
          exact .of_le (Nat.le_refl _) next

/-! ### Runs without failures -/

/-- No callback has failed. -/
structure Clean (state : State ρ) : Prop where
  unfailed : Unfailed state.result
  futures : ∀ nodes rest futures failure, state.phase = .batch nodes rest futures failure →
    ∀ nodeId message, futures nodeId ≠ .finished (.error message)

private theorem Unfailed.commit (unfailed : Unfailed result) (nodeId : String) (output : ρ) :
    Unfailed (result.commit nodeId output) := by
  intro other status
  rw [PlanDAGExecutionResult.statuses_commit] at status
  split at status
  · cases status
  · exact unfailed other status

private theorem Clean.of_phase {phase : Phase ρ} (unfailed : Unfailed result)
    (outside : ∀ nodes rest futures failure, phase ≠ .batch nodes rest futures failure) :
    Clean { result, phase } where
  unfailed := unfailed
  futures := fun nodes rest futures failure same => absurd same (outside nodes rest futures failure)

private theorem clean_batch {nodes rest : List CompiledTaskNode}
    {failure : Option (String × String)} (unfailed : Unfailed result)
    (fine : ∀ nodeId message, futures nodeId ≠ .finished (.error message)) :
    Clean { result, phase := .batch nodes rest futures failure } where
  unfailed := unfailed
  futures := by
    intro nodes' rest' futures' failure' same
    cases same
    exact fine

private theorem clean_schedule [Inhabited ρ] {phase : Phase ρ} (unfailed : Unfailed result) :
    let state : State ρ := { result, phase }
    Clean (state.schedule graph settings).1 := by
  intro state
  unfold State.schedule
  split
  · split
    · exact .of_phase unfailed fun _ _ _ _ same => by cases same
    · split
      · split
        · exact .of_phase unfailed fun _ _ _ _ same => by cases same
        · exact .of_phase (unfailed.commit _ _) fun _ _ _ _ same => by cases same
      · exact clean_batch unfailed fun _ _ same => by cases same
  · exact .of_phase unfailed fun _ _ _ _ same => by cases same

private theorem update_ne_failed {future : Future ρ}
    (fine : ∀ nodeId message, futures nodeId ≠ .finished (.error message))
    (new : ∀ message, future ≠ .finished (.error message)) (other message : String) :
    Function.update futures nodeId future other ≠ .finished (.error message) := by
  rw [Function.update_apply]
  split
  · exact new message
  · exact fine other message

private theorem clean_step [Inhabited ρ] {op : Op ρ} (clean : Clean state)
    (succeeds : op.Succeeds) : Clean (state.step graph settings op).1 := by
  obtain ⟨result, phase⟩ := state
  cases op with
  | schedule =>
    cases phase with
    | scheduling => exact clean_schedule clean.unfailed
    | structural => exact clean
    | batch => exact clean
    | returned => exact clean
    | raised => exact clean
  | start =>
    simp only [State.step, State.start]
    split
    · rename_i nodes rest futures failure
      have fine := clean.futures nodes rest futures failure rfl
      split
      · split
        · exact clean_batch clean.unfailed (update_ne_failed fine fun _ same => by cases same)
        · exact clean
      · exact clean
    · exact clean
  | finish nodeId outcome =>
    cases outcome with
    | error => exact succeeds.elim
    | ok =>
      simp only [State.step, State.finish]
      split
      · split
        · exact .of_phase (clean.unfailed.commit _ _) fun _ _ _ _ same => by cases same
        · exact clean
      · rename_i nodes rest futures failure
        have fine := clean.futures nodes rest futures failure rfl
        split
        · exact clean_batch clean.unfailed (update_ne_failed fine fun _ same => by cases same)
        · exact clean
      · exact clean
  | collect =>
    simp only [State.step, State.collect]
    split
    · rename_i nodes node rest futures failure
      have fine := clean.futures nodes (node :: rest) futures failure rfl
      split
      · exact clean_batch (clean.unfailed.commit _ _) fine
      · rename_i message future
        exact absurd future (fine node.nodeId message)
      · exact clean
    · split
      · exact .of_phase clean.unfailed fun _ _ _ _ same => by cases same
      · exact .of_phase clean.unfailed fun _ _ _ _ same => by cases same
    · exact clean

private theorem clean_init (formed : WellFormed graph) (downward : Downward graph committed) :
    Clean (State.init graph committed) := by
  obtain ⟨result, taken, restored⟩ := takeOver_eq_ok formed downward
  unfold State.init
  rw [taken]
  refine .of_phase ?_ fun _ _ _ _ same => by cases same
  intro nodeId status
  rcases restored.statuses nodeId with idle | there
  · rw [idle] at status
    cases status
  · rw [there] at status
    cases status

/-! ### What a run does -/

section Runs

variable [Inhabited ρ] (graph) (settings : Settings)

/-- No callback of a run fails. -/
def Succeeds (ops : List (Op ρ)) : Prop :=
  ∀ op ∈ ops, op.Succeeds

/-- What a run from some receipts does: each node once, none with a receipt, and each when its dependencies are
committed. What is committed stays closed under dependencies, also when the run fails. -/
structure Executes (committed : List (String × ρ)) (ops : List (Op ρ)) : Prop where
  once : (executed graph settings committed ops).Nodup
  fresh : ∀ nodeId ∈ executed graph settings committed ops, nodeId ∈ graph.nodeIds ∧ ¬ Held committed nodeId
  ordered : (executor graph settings committed).Respects
    (fun state op => ∀ nodeId ∈ (state.step graph settings op).2, Enabled graph state.result nodeId) ops
  closed : DownClosed graph (Committed ((executor graph settings committed).run ops).result)
  raised : ∀ error, ((executor graph settings committed).run ops).phase = .raised error →
    DownClosed graph (fun nodeId => error.statuses nodeId = some .committed) ∧ ¬ Succeeds ops
  returned : ((executor graph settings committed).run ops).phase = .returned →
    ∀ nodeId, nodeId ∈ executed graph settings committed ops ↔ nodeId ∈ graph.nodeIds ∧ ¬ Held committed nodeId
  ends : ∃ more, Succeeds more ∧ ((executor graph settings committed).run (ops ++ more)).phase.IsOver

/-- What the run after a failed one does: only nodes that were not committed, and when its callbacks succeed all of
them. -/
structure Resumes (error : PlanDAGExecutionError) (receipts : List (String × ρ)) (ops : List (Op ρ)) : Prop where
  executes : Executes graph settings receipts ops
  remaining : ∀ nodeId ∈ executed graph settings receipts ops,
    nodeId ∈ graph.nodeIds ∧ error.statuses nodeId ≠ some .committed
  exactly : Succeeds ops → ((executor graph settings receipts).run ops).phase.IsOver →
    ((executor graph settings receipts).run ops).phase = .returned ∧
      ∀ nodeId, nodeId ∈ executed graph settings receipts ops ↔
        nodeId ∈ graph.nodeIds ∧ error.statuses nodeId ≠ some .committed

end Runs

private theorem raised_spec (steady : Steady graph held state started) {error : PlanDAGExecutionError}
    (raised : state.phase = .raised error) : error.statuses = state.result.statuses ∧ ¬ Unfailed state.result := by
  obtain ⟨-, fits⟩ := steady
  cases fits with
  | scheduling => cases raised
  | structural => cases raised
  | batch => cases raised
  | returned => cases raised
  | raised statuses blamed =>
    cases raised
    obtain ⟨nodeId, -, failed⟩ := blamed
    exact ⟨statuses, fun unfailed => unfailed nodeId failed⟩

private theorem returned_spec (steady : Steady graph held state started)
    (returned : state.phase = .returned) (nodeId : String) :
    nodeId ∈ started ↔ nodeId ∈ graph.nodeIds ∧ ¬ held nodeId := by
  obtain ⟨sound, fits⟩ := steady
  constructor
  · exact sound.fresh nodeId
  · rintro ⟨known, unheld⟩
    cases fits with
    | scheduling => cases returned
    | structural => cases returned
    | batch => cases returned
    | raised => cases returned
    | returned every =>
      have status : Committed _ nodeId := every nodeId known
      refine (sound.ran nodeId ?_).resolve_left unheld
      rw [status]
      exact Option.some_ne_none _

section Results

variable [Inhabited ρ] {settings : Settings}

private theorem clean_run (formed : WellFormed graph) (downward : Downward graph committed) {ops : List (Op ρ)}
    (succeeds : Succeeds ops) : Clean ((executor graph settings committed).run ops) := by
  have guarded : (executor graph settings committed).Respects (fun _ op => op.Succeeds) ops := by
    intro before op after split
    exact succeeds op (by rw [split]; exact List.mem_append_right before List.mem_cons_self)
  exact Machine.guarded_invariant (fun state : State ρ => Clean state) (clean_init formed downward)
    (fun _ _ clean fine => clean_step clean fine) guarded

private theorem executes_run (formed : WellFormed graph) (downward : Downward graph committed) (ops : List (Op ρ)) :
    Executes graph settings committed ops := by
  have steady := fun ops => steady_run settings formed downward ops
  exact
    { once := (steady ops).sound.nodup
      fresh := (steady ops).sound.fresh
      ordered := fun before op _ _ => (keeps_step formed (steady before) op).enabled
      closed := (steady ops).sound.closed
      raised := by
        intro error raised
        obtain ⟨statuses, failed⟩ := raised_spec (steady ops) raised
        refine ⟨?_, fun succeeds => failed (clean_run formed downward succeeds).unfailed⟩
        rw [statuses]
        exact (steady ops).sound.closed
      returned := fun returned => returned_spec (steady ops) returned
      ends := Machine.reaches lower_wellFounded (rank graph) (fun state : State ρ => state.phase.IsOver) Op.Succeeds
        (fun ops going => by
          obtain ⟨op, fine, lower⟩ := exists_lower formed (steady ops) going
          exact ⟨op, fine, by rw [Machine.run_concat]; exact lower⟩) ops }

private theorem resumes_run (formed : WellFormed graph) (downward : Downward graph committed) {ops : List (Op ρ)}
    {error : PlanDAGExecutionError} (raised : ((executor graph settings committed).run ops).phase = .raised error)
    {receipts : List (String × ρ)}
    (receipted : ∀ nodeId, Held receipts nodeId ↔ error.statuses nodeId = some .committed)
    (settings' : Settings) (ops' : List (Op ρ)) : Resumes graph settings' error receipts ops' := by
  have steady := steady_run settings formed downward ops
  obtain ⟨statuses, -⟩ := raised_spec steady raised
  have again : Downward graph receipts := by
    constructor
    · intro entry member
      have status := (receipted entry.1).mp (held_iff.mpr ⟨entry, member, rfl⟩)
      rw [statuses] at status
      exact steady.sound.known entry.1 (by rw [status]; exact Option.some_ne_none _)
    · intro node member there dependency needed
      have status := (receipted node.nodeId).mp there
      rw [statuses] at status
      have kept := steady.sound.closed node member status dependency needed
      exact (receipted dependency).mpr (statuses ▸ kept)
  have executes : Executes graph settings' receipts ops' := executes_run formed again ops'
  refine ⟨executes, ?_, ?_⟩
  · intro nodeId there
    obtain ⟨known, unheld⟩ := executes.fresh nodeId there
    exact ⟨known, fun status => unheld ((receipted nodeId).mpr status)⟩
  · intro succeeds finished
    have returned : ((executor graph settings' receipts).run ops').phase = .returned := by
      cases phase : ((executor graph settings' receipts).run ops').phase with
      | returned => rfl
      | raised later => exact absurd succeeds (executes.raised later phase).2
      | scheduling | structural | batch =>
        rw [phase] at finished; exact finished.elim
    refine ⟨returned, fun nodeId => ?_⟩
    rw [executes.returned returned, receipted]

/-- A run of a compiled graph executes each node once and in order, and the run after a failed one the rest. -/
theorem plan_dag_executes_once {contentHash : TaskGraph → String} (compiled : CompiledTaskGraph contentHash)
    (committed : List (String × ρ)) (downward : Downward compiled.graph committed) (settings : Settings)
    (ops : List (Op ρ)) : Executes compiled.graph settings committed ops ∧
      ∀ error, ((executor compiled.graph settings committed).run ops).phase = .raised error →
        ∀ receipts : List (String × ρ),
          (∀ nodeId, Held receipts nodeId ↔ error.statuses nodeId = some .committed) →
            ∀ settings' ops', Resumes compiled.graph settings' error receipts ops' :=
  ⟨executes_run compiled.wellFormed downward ops, fun _ raised _ receipted settings' ops' =>
    resumes_run compiled.wellFormed downward raised receipted settings' ops'⟩

end Results

/-! ### A run that fails -/

/-- Two units after a preflight. -/
def twoUnits : CompiledTaskGraph fun _ => "hash" where
  graph :=
    { nodes :=
        [{ nodeId := "preflight", kind := .preflight, actionKey := "0" },
          { nodeId := "left", kind := .unit, taskId := some "task", unitId := some "1",
            dependencies := ["preflight"], actionKey := "1" },
          { nodeId := "right", kind := .unit, taskId := some "task", unitId := some "2",
            dependencies := ["preflight"], actionKey := "2" }]
      edges := [{ upstreamNodeId := "preflight", downstreamNodeId := "left" },
        { upstreamNodeId := "preflight", downstreamNodeId := "right" }]
      topologicalOrder := ["preflight", "left", "right"] }
  valid := by decide +kernel

/-- The preflight has a receipt; the second unit finishes first, and the first one fails. -/
def halfFailed : List (Op String) :=
  [.schedule, .start "left", .start "right", .finish "right" (.ok "written"), .finish "left" (.error "timeout"),
    .collect, .collect, .collect]

/-- The error names the failed unit, and the next run executes that unit only. -/
theorem plan_dag_executes_once_failed :
    ∃ error, ((executor twoUnits.graph { maxWorkers := 2 } [("preflight", "done")]).run halfFailed).phase =
        .raised error ∧
      error.nodeId = some "left" ∧
      executed twoUnits.graph { maxWorkers := 2 } [("preflight", "done")] halfFailed = ["left", "right"] ∧
      Resumes twoUnits.graph {} error [("preflight", "done"), ("right", "written")]
        [.schedule, .start "left", .finish "left" (.ok "rewritten"), .collect, .collect, .schedule] := by
  have downward : Downward twoUnits.graph [("preflight", "done")] := by
    constructor
    · decide
    · unfold DownClosed Held
      decide
  refine ⟨_, rfl, rfl, by decide +kernel, ?_⟩
  refine (plan_dag_executes_once twoUnits [("preflight", "done")] downward { maxWorkers := 2 } halfFailed).2 _ rfl
    _ ?_ _ _
  intro nodeId
  change (List.lookup nodeId [("preflight", "done"), ("right", "written")]).isSome = true ↔
    Function.update (Function.update (Function.update (fun _ => none) "preflight" (some NodeStatus.committed)) "left"
      (some .failed)) "right" (some .committed) nodeId = some .committed
  simp only [Function.update_apply, List.lookup_isSome_iff, beq_iff_eq]
  by_cases right : nodeId = "right"
  · simp [right]
  · by_cases left : nodeId = "left"
    · simp [left]
    · simp [right, left]

end HardwareDatabase.Harness.PlanGraph
