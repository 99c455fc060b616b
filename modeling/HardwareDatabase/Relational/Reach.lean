/-
Module: HardwareDatabase.Relational.Reach
Purpose: What a set of nodes reaches along the edges of a finite graph, found by passes until one adds nothing.
Trusted boundary: none
-/
import HardwareDatabase.Relational.Growth
import Mathlib.Logic.Relation

namespace Relational

variable {α : Type} [DecidableEq α]

/-- An edge leads from one node to the other. -/
def Joined (edges : List (α × α)) (source target : α) : Prop :=
  (source, target) ∈ edges

/-- One pass: the target of an edge is added when its source is there. -/
def sweep : List (α × α) → List α → List α
  | [], reached => reached
  | edge :: rest, reached =>
    if edge.1 ∈ reached ∧ edge.2 ∉ reached then sweep rest (edge.2 :: reached) else sweep rest reached

theorem grows_sweep {targets : List α} (edges : List (α × α)) (within : ∀ edge ∈ edges, edge.2 ∈ targets)
    (reached : List α) : Grows targets reached (sweep edges reached) := by
  induction edges generalizing reached with
  | nil => exact Grows.refl targets reached
  | cons edge rest ih =>
    have onwards := ih fun other member => within other (List.mem_cons_of_mem _ member)
    rw [sweep]
    split
    · rename_i fresh
      have step := grows_insertNew (within edge List.mem_cons_self) reached
      rw [insertNew, if_neg fresh.2] at step
      exact step.trans (onwards (edge.2 :: reached))
    · exact onwards reached

/-- The targets of the edges. -/
def targetsOf (edges : List (α × α)) : List α :=
  edges.map Prod.snd

theorem grows_sweep_targets (edges : List (α × α)) (reached : List α) :
    Grows (targetsOf edges) reached (sweep edges reached) :=
  grows_sweep edges (fun edge member => List.mem_map.mpr ⟨edge, member, rfl⟩) reached

variable {reached : List α} {edges : List (α × α)}

theorem mem_sweep_of_mem {node : α} (known : node ∈ reached) : node ∈ sweep edges reached :=
  (grows_sweep_targets edges reached).subset known

/-- Passes are made until one adds nothing. -/
def saturate (edges : List (α × α)) (reached : List α) : List α :=
  let next := sweep edges reached
  if next.length = reached.length then next else saturate edges next
termination_by (missing (targetsOf edges) reached).card
decreasing_by
  rename_i grown
  exact (grows_sweep_targets edges reached).card_missing_lt grown

/-! ### What the passes reach -/

/-- A pass that adds nothing has seen no edge that leads to something new. -/
theorem closed_of_sweep_eq (same : sweep edges reached = reached) :
    ∀ edge ∈ edges, edge.1 ∈ reached → edge.2 ∈ reached := by
  induction edges with
  | nil => nofun
  | cons first rest ih =>
    rw [sweep] at same
    split at same
    · rename_i fresh
      have known : first.2 ∈ sweep rest (first.2 :: reached) := mem_sweep_of_mem List.mem_cons_self
      rw [same] at known
      exact absurd known fresh.2
    · rename_i settled
      intro edge member there
      rcases List.mem_cons.mp member with rfl | member
      · by_contra absent
        exact settled ⟨there, absent⟩
      · exact ih same edge member there

theorem mem_sweep {start : List α}
    (sound : ∀ node ∈ reached, ∃ source ∈ start, Relation.ReflTransGen (Joined edges) source node)
    (part : List (α × α)) (inside : part ⊆ edges) :
    ∀ node ∈ sweep part reached, ∃ source ∈ start, Relation.ReflTransGen (Joined edges) source node := by
  induction part generalizing reached with
  | nil => exact sound
  | cons edge rest ih =>
    obtain ⟨here, later⟩ := List.cons_subset.mp inside
    rw [sweep]
    split
    · rename_i fresh
      refine ih ?_ later
      intro node member
      rcases List.mem_cons.mp member with rfl | member
      · obtain ⟨source, member, path⟩ := sound edge.1 fresh.1
        exact ⟨source, member, path.tail here⟩
      · exact sound node member
    · exact ih sound later

/-- The passes find what can be reached, and nothing else. -/
theorem mem_saturate_iff {start : List α} {node : α} :
    node ∈ saturate edges start ↔ ∃ source ∈ start, Relation.ReflTransGen (Joined edges) source node := by
  have all : ∀ reached, start ⊆ reached →
      (∀ node ∈ reached, ∃ source ∈ start, Relation.ReflTransGen (Joined edges) source node) →
      (node ∈ saturate edges reached ↔
        ∃ source ∈ start, Relation.ReflTransGen (Joined edges) source node) := by
    intro reached
    induction reached using saturate.induct edges with
    | case1 reached next settled =>
      intro within sound
      have same : sweep edges reached = reached :=
        (grows_sweep_targets edges reached).eq_of_length settled
      rw [saturate, if_pos settled, same]
      refine ⟨sound node, ?_⟩
      rintro ⟨source, member, path⟩
      induction path with
      | refl => exact within member
      | tail _ edge known => exact closed_of_sweep_eq same _ edge known
    | case2 reached next grown ih =>
      intro within sound
      rw [saturate, if_neg grown]
      refine ih ?_ (mem_sweep sound edges (List.Subset.refl edges))
      intro source member
      exact mem_sweep_of_mem (within member)
  refine all start (List.Subset.refl start) ?_
  intro source member
  exact ⟨source, member, .refl⟩

/-! ### How many passes there are -/

theorem sweep_saturate (edges : List (α × α)) (reached : List α) :
    sweep edges (saturate edges reached) = saturate edges reached := by
  induction reached using saturate.induct edges with
  | case1 reached next settled =>
    have same : sweep edges reached = reached := (grows_sweep_targets edges reached).eq_of_length settled
    rw [saturate, if_pos settled, same, same]
  | case2 reached next grown ih =>
    rw [saturate, if_neg grown]
    exact ih

/-- Each pass but the last finds a target that was missing. -/
theorem exists_sweeps (edges : List (α × α)) (reached : List α) :
    ∃ passes ≤ (missing (targetsOf edges) reached).card, (sweep edges)^[passes] reached = saturate edges reached := by
  induction reached using saturate.induct edges with
  | case1 reached next settled =>
    have same : sweep edges reached = reached := (grows_sweep_targets edges reached).eq_of_length settled
    refine ⟨0, Nat.zero_le _, ?_⟩
    rw [saturate, if_pos settled, same, Function.iterate_zero, id]
  | case2 reached next grown ih =>
    obtain ⟨passes, bound, found⟩ := ih
    have fewer := (grows_sweep_targets edges reached).card_missing_lt grown
    refine ⟨passes + 1, Nat.lt_of_le_of_lt bound fewer, ?_⟩
    rw [saturate, if_neg grown, Function.iterate_succ_apply]
    exact found

/-- As many passes as there are edges suffice. -/
theorem saturate_eq_sweeps (edges : List (α × α)) (reached : List α) :
    saturate edges reached = (sweep edges)^[edges.length] reached := by
  obtain ⟨passes, bound, found⟩ := exists_sweeps edges reached
  have enough : passes ≤ edges.length := by
    calc passes
        ≤ (missing (targetsOf edges) reached).card := bound
      _ ≤ (targetsOf edges).toFinset.card := Finset.card_le_card Finset.sdiff_subset
      _ ≤ (targetsOf edges).length := List.toFinset_card_le _
      _ = edges.length := List.length_map _
  rw [← Nat.sub_add_cancel enough, Function.iterate_add_apply, found]
  exact (Function.iterate_fixed (sweep_saturate edges reached) _).symm

end Relational
