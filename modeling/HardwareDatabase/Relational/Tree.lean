/-
Module: HardwareDatabase.Relational.Tree
Purpose: Ordered trees with labelled nodes, and how a tree falls apart when marked subtrees are taken out of it.
Trusted boundary: none
-/
import Mathlib.Data.List.Perm.Basic

namespace Relational

/-- A node with a label and the trees under it, in their order. -/
inductive RoseTree (α : Type)
  | node (label : α) (children : List (RoseTree α))
deriving Repr

namespace RoseTree

variable {α : Type}

def label : RoseTree α → α
  | node label _ => label

def children : RoseTree α → List (RoseTree α)
  | node _ children => children

mutual

/-- The tree and all trees in it, each before those under it. -/
def subtrees : RoseTree α → List (RoseTree α)
  | node label children => node label children :: subtreesAll children

def subtreesAll : List (RoseTree α) → List (RoseTree α)
  | [] => []
  | tree :: rest => subtrees tree ++ subtreesAll rest

end

section Prune

variable (marked : RoseTree α → Bool)

mutual

/-- The tree without the marked trees under it. -/
def prune : RoseTree α → RoseTree α
  | node label children => node label (pruneAll children)

def pruneAll : List (RoseTree α) → List (RoseTree α)
  | [] => []
  | tree :: rest => if marked tree then pruneAll rest else prune tree :: pruneAll rest

end

end Prune

/-! ### Subtrees -/

@[simp] theorem subtreesAll_nil : subtreesAll ([] : List (RoseTree α)) = [] := by
  rw [subtreesAll]

@[simp] theorem subtreesAll_cons (tree : RoseTree α) (rest : List (RoseTree α)) :
    subtreesAll (tree :: rest) = tree.subtrees ++ subtreesAll rest := by
  rw [subtreesAll]

theorem subtrees_node (label : α) (children : List (RoseTree α)) :
    (node label children).subtrees = node label children :: subtreesAll children := by
  rw [subtrees]

theorem subtrees_eq (tree : RoseTree α) : tree.subtrees = tree :: subtreesAll tree.children := by
  cases tree with
  | node label children => exact subtrees_node label children

theorem subtreesAll_eq_flatMap (trees : List (RoseTree α)) : subtreesAll trees = trees.flatMap subtrees := by
  induction trees with
  | nil => rfl
  | cons tree rest ih => rw [subtreesAll_cons, ih, List.flatMap_cons]

@[simp] theorem subtreesAll_append (left right : List (RoseTree α)) :
    subtreesAll (left ++ right) = subtreesAll left ++ subtreesAll right := by
  simp only [subtreesAll_eq_flatMap, List.flatMap_append]

theorem mem_subtrees_self (tree : RoseTree α) : tree ∈ tree.subtrees := by
  rw [subtrees_eq]
  exact List.mem_cons_self

mutual

theorem subtrees_subset : ∀ (tree : RoseTree α) {part : RoseTree α}, part ∈ tree.subtrees → part.subtrees ⊆ tree.subtrees
  | node label children, part, inside => by
    rw [subtrees_node] at inside ⊢
    rcases List.mem_cons.mp inside with rfl | below
    · rw [subtrees_node]
      exact List.Subset.refl _
    · exact List.Subset.trans (subtreesAll_subset children below) (List.subset_cons_self _ _)

theorem subtreesAll_subset : ∀ (trees : List (RoseTree α)) {part : RoseTree α}, part ∈ subtreesAll trees →
    part.subtrees ⊆ subtreesAll trees
  | [], _, inside => by simp at inside
  | tree :: rest, part, inside => by
    rw [subtreesAll_cons] at inside ⊢
    rcases List.mem_append.mp inside with here | later
    · exact List.Subset.trans (subtrees_subset tree here) (List.subset_append_left _ _)
    · exact List.Subset.trans (subtreesAll_subset rest later) (List.subset_append_right _ _)

end

theorem mem_subtreesAll_of_mem {trees : List (RoseTree α)} {tree : RoseTree α} (member : tree ∈ trees) :
    tree ∈ subtreesAll trees := by
  rw [subtreesAll_eq_flatMap]
  exact List.mem_flatMap.mpr ⟨tree, member, mem_subtrees_self tree⟩

/-- What stands directly under a part of a tree lies in the tree. -/
theorem mem_subtrees_of_child {tree part child : RoseTree α} (inside : part ∈ tree.subtrees)
    (below : child ∈ part.children) : child ∈ tree.subtrees := by
  refine subtrees_subset tree inside ?_
  rw [subtrees_eq]
  exact List.mem_cons_of_mem _ (mem_subtreesAll_of_mem below)

/-! ### Pruned trees -/

section Pruned

variable {marked : RoseTree α → Bool}

theorem prune_node (label : α) (children : List (RoseTree α)) :
    prune marked (node label children) = node label (pruneAll marked children) := by
  rw [prune]

@[simp] theorem label_prune (tree : RoseTree α) : (prune marked tree).label = tree.label := by
  cases tree with
  | node =>
    rw [prune_node]
    rfl

@[simp] theorem pruneAll_nil : pruneAll marked [] = [] := by
  rw [pruneAll]

theorem pruneAll_cons (tree : RoseTree α) (rest : List (RoseTree α)) : pruneAll marked (tree :: rest) =
    if marked tree then pruneAll marked rest else prune marked tree :: pruneAll marked rest := by
  rw [pruneAll]

/-- The subtrees of what is taken out of trees, each marked tree without those under it. -/
def pieces (marked : RoseTree α → Bool) (trees : List (RoseTree α)) : List (RoseTree α) :=
  ((subtreesAll trees).filter marked).flatMap fun tree => (prune marked tree).subtrees

@[simp] theorem pieces_nil : pieces marked [] = [] := by
  simp [pieces]

theorem pieces_cons (tree : RoseTree α) (rest : List (RoseTree α)) : pieces marked (tree :: rest) =
    (if marked tree then (prune marked tree).subtrees else []) ++
      (pieces marked tree.children ++ pieces marked rest) := by
  simp only [pieces, subtreesAll_cons, subtrees_eq tree, List.filter_append, List.flatMap_append, List.filter_cons]
  split <;> simp

mutual

/-- The subtrees of a tree, pruned, are those of what is left of it and of what is taken out of it. -/
theorem subtrees_prune_perm : ∀ tree : RoseTree α,
    ((prune marked tree).subtrees ++ pieces marked tree.children).Perm (tree.subtrees.map (prune marked))
  | node label children => by
    rw [prune_node, subtrees_node, subtrees_node, List.map_cons, prune_node, List.cons_append]
    exact (subtreesAll_pruneAll_perm children).cons _

theorem subtreesAll_pruneAll_perm : ∀ trees : List (RoseTree α),
    (subtreesAll (pruneAll marked trees) ++ pieces marked trees).Perm ((subtreesAll trees).map (prune marked))
  | [] => by simp
  | tree :: rest => by
    have both := (subtrees_prune_perm tree).append (subtreesAll_pruneAll_perm rest)
    rw [subtreesAll_cons, List.map_append, pieces_cons, pruneAll_cons]
    refine List.Perm.trans ?_ both
    by_cases taken : marked tree = true
    · rw [if_pos taken, if_pos taken, List.append_assoc]
      refine (List.perm_append_comm_assoc _ _ _).trans (List.Perm.append_left _ ?_)
      exact List.perm_append_comm_assoc _ _ _
    · rw [if_neg taken, if_neg taken, subtreesAll_cons, List.nil_append, List.append_assoc, List.append_assoc]
      exact List.Perm.append_left _ (List.perm_append_comm_assoc _ _ _)

end

/-- How many subtrees a tree has. -/
def size (tree : RoseTree α) : Nat :=
  tree.subtrees.length

theorem size_pos (tree : RoseTree α) : 0 < tree.size := by
  rw [size, subtrees_eq]
  exact Nat.succ_pos _

mutual

/-- Nothing is taken out of a tree without marked trees under it. -/
theorem prune_eq_self : ∀ tree : RoseTree α, (∀ other ∈ subtreesAll tree.children, marked other = false) →
    prune marked tree = tree
  | node label children => fun unmarked => by
    rw [prune_node, pruneAll_eq_self children unmarked]

theorem pruneAll_eq_self : ∀ trees : List (RoseTree α), (∀ other ∈ subtreesAll trees, marked other = false) →
    pruneAll marked trees = trees
  | [] => fun _ => pruneAll_nil
  | tree :: rest => fun unmarked => by
    rw [subtreesAll_cons] at unmarked
    have below : ∀ other ∈ subtreesAll tree.children, marked other = false := fun other member =>
      unmarked other (List.mem_append_left _ (by rw [subtrees_eq]; exact List.mem_cons_of_mem _ member))
    rw [pruneAll_cons, unmarked tree (List.mem_append_left _ (mem_subtrees_self tree)),
      if_neg Bool.false_ne_true, prune_eq_self tree below,
      pruneAll_eq_self rest fun other member => unmarked other (List.mem_append_right _ member)]

end

theorem size_prune_add (tree : RoseTree α) :
    (prune marked tree).size + (pieces marked tree.children).length = tree.size := by
  have lengths := (@subtrees_prune_perm α marked tree).length_eq
  rwa [List.length_append, List.length_map] at lengths

theorem size_prune_le (tree : RoseTree α) : (prune marked tree).size ≤ tree.size := by
  have sizes := @size_prune_add α marked tree
  omega

/-- A pruned tree that is as large as before had no marked trees under it. -/
theorem unmarked_of_size {tree : RoseTree α} (same : (prune marked tree).size = tree.size) :
    ∀ other ∈ subtreesAll tree.children, marked other = false := by
  have sizes := @size_prune_add α marked tree
  have none : pieces marked tree.children = [] := List.length_eq_zero_iff.mp (by omega)
  intro other member
  by_contra taken
  have listed : other ∈ (subtreesAll tree.children).filter marked :=
    List.mem_filter.mpr ⟨member, by simpa using taken⟩
  have piece : prune marked other ∈ pieces marked tree.children :=
    List.mem_flatMap.mpr ⟨other, listed, mem_subtrees_self _⟩
  rw [none] at piece
  cases piece

end Pruned

end RoseTree

end Relational
