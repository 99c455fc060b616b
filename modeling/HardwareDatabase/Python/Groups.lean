/-
Module: HardwareDatabase.Python.Groups
Purpose: `defaultdict(list)` filled by a loop over the items, and `Counter` with its most common element.
Trusted boundary: none
-/
import HardwareDatabase.Python.OrderedDict

namespace HardwareDatabase.Python

variable {κ α : Type} [DecidableEq κ]

/-- `groups[key(item)].append(item)` for every item. -/
def grouped (key : α → κ) (items : List α) : OrderedDict κ (List α) :=
  items.foldl (fun groups item => groups.assign (key item) ((groups.get? (key item)).getD [] ++ [item])) .empty

/-- `groups.get(name, [])`. -/
def group (key : α → κ) (items : List α) (name : κ) : List α :=
  ((grouped key items).get? name).getD []

/-- `Counter(items)`. -/
def counted (items : List κ) : OrderedDict κ Nat :=
  items.foldl (fun counts item => counts.assign item ((counts.get? item).getD 0 + 1)) .empty

/-- `Counter(items).most_common(1)`: of elements that occur equally often, the one that was counted first. -/
def mostCommon (items : List κ) : Option κ :=
  let better (best : Option (κ × Nat)) (entry : κ × Nat) : Option (κ × Nat) :=
    match best with
    | none => some entry
    | some known => if known.2 < entry.2 then some entry else some known
  ((counted items).entries.foldl better none).map Prod.fst

theorem getD_foldl_append (key : α → κ) (items : List α) (groups : OrderedDict κ (List α)) (name : κ) :
    ((items.foldl (fun groups item => groups.assign (key item) ((groups.get? (key item)).getD [] ++ [item]))
        groups).get? name).getD [] =
      (groups.get? name).getD [] ++ items.filter fun item => decide (key item = name) := by
  induction items generalizing groups with
  | nil => simp
  | cons item rest ih =>
    rw [List.foldl_cons, ih, OrderedDict.get?_assign]
    by_cases here : name = key item
    · rw [if_pos here, List.filter_cons_of_pos (by simp [here]), here, Option.getD_some, List.append_assoc,
        List.singleton_append]
    · rw [if_neg here, List.filter_cons_of_neg (by simpa using fun same : key item = name => here same.symm)]

theorem group_eq_filter (key : α → κ) (items : List α) (name : κ) :
    group key items name = items.filter fun item => decide (key item = name) := by
  rw [group, grouped, getD_foldl_append, OrderedDict.get?_empty, Option.getD_none, List.nil_append]

theorem mem_keys_foldl_append (key : α → κ) (items : List α) (groups : OrderedDict κ (List α)) {name : κ} :
    name ∈ (items.foldl (fun groups item =>
        groups.assign (key item) ((groups.get? (key item)).getD [] ++ [item])) groups).keys ↔
      name ∈ groups.keys ∨ ∃ item ∈ items, key item = name := by
  induction items generalizing groups with
  | nil => simp
  | cons item rest ih =>
    rw [List.foldl_cons, ih, OrderedDict.mem_keys_iff, OrderedDict.mem_keys_iff, OrderedDict.get?_assign]
    by_cases here : name = key item
    · rw [if_pos here]
      simp [here]
    · rw [if_neg here]
      simp [Ne.symm here]

theorem mem_keys_grouped {key : α → κ} {items : List α} {name : κ} :
    name ∈ (grouped key items).keys ↔ ∃ item ∈ items, key item = name := by
  rw [grouped, mem_keys_foldl_append]
  simp [OrderedDict.keys, OrderedDict.empty]

theorem perm_flatMap_filter {key : α → κ} {names : List κ} (distinct : names.Nodup) {items : List α}
    (named : ∀ item ∈ items, key item ∈ names) :
    (names.flatMap fun name => items.filter fun item => decide (key item = name)).Perm items := by
  induction names generalizing items with
  | nil =>
    have none : items = [] := List.eq_nil_iff_forall_not_mem.mpr fun item member => by simpa using named item member
    rw [none]
    exact .refl _
  | cons name names ih =>
    obtain ⟨apart, distinct⟩ := List.nodup_cons.mp distinct
    let others := items.filter fun item => !decide (key item = name)
    have split : (items.filter (fun item => decide (key item = name)) ++ others).Perm items :=
      List.filter_append_perm (fun item => decide (key item = name)) items
    have othersNamed : ∀ item ∈ others, key item ∈ names := by
      intro item member
      obtain ⟨there, different⟩ := List.mem_filter.mp member
      have apart : key item ≠ name := by simpa using different
      exact (List.mem_cons.mp (named item there)).resolve_left apart
    have same : (names.flatMap fun other => items.filter fun item => decide (key item = other)) =
        names.flatMap fun other => others.filter fun item => decide (key item = other) := by
      refine List.flatMap_congr fun other member => ?_
      rw [List.filter_filter]
      refine List.filter_congr fun item _ => ?_
      by_cases here : key item = other
      · have different : other ≠ name := fun equal => apart (equal ▸ member)
        simp [here, different]
      · simp [here]
    rw [List.flatMap_cons, same]
    exact ((ih distinct othersNamed).append_left _).trans split

/-- The groups together are the items, in whatever order the keys are taken. -/
theorem perm_flatMap_group {key : α → κ} {items : List α} {names : List κ}
    (same : names.Perm (grouped key items).keys) : (names.flatMap (group key items)).Perm items := by
  have parts : names.flatMap (group key items) =
      names.flatMap fun name => items.filter fun item => decide (key item = name) :=
    List.flatMap_congr fun name _ => group_eq_filter key items name
  rw [parts]
  refine perm_flatMap_filter (same.nodup_iff.mpr (grouped key items).distinct) ?_
  intro item member
  exact same.mem_iff.mpr (mem_keys_grouped.mpr ⟨item, member, rfl⟩)

end HardwareDatabase.Python
