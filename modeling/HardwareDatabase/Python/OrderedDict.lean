/-
Module: HardwareDatabase.Python.OrderedDict
Purpose: `dict` of the host language: the entries in the order in which their keys were first assigned. Also the
  sorted list of a set of texts.
Trusted boundary: none
-/
import Mathlib.Data.List.Nodup
import Mathlib.Data.List.Dedup

namespace HardwareDatabase.Python

/-- `dict`, with the entries in insertion order. -/
structure OrderedDict (κ α : Type) where
  entries : List (κ × α)
  /-- a key has one entry -/
  distinct : (entries.map Prod.fst).Nodup

namespace OrderedDict

variable {κ α : Type}

/-- `{}`. -/
def empty : OrderedDict κ α where
  entries := []
  distinct := List.nodup_nil

instance : Inhabited (OrderedDict κ α) := ⟨empty⟩

variable [DecidableEq κ]

/-- `entries.get(key)`. -/
def get? (dict : OrderedDict κ α) (key : κ) : Option α :=
  (dict.entries.find? fun entry => decide (entry.1 = key)).map Prod.snd

/-- `key in entries`. -/
def contains (dict : OrderedDict κ α) (key : κ) : Bool :=
  (dict.get? key).isSome

/-- The entries with a new value under a key that they have. -/
def replaced (key : κ) (value : α) (entries : List (κ × α)) : List (κ × α) :=
  entries.map fun entry => if entry.1 = key then (key, value) else entry

theorem keys_replaced (key : κ) (value : α) (entries : List (κ × α)) :
    (replaced key value entries).map Prod.fst = entries.map Prod.fst := by
  rw [replaced, List.map_map]
  apply List.map_congr_left
  intro entry _
  by_cases here : entry.1 = key
  · simp [here]
  · simp [here]

/-- `entries[key] = value`. -/
def assign (dict : OrderedDict κ α) (key : κ) (value : α) : OrderedDict κ α :=
  if known : key ∈ dict.entries.map Prod.fst then
    { entries := replaced key value dict.entries
      distinct := by rw [keys_replaced]; exact dict.distinct }
  else
    { entries := dict.entries ++ [(key, value)]
      distinct := by
        rw [List.map_append, List.map_cons, List.map_nil]
        exact dict.distinct.append (List.nodup_singleton key) (by simpa using known) }

/-- `entries.setdefault(key, value)`. -/
def setDefault (dict : OrderedDict κ α) (key : κ) (value : α) : OrderedDict κ α :=
  if dict.contains key then dict else dict.assign key value

/-- `entries.values()`. -/
def values (dict : OrderedDict κ α) : List α :=
  dict.entries.map Prod.snd

/-- `entries.keys()`. -/
def keys (dict : OrderedDict κ α) : List κ :=
  dict.entries.map Prod.fst

/-- `{key: value for ..}`: the last value under a key stays. -/
def ofEntries (entries : List (κ × α)) : OrderedDict κ α :=
  entries.foldl (fun dict entry => dict.assign entry.1 entry.2) empty

/-! ### Lookups -/

theorem mem_entries_iff {dict : OrderedDict κ α} {key : κ} {value : α} :
    (key, value) ∈ dict.entries ↔ dict.get? key = some value := by
  obtain ⟨entries, distinct⟩ := dict
  simp only [get?]
  induction entries with
  | nil => simp
  | cons entry rest ih =>
    rw [List.map_cons, List.nodup_cons] at distinct
    by_cases here : entry.1 = key
    · have found : (entry :: rest).find? (fun entry => decide (entry.1 = key)) = some entry := by
        simp [here]
      rw [found, List.mem_cons]
      constructor
      · rintro (rfl | later)
        · rfl
        · refine absurd (List.mem_map.mpr ⟨(key, value), later, ?_⟩) distinct.1
          exact here.symm
      · intro same
        have second : entry.2 = value := Option.some.inj same
        exact Or.inl (Prod.ext here.symm second.symm)
    · have passed : (entry :: rest).find? (fun entry => decide (entry.1 = key)) =
          rest.find? (fun entry => decide (entry.1 = key)) := by
        simp [here]
      rw [passed, List.mem_cons, ih distinct.2]
      constructor
      · rintro (rfl | later)
        · exact absurd rfl here
        · exact later
      · exact Or.inr

@[simp] theorem get?_empty (key : κ) : (empty : OrderedDict κ α).get? key = none := rfl

theorem contains_iff {dict : OrderedDict κ α} {key : κ} :
    dict.contains key = true ↔ ∃ value, dict.get? key = some value := by
  rw [contains, Option.isSome_iff_exists]

theorem get?_assign (dict : OrderedDict κ α) (key : κ) (value : α) (other : κ) :
    (dict.assign key value).get? other = if other = key then some value else dict.get? other := by
  have assigned {entry : κ × α} : entry ∈ (dict.assign key value).entries ↔
      entry = (key, value) ∨ (entry ∈ dict.entries ∧ entry.1 ≠ key) := by
    rw [assign]
    split
    · rename_i known
      obtain ⟨old, oldMember, oldKey⟩ := List.mem_map.mp known
      simp only [replaced, List.mem_map]
      constructor
      · rintro ⟨before, member, rfl⟩
        by_cases here : before.1 = key
        · exact Or.inl (by simp [here])
        · exact Or.inr (by simp [here, member])
      · rintro (rfl | ⟨member, different⟩)
        · exact ⟨old, oldMember, by simp [oldKey]⟩
        · exact ⟨entry, member, by simp [different]⟩
    · rename_i unknown
      rw [List.mem_append, List.mem_singleton]
      constructor
      · rintro (member | rfl)
        · refine Or.inr ⟨member, ?_⟩
          rintro rfl
          exact unknown (List.mem_map.mpr ⟨entry, member, rfl⟩)
        · exact Or.inl rfl
      · rintro (rfl | ⟨member, _⟩)
        · exact Or.inr rfl
        · exact Or.inl member
  apply Option.ext
  intro found
  rw [← mem_entries_iff, assigned]
  by_cases here : other = key
  · rw [if_pos here]
    simp [here, eq_comm]
  · rw [if_neg here, ← mem_entries_iff]
    simp [here]

@[simp] theorem get?_assign_self (dict : OrderedDict κ α) (key : κ) (value : α) :
    (dict.assign key value).get? key = some value := by
  rw [get?_assign, if_pos rfl]

theorem get?_setDefault (dict : OrderedDict κ α) (key : κ) (value : α) (other : κ) :
    (dict.setDefault key value).get? other =
      if other = key then some ((dict.get? key).getD value) else dict.get? other := by
  rw [setDefault, contains]
  cases present : dict.get? key with
  | none =>
    simp only [Option.isSome_none, Bool.false_eq_true, if_false, Option.getD_none]
    exact get?_assign dict key value other
  | some =>
    simp only [Option.isSome_some, if_true, Option.getD_some]
    by_cases here : other = key
    · rw [if_pos here, here, present]
    · rw [if_neg here]

theorem mem_keys_iff {dict : OrderedDict κ α} {key : κ} : key ∈ dict.keys ↔ ∃ value, dict.get? key = some value := by
  simp only [keys, List.mem_map, Prod.exists, exists_and_right, exists_eq_right, mem_entries_iff]

theorem get?_foldl_assign (entries : List (κ × α)) (dict : OrderedDict κ α) (key : κ) :
    (entries.foldl (fun dict entry => dict.assign entry.1 entry.2) dict).get? key =
      ((entries.reverse.find? fun entry => decide (entry.1 = key)).map Prod.snd).or (dict.get? key) := by
  induction entries generalizing dict with
  | nil => rfl
  | cons entry rest ih =>
    rw [List.foldl_cons, ih, List.reverse_cons, List.find?_append, get?_assign]
    cases rest.reverse.find? fun entry => decide (entry.1 = key) with
    | some => rfl
    | none =>
      by_cases here : key = entry.1
      · simp [here]
      · have passed : entry.1 ≠ key := fun same => here same.symm
        simp [here, passed]

/-- A comprehension holds the last value given under a key. -/
theorem get?_ofEntries (entries : List (κ × α)) (key : κ) :
    (ofEntries entries).get? key = (entries.reverse.find? fun entry => decide (entry.1 = key)).map Prod.snd := by
  rw [ofEntries, get?_foldl_assign, get?_empty, Option.or_none]

/-- A comprehension with a value for each key holds these. -/
theorem get?_ofEntries_iff {entries : List (κ × α)} (distinct : (entries.map Prod.fst).Nodup) {key : κ}
    {value : α} : (ofEntries entries).get? key = some value ↔ (key, value) ∈ entries := by
  rw [get?_ofEntries, Option.map_eq_some_iff]
  constructor
  · rintro ⟨entry, found, rfl⟩
    have same : entry.1 = key := by simpa using List.find?_some found
    have member := List.mem_reverse.mp (List.mem_of_find?_eq_some found)
    rwa [← same]
  · intro member
    have there : (entries.reverse.find? fun entry => decide (entry.1 = key)).isSome := by
      rw [List.find?_isSome]
      exact ⟨(key, value), List.mem_reverse.mpr member, by simp⟩
    obtain ⟨entry, found⟩ := Option.isSome_iff_exists.mp there
    have same : entry.1 = key := by simpa using List.find?_some found
    have known := List.mem_reverse.mp (List.mem_of_find?_eq_some found)
    exact ⟨entry, found, congrArg Prod.snd (List.inj_on_of_nodup_map distinct known member same)⟩

end OrderedDict

/-- Sorted lists are equal if they have the same elements as often. -/
theorem mergeSort_eq_iff {left right : List String} :
    (left.mergeSort fun first second => decide (first ≤ second)) =
        right.mergeSort (fun first second => decide (first ≤ second)) ↔ left.Perm right := by
  have sorted (values : List String) :
      (values.mergeSort fun first second => decide (first ≤ second)).Pairwise fun first second =>
        decide (first ≤ second) = true := by
    refine List.pairwise_mergeSort ?_ ?_ values
    · intro first second third firstLe secondLe
      exact decide_eq_true (String.le_trans (of_decide_eq_true firstLe) (of_decide_eq_true secondLe))
    · intro first second
      simpa using String.le_total first second
  constructor
  · intro same
    exact ((List.mergeSort_perm left _).symm.trans (List.Perm.of_eq same)).trans (List.mergeSort_perm right _)
  · intro permuted
    refine List.Perm.eq_of_pairwise ?_ (sorted left) (sorted right)
      (((List.mergeSort_perm left _).trans permuted).trans (List.mergeSort_perm right _).symm)
    intro first second _ _ firstLe secondLe
    exact String.le_antisymm (of_decide_eq_true firstLe) (of_decide_eq_true secondLe)

/-- `sorted(set(values))`. -/
def sortedSet (values : List String) : List String :=
  values.dedup.mergeSort fun left right => decide (left ≤ right)

@[simp] theorem mem_sortedSet {values : List String} {value : String} : value ∈ sortedSet values ↔ value ∈ values := by
  rw [sortedSet, List.mem_mergeSort, List.mem_dedup]

theorem sortedSet_congr {left right : List String} (same : ∀ name, name ∈ left ↔ name ∈ right) :
    sortedSet left = sortedSet right := by
  refine mergeSort_eq_iff.mpr ((List.perm_ext_iff_of_nodup (List.nodup_dedup _) (List.nodup_dedup _)).mpr ?_)
  intro name
  rw [List.mem_dedup, List.mem_dedup, same]

end HardwareDatabase.Python
