/-
Module: HardwareDatabase.Relational.Growth
Purpose: Lists that grow, as sets, inside a finite universe: what is added was not there, so a loop that repeats a
  growing step until nothing is added comes to an end.
Trusted boundary: none
-/
import Mathlib.Data.Finset.Card

namespace Relational

variable {α : Type} [DecidableEq α]

/-- `known.add(item)`. -/
def insertNew (item : α) (known : List α) : List α :=
  if item ∈ known then known else item :: known

omit [DecidableEq α] in
/-- What is new comes from the universe and was not there. -/
def Grows (bound known after : List α) : Prop :=
  ∃ added, after = added ++ known ∧ ∀ item ∈ added, item ∈ bound ∧ item ∉ known

section Grows

variable {bound known middle after : List α}

omit [DecidableEq α]

theorem Grows.refl (bound known : List α) : Grows bound known known :=
  ⟨[], rfl, nofun⟩

theorem Grows.trans (first : Grows bound known middle) (second : Grows bound middle after) :
    Grows bound known after := by
  obtain ⟨early, rfl, earlyNew⟩ := first
  obtain ⟨late, rfl, lateNew⟩ := second
  refine ⟨late ++ early, by simp, ?_⟩
  intro item member
  rcases List.mem_append.mp member with inLate | inEarly
  · obtain ⟨inBound, absent⟩ := lateNew item inLate
    exact ⟨inBound, fun there => absent (List.mem_append_right _ there)⟩
  · exact earlyNew item inEarly

theorem Grows.subset (grows : Grows bound known after) : known ⊆ after := by
  obtain ⟨added, rfl, -⟩ := grows
  exact List.subset_append_right added known

theorem Grows.eq_of_length (grows : Grows bound known after) (same : after.length = known.length) : after = known := by
  obtain ⟨added, rfl, -⟩ := grows
  have none : added = [] := List.length_eq_zero_iff.mp (by simpa using same)
  rw [none, List.nil_append]

end Grows

theorem grows_insertNew {bound : List α} {item : α} (inBound : item ∈ bound) (known : List α) :
    Grows bound known (insertNew item known) := by
  rw [insertNew]
  split
  · exact Grows.refl bound known
  · rename_i absent
    refine ⟨[item], rfl, ?_⟩
    intro other member
    obtain rfl := List.mem_singleton.mp member
    exact ⟨inBound, absent⟩

/-- What of the universe is not there. -/
def missing (bound known : List α) : Finset α :=
  bound.toFinset \ known.toFinset

/-- What has become longer misses less. -/
theorem Grows.card_missing_lt {bound known after : List α} (grows : Grows bound known after)
    (grown : after.length ≠ known.length) : (missing bound after).card < (missing bound known).card := by
  have within := grows.subset
  obtain ⟨added, rfl, new⟩ := grows
  cases added with
  | nil => exact absurd rfl grown
  | cons item =>
    obtain ⟨inBound, absent⟩ := new item List.mem_cons_self
    refine Finset.card_lt_card ((Finset.ssubset_iff_of_subset ?_).mpr ⟨item, ?_, ?_⟩)
    · refine Finset.sdiff_subset_sdiff (Finset.Subset.refl _) ?_
      intro known member
      exact List.mem_toFinset.mpr (within (List.mem_toFinset.mp member))
    · simp [missing, absent, inBound]
    · simp [missing]

end Relational
