/-
Module: HardwareDatabase.Relational.Paging
Purpose: A list that is read in pages, each of which looks at a part of the whole only.
Trusted boundary: none
-/
import Mathlib.Data.List.Nodup
import Mathlib.Data.Nat.Find

namespace Relational.Paging

variable {α : Type}

/-- The pages that a reader gets one after the other until one is empty. -/
structure Reads (page : Nat → List α) (pages : List (List α)) : Prop where
  each : ∀ number rows, pages[number]? = some rows → page number = rows
  filled : ∀ rows ∈ pages, rows ≠ []
  last : page pages.length = []

/-- The page of a window that begins at a multiple of the step. -/
def pageOf (window : Nat → List α) (step size number : Nat) : List α :=
  ((window number).drop (number * step)).take size

/-- The parts of the whole that the source looks at. -/
structure Windows (whole : List α) (window : Nat → List α) : Prop where
  nodup : whole.Nodup
  part : ∀ number, (window number).Sublist whole
  grows : ∀ {earlier later}, earlier ≤ later → window earlier ⊆ window later

/-! ### Parts -/

/-- An item of a part does not stand further in the part than in the whole. -/
theorem index_le {part whole : List α} (within : part.Sublist whole) (nodup : whole.Nodup) {first second : Nat}
    {item : α} (here : part[first]? = some item) (there : whole[second]? = some item) : first ≤ second := by
  induction within generalizing first second with
  | slnil => simp at here
  | cons other within ih =>
    obtain ⟨absent, rest⟩ := List.nodup_cons.mp nodup
    cases second with
    | zero =>
      cases there
      exact absurd (within.subset (List.mem_of_getElem? here)) absent
    | succ => exact Nat.le_succ_of_le (ih rest here there)
  | cons_cons other within ih =>
    obtain ⟨absent, rest⟩ := List.nodup_cons.mp nodup
    cases first with
    | zero => exact Nat.zero_le _
    | succ =>
      cases second with
      | zero =>
        cases there
        exact absurd (within.subset (List.mem_of_getElem? here)) absent
      | succ => exact Nat.succ_le_succ (ih rest here there)

theorem take_eq {part whole : List α} (within : part.Sublist whole) (nodup : whole.Nodup) {count : Nat}
    (holds : whole.take count ⊆ part) : part.take count = whole.take count := by
  induction within generalizing count with
  | slnil => rfl
  | cons other within =>
    obtain ⟨absent, rest⟩ := List.nodup_cons.mp nodup
    cases count with
    | zero => rfl
    | succ => exact absurd (within.subset (holds List.mem_cons_self)) absent
  | cons_cons other within ih =>
    obtain ⟨absent, rest⟩ := List.nodup_cons.mp nodup
    cases count with
    | zero => rfl
    | succ =>
      rw [List.take_succ_cons, List.take_succ_cons, ih rest]
      intro item member
      refine (List.mem_cons.mp (holds (List.mem_cons_of_mem other member))).resolve_left ?_
      rintro rfl
      exact absent (List.mem_of_mem_take member)

theorem flatMap_pieces (whole : List α) (step count : Nat) :
    (List.range count).flatMap (fun number => (whole.drop (number * step)).take step) =
      whole.take (count * step) := by
  induction count with
  | zero => simp
  | succ count ih =>
    rw [List.range_succ, List.flatMap_append, ih, List.flatMap_singleton, Nat.succ_mul, List.take_add]

/-! ### Reading the whole -/

variable {whole : List α} {window : Nat → List α} {step size : Nat} {pages : List (List α)}

theorem length_take_succ {number : Nat} {rows : List α} (here : pages[number]? = some rows) :
    (pages.take (number + 1)).flatten.length = (pages.take number).flatten.length + rows.length := by
  rw [List.take_add_one, here, List.flatten_append, List.length_append]
  simp

theorem getElem?_flatten {number index : Nat} {rows : List α} {item : α} (here : pages[number]? = some rows)
    (inside : rows[index]? = some item) : pages.flatten[(pages.take number).flatten.length + index]? = some item := by
  have split : pages.flatten = (pages.take number).flatten ++ (rows ++ (pages.drop (number + 1)).flatten) := by
    obtain ⟨bound, same⟩ := List.getElem?_eq_some_iff.mp here
    rw [← List.flatten_cons, ← same, ← List.drop_eq_getElem_cons bound, ← List.flatten_append, List.take_append_drop]
  have bound := (List.getElem?_eq_some_iff.mp inside).1
  rw [split, List.getElem?_append_right (Nat.le_add_right _ _), Nat.add_sub_cancel_left,
    List.getElem?_append_left bound, inside]

/-- Where the pages make up the whole, each begins at its multiple of the step. -/
theorem Windows.start_eq (windows : Windows whole window) (atMost : size ≤ step)
    (reads : Reads (pageOf window step size) pages) (all : pages.flatten = whole) {number : Nat}
    (read : number < pages.length) : (pages.take number).flatten.length = number * step := by
  have early : ∀ count ≤ number, (pages.take count).flatten.length ≤ count * size := by
    intro count within
    induction count with
    | zero => simp
    | succ count ih =>
      have here := List.getElem?_eq_getElem (Nat.lt_of_lt_of_le within (Nat.le_of_lt read))
      have short : pages[count].length ≤ size := by
        rw [← reads.each count _ here]
        exact List.length_take_le _ _
      rw [length_take_succ here, Nat.succ_mul]
      exact Nat.add_le_add (ih (Nat.le_of_succ_le within)) short
  have here := List.getElem?_eq_getElem read
  have first := reads.each number _ here
  obtain ⟨item, more, rows⟩ := List.exists_cons_of_ne_nil (reads.filled _ (List.getElem_mem read))
  have late : number * step ≤ (pages.take number).flatten.length := by
    refine @index_le _ _ _ (windows.part number) windows.nodup _ _ item ?_ ?_
    · have head : (pageOf window step size number)[0]? = some item := by rw [first, rows]; rfl
      rw [pageOf] at head
      obtain ⟨bound, same⟩ := List.getElem?_eq_some_iff.mp head
      rw [List.getElem_take, List.getElem_drop] at same
      rw [← same]
      exact (List.getElem?_eq_getElem _)
    · have head : pages[number][0]? = some item := by rw [rows]; rfl
      rw [← all]
      exact getElem?_flatten here head
  exact Nat.le_antisymm (Nat.le_trans (early number (Nat.le_refl _)) (Nat.mul_le_mul_left _ atMost)) late

/-- A window that has the first items of the whole gives its page of them. -/
theorem Windows.pageOf_eq (windows : Windows whole window) {number : Nat}
    (holds : whole.take (number * step + size) ⊆ window number) :
    pageOf window step size number = (whole.drop (number * step)).take size := by
  have same := take_eq (windows.part number) windows.nodup holds
  rw [pageOf, List.take_drop, List.take_drop, same]

/-- The pages make up the whole when a page is not smaller than its step, or holds the whole, and the window of each
page has the items that the page and those before it are to have. -/
theorem Windows.reads_iff (windows : Windows whole window) (positive : 0 < size) (atMost : size ≤ step) :
    (∃ pages, Reads (pageOf window step size) pages ∧ pages.flatten = whole) ↔ (size = step ∨ whole.length ≤ size) ∧
        ∀ number, number * step < whole.length → whole.take (number * step + size) ⊆ window number := by
  constructor
  · rintro ⟨pages, reads, all⟩
    have starts := fun number => @windows.start_eq _ _ _ _ _ _ atMost reads all number
    constructor
    · rcases Nat.lt_or_ge 1 pages.length with two | one
      · -- the second page begins after the first one
        left
        have here := List.getElem?_eq_getElem (Nat.lt_of_succ_lt two)
        have first := length_take_succ here
        rw [starts 1 two, starts 0 (Nat.lt_of_succ_lt two), ← reads.each 0 _ here, Nat.zero_mul, Nat.zero_add,
          Nat.one_mul] at first
        exact Nat.le_antisymm atMost (first ▸ List.length_take_le _ _)
      · right
        rw [← all]
        cases pages with
        | nil => exact Nat.zero_le _
        | cons rows others =>
          have none : others = [] := List.length_eq_zero_iff.mp (Nat.le_zero.mp (Nat.le_of_succ_le_succ one))
          rw [none, List.flatten_singleton, ← reads.each 0 rows rfl]
          exact List.length_take_le _ _
    · intro number _ item member
      obtain ⟨place, early, same⟩ := List.mem_take_iff_getElem.mp member
      obtain ⟨rows, read, inside⟩ := List.mem_flatten.mp (all ▸ List.mem_of_mem_take member)
      obtain ⟨page, bound, here⟩ := List.getElem_of_mem read
      obtain ⟨index, short, found⟩ := List.getElem_of_mem inside
      have listed : pages[page]? = some rows := by rw [List.getElem?_eq_getElem bound, here]
      have there := getElem?_flatten listed (by rw [List.getElem?_eq_getElem short, found])
      rw [all, starts page bound] at there
      have placed : whole[place]? = some item := by
        rw [List.getElem?_eq_getElem (Nat.lt_of_lt_of_le early (Nat.min_le_right _ _)), same]
      have equal : place = page * step + index :=
        (List.getElem?_inj (Nat.lt_of_lt_of_le early (Nat.min_le_right _ _)) windows.nodup).mp (placed.trans there.symm)
      have before : page * step < (number + 1) * step := by
        rw [Nat.succ_mul]
        exact Nat.lt_of_le_of_lt (equal ▸ Nat.le_add_right _ _)
          (Nat.lt_of_lt_of_le early (Nat.le_trans (Nat.min_le_left _ _) (Nat.add_le_add_left atMost _)))
      have within := Nat.le_of_lt_succ (Nat.lt_of_mul_lt_mul_right before)
      refine windows.grows within ?_
      rw [← reads.each page rows listed, pageOf] at inside
      exact List.mem_of_mem_drop (List.mem_of_mem_take inside)
  · rintro ⟨fits, holds⟩
    have enough : ∃ count, whole.length ≤ count * step :=
      ⟨whole.length, Nat.le_mul_of_pos_right _ (Nat.lt_of_lt_of_le positive atMost)⟩
    have covers := Nat.find_spec enough
    have least := fun number (less : number < Nat.find enough) => Nat.lt_of_not_le (Nat.find_min enough less)
    refine ⟨(List.range (Nat.find enough)).map (pageOf window step size), ⟨?_, ?_, ?_⟩, ?_⟩
    · intro number rows listed
      rw [List.getElem?_map] at listed
      obtain ⟨same, found, rfl⟩ := Option.map_eq_some_iff.mp listed
      obtain ⟨bound, equal⟩ := List.getElem?_eq_some_iff.mp found
      rw [← equal, List.getElem_range]
    · intro rows member
      obtain ⟨number, less, rfl⟩ := List.mem_map.mp member
      have inside := least number (List.mem_range.mp less)
      rw [windows.pageOf_eq (holds number inside)]
      exact List.ne_nil_of_length_pos (by rw [List.length_take, List.length_drop]; omega)
    · have short := Nat.le_trans (windows.part (Nat.find enough)).length_le covers
      rw [List.length_map, List.length_range, pageOf, List.drop_eq_nil_of_le short, List.take_nil]
    · rw [← List.flatMap_def]
      have pieces : (List.range (Nat.find enough)).flatMap (pageOf window step size) =
          (List.range (Nat.find enough)).flatMap fun number => (whole.drop (number * step)).take step := by
        refine List.flatMap_congr fun number less => ?_
        have inside := least number (List.mem_range.mp less)
        rw [windows.pageOf_eq (holds number inside)]
        rcases fits with same | small
        · rw [same]
        · have length : (whole.drop (number * step)).length ≤ size := by
            rw [List.length_drop]
            omega
          rw [List.take_of_length_le length, List.take_of_length_le (Nat.le_trans length atMost)]
      rw [pieces, flatMap_pieces, List.take_of_length_le covers]

end Relational.Paging
