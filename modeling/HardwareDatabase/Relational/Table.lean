/-
Module: HardwareDatabase.Relational.Table
Purpose: Tables of a relational store as finite row lists, with the statements of transactions, aggregates and primary
  keys.
Trusted boundary: none
-/
import Mathlib.Algebra.GroupWithZero.Nat
import Mathlib.Data.List.Nodup
import Mathlib.Data.List.Forall2

namespace Relational

variable {α β κ : Type}

/-- `UPDATE rows SET .. WHERE p`: `f` computes the new row. -/
def updateWhere (p : α → Bool) (f : α → α) (rows : List α) : List α :=
  rows.map fun row => if p row then f row else row

/-- `DELETE FROM rows WHERE p`. -/
def deleteWhere (p : α → Bool) (rows : List α) : List α :=
  rows.filter fun row => !p row

/-- `SELECT COALESCE(MAX(column), 0) FROM rows`: `NULL` entries do not count. -/
def coalesceMax (column : α → Option Nat) (rows : List α) : Nat :=
  (rows.filterMap column).foldr max 0

/-- `SELECT COALESCE(SUM(weight), 0) FROM rows WHERE p`. -/
def sumWhere (p : α → Bool) (weight : α → Nat) (rows : List α) : Nat :=
  ((rows.filter p).map weight).sum

/-- `SELECT .. FROM rows ORDER BY .. LIMIT 1`, where `precedes` compares the ordering columns. -/
def firstBy (precedes : α → α → Bool) : List α → Option α
  | [] => none
  | row :: rest =>
    match firstBy precedes rest with
    | none => some row
    | some best => if precedes best row then some best else some row

/-! ### Rows after an update -/

variable {row : α} {rows : List α} {f : α → α} {p : α → Bool}

theorem mem_updateWhere :
    row ∈ updateWhere p f rows ↔ (∃ old ∈ rows, p old = true ∧ row = f old) ∨ (row ∈ rows ∧ p row = false) := by
  simp only [updateWhere, List.mem_map]
  constructor
  · rintro ⟨old, member, rfl⟩
    by_cases selected : p old = true
    · exact Or.inl ⟨old, member, selected, by simp [selected]⟩
    · exact Or.inr (by simp [selected, member])
  · rintro (⟨old, member, selected, rfl⟩ | ⟨member, skipped⟩)
    · exact ⟨old, member, by simp [selected]⟩
    · exact ⟨row, member, by simp [skipped]⟩

/-- Every row after an update comes from exactly one row before it. -/
theorem exists_of_mem_updateWhere (member : row ∈ updateWhere p f rows) :
    ∃ old ∈ rows, row = if p old then f old else old := by
  obtain ⟨old, oldMember, rfl⟩ := List.mem_map.mp member
  exact ⟨old, oldMember, rfl⟩

/-- Every row before an update survives, possibly rewritten. -/
theorem mem_updateWhere_of_mem (member : row ∈ rows) : (if p row then f row else row) ∈ updateWhere p f rows :=
  List.mem_map.mpr ⟨row, member, rfl⟩

/-- An update changes nothing exactly if it rewrites no selected row. -/
theorem updateWhere_eq_self_iff : updateWhere p f rows = rows ↔ ∀ row ∈ rows, p row = true → f row = row := by
  have same : rows.map id = rows := List.map_id rows
  rw [updateWhere]
  conv_lhs => rhs; rw [← same]
  rw [List.map_inj_left]
  refine forall₂_congr fun row _ => ?_
  by_cases selected : p row = true
  · simp [selected]
  · simp [selected]

theorem updateWhere_eq_self (none : ∀ row ∈ rows, p row = true → f row = row) : updateWhere p f rows = rows :=
  updateWhere_eq_self_iff.mpr none

@[simp] theorem updateWhere_nil (p : α → Bool) (f : α → α) : updateWhere p f [] = [] := rfl

theorem map_updateWhere {column : α → β} (rows : List α) (keeps : ∀ row, column (f row) = column row) :
    (updateWhere p f rows).map column = rows.map column := by
  rw [updateWhere, List.map_map]
  apply List.map_congr_left
  intro row _
  simp only [Function.comp_apply]
  split <;> simp [keeps]

theorem mem_deleteWhere : row ∈ deleteWhere p rows ↔ row ∈ rows ∧ p row = false := by
  simp [deleteWhere]

theorem mem_of_mem_deleteWhere (member : row ∈ deleteWhere p rows) : row ∈ rows :=
  (mem_deleteWhere.mp member).1

variable {q : α → Bool}

/-- Updates that select different rows, none of which the first one produces, are one update. -/
theorem updateWhere_updateWhere (rows : List α) (apart : ∀ row, p row = true → q (f row) = false) :
    updateWhere q f (updateWhere p f rows) = updateWhere (fun row => p row || q row) f rows := by
  rw [updateWhere, updateWhere, updateWhere, List.map_map]
  apply List.map_congr_left
  intro row _
  by_cases selected : p row = true
  · simp [selected, apart row selected]
  · simp [selected]

theorem updateWhere_comp {g : α → α} (rows : List α) (keeps : ∀ row, p (f row) = p row) :
    updateWhere p g (updateWhere p f rows) = updateWhere p (fun row => g (f row)) rows := by
  rw [updateWhere, updateWhere, updateWhere, List.map_map]
  apply List.map_congr_left
  intro row _
  by_cases selected : p row = true
  · simp [selected, keeps]
  · simp [selected]

theorem updateWhere_congr {g : α → α}
    (same : ∀ row ∈ rows, (if p row then f row else row) = if q row then g row else row) :
    updateWhere p f rows = updateWhere q g rows :=
  List.map_congr_left same

/-- Rows that an update never selects, before or after, are the same rows in the same order. -/
theorem filter_updateWhere (rows : List α)
    (before : ∀ row ∈ rows, p row = true → q row = false) (after : ∀ row ∈ rows, p row = true → q (f row) = false) :
    (updateWhere p f rows).filter q = rows.filter q := by
  induction rows with
  | nil => rfl
  | cons head tail ih =>
    have rest := ih (fun row member => before row (by simp [member]))
      (fun row member => after row (by simp [member]))
    simp only [updateWhere, List.map_cons] at rest ⊢
    by_cases selected : p head = true
    · simp [selected, before head (by simp) selected, after head (by simp) selected, rest]
    · simp [selected, List.filter_cons, rest]

/-- A selection by columns that an update keeps selects the updated rows. -/
theorem filter_updateWhere_comm (rows : List α) (keeps : ∀ row, q (f row) = q row) :
    (updateWhere p f rows).filter q = updateWhere p f (rows.filter q) := by
  have same : q ∘ (fun row => if p row then f row else row) = q := by
    funext row
    simp only [Function.comp_apply]
    split
    · exact keeps row
    · rfl
  rw [updateWhere, updateWhere, List.filter_map, same]

/-- An update of rows that a lookup passes over, before and after, does not change what it finds. -/
theorem find?_updateWhere (rows : List α) (before : ∀ row, p row = true → q row = false)
    (after : ∀ row, p row = true → q (f row) = false) : (updateWhere p f rows).find? q = rows.find? q := by
  induction rows with
  | nil => rfl
  | cons row rest ih =>
    simp only [updateWhere, List.map_cons, List.find?_cons] at ih ⊢
    by_cases selected : p row = true
    · rw [if_pos selected, before row selected, after row selected]
      exact ih
    · rw [if_neg selected, ih]

/-- An update of the selected rows that keeps them selected rewrites what a lookup finds. -/
theorem find?_updateWhere_self (rows : List α) (keeps : ∀ row, q row = true → q (f row) = true) :
    (updateWhere q f rows).find? q = (rows.find? q).map f := by
  induction rows with
  | nil => rfl
  | cons row rest ih =>
    simp only [updateWhere, List.map_cons, List.find?_cons] at ih ⊢
    by_cases selected : q row = true
    · rw [if_pos selected, selected, keeps row selected, Option.map_some]
    · rw [if_neg selected, ih]
      simp [selected]

theorem filter_deleteWhere (rows : List α)
    (apart : ∀ row, p row = true → q row = false) : (deleteWhere p rows).filter q = rows.filter q := by
  rw [deleteWhere, List.filter_filter]
  apply List.filter_congr
  intro row _
  by_cases selected : p row = true
  · simp [selected, apart row selected]
  · simp [selected]

variable {σ : Type}

/-- Stores that agree outside what a statement writes agree on every other part. -/
theorem eq_of_frame (part : σ → β) {rest : σ → σ} {before after : σ}
    (frame : rest after = rest before) (blind : ∀ state, part (rest state) = part state) :
    part after = part before := by
  rw [← blind after, frame, blind before]

/-- A loop of statements leaves every part of the store that each statement leaves. -/
theorem foldl_keeps {step : σ → α → σ} (part : σ → β)
    (keeps : ∀ state row, part (step state row) = part state) (rows : List α) (state : σ) :
    part (rows.foldl step state) = part state := by
  induction rows generalizing state with
  | nil => rfl
  | cons head tail ih =>
    rw [List.foldl_cons, ih, keeps]

/-- An invariant of a loop. `allowed` is what the loop has to know about the rows it still visits. -/
theorem foldl_guarded {step : σ → α → σ} (inv : σ → Prop) (allowed : σ → α → Prop)
    (one : ∀ state row, inv state → allowed state row → inv (step state row))
    (keeps : ∀ state row other, inv state → allowed state row → allowed state other → allowed (step state row) other)
    {state : σ} (start : inv state) (all : ∀ row ∈ rows, allowed state row) : inv (rows.foldl step state) := by
  induction rows generalizing state with
  | nil => exact start
  | cons head tail ih =>
    have here := all head (by simp)
    apply ih (one state head start here)
    intro other member
    exact keeps state head other start here (all other (by simp [member]))

variable {ε γ δ : Type}

/-- A projected result comes from a result. -/
theorem exists_of_map_eq_ok {f : γ → δ} {attempt : Except ε γ} {result : δ}
    (done : attempt.map f = .ok result) : ∃ value, attempt = .ok value ∧ f value = result := by
  cases attempt with
  | error => cases done
  | ok value => exact ⟨value, rfl, by simpa [Except.map] using done⟩

/-- What an exception is turned into does not change a result. -/
theorem eq_ok_of_mapError {convert : ε → δ} {attempt : Except ε γ} {result : γ}
    (done : attempt.mapError convert = .ok result) : attempt = .ok result := by
  cases attempt with
  | error => cases done
  | ok => exact congrArg Except.ok (Except.ok.inj done)

/-- A sequence that does not raise had a first statement that did not. -/
theorem exists_of_bind_eq_ok {attempt : Except ε γ} {next : γ → Except ε δ} {result : δ}
    (done : attempt >>= next = .ok result) : ∃ value, attempt = .ok value ∧ next value = .ok result := by
  cases attempt with
  | error => cases done
  | ok value => exact ⟨value, rfl, done⟩

/-- A loop that may raise succeeds item by item. -/
theorem mapM_eq_ok_iff {f : γ → Except ε δ} {items : List γ} {results : List δ} :
    items.mapM f = .ok results ↔ List.Forall₂ (fun item result => f item = .ok result) items results := by
  induction items generalizing results with
  | nil =>
    rw [List.mapM_nil, List.forall₂_nil_left_iff]
    constructor
    · rintro ⟨⟩
      rfl
    · rintro rfl
      rfl
  | cons item rest ih =>
    rw [List.mapM_cons]
    constructor
    · intro done
      obtain ⟨first, head, done⟩ := exists_of_bind_eq_ok done
      obtain ⟨others, tail, done⟩ := exists_of_bind_eq_ok done
      cases done
      exact .cons head (ih.mp tail)
    · intro each
      cases each with
      | cons head tail =>
        rw [head, ih.mpr tail]
        rfl

/-- A loop that may raise succeeds exactly when each of its items does. -/
theorem exists_mapM_eq_ok_iff {f : γ → Except ε δ} {items : List γ} :
    (∃ results, items.mapM f = .ok results) ↔ ∀ item ∈ items, ∃ result, f item = .ok result := by
  induction items with
  | nil => exact ⟨fun _ _ member => (by cases member), fun _ => ⟨[], rfl⟩⟩
  | cons item rest ih =>
    rw [List.forall_mem_cons, ← ih]
    constructor
    · rintro ⟨results, done⟩
      cases mapM_eq_ok_iff.mp done with
      | cons head tail => exact ⟨⟨_, head⟩, ⟨_, mapM_eq_ok_iff.mpr tail⟩⟩
    · rintro ⟨⟨first, head⟩, ⟨others, tail⟩⟩
      exact ⟨first :: others, mapM_eq_ok_iff.mpr (.cons head (mapM_eq_ok_iff.mp tail))⟩

/-- A loop whose statement succeeds on some items, with a known result. -/
theorem mapM_eq_ok_iff_map {f : γ → Except ε δ} {Allowed : γ → Prop} {result : γ → δ}
    (each : ∀ item value, f item = .ok value ↔ Allowed item ∧ value = result item) {items : List γ} {results : List δ} :
    items.mapM f = .ok results ↔ (∀ item ∈ items, Allowed item) ∧ results = items.map result := by
  rw [mapM_eq_ok_iff]
  induction items generalizing results with
  | nil =>
    rw [List.forall₂_nil_left_iff]
    exact ⟨fun empty => ⟨nofun, empty⟩, fun known => known.2⟩
  | cons item rest ih =>
    rw [List.forall₂_cons_left_iff, List.forall_mem_cons, List.map_cons]
    constructor
    · rintro ⟨value, values, head, tail, rfl⟩
      obtain ⟨allowed, rfl⟩ := (each item value).mp head
      obtain ⟨others, rfl⟩ := ih.mp tail
      exact ⟨⟨allowed, others⟩, rfl⟩
    · rintro ⟨⟨allowed, others⟩, rfl⟩
      exact ⟨_, _, (each item _).mpr ⟨allowed, rfl⟩, ih.mpr ⟨others, rfl⟩, rfl⟩

/-- An invariant of a loop whose statements may raise. -/
theorem foldlM_keeps {step : σ → α → Except ε σ} (inv : σ → Prop)
    (one : ∀ state after, ∀ row ∈ rows, inv state → step state row = .ok after → inv after)
    {state after : σ} (start : inv state) (done : rows.foldlM step state = .ok after) : inv after := by
  induction rows generalizing state with
  | nil =>
    cases done
    exact start
  | cons head tail ih =>
    rw [List.foldlM_cons] at done
    cases first : step state head with
    | error => simp [first, bind, Except.bind] at done
    | ok next =>
      simp only [first, bind, Except.bind] at done
      apply ih _ (one state next head (by simp) start first) done
      intro state after row member
      exact one state after row (by simp [member])

/-! ### The first row of an ordering -/

theorem mem_of_firstBy {precedes : α → α → Bool} (first : firstBy precedes rows = some row) : row ∈ rows := by
  induction rows with
  | nil => simp [firstBy] at first
  | cons head tail ih =>
    simp only [firstBy] at first
    cases best : firstBy precedes tail with
    | none => simp_all
    | some =>
      simp only [best] at first
      split at first
      · exact List.mem_cons_of_mem _ (ih (by rw [best, first]))
      · simp_all

theorem eq_nil_of_firstBy {precedes : α → α → Bool} (first : firstBy precedes rows = none) : rows = [] := by
  cases rows with
  | nil => rfl
  | cons =>
    simp only [firstBy] at first
    split at first
    · simp at first
    · split at first <;> simp at first

/-! ### The maximum of a column -/

theorem le_coalesceMax {column : α → Option Nat} {value : Nat}
    (member : row ∈ rows) (stored : column row = some value) : value ≤ coalesceMax column rows := by
  have listed : value ∈ rows.filterMap column := List.mem_filterMap.mpr ⟨row, member, stored⟩
  rw [coalesceMax]
  generalize rows.filterMap column = values at listed
  induction values with
  | nil => simp at listed
  | cons head tail ih =>
    rcases List.mem_cons.mp listed with rfl | later
    · exact Nat.le_max_left _ _
    · exact Nat.le_trans (ih later) (Nat.le_max_right _ _)

/-! ### Primary keys -/

/-- `key` is a primary key of `rows`: no two rows share it. -/
def UniqueOn (key : α → κ) (rows : List α) : Prop :=
  (rows.map key).Nodup

namespace UniqueOn

variable {key : α → κ} {rows : List α}

@[simp] theorem nil (key : α → κ) : UniqueOn key ([] : List α) := by
  simp [UniqueOn]

/-- Two rows with the same primary key are the same row. -/
theorem eq_of_key {left right : α} (unique : UniqueOn key rows) (leftMember : left ∈ rows)
    (rightMember : right ∈ rows) (same : key left = key right) : left = right :=
  List.inj_on_of_nodup_map unique leftMember rightMember same

/-- Selecting by primary key finds the one row that has it. -/
theorem find?_eq [DecidableEq κ] (unique : UniqueOn key rows) (member : row ∈ rows) :
    rows.find? (fun other => key other == key row) = some row := by
  cases found : rows.find? (fun other => key other == key row) with
  | none =>
    have missing := List.find?_eq_none.mp found row member
    simp at missing
  | some =>
    have selected := List.find?_some found
    have otherMember := List.mem_of_find?_eq_some found
    rw [unique.eq_of_key otherMember member (by simpa using selected)]

/-- Selecting by primary key and a condition that the row meets. -/
theorem find?_and_eq [DecidableEq κ] (unique : UniqueOn key rows) (member : row ∈ rows) (holds : p row = true) :
    rows.find? (fun other => key other == key row && p other) = some row := by
  cases found : rows.find? (fun other => key other == key row && p other) with
  | none =>
    have missing := List.find?_eq_none.mp found row member
    simp [holds] at missing
  | some =>
    have selected := List.find?_some found
    have otherMember := List.mem_of_find?_eq_some found
    simp only [Bool.and_eq_true, beq_iff_eq] at selected
    rw [unique.eq_of_key otherMember member selected.1]

theorem filter_eq [DecidableEq κ] (unique : UniqueOn key rows) (member : row ∈ rows) :
    rows.filter (fun other => key other == key row) = [row] := by
  induction rows with
  | nil => simp at member
  | cons head tail ih =>
    rw [UniqueOn, List.map_cons, List.nodup_cons] at unique
    obtain ⟨fresh, uniqueTail⟩ := unique
    rcases List.mem_cons.mp member with rfl | later
    · have noOther : tail.filter (fun other => key other == key row) = [] := by
        apply List.filter_eq_nil_iff.mpr
        intro other otherMember same
        simp only [beq_iff_eq] at same
        exact fresh (List.mem_map.mpr ⟨other, otherMember, same⟩)
      simp [noOther]
    · have different : key head ≠ key row := by
        intro same
        exact fresh (List.mem_map.mpr ⟨row, later, same.symm⟩)
      simp [different, ih uniqueTail later]

/-- An update under a primary key moves a count by the one row that has it. -/
theorem countP_updateWhere [DecidableEq κ] (unique : UniqueOn key rows) (member : row ∈ rows) (q : α → Bool) :
    (Relational.updateWhere (fun other => key other == key row) f rows).countP q + (if q row then 1 else 0) =
      rows.countP q + (if q (f row) then 1 else 0) := by
  induction rows with
  | nil => simp at member
  | cons head tail ih =>
    rw [UniqueOn, List.map_cons, List.nodup_cons] at unique
    obtain ⟨fresh, uniqueTail⟩ := unique
    simp only [Relational.updateWhere, List.map_cons, List.countP_cons] at ih ⊢
    rcases List.mem_cons.mp member with rfl | later
    · -- the key does not occur in the tail
      have untouched : Relational.updateWhere (fun other => key other == key row) f tail = tail := by
        apply updateWhere_eq_self
        intro other otherMember same
        exact absurd (List.mem_map.mpr ⟨other, otherMember, beq_iff_eq.mp same⟩) fresh
      rw [Relational.updateWhere] at untouched
      rw [untouched, if_pos (beq_self_eq_true _)]
      omega
    · have different : (key head == key row) = false := by
        rw [beq_eq_false_iff_ne]
        intro same
        exact fresh (List.mem_map.mpr ⟨row, later, same.symm⟩)
      have rest := ih uniqueTail later
      simp only [different, Bool.false_eq_true, if_false]
      omega

theorem updateWhere (unique : UniqueOn key rows)
    (keeps : ∀ row, key (f row) = key row) : UniqueOn key (updateWhere p f rows) := by
  rw [UniqueOn, map_updateWhere rows keeps]
  exact unique

/-- A row that is replaced under its primary key keeps every column that the new row keeps. -/
theorem map_replace {ι : Type} [DecidableEq κ] {current revised : α} {column : α → ι}
    (unique : UniqueOn key rows) (member : current ∈ rows) (kept : column revised = column current) :
    (Relational.updateWhere (fun row => key row == key current) (fun _ => revised) rows).map column =
      rows.map column := by
  rw [Relational.updateWhere, List.map_map]
  apply List.map_congr_left
  intro row rowMember
  by_cases same : key row = key current
  · obtain rfl := unique.eq_of_key rowMember member same
    simp [kept]
  · simp [same]

theorem deleteWhere (unique : UniqueOn key rows) : UniqueOn key (deleteWhere p rows) :=
  unique.sublist (List.filter_sublist.map key)

theorem append (unique : UniqueOn key rows) (unused : ∀ other ∈ rows, key other ≠ key row) :
    UniqueOn key (rows ++ [row]) := by
  rw [UniqueOn, List.map_append, List.map_singleton, List.nodup_append]
  refine ⟨unique, List.nodup_singleton _, ?_⟩
  intro old oldMember new newMember
  obtain ⟨other, otherMember, rfl⟩ := List.mem_map.mp oldMember
  rw [List.mem_singleton.mp newMember]
  exact unused other otherMember

end UniqueOn

/-! ### Sums -/

@[simp] theorem sumWhere_nil (p : α → Bool) (weight : α → Nat) : sumWhere p weight [] = 0 := rfl

theorem sumWhere_cons (p : α → Bool) (weight : α → Nat) (row : α) (rows : List α) :
    sumWhere p weight (row :: rows) = (if p row then weight row else 0) + sumWhere p weight rows := by
  rw [sumWhere, List.filter_cons]
  split
  · simp [sumWhere]
  · simp [sumWhere]

/-- Where every row weighs one, the sum counts the rows. -/
theorem sumWhere_eq_countP {weight : α → Nat}
    (single : ∀ row ∈ rows, weight row = 1) : sumWhere p weight rows = rows.countP p := by
  induction rows with
  | nil => rfl
  | cons head tail ih =>
    rw [sumWhere_cons, List.countP_cons, single head (by simp),
      ih fun row member => single row (by simp [member]), Nat.add_comm]

end Relational
