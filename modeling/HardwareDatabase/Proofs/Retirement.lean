/-
Module: HardwareDatabase.Proofs.Retirement
Purpose: Retiring the projections of a memory: one bulk update of the projection table and one deletion request per
  projection.
Trusted boundary: none
-/
import HardwareDatabase.Memory.Catalog

namespace HardwareDatabase.Memory

open Relational

/-! ### One projection -/

/-- Everything but the projections, the deletion outbox and the id supply. -/
def Tables.withoutProjections (tables : Tables) : Tables :=
  { tables with projections := [], deletionOutbox := [], nextId := 0 }

theorem retireRow_withoutProjections (expectedRevision : Nat) (ref reason : String) (now : Time)
    (tables : Tables) (row : Projection) : (retireRow expectedRevision ref reason now tables row).withoutProjections =
      tables.withoutProjections := rfl

/-- The row of a projection after its retirement. -/
def Projection.retired (now : Time) (row : Projection) : Projection :=
  row.retire (row.fenceVersion + 1) now

section OneRow

variable {expectedRevision : Nat} {ref reason : String} {now : Time} {tables : Tables}
  {row : Projection}

theorem retireRow_projections (unique : UniqueOn Projection.projectionId tables.projections)
    (member : row ∈ tables.projections) (unretired : row.retiredAt.isNone = true) :
    (retireRow expectedRevision ref reason now tables row).projections =
      updateWhere (fun other => other == row) (Projection.retired now) tables.projections := by
  apply updateWhere_congr
  intro other otherMember
  by_cases sameId : other.projectionId = row.projectionId
  · have same : other = row := unique.eq_of_key otherMember member sameId
    simp [same, unretired, Projection.retired]
  · have different : other ≠ row := fun same => sameId (by rw [same])
    simp [sameId, different]

theorem retireProjection_eq (unique : UniqueOn Projection.projectionId tables.projections)
    (member : row ∈ tables.projections) (unretired : row.retiredAt.isNone = true) :
    retireProjection reason now tables row.projectionId =
      retireRow row.currentRevision reason reason now tables row := by
  have found : tables.projections.find? (fun other =>
      other.projectionId == row.projectionId && other.retiredAt.isNone) = some row := by
    cases selected : tables.projections.find? (fun other =>
        other.projectionId == row.projectionId && other.retiredAt.isNone) with
    | none =>
      have missing := List.find?_eq_none.mp selected row member
      simp [unretired] at missing
    | some other =>
      have otherMember := List.mem_of_find?_eq_some selected
      have chosen := List.find?_some selected
      simp only [Bool.and_eq_true, beq_iff_eq] at chosen
      rw [unique.eq_of_key otherMember member chosen.1]
  simp only [retireProjection, found]

end OneRow

/-! ### All projections of a memory -/

/-- The loop over a list of projection rows, each with the revision its deletion expects. -/
def retireRows (expected : Projection → Nat) (ref reason : String) (now : Time) (tables : Tables)
    (rows : List Projection) : Tables :=
  rows.foldl (fun tables row => retireRow (expected row) ref reason now tables row) tables

/-- Fence and queue every unretired projection of a memory. -/
def retireAll (expected : Projection → Nat) (ref reason : String) (now : Time) (tables : Tables)
    (memoryId : Nat) : Tables :=
  retireRows expected ref reason now tables (unretiredProjections tables memoryId)

variable {tables : Tables}

section AllRows

variable {expected : Projection → Nat} {ref reason : String} {now : Time}

theorem retireRows_withoutProjections (tables : Tables) (rows : List Projection) :
    (retireRows expected ref reason now tables rows).withoutProjections = tables.withoutProjections :=
  foldl_keeps Tables.withoutProjections
    (fun state row => retireRow_withoutProjections (expected row) ref reason now state row) rows
    tables

theorem retireAll_withoutProjections (expected : Projection → Nat) (ref reason : String)
    (now : Time) (tables : Tables) (memoryId : Nat) :
    (retireAll expected ref reason now tables memoryId).withoutProjections = tables.withoutProjections :=
  retireRows_withoutProjections tables _

private theorem retireRow_mem_rest {row other : Projection} {expectedRevision : Nat}
    (unique : UniqueOn Projection.projectionId tables.projections)
    (member : row ∈ tables.projections) (unretired : row.retiredAt.isNone = true)
    (otherMember : other ∈ tables.projections) (different : other ≠ row) :
    other ∈ (retireRow expectedRevision ref reason now tables row).projections := by
  rw [retireRow_projections unique member unretired]
  exact mem_updateWhere.mpr (Or.inr ⟨otherMember, by simp [different]⟩)

theorem uniqueProjections_retireRow {row : Projection} {expectedRevision : Nat}
    (unique : UniqueOn Projection.projectionId tables.projections) :
    UniqueOn Projection.projectionId (retireRow expectedRevision ref reason now tables row).projections :=
  unique.updateWhere (fun _ => rfl)

theorem retireRows_projections {rows : List Projection} (distinct : rows.Nodup)
    (unique : UniqueOn Projection.projectionId tables.projections) (members : ∀ row ∈ rows, row ∈ tables.projections)
    (unretired : ∀ row ∈ rows, row.retiredAt.isNone = true) :
    (retireRows expected ref reason now tables rows).projections =
      updateWhere (fun other => decide (other ∈ rows)) (Projection.retired now) tables.projections := by
  -- the rows already visited are retired and so never visited again
  induction rows generalizing tables with
  | nil => simp [retireRows, updateWhere]
  | cons row rest ih =>
    obtain ⟨fresh, restDistinct⟩ := List.nodup_cons.mp distinct
    have rowMember := members row (by simp)
    have rowUnretired := unretired row (by simp)
    have visited := @ih (retireRow (expected row) ref reason now tables row)
      restDistinct (uniqueProjections_retireRow unique)
      (by
        intro other otherMember
        apply retireRow_mem_rest unique rowMember rowUnretired (members other (by simp [otherMember]))
        rintro rfl
        exact fresh otherMember)
      (fun other otherMember => unretired other (by simp [otherMember]))
    rw [retireRows, List.foldl_cons]
    rw [retireRows] at visited
    rw [visited, retireRow_projections unique rowMember rowUnretired, updateWhere_updateWhere]
    · apply updateWhere_congr
      intro other _
      simp
    · intro other selected
      simp only [beq_iff_eq] at selected
      subst selected
      simp only [decide_eq_false_iff_not]
      intro again
      have contradiction := unretired _ (List.mem_cons_of_mem _ again)
      simp [Projection.retired, Projection.retire] at contradiction

theorem retireAll_projections (expected : Projection → Nat) (ref reason : String) (now : Time)
    (unique : UniqueOn Projection.projectionId tables.projections) (memoryId : Nat) :
    (retireAll expected ref reason now tables memoryId).projections =
      updateWhere (Projection.unretiredOf memoryId) (Projection.retired now) tables.projections := by
  rw [retireAll, retireRows_projections]
  · apply updateWhere_congr
    intro row member
    simp [unretiredProjections, member]
  · exact (List.Nodup.of_map _ unique).filter _
  · exact unique
  · exact fun row member => (List.mem_filter.mp member).1
  · intro row member
    have selected := (List.mem_filter.mp member).2
    simp only [Projection.unretiredOf, Bool.and_eq_true] at selected
    exact selected.2

/-- The loop of the governance operations re-reads each row by its id. -/
theorem governed_retirement_eq (unique : UniqueOn Projection.projectionId tables.projections) (memoryId : Nat) :
    ((unretiredProjections tables memoryId).map Projection.projectionId).foldl (retireProjection reason now) tables =
      retireAll Projection.currentRevision reason reason now tables memoryId := by
  rw [retireAll, retireRows, List.foldl_map]
  have members : ∀ row ∈ unretiredProjections tables memoryId, row ∈ tables.projections :=
    fun row member => (List.mem_filter.mp member).1
  have unretired : ∀ row ∈ unretiredProjections tables memoryId, row.retiredAt.isNone = true := by
    intro row member
    have selected := (List.mem_filter.mp member).2
    simp only [Projection.unretiredOf, Bool.and_eq_true] at selected
    exact selected.2
  have distinct : (unretiredProjections tables memoryId).Nodup :=
    (List.Nodup.of_map _ unique).filter _
  generalize unretiredProjections tables memoryId = rows at members unretired distinct
  induction rows generalizing tables with
  | nil => rfl
  | cons row rest ih =>
    obtain ⟨fresh, restDistinct⟩ := List.nodup_cons.mp distinct
    have rowMember := members row (by simp)
    have rowUnretired := unretired row (by simp)
    rw [List.foldl_cons, List.foldl_cons, retireProjection_eq unique rowMember rowUnretired]
    apply ih (uniqueProjections_retireRow unique) _ _ restDistinct
    · intro other otherMember
      apply retireRow_mem_rest unique rowMember rowUnretired (members other (by simp [otherMember]))
      rintro rfl
      exact fresh otherMember
    · exact fun other otherMember => unretired other (by simp [otherMember])

end AllRows

end HardwareDatabase.Memory
