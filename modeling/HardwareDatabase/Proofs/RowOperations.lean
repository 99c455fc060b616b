/-
Module: HardwareDatabase.Proofs.RowOperations
Purpose: When an insertion or a deletion of rows is accepted, and the child it gives then.
Trusted boundary: none
-/
import HardwareDatabase.Spreadsheets.FormulaCells
import HardwareDatabase.Proofs.FormulaTokens
import HardwareDatabase.Relational.Table
import Mathlib.Data.List.TakeWhile

namespace HardwareDatabase.Spreadsheets

open Relational

/-! ### Moved formulas -/

/-- A formula is not refused when rows move. -/
def Movable (deleted : Option (Int × Int)) (formula : Formula) : Prop :=
  refusal? formula.text.toList = none ∧
    ∀ reference, .reference reference ∈ tokens false formula.text.toList → ¬ InDeleted deleted reference

section Moved

variable (threshold delta : Int)

def movedText (text : String) : String :=
  String.ofList (redigited (movedDigits threshold delta) false text.toList)

def movedFormula (formula : Formula) : Formula :=
  { formula with text := movedText threshold delta formula.text }

def movedCell (cell : Cell) : Cell :=
  { cell with formulas := cell.formulas.map (movedFormula threshold delta) }

def movedRow (row : Row) : Row :=
  { row with cells := row.cells.map (movedCell threshold delta) }

end Moved

section Shifting

variable {threshold delta : Int} {deleted : Option (Int × Int)}

theorem shiftFormula_eq_ok_iff (formula shifted : Formula) :
    shiftFormula threshold delta deleted formula = .ok shifted ↔
      Movable deleted formula ∧ shifted = movedFormula threshold delta formula := by
  rw [shiftFormula, Movable]
  constructor
  · intro done
    obtain ⟨text, moved, rfl⟩ := exists_of_map_eq_ok done
    obtain ⟨allowed, outside, rfl⟩ := shiftFormulaText_eq_ok_iff.mp moved
    exact ⟨⟨allowed, outside⟩, rfl⟩
  · rintro ⟨⟨allowed, outside⟩, rfl⟩
    rw [shiftFormulaText_eq_ok_iff.mpr ⟨allowed, outside, rfl⟩]
    rfl

theorem shiftCell_eq_ok_iff (cell shifted : Cell) : shiftCell threshold delta deleted cell = .ok shifted ↔
      (∀ formula ∈ cell.formulas, Movable deleted formula) ∧ shifted = movedCell threshold delta cell := by
  rw [shiftCell]
  constructor
  · intro done
    obtain ⟨formulas, moved, done⟩ := exists_of_bind_eq_ok done
    obtain ⟨allowed, rfl⟩ := (mapM_eq_ok_iff_map shiftFormula_eq_ok_iff).mp moved
    cases done
    exact ⟨allowed, rfl⟩
  · rintro ⟨allowed, rfl⟩
    rw [(mapM_eq_ok_iff_map shiftFormula_eq_ok_iff).mpr ⟨allowed, rfl⟩]
    rfl

theorem shiftRow_eq_ok_iff (row shifted : Row) : shiftRow threshold delta deleted row = .ok shifted ↔
      (∀ cell ∈ row.cells, ∀ formula ∈ cell.formulas, Movable deleted formula) ∧
        shifted = movedRow threshold delta row := by
  rw [shiftRow]
  constructor
  · intro done
    obtain ⟨cells, moved, done⟩ := exists_of_bind_eq_ok done
    obtain ⟨allowed, rfl⟩ := (mapM_eq_ok_iff_map shiftCell_eq_ok_iff).mp moved
    cases done
    exact ⟨allowed, rfl⟩
  · rintro ⟨allowed, rfl⟩
    rw [(mapM_eq_ok_iff_map shiftCell_eq_ok_iff).mpr ⟨allowed, rfl⟩]
    rfl

theorem shiftAllFormulas_eq_ok_iff {sheet : Worksheet} {rows : List Row} (here : sheet.sheetData = some rows)
    {moved : List Row × Worksheet} : shiftAllFormulas threshold delta deleted rows sheet = .ok moved ↔
      (∀ placed ∈ sheet.formulas, Movable deleted placed.formula) ∧ moved = (rows.map (movedRow threshold delta),
          { sheet with otherFormulas := sheet.otherFormulas.map (movedFormula threshold delta) }) := by
  have known : (∀ placed ∈ sheet.formulas, Movable deleted placed.formula) ↔
      (∀ row ∈ rows, ∀ cell ∈ row.cells, ∀ formula ∈ cell.formulas, Movable deleted formula) ∧
        ∀ formula ∈ sheet.otherFormulas, Movable deleted formula := by
    simp only [Worksheet.formulas, Row.formulas, Worksheet.rows, here, Option.getD_some, List.forall_mem_append,
      List.forall_mem_flatMap, List.forall_mem_map]
  rw [shiftAllFormulas, known]
  constructor
  · intro done
    obtain ⟨rowsMoved, first, done⟩ := exists_of_bind_eq_ok done
    obtain ⟨others, second, done⟩ := exists_of_bind_eq_ok done
    obtain ⟨inRows, rfl⟩ := (mapM_eq_ok_iff_map shiftRow_eq_ok_iff).mp first
    obtain ⟨inOthers, rfl⟩ := (mapM_eq_ok_iff_map shiftFormula_eq_ok_iff).mp second
    cases done
    exact ⟨⟨inRows, inOthers⟩, rfl⟩
  · rintro ⟨⟨inRows, inOthers⟩, rfl⟩
    rw [(mapM_eq_ok_iff_map shiftRow_eq_ok_iff).mpr ⟨inRows, rfl⟩,
      (mapM_eq_ok_iff_map shiftFormula_eq_ok_iff).mpr ⟨inOthers, rfl⟩]
    rfl

end Shifting

/-! ### The children -/

/-- The rows below an insertion or a deletion get their new numbers. -/
def renumbered (threshold delta : Int) (row : Row) : Row :=
  if threshold < row.number then reindexRow row (row.number + delta) else row

/-- A row is not among the deleted ones. -/
def isRetained (first last : Int) (row : Row) : Bool :=
  !(decide (first ≤ row.number) && decide (row.number ≤ last))

def childRowsOfInsert (rows : List Row) (afterRow count : Int) (values : List (List String)) : List Row :=
  insertedRows afterRow.toNat values ((rows.map (movedRow afterRow count)).map (renumbered afterRow count))
    count.toNat

def insertedSheet (sheet : Worksheet) (rows : List Row) (afterRow count : Int) (values : List (List String)) :
    Worksheet where
  sheetData := some (childRowsOfInsert rows afterRow count values)
  merges := sheet.merges.map (adjustMergeInsert afterRow count)
  otherFormulas := sheet.otherFormulas.map (movedFormula afterRow count)
  dimension := sheet.dimension.map fun _ => refreshedDimension (childRowsOfInsert rows afterRow count values)

def childRowsOfDelete (rows : List Row) (first last count : Int) : List Row :=
  ((rows.map (movedRow last (-count))).filter (isRetained first last)).map (renumbered last (-count))

def deletedSheet (sheet : Worksheet) (rows : List Row) (first last count : Int) : Worksheet where
  sheetData := some (childRowsOfDelete rows first last count)
  merges := sheet.merges.filterMap (adjustMergeDelete first last count)
  otherFormulas := sheet.otherFormulas.map (movedFormula last (-count))
  dimension := sheet.dimension.map fun _ => refreshedDimension (childRowsOfDelete rows first last count)

section Accepted

variable {showable : CellContent → Bool} {sheet child : Worksheet}

theorem acceptChild_eq_ok_iff {candidate : Worksheet} :
    acceptChild showable candidate = .ok child ↔ opens showable candidate = true ∧ child = candidate := by
  rw [acceptChild]
  split
  · rename_i accepted
    rw [accepted]
    constructor
    · rintro ⟨⟩
      exact ⟨rfl, rfl⟩
    · rintro ⟨-, rfl⟩
      rfl
  · rename_i refused
    exact ⟨nofun, fun known => absurd known.1 refused⟩

/-- When rows are inserted, and what the child is. -/
theorem insertRows_eq_ok_iff {afterRow count : Int} {values : List (List String)} :
    insertRows showable sheet afterRow count values = .ok child ↔
      (0 ≤ afterRow ∧ 1 ≤ count ∧ count ≤ 100) ∧ ∃ rows, sheet.sheetData = some rows ∧
        (∀ placed ∈ sheet.formulas, Movable none placed.formula) ∧
        opens showable (insertedSheet sheet rows afterRow count values) = true ∧
        child = insertedSheet sheet rows afterRow count values := by
  rw [insertRows]
  split
  · exact ⟨nofun, fun known => absurd known.1.1 (by omega)⟩
  split
  · exact ⟨nofun, fun known => absurd known.1.2 (by omega)⟩
  rename_i positive fits
  have bounds : 0 ≤ afterRow ∧ 1 ≤ count ∧ count ≤ 100 := by omega
  rw [and_iff_right bounds]
  split
  · rename_i absent
    refine ⟨nofun, ?_⟩
    rintro ⟨rows, here, -⟩
    rw [absent] at here
    cases here
  · rename_i rows here
    constructor
    · intro done
      obtain ⟨moved, shifted, done⟩ := exists_of_bind_eq_ok done
      obtain ⟨allowed, rfl⟩ := (shiftAllFormulas_eq_ok_iff here).mp shifted
      obtain ⟨accepted, rfl⟩ := acceptChild_eq_ok_iff.mp done
      exact ⟨rows, here, allowed, accepted, rfl⟩
    · rintro ⟨known, same, allowed, accepted, rfl⟩
      obtain rfl := Option.some.inj (here.symm.trans same)
      rw [(shiftAllFormulas_eq_ok_iff here).mpr ⟨allowed, rfl⟩]
      exact acceptChild_eq_ok_iff.mpr ⟨accepted, rfl⟩

/-- When rows are deleted, and what the child is. -/
theorem deleteRows_eq_ok_iff {first count : Int} : deleteRows showable sheet first count = .ok child ↔
      (1 ≤ first ∧ 1 ≤ count ∧ count ≤ 100) ∧ ∃ rows, sheet.sheetData = some rows ∧
        (∀ placed ∈ sheet.formulas, Movable (some (first, first + count - 1)) placed.formula) ∧
        opens showable (deletedSheet sheet rows first (first + count - 1) count) = true ∧
        child = deletedSheet sheet rows first (first + count - 1) count := by
  rw [deleteRows]
  split
  · exact ⟨nofun, fun known => absurd known.1.1 (by omega)⟩
  split
  · exact ⟨nofun, fun known => absurd known.1.2 (by omega)⟩
  rename_i positive fits
  have bounds : 1 ≤ first ∧ 1 ≤ count ∧ count ≤ 100 := by omega
  rw [and_iff_right bounds]
  dsimp only
  split
  · rename_i absent
    refine ⟨nofun, ?_⟩
    rintro ⟨rows, here, -⟩
    rw [absent] at here
    cases here
  · rename_i rows here
    constructor
    · intro done
      obtain ⟨moved, shifted, done⟩ := exists_of_bind_eq_ok done
      obtain ⟨allowed, rfl⟩ := (shiftAllFormulas_eq_ok_iff here).mp shifted
      obtain ⟨accepted, rfl⟩ := acceptChild_eq_ok_iff.mp done
      exact ⟨rows, here, allowed, accepted, rfl⟩
    · rintro ⟨known, same, allowed, accepted, rfl⟩
      obtain rfl := Option.some.inj (here.symm.trans same)
      rw [(shiftAllFormulas_eq_ok_iff here).mpr ⟨allowed, rfl⟩]
      exact acceptChild_eq_ok_iff.mpr ⟨accepted, rfl⟩

end Accepted

/-! ### The formulas of the children

A formula of the child is one of the parent with its text moved, in a cell of the same column whose row is moved. -/

/-- A position after rows have moved. -/
def Position.moved (threshold delta : Int) (position : Position) : Position :=
  { position with row := rowImage threshold delta position.row }

/-- A formula after rows have moved. -/
def PlacedFormula.moved (threshold delta : Int) (placed : PlacedFormula) : PlacedFormula where
  formula := movedFormula threshold delta placed.formula
  position := placed.position.moved threshold delta

theorem not_isSpace_of_isAlphanum {character : Char} (word : character.isAlpha = true ∨ character.isDigit = true) :
    Python.isSpace character = false := by
  delta Char.isAlpha Char.isUpper Char.isLower at word
  simp only [Char.isDigit, Bool.or_eq_true, Bool.and_eq_true, decide_eq_true_eq, UInt32.le_iff_toNat_le,
    ge_iff_le] at word
  have bounds : 48 ≤ character.toNat ∧ character.toNat ≤ 122 := by
    rcases word with (⟨least, most⟩ | ⟨least, most⟩) | ⟨least, most⟩
    · exact ⟨Nat.le_trans (by decide) least, Nat.le_trans most (by decide)⟩
    · exact ⟨Nat.le_trans (by decide) least, Nat.le_trans most (by decide)⟩
    · exact ⟨least, Nat.le_trans most (by decide)⟩
  simp only [Python.isSpace, Bool.or_eq_false_iff, Bool.and_eq_false_iff, decide_eq_false_iff_not, beq_eq_false_iff_ne]
  omega

theorem columnOf_cellText {letters : List Char} (alpha : ∀ letter ∈ letters, letter.isAlpha = true) (number : Nat) :
    columnOf (cellText letters number) = columnIndex (letters.map Char.toUpper) := by
  have digits : ∀ character ∈ Nat.toDigits 10 number, character.isDigit = true := fun _ member =>
    Nat.isDigit_of_mem_toDigits (by decide) (by decide) member
  have word : ∀ character ∈ letters ++ Nat.toDigits 10 number, Python.isSpace character = false := by
    rw [List.forall_mem_append]
    exact ⟨fun character member => not_isSpace_of_isAlphanum (Or.inl (alpha character member)),
      fun character member => not_isSpace_of_isAlphanum (Or.inr (digits character member))⟩
  have stripped : Python.strip (cellText letters number) = cellText letters number := by
    apply Python.strip_eq_self
    · intro character first
      rw [cellText, String.toList_ofList] at first
      exact word character (List.mem_of_head? first)
    · intro character last
      rw [cellText, String.toList_ofList] at last
      exact word character (List.mem_of_getLast? last)
  rw [columnOf, stripped, cellText, String.toList_ofList, takeWhile_append_of_head alpha]
  exact fun character first => not_isAlpha_of_isDigit (digits character (List.mem_of_head? first))

theorem isAlpha_toUpper {character : Char} (letter : character.isAlpha = true) :
    character.toUpper.isAlpha = true ∧ character.toUpper.toUpper = character.toUpper := by
  by_cases lower : 'a'.val ≤ character.val ∧ character.val ≤ 'z'.val
  · have each : ∀ code ∈ List.range' 97 26, (Char.ofNat code).toUpper.isAlpha = true ∧
        (Char.ofNat code).toUpper.toUpper = (Char.ofNat code).toUpper := by decide
    have bounds : 97 ≤ character.toNat ∧ character.toNat ≤ 122 := lower
    have known := each character.toNat (List.mem_range'_1.mpr (by omega))
    rwa [Char.ofNat_toNat] at known
  · have same : character.toUpper = character := dif_neg lower
    rw [same]
    exact ⟨letter, same⟩

theorem columnOf_upper {letters : List Char} (alpha : ∀ letter ∈ letters, letter.isAlpha = true) (number : Nat) :
    columnOf (cellText (letters.map Char.toUpper) number) = columnIndex (letters.map Char.toUpper) := by
  have upper : ∀ letter ∈ letters.map Char.toUpper, letter.isAlpha = true := by
    rw [List.forall_mem_map]
    exact fun letter member => (isAlpha_toUpper (alpha letter member)).1
  have twice : (letters.map Char.toUpper).map Char.toUpper = letters.map Char.toUpper := by
    rw [List.map_map]
    exact List.map_congr_left fun letter member => (isAlpha_toUpper (alpha letter member)).2
  rw [columnOf_cellText upper, twice]

theorem columnOf_reindexedAddress (address : String) (number : Int) :
    columnOf (reindexedAddress address number) = columnOf address := by
  rw [reindexedAddress]
  split
  · rfl
  · rename_i parts read
    rw [splitCellRef] at read
    split at read
    · have letters := congrArg CellRef.letters (Option.some.inj read)
      rw [← letters]
      exact columnOf_upper (fun _ member => List.mem_takeWhile_imp member) _
    · cases read

theorem formulas_renumbered (threshold delta : Int) (row : Row) :
    (renumbered threshold delta (movedRow threshold delta row)).formulas =
      row.formulas.map (PlacedFormula.moved threshold delta) := by
  have cells (cells : List Cell) : (cells.map (movedCell threshold delta)).flatMap (fun cell =>
      cell.formulas.map fun formula =>
        PlacedFormula.mk formula ⟨columnOf cell.address, rowImage threshold delta row.number⟩) =
        (cells.flatMap fun cell => cell.formulas.map fun formula =>
          PlacedFormula.mk formula ⟨columnOf cell.address, row.number⟩).map (PlacedFormula.moved threshold delta) := by
    rw [List.flatMap_map, List.map_flatMap]
    refine List.flatMap_congr fun cell _ => ?_
    rw [movedCell, List.map_map, List.map_map]
    rfl
  rw [renumbered, Row.formulas, Row.formulas, ← cells, rowImage, movedRow]
  split
  · rw [reindexRow, List.flatMap_map]
    simp only [columnOf_reindexedAddress]
  · rfl

theorem formulas_makeCells (rowNumber column : Nat) (values : List String) :
    ∀ cell ∈ makeCells rowNumber column values, cell.formulas = [] := by
  induction values generalizing column with
  | nil => exact nofun
  | cons value rest ih =>
    rw [makeCells]
    split
    · exact ih _
    · rw [List.forall_mem_cons]
      exact ⟨rfl, ih _⟩

theorem formulas_makeRow (rowNumber : Nat) (values : List String) : (makeRow rowNumber values).formulas = [] := by
  rw [Row.formulas, List.flatMap_eq_nil_iff]
  intro cell member
  rw [formulas_makeCells rowNumber 1 values cell member, List.map_nil]

theorem formulas_insertRowInOrder {row : Row} (plain : row.formulas = []) (rows : List Row) :
    (insertRowInOrder row rows).flatMap Row.formulas = rows.flatMap Row.formulas := by
  induction rows with
  | nil => rw [insertRowInOrder, List.flatMap_cons, plain, List.nil_append]
  | cons candidate rest ih =>
    rw [insertRowInOrder]
    split
    · rw [List.flatMap_cons, plain, List.nil_append]
    · rw [List.flatMap_cons, List.flatMap_cons, ih]

theorem formulas_insertedRows (afterRow : Nat) (values : List (List String)) (rows : List Row) (count : Nat) :
    (insertedRows afterRow values rows count).flatMap Row.formulas = rows.flatMap Row.formulas := by
  induction count with
  | zero => rfl
  | succ offset ih =>
    rw [insertedRows, formulas_insertRowInOrder (formulas_makeRow _ _), ih]

/-- The formulas of the rows that are not deleted, and those outside the rows. -/
def retainedFormulas (sheet : Worksheet) (first last : Int) : List PlacedFormula :=
  (sheet.rows.filter (isRetained first last)).flatMap Row.formulas ++
    sheet.otherFormulas.map fun formula => ⟨formula, ⟨0, 0⟩⟩

section Formulas

variable {sheet : Worksheet} {rows : List Row} (here : sheet.sheetData = some rows)

theorem formulas_elsewhere {threshold : Int} (start : 0 ≤ threshold) (delta : Int) (formulas : List Formula) :
    ((formulas.map (movedFormula threshold delta)).map fun formula => PlacedFormula.mk formula ⟨0, 0⟩) =
      (formulas.map fun formula => ⟨formula, ⟨0, 0⟩⟩).map (PlacedFormula.moved threshold delta) := by
  have first : rowImage threshold delta 0 = 0 := if_neg (by omega)
  rw [List.map_map, List.map_map]
  refine List.map_congr_left fun formula _ => ?_
  simp only [Function.comp_apply, PlacedFormula.moved, Position.moved, first]

include here in
theorem formulas_insertedSheet {afterRow : Int} (start : 0 ≤ afterRow) (count : Int) (values : List (List String)) :
    (insertedSheet sheet rows afterRow count values).formulas =
      sheet.formulas.map (PlacedFormula.moved afterRow count) := by
  rw [Worksheet.formulas, Worksheet.formulas, List.map_append, ← formulas_elsewhere start]
  congr 1
  change (childRowsOfInsert rows afterRow count values).flatMap Row.formulas = _
  rw [childRowsOfInsert, formulas_insertedRows, Worksheet.rows, here, Option.getD_some, List.map_flatMap]
  simp only [List.flatMap_map, formulas_renumbered]

include here in
theorem formulas_deletedSheet {first last : Int} (start : 0 ≤ last) (count : Int) :
    (deletedSheet sheet rows first last count).formulas =
      (retainedFormulas sheet first last).map (PlacedFormula.moved last (-count)) := by
  have kept : (rows.map (movedRow last (-count))).filter (isRetained first last) =
      (rows.filter (isRetained first last)).map (movedRow last (-count)) := by
    rw [List.filter_map]
    rfl
  rw [Worksheet.formulas, retainedFormulas, List.map_append, ← formulas_elsewhere start]
  congr 1
  change (childRowsOfDelete rows first last count).flatMap Row.formulas = _
  rw [childRowsOfDelete, kept, Worksheet.rows, here, Option.getD_some, List.map_flatMap]
  simp only [List.flatMap_map, formulas_renumbered]

end Formulas

end HardwareDatabase.Spreadsheets
