/-
Module: HardwareDatabase.Spreadsheets.Worksheets
Purpose: Inserting and deleting rows of a worksheet (`src/src/attachments/xlsx_revision.py`): rows with their cells,
  merged ranges, formulas and the dimension. The child is accepted when `parse_xlsx`
  (`src/src/pipelines/spreadsheet/xlsx_parser.py`) can show each cell.
Trusted boundary: none
-/
import HardwareDatabase.Spreadsheets.Formulas
import HardwareDatabase.Python.Text

namespace HardwareDatabase.Spreadsheets

open Python

/-! ### Cell references -/

/-- `_column_index`. -/
def columnIndex (letters : List Char) : Nat :=
  letters.foldl (fun value letter => value * 26 + (letter.toNat - 'A'.toNat + 1)) 0

/-- The loop of `_column_letters`, before the letters that are known. -/
def columnLettersBefore (known : List Char) : Nat → List Char
  | 0 => known
  | value + 1 => columnLettersBefore (Char.ofNat ('A'.toNat + value % 26) :: known) (value / 26)
termination_by value => value

/-- `_column_letters`. -/
def columnLetters (columnNumber : Nat) : List Char :=
  columnLettersBefore [] (max 1 columnNumber)

/-- The loop of `_column_letter`, before the letters that are known. -/
def comparisonLettersBefore (known : List Char) (value : Nat) : List Char :=
  let letters := Char.ofNat ('A'.toNat + value % 26) :: known
  if value / 26 = 0 then letters else comparisonLettersBefore letters (value / 26 - 1)
termination_by value

/-- `_column_letter` of `src/src/document_authoring/icd_comparison.py`, which counts from zero. -/
def columnLetter (columnIndex : Int) : List Char :=
  if columnIndex < 0 then [] else comparisonLettersBefore [] columnIndex.toNat

/-- The letters, the column and the row of a cell. -/
structure CellRef where
  letters : List Char
  column : Nat
  row : Nat
deriving Repr, DecidableEq

/-- `_split_cell_ref`; it raises where there is no result. -/
def splitCellRef (cell : String) : Option CellRef :=
  let text := (strip cell).toList
  let letters := text.takeWhile Char.isAlpha
  let digits := text.dropWhile Char.isAlpha
  if 1 ≤ letters.length ∧ letters.length ≤ 3 ∧ 1 ≤ digits.length ∧ digits.length ≤ 7 ∧
      digits.all Char.isDigit = true then
    let upper := letters.map Char.toUpper
    some ⟨upper, columnIndex upper, Nat.ofDigitChars 10 digits 0⟩
  else none

/-- `f"{letters}{row}"`. -/
def cellText (letters : List Char) (row : Nat) : String :=
  String.ofList (letters ++ Nat.toDigits 10 row)

/-! ### Worksheets -/

/-- The rest of a cell: what `_set_cell_text` writes, or what is there otherwise. -/
inductive CellContent
  | inlineText (text : String)
  | existing (xml : String)
deriving Repr, DecidableEq

/-- An `f` element: its text, empty where there is none, and its attributes. Only the text is rewritten. -/
structure Formula where
  text : String
  t : Option String := none
  si : Option String := none
  ref : Option String := none
deriving Repr, DecidableEq

/-- A `c` element: its address, empty where there is none, and its formulas. -/
structure Cell where
  address : String
  formulas : List Formula := []
  content : CellContent
deriving Repr, DecidableEq

/-- A `row` element with its `_row_number`. -/
structure Row where
  number : Int
  cells : List Cell
deriving Repr, DecidableEq

/-- A worksheet part: the rows of `sheetData`, the ranges of `mergeCells`, the formulas elsewhere. -/
structure Worksheet where
  sheetData : Option (List Row)
  merges : List String := []
  otherFormulas : List Formula := []
  dimension : Option String := none
deriving Repr, DecidableEq

/-- `_row_elements`. -/
def Worksheet.rows (sheet : Worksheet) : List Row :=
  sheet.sheetData.getD []

/-! ### Formulas -/

section Formulas

variable (threshold delta : Int) (deleted : Option (Int × Int))

/-- A turn of the loop of `_shift_all_formulas`. -/
def shiftFormula (formula : Formula) : Except XlsxRevisionError Formula :=
  (shiftFormulaText threshold delta deleted formula.text.toList).map fun text =>
    { formula with text := String.ofList text }

def shiftCell (cell : Cell) : Except XlsxRevisionError Cell := do
  let formulas ← cell.formulas.mapM (shiftFormula threshold delta deleted)
  return { cell with formulas }

def shiftRow (row : Row) : Except XlsxRevisionError Row := do
  let cells ← row.cells.mapM (shiftCell threshold delta deleted)
  return { row with cells }

/-- `_shift_all_formulas`, with the rows that are there. -/
def shiftAllFormulas (rows : List Row) (sheet : Worksheet) : Except XlsxRevisionError (List Row × Worksheet) := do
  let rows ← rows.mapM (shiftRow threshold delta deleted)
  let otherFormulas ← sheet.otherFormulas.mapM (shiftFormula threshold delta deleted)
  return (rows, { sheet with otherFormulas })

end Formulas

/-! ### Merged ranges -/

/-- The corners of a merged range. -/
structure MergeParts where
  startCol : Nat
  startRow : Nat
  endCol : Nat
  endRow : Nat
deriving Repr, DecidableEq

/-- `_merge_ref_parts`. -/
def mergeRefParts (ref : String) : Option MergeParts :=
  match ref.toList.dropWhile fun character => character != ':' with
  | [] => none
  | _ :: stop => do
    let first ← splitCellRef (String.ofList (ref.toList.takeWhile fun character => character != ':'))
    let last ← splitCellRef (String.ofList stop)
    return ⟨first.column, first.row, last.column, last.row⟩

/-- The text that `_set_merge_ref` sets. -/
def MergeParts.ref (parts : MergeParts) : String :=
  String.ofList (columnLetters parts.startCol ++ Nat.toDigits 10 parts.startRow ++
    ':' :: (columnLetters parts.endCol ++ Nat.toDigits 10 parts.endRow))

/-- A row number below an insertion moves. -/
def movedDown (afterRow delta : Int) (row : Nat) : Nat :=
  if afterRow < row then (row + delta).toNat else row

/-- A turn of the loop of `_adjust_merges_insert`. -/
def adjustMergeInsert (afterRow delta : Int) (ref : String) : String :=
  match mergeRefParts ref with
  | none => ref
  | some parts =>
    let moved := { parts with
      startRow := movedDown afterRow delta parts.startRow, endRow := movedDown afterRow delta parts.endRow }
    if moved ≠ parts then moved.ref else ref

/-- The rows of a range that a deletion leaves. -/
def remainingRows (first last : Int) (parts : MergeParts) : List Nat :=
  (List.range' parts.startRow (parts.endRow + 1 - parts.startRow)).filter fun number =>
    !(decide (first ≤ number) && decide ((number : Int) ≤ last))

/-- `_shift` of `_adjust_merges_delete`. -/
def movedUp (last count : Int) (row : Nat) : Nat :=
  if last < row then (row - count).toNat else row

/-- A turn of the loop of `_adjust_merges_delete`; a range without rows is removed. -/
def adjustMergeDelete (first last count : Int) (ref : String) : Option String :=
  match mergeRefParts ref with
  | none => some ref
  | some parts =>
    let remaining := remainingRows first last parts
    match remaining.head?, remaining.getLast? with
    | some top, some bottom =>
      let moved := { parts with startRow := movedUp last count top, endRow := movedUp last count bottom }
      some (if moved ≠ parts then moved.ref else ref)
    | _, _ => none

/-! ### Rows -/

/-- The address of a cell whose row gets another number. -/
def reindexedAddress (address : String) (number : Int) : String :=
  match splitCellRef address with
  | none => address
  | some parts => cellText parts.letters number.toNat

/-- `_reindex_row`. -/
def reindexRow (row : Row) (number : Int) : Row where
  number := number
  cells := row.cells.map fun cell => { cell with address := reindexedAddress cell.address number }

/-- The loop of `_make_row`. -/
def makeCells (rowNumber : Nat) : Nat → List String → List Cell
  | _, [] => []
  | column, value :: rest =>
    if value = "" then makeCells rowNumber (column + 1) rest
    else
      { address := cellText (columnLetters column) rowNumber, content := .inlineText value } ::
        makeCells rowNumber (column + 1) rest

/-- `_make_row`. -/
def makeRow (rowNumber : Nat) (values : List String) : Row where
  number := rowNumber
  cells := makeCells rowNumber 1 values

/-- `_insert_row_in_order`. -/
def insertRowInOrder (row : Row) : List Row → List Row
  | [] => [row]
  | candidate :: rest =>
    if row.number < candidate.number then row :: candidate :: rest else candidate :: insertRowInOrder row rest

/-- `_refresh_dimension`, where there is one. -/
def refreshedDimension (rows : List Row) : String :=
  let refs := rows.flatMap fun row => row.cells.filterMap fun cell => splitCellRef cell.address
  let maxCol := (refs.map CellRef.column).foldl max 0
  let maxRow := (refs.map CellRef.row).foldl max 0
  if maxRow = 0 ∨ maxCol = 0 then "A1" else "A1:" ++ cellText (columnLetters maxCol) maxRow

/-! ### The operations -/

/-- The parser finds a column in the address of a cell. -/
def hasColumn (address : String) : Bool :=
  (address.toList.flatMap upperChars).head?.any Char.isUpper

section Operations

-- Whether the parser can show a cell with this content.
variable (showable : CellContent → Bool)

/-- `parse_xlsx` accepts the worksheet. -/
def opens (sheet : Worksheet) : Bool :=
  sheet.rows.all fun row => row.cells.all fun cell => !hasColumn cell.address || showable cell.content

/-- The child that is handed out. -/
def acceptChild (child : Worksheet) : Except XlsxRevisionError Worksheet :=
  if opens showable child = true then .ok child else .error ⟨"child workbook lost the edited worksheet"⟩

/-- The rows that are inserted, in the order of the loop. -/
def insertedRows (afterRow : Nat) (values : List (List String)) (rows : List Row) : Nat → List Row
  | 0 => rows
  | offset + 1 =>
    insertRowInOrder (makeRow (afterRow + offset + 1) (values[offset]?.getD []))
      (insertedRows afterRow values rows offset)

/-- `insert_rows`. -/
def insertRows (sheet : Worksheet) (afterRow count : Int) (values : List (List String)) :
    Except XlsxRevisionError Worksheet := do
  if afterRow < 0 then throw ⟨"after_row must be >= 0"⟩
  else if count < 1 ∨ 100 < count then throw ⟨"row count must be between 1 and 100"⟩
  else
    match sheet.sheetData with
    | none => throw ⟨"worksheet has no sheetData"⟩
    | some rows =>
      let (rows, sheet) ← shiftAllFormulas afterRow count none rows sheet
      let rows := rows.map fun row => if afterRow < row.number then reindexRow row (row.number + count) else row
      let rows := insertedRows afterRow.toNat values rows count.toNat
      acceptChild showable { sheet with
        sheetData := some rows
        merges := sheet.merges.map (adjustMergeInsert afterRow count)
        dimension := sheet.dimension.map fun _ => refreshedDimension rows }

/-- `delete_rows`. -/
def deleteRows (sheet : Worksheet) (first count : Int) : Except XlsxRevisionError Worksheet := do
  if first < 1 then throw ⟨"row must be >= 1"⟩
  else if count < 1 ∨ 100 < count then throw ⟨"row count must be between 1 and 100"⟩
  else
    let last := first + count - 1
    match sheet.sheetData with
    | none => throw ⟨"worksheet has no sheetData"⟩
    | some rows =>
      let (rows, sheet) ← shiftAllFormulas last (-count) (some (first, last)) rows sheet
      let rows := (rows.filter fun row => !(decide (first ≤ row.number) && decide (row.number ≤ last))).map fun row =>
        if last < row.number then reindexRow row (row.number - count) else row
      acceptChild showable { sheet with
        sheetData := some rows
        merges := sheet.merges.filterMap (adjustMergeDelete first last count)
        dimension := sheet.dimension.map fun _ => refreshedDimension rows }

end Operations

end HardwareDatabase.Spreadsheets
