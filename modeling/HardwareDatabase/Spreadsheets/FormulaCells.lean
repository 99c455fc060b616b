/-
Module: HardwareDatabase.Spreadsheets.FormulaCells
Purpose: What a formula refers to, apart from how the code rewrites it: a word refers to a cell when it stands outside
  of literals, quoted names and brackets, names no function and is an A1 reference in the grid. A shared formula has
  the text of its group, with relative references moved.
Trusted boundary: none
-/
import HardwareDatabase.Spreadsheets.Worksheets
import Mathlib.Data.List.Forall2

namespace HardwareDatabase.Spreadsheets

/-! ### The words of a formula -/

/-- The characters of names, numbers and references. -/
def isNameChar (character : Char) : Bool :=
  isWordChar character || character == '$' || character == '.' || character == '?' || character == '\\' ||
    decide (128 ≤ character.toNat)

/-- The first word of a text, and each character between words with the word after it. -/
def pieces : List Char → List Char × List (Char × List Char)
  | [] => ([], [])
  | character :: rest =>
    let later := pieces rest
    if isNameChar character then (character :: later.1, later.2) else ([], (character, later.1) :: later.2)

/-- Where a word of a formula stands. -/
inductive Place
  | plain
  | literal
  | quoted
  | bracketed (depth : Nat)
deriving Repr, DecidableEq

/-- The place after a character that is not in a word. -/
def Place.next : Place → Char → Place
  | .plain, character =>
    if character = '"' then .literal
    else if character = '\'' then .quoted
    else if character = '[' then .bracketed 0
    else .plain
  | .literal, character => if character = '"' then .plain else .literal
  | .quoted, character => if character = '\'' then .plain else .quoted
  | .bracketed depth, character =>
    if character = '[' then .bracketed (depth + 1)
    else if character = ']' then if depth = 0 then .plain else .bracketed (depth - 1)
    else .bracketed depth

/-- A word, its place, and whether it is followed by the arguments of a call. -/
structure Word where
  chars : List Char
  place : Place
  called : Bool
deriving Repr, DecidableEq

def wordsFrom (place : Place) (chars : List Char) : List (Char × List Char) → List Word
  | [] => [⟨chars, place, false⟩]
  | (separator, next) :: rest => ⟨chars, place, separator == '('⟩ :: wordsFrom (place.next separator) next rest

/-- The words of a formula, from left to right. -/
def words (text : List Char) : List Word :=
  wordsFrom .plain (pieces text).1 (pieces text).2

/-! ### References -/

/-- The last row of the grid. -/
def lastRow : Nat := 1048576

/-- The last column of the grid, `XFD`. -/
def lastColumn : Nat := 16384

/-- The steps from one cell to another. -/
structure Offset where
  columns : Int
  rows : Int
deriving Repr, DecidableEq, Inhabited

/-- No step. -/
def Offset.zero : Offset := ⟨0, 0⟩

/-- The column of a reference whose relative parts are moved by an offset. -/
def Reference.columnAt (reference : Reference) (offset : Offset) : Int :=
  columnIndex (reference.letters.map Char.toUpper) + if reference.columnAbs then 0 else offset.columns

/-- The row of a reference whose relative parts are moved by an offset. -/
def Reference.rowAt (reference : Reference) (offset : Offset) : Int :=
  reference.number + if reference.rowAbs then 0 else offset.rows

/-- The cell that a reference designates; one that leads out of the grid designates none. -/
def Reference.cell? (reference : Reference) (offset : Offset) : Option (Int × Int) :=
  if (1 ≤ reference.columnAt offset ∧ reference.columnAt offset ≤ lastColumn) ∧
      1 ≤ reference.rowAt offset ∧ reference.rowAt offset ≤ lastRow then
    some (reference.columnAt offset, reference.rowAt offset)
  else none

/-- The whole word as a reference to a cell of the grid. -/
def wholeReference (chars : List Char) : Option Reference :=
  match matchReference chars with
  | some (reference, []) => if (reference.cell? .zero).isSome then some reference else none
  | _ => none

/-- The reference that a word of a formula is. -/
def Word.reference? (word : Word) : Option Reference :=
  if word.place = .plain ∧ word.called = false then wholeReference word.chars else none

/-! ### Shared formulas

Of the formulas with `t="shared"` and one `si`, the one with a `ref` is written for its own cell. The others of the
group stand for its text as it reads from their cells. -/

/-- Where a formula stands: the column by the letters of the address, the row by the number of the row. -/
structure Position where
  column : Nat
  row : Int
deriving Repr, DecidableEq

/-- The steps between two positions. -/
def Position.offset (start stop : Position) : Offset :=
  ⟨stop.column - start.column, stop.row - start.row⟩

/-- A formula with its position. -/
structure PlacedFormula where
  formula : Formula
  position : Position
deriving Repr, DecidableEq

/-- The column of an address. -/
def columnOf (address : String) : Nat :=
  columnIndex (((Python.strip address).toList.takeWhile Char.isAlpha).map Char.toUpper)

/-- The formulas of a row. -/
def Row.formulas (row : Row) : List PlacedFormula :=
  row.cells.flatMap fun cell => cell.formulas.map fun formula => ⟨formula, ⟨columnOf cell.address, row.number⟩⟩

/-- All `f` elements; those outside the rows count as in row zero. -/
def Worksheet.formulas (sheet : Worksheet) : List PlacedFormula :=
  sheet.rows.flatMap Row.formulas ++ sheet.otherFormulas.map fun formula => ⟨formula, ⟨0, 0⟩⟩

/-- A shared formula that is written elsewhere. -/
def Formula.isDependent (formula : Formula) : Bool :=
  formula.t == some "shared" && formula.ref.isNone

/-- A formula is the written one of its group. -/
def PlacedFormula.leads (si : Option String) (placed : PlacedFormula) : Bool :=
  placed.formula.t == some "shared" && placed.formula.si == si && placed.formula.ref.isSome

/-- The formula that is written for a group; a group with several of them has none. -/
def masterOf (formulas : List PlacedFormula) (si : Option String) : Option PlacedFormula :=
  match formulas.filter (PlacedFormula.leads si) with
  | [master] => some master
  | _ => none

/-- What a formula stands for: a text whose relative references are moved by an offset. -/
structure Meaning where
  text : String
  offset : Offset
deriving Repr, DecidableEq, Inhabited

/-- The meaning of a formula among the formulas of its sheet. -/
def meaning (formulas : List PlacedFormula) (placed : PlacedFormula) : Option Meaning :=
  if placed.formula.isDependent then
    (masterOf formulas placed.formula.si).map fun master =>
      ⟨master.formula.text, master.position.offset placed.position⟩
  else some ⟨placed.formula.text, .zero⟩

/-! ### Moved rows -/

section Rows

variable (threshold delta : Int) (deleted : Option (Int × Int))

/-- The number of a row after an insertion or a deletion: rows above it stay. -/
def rowImage (row : Int) : Int :=
  if threshold < row then row + delta else row

/-- The row map of an insertion or a deletion, where deleted rows have no image. -/
def rowImage? (row : Int) : Option Int :=
  if ∃ range ∈ deleted, range.1 ≤ row ∧ row ≤ range.2 then none else some (rowImage threshold delta row)

end Rows

/-- A reference to a cell refers to its image, anything else is the same. -/
def WordPreserved (image : Int → Option Int) (offset newOffset : Offset) (old new : Word) : Prop :=
  match old.reference? with
  | some reference => ∃ moved, new.reference? = some moved ∧ moved = { reference with digits := moved.digits } ∧
      ∀ cell ∈ reference.cell? offset, ∃ row, image cell.2 = some row ∧ moved.cell? newOffset = some (cell.1, row)
  | none => new.chars = old.chars

/-- A meaning is preserved: the same characters between the words, and each word is preserved. -/
def Preserves (image : Int → Option Int) (old new : Meaning) : Prop :=
  (pieces new.text.toList).2.map Prod.fst = (pieces old.text.toList).2.map Prod.fst ∧
    List.Forall₂ (WordPreserved image old.offset new.offset) (words old.text.toList) (words new.text.toList)

/-- Formulas that have a meaning keep it. -/
def KeepMeaning (image : Int → Option Int) (formulas retained child : List PlacedFormula) : Prop :=
  List.Forall₂
    (fun old new => ∀ before ∈ meaning formulas old, ∃ after ∈ meaning child new, Preserves image before after)
    retained child

end HardwareDatabase.Spreadsheets
