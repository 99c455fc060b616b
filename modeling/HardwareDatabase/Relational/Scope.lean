/-
Module: HardwareDatabase.Relational.Scope
Purpose: How an SQL engine resolves an unqualified column of a subquery.
Trusted boundary: none
-/

namespace Relational

variable {α β υ : Type}

/-- The columns of a table by name, as projections of its rows. -/
abbrev Columns (α υ : Type) := String → Option (α → υ)

/-- The value of an unqualified column in a subquery over `inner` inside a statement over `outer`. -/
def resolve (inner : Columns β υ) (outer : Columns α υ) (name : String) (innerRow : β) (outerRow : α) : Option υ :=
  match inner name with
  | some column => some (column innerRow)
  | none => (outer name).map fun column => column outerRow

/-- `name IN (SELECT selected FROM rows WHERE p)` for one row of the enclosing statement. -/
def inSubquery [DecidableEq υ] (inner : Columns β υ) (outer : Columns α υ) (name selected : String)
    (rows : List β) (p : β → Bool) (outerRow : α) : Bool :=
  match outer name with
  | none => false
  | some column =>
    rows.any fun innerRow =>
      p innerRow && resolve inner outer selected innerRow outerRow == some (column outerRow)

variable [DecidableEq υ] {inner : Columns β υ} {outer : Columns α υ} {name : String}
  {column : α → υ} {rows : List β} {p : β → Bool}

/-- A column that the inner table lacks is the enclosing row's own: the test asks only whether the
subquery has a row. -/
theorem inSubquery_of_outer (own : outer name = some column) (missing : inner name = none) (outerRow : α) :
    inSubquery inner outer name name rows p outerRow = true ↔ ∃ innerRow ∈ rows, p innerRow = true := by
  simp [inSubquery, resolve, own, missing]

end Relational
