/-
Module: HardwareDatabase.Sandbox.Instants
Purpose: The instants that the sandbox ledger and the export store keep as texts in UTC, and the two ways in which a
  column is compared with an instant. An absent instant is the empty text.
Trusted boundary: none
-/
import HardwareDatabase.Python.Datetime

namespace HardwareDatabase.Sandbox

open Python

/-- `value.replace("Z", "+00:00")`. -/
def withoutZulu (characters : List Char) : List Char :=
  characters.flatMap fun character => if character = 'Z' then utcOffset else [character]

/-- `_parse_time`. -/
def parseTime (value : String) : Option Datetime :=
  if value = "" then none else fromIsoformat (String.ofList (withoutZulu value.toList))

/-- The comparisons of a lease, a deadline or an expiry with an instant. -/
inductive TimeTest
  -- `column <= now`: a lease that has run out, a deadline that has passed, a job that is available
  | due
  -- `column > now`: a lease that is live, an artifact that is kept
  | ahead
deriving Repr, DecidableEq

/-- The comparison of the texts, `column <> '' AND column <= ?`. -/
def TimeTest.onTexts (test : TimeTest) (column : String) (now : Datetime) : Bool :=
  column != "" &&
    match test with
    | .due => decide (column ≤ isoformat now)
    | .ahead => decide (isoformat now < column)

/-- The comparison of the values, `parsed is not None and parsed <= now`. -/
def TimeTest.onValues (test : TimeTest) (column : String) (now : Datetime) : Bool :=
  match test with
  | .due => (parseTime column).any (· ≤ now)
  | .ahead => (parseTime column).any (now < ·)

end HardwareDatabase.Sandbox
