/-
Module: HardwareDatabase.Proofs.TimestampOrder
Purpose: The texts of instants in UTC are ordered as the instants are, although a fraction that is zero is left out.
Trusted boundary: none
-/
import HardwareDatabase.Sandbox.Instants
import HardwareDatabase.Sandbox.Store

namespace HardwareDatabase.Sandbox

open Python

/-- What a column of instants holds: no instant, or the text of one. -/
def IsWritten (column : String) : Prop :=
  column = "" ∨ ∃ moment, column = isoformat moment

/-! ### Texts without a zone letter -/

private theorem withoutZulu_append (first second : List Char) :
    withoutZulu (first ++ second) = withoutZulu first ++ withoutZulu second :=
  List.flatMap_append

private theorem withoutZulu_cons {character : Char} (other : character ≠ 'Z') (rest : List Char) :
    withoutZulu (character :: rest) = character :: withoutZulu rest := by
  rw [withoutZulu, List.flatMap_cons, if_neg other]
  rfl

private theorem withoutZulu_padded {width number : Nat} (bound : number < 10 ^ width) :
    withoutZulu (padded width number) = padded width number := by
  induction width generalizing number with
  | zero => rfl
  | succ width ih =>
    have digit : number / 10 ^ width < 10 := Nat.div_lt_of_lt_mul (pow_succ 10 width ▸ bound)
    have other : Nat.digitChar (number / 10 ^ width) ≠ 'Z' := by
      intro same
      have code := congrArg Char.toNat same
      rw [Nat.toNat_digitChar_of_lt_ten digit] at code
      have letter : 'Z'.toNat = 90 := rfl
      omega
    rw [padded, withoutZulu_cons other, ih (Nat.mod_lt _ (Nat.pow_pos (by decide)))]

private theorem withoutZulu_fractionText {number : Nat} (bound : number < 1000000) :
    withoutZulu (fractionText number) = fractionText number := by
  unfold fractionText
  split
  · rfl
  · rw [withoutZulu_cons (by decide), withoutZulu_padded bound]

private theorem withoutZulu_isoChars (moment : Datetime) : withoutZulu (isoChars moment) = isoChars moment := by
  have fits := moment.fits
  have offset : withoutZulu utcOffset = utcOffset := rfl
  simp only [isoChars, withoutZulu_append, withoutZulu_padded fits.year, withoutZulu_padded fits.month,
    withoutZulu_padded fits.day, withoutZulu_padded fits.hour, withoutZulu_padded fits.minute,
    withoutZulu_padded fits.second, withoutZulu_fractionText moment.microsecondRange, offset,
    @withoutZulu_cons '-' (by decide), @withoutZulu_cons 'T' (by decide), @withoutZulu_cons ':' (by decide)]

private theorem isoformat_ne_empty (moment : Datetime) : isoformat moment ≠ "" := by
  intro empty
  have read := fromIsoformat_isoformat moment
  rw [empty] at read
  cases read

private theorem parseTime_isoformat (moment : Datetime) : parseTime (isoformat moment) = some moment := by
  rw [parseTime, if_neg (isoformat_ne_empty moment), isoformat, String.toList_ofList, withoutZulu_isoChars]
  exact fromIsoformat_isoformat moment

/-! ### Comparisons -/

private theorem TimeTest.onTexts_eq_onValues (test : TimeTest) {column : String} (written : IsWritten column)
    (now : Datetime) : test.onTexts column now = test.onValues column now := by
  rcases written with rfl | ⟨moment, rfl⟩
  · cases test <;> rfl
  · have present : (isoformat moment != "") = true := bne_iff_ne.mpr (isoformat_ne_empty moment)
    cases test with
    | due =>
      simp only [onTexts, onValues, present, Bool.true_and, parseTime_isoformat, Option.any_some,
        isoformat_strictMono.le_iff_le]
    | ahead =>
      simp only [onTexts, onValues, present, Bool.true_and, parseTime_isoformat, Option.any_some,
        isoformat_strictMono.lt_iff_lt]

/-- The sweep of the deadlines, which compares texts, selects the waiting tasks whose deadline has passed. -/
theorem isOverdueText_eq {task : Task} (written : IsWritten task.deadlineAt) (now : Datetime) :
    task.isOverdueText (isoformat now) = (task.status.isWaiting && TimeTest.due.onValues task.deadlineAt now) := by
  rw [← TimeTest.onTexts_eq_onValues .due written, Task.isOverdueText, Bool.and_assoc]
  rfl

/-- The texts of instants compare as the instants do, are parsed to these instants, and the tests on the texts
are the tests on the parsed values. -/
theorem timestamps_order_like_instants :
    (∀ left right : Datetime, (isoformat left < isoformat right ↔ left.instant < right.instant) ∧
      (isoformat left = isoformat right ↔ left.instant = right.instant) ∧
      (left < right ↔ left.instant < right.instant)) ∧
    (∀ moment, parseTime (isoformat moment) = some moment ∧ fromIsoformat (isoformat moment) = some moment) ∧
    (∀ (test : TimeTest) (column : String) (now : Datetime), IsWritten column →
      test.onTexts column now = test.onValues column now) ∧
    ∀ (task : Task) (now : Datetime), IsWritten task.deadlineAt →
      task.isOverdueText (isoformat now) = (task.status.isWaiting && TimeTest.due.onValues task.deadlineAt now) := by
  refine ⟨?_, ?_, ?_, ?_⟩
  · intro left right
    refine ⟨?_, ?_, Datetime.instant_strictMono.lt_iff_lt.symm⟩
    · rw [isoformat_strictMono.lt_iff_lt, Datetime.instant_strictMono.lt_iff_lt]
    · rw [isoformat_strictMono.injective.eq_iff, Datetime.instant_strictMono.injective.eq_iff]
  · intro moment
    exact ⟨parseTime_isoformat moment, fromIsoformat_isoformat moment⟩
  · intro test column now written
    exact test.onTexts_eq_onValues written now
  · intro task now written
    exact isOverdueText_eq written now

end HardwareDatabase.Sandbox
