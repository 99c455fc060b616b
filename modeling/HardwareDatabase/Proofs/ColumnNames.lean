/-
Module: HardwareDatabase.Proofs.ColumnNames
Purpose: The names of spreadsheet columns are the bijective numerals to base twenty-six, and the two functions that
  write them agree.
Trusted boundary: none
-/
import HardwareDatabase.Numerals.Bijective
import HardwareDatabase.Spreadsheets.Worksheets

namespace HardwareDatabase.Spreadsheets

open Numerals

/-- A column name: letters from `A` to `Z`, at least one. -/
def IsColumnName (letters : List Char) : Prop :=
  letters ≠ [] ∧ ∀ letter ∈ letters, 'A' ≤ letter ∧ letter ≤ 'Z'

/-- What a letter adds to the index. -/
def letterDigit (letter : Char) : Nat :=
  letter.toNat - 'A'.toNat + 1

private theorem columnIndex_eq_value (letters : List Char) : columnIndex letters = value 26 letterDigit letters := rfl

private theorem letter_bounds {letter : Char} (least : 'A' ≤ letter) (most : letter ≤ 'Z') :
    65 ≤ letter.toNat ∧ letter.toNat ≤ 90 :=
  ⟨Char.le_def.mp least, Char.le_def.mp most⟩

variable {letters : List Char}

private theorem IsColumnName.isNumeral (name : IsColumnName letters) : IsNumeral 26 letterDigit letters := by
  intro letter member
  obtain ⟨least, most⟩ := letter_bounds (name.2 letter member).1 (name.2 letter member).2
  have first : 'A'.toNat = 65 := rfl
  rw [letterDigit]
  omega

private theorem letterDigit_order {left right : List Char} (leftName : IsColumnName left)
    (rightName : IsColumnName right) :
    ∀ first ∈ left ++ right, ∀ second ∈ left ++ right, first < second → letterDigit first < letterDigit second := by
  have bounds : ∀ letter ∈ left ++ right, 65 ≤ letter.toNat := by
    intro letter member
    rcases List.mem_append.mp member with inLeft | inRight
    · exact (letter_bounds (leftName.2 letter inLeft).1 (leftName.2 letter inLeft).2).1
    · exact (letter_bounds (rightName.2 letter inRight).1 (rightName.2 letter inRight).2).1
  intro first firstMember second secondMember before
  have less : first.toNat < second.toNat := Char.lt_def.mp before
  have least := bounds first firstMember
  have start : 'A'.toNat = 65 := rfl
  rw [letterDigit, letterDigit]
  omega

/-! ### The letters of a number -/

private theorem letter_of_remainder (value : Nat) : 'A' ≤ Char.ofNat ('A'.toNat + value % 26) ∧
    Char.ofNat ('A'.toNat + value % 26) ≤ 'Z' ∧ letterDigit (Char.ofNat ('A'.toNat + value % 26)) = value % 26 + 1 := by
  have each : ∀ offset < 26, 'A' ≤ Char.ofNat ('A'.toNat + offset) ∧ Char.ofNat ('A'.toNat + offset) ≤ 'Z' ∧
      letterDigit (Char.ofNat ('A'.toNat + offset)) = offset + 1 := by decide
  exact each _ (Nat.mod_lt _ (by decide))

private theorem columnLettersBefore_append (known : List Char) (value : Nat) :
    columnLettersBefore known value = columnLettersBefore [] value ++ known := by
  induction value using Nat.strongRecOn generalizing known with
  | ind value ih =>
    cases value with
    | zero => rw [columnLettersBefore, columnLettersBefore, List.nil_append]
    | succ value =>
      have smaller : value / 26 < value + 1 := by omega
      rw [columnLettersBefore, columnLettersBefore, ih _ smaller,
        ih _ smaller [Char.ofNat ('A'.toNat + value % 26)], List.append_assoc]
      rfl

private theorem columnLettersBefore_succ (value : Nat) : columnLettersBefore [] (value + 1) =
    columnLettersBefore [] (value / 26) ++ [Char.ofNat ('A'.toNat + value % 26)] := by
  rw [columnLettersBefore, columnLettersBefore_append]

private theorem columnIndex_columnLettersBefore (value : Nat) : columnIndex (columnLettersBefore [] value) = value := by
  induction value using Nat.strongRecOn with
  | ind value ih =>
    cases value with
    | zero =>
      rw [columnLettersBefore]
      rfl
    | succ value =>
      have last := (letter_of_remainder value).2.2
      have rest := ih (value / 26) (by omega)
      rw [columnIndex_eq_value] at rest
      rw [columnLettersBefore_succ, columnIndex_eq_value, value_append, rest, last]
      omega

private theorem isColumnName_columnLettersBefore (value : Nat) : ∀ letter ∈ columnLettersBefore [] value,
    'A' ≤ letter ∧ letter ≤ 'Z' := by
  induction value using Nat.strongRecOn with
  | ind value ih =>
    cases value with
    | zero =>
      rw [columnLettersBefore]
      exact List.forall_mem_nil _
    | succ value =>
      have last := letter_of_remainder value
      rw [columnLettersBefore_succ, List.forall_mem_append, List.forall_mem_singleton]
      exact ⟨ih _ (by omega), last.1, last.2.1⟩

variable {number : Nat}

private theorem columnLetters_eq (positive : 1 ≤ number) : columnLetters number = columnLettersBefore [] number := by
  rw [columnLetters, Nat.max_eq_right positive]

private theorem columnIndex_columnLetters (positive : 1 ≤ number) : columnIndex (columnLetters number) = number := by
  rw [columnLetters_eq positive, columnIndex_columnLettersBefore]

private theorem isColumnName_columnLetters (positive : 1 ≤ number) : IsColumnName (columnLetters number) := by
  constructor
  · intro empty
    have index := columnIndex_columnLetters positive
    rw [empty] at index
    have none : columnIndex [] = 0 := rfl
    omega
  · rw [columnLetters_eq positive]
    exact isColumnName_columnLettersBefore number

private theorem one_le_columnIndex (name : IsColumnName letters) : 1 ≤ columnIndex letters := by
  cases letters with
  | nil => exact absurd rfl name.1
  | cons letter rest =>
    have least := repunit_le_value name.isNumeral
    rw [List.length_cons, repunit] at least
    have positive : 0 < 26 ^ rest.length := Nat.pow_pos (by decide)
    rw [columnIndex_eq_value]
    omega

/-! ### Both directions -/

private theorem columnIndex_lt_iff {left right : List Char} (leftName : IsColumnName left)
    (rightName : IsColumnName right) :
    columnIndex left < columnIndex right ↔ List.Shortlex (· < ·) left right :=
  value_lt_iff_shortlex leftName.isNumeral rightName.isNumeral (letterDigit_order leftName rightName)

private theorem columnLetters_columnIndex (name : IsColumnName letters) :
    columnLetters (columnIndex letters) = letters := by
  have positive := one_le_columnIndex name
  have written := isColumnName_columnLetters positive
  exact value_injective written.isNumeral name.isNumeral (letterDigit_order written name)
    (columnIndex_columnLetters positive)

private theorem comparisonLettersBefore_eq (known : List Char) (value : Nat) :
    comparisonLettersBefore known value = columnLettersBefore known (value + 1) := by
  induction value using Nat.strongRecOn generalizing known with
  | ind value ih =>
    rw [comparisonLettersBefore, columnLettersBefore]
    by_cases last : value / 26 = 0
    · rw [if_pos last, last, columnLettersBefore]
    · have rest := ih (value / 26 - 1) (by omega) (Char.ofNat ('A'.toNat + value % 26) :: known)
      rw [if_neg last, rest, Nat.sub_add_cancel (Nat.pos_of_ne_zero last)]

private theorem columnLetter_eq (index : Nat) : columnLetter index = columnLetters (index + 1) := by
  have counted : ¬ (index : Int) < 0 := by omega
  rw [columnLetter, if_neg counted, Int.toNat_natCast, comparisonLettersBefore_eq, columnLetters_eq (by omega)]

/-- Column names and column numbers determine each other and are ordered alike, and both writers of column
names agree. -/
theorem column_names_are_numerals : (∀ number, 1 ≤ number →
      IsColumnName (columnLetters number) ∧ columnIndex (columnLetters number) = number) ∧
    (∀ letters, IsColumnName letters → 1 ≤ columnIndex letters ∧ columnLetters (columnIndex letters) = letters) ∧
    (∀ fewer more, 1 ≤ fewer → 1 ≤ more →
      (fewer < more ↔ List.Shortlex (· < ·) (columnLetters fewer) (columnLetters more))) ∧
    (∀ left right, IsColumnName left → IsColumnName right →
      (List.Shortlex (· < ·) left right ↔ columnIndex left < columnIndex right)) ∧
    ∀ index : Nat, columnLetter index = columnLetters (index + 1) := by
  refine ⟨?_, ?_, ?_, ?_, columnLetter_eq⟩
  · intro number positive
    exact ⟨isColumnName_columnLetters positive, columnIndex_columnLetters positive⟩
  · intro letters name
    exact ⟨one_le_columnIndex name, columnLetters_columnIndex name⟩
  · intro fewer more fewerPositive morePositive
    have order := columnIndex_lt_iff (isColumnName_columnLetters fewerPositive)
      (isColumnName_columnLetters morePositive)
    rwa [columnIndex_columnLetters fewerPositive, columnIndex_columnLetters morePositive] at order
  · intro left right leftName rightName
    exact (columnIndex_lt_iff leftName rightName).symm

end HardwareDatabase.Spreadsheets
