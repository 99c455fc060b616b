/-
Module: HardwareDatabase.Python.Datetime
Purpose: The `datetime` of the host language in UTC: fields, instants, `isoformat` and `fromisoformat`.
Trusted boundary: none
-/
import Mathlib.Data.String.Basic
import Mathlib.Order.Monotone.Basic

namespace HardwareDatabase.Python

/-! ### The calendar -/

/-- `calendar.isleap`. -/
def isLeap (year : Nat) : Bool :=
  year % 4 == 0 && (year % 100 != 0 || year % 400 == 0)

/-- The days of a month. -/
def daysInMonth (year : Nat) : Nat → Nat
  | 2 => if isLeap year then 29 else 28
  | 4 | 6 | 9 | 11 => 30
  | _ => 31

/-- A `datetime` in UTC. -/
@[ext] structure Datetime where
  year : Nat
  month : Nat
  day : Nat
  hour : Nat
  minute : Nat
  second : Nat
  microsecond : Nat
  yearRange : 1 ≤ year ∧ year ≤ 9999
  monthRange : 1 ≤ month ∧ month ≤ 12
  dayRange : 1 ≤ day ∧ day ≤ daysInMonth year month
  hourRange : hour < 24
  minuteRange : minute < 60
  secondRange : second < 60
  microsecondRange : microsecond < 1000000
deriving DecidableEq

/-- The days before the first of January of a year. -/
def daysBeforeYear (year : Nat) : Nat :=
  (year - 1) * 365 + (year - 1) / 4 - (year - 1) / 100 + (year - 1) / 400

/-- The days of a year before the first of a month. -/
def daysBeforeMonth (year : Nat) : Nat → Nat
  | 0 | 1 => 0
  | month + 2 => daysBeforeMonth year (month + 1) + daysInMonth year (month + 1)

namespace Datetime

variable (moment : Datetime)

/-- `toordinal`. -/
def ordinal : Nat :=
  daysBeforeYear moment.year + daysBeforeMonth moment.year moment.month + moment.day

/-- The instant, in microseconds. -/
def instant : Nat :=
  (((moment.ordinal * 24 + moment.hour) * 60 + moment.minute) * 60 + moment.second) * 1000000 +
    moment.microsecond

/-- The fields in the order in which two of them are compared. -/
def fields : List Nat :=
  [moment.year, moment.month, moment.day, moment.hour, moment.minute, moment.second, moment.microsecond]

theorem fields_injective : Function.Injective fields := by
  intro left right same
  simp only [fields, List.cons.injEq, and_true] at same
  obtain ⟨year, month, day, hour, minute, second, microsecond⟩ := same
  exact Datetime.ext year month day hour minute second microsecond

/-- Two of them are compared field by field. -/
instance : LinearOrder Datetime :=
  LinearOrder.lift' fields fields_injective

theorem lt_iff_fields {left right : Datetime} : left < right ↔ left.fields < right.fields := Iff.rfl

end Datetime

/-! ### Texts -/

/-- `f"{number:0{width}d}"` of a number with at most that many digits. -/
def padded : Nat → Nat → List Char
  | 0, _ => []
  | width + 1, number => Nat.digitChar (number / 10 ^ width) :: padded width (number % 10 ^ width)

/-- The fraction of a second; there is none when it is zero. -/
def fractionText (microsecond : Nat) : List Char :=
  if microsecond = 0 then [] else '.' :: padded 6 microsecond

/-- `+00:00`. -/
def utcOffset : List Char :=
  ['+', '0', '0', ':', '0', '0']

/-- The characters of `isoformat`. -/
def isoChars (moment : Datetime) : List Char :=
  padded 4 moment.year ++ '-' :: (padded 2 moment.month ++ '-' :: (padded 2 moment.day ++ 'T' ::
    (padded 2 moment.hour ++ ':' :: (padded 2 moment.minute ++ ':' :: (padded 2 moment.second ++
      (fractionText moment.microsecond ++ utcOffset))))))

/-- `isoformat()`. -/
def isoformat (moment : Datetime) : String :=
  String.ofList (isoChars moment)

/-- The number in the first digits of a text, with the rest. -/
def readNumber : Nat → List Char → Option (Nat × List Char)
  | 0, rest => some (0, rest)
  | _ + 1, [] => none
  | width + 1, character :: rest =>
    if character.isDigit then
      (readNumber width rest).map fun read => ((character.toNat - 48) * 10 ^ width + read.1, read.2)
    else none

/-- The rest of a text that starts with a character. -/
def readChar (expected : Char) : List Char → Option (List Char)
  | character :: rest => if character = expected then some rest else none
  | [] => none

/-- The microseconds of a text, with the rest. -/
def readFraction : List Char → Option (Nat × List Char)
  | '.' :: rest => readNumber 6 rest
  | rest => some (0, rest)

/-- The `datetime` of fields that are in range. -/
def Datetime.ofFields? (year month day hour minute second microsecond : Nat) : Option Datetime :=
  if range : (1 ≤ year ∧ year ≤ 9999) ∧ (1 ≤ month ∧ month ≤ 12) ∧ (1 ≤ day ∧ day ≤ daysInMonth year month) ∧
      hour < 24 ∧ minute < 60 ∧ second < 60 ∧ microsecond < 1000000 then
    some ⟨year, month, day, hour, minute, second, microsecond, range.1, range.2.1, range.2.2.1, range.2.2.2.1,
      range.2.2.2.2.1, range.2.2.2.2.2.1, range.2.2.2.2.2.2⟩
  else none

/-- `fromisoformat` of a text in the two shapes that `isoformat` gives to an instant in UTC, with the offset or
without one; no other text is read. -/
def fromIsoformat (text : String) : Option Datetime := do
  let (year, rest) ← readNumber 4 text.toList
  let rest ← readChar '-' rest
  let (month, rest) ← readNumber 2 rest
  let rest ← readChar '-' rest
  let (day, rest) ← readNumber 2 rest
  let rest ← readChar 'T' rest
  let (hour, rest) ← readNumber 2 rest
  let rest ← readChar ':' rest
  let (minute, rest) ← readNumber 2 rest
  let rest ← readChar ':' rest
  let (second, rest) ← readNumber 2 rest
  let (microsecond, rest) ← readFraction rest
  if rest = utcOffset ∨ rest = [] then
    Datetime.ofFields? year month day hour minute second microsecond
  else none

/-! ### Instants grow with the fields -/

theorem succ_div_eq (number divisor : Nat) :
    (number + 1) / divisor = number / divisor + if (number + 1) % divisor = 0 then 1 else 0 := by
  simp only [Nat.succ_div, Nat.dvd_iff_mod_eq_zero]

theorem daysBeforeYear_succ {year : Nat} (positive : 1 ≤ year) :
    daysBeforeYear (year + 1) = daysBeforeYear year + 365 + if isLeap year then 1 else 0 := by
  obtain ⟨year, rfl⟩ := Nat.exists_eq_add_of_le' positive
  have fewer : year / 100 ≤ year / 4 := Nat.div_le_div_left (by decide) (by decide)
  have century : (year + 1) % 100 = 0 → (year + 1) % 4 = 0 := by omega
  have fourth : (year + 1) % 400 = 0 → (year + 1) % 100 = 0 := by omega
  rw [daysBeforeYear, daysBeforeYear, isLeap, Nat.add_sub_cancel, Nat.add_sub_cancel, succ_div_eq, succ_div_eq,
    succ_div_eq]
  by_cases byFour : (year + 1) % 4 = 0
  · by_cases byHundred : (year + 1) % 100 = 0
    · by_cases byFourHundred : (year + 1) % 400 = 0
      · simp [byFour, byHundred, byFourHundred]
        omega
      · simp [byFour, byHundred, byFourHundred]
        omega
    · have byFourHundred : (year + 1) % 400 ≠ 0 := fun zero => byHundred (fourth zero)
      simp [byFour, byHundred, byFourHundred]
      omega
  · have byHundred : (year + 1) % 100 ≠ 0 := fun zero => byFour (century zero)
    have byFourHundred : (year + 1) % 400 ≠ 0 := fun zero => byHundred (fourth zero)
    simp [byFour, byHundred, byFourHundred]
    omega

variable {later : Nat}

theorem daysBeforeYear_mono {year : Nat} (positive : 1 ≤ year) (le : year ≤ later) :
    daysBeforeYear year ≤ daysBeforeYear later := by
  induction later, le using Nat.le_induction with
  | base => exact Nat.le_refl _
  | succ later le =>
    have more := daysBeforeYear_succ (positive.trans le)
    omega

theorem daysBeforeMonth_succ (year : Nat) {month : Nat} (positive : 1 ≤ month) :
    daysBeforeMonth year (month + 1) = daysBeforeMonth year month + daysInMonth year month := by
  obtain ⟨month, rfl⟩ := Nat.exists_eq_add_of_le' positive
  rfl

theorem daysBeforeMonth_le (year : Nat) {month : Nat} (positive : 1 ≤ month) (before : month < later) :
    daysBeforeMonth year month + daysInMonth year month ≤ daysBeforeMonth year later := by
  induction later, before using Nat.le_induction with
  | base => exact Nat.le_of_eq (daysBeforeMonth_succ year positive).symm
  | succ later before =>
    rw [daysBeforeMonth_succ year (positive.trans (Nat.le_of_lt before))]
    omega

theorem daysBeforeMonth_year (year : Nat) : daysBeforeMonth year 13 = 365 + if isLeap year then 1 else 0 := by
  simp only [daysBeforeMonth, daysInMonth]
  split <;> rfl

theorem Datetime.ordinal_le (moment : Datetime) : moment.ordinal ≤ daysBeforeYear (moment.year + 1) := by
  have month := daysBeforeMonth_le moment.year moment.monthRange.1 (Nat.lt_succ_of_le moment.monthRange.2)
  have day := moment.dayRange.2
  rw [daysBeforeMonth_year] at month
  rw [ordinal, daysBeforeYear_succ moment.yearRange.1]
  omega

theorem Datetime.ordinal_lt {left right : Datetime} (before : left.year < right.year ∨ left.year = right.year ∧
    (left.month < right.month ∨ left.month = right.month ∧ left.day < right.day)) : left.ordinal < right.ordinal := by
  have positive := right.dayRange.1
  rcases before with year | ⟨year, month | ⟨month, day⟩⟩
  · have first := left.ordinal_le
    have later := daysBeforeYear_mono (Nat.le_add_left 1 left.year) year
    have after : daysBeforeYear right.year < right.ordinal := by
      rw [ordinal]
      omega
    omega
  · have later := daysBeforeMonth_le left.year left.monthRange.1 month
    have last := left.dayRange.2
    rw [ordinal, ordinal, ← year]
    omega
  · rw [ordinal, ordinal, ← year, ← month]
    omega

theorem Datetime.instant_strictMono : StrictMono Datetime.instant := by
  intro left right before
  have order := lt_iff_fields.mp before
  simp only [fields, List.cons_lt_cons_iff, List.not_lt_nil, and_false, or_false] at order
  have days : left.ordinal < right.ordinal ∨ left.ordinal = right.ordinal ∧ (left.hour < right.hour ∨
      left.hour = right.hour ∧ (left.minute < right.minute ∨ left.minute = right.minute ∧
        (left.second < right.second ∨ left.second = right.second ∧ left.microsecond < right.microsecond))) := by
    rcases order with year | ⟨year, month | ⟨month, day | ⟨day, time⟩⟩⟩
    · exact .inl (ordinal_lt (.inl year))
    · exact .inl (ordinal_lt (.inr ⟨year, .inl month⟩))
    · exact .inl (ordinal_lt (.inr ⟨year, .inr ⟨month, day⟩⟩))
    · refine .inr ⟨?_, time⟩
      rw [ordinal, ordinal, year, month, day]
  have hour := left.hourRange
  have minute := left.minuteRange
  have second := left.secondRange
  have microsecond := left.microsecondRange
  rw [instant, instant]
  omega

/-! ### Texts grow with the fields -/

variable {width number : Nat}

theorem padded_append_lt (bound : later < 10 ^ width) (less : number < later)
    (rest others : List Char) : padded width number ++ rest < padded width later ++ others := by
  induction width generalizing number later with
  | zero => omega
  | succ width ih =>
    have positive : 0 < 10 ^ width := Nat.pow_pos (by decide)
    have digit : later / 10 ^ width < 10 := Nat.div_lt_of_lt_mul (pow_succ 10 width ▸ bound)
    have le : number / 10 ^ width ≤ later / 10 ^ width := Nat.div_le_div_right (Nat.le_of_lt less)
    rw [padded, padded, List.cons_append, List.cons_append, List.cons_lt_cons_iff]
    rcases Nat.lt_or_eq_of_le le with first | same
    · left
      rw [Char.lt_def, UInt32.lt_iff_toNat_lt]
      change (Nat.digitChar _).toNat < (Nat.digitChar _).toNat
      rw [Nat.toNat_digitChar_of_lt_ten digit, Nat.toNat_digitChar_of_lt_ten (first.trans digit)]
      omega
    · right
      refine ⟨by rw [same], ih (Nat.mod_lt _ positive) ?_⟩
      have whole := Nat.div_add_mod number (10 ^ width)
      have laterWhole := Nat.div_add_mod later (10 ^ width)
      rw [same] at whole
      omega

theorem daysInMonth_le (year month : Nat) : daysInMonth year month ≤ 31 := by
  unfold daysInMonth
  split
  · split <;> decide
  all_goals decide

/-- The fields fit the widths in which they are written. -/
structure Datetime.Fits (moment : Datetime) : Prop where
  year : moment.year < 10 ^ 4
  month : moment.month < 10 ^ 2
  day : moment.day < 10 ^ 2
  hour : moment.hour < 10 ^ 2
  minute : moment.minute < 10 ^ 2
  second : moment.second < 10 ^ 2

theorem Datetime.fits (moment : Datetime) : moment.Fits where
  year := Nat.lt_succ_of_le moment.yearRange.2
  month := Nat.lt_of_le_of_lt moment.monthRange.2 (by decide)
  day := Nat.lt_of_le_of_lt (moment.dayRange.2.trans (daysInMonth_le _ _)) (by decide)
  hour := moment.hourRange.trans (by decide)
  minute := moment.minuteRange.trans (by decide)
  second := moment.secondRange.trans (by decide)

/-- A field decides, or it is the same and the rest decides. -/
theorem padded_append_lt_of {next : Prop} {rest others : List Char}
    (bound : later < 10 ^ width) (before : number < later ∨ number = later ∧ next) (less : next → rest < others) :
    padded width number ++ rest < padded width later ++ others := by
  rcases before with first | ⟨rfl, after⟩
  · exact padded_append_lt bound first rest others
  · exact List.append_left_lt (less after)

theorem cons_lt_cons {character : Char} {rest others : List Char} (less : rest < others) :
    character :: rest < character :: others :=
  List.cons_lt_cons_iff.mpr (.inr ⟨rfl, less⟩)

/-- The offset comes before a fraction, as no fraction does before one that is not zero. -/
theorem fractionText_lt (bound : later < 1000000) (less : number < later) :
    fractionText number ++ utcOffset < fractionText later ++ utcOffset := by
  have positive : later ≠ 0 := by omega
  rw [fractionText, fractionText, if_neg positive]
  split
  · exact List.cons_lt_cons_iff.mpr (.inl (by decide))
  · exact cons_lt_cons (padded_append_lt bound less _ _)

theorem isoformat_strictMono : StrictMono isoformat := by
  intro left right before
  have order := Datetime.lt_iff_fields.mp before
  simp only [Datetime.fields, List.cons_lt_cons_iff, List.not_lt_nil, and_false, or_false] at order
  have fits := right.fits
  rw [isoformat, isoformat, String.lt_iff_toList_lt, String.toList_ofList, String.toList_ofList, isoChars, isoChars]
  refine padded_append_lt_of fits.year order fun order => cons_lt_cons ?_
  refine padded_append_lt_of fits.month order fun order => cons_lt_cons ?_
  refine padded_append_lt_of fits.day order fun order => cons_lt_cons ?_
  refine padded_append_lt_of fits.hour order fun order => cons_lt_cons ?_
  refine padded_append_lt_of fits.minute order fun order => cons_lt_cons ?_
  refine padded_append_lt_of fits.second order fun order => ?_
  exact fractionText_lt right.microsecondRange order

/-! ### Reading back -/

theorem readNumber_padded (bound : number < 10 ^ width) (rest : List Char) :
    readNumber width (padded width number ++ rest) = some (number, rest) := by
  induction width generalizing number with
  | zero =>
    have zero : number = 0 := by omega
    rw [zero]
    rfl
  | succ width ih =>
    have digit : number / 10 ^ width < 10 := Nat.div_lt_of_lt_mul (pow_succ 10 width ▸ bound)
    have isDigit : (Nat.digitChar (number / 10 ^ width)).isDigit = true := by
      rw [Nat.isDigit_digitChar, decide_eq_true digit]
    have whole : number / 10 ^ width * 10 ^ width + number % 10 ^ width = number := Nat.div_add_mod' _ _
    rw [padded, List.cons_append, readNumber, if_pos isDigit, ih (Nat.mod_lt _ (Nat.pow_pos (by decide))),
      Nat.toNat_digitChar_of_lt_ten digit, Nat.add_sub_cancel_left, Option.map_some, whole]

@[simp] theorem readChar_cons (expected : Char) (rest : List Char) : readChar expected (expected :: rest) = some rest :=
  if_pos rfl

theorem readFraction_fractionText (bound : number < 1000000) :
    readFraction (fractionText number ++ utcOffset) = some (number, utcOffset) := by
  unfold fractionText
  split
  next zero =>
    rw [zero]
    rfl
  next => exact readNumber_padded bound utcOffset

/-- `fromisoformat` reads what `isoformat` writes. -/
theorem fromIsoformat_isoformat (moment : Datetime) : fromIsoformat (isoformat moment) = some moment := by
  have range := And.intro moment.yearRange (And.intro moment.monthRange (And.intro moment.dayRange
    (And.intro moment.hourRange (And.intro moment.minuteRange (And.intro moment.secondRange
      moment.microsecondRange)))))
  have built : Datetime.ofFields? moment.year moment.month moment.day moment.hour moment.minute moment.second
      moment.microsecond = some moment := dif_pos range
  have fits := moment.fits
  simp [fromIsoformat, isoformat, isoChars, readNumber_padded fits.year, readNumber_padded fits.month,
    readNumber_padded fits.day, readNumber_padded fits.hour, readNumber_padded fits.minute,
    readNumber_padded fits.second, readFraction_fractionText moment.microsecondRange, built]

end HardwareDatabase.Python
