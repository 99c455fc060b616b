/-
Module: HardwareDatabase.Numerals.Bijective
Purpose: Bijective numerals: lists of digits from one to the base, ordered by their values as the short-lexicographic
  order does.
Trusted boundary: none
-/
import Mathlib.Data.List.Shortlex
import Mathlib.Tactic.Ring

namespace HardwareDatabase.Numerals

variable {α : Type} {r : α → α → Prop} {base : Nat} {digit : α → Nat} {left right : List α}

/-- The value of a numeral. -/
def value (base : Nat) (digit : α → Nat) (numeral : List α) : Nat :=
  numeral.foldl (fun number symbol => number * base + digit symbol) 0

/-- Every symbol stands for a digit from one to the base. -/
def IsNumeral (base : Nat) (digit : α → Nat) (numeral : List α) : Prop :=
  ∀ symbol ∈ numeral, 1 ≤ digit symbol ∧ digit symbol ≤ base

/-- The numeral of ones. -/
def repunit (base : Nat) : Nat → Nat
  | 0 => 0
  | length + 1 => base ^ length + repunit base length

theorem foldl_eq (numeral : List α) (start : Nat) :
    numeral.foldl (fun number symbol => number * base + digit symbol) start =
      start * base ^ numeral.length + value base digit numeral := by
  induction numeral generalizing start with
  | nil => simp [value]
  | cons symbol rest ih =>
    rw [value, List.foldl_cons, List.foldl_cons, ih, ih (0 * base + digit symbol), List.length_cons, pow_succ]
    ring

theorem value_cons (symbol : α) (rest : List α) :
    value base digit (symbol :: rest) = digit symbol * base ^ rest.length + value base digit rest := by
  rw [value, List.foldl_cons, foldl_eq, Nat.zero_mul, Nat.zero_add]

theorem value_append (numeral : List α) (symbol : α) :
    value base digit (numeral ++ [symbol]) = value base digit numeral * base + digit symbol := by
  rw [value, List.foldl_append]
  rfl

theorem IsNumeral.of_cons {symbol : α} {rest : List α} (formed : IsNumeral base digit (symbol :: rest)) :
    1 ≤ digit symbol ∧ digit symbol ≤ base ∧ IsNumeral base digit rest :=
  ⟨(formed symbol List.mem_cons_self).1, (formed symbol List.mem_cons_self).2,
    fun other member => formed other (List.mem_cons_of_mem _ member)⟩

theorem repunit_le_value {numeral : List α} (formed : IsNumeral base digit numeral) :
    repunit base numeral.length ≤ value base digit numeral := by
  induction numeral with
  | nil => exact Nat.zero_le _
  | cons symbol rest ih =>
    obtain ⟨positive, -, restFormed⟩ := formed.of_cons
    rw [value_cons, List.length_cons, repunit]
    exact Nat.add_le_add (Nat.le_mul_of_pos_left _ positive) (ih restFormed)

theorem value_lt_repunit {numeral : List α} (formed : IsNumeral base digit numeral) :
    value base digit numeral < repunit base (numeral.length + 1) := by
  induction numeral with
  | nil => simp [value, repunit]
  | cons symbol rest ih =>
    obtain ⟨-, bounded, restFormed⟩ := formed.of_cons
    rw [value_cons, List.length_cons, repunit, pow_succ, Nat.mul_comm (base ^ rest.length)]
    exact Nat.add_lt_add_of_le_of_lt (Nat.mul_le_mul_right _ bounded) (ih restFormed)

theorem repunit_mono {fewer more : Nat} (le : fewer ≤ more) : repunit base fewer ≤ repunit base more := by
  induction le with
  | refl => exact Nat.le_refl _
  | step _ ih => exact ih.trans (Nat.le_add_left _ _)

/-- Between numerals of one length the first difference decides. -/
theorem value_lt_of_lex (leftFormed : IsNumeral base digit left) (rightFormed : IsNumeral base digit right)
    (order : ∀ first ∈ left, ∀ second ∈ right, r first second → digit first < digit second)
    (sameLength : left.length = right.length) (before : List.Lex r left right) :
    value base digit left < value base digit right := by
  induction before with
  | nil => cases sameLength
  | @rel first rest second others smaller =>
    have tails : rest.length = others.length := Nat.succ.inj sameLength
    have less := order first List.mem_cons_self second List.mem_cons_self smaller
    have upper := value_lt_repunit leftFormed.of_cons.2.2
    have lower := repunit_le_value rightFormed.of_cons.2.2
    rw [repunit, tails] at upper
    rw [value_cons, value_cons, tails]
    calc digit first * base ^ others.length + value base digit rest
        < digit first * base ^ others.length + (base ^ others.length + repunit base others.length) :=
          Nat.add_lt_add_left upper _
      _ = (digit first + 1) * base ^ others.length + repunit base others.length := by ring
      _ ≤ digit second * base ^ others.length + value base digit others :=
          Nat.add_le_add (Nat.mul_le_mul_right _ less) lower
  | @cons symbol rest others _ ih =>
    have tails : rest.length = others.length := Nat.succ.inj sameLength
    rw [value_cons, value_cons, tails]
    refine Nat.add_lt_add_left (ih leftFormed.of_cons.2.2 rightFormed.of_cons.2.2 ?_ tails) _
    intro first firstMember second secondMember
    exact order first (List.mem_cons_of_mem _ firstMember) second (List.mem_cons_of_mem _ secondMember)

theorem value_lt_of_shortlex (leftFormed : IsNumeral base digit left) (rightFormed : IsNumeral base digit right)
    (order : ∀ first ∈ left, ∀ second ∈ right, r first second → digit first < digit second)
    (before : List.Shortlex r left right) : value base digit left < value base digit right := by
  rcases List.shortlex_def.mp before with shorter | ⟨sameLength, lex⟩
  · calc value base digit left < repunit base (left.length + 1) := value_lt_repunit leftFormed
      _ ≤ repunit base right.length := repunit_mono shorter
      _ ≤ value base digit right := repunit_le_value rightFormed
  · exact value_lt_of_lex leftFormed rightFormed order sameLength lex

/-- The value orders numerals as the short-lexicographic order does. -/
theorem value_lt_iff_shortlex [Std.Trichotomous r] (leftFormed : IsNumeral base digit left)
    (rightFormed : IsNumeral base digit right)
    (order : ∀ first ∈ left ++ right, ∀ second ∈ left ++ right, r first second → digit first < digit second) :
    value base digit left < value base digit right ↔ List.Shortlex r left right := by
  constructor
  · intro less
    by_contra notBefore
    have notAfter : ¬ List.Shortlex r right left := by
      intro after
      have greater := value_lt_of_shortlex rightFormed leftFormed (fun first firstMember second secondMember =>
        order first (List.mem_append_right _ firstMember) second (List.mem_append_left _ secondMember)) after
      exact Nat.lt_asymm less greater
    have same := Std.Trichotomous.trichotomous left right notBefore notAfter
    exact Nat.lt_irrefl _ (same ▸ less)
  · exact value_lt_of_shortlex leftFormed rightFormed fun first firstMember second secondMember =>
      order first (List.mem_append_left _ firstMember) second (List.mem_append_right _ secondMember)

theorem value_injective [Std.Trichotomous r] (leftFormed : IsNumeral base digit left)
    (rightFormed : IsNumeral base digit right)
    (order : ∀ first ∈ left ++ right, ∀ second ∈ left ++ right, r first second → digit first < digit second)
    (same : value base digit left = value base digit right) : left = right := by
  refine Std.Trichotomous.trichotomous (r := List.Shortlex r) left right ?_ ?_
  · intro before
    have less := (value_lt_iff_shortlex leftFormed rightFormed order).mpr before
    omega
  · intro after
    have less := value_lt_of_shortlex rightFormed leftFormed (fun first firstMember second secondMember =>
      order first (List.mem_append_right _ firstMember) second (List.mem_append_left _ secondMember)) after
    omega

end HardwareDatabase.Numerals
