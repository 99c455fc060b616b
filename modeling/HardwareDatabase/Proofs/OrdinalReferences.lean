/-
Module: HardwareDatabase.Proofs.OrdinalReferences
Purpose: Which numerals an ordinal reference reads as what they denote.
Trusted boundary: none
-/
import HardwareDatabase.Replanning.RevisionTargets
import HardwareDatabase.Relational.Table
import Mathlib.Data.Nat.Digits.Defs

namespace HardwareDatabase.Replanning

open Python
open Relational (exists_of_bind_eq_ok)

variable {text : String} {raw : List Char}

/-! ### What a numeral denotes

The meaning of a numeral, apart from the scanner that the code has for it. -/

/-- An Arabic digit. -/
def arabicDigit (character : Char) : Option Nat :=
  if character.isDigit then some (character.toNat - '0'.toNat) else none

/-- The digits of a numeral, read positionally, make up a number. -/
def Reads (digit : Char → Option Nat) (raw : List Char) (number : Nat) : Prop :=
  ∃ digits, List.Forall₂ (fun character value => digit character = some value) raw digits ∧
    number = Nat.ofDigits 10 digits.reverse

/-- At most one Chinese digit, with the value that counts where there is none. -/
inductive OneDigit (missing : Nat) : List Char → Nat → Prop
  | missing : OneDigit missing [] missing
  | digit {character : Char} {value : Nat} (read : cnDigits character = some value) :
      OneDigit missing [character] value

/-- The number that a numeral denotes: in Arabic digits, in Chinese digits, or with the multipliers ten and
hundred. -/
inductive Denotes : List Char → Nat → Prop
  | arabic {raw number} (read : Reads arabicDigit raw number) : Denotes raw number
  | positional {raw number} (read : Reads cnDigits raw number) : Denotes raw number
  | tens {front back ten one} (before : OneDigit 1 front ten) (after : OneDigit 0 back one) :
      Denotes (front ++ '十' :: back) (ten * 10 + one)
  | hundreds {first hundred} (count : OneDigit 1 first hundred) : Denotes (first ++ ['百']) (hundred * 100)
  | hundredsAndTens {first front back hundred ten one} (count : OneDigit 1 first hundred)
      (before : OneDigit 1 front ten) (after : OneDigit 0 back one) :
      Denotes (first ++ '百' :: (front ++ '十' :: back)) (hundred * 100 + ten * 10 + one)

/-- No digit, or one. -/
def AtMostOneDigit (part : List Char) : Prop :=
  ∃ value, OneDigit 0 part value

/-- The numerals that are read as what they denote: Arabic digits that `int` takes, and of the others those with a
ten and at most one digit on either side of it, and those without a ten that are no whole hundreds. -/
structure RightlyRead (raw : List Char) : Prop where
  arabic : raw.all (·.isDigit) → raw.length ≤ intMaxStrDigits
  tens : '十' ∈ raw → ∃ front back, raw = front ++ '十' :: back ∧ AtMostOneDigit front ∧ AtMostOneDigit back
  hundreds : '十' ∉ raw → ¬ ∃ first, raw = first ++ ['百'] ∧ AtMostOneDigit first

/-- The reference in a text is read as the number that its numeral denotes, or as none. -/
def ReadsNumeral (text : String) (raw : List Char) : Prop :=
  ∃ index, ordinalIndex text = .ok index ∧ ∀ number, index = some number ↔ Denotes raw number ∧ 1 ≤ number

/-- A token that nothing but its ordinal reference resolves designates the unit that the numeral counts, in every
patch whose targets are resolved. -/
def DesignatesCounted (text : String) (raw : List Char) : Prop :=
  ∀ str plan spec (patch : RevisionPatch) targets token, patch.operation ≠ .fullRegeneration →
    token ∈ patch.tokens → strip token = text → namedUnits str plan spec text = [] →
    resolveRevisionTargets str plan spec patch = .ok targets →
    ∃ number outline unit, Denotes raw number ∧ 1 ≤ number ∧ spec = some outline ∧
      outline.outline[number - 1]? = some unit ∧
      resolveOneToken str plan spec token = .ok [strip unit.unitId] ∧ strip unit.unitId ∈ targets

/-! ### Positional numerals -/

private theorem foldl_eq_ofDigits (digits : List Nat) :
    digits.foldl (fun total digit => total * 10 + digit) 0 = Nat.ofDigits 10 digits.reverse := by
  rw [Nat.ofDigits_eq_foldr, List.foldr_reverse]
  congr 1
  funext total digit
  rw [Nat.cast_id, Nat.add_comm, Nat.mul_comm]

variable {number : Nat}

private theorem foldlM_digits_iff {digit : Char → Option Nat} (raw : List Char) (total : Nat) :
    raw.foldlM (fun total character => (digit character).map fun value => total * 10 + value) total = some number ↔
      ∃ digits, List.Forall₂ (fun character value => digit character = some value) raw digits ∧
        number = digits.foldl (fun total value => total * 10 + value) total := by
  induction raw generalizing total with
  | nil =>
    constructor
    · intro done
      cases done
      exact ⟨[], .nil, rfl⟩
    · rintro ⟨_, ⟨⟩, rfl⟩
      rfl
  | cons character rest ih =>
    rw [List.foldlM_cons]
    constructor
    · intro all
      obtain ⟨next, first, others⟩ := Option.bind_eq_some_iff.mp all
      obtain ⟨value, read, rfl⟩ := Option.map_eq_some_iff.mp first
      obtain ⟨digits, each, rfl⟩ := (ih _).mp others
      exact ⟨value :: digits, .cons read each, rfl⟩
    · rintro ⟨_, each, rfl⟩
      cases each with
      | cons read others =>
        rw [read]
        exact (ih _).mpr ⟨_, others, rfl⟩

private theorem foldlM_eq_some_iff {digit : Char → Option Nat} (raw : List Char) :
    raw.foldlM (fun total character => (digit character).map fun value => total * 10 + value) 0 = some number ↔
      Reads digit raw number := by
  simp only [foldlM_digits_iff, foldl_eq_ofDigits, Reads]

private theorem Reads.digit {digit : Char → Option Nat} {number : Nat} (read : Reads digit raw number) {character : Char}
    (member : character ∈ raw) : ∃ value, digit character = some value := by
  obtain ⟨digits, each, -⟩ := read
  induction each with
  | nil => cases member
  | cons first _ ih =>
    cases member with
    | head => exact ⟨_, first⟩
    | tail _ later => exact ih later

private theorem reads_arabic_iff (digits : ∀ character ∈ raw, character.isDigit = true) : Reads arabicDigit raw number ↔
      number = raw.foldl (fun total character => total * 10 + (character.toNat - '0'.toNat)) 0 := by
  have folded : ∀ total, raw.foldlM (fun total character => (arabicDigit character).map fun value =>
      total * 10 + value) total =
        some (raw.foldl (fun total character => total * 10 + (character.toNat - '0'.toNat)) total) := by
    induction raw with
    | nil => exact fun _ => rfl
    | cons character rest ih =>
      intro total
      have first : arabicDigit character = some (character.toNat - '0'.toNat) :=
        if_pos (digits character List.mem_cons_self)
      rw [List.foldlM_cons, first]
      exact ih (fun other member => digits other (List.mem_cons_of_mem _ member)) _
  rw [← foldlM_eq_some_iff, folded, Option.some_inj]
  exact eq_comm

/-! ### Chinese digits -/

variable {character : Char}

private theorem cnDigits_le {value : Nat} (read : cnDigits character = some value) : value ≤ 9 := by
  unfold cnDigits at read
  split at read <;> cases read <;> decide

private theorem cnDigits_of_isDigit (digit : character.isDigit = true) : cnDigits character = none := by
  unfold cnDigits
  split
  all_goals first | rfl | exact absurd digit (by decide)

private theorem cnDigits_pos (allowed : character ∈ ordinalChars) {value : Nat}
    (read : cnDigits character = some value) : 1 ≤ value := by
  refine Nat.pos_of_ne_zero fun zero => ?_
  subst zero
  unfold cnDigits at read
  split at read <;> cases read
  exact absurd allowed (by decide)

variable {part : List Char}

private theorem OneDigit.read {missing value : Nat} (one : OneDigit missing part value)
    (member : character ∈ part) : cnDigits character = some value := by
  cases one with
  | missing => cases member
  | digit read =>
    cases List.mem_singleton.mp member
    exact read

private theorem OneDigit.not_mem {missing value : Nat} (one : OneDigit missing part value)
    (other : cnDigits character = none) : character ∉ part := by
  intro member
  rw [one.read member] at other
  cases other

private theorem AtMostOneDigit.oneDigit (most : AtMostOneDigit part) (missing : Nat) :
    ∃ value, OneDigit missing part value := by
  obtain ⟨_, one⟩ := most
  cases one with
  | missing => exact ⟨_, .missing⟩
  | digit read => exact ⟨_, .digit read⟩

private theorem OneDigit.atMost {missing value : Nat} (one : OneDigit missing part value) : AtMostOneDigit part := by
  cases one with
  | missing => exact ⟨_, .missing⟩
  | digit read => exact ⟨_, .digit read⟩

private theorem OneDigit.pos {value : Nat} (one : OneDigit 1 part value)
    (allowed : ∀ character ∈ part, character ∈ ordinalChars) : 1 ≤ value := by
  cases one with
  | missing => exact Nat.le_refl 1
  | digit read => exact cnDigits_pos (allowed _ List.mem_cons_self) read

private theorem OneDigit.digitOr_eq {missing value : Nat} (one : OneDigit missing part value)
    (default : Nat) : digitOr missing default part = value := by
  cases one with
  | missing => rfl
  | digit read => exact congrArg (·.getD default) read

private theorem digitOr_le {missing default : Nat} (small : missing ≤ 9) (least : default ≤ 9) (part : List Char) :
    digitOr missing default part ≤ 9 := by
  unfold digitOr
  split
  · exact small
  · rename_i character
    cases read : cnDigits character with
    | none => exact least
    | some => exact cnDigits_le read
  · exact least

private theorem digitOr_pos (allowed : ∀ character ∈ part, character ∈ ordinalChars) : 1 ≤ digitOr 1 1 part := by
  unfold digitOr
  split
  · exact Nat.le_refl 1
  · rename_i character
    cases read : cnDigits character with
    | none => exact Nat.le_refl 1
    | some => exact cnDigits_pos (allowed _ List.mem_cons_self) read
  · exact Nat.le_refl 1

/-! ### The pattern -/

private theorem numeralAt_eq_some {rest : List Char} (found : numeralAt rest = some raw) :
    raw ≠ [] ∧ ∀ character ∈ raw, character ∈ ordinalChars := by
  obtain ⟨⟨filled, -⟩, same⟩ := Option.ite_none_right_eq_some.mp found
  cases same
  exact ⟨filled, fun character member => of_decide_eq_true (List.all_eq_true.mp List.all_takeWhile character member)⟩

private theorem searchOrdinal_eq_some {characters : List Char} (found : searchOrdinal characters = some raw) :
    raw ≠ [] ∧ ∀ character ∈ raw, character ∈ ordinalChars := by
  induction characters with
  | nil => cases found
  | cons character rest ih =>
    rcases Option.or_eq_some_iff.mp found with here | ⟨-, later⟩
    · exact numeralAt_eq_some (Option.ite_none_right_eq_some.mp here).2
    · exact ih later

private theorem readsNumeral_iff (matched : ordinalMatch text = some raw) : ReadsNumeral text raw ↔
      ∃ index, readNumeral raw = .ok index ∧ ∀ number, 1 ≤ number → (index = some number ↔ Denotes raw number) := by
  have reads : ordinalIndex text = (readNumeral raw).map fun index => index.filter fun value => 0 < value := by
    rw [ordinalIndex, matched]
  rw [ReadsNumeral, reads]
  cases readNumeral raw with
  | error =>
    constructor
    · rintro ⟨_, made, -⟩
      cases made
    · rintro ⟨_, made, -⟩
      cases made
  | ok index =>
    have filtered : ∀ number, (index.filter fun value => decide (0 < value)) = some number ↔
        index = some number ∧ 1 ≤ number := by
      intro number
      rw [Option.filter_eq_some_iff, decide_eq_true_iff]
      rfl
    constructor
    · rintro ⟨_, made, right⟩
      cases made
      refine ⟨index, rfl, fun number positive => ?_⟩
      have same := right number
      rw [filtered] at same
      exact ⟨fun read => (same.mp ⟨read, positive⟩).1, fun denotes => (same.mpr ⟨denotes, positive⟩).1⟩
    · rintro ⟨_, ⟨⟩, right⟩
      refine ⟨_, rfl, fun number => ?_⟩
      rw [filtered]
      exact and_congr_left (right number)

/-! ### Arabic digits -/

private theorem denotes_of_digits (filled : raw ≠ []) (digits : ∀ character ∈ raw, character.isDigit = true)
    {number : Nat} : Denotes raw number ↔ Reads arabicDigit raw number := by
  refine ⟨fun denotes => ?_, .arabic⟩
  cases denotes with
  | arabic read => exact read
  | positional read =>
    obtain ⟨character, member⟩ := List.exists_mem_of_ne_nil _ filled
    obtain ⟨value, chinese⟩ := read.digit member
    rw [cnDigits_of_isDigit (digits character member)] at chinese
    cases chinese
  | tens => exact absurd (digits '十' (List.mem_append_right _ List.mem_cons_self)) (by decide)
  | hundreds | hundredsAndTens =>
    exact absurd (digits '百' (List.mem_append_right _ List.mem_cons_self)) (by decide)

private theorem Reads.isDigit {number : Nat} (read : Reads arabicDigit raw number) {character : Char}
    (member : character ∈ raw) : character.isDigit = true := by
  obtain ⟨_, digit⟩ := read.digit member
  exact (Option.ite_none_right_eq_some.mp digit).1

/-! ### Numerals with a ten -/

private theorem parts_of_ten {front back : List Char} (noTen : '十' ∉ front) :
    (front ++ '十' :: back).takeWhile (fun character => decide (character ≠ '十')) = front ∧
      ((front ++ '十' :: back).dropWhile fun character => decide (character ≠ '十')).drop 1 = back := by
  have others : ∀ character ∈ front, decide (character ≠ '十') = true := by
    intro character member
    refine decide_eq_true fun ten => ?_
    subst ten
    exact noTen member
  rw [List.takeWhile_append_of_pos others, List.dropWhile_append_of_pos others]
  exact ⟨by simp, by simp⟩

private theorem chineseNumber_of_ten (ten : '十' ∈ raw) :
    chineseNumber raw = some (digitOr 1 1 (raw.takeWhile fun character => character ≠ '十') * 10 +
      digitOr 0 0 ((raw.dropWhile fun character => character ≠ '十').drop 1)) := by
  rw [chineseNumber, if_neg (List.ne_nil_of_mem ten), if_neg (not_not_intro ten)]

private theorem denotes_ten {front back : List Char} {ten one : Nat} (before : OneDigit 1 front ten)
    (after : OneDigit 0 back one) {number : Nat} : Denotes (front ++ '十' :: back) number ↔ number = ten * 10 + one := by
  have noHundred : '百' ∉ front ++ '十' :: back := by
    intro member
    rcases List.mem_append.mp member with early | late
    · exact before.not_mem rfl early
    · exact after.not_mem rfl (List.mem_of_ne_of_mem (by decide) late)
  constructor
  · intro denotes
    generalize whole : front ++ '十' :: back = raw at denotes noHundred
    cases denotes with
    | arabic read =>
      subst whole
      exact absurd (read.isDigit (List.mem_append_right _ List.mem_cons_self)) (by decide)
    | positional read =>
      subst whole
      obtain ⟨_, digit⟩ := read.digit (List.mem_append_right _ List.mem_cons_self)
      cases digit
    | @tens otherFront otherBack otherTen otherOne otherBefore otherAfter =>
      obtain ⟨front_eq, back_eq⟩ := @parts_of_ten _ back (before.not_mem rfl)
      obtain ⟨otherFront_eq, otherBack_eq⟩ := @parts_of_ten _ otherBack (otherBefore.not_mem rfl)
      rw [whole, otherFront_eq] at front_eq
      rw [whole, otherBack_eq] at back_eq
      subst front_eq back_eq
      rw [← before.digitOr_eq 1, ← after.digitOr_eq 0, otherBefore.digitOr_eq, otherAfter.digitOr_eq]
    | hundreds | hundredsAndTens =>
      exact absurd (List.mem_append_right _ List.mem_cons_self) noHundred
  · rintro rfl
    exact .tens before after

private theorem ten_of_denotes (allowed : ∀ character ∈ raw, character ∈ ordinalChars) (ten : '十' ∈ raw) {number : Nat}
    (small : number ≤ 99) (denotes : Denotes raw number) :
    ∃ front back, raw = front ++ '十' :: back ∧ AtMostOneDigit front ∧ AtMostOneDigit back := by
  cases denotes with
  | arabic read => exact absurd (read.isDigit ten) (by decide)
  | positional read =>
    obtain ⟨_, digit⟩ := read.digit ten
    cases digit
  | tens before after => exact ⟨_, _, rfl, before.atMost, after.atMost⟩
  | hundreds count =>
    rcases List.mem_append.mp ten with early | late
    · exact absurd early (count.not_mem rfl)
    · exact absurd (List.mem_singleton.mp late) (by decide)
  | hundredsAndTens count =>
    have hundred := count.pos fun character member => allowed character (List.mem_append_left _ member)
    omega

/-! ### Numerals without a ten -/

private theorem denotes_without_ten (noTen : '十' ∉ raw) (other : ¬ ∀ character ∈ raw, character.isDigit = true)
    (noHundreds : ¬ ∃ first, raw = first ++ ['百'] ∧ AtMostOneDigit first) :
    Denotes raw number ↔ Reads cnDigits raw number := by
  refine ⟨fun denotes => ?_, .positional⟩
  cases denotes with
  | arabic read => exact absurd (fun character => read.isDigit) other
  | positional read => exact read
  | tens => exact absurd (List.mem_append_right _ List.mem_cons_self) noTen
  | hundreds count => exact absurd ⟨_, rfl, count.atMost⟩ noHundreds
  | hundredsAndTens =>
    exact absurd (List.mem_append_right _ (List.mem_cons_of_mem _ (List.mem_append_right _ List.mem_cons_self)))
      noTen

private theorem chineseNumber_eq_some_iff (filled : raw ≠ []) (noTen : '十' ∉ raw) (positive : 1 ≤ number) :
    chineseNumber raw = some number ↔ Reads cnDigits raw number := by
  rw [chineseNumber, if_neg filled, if_pos noTen, Option.filter_eq_some_iff, foldlM_eq_some_iff]
  exact and_iff_left (decide_eq_true (Nat.pos_iff_ne_zero.mp positive))

/-! ### References -/

private theorem readsNumeral_iff_rightlyRead (matched : ordinalMatch text = some raw) :
    ReadsNumeral text raw ↔ RightlyRead raw := by
  obtain ⟨filled, allowed⟩ := searchOrdinal_eq_some matched
  rw [readsNumeral_iff matched]
  by_cases digits : raw.all (·.isDigit) = true
  · have each := List.all_eq_true.mp digits
    have noTen : '十' ∉ raw := fun ten => absurd (each _ ten) (by decide)
    have read : readNumeral raw = (intOfDigits raw).map some := if_pos digits
    rw [read]
    constructor
    · rintro ⟨index, made, -⟩
      refine ⟨fun _ => ?_, fun ten => absurd ten noTen, ?_⟩
      · by_contra long
        rw [intOfDigits, if_neg long] at made
        cases made
      · rintro - ⟨first, rfl, -⟩
        exact absurd (each '百' (List.mem_append_right _ List.mem_cons_self)) (by decide)
    · intro right
      rw [intOfDigits, if_pos (right.arabic digits)]
      refine ⟨_, rfl, fun number _ => ?_⟩
      rw [denotes_of_digits filled each, reads_arabic_iff each, Option.some_inj]
      exact eq_comm
  · have other : ¬ ∀ character ∈ raw, character.isDigit = true := fun each => digits (List.all_eq_true.mpr each)
    have read : readNumeral raw = .ok (chineseNumber raw) := if_neg digits
    rw [read]
    simp only [Except.ok.injEq, exists_eq_left']
    by_cases ten : '十' ∈ raw
    · rw [chineseNumber_of_ten ten]
      constructor
      · intro right
        have front : 1 ≤ digitOr 1 1 (raw.takeWhile fun character => character ≠ '十') :=
          digitOr_pos fun character member => allowed character ((List.takeWhile_sublist _).subset member)
        have front_le := digitOr_le (by decide : 1 ≤ 9) (by decide : 1 ≤ 9)
          (raw.takeWhile fun character => character ≠ '十')
        have back_le := digitOr_le (by decide : 0 ≤ 9) (by decide : 0 ≤ 9)
          ((raw.dropWhile fun character => character ≠ '十').drop 1)
        have denotes := (right _ (by omega)).mp rfl
        exact ⟨fun all => absurd all digits, fun _ => ten_of_denotes allowed ten (by omega) denotes,
          fun noTen => absurd ten noTen⟩
      · intro right number _
        obtain ⟨front, back, rfl, first, second⟩ := right.tens ten
        obtain ⟨tens, before⟩ := first.oneDigit 1
        obtain ⟨ones, after⟩ := second.oneDigit 0
        obtain ⟨front_eq, back_eq⟩ := @parts_of_ten _ back (before.not_mem rfl)
        rw [front_eq, back_eq, before.digitOr_eq, after.digitOr_eq, denotes_ten before after, Option.some_inj]
        exact eq_comm
    · constructor
      · intro right
        refine ⟨fun all => absurd all digits, fun isTen => absurd isTen ten, ?_⟩
        rintro - ⟨first, rfl, most⟩
        obtain ⟨hundred, count⟩ := most.oneDigit 1
        have positive := count.pos fun character member => allowed character (List.mem_append_left _ member)
        have made := (right (hundred * 100) (by omega)).mpr (.hundreds count)
        rw [chineseNumber_eq_some_iff filled ten (by omega)] at made
        obtain ⟨_, digit⟩ := made.digit (List.mem_append_right _ List.mem_cons_self)
        cases digit
      · intro right number positive
        rw [chineseNumber_eq_some_iff filled ten positive, denotes_without_ten ten other (right.hundreds ten)]

/-! ### Tokens -/

section Tokens

variable {str : Value → String} {plan : DocumentPlan} {spec : Option OutputSpec}

private theorem mem_foldl_distinct (units resolved : List String) (unitId : String) :
    unitId ∈ units.foldl (fun resolved unitId => if unitId ∈ resolved then resolved else resolved ++ [unitId])
      resolved ↔ unitId ∈ resolved ∨ unitId ∈ units := by
  induction units generalizing resolved with
  | nil => simp
  | cons first rest ih =>
    rw [List.foldl_cons, ih, List.mem_cons]
    split
    · rename_i known
      constructor
      · exact Or.imp_right Or.inr
      · rintro (member | rfl | later)
        · exact Or.inl member
        · exact Or.inl known
        · exact Or.inr later
    · rw [List.mem_append, List.mem_singleton, or_assoc]

private theorem foldlM_resolveNext {tokens : List String} {start found : List String × List String}
    (all : tokens.foldlM (resolveNext str plan spec) start = .ok found) (bound : found.2 = []) :
    start.2 = [] ∧ (∀ unitId ∈ start.1, unitId ∈ found.1) ∧ ∀ token ∈ tokens, ∃ units,
      resolveOneToken str plan spec token = .ok units ∧ units ≠ [] ∧ ∀ unitId ∈ units, unitId ∈ found.1 := by
  induction tokens generalizing start with
  | nil =>
    cases all
    exact ⟨bound, fun _ member => member, fun _ member => by cases member⟩
  | cons token rest ih =>
    rw [List.foldlM_cons] at all
    obtain ⟨next, first, others⟩ := exists_of_bind_eq_ok all
    obtain ⟨bare, kept, each⟩ := ih others
    rw [resolveNext] at first
    cases one : resolveOneToken str plan spec token with
    | error =>
      rw [one] at first
      cases first
    | ok units =>
      rw [one] at first
      by_cases none : units = []
      · have next_eq : (start.1, start.2 ++ [token]) = next := by
          simpa [Except.map, none] using first
        subst next_eq
        exact absurd bare (by simp)
      · have next_eq : (units.foldl (fun resolved unitId =>
            if unitId ∈ resolved then resolved else resolved ++ [unitId]) start.1, start.2) = next := by
          simpa [Except.map, none] using first
        subst next_eq
        refine ⟨bare, fun unitId member => kept _ ((mem_foldl_distinct _ _ _).mpr (Or.inl member)), ?_⟩
        intro other member
        cases member with
        | head => exact ⟨units, one, none, fun unitId unit => kept _ ((mem_foldl_distinct _ _ _).mpr (Or.inr unit))⟩
        | tail _ later => exact each other later

private theorem outlineUnitAt_ne_nil {index : Option Nat} (some : outlineUnitAt spec index ≠ []) :
    ∃ number outline unit, index = .some number ∧ 1 ≤ number ∧ spec = .some outline ∧
      outline.outline[number - 1]? = .some unit ∧ outlineUnitAt spec index = [strip unit.unitId] := by
  cases index with
  | none => exact absurd rfl some
  | some number =>
    cases spec with
    | none => exact absurd rfl some
    | some outline =>
      by_cases positive : 1 ≤ number
      · have units : outlineUnitAt (.some outline) (.some number) =
            (outline.outline[number - 1]?).toList.map fun unit => strip unit.unitId := if_pos positive
        rw [units] at some ⊢
        cases there : outline.outline[number - 1]? with
        | none => exact absurd (by rw [there]; rfl) some
        | some unit => exact ⟨number, outline, unit, rfl, positive, rfl, there, rfl⟩
      · exact absurd (if_neg positive) some

end Tokens

/-- What is read rightly designates the unit that it counts, or the patch has no targets. -/
theorem ReadsNumeral.designatesCounted (right : ReadsNumeral text raw) : DesignatesCounted text raw := by
  intro str plan spec patch targets token partly member same unnamed resolved
  obtain ⟨index, read, denoted⟩ := right
  rw [resolveRevisionTargets, if_neg partly] at resolved
  obtain ⟨found, all, bound⟩ := exists_of_bind_eq_ok resolved
  have left : found.2 = [] := by
    by_contra more
    rw [boundUnits, if_pos more] at bound
    cases bound
  have targets_eq : found.1 = targets := by
    rw [boundUnits, if_neg (not_not_intro left)] at bound
    split at bound
    · cases bound
    · exact Except.ok.inj bound
  obtain ⟨-, -, each⟩ := foldlM_resolveNext all left
  obtain ⟨units, one, filled, inTargets⟩ := each token member
  have written : text ≠ "" := by
    intro blank
    rw [resolveOneToken, same, if_pos blank] at one
    exact filled (Except.ok.inj one).symm
  have units_eq : outlineUnitAt spec index = units := by
    rw [resolveOneToken, same, if_neg written, if_neg (not_not_intro unnamed), read] at one
    exact Except.ok.inj one
  subst units_eq
  obtain ⟨number, outline, unit, rfl, positive, outlined, counted, only⟩ := outlineUnitAt_ne_nil filled
  rw [only] at one inTargets
  exact ⟨number, outline, unit, ((denoted number).mp rfl).1, positive, outlined, counted, one,
    targets_eq ▸ inTargets _ List.mem_cons_self⟩

/-- The reference in a text is read as what its numeral denotes, and resolves to the unit that it counts, for the
numerals that `RightlyRead` lists and for no others. -/
theorem ordinal_is_read_iff (matched : ordinalMatch text = some raw) :
    ReadsNumeral text raw ∧ DesignatesCounted text raw ↔ RightlyRead raw := by
  rw [and_iff_left_of_imp ReadsNumeral.designatesCounted]
  exact readsNumeral_iff_rightlyRead matched

/-- The twelfth chapter. -/
theorem twelfth_is_read :
    ReadsNumeral "第十二章" ['十', '二'] ∧ DesignatesCounted "第十二章" ['十', '二'] ↔ RightlyRead ['十', '二'] :=
  ordinal_is_read_iff (by decide +kernel)

/-- The hundred and twentieth section is read as the tenth. -/
theorem hundred_and_twenty_reads_as_ten :
    ordinalMatch "第一百二十章" = some ['一', '百', '二', '十'] ∧ Denotes ['一', '百', '二', '十'] 120 ∧
      ordinalIndex "第一百二十章" = .ok (some 10) ∧ ¬ ReadsNumeral "第一百二十章" ['一', '百', '二', '十'] := by
  have denotes : Denotes ['一', '百', '二', '十'] 120 :=
    @Denotes.hundredsAndTens ['一'] ['二'] [] 1 2 0 (.digit rfl) (.digit rfl) .missing
  have read : ordinalIndex "第一百二十章" = .ok (some 10) := by decide +kernel
  refine ⟨by decide +kernel, denotes, read, ?_⟩
  rintro ⟨index, made, right⟩
  cases read.symm.trans made
  exact absurd ((right 120).mpr ⟨denotes, by decide⟩) (by decide)

end HardwareDatabase.Replanning
