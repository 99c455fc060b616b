/-
Module: HardwareDatabase.Proofs.FormulaTokens
Purpose: The matches of the formula expression, told by their shape, and the text when the digits of each are
  replaced.
Trusted boundary: none
-/
import HardwareDatabase.Spreadsheets.Formulas

namespace HardwareDatabase.Spreadsheets

/-! ### The shape of a match -/

/-- The shape of what the expression matches. -/
structure Reference.Formed (reference : Reference) : Prop where
  letters : ∀ character ∈ reference.letters, character.isAlpha = true
  someLetter : 1 ≤ reference.letters.length
  fewLetters : reference.letters.length ≤ 3
  digits : ∀ character ∈ reference.digits, character.isDigit = true
  someDigit : 1 ≤ reference.digits.length
  fewDigits : reference.digits.length ≤ 7

/-- No character of a word follows. -/
def Ends (after : List Char) : Prop :=
  ∀ character, after.head? = some character → isWordChar character = false

variable {character : Char}

theorem isWordChar_of_isAlpha (letter : character.isAlpha = true) : isWordChar character = true := by
  simp [isWordChar, letter]

theorem isWordChar_of_isDigit (digit : character.isDigit = true) : isWordChar character = true := by
  simp [isWordChar, digit]

theorem not_isAlpha_of_isDigit (digit : character.isDigit = true) : character.isAlpha = false := by
  simp only [Char.isDigit, Bool.and_eq_true, decide_eq_true_eq, UInt32.le_iff_toNat_le] at digit
  delta Char.isAlpha Char.isUpper Char.isLower
  rw [Bool.or_eq_false_iff]
  have most : character.val.toNat ≤ 57 := digit.2
  have upper : 'A'.val.toNat = 65 := rfl
  have lower : 'a'.val.toNat = 97 := rfl
  simp only [Bool.and_eq_false_iff, decide_eq_false_iff_not, UInt32.le_iff_toNat_le, ge_iff_le]
  omega

theorem takeWhile_append_of_head {holds : Char → Bool} {run after : List Char}
    (all : ∀ character ∈ run, holds character = true)
    (ends : ∀ character, after.head? = some character → holds character = false) :
    (run ++ after).takeWhile holds = run := by
  rw [List.takeWhile_append_of_pos all]
  cases after with
  | nil => simp
  | cons character => simp [ends character rfl]

theorem dropWhile_append_of_head {holds : Char → Bool} {run after : List Char}
    (all : ∀ character ∈ run, holds character = true)
    (ends : ∀ character, after.head? = some character → holds character = false) :
    (run ++ after).dropWhile holds = after := by
  rw [List.dropWhile_append_of_pos all]
  cases after with
  | nil => rfl
  | cons character => simp [ends character rfl]

variable {text : List Char}

theorem takeDollar_of_head (other : ∀ character, text.head? = some character → character ≠ '$') :
    takeDollar text = (false, text) := by
  cases text with
  | nil => rfl
  | cons character => rw [takeDollar, if_neg (other character rfl)]

theorem takeDollar_append (marked : Bool) (other : ∀ character, text.head? = some character → character ≠ '$') :
    takeDollar (dollar marked ++ text) = (marked, text) := by
  cases marked with
  | false => exact takeDollar_of_head other
  | true => rfl

theorem ne_dollar_of_isWordChar (word : isWordChar character = true) : character ≠ '$' := by
  rintro rfl
  revert word
  decide

theorem head?_append_of_ne_nil {run after : List Char} (nonempty : 1 ≤ run.length)
    (first : (run ++ after).head? = some character) : character ∈ run := by
  cases run with
  | nil => cases nonempty
  | cons =>
    cases first
    exact List.mem_cons_self

theorem matchReference_shape (columnAbs rowAbs : Bool) {letters digits after : List Char}
    (alpha : ∀ character ∈ letters, character.isAlpha = true) (someLetter : 1 ≤ letters.length)
    (fewLetters : letters.length ≤ 3) (numeric : ∀ character ∈ digits, character.isDigit = true)
    (someDigit : 1 ≤ digits.length) (ends : Ends after) :
    matchReference (dollar columnAbs ++ (letters ++ (dollar rowAbs ++ (digits ++ after)))) =
      if digits.length ≤ 7 then some (⟨columnAbs, letters, rowAbs, digits⟩, after) else none := by
  have column : takeDollar (dollar columnAbs ++ (letters ++ (dollar rowAbs ++ (digits ++ after)))) =
      (columnAbs, letters ++ (dollar rowAbs ++ (digits ++ after))) := by
    refine takeDollar_append columnAbs ?_
    intro character first
    exact ne_dollar_of_isWordChar (isWordChar_of_isAlpha (alpha character (head?_append_of_ne_nil someLetter first)))
  have notLetter : ∀ character, (dollar rowAbs ++ (digits ++ after)).head? = some character →
      character.isAlpha = false := by
    intro character first
    cases rowAbs with
    | false => exact not_isAlpha_of_isDigit (numeric character (head?_append_of_ne_nil someDigit first))
    | true =>
      cases first
      decide
  have row : takeDollar (dollar rowAbs ++ (digits ++ after)) = (rowAbs, digits ++ after) := by
    refine takeDollar_append rowAbs ?_
    intro character first
    exact ne_dollar_of_isWordChar (isWordChar_of_isDigit (numeric character (head?_append_of_ne_nil someDigit first)))
  have notDigit : ∀ character, after.head? = some character → character.isDigit = false := by
    intro character first
    have other := ends character first
    simp only [isWordChar, Bool.or_eq_false_iff] at other
    exact other.1.2
  have ended : after.head?.all (fun character => !isWordChar character) = true := by
    cases after with
    | nil => rfl
    | cons character => simp [ends character rfl]
  simp only [matchReference, column, takeWhile_append_of_head alpha notLetter,
    dropWhile_append_of_head alpha notLetter, row, takeWhile_append_of_head numeric notDigit,
    dropWhile_append_of_head numeric notDigit, ended]
  simp [someLetter, fewLetters, someDigit]

theorem eq_dollar_append_takeDollar (text : List Char) : text = dollar (takeDollar text).1 ++ (takeDollar text).2 := by
  cases text with
  | nil => rfl
  | cons =>
    rw [takeDollar]
    split
    · rename_i here
      rw [here]
      rfl
    · rfl

variable {reference : Reference}

/-- A match is a part of the text that has the shape and is not followed by a character of a word. -/
theorem matchReference_eq_some_iff {after : List Char} : matchReference text = some (reference, after) ↔
      text = reference.text ++ after ∧ reference.Formed ∧ Ends after := by
  constructor
  · intro matched
    simp only [matchReference] at matched
    split at matched
    · rename_i fits
      obtain ⟨someLetter, fewLetters, someDigit, fewDigits, ended⟩ := fits
      cases matched
      refine ⟨?_, ⟨?_, someLetter, fewLetters, ?_, someDigit, fewDigits⟩, ?_⟩
      · have column := eq_dollar_append_takeDollar text
        have row := eq_dollar_append_takeDollar ((takeDollar text).2.dropWhile Char.isAlpha)
        rw [Reference.text]
        simp only [List.append_assoc, List.takeWhile_append_dropWhile, ← row]
        exact column
      · intro character member
        exact List.all_eq_true.mp List.all_takeWhile character member
      · intro character member
        exact List.all_eq_true.mp List.all_takeWhile character member
      · intro character first
        rw [first] at ended
        simpa using ended
    · cases matched
  · rintro ⟨rfl, formed, ends⟩
    rw [Reference.text]
    simp only [List.append_assoc]
    rw [matchReference_shape reference.columnAbs reference.rowAbs formed.letters formed.someLetter formed.fewLetters
      formed.digits formed.someDigit ends, if_pos formed.fewDigits]

/-! ### The tokens of a text -/

@[simp] theorem tokens_nil (afterWord : Bool) : tokens afterWord [] = [] := by
  cases afterWord with
  | false => rw [tokens]
  | true => rw [tokens]

theorem tokens_true_cons (character : Char) (rest : List Char) :
    tokens true (character :: rest) = .character character :: tokens (isWordChar character) rest := by
  rw [tokens]

theorem tokens_of_match {after : List Char} (matched : matchReference text = some (reference, after)) :
    tokens false text = .reference reference :: tokens true after := by
  cases text with
  | nil => cases matched
  | cons =>
    rw [tokens]
    split
    · rename_i found remaining there
      rw [matched] at there
      cases there
      rfl
    · rename_i none
      rw [matched] at none
      cases none

theorem tokens_of_no_match {rest : List Char} (none : matchReference (character :: rest) = none) :
    tokens false (character :: rest) = .character character :: tokens (isWordChar character) rest := by
  rw [tokens]
  split
  · rename_i found remaining there
    rw [none] at there
    cases there
  · rfl

theorem render_tokens (afterWord : Bool) (text : List Char) :
    render (tokens afterWord text) = text ∧ ∀ reference, .reference reference ∈ tokens afterWord text →
      reference.Formed := by
  induction afterWord, text using tokens.induct with
  | case1 =>
    rw [tokens_nil]
    exact ⟨rfl, nofun⟩
  | case2 character rest ih =>
    rw [tokens_true_cons]
    refine ⟨congrArg (character :: ·) ih.1, ?_⟩
    intro reference member
    exact ih.2 reference (List.mem_of_ne_of_mem (by nofun) member)
  | case3 character rest reference after matched ih =>
    rw [tokens_of_match matched]
    obtain ⟨whole, formed, -⟩ := matchReference_eq_some_iff.mp matched
    refine ⟨by rw [render, ih.1, whole], ?_⟩
    intro other member
    rcases List.mem_cons.mp member with same | member
    · cases same
      exact formed
    · exact ih.2 other member
  | case4 character rest none ih =>
    rw [tokens_of_no_match none]
    refine ⟨congrArg (character :: ·) ih.1, ?_⟩
    intro reference member
    exact ih.2 reference (List.mem_of_ne_of_mem (by nofun) member)

/-! ### New digits -/

/-- A match with other digits. -/
def redigit (newDigits : Reference → List Char) : Token → Token
  | .character character => .character character
  | .reference reference => .reference { reference with digits := newDigits reference }

/-- A text whose matches have other digits. -/
def redigited (newDigits : Reference → List Char) (afterWord : Bool) (text : List Char) : List Char :=
  render ((tokens afterWord text).map (redigit newDigits))

section Redigited

variable {newDigits : Reference → List Char}

@[simp] theorem redigited_nil (afterWord : Bool) : redigited newDigits afterWord [] = [] := by
  rw [redigited, tokens_nil, List.map_nil, render]

theorem redigited_true_cons (character : Char) (rest : List Char) : redigited newDigits true (character :: rest) =
      character :: redigited newDigits (isWordChar character) rest := by
  rw [redigited, tokens_true_cons, List.map_cons, redigit, render, redigited]

theorem redigited_of_match {after : List Char} (matched : matchReference text = some (reference, after)) :
    redigited newDigits false text = dollar reference.columnAbs ++ (reference.letters ++ (dollar reference.rowAbs ++
        (newDigits reference ++ redigited newDigits true after))) := by
  rw [redigited, tokens_of_match matched, List.map_cons, redigit, render, redigited, Reference.text]
  simp only [List.append_assoc]

theorem redigited_of_no_match {rest : List Char} (none : matchReference (character :: rest) = none) :
    redigited newDigits false (character :: rest) = character :: redigited newDigits (isWordChar character) rest := by
  rw [redigited, tokens_of_no_match none, List.map_cons, redigit, render, redigited]

theorem head?_match {columnAbs : Bool} {letters more : List Char} (someLetter : 1 ≤ letters.length) :
    (dollar columnAbs ++ (letters ++ more)).head? =
      if columnAbs then some '$' else letters.head? := by
  cases columnAbs with
  | true => rfl
  | false =>
    cases letters with
    | nil => cases someLetter
    | cons => rfl

theorem head?_redigited (afterWord : Bool) (text : List Char) :
    (redigited newDigits afterWord text).head? = text.head? := by
  cases text with
  | nil => rw [redigited_nil]
  | cons character rest =>
    cases afterWord with
    | true => rw [redigited_true_cons, List.head?_cons, List.head?_cons]
    | false =>
      cases matched : matchReference (character :: rest) with
      | none => rw [redigited_of_no_match matched, List.head?_cons, List.head?_cons]
      | some found =>
        obtain ⟨reference, after⟩ := found
        obtain ⟨whole, formed, -⟩ := matchReference_eq_some_iff.mp matched
        rw [redigited_of_match matched, whole, Reference.text, head?_match formed.someLetter]
        simp only [List.append_assoc]
        rw [head?_match formed.someLetter]

theorem ends_redigited {afterWord : Bool} {text : List Char} (ends : Ends text) :
    Ends (redigited newDigits afterWord text) := by
  rw [Ends, head?_redigited]
  exact ends

theorem not_isDigit_of_ends {after : List Char} (ends : Ends after) :
    ∀ character, after.head? = some character → character.isDigit = false := by
  intro character first
  have other := ends character first
  simp only [isWordChar, Bool.or_eq_false_iff] at other
  exact other.1.2

theorem redigited_eq_iff (numeric : ∀ reference, ∀ character ∈ newDigits reference, character.isDigit = true)
    {afterWord : Bool} : redigited newDigits afterWord text = text ↔
      ∀ reference, .reference reference ∈ tokens afterWord text → newDigits reference = reference.digits := by
  have skip : ∀ {character : Char} {later : List Token} {same : Prop},
      (same ↔ ∀ reference, .reference reference ∈ later → newDigits reference = reference.digits) →
      (same ↔ ∀ reference, .reference reference ∈ Token.character character :: later →
        newDigits reference = reference.digits) := by
    intro character later same known
    rw [known]
    constructor
    · intro all reference member
      exact all reference (List.mem_of_ne_of_mem (by nofun) member)
    · intro all reference member
      exact all reference (List.mem_cons_of_mem _ member)
  induction afterWord, text using tokens.induct with
  | case1 =>
    rw [redigited_nil, tokens_nil]
    exact ⟨fun _ => nofun, fun _ => rfl⟩
  | case2 character rest ih =>
    rw [redigited_true_cons, tokens_true_cons, List.cons.injEq]
    exact skip ((and_iff_right rfl).trans ih)
  | case3 character rest reference after matched ih =>
    obtain ⟨whole, formed, ends⟩ := matchReference_eq_some_iff.mp matched
    have endsLater := @ends_redigited newDigits true _ ends
    have cancel : redigited newDigits false (character :: rest) = character :: rest ↔
        newDigits reference ++ redigited newDigits true after = reference.digits ++ after := by
      rw [redigited_of_match matched, whole, Reference.text]
      simp only [List.append_assoc, List.append_cancel_left_eq]
    rw [cancel, tokens_of_match matched]
    constructor
    · intro same
      have digits := congrArg (List.takeWhile Char.isDigit) same
      rw [takeWhile_append_of_head (numeric reference) (not_isDigit_of_ends endsLater),
        takeWhile_append_of_head formed.digits (not_isDigit_of_ends ends)] at digits
      rw [digits, List.append_cancel_left_eq] at same
      intro other member
      rcases List.mem_cons.mp member with here | member
      · cases here
        exact digits
      · exact ih.mp same other member
    · intro all
      rw [all reference List.mem_cons_self, ih.mpr fun other member => all other (List.mem_cons_of_mem _ member)]
  | case4 character rest unmatched ih =>
    rw [redigited_of_no_match unmatched, tokens_of_no_match unmatched, List.cons.injEq]
    exact skip ((and_iff_right rfl).trans ih)

end Redigited

/-! ### Moved formulas -/

@[simp] theorem number_toDigits (reference : Reference) (row : Nat) :
    { reference with digits := Nat.toDigits 10 row }.number = row :=
  Nat.ofDigitChars_ten_toDigits

/-- The digits of a match after rows have moved. -/
def movedDigits (threshold delta : Int) (reference : Reference) : List Char :=
  Nat.toDigits 10 (movedNumber threshold delta reference)

theorem isDigit_of_mem_movedDigits (threshold delta : Int) (reference : Reference) :
    ∀ character ∈ movedDigits threshold delta reference, character.isDigit = true :=
  fun _ member => Nat.isDigit_of_mem_toDigits (by decide) (by decide) member

theorem length_movedDigits_pos (threshold delta : Int) (reference : Reference) :
    1 ≤ (movedDigits threshold delta reference).length :=
  Nat.length_toDigits_pos

/-- A match is in a deleted row. -/
def InDeleted (deleted : Option (Int × Int)) (reference : Reference) : Prop :=
  ∃ range ∈ deleted, range.1 ≤ reference.number ∧ reference.number ≤ range.2

theorem shiftTokens_eq_ok_iff {threshold delta : Int} {deleted : Option (Int × Int)} {items shifted : List Token} :
    shiftTokens threshold delta deleted items = .ok shifted ↔
      (∀ reference, .reference reference ∈ items → ¬ InDeleted deleted reference) ∧
        shifted = items.map (redigit (movedDigits threshold delta)) := by
  induction items generalizing shifted with
  | nil =>
    constructor
    · rintro ⟨⟩
      exact ⟨nofun, rfl⟩
    · rintro ⟨-, rfl⟩
      rfl
  | cons item rest ih =>
    cases item with
    | character =>
      rw [shiftTokens]
      cases done : shiftTokens threshold delta deleted rest with
      | error =>
        constructor
        · nofun
        · rintro ⟨all, rfl⟩
          have later := ih.mpr
            ⟨fun reference member => all reference (List.mem_cons_of_mem _ member), rfl⟩
          rw [done] at later
          cases later
      | ok =>
        obtain ⟨all, rfl⟩ := ih.mp done
        constructor
        · rintro ⟨⟩
          exact ⟨fun reference member => all reference (List.mem_of_ne_of_mem (by nofun) member), rfl⟩
        · rintro ⟨-, rfl⟩
          rfl
    | reference reference =>
      rw [shiftTokens]
      by_cases inDeleted : InDeleted deleted reference
      · constructor
        · intro done
          rw [shiftReference, if_pos (show ∃ range ∈ deleted, _ from inDeleted)] at done
          cases done
        · rintro ⟨all, -⟩
          exact absurd inDeleted (all reference List.mem_cons_self)
      · rw [shiftReference, if_neg (show ¬ ∃ range ∈ deleted, _ from inDeleted)]
        change (shiftTokens threshold delta deleted rest >>= _) = _ ↔ _
        cases done : shiftTokens threshold delta deleted rest with
        | error =>
          constructor
          · nofun
          · rintro ⟨all, rfl⟩
            have later := ih.mpr
              ⟨fun other member => all other (List.mem_cons_of_mem _ member), rfl⟩
            rw [done] at later
            cases later
        | ok =>
          obtain ⟨all, rfl⟩ := ih.mp done
          constructor
          · rintro ⟨⟩
            refine ⟨?_, rfl⟩
            intro other member
            rcases List.mem_cons.mp member with same | member
            · cases same
              exact inDeleted
            · exact all other member
          · rintro ⟨-, rfl⟩
            rfl

/-- What moving a formula does: it is not refused, no match is in a deleted row, and the matches get their new digits. -/
theorem shiftFormulaText_eq_ok_iff {threshold delta : Int} {deleted : Option (Int × Int)} {shifted : List Char} :
    shiftFormulaText threshold delta deleted text = .ok shifted ↔
      refusal? text = none ∧ (∀ reference, .reference reference ∈ tokens false text → ¬ InDeleted deleted reference) ∧
        shifted = redigited (movedDigits threshold delta) false text := by
  rw [shiftFormulaText]
  by_cases empty : text = []
  · subst empty
    rw [if_pos rfl, tokens_nil, redigited_nil]
    constructor
    · rintro ⟨⟩
      exact ⟨by decide, nofun, rfl⟩
    · rintro ⟨-, -, rfl⟩
      rfl
  · rw [if_neg empty]
    cases refused : refusal? text with
    | some =>
      constructor
      · nofun
      · rintro ⟨allowed, -⟩
        cases allowed
    | none =>
      rw [eq_self, true_and]
      cases done : shiftTokens threshold delta deleted (tokens false text) with
      | error =>
        constructor
        · nofun
        · rintro ⟨all, -⟩
          rw [shiftTokens_eq_ok_iff.mpr ⟨all, rfl⟩] at done
          cases done
      | ok =>
        obtain ⟨all, rfl⟩ := shiftTokens_eq_ok_iff.mp done
        constructor
        · rintro ⟨⟩
          exact ⟨all, rfl⟩
        · rintro ⟨-, rfl⟩
          rfl

end HardwareDatabase.Spreadsheets
