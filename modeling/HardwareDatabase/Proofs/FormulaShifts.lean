/-
Module: HardwareDatabase.Proofs.FormulaShifts
Purpose: What inserting and deleting rows does to formulas, word by word: when each of them refers to the moved cells,
  and when a shared formula still has the text of its group.
Trusted boundary: none
-/
import HardwareDatabase.Proofs.RowOperations
import Mathlib.Data.List.Flatten

namespace HardwareDatabase.Spreadsheets

/-! ### Words and the characters between them -/

/-- The text of some pieces. -/
def joined (first : List Char) (later : List (Char × List Char)) : List Char :=
  first ++ later.flatMap fun piece => piece.1 :: piece.2

/-- Words have the characters of words, and what is between them is none. -/
structure WellCut (first : List Char) (later : List (Char × List Char)) : Prop where
  first : ∀ character ∈ first, isNameChar character = true
  separators : ∀ piece ∈ later, isNameChar piece.1 = false
  words : ∀ piece ∈ later, ∀ character ∈ piece.2, isNameChar character = true

private theorem pieces_spec (text : List Char) :
    joined (pieces text).1 (pieces text).2 = text ∧ WellCut (pieces text).1 (pieces text).2 := by
  induction text with
  | nil => exact ⟨rfl, nofun, nofun, nofun⟩
  | cons character rest ih =>
    obtain ⟨whole, cut⟩ := ih
    rw [pieces]
    split
    · rename_i inName
      refine ⟨congrArg (character :: ·) whole, ?_, cut.separators, cut.words⟩
      rw [List.forall_mem_cons]
      exact ⟨inName, cut.first⟩
    · rename_i between
      refine ⟨congrArg (character :: ·) whole, nofun, ?_, ?_⟩
      · rw [List.forall_mem_cons]
        exact ⟨Bool.eq_false_iff.mpr between, cut.separators⟩
      · rw [List.forall_mem_cons]
        exact ⟨cut.first, cut.words⟩

private theorem pieces_joined {first : List Char} {later : List (Char × List Char)} (cut : WellCut first later) :
    pieces (joined first later) = (first, later) := by
  have word : ∀ {run after : List Char}, (∀ character ∈ run, isNameChar character = true) →
      pieces (run ++ after) = (run ++ (pieces after).1, (pieces after).2) := by
    intro run after chars
    induction run with
    | nil => rfl
    | cons character rest ih =>
      rw [List.forall_mem_cons] at chars
      rw [List.cons_append, pieces]
      rw [if_pos chars.1, ih chars.2]
      rfl
  induction later generalizing first with
  | nil =>
    rw [joined, word cut.first]
    exact congrArg (·, _) (List.append_nil first)
  | cons piece rest ih =>
    obtain ⟨separator, next⟩ := piece
    have separators := List.forall_mem_cons.mp cut.separators
    have others := List.forall_mem_cons.mp cut.words
    have tail := ih ⟨others.1, separators.2, others.2⟩
    rw [joined, word cut.first, List.flatMap_cons]
    change (first ++ (pieces (separator :: joined next rest)).1, (pieces (separator :: joined next rest)).2) = _
    rw [pieces]
    rw [if_neg (Bool.eq_false_iff.mp separators.1), tail]
    exact congrArg (·, _) (List.append_nil first)

/-! ### Matches lie in words -/

private theorem isNameChar_of_isWordChar {character : Char} (word : isWordChar character = true) :
    isNameChar character = true := by
  simp [isNameChar, word]

private theorem not_isWordChar_of_not_isNameChar {character : Char} (between : isNameChar character = false) :
    isWordChar character = false := by
  cases word : isWordChar character with
  | false => rfl
  | true =>
    rw [isNameChar_of_isWordChar word] at between
    cases between

variable {reference : Reference}

private theorem isNameChar_of_mem_text (formed : reference.Formed) :
    ∀ character ∈ reference.text, isNameChar character = true := by
  have mark : ∀ marked, ∀ character ∈ dollar marked, isNameChar character = true := by
    intro marked
    cases marked with
    | false => exact nofun
    | true =>
      intro character member
      rw [List.mem_singleton.mp member]
      decide
  simp only [Reference.text, List.forall_mem_append]
  refine ⟨⟨⟨mark _, ?_⟩, mark _⟩, ?_⟩
  · intro character member
    exact isNameChar_of_isWordChar (isWordChar_of_isAlpha (formed.letters character member))
  · intro character member
    exact isNameChar_of_isWordChar (isWordChar_of_isDigit (formed.digits character member))

section Separated

variable {separator : Char} (between : isNameChar separator = false)

include between

private theorem matchReference_append_separator (word after : List Char) : matchReference (word ++ separator :: after) =
      (matchReference word).map fun found => (found.1, found.2 ++ separator :: after) := by
  have ends : ∀ {rest : List Char}, Ends rest → Ends (rest ++ separator :: after) := by
    intro rest restEnds
    cases rest with
    | nil =>
      rintro character ⟨⟩
      exact not_isWordChar_of_not_isNameChar between
    | cons => exact restEnds
  cases matched : matchReference word with
  | some found =>
    obtain ⟨reference, rest⟩ := found
    obtain ⟨rfl, formed, restEnds⟩ := matchReference_eq_some_iff.mp matched
    exact matchReference_eq_some_iff.mpr ⟨List.append_assoc _ _ _, formed, ends restEnds⟩
  | none =>
    cases longer : matchReference (word ++ separator :: after) with
    | none => rfl
    | some found =>
      exfalso
      obtain ⟨reference, rest⟩ := found
      obtain ⟨whole, formed, restEnds⟩ := matchReference_eq_some_iff.mp longer
      obtain ⟨middle, same, tail⟩ | ⟨middle, same, tail⟩ := List.append_eq_append_iff.mp whole
      · cases middle with
        | nil =>
          rw [List.append_nil] at same
          have found := matchReference_eq_some_iff.mpr
            ⟨(same.symm.trans (List.append_nil _).symm : word = reference.text ++ []), formed, nofun⟩
          rw [matched] at found
          cases found
        | cons =>
          obtain rfl := (List.cons.inj tail).1
          have inName := isNameChar_of_mem_text formed separator (by rw [same]; simp)
          rw [between] at inName
          cases inName
      · have middleEnds : Ends middle := by
          cases middle with
          | nil => exact nofun
          | cons =>
            rw [tail] at restEnds
            exact restEnds
        have found := matchReference_eq_some_iff.mpr ⟨same, formed, middleEnds⟩
        rw [matched] at found
        cases found

private theorem tokens_append_separator (afterWord : Bool) (word after : List Char) :
    tokens afterWord (word ++ separator :: after) =
      tokens afterWord word ++ .character separator :: tokens false after := by
  have notWord := not_isWordChar_of_not_isNameChar between
  have alone := matchReference_append_separator between
  induction afterWord, word using tokens.induct with
  | case1 afterWord =>
    rw [tokens_nil, List.nil_append, List.nil_append]
    cases afterWord with
    | true => rw [tokens_true_cons, notWord]
    | false => rw [tokens_of_no_match (alone [] after), notWord]
  | case2 character rest ih =>
    rw [List.cons_append, tokens_true_cons, tokens_true_cons, ih, List.cons_append]
  | case3 character rest reference remaining matched ih =>
    have longer := alone (character :: rest) after
    rw [matched, Option.map_some] at longer
    rw [tokens_of_match longer, tokens_of_match matched, ih, List.cons_append]
  | case4 character rest unmatched ih =>
    have longer := alone (character :: rest) after
    rw [unmatched, Option.map_none, List.cons_append] at longer
    rw [List.cons_append, tokens_of_no_match longer, tokens_of_no_match unmatched, ih, List.cons_append]

end Separated

private theorem render_append (before after : List Token) :
    render (before ++ after) = render before ++ render after := by
  induction before with
  | nil => rfl
  | cons item rest ih =>
    cases item with
    | character => rw [List.cons_append, render, render, ih, List.cons_append]
    | reference => rw [List.cons_append, render, render, ih, List.append_assoc]

section Words

variable {newDigits : Reference → List Char}

private theorem redigited_append_separator {separator : Char} (between : isNameChar separator = false)
    (word after : List Char) : redigited newDigits false (word ++ separator :: after) =
      redigited newDigits false word ++ separator :: redigited newDigits false after := by
  rw [redigited, tokens_append_separator between, List.map_append, render_append]
  rfl

private theorem redigited_joined {first : List Char} {later : List (Char × List Char)} (cut : WellCut first later) :
    redigited newDigits false (joined first later) = joined (redigited newDigits false first)
        (later.map fun piece => (piece.1, redigited newDigits false piece.2)) := by
  induction later generalizing first with
  | nil => rw [joined, joined, List.flatMap_nil, List.append_nil, List.map_nil, List.flatMap_nil, List.append_nil]
  | cons piece rest ih =>
    obtain ⟨separator, next⟩ := piece
    have separators := List.forall_mem_cons.mp cut.separators
    have others := List.forall_mem_cons.mp cut.words
    have tail := ih ⟨others.1, separators.2, others.2⟩
    rw [joined, List.flatMap_cons, List.cons_append, redigited_append_separator separators.1, ← joined, tail]
    rfl

variable (numeric : ∀ reference, ∀ character ∈ newDigits reference, character.isDigit = true)

include numeric in
private theorem isNameChar_of_mem_redigited {word : List Char}
    (chars : ∀ character ∈ word, isNameChar character = true) :
    ∀ character ∈ redigited newDigits false word, isNameChar character = true := by
  obtain ⟨whole, formed⟩ := render_tokens false word
  rw [← whole] at chars
  rw [redigited]
  revert chars formed
  generalize tokens false word = items
  intro chars formed
  induction items with
  | nil => exact List.forall_mem_nil _
  | cons item rest ih =>
    have formedRest := fun reference member => formed reference (List.mem_cons_of_mem _ member)
    cases item with
    | character =>
      rw [render, List.forall_mem_cons] at chars
      rw [List.map_cons, redigit, render, List.forall_mem_cons]
      exact ⟨chars.1, ih chars.2 formedRest⟩
    | reference reference =>
      rw [render, List.forall_mem_append] at chars
      rw [List.map_cons, redigit, render, List.forall_mem_append]
      refine ⟨?_, ih chars.2 formedRest⟩
      have before := chars.1
      simp only [Reference.text, List.forall_mem_append] at before ⊢
      refine ⟨before.1, ?_⟩
      intro character member
      exact isNameChar_of_isWordChar (isWordChar_of_isDigit (numeric reference character member))

include numeric in
private theorem pieces_redigited (text : List Char) :
    pieces (redigited newDigits false text) = (redigited newDigits false (pieces text).1,
        (pieces text).2.map fun piece => (piece.1, redigited newDigits false piece.2)) := by
  obtain ⟨whole, cut⟩ := pieces_spec text
  have split := @redigited_joined newDigits _ _ cut
  rw [whole] at split
  rw [split]
  refine pieces_joined ⟨isNameChar_of_mem_redigited numeric cut.first, ?_, ?_⟩
  · rw [List.forall_mem_map]
    exact cut.separators
  · rw [List.forall_mem_map]
    exact fun piece member => isNameChar_of_mem_redigited numeric (cut.words piece member)

include numeric in
private theorem words_redigited (text : List Char) : words (redigited newDigits false text) =
      (words text).map fun word => { word with chars := redigited newDigits false word.chars } := by
  have each : ∀ (place : Place) (chars : List Char) (later : List (Char × List Char)),
      wordsFrom place (redigited newDigits false chars)
          (later.map fun piece => (piece.1, redigited newDigits false piece.2)) =
        (wordsFrom place chars later).map fun word =>
          { word with chars := redigited newDigits false word.chars } := by
    intro place chars later
    induction later generalizing place chars with
    | nil => rfl
    | cons piece rest ih =>
      rw [List.map_cons, wordsFrom, wordsFrom, ih]
      rfl
  rw [words, pieces_redigited numeric, each]
  rfl

include numeric in
private theorem preserves_redigited_iff {image : Int → Option Int} (text : String) (offset newOffset : Offset) :
    Preserves image ⟨text, offset⟩ ⟨String.ofList (redigited newDigits false text.toList), newOffset⟩ ↔
      ∀ word ∈ words text.toList,
        WordPreserved image offset newOffset word { word with chars := redigited newDigits false word.chars } := by
  rw [Preserves, String.toList_ofList, pieces_redigited numeric, words_redigited numeric, List.map_map,
    List.forall₂_map_right_iff, List.forall₂_same]
  exact and_iff_right rfl

end Words

private theorem mem_tokens_joined {first : List Char} {later : List (Char × List Char)} (cut : WellCut first later)
    {place : Place} {word : Word} (member : word ∈ wordsFrom place first later) {item : Token}
    (there : item ∈ tokens false word.chars) : item ∈ tokens false (joined first later) := by
  induction later generalizing place first with
  | nil =>
    rw [wordsFrom, List.mem_singleton] at member
    rw [member] at there
    rwa [joined, List.flatMap_nil, List.append_nil]
  | cons piece rest ih =>
    obtain ⟨separator, next⟩ := piece
    have separators := List.forall_mem_cons.mp cut.separators
    have others := List.forall_mem_cons.mp cut.words
    have whole : joined first ((separator, next) :: rest) = first ++ separator :: joined next rest := by
      rw [joined, List.flatMap_cons, List.cons_append, joined]
    rw [whole, tokens_append_separator separators.1, List.mem_append, List.mem_cons]
    rw [wordsFrom, List.mem_cons] at member
    rcases member with rfl | later
    · exact Or.inl there
    · exact Or.inr (Or.inr (ih ⟨others.1, separators.2, others.2⟩ later))

/-! ### One word -/

private theorem cell?_eq_some_iff {offset : Offset} {cell : Int × Int} : reference.cell? offset = some cell ↔
      ((1 ≤ reference.columnAt offset ∧ reference.columnAt offset ≤ lastColumn) ∧
        1 ≤ reference.rowAt offset ∧ reference.rowAt offset ≤ lastRow) ∧
          cell = (reference.columnAt offset, reference.rowAt offset) := by
  rw [Reference.cell?]
  split
  · rename_i inside
    rw [and_iff_right inside, Option.some.injEq, eq_comm]
  · rename_i outside
    exact ⟨nofun, fun known => absurd known.1 outside⟩

private theorem isSome_cell?_iff : (reference.cell? .zero).isSome = true ↔
    (1 ≤ columnIndex (reference.letters.map Char.toUpper) ∧
      columnIndex (reference.letters.map Char.toUpper) ≤ lastColumn) ∧
        1 ≤ reference.number ∧ reference.number ≤ lastRow := by
  simp only [Reference.cell?, Reference.columnAt, Reference.rowAt, Offset.zero, ite_self, Int.add_zero]
  split
  · rename_i inside
    simp only [Option.isSome_some, true_iff]
    omega
  · rename_i outside
    simp only [Option.isSome_none, Bool.false_eq_true, false_iff]
    omega

private theorem wholeReference_eq_some_iff {chars : List Char} : wholeReference chars = some reference ↔
      chars = reference.text ∧ reference.Formed ∧ (reference.cell? .zero).isSome = true := by
  rw [wholeReference]
  constructor
  · intro found
    split at found
    · rename_i other matched
      split at found
      · rename_i inside
        cases found
        obtain ⟨rfl, formed, -⟩ := matchReference_eq_some_iff.mp matched
        exact ⟨List.append_nil _, formed, inside⟩
      · cases found
    · cases found
  · rintro ⟨rfl, formed, inside⟩
    have matched := matchReference_eq_some_iff.mpr ⟨(List.append_nil _).symm, formed, nofun⟩
    rw [matched]
    exact if_pos inside

private theorem reference?_eq_some_iff {word : Word} : word.reference? = some reference ↔
    (word.place = .plain ∧ word.called = false) ∧ word.chars = reference.text ∧ reference.Formed ∧
      (reference.cell? .zero).isSome = true := by
  rw [Word.reference?, ← wholeReference_eq_some_iff]
  split
  · rename_i placed
    exact (and_iff_right placed).symm
  · rename_i elsewhere
    exact ⟨nofun, fun known => absurd known.1 elsewhere⟩

private theorem redigited_text {newDigits : Reference → List Char} (formed : reference.Formed) :
    redigited newDigits false reference.text = { reference with digits := newDigits reference }.text := by
  rw [redigited_of_match (matchReference_eq_some_iff.mpr ⟨(List.append_nil _).symm, formed, nofun⟩), redigited_nil,
    List.append_nil, Reference.text]
  simp only [List.append_assoc]

variable {formula : Formula} {deleted : Option (Int × Int)}

/-- The reference that a word of an accepted formula is lies in no deleted row. -/
theorem not_inDeleted_of_movable (movable : Movable deleted formula)
    {word : Word} (member : word ∈ words formula.text.toList)
    (found : word.reference? = some reference) : ¬ InDeleted deleted reference := by
  obtain ⟨-, same, formed, -⟩ := reference?_eq_some_iff.mp found
  obtain ⟨whole, cut⟩ := pieces_spec formula.text.toList
  refine movable.2 reference (whole ▸ mem_tokens_joined cut member ?_)
  rw [same, tokens_of_match (matchReference_eq_some_iff.mpr ⟨(List.append_nil _).symm, formed, nofun⟩)]
  exact List.mem_cons_self

/-- Rows below the threshold move, and not above the first row. -/
structure RowsMove (threshold delta : Int) : Prop where
  moves : delta ≠ 0
  start : 0 ≤ threshold
  stays : 0 ≤ threshold + delta

/-- A match whose digits stay the same. -/
def Token.stays (threshold : Int) : Token → Bool
  | .character _ => true
  | .reference found =>
    decide (Nat.toDigits 10 found.number = found.digits) &&
      (found.rowAbs || decide ((found.number : Int) ≤ threshold))

/-- A reference lies above the edit, or it is relative and its cell stays in the grid; in another word each match
lies above the edit or is absolute, and has no zeros before its number. -/
def WordMovable (threshold delta : Int) (word : Word) : Prop :=
  match word.reference? with
  | some reference => (reference.number : Int) ≤ threshold ∨
      (reference.rowAbs = false ∧ rowImage threshold delta reference.number ≤ lastRow)
  | none => ∀ item ∈ tokens false word.chars, item.stays threshold = true

instance (threshold delta : Int) (word : Word) : Decidable (WordMovable threshold delta word) :=
  match here : word.reference? with
  | some reference =>
    decidable_of_iff ((reference.number : Int) ≤ threshold ∨
      (reference.rowAbs = false ∧ rowImage threshold delta reference.number ≤ lastRow)) (by rw [WordMovable, here])
  | none =>
    decidable_of_iff (∀ item ∈ tokens false word.chars, item.stays threshold = true) (by rw [WordMovable, here])

/-- Each word of a formula can be moved. -/
def FormulaMovable (threshold delta : Int) (text : String) : Prop :=
  ∀ word ∈ words text.toList, WordMovable threshold delta word

instance (threshold delta : Int) (text : String) : Decidable (FormulaMovable threshold delta text) :=
  inferInstanceAs (Decidable (∀ word ∈ words text.toList, WordMovable threshold delta word))

/-- A relative row of the written formula, read from another cell of its group, is not deleted, and it moves as much as
the row itself and the two cells let it. -/
def WordBalanced (threshold delta : Int) (deleted : Option (Int × Int)) (master dependent : Position) (word : Word) :
    Prop :=
  ∀ reference ∈ word.reference?, reference.rowAbs = false → ∀ cell ∈ reference.cell? (master.offset dependent),
    rowImage? threshold delta deleted cell.2 = some (rowImage threshold delta reference.number +
      ((dependent.moved threshold delta).row - (master.moved threshold delta).row)) ∧
        rowImage threshold delta cell.2 ≤ lastRow

instance (threshold delta : Int) (deleted : Option (Int × Int)) (master dependent : Position) (word : Word) :
    Decidable (WordBalanced threshold delta deleted master dependent word) :=
  inferInstanceAs (Decidable (∀ reference ∈ word.reference?, _ → _))

section Word

variable {threshold delta : Int} (edit : RowsMove threshold delta)

include edit

private theorem movedDigits_eq_digits_iff (reference : Reference) :
    movedDigits threshold delta reference = reference.digits ↔
      (Token.reference reference).stays threshold = true := by
  have moves := edit.moves
  have stays := edit.stays
  simp only [Token.stays, Bool.and_eq_true, Bool.or_eq_true, decide_eq_true_eq, movedDigits]
  constructor
  · intro same
    have number : movedNumber threshold delta reference = reference.number := by
      have read := congrArg (Nat.ofDigitChars 10 · 0) same
      rw [Nat.ofDigitChars_ten_toDigits] at read
      exact read
    rw [number] at same
    refine ⟨same, ?_⟩
    rw [movedNumber] at number
    split at number
    · omega
    · rename_i above
      cases marked : reference.rowAbs with
      | true => exact Or.inl rfl
      | false =>
        rw [marked] at above
        exact Or.inr (Int.not_lt.mp fun below => above ⟨rfl, below⟩)
  · rintro ⟨same, above⟩
    rw [movedNumber, if_neg ?_]
    · exact same
    · rintro ⟨relative, below⟩
      rcases above with marked | above
      · rw [relative] at marked
        cases marked
      · omega

/-- A reference is moved to the image of its row unless it is absolute and below the threshold. -/
theorem movedNumber_eq_rowImage_iff (reference : Reference) :
    (movedNumber threshold delta reference : Int) = rowImage threshold delta reference.number ↔
      (reference.number : Int) ≤ threshold ∨ reference.rowAbs = false := by
  have moves := edit.moves
  have stays := edit.stays
  rw [movedNumber, rowImage]
  cases reference.rowAbs with
  | false =>
    simp only [true_and, or_true, iff_true]
    split
    · omega
    · rfl
  | true =>
    rw [if_neg (by simp)]
    simp only [reduceCtorEq, or_false]
    split
    · omega
    · omega

private theorem rowImage_pos {row : Int} (positive : 1 ≤ row) : 1 ≤ rowImage threshold delta row := by
  have stays := edit.stays
  rw [rowImage]
  split
  · omega
  · exact positive

/-- A word that can be moved is the reference to the image of its row. -/
theorem reference?_moved {word : Word} (here : word.reference? = some reference)
    (movable : (reference.number : Int) ≤ threshold ∨
      (reference.rowAbs = false ∧ rowImage threshold delta reference.number ≤ lastRow)) :
    ({ word with chars := redigited (movedDigits threshold delta) false word.chars } : Word).reference? =
        some { reference with digits := movedDigits threshold delta reference } ∧
      (movedNumber threshold delta reference : Int) = rowImage threshold delta reference.number := by
  obtain ⟨placed, same, formed, inside⟩ := reference?_eq_some_iff.mp here
  obtain ⟨column, positive, inRows⟩ := isSome_cell?_iff.mp inside
  have image := (movedNumber_eq_rowImage_iff edit reference).mpr (movable.imp_right And.left)
  have inGrid : rowImage threshold delta reference.number ≤ lastRow := by
    rcases movable with above | ⟨-, fits⟩
    · rw [rowImage, if_neg (by omega)]
      exact_mod_cast inRows
    · exact fits
  have few : (movedDigits threshold delta reference).length ≤ 7 := by
    rw [movedDigits, Nat.length_toDigits_le_iff (by decide) (by decide)]
    have bound : movedNumber threshold delta reference ≤ lastRow := by omega
    exact Nat.lt_of_le_of_lt bound (by decide)
  refine ⟨reference?_eq_some_iff.mpr ⟨placed, ?_, ?_, ?_⟩, image⟩
  · rw [same, redigited_text formed]
  · exact ⟨formed.letters, formed.someLetter, formed.fewLetters, isDigit_of_mem_movedDigits _ _ _,
      length_movedDigits_pos _ _ _, few⟩
  · rw [isSome_cell?_iff, movedDigits, number_toDigits]
    have first := rowImage_pos edit (show (1 : Int) ≤ reference.number by exact_mod_cast positive)
    exact ⟨column, by omega, by omega⟩

omit edit in
private theorem rowImage?_of_not_inDeleted (outside : ¬ InDeleted deleted reference) :
    rowImage? threshold delta deleted reference.number = some (rowImage threshold delta reference.number) :=
  if_neg outside

omit edit in
private theorem eq_of_rowImage? {row image : Int}
    (found : rowImage? threshold delta deleted row = some image) : image = rowImage threshold delta row := by
  rw [rowImage?] at found
  split at found
  · cases found
  · exact (Option.some.inj found).symm

/-- A word that can be moved keeps what it designates from another cell exactly if it is balanced between the cells. -/
theorem wordPreserved_iff_balanced {word : Word} (movable : WordMovable threshold delta word)
    (outside : ∀ reference, word.reference? = some reference → ¬ InDeleted deleted reference)
    (master dependent : Position) : WordPreserved (rowImage? threshold delta deleted) (master.offset dependent)
        ((master.moved threshold delta).offset (dependent.moved threshold delta)) word
        { word with chars := redigited (movedDigits threshold delta) false word.chars } ↔
      WordBalanced threshold delta deleted master dependent word := by
  rw [WordPreserved, WordBalanced]
  rw [WordMovable] at movable
  cases here : word.reference? with
  | none =>
    rw [here] at movable
    refine ⟨fun _ => nofun, fun _ => ?_⟩
    rw [redigited_eq_iff (isDigit_of_mem_movedDigits threshold delta)]
    exact fun reference member => (movedDigits_eq_digits_iff edit reference).mpr (movable _ member)
  | some reference =>
    rw [here] at movable
    dsimp only at movable ⊢
    obtain ⟨found, number⟩ := reference?_moved edit here movable
    have rowAt (offset : Offset) :
        ({ reference with digits := movedDigits threshold delta reference } : Reference).rowAt offset =
          rowImage threshold delta reference.number + if reference.rowAbs then 0 else offset.rows := by
      rw [Reference.rowAt, movedDigits, number_toDigits, number]
    constructor
    · rintro ⟨moved, same, -, cells⟩ reference ⟨⟩ relative cell designated
      obtain rfl := Option.some.inj (found.symm.trans same)
      obtain ⟨row, image, there⟩ := cells cell designated
      obtain ⟨⟨-, -, fits⟩, both⟩ := cell?_eq_some_iff.mp there
      rw [rowAt, relative] at fits both
      obtain rfl := congrArg Prod.snd both
      exact ⟨image, eq_of_rowImage? image ▸ fits⟩
    · intro balanced
      refine ⟨_, found, rfl, fun cell designated => ?_⟩
      obtain ⟨⟨columns, positive, inRows⟩, rfl⟩ := cell?_eq_some_iff.mp designated
      by_cases marked : reference.rowAbs = true
      · have above : (reference.number : Int) ≤ threshold :=
          movable.resolve_right fun known => by simp [marked] at known
        have still : rowImage threshold delta reference.number = reference.number := if_neg (by omega)
        have own : reference.rowAt (master.offset dependent) = reference.number := by
          rw [Reference.rowAt, if_pos marked, Int.add_zero]
        rw [own] at positive inRows ⊢
        refine ⟨_, rowImage?_of_not_inDeleted (outside reference here), cell?_eq_some_iff.mpr ⟨⟨columns, ?_⟩, ?_⟩⟩
        · rw [rowAt, if_pos marked, Int.add_zero, still]
          exact ⟨positive, inRows⟩
        · rw [rowAt, if_pos marked, Int.add_zero]
          rfl
      · obtain ⟨image, fits⟩ := balanced reference rfl (Bool.not_eq_true _ ▸ marked) _ designated
        have row := eq_of_rowImage? image
        refine ⟨_, image, cell?_eq_some_iff.mpr ⟨⟨columns, ?_⟩, ?_⟩⟩
        · rw [rowAt, if_neg marked]
          exact row ▸ ⟨rowImage_pos edit positive, fits⟩
        · rw [rowAt, if_neg marked]
          rfl

omit edit in
@[simp] theorem offset_self (position : Position) : position.offset position = .zero := by
  rw [Position.offset, Int.sub_self, Int.sub_self, Offset.zero]

/-- A word keeps what it designates from its own cell exactly if it can be moved. -/
theorem wordPreserved_iff_movable {word : Word}
    (outside : ∀ reference, word.reference? = some reference → ¬ InDeleted deleted reference) :
    WordPreserved (rowImage? threshold delta deleted) .zero .zero word
        { word with chars := redigited (movedDigits threshold delta) false word.chars } ↔
      WordMovable threshold delta word := by
  constructor
  · intro preserved
    rw [WordPreserved] at preserved
    rw [WordMovable]
    cases here : word.reference? with
    | none =>
      rw [here] at preserved
      have all := (redigited_eq_iff (isDigit_of_mem_movedDigits threshold delta)).mp preserved
      intro item member
      cases item with
      | character => rfl
      | reference reference => exact (movedDigits_eq_digits_iff edit reference).mp (all reference member)
    | some reference =>
      rw [here] at preserved
      obtain ⟨moved, found, shape, cells⟩ := preserved
      obtain ⟨-, same, formed, inside⟩ := reference?_eq_some_iff.mp here
      obtain ⟨-, text, movedFormed, -⟩ := reference?_eq_some_iff.mp found
      obtain ⟨cell, designated⟩ := Option.isSome_iff_exists.mp inside
      obtain ⟨row, image, there⟩ := cells cell designated
      have row_eq := eq_of_rowImage? image
      obtain ⟨-, rfl⟩ := cell?_eq_some_iff.mp designated
      obtain ⟨⟨-, -, fits⟩, both⟩ := cell?_eq_some_iff.mp there
      have number := congrArg Prod.snd both
      simp only [Reference.rowAt, Offset.zero, ite_self, Int.add_zero] at row_eq number fits
      have digits : movedDigits threshold delta reference = moved.digits := by
        rw [same, redigited_text formed, shape, Reference.text, Reference.text] at text
        exact List.append_cancel_left text
      have read : movedNumber threshold delta reference = moved.number := by
        rw [Reference.number, ← digits, movedDigits, Nat.ofDigitChars_ten_toDigits]
      have follows := (movedNumber_eq_rowImage_iff edit reference).mp (by rw [read, ← number, row_eq])
      refine follows.imp_right fun relative => ⟨relative, ?_⟩
      rw [← row_eq, number]
      exact fits
  · intro movable
    have start : Position := ⟨0, 0⟩
    have balanced : WordBalanced threshold delta deleted start start word := by
      rintro reference here relative cell designated
      rw [offset_self] at designated
      obtain ⟨⟨-, -, inRows⟩, rfl⟩ := cell?_eq_some_iff.mp designated
      simp only [Reference.rowAt, Offset.zero, ite_self, Int.add_zero, Int.sub_self] at inRows ⊢
      refine ⟨rowImage?_of_not_inDeleted (outside reference here), ?_⟩
      rw [WordMovable, Option.mem_def.mp here] at movable
      rcases movable with above | ⟨-, fits⟩
      · rw [rowImage, if_neg (by omega)]
        exact inRows
      · exact fits
    have preserved := (wordPreserved_iff_balanced edit movable outside start start).mpr balanced
    rwa [offset_self, offset_self] at preserved

/-- The words of an accepted formula are the references to rows that are not deleted, or anything else. -/
theorem preserves_plain_iff (movable : Movable deleted formula) :
    Preserves (rowImage? threshold delta deleted) ⟨formula.text, .zero⟩
        ⟨movedText threshold delta formula.text, .zero⟩ ↔ FormulaMovable threshold delta formula.text := by
  rw [movedText, preserves_redigited_iff (isDigit_of_mem_movedDigits threshold delta)]
  exact forall₂_congr fun word member =>
    wordPreserved_iff_movable edit fun reference => not_inDeleted_of_movable movable member

private theorem preserves_shared_iff (movable : Movable deleted formula)
    (own : FormulaMovable threshold delta formula.text) (master dependent : Position) :
    Preserves (rowImage? threshold delta deleted) ⟨formula.text, master.offset dependent⟩
        ⟨movedText threshold delta formula.text,
          (master.moved threshold delta).offset (dependent.moved threshold delta)⟩ ↔
      ∀ word ∈ words formula.text.toList, WordBalanced threshold delta deleted master dependent word := by
  rw [movedText, preserves_redigited_iff (isDigit_of_mem_movedDigits threshold delta)]
  exact forall₂_congr fun word member => wordPreserved_iff_balanced edit (own word member)
    (fun reference => not_inDeleted_of_movable movable member) master dependent

end Word

/-! ### Groups of shared formulas -/

variable {master : PlacedFormula} {si : Option String} {formulas : List PlacedFormula}

private theorem masterOf_eq_some_iff :
    masterOf formulas si = some master ↔ formulas.filter (PlacedFormula.leads si) = [master] := by
  rw [masterOf]
  split
  · rename_i other same
    rw [same, Option.some.injEq, List.cons.injEq, and_iff_left rfl]
  · rename_i several
    exact ⟨nofun, fun one => absurd one (several master)⟩

private theorem masterOf_moved (threshold delta : Int) (formulas : List PlacedFormula) (si : Option String) :
    masterOf (formulas.map (PlacedFormula.moved threshold delta)) si =
      (masterOf formulas si).map (PlacedFormula.moved threshold delta) := by
  have filtered : (formulas.map (PlacedFormula.moved threshold delta)).filter (PlacedFormula.leads si) =
      (formulas.filter (PlacedFormula.leads si)).map (PlacedFormula.moved threshold delta) := List.filter_map
  rw [masterOf, masterOf, filtered]
  match formulas.filter (PlacedFormula.leads si) with
  | [] => rfl
  | [master] => rfl
  | first :: second :: rest => rfl

/-- The written formula of a group is the one of the retained formulas exactly if it is retained. -/
theorem masterOf_retained {retained : List PlacedFormula} (part : retained.Sublist formulas)
    (leads : masterOf formulas si = some master) :
    masterOf retained si = if master ∈ retained then some master else none := by
  have one := masterOf_eq_some_iff.mp leads
  have known : master ∈ retained ↔ master ∈ retained.filter (PlacedFormula.leads si) := by
    have selected : PlacedFormula.leads si master = true :=
      (List.mem_filter.mp (one ▸ List.mem_singleton_self master : master ∈ formulas.filter _)).2
    rw [List.mem_filter, and_iff_left selected]
  have few := part.filter (PlacedFormula.leads si)
  rw [one] at few
  rcases List.sublist_singleton.mp few with none | same
  · rw [if_neg (by rw [known, none]; exact List.not_mem_nil), masterOf, none]
  · rw [if_pos (by rw [known, same]; exact List.mem_singleton_self _), masterOf, same]

private theorem not_isDependent_of_masterOf
    (leads : masterOf formulas si = some master) : master.formula.isDependent = false := by
  have selected : PlacedFormula.leads si master = true :=
    (List.mem_filter.mp (masterOf_eq_some_iff.mp leads ▸ List.mem_singleton_self master :
      master ∈ formulas.filter _)).2
  simp only [PlacedFormula.leads, Bool.and_eq_true, beq_iff_eq] at selected
  obtain ⟨ref, written⟩ := Option.isSome_iff_exists.mp selected.2
  rw [Formula.isDependent, written, Option.isNone_some, Bool.and_false]

/-- Each word of a written formula can be moved; a shared formula that is written elsewhere keeps its group's written
formula, whose words are balanced between the two cells. -/
structure FormulasMovable (threshold delta : Int) (deleted : Option (Int × Int))
    (formulas retained : List PlacedFormula) : Prop where
  written : ∀ placed ∈ retained, placed.formula.isDependent = false →
    FormulaMovable threshold delta placed.formula.text
  shared : ∀ placed ∈ retained, placed.formula.isDependent = true →
    ∀ master ∈ masterOf formulas placed.formula.si, master ∈ retained ∧
      ∀ word ∈ words master.formula.text.toList,
        WordBalanced threshold delta deleted master.position placed.position word

/-- The formulas that are left keep what they mean exactly if all can be moved. -/
theorem keepMeaning_iff {threshold delta : Int} (edit : RowsMove threshold delta)
    {retained : List PlacedFormula} (part : retained.Sublist formulas)
    (movable : ∀ placed ∈ formulas, Movable deleted placed.formula) :
    KeepMeaning (rowImage? threshold delta deleted) formulas retained
        (retained.map (PlacedFormula.moved threshold delta)) ↔
      FormulasMovable threshold delta deleted formulas retained := by
  rw [KeepMeaning, List.forall₂_map_right_iff, List.forall₂_same]
  have plain {placed : PlacedFormula} (member : placed ∈ retained) (written : placed.formula.isDependent = false) :
      (∀ before ∈ meaning formulas placed, ∃ after ∈ meaning (retained.map (PlacedFormula.moved threshold delta))
          (placed.moved threshold delta), Preserves (rowImage? threshold delta deleted) before after) ↔
        FormulaMovable threshold delta placed.formula.text := by
    have still : (placed.moved threshold delta).formula.isDependent = false := written
    rw [meaning, meaning, written, still, ← preserves_plain_iff edit (movable placed (part.subset member))]
    simp [PlacedFormula.moved, movedFormula]
  have group {placed master : PlacedFormula} (shared : placed.formula.isDependent = true)
      (leads : masterOf formulas placed.formula.si = some master)
      (own : master ∈ retained → FormulaMovable threshold delta master.formula.text) :
      (∀ before ∈ meaning formulas placed, ∃ after ∈ meaning (retained.map (PlacedFormula.moved threshold delta))
          (placed.moved threshold delta), Preserves (rowImage? threshold delta deleted) before after) ↔
        master ∈ retained ∧ ∀ word ∈ words master.formula.text.toList,
          WordBalanced threshold delta deleted master.position placed.position word := by
    have still : (placed.moved threshold delta).formula.isDependent = true := shared
    have group : (placed.moved threshold delta).formula.si = placed.formula.si := rfl
    rw [meaning, meaning, if_pos shared, if_pos still, group, leads, masterOf_moved, masterOf_retained part leads]
    by_cases member : master ∈ retained
    · rw [if_pos member, and_iff_right member,
        ← preserves_shared_iff edit (movable master (part.subset member)) (own member)]
      simp [PlacedFormula.moved, movedFormula]
    · rw [if_neg member]
      simp [member]
  constructor
  · intro kept
    have written : ∀ placed ∈ retained, placed.formula.isDependent = false →
        FormulaMovable threshold delta placed.formula.text :=
      fun placed member own => (plain member own).mp (kept placed member)
    refine ⟨written, fun placed member shared master leads => ?_⟩
    exact (group shared leads fun there => written master there (not_isDependent_of_masterOf leads)).mp
      (kept placed member)
  · rintro ⟨written, shared⟩ placed member
    cases dependent : placed.formula.isDependent with
    | false => exact (plain member dependent).mpr (written placed member dependent)
    | true =>
      cases leads : masterOf formulas placed.formula.si with
      | none =>
        rw [meaning, if_pos dependent, leads]
        intro before given
        cases given
      | some master =>
        exact (group dependent leads fun there => written master there (not_isDependent_of_masterOf leads)).mpr
          (shared placed member dependent master leads)

/-! ### Accepted edits -/

private theorem retainedFormulas_sublist (sheet : Worksheet) (first last : Int) :
    (retainedFormulas sheet first last).Sublist sheet.formulas :=
  (List.filter_sublist.flatMap _).append_right _

/-- The formulas of an accepted child mean what they meant exactly when each of their words can be moved. -/
theorem formulas_keep_their_cells_iff (showable : CellContent → Bool) (sheet child : Worksheet) :
    (∀ afterRow count values, insertRows showable sheet afterRow count values = .ok child →
      (KeepMeaning (rowImage? afterRow count none) sheet.formulas sheet.formulas child.formulas ↔
        FormulasMovable afterRow count none sheet.formulas sheet.formulas)) ∧
      ∀ first count, deleteRows showable sheet first count = .ok child →
        (KeepMeaning (rowImage? (first + count - 1) (-count) (some (first, first + count - 1))) sheet.formulas
            (retainedFormulas sheet first (first + count - 1)) child.formulas ↔
          FormulasMovable (first + count - 1) (-count) (some (first, first + count - 1)) sheet.formulas
            (retainedFormulas sheet first (first + count - 1))) := by
  constructor
  · intro afterRow count values done
    obtain ⟨bounds, rows, here, allowed, -, rfl⟩ := insertRows_eq_ok_iff.mp done
    rw [formulas_insertedSheet here bounds.1]
    exact keepMeaning_iff ⟨by omega, by omega, by omega⟩ (List.Sublist.refl _) allowed
  · intro first count done
    obtain ⟨bounds, rows, here, allowed, -, rfl⟩ := deleteRows_eq_ok_iff.mp done
    rw [formulas_deletedSheet here (by omega)]
    exact keepMeaning_iff ⟨by omega, by omega, by omega⟩ (retainedFormulas_sublist sheet _ _) allowed

/-- A worksheet with a sum, and with a formula that two cells below it share. -/
def sumSheet : Worksheet where
  sheetData := some [
    ⟨1, [{ address := "B1", formulas := [{ text := "SUM(A1:A5)&\"rows\"" }], content := .existing "" }]⟩,
    ⟨6, [{ address := "B6", content := .existing ""
           formulas := [{ text := "A6", t := some "shared", si := some "0", ref := some "B6:B7" }] }]⟩,
    ⟨7, [{ address := "B7", content := .existing ""
           formulas := [{ text := "", t := some "shared", si := some "0" }] }]⟩]

/-- The rows of the sum and of the shared formula move with their data, the label stays, and above the first row nothing
is left. -/
theorem sums_keep_their_cells :
    (∃ child, insertRows (fun _ => true) sumSheet 3 2 [] = .ok child ∧
      KeepMeaning (rowImage? 3 2 none) sumSheet.formulas sumSheet.formulas child.formulas) ∧
    ∃ child, deleteRows (fun _ => true) sumSheet 2 2 = .ok child ∧
      KeepMeaning (rowImage? (2 + 2 - 1) (-2) (some (2, 2 + 2 - 1))) sumSheet.formulas
        (retainedFormulas sumSheet 2 (2 + 2 - 1)) child.formulas := by
  have inserted : (insertRows (fun _ => true) sumSheet 3 2 []).toOption.isSome = true := by decide +kernel
  have deleted : (deleteRows (fun _ => true) sumSheet 2 2).toOption.isSome = true := by decide +kernel
  constructor
  · cases done : insertRows (fun _ => true) sumSheet 3 2 [] with
    | error =>
      rw [done] at inserted
      cases inserted
    | ok child =>
      refine ⟨child, rfl, ((formulas_keep_their_cells_iff _ _ child).1 3 2 [] done).mpr ⟨?_, ?_⟩⟩
      · decide +kernel
      · decide +kernel
  · cases done : deleteRows (fun _ => true) sumSheet 2 2 with
    | error =>
      rw [done] at deleted
      cases deleted
    | ok child =>
      refine ⟨child, rfl, ((formulas_keep_their_cells_iff _ _ child).2 2 2 done).mpr ⟨?_, ?_⟩⟩
      · decide +kernel
      · decide +kernel

/-- A worksheet with one formula. -/
def formulaSheet (formula : String) : Worksheet where
  sheetData := some [⟨1, [{ address := "B1", formulas := [{ text := formula }], content := .existing "" }]⟩]

/-- Two rows inserted below the third make `LOG12` of `LOG10`, and leave the absolute reference behind. -/
theorem logarithm_is_rewritten :
    ∃ child, insertRows (fun _ => true) (formulaSheet "LOG10(A$5)") 3 2 [] = .ok child ∧
      child.formulas = (formulaSheet "LOG12(A$5)").formulas ∧
      ¬ KeepMeaning (rowImage? 3 2 none) (formulaSheet "LOG10(A$5)").formulas (formulaSheet "LOG10(A$5)").formulas
        child.formulas := by
  have accepted : (insertRows (fun _ => true) (formulaSheet "LOG10(A$5)") 3 2 []).toOption.map Worksheet.formulas =
      some (formulaSheet "LOG12(A$5)").formulas := by
    decide +kernel
  cases done : insertRows (fun _ => true) (formulaSheet "LOG10(A$5)") 3 2 [] with
  | error =>
    rw [done] at accepted
    cases accepted
  | ok child =>
    rw [done] at accepted
    refine ⟨child, rfl, Option.some.inj accepted, ?_⟩
    obtain ⟨bounds, rows, here, allowed, -, same⟩ := insertRows_eq_ok_iff.mp done
    rw [same, formulas_insertedSheet here bounds.1,
      keepMeaning_iff ⟨by decide, by decide, by decide⟩ (List.Sublist.refl _) allowed]
    intro movable
    exact absurd movable.written (by decide +kernel)

/-- The formula `A1` of the second row, read from the third, comes apart when a row is inserted between the two. -/
example : ¬ WordBalanced 2 1 none ⟨2, 2⟩ ⟨2, 3⟩ ⟨['A', '1'], .plain, false⟩ := by decide

end HardwareDatabase.Spreadsheets
