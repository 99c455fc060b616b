/-
Module: HardwareDatabase.Spreadsheets.Formulas
Purpose: The rewriting of formula texts when rows move (`_FORMULA_REF_RE` and `_shift_formula_text` of
  `src/src/attachments/xlsx_revision.py`). Texts are lists of characters.
Trusted boundary: none
-/

namespace HardwareDatabase.Spreadsheets

/-! ### The regular expression -/

/-- `[A-Za-z0-9_]`. -/
def isWordChar (character : Char) : Bool :=
  character.isAlpha || character.isDigit || character == '_'

/-- The groups of a match. -/
structure Reference where
  columnAbs : Bool
  letters : List Char
  rowAbs : Bool
  digits : List Char
deriving Repr, DecidableEq

/-- `\$` where it is there. -/
def dollar (marked : Bool) : List Char :=
  if marked then ['$'] else []

/-- The text of a match. -/
def Reference.text (reference : Reference) : List Char :=
  dollar reference.columnAbs ++ reference.letters ++ dollar reference.rowAbs ++ reference.digits

/-- `int(digits)`. -/
def Reference.number (reference : Reference) : Nat :=
  Nat.ofDigitChars 10 reference.digits 0

/-- `(\$?)`. -/
def takeDollar : List Char → Bool × List Char
  | [] => (false, [])
  | character :: rest => if character = '$' then (true, rest) else (false, character :: rest)

/-- `(\$?)([A-Za-z]{1,3})(\$?)([0-9]{1,7})(?![A-Za-z0-9_])` at the beginning of a text, and what follows the match. A
run of letters or digits is taken whole: after a part of it the expression cannot go on. -/
def matchReference (text : List Char) : Option (Reference × List Char) :=
  let column := takeDollar text
  let letters := column.2.takeWhile Char.isAlpha
  let row := takeDollar (column.2.dropWhile Char.isAlpha)
  let digits := row.2.takeWhile Char.isDigit
  let after := row.2.dropWhile Char.isDigit
  if 1 ≤ letters.length ∧ letters.length ≤ 3 ∧ 1 ≤ digits.length ∧ digits.length ≤ 7 ∧
      after.head?.all (fun character => !isWordChar character) = true then
    some (⟨column.1, letters, row.1, digits⟩, after)
  else none

/-- A character that stays, or a match. -/
inductive Token
  | character (character : Char)
  | reference (reference : Reference)
deriving Repr, DecidableEq

theorem length_takeDollar (text : List Char) : (takeDollar text).2.length ≤ text.length := by
  cases text with
  | nil => exact Nat.le_refl _
  | cons =>
    rw [takeDollar]
    split
    · exact Nat.le_succ _
    · exact Nat.le_refl _

theorem length_dropWhile_le (holds : Char → Bool) (text : List Char) : (text.dropWhile holds).length ≤ text.length :=
  (List.dropWhile_sublist holds).length_le

theorem length_of_matchReference {text after : List Char} {reference : Reference}
    (matched : matchReference text = some (reference, after)) : after.length < text.length := by
  simp only [matchReference] at matched
  split at matched
  · rename_i fits
    obtain ⟨-, -, some, -, -⟩ := fits
    cases matched
    have column := length_takeDollar text
    have letters := length_dropWhile_le Char.isAlpha (takeDollar text).2
    have row := length_takeDollar ((takeDollar text).2.dropWhile Char.isAlpha)
    have whole := congrArg List.length (List.takeWhile_append_dropWhile (p := Char.isDigit)
      (l := (takeDollar ((takeDollar text).2.dropWhile Char.isAlpha)).2))
    rw [List.length_append] at whole
    omega
  · cases matched

/-- The matches in a text, and the characters between them; whether the character before is one of a word comes
first. -/
def tokens : Bool → List Char → List Token
  | _, [] => []
  | true, character :: rest => .character character :: tokens (isWordChar character) rest
  | false, character :: rest =>
    match _matched : matchReference (character :: rest) with
    | some (reference, after) => .reference reference :: tokens true after
    | none => .character character :: tokens (isWordChar character) rest
termination_by _ text => text.length
decreasing_by
  · simp
  · exact length_of_matchReference _matched
  · simp

/-- The text of some tokens. -/
def render : List Token → List Char
  | [] => []
  | .character character :: rest => character :: render rest
  | .reference reference :: rest => reference.text ++ render rest

/-! ### Moving rows -/

/-- An `XlsxRevisionError`. -/
structure XlsxRevisionError where
  message : String
deriving Repr, DecidableEq

/-- `character.upper()`, as far as it has ASCII letters: of the other characters only these have some. -/
def upperChars (character : Char) : List Char :=
  match character with
  | 'ı' => ['I']
  | 'ſ' => ['S']
  | 'ß' => ['S', 'S']
  | 'ﬀ' => ['F', 'F']
  | 'ﬁ' => ['F', 'I']
  | 'ﬂ' => ['F', 'L']
  | 'ﬃ' => ['F', 'F', 'I']
  | 'ﬄ' => ['F', 'F', 'L']
  | 'ﬅ' => ['S', 'T']
  | 'ﬆ' => ['S', 'T']
  | 'ŉ' => ['ʼ', 'N']
  | 'ǰ' => ['J', '\u030c']
  | 'ẖ' => ['H', '\u0331']
  | 'ẗ' => ['T', '\u0308']
  | 'ẘ' => ['W', '\u030a']
  | 'ẙ' => ['Y', '\u030a']
  | 'ẚ' => ['A', 'ʾ']
  | _ => [character.toUpper]

/-- `part in text`. -/
def hasChars (part : List Char) : List Char → Bool
  | [] => part.isEmpty
  | character :: rest => part.isPrefixOf (character :: rest) || hasChars part rest

/-- The number of a match where rows below the threshold move. -/
def movedNumber (threshold delta : Int) (reference : Reference) : Nat :=
  if reference.rowAbs = false ∧ threshold < reference.number then (reference.number + delta).toNat
  else reference.number

/-- `_replace` of `_shift_formula_text`. -/
def shiftReference (threshold delta : Int) (deleted : Option (Int × Int)) (reference : Reference) :
    Except XlsxRevisionError Reference :=
  if ∃ range ∈ deleted, range.1 ≤ reference.number ∧ reference.number ≤ range.2 then
    .error ⟨"公式引用了被删除的行 " ++ toString reference.number⟩
  else .ok { reference with digits := Nat.toDigits 10 (movedNumber threshold delta reference) }

/-- The tokens with their matches replaced. -/
def shiftTokens (threshold delta : Int) (deleted : Option (Int × Int)) :
    List Token → Except XlsxRevisionError (List Token)
  | [] => .ok []
  | .character character :: rest => do
    let later ← shiftTokens threshold delta deleted rest
    return .character character :: later
  | .reference reference :: rest => do
    let shifted ← shiftReference threshold delta deleted reference
    let later ← shiftTokens threshold delta deleted rest
    return .reference shifted :: later

/-- A text whose references cannot be moved safely. -/
def refusal? (text : List Char) : Option XlsxRevisionError :=
  let upper := text.flatMap upperChars
  if text.contains '!' then some ⟨"公式包含跨表引用，无法安全移动行"⟩
  else if hasChars "INDIRECT(".toList upper || hasChars "OFFSET(".toList upper then
    some ⟨"公式包含 INDIRECT/OFFSET，无法安全移动行"⟩
  else none

/-- `_shift_formula_text`. -/
def shiftFormulaText (threshold delta : Int) (deleted : Option (Int × Int)) (text : List Char) :
    Except XlsxRevisionError (List Char) :=
  if text = [] then .ok text
  else
    match refusal? text with
    | some refused => .error refused
    | none => (shiftTokens threshold delta deleted (tokens false text)).map render

end HardwareDatabase.Spreadsheets
