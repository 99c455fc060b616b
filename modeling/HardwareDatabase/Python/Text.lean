/-
Module: HardwareDatabase.Python.Text
Purpose: The string operations of the host language that the services rely on.
Trusted boundary: none
-/

namespace HardwareDatabase.Python

/-- `str.isspace` of one character. -/
def isSpace (character : Char) : Bool :=
  let code := character.toNat
  (9 ≤ code && code ≤ 13) || (28 ≤ code && code ≤ 32) || code == 0x85 || code == 0xA0 ||
    code == 0x1680 || (0x2000 ≤ code && code ≤ 0x200A) || code == 0x2028 || code == 0x2029 ||
    code == 0x202F || code == 0x205F || code == 0x3000

/-- `text.strip()`. -/
def strip (text : String) : String :=
  String.ofList ((text.toList.dropWhile isSpace).reverse.dropWhile isSpace).reverse

/-- `text[:limit]`. -/
def clip (limit : Nat) (text : String) : String :=
  String.ofList (text.toList.take limit)

/-- `text[count:]`. -/
def skip (count : Nat) (text : String) : String :=
  String.ofList (text.toList.drop count)

/-- The lower case of a character, as far as it is ASCII: of the other characters only the Kelvin sign
has an ASCII letter as its lower case. -/
def lowerChar (character : Char) : Char :=
  if character = '\u212A' then 'k' else character.toLower

/-- `text.lower()` for a comparison with ASCII words. -/
def lowerAscii (text : String) : String :=
  String.ofList (text.toList.map lowerChar)

/-- `left <= right` on pairs of a number and a text. -/
def pairLe (left right : Nat × String) : Bool :=
  left.1 < right.1 || (left.1 == right.1 && !decide (right.2 < left.2))

/-! ### Stripped texts -/

variable {characters : List Char}

theorem dropWhile_eq_self (kept : ∀ character, characters.head? = some character → isSpace character = false) :
    characters.dropWhile isSpace = characters := by
  cases characters with
  | nil => rfl
  | cons first => simp [kept first rfl]

theorem not_isSpace_of_head? {character : Char}
    (first : (characters.dropWhile isSpace).head? = some character) : isSpace character = false := by
  have left := List.head?_dropWhile_not isSpace characters
  rw [first] at left
  simpa using left

/-- A text that neither starts nor ends with a space is already stripped. -/
theorem strip_eq_self {text : String}
    (starts : ∀ character, text.toList.head? = some character → isSpace character = false)
    (ends : ∀ character, text.toList.getLast? = some character → isSpace character = false) : strip text = text := by
  have trailing : text.toList.reverse.dropWhile isSpace = text.toList.reverse := by
    apply dropWhile_eq_self
    intro character last
    exact ends character (by rw [← List.head?_reverse]; exact last)
  rw [strip, dropWhile_eq_self starts, trailing, List.reverse_reverse, String.ofList_toList]

theorem getLast?_dropWhile {character : Char} (last : (characters.dropWhile isSpace).getLast? = some character) :
    characters.getLast? = some character := by
  obtain ⟨dropped, whole⟩ : characters.dropWhile isSpace <:+ characters :=
    List.dropWhile_suffix isSpace
  rw [← whole, List.getLast?_append, last, Option.some_or]

@[simp] theorem strip_strip (text : String) : strip (strip text) = strip text := by
  apply strip_eq_self
  · intro character first
    rw [strip, String.toList_ofList, List.head?_reverse] at first
    have kept := getLast?_dropWhile first
    rw [List.getLast?_reverse] at kept
    exact not_isSpace_of_head? kept
  · intro character last
    rw [strip, String.toList_ofList, List.getLast?_reverse] at last
    exact not_isSpace_of_head? last

end HardwareDatabase.Python
