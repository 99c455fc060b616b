/-
Module: HardwareDatabase.Python.Patterns
Purpose: The regular expressions of the host language: a matcher that lists the remainders in the order in which they
  are tried.
Trusted boundary: none
-/
import HardwareDatabase.Python.Text

namespace HardwareDatabase.Python

/-- A regular expression. -/
inductive Pattern
  | one (allowed : Char → Bool)
  | word (same : Char → Char → Bool) (letters : List Char)
  | seq (first second : Pattern)
  | alt (first second : Pattern)
  | many (least : Nat) (most : Option Nat) (greedy : Bool) (item : Pattern)

/-- The word at the start of a text, and what is left behind it. -/
def afterWord (same : Char → Char → Bool) : List Char → List Char → Option (List Char)
  | [], text => some text
  | _ :: _, [] => none
  | letter :: letters, character :: text => if same letter character then afterWord same letters text else none

/-- The remainders behind a number of items between `least` and `most`. -/
def repeated (item : List Char → List (List Char)) (greedy : Bool) : Nat → Nat → List Char → List (List Char)
  | 0, 0, text => [text]
  | _ + 1, 0, _ => []
  | 0, most + 1, text =>
    let more := (item text).flatMap (repeated item greedy 0 most)
    if greedy then more ++ [text] else text :: more
  | least + 1, most + 1, text => (item text).flatMap (repeated item greedy least most)

/-- The remainders behind the matches at the start of a text. An item that is repeated without a bound has a
character at least. -/
def Pattern.remainders : Pattern → List Char → List (List Char)
  | .one allowed, character :: text => if allowed character then [text] else []
  | .one _, [] => []
  | .word same letters, text => (afterWord same letters text).toList
  | .seq first second, text => (first.remainders text).flatMap second.remainders
  | .alt first second, text => first.remainders text ++ second.remainders text
  | .many least most greedy item, text => repeated item.remainders greedy least (most.getD text.length) text

/-- `pattern.search(text) is not None`. -/
def Pattern.search (pattern : Pattern) : List Char → Bool
  | [] => !(pattern.remainders []).isEmpty
  | character :: text => !(pattern.remainders (character :: text)).isEmpty || pattern.search text

/-- What each of several expressions in a row matches, in the order in which the matches are tried. -/
def partsOf : List Pattern → List Char → List (List (List Char))
  | [], _ => [[]]
  | pattern :: patterns, text =>
    (pattern.remainders text).flatMap fun rest =>
      (partsOf patterns rest).map (text.take (text.length - rest.length) :: ·)

/-- The parts of the leftmost match that starts behind a character that `starts` allows. -/
def searchParts (patterns : List Pattern) (starts : Option Char → Bool) :
    Option Char → List Char → Option (List (List Char))
  | before, [] => if starts before then (partsOf patterns []).head? else none
  | before, character :: text =>
    (if starts before then (partsOf patterns (character :: text)).head? else none).or
      (searchParts patterns starts (some character) text)

/-- A letter of an expression against a character, with `re.IGNORECASE`. -/
def ignoringCase (letter character : Char) : Bool :=
  lowerChar character == letter || letter == 'i' && (character == 'ı' || character == 'İ') ||
    letter == 's' && character == 'ſ' || letter == 'k' && character.toNat == 0x212A

end HardwareDatabase.Python
