/-
Module: HardwareDatabase.Python.Locations
Purpose: The functions of the host language that search texts and split them.
Trusted boundary: none
-/
import HardwareDatabase.Python.Text

namespace HardwareDatabase.Python

/-- `text.startswith(prefix)`. -/
def startsWith (text start : String) : Bool :=
  start.toList.isPrefixOf text.toList

/-- `text.removeprefix(start)`. -/
def withoutStart (start text : String) : String :=
  if startsWith text start then skip start.length text else text

def hasPartChars (part : List Char) : List Char → Bool
  | [] => part.isEmpty
  | character :: rest => part.isPrefixOf (character :: rest) || hasPartChars part rest

/-- `part in text`. -/
def hasPart (text part : String) : Bool :=
  hasPartChars part.toList text.toList

/-- `text.split(separator)`. -/
def splitChars (separator : Char) : List Char → List (List Char)
  | [] => [[]]
  | character :: rest =>
    if character = separator then [] :: splitChars separator rest
    else
      match splitChars separator rest with
      | [] => [[character]]
      | first :: more => (character :: first) :: more

/-- `text.rsplit(separator, 1)[-1]`. -/
def afterLast (separator : Char) (text : String) : String :=
  String.ofList (text.toList.reverse.takeWhile fun character => character != separator).reverse

end HardwareDatabase.Python
