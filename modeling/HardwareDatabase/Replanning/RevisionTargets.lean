/-
Module: HardwareDatabase.Replanning.RevisionTargets
Purpose: The units that a revision request names (`src/src/document_authoring/planning/revision.py`). The text of a
  label that is no string is a parameter.
Trusted boundary: none
-/
import HardwareDatabase.Replanning.Models
import HardwareDatabase.Python.Locations
import HardwareDatabase.Python.OrderedDict

namespace HardwareDatabase.Replanning

open Python

/-- What the compilation of a revision raises. -/
inductive RevisionError
  | notExecutable (message : String)
  | valueError (message : String)
  | planning (failure : Failure)
deriving Repr, DecidableEq

/-! ### `_ORDINAL_PATTERN` -/

/-- The characters of the numeral. -/
def ordinalChars : List Char :=
  ['0', '1', '2', '3', '4', '5', '6', '7', '8', '9',
    '一', '二', '三', '四', '五', '六', '七', '八', '九', '十', '百', '两']

/-- What follows the numeral: `章|节|部分|篇|条|个?章节`. -/
def ordinalEndings : List (List Char) :=
  [['章'], ['节'], ['部', '分'], ['篇'], ['条'], ['个', '章', '节'], ['章', '节']]

/-- The numeral where the pattern matches behind its first character. Neither a blank nor an ending starts with a
character of the numeral, so that only the longest runs can match. -/
def numeralAt (text : List Char) : Option (List Char) :=
  let body := text.dropWhile isSpace
  let raw := body.takeWhile fun character => decide (character ∈ ordinalChars)
  let rest := (body.dropWhile fun character => decide (character ∈ ordinalChars)).dropWhile isSpace
  if raw ≠ [] ∧ ordinalEndings.any fun ending => ending.isPrefixOf rest then some raw else none

/-- The first match in a text. -/
def searchOrdinal : List Char → Option (List Char)
  | [] => none
  | character :: rest => ((if character = '第' then numeralAt rest else none)).or (searchOrdinal rest)

/-- `_ORDINAL_PATTERN.search(text).group(1)`. -/
def ordinalMatch (text : String) : Option (List Char) :=
  searchOrdinal text.toList

/-! ### Numerals -/

/-- `_CN_DIGITS.get`. -/
def cnDigits : Char → Option Nat
  | '零' => some 0
  | '一' => some 1
  | '二' => some 2
  | '两' => some 2
  | '三' => some 3
  | '四' => some 4
  | '五' => some 5
  | '六' => some 6
  | '七' => some 7
  | '八' => some 8
  | '九' => some 9
  | _ => none

/-- `_CN_DIGITS.get(part, default) if part else missing`. -/
def digitOr (missing default : Nat) : List Char → Nat
  | [] => missing
  | [character] => (cnDigits character).getD default
  | _ => default

/-- `_chinese_number`. -/
def chineseNumber (raw : List Char) : Option Nat :=
  if raw = [] then none
  else if '十' ∉ raw then
    (raw.foldlM (fun total character => (cnDigits character).map fun digit => total * 10 + digit) 0).filter
      fun total => total ≠ 0
  else
    let tens := digitOr 1 1 (raw.takeWhile fun character => character ≠ '十')
    let ones := digitOr 0 0 ((raw.dropWhile fun character => character ≠ '十').drop 1)
    some (tens * 10 + ones)

/-- The digits that `int` reads before it raises. -/
def intMaxStrDigits : Nat :=
  4300

/-- `int(raw)` of ASCII digits. -/
def intOfDigits (raw : List Char) : Except RevisionError Nat :=
  if raw.length ≤ intMaxStrDigits then
    .ok (raw.foldl (fun total character => total * 10 + (character.toNat - '0'.toNat)) 0)
  else .error (.valueError "Exceeds the limit (4300 digits) for integer string conversion")

/-- The number of a numeral, before the test that it is positive. -/
def readNumeral (raw : List Char) : Except RevisionError (Option Nat) :=
  if raw.all (·.isDigit) then (intOfDigits raw).map some else .ok (chineseNumber raw)

/-- `_ordinal_index`. -/
def ordinalIndex (text : String) : Except RevisionError (Option Nat) :=
  match ordinalMatch text with
  | none => .ok none
  | some raw => (readNumeral raw).map fun index => index.filter fun value => 0 < value

/-! ### Tokens -/

/-- An `OutlineUnitSpec`. -/
structure OutlineUnit where
  unitId : String
  title : String := ""
deriving Repr, DecidableEq

/-- An `OutputSpec`. -/
structure OutputSpec where
  outline : List OutlineUnit
deriving Repr, DecidableEq

/-- `RevisionOperation`. -/
inductive RevisionOperation
  | fieldUpdate
  | sectionUpdate
  | fullRegeneration
deriving Repr, DecidableEq

/-- A `RevisionPatch`. -/
structure RevisionPatch where
  patchId : String
  revisionId : String
  parentPlanHash : String
  operation : RevisionOperation
  instruction : String
  targetUnitIds : List String := []
  changedFields : List String := []
  changedSections : List String := []
deriving Repr, DecidableEq

/-- `_normalize_unit_id`. -/
def normalizeUnitId (value : String) : String :=
  let text := strip value
  if startsWith text "field:" then skip 6 text
  else if startsWith text "review:" then skip 7 text
  else text

/-- `_outline_title_by_unit`. -/
def outlineTitleByUnit (spec : Option OutputSpec) : OrderedDict String String :=
  match spec with
  | none => .empty
  | some spec => .ofEntries (spec.outline.map fun unit => (strip unit.unitId, strip unit.title))

section Resolution

variable (str : Value → String) (plan : DocumentPlan) (spec : Option OutputSpec)

/-- `unit_by_normalized`. -/
def unitByNormalized : OrderedDict String String :=
  .ofEntries (plan.semanticUnits.map fun unit => (normalizeUnitId unit.unitId, unit.unitId))

/-- `label_matches`. -/
def labelMatches (normalized : String) : List String :=
  (plan.semanticUnits.filter fun unit =>
    normalizeUnitId (str ((unit.outputSchema.entries.get "label").orElse (.string ""))) = normalized).map (·.unitId)

/-- `title_matches`. -/
def titleMatches (normalized : String) : List String :=
  ((outlineTitleByUnit spec).entries.filter fun entry =>
    entry.2 ≠ "" ∧ normalizeUnitId entry.2 = normalized).map Prod.fst

/-- `contained`, for the texts of two characters or more. -/
def containedTitles (text : String) : List String :=
  if 2 ≤ text.length then
    ((outlineTitleByUnit spec).entries.filter fun entry =>
      entry.2 ≠ "" ∧ (hasPart entry.2 text ∨ hasPart text entry.2)).map Prod.fst
  else []

/-- The units that a text names by an id, by a label or by a title: the first kind of match that there is. -/
def namedUnits (text : String) : List String :=
  match (unitByNormalized plan).get? (normalizeUnitId text) with
  | some unitId => [unitId]
  | none =>
    if labelMatches str plan (normalizeUnitId text) ≠ [] then labelMatches str plan (normalizeUnitId text)
    else if titleMatches spec (normalizeUnitId text) ≠ [] then titleMatches spec (normalizeUnitId text)
    else containedTitles spec text

/-- `outline[index - 1]`, where there is an index and the outline reaches it. -/
def outlineUnitAt (index : Option Nat) : List String :=
  match index, spec with
  | some index, some spec =>
    if 1 ≤ index then (spec.outline[index - 1]?).toList.map fun unit => strip unit.unitId else []
  | _, _ => []

/-- `_resolve_one_token`. -/
def resolveOneToken (token : String) : Except RevisionError (List String) :=
  let text := strip token
  if text = "" then .ok []
  else if namedUnits str plan spec text ≠ [] then .ok (namedUnits str plan spec text)
  else (ordinalIndex text).map (outlineUnitAt spec)

/-- The tokens of a patch that does not regenerate the whole document. -/
def RevisionPatch.tokens (patch : RevisionPatch) : List String :=
  patch.targetUnitIds ++ if patch.operation = .fieldUpdate then patch.changedFields else patch.changedSections

/-- The loop over the tokens: what is resolved so far, and what is not. -/
def resolveNext (found : List String × List String) (token : String) :
    Except RevisionError (List String × List String) :=
  (resolveOneToken str plan spec token).map fun units =>
    if units = [] then (found.1, found.2 ++ [token])
    else (units.foldl (fun resolved unitId => if unitId ∈ resolved then resolved else resolved ++ [unitId]) found.1,
      found.2)

/-- What the loop has found, where every token is resolved. -/
def boundUnits (found : List String × List String) : Except RevisionError (List String) :=
  if found.2 ≠ [] then
    .error (.notExecutable ("无法把修订范围绑定到稳定单元: " ++ ", ".intercalate found.2))
  else if found.1 = [] then .error (.notExecutable "修订请求没有可执行的单元范围")
  else .ok found.1

/-- `resolve_revision_targets`. -/
def resolveRevisionTargets (patch : RevisionPatch) : Except RevisionError (List String) :=
  if patch.operation = .fullRegeneration then .ok (plan.semanticUnits.map (·.unitId))
  else patch.tokens.foldlM (resolveNext str plan spec) ([], []) >>= boundUnits

end Resolution

end HardwareDatabase.Replanning
