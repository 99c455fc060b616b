/-
Module: HardwareDatabase.Python.Value
Purpose: The values of dictionaries and JSON texts. A dictionary is the list of its entries in key order; a float is
  known by its text, whether it is finite and whether it is zero; a date by its text.
Trusted boundary: none
-/

namespace HardwareDatabase.Python

/-- A value of the host language. -/
inductive Value
  | null
  | bool (value : Bool)
  | int (value : Int)
  | float (text : String) (finite zero : Bool)
  | string (text : String)
  | date (text : String)
  | array (items : List Value)
  | object (entries : List (String × Value))
deriving Repr, Inhabited

/-- A dictionary with texts as keys. -/
abbrev Dict := List (String × Value)

namespace Value

mutual

/-- The value that comes back from its JSON text. -/
def plain : Value → Value
  | .date text => .string text
  | .array items => .array (plainItems items)
  | .object entries => .object (plainEntries entries)
  | .null => .null
  | .bool value => .bool value
  | .int value => .int value
  | .float text finite zero => .float text finite zero
  | .string text => .string text

/-- The items that come back. -/
def plainItems : List Value → List Value
  | [] => []
  | item :: rest => plain item :: plainItems rest

/-- The entries that come back. -/
def plainEntries : List (String × Value) → List (String × Value)
  | [] => []
  | (key, value) :: rest => (key, plain value) :: plainEntries rest

end

/-- `bool(value)`. -/
def truthy : Value → Bool
  | .null => false
  | .bool value => value
  | .int value => value != 0
  | .float _ _ zero => !zero
  | .string text => text != ""
  | .date _ => true
  | .array items => !items.isEmpty
  | .object entries => !entries.isEmpty

/-- `value or default`. -/
def orElse (value default : Value) : Value :=
  if value.truthy then value else default

/-- `list(value)`; there is nothing for what is not iterable. -/
def iterated : Value → Option (List Value)
  | .string text => some (text.toList.map fun character => .string character.toString)
  | .array items => some items
  | .object entries => some (entries.map fun entry => .string entry.1)
  | _ => none

/-- `isinstance(value, dict)`, with the dictionary. -/
def dict? : Value → Option Dict
  | .object entries => some entries
  | _ => none

/-- `str(value)`; the text of a list or of a dictionary, which starts with a bracket, is left out. -/
def text? : Value → Option String
  | .null => some "None"
  | .bool value => some (if value then "True" else "False")
  | .int value => some (toString value)
  | .float text _ _ => some text
  | .string text => some text
  | .date text => some text
  | .array _ => none
  | .object _ => none

/-- The text of a float that is a whole number. -/
def wholeText (value : Int) : String :=
  toString value ++ ".0"

mutual

/-- `left == right`: a truth value is the number one or zero, and nothing equals what is not a number. -/
def equals : Value → Value → Bool
  | .null, .null => true
  | .bool left, .bool right => left == right
  | .bool left, .int right => right == (if left then 1 else 0)
  | .int left, .bool right => left == (if right then 1 else 0)
  | .int left, .int right => left == right
  | .float text _ zero, .float other _ otherZero => zero && otherZero || (text == other && text != "nan")
  | .int value, .float text _ zero => zero && value == 0 || text == wholeText value
  | .float text _ zero, .int value => zero && value == 0 || text == wholeText value
  | .bool value, .float text _ zero => if value then text == wholeText 1 else zero
  | .float text _ zero, .bool value => if value then text == wholeText 1 else zero
  | .string left, .string right => left == right
  | .date left, .date right => left == right
  | .array left, .array right => equalItems left right
  | .object left, .object right => equalEntries left right
  | _, _ => false

/-- Lists of the same length with equal items. -/
def equalItems : List Value → List Value → Bool
  | [], [] => true
  | left :: lefts, right :: rights => equals left right && equalItems lefts rights
  | _, _ => false

/-- The same keys with equal values. -/
def equalEntries : List (String × Value) → List (String × Value) → Bool
  | [], [] => true
  | (key, left) :: lefts, (other, right) :: rights =>
    key == other && equals left right && equalEntries lefts rights
  | _, _ => false

end

theorem plainItems_eq_map (items : List Value) : plainItems items = items.map plain := by
  induction items with
  | nil => rfl
  | cons item rest ih => rw [plainItems, ih, List.map_cons]

theorem plainEntries_eq_map (entries : Dict) :
    plainEntries entries = entries.map fun entry => (entry.1, entry.2.plain) := by
  induction entries with
  | nil => rfl
  | cons entry rest ih => rw [plainEntries, ih, List.map_cons]

@[simp] theorem plain_string (text : String) : (Value.string text).plain = .string text := rfl

@[simp] theorem plain_array (items : List Value) : (Value.array items).plain = .array (items.map plain) := by
  rw [plain, plainItems_eq_map]

theorem plain_strings (texts : List String) : (Value.array (texts.map .string)).plain = .array (texts.map .string) := by
  rw [plain_array, List.map_map]
  rfl

end Value

namespace Dict

/-- `left == right`. -/
def equals (left right : Dict) : Bool :=
  Value.equalEntries left right

/-- `dictionary.get(key)`. -/
def get : Dict → String → Value
  | [], _ => .null
  | entry :: rest, key => if entry.1 = key then entry.2 else get rest key

/-- `dictionary[key] = value`. -/
def assign (key : String) (value : Value) : Dict → Dict
  | [] => [(key, value)]
  | entry :: rest =>
    if entry.1 = key then (key, value) :: rest
    else if key < entry.1 then (key, value) :: entry :: rest
    else entry :: assign key value rest

/-- `dictionary.update(entries)`. -/
def update (entries : Dict) (more : Dict) : Dict :=
  more.foldl (fun whole entry => assign entry.1 entry.2 whole) entries

/-- The dictionary that comes back from its JSON text. -/
def plain (entries : Dict) : Dict :=
  Value.plainEntries entries

@[simp] theorem get_assign_self (key : String) (value : Value) (entries : Dict) :
    (assign key value entries).get key = value := by
  induction entries with
  | nil => simp [assign, get]
  | cons entry rest ih =>
    rw [assign]
    split
    · simp [get]
    · rename_i different
      split
      · simp [get]
      · rw [get, if_neg different, ih]

theorem get_assign_of_ne {key other : String} (different : other ≠ key) (value : Value) (entries : Dict) :
    (assign key value entries).get other = entries.get other := by
  induction entries with
  | nil => simp [assign, get, different.symm]
  | cons entry rest ih =>
    rw [assign]
    split
    · rename_i same
      simp [get, same, different.symm]
    · split
      · rw [get, if_neg different.symm]
      · rw [get, get, ih]

theorem assign_assign (key : String) (value : Value) (entries : Dict) :
    assign key value (assign key value entries) = assign key value entries := by
  induction entries with
  | nil => simp [assign]
  | cons entry rest ih =>
    by_cases same : entry.1 = key
    · simp [assign, same]
    · by_cases before : key < entry.1
      · simp [assign, same, before]
      · simp [assign, same, before, ih]

theorem get_plain (entries : Dict) (key : String) : (plain entries).get key = (entries.get key).plain := by
  rw [plain, Value.plainEntries_eq_map]
  induction entries with
  | nil => rfl
  | cons entry rest ih =>
    rw [List.map_cons, get, get, ih]
    split
    · rfl
    · rfl

/-- Assigning a text, or a list of texts, commutes with the way through JSON. -/
theorem plain_assign (key : String) (value : Value) (entries : Dict) :
    plain (assign key value entries) = assign key value.plain (plain entries) := by
  simp only [plain, Value.plainEntries_eq_map]
  induction entries with
  | nil => rfl
  | cons entry rest ih =>
    rw [List.map_cons, assign, assign]
    split
    · rfl
    · split
      · rfl
      · rw [List.map_cons, ih]

end Dict

end HardwareDatabase.Python
