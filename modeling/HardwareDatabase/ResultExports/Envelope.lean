/-
Module: HardwareDatabase.ResultExports.Envelope
Purpose: Result envelopes (`src/src/result_exports/models.py`) and the snapshots that store them
  (`src/src/result_exports/store.py`). The JSON module, the digest and the texts of values that are no texts come with
  the runtime.
Trusted boundary: none
-/
import HardwareDatabase.Python.Value
import HardwareDatabase.ResultExports.Jobs
import Mathlib.Algebra.Group.Nat.Defs

namespace HardwareDatabase.ResultExports

open Python (Value Dict strip lowerAscii)

/-- What the host language supplies: `str` of a value that is no text, `json.dumps` with the arguments of
`_json`, `json.loads`, and the hexadecimal digest of a text. -/
structure Runtime where
  repr : Value → String
  dumps : Value → String
  loads : String → Option Value
  sha256 : String → String

/-- What the calls raise. -/
inductive SnapshotFailure
  -- TypeError
  | notIterable
  -- OverflowError
  | intTooLarge
  -- ValueError
  | identifierRequired
  | notAnObject
  | immutable
  | integrity
deriving Repr, DecidableEq

/-- The message of an exception that the module words itself. -/
def SnapshotFailure.text : SnapshotFailure → String
  | .notIterable | .intTooLarge => ""
  | .identifierRequired => "export owner/source identifiers are required"
  | .notAnObject => "result envelope must be an object"
  | .immutable => "result snapshot is immutable"
  | .integrity => "result snapshot integrity check failed"

/-- `str(value)`. -/
def Runtime.str (runtime : Runtime) : Value → String
  | .string text => text
  | value => runtime.repr value

/-- `list(value)`. -/
def listOf (value : Value) : Except SnapshotFailure (List Value) :=
  match value.iterated with
  | some items => .ok items
  | none => .error .notIterable

/-! ### Inferred types -/

/-- `float(value)` of an integer does not overflow. -/
def fitsFloat (value : Int) : Bool :=
  value.natAbs < 2 ^ 1024 - 2 ^ 970

/-- A finite number that is no truth value. -/
def isNumber : Value → Except SnapshotFailure Bool
  | .int value => if fitsFloat value then .ok true else .error .intTooLarge
  | .float _ finite _ => .ok finite
  | _ => .ok false

/-- `all(..)` over the finite numbers, which stops at the first value that is none. -/
def allNumbers : List Value → Except SnapshotFailure Bool
  | [] => .ok true
  | value :: rest => do
    if ← isNumber value then allNumbers rest else .ok false

/-- A value that is neither `None` nor the empty text. -/
def isFilled : Value → Bool
  | .null => false
  | .string text => text != ""
  | _ => true

def isBool : Value → Bool
  | .bool _ => true
  | _ => false

def isDate : Value → Bool
  | .date _ => true
  | _ => false

/-- A text that starts as a web address does. -/
def isUrl : Value → Bool
  | .string text =>
    (lowerAscii text).startsWith "http://" || (lowerAscii text).startsWith "https://"
  | _ => false

/-- `_infer_value_type`. -/
def inferValueType (values : List Value) : Except SnapshotFailure String := do
  let nonEmpty := values.filter isFilled
  if nonEmpty.isEmpty then .ok "text"
  else if nonEmpty.all isBool then .ok "boolean"
  else
    let numbers ← allNumbers nonEmpty
    .ok
      (if numbers then "number"
      else if nonEmpty.all isDate then "date"
      else if nonEmpty.all isUrl then "url"
      else "text")

/-! ### Envelopes -/

/-- `ResultEnvelope`. -/
structure ResultEnvelope where
  title : String
  query : String
  answer : String
  footer : String
  tables : List Dict
  citations : List Dict
  metadata : Dict
  schemaVersion : String
  blocks : List Dict
  assets : List Dict
  language : String

/-- The cell of a row in a column, or the empty text. -/
def cell (columnIndex : Nat) : Value → Value
  | .array items => items.getD columnIndex (.string "")
  | _ => .string ""

/-- The number of columns of a table. -/
def columnsOf (table : Dict) : Except SnapshotFailure (List Value) :=
  listOf ((table.get "columns").orElse (.array []))

/-- The types that a table states for its columns, if there are enough of them. -/
def suppliedTypes (table : Dict) (width : Nat) : Option (List Value) :=
  match table.get "value_types" with
  | .array items => if width ≤ items.length then some (items.take width) else none
  | _ => none

/-- The type of a column, from its cells. -/
def columnType (table : Dict) (columnIndex : Nat) : Except SnapshotFailure String := do
  let rows ← listOf ((table.get "rows").orElse (.array []))
  inferValueType (rows.map (cell columnIndex))

/-- The types of the columns of a table. -/
def valueTypes (runtime : Runtime) (table : Dict) (width : Nat) : Except SnapshotFailure (List String) :=
  match suppliedTypes table width with
  | some items => .ok (items.map runtime.str)
  | none => (List.range width).mapM (columnType table)

/-- A table with its types. -/
def normalizedTable (runtime : Runtime) (table : Dict) : Except SnapshotFailure Dict := do
  let columns ← columnsOf table
  let types ← valueTypes runtime table columns.length
  .ok (table.assign "value_types" (.array (types.map .string)))

/-- `text or default`. -/
def textOr (text default : String) : String :=
  if text = "" then default else text

namespace ResultEnvelope

/-- `normalized`. -/
def normalized (runtime : Runtime) (envelope : ResultEnvelope) : Except SnapshotFailure ResultEnvelope := do
  let tables ← envelope.tables.mapM (normalizedTable runtime)
  .ok { envelope with
    tables
    schemaVersion := textOr envelope.schemaVersion "v1"
    language := textOr envelope.language "zh-CN" }

/-- The entries of the dictionary of an envelope. -/
def fields (envelope : ResultEnvelope) : Dict :=
  [("answer", .string envelope.answer), ("assets", .array (envelope.assets.map .object)),
    ("blocks", .array (envelope.blocks.map .object)),
    ("citations", .array (envelope.citations.map .object)),
    ("footer", .string envelope.footer),
    ("language", .string envelope.language),
    ("metadata", .object envelope.metadata),
    ("query", .string envelope.query),
    ("schema_version", .string envelope.schemaVersion),
    ("tables", .array (envelope.tables.map .object)),
    ("title", .string envelope.title)]

/-- `to_dict`. -/
def toDict (envelope : ResultEnvelope) : Value :=
  .object envelope.fields

/-- `str(value or default)`. -/
def textOf (runtime : Runtime) (value : Value) (default : String) : String :=
  if value.truthy then runtime.str value else default

/-- `[item for item in (value or []) if isinstance(item, dict)]`. -/
def dictsOf (value : Value) : Except SnapshotFailure (List Dict) := do
  let items ← listOf (value.orElse (.array []))
  .ok (items.filterMap Value.dict?)

/-- `from_dict`. -/
def fromDict (runtime : Runtime) : Value → Except SnapshotFailure ResultEnvelope
  | .object entries => do
    let fields : Dict := entries
    let tables ← dictsOf (fields.get "tables")
    let citations ← dictsOf (fields.get "citations")
    let blocks ← dictsOf (fields.get "blocks")
    let assets ← dictsOf (fields.get "assets")
    .ok
      { title := textOf runtime (fields.get "title") "导出结果"
        query := textOf runtime (fields.get "query") ""
        answer := textOf runtime (fields.get "answer") ""
        footer := textOf runtime (fields.get "footer") ""
        tables
        citations
        metadata := (fields.get "metadata").dict?.getD []
        schemaVersion := textOf runtime (fields.get "schema_version") "v1"
        blocks
        assets
        language := textOf runtime (fields.get "language") "zh-CN" }
  | _ => .error .notAnObject

end ResultEnvelope

/-! ### Snapshots -/

/-- `ResultSnapshot`. -/
structure ResultSnapshot where
  row : SnapshotRow
  envelope : ResultEnvelope

/-- The snapshots. `nextId` is the supply of `uuid4` values. -/
structure SnapshotTable where
  rows : List SnapshotRow
  nextId : Nat
  below : ∀ row ∈ rows, row.snapshotId < nextId

/-- `_as_id`. -/
def asIdentifier (value : String) : Except SnapshotFailure String :=
  if strip value = "" then .error .identifierRequired else .ok (strip value)

/-- The arguments of `create_snapshot`. -/
structure CreateSnapshotCall where
  ownerUserId : String
  tenantId : String
  departmentId : Option String
  knowledgeBaseName : Option String
  sessionId : String
  turnId : String
  assistantMessageId : Option Int
  envelope : ResultEnvelope

/-- The knowledge base that a snapshot belongs to. -/
def CreateSnapshotCall.knowledgeBase (call : CreateSnapshotCall) (runtime : Runtime)
    (content : ResultEnvelope) : String :=
  strip ((given call.knowledgeBaseName).getD
    (ResultEnvelope.textOf runtime (content.metadata.get "knowledge_base") ""))

/-- `_row_to_snapshot`. -/
def rowToSnapshot (runtime : Runtime) (row : SnapshotRow) : Except SnapshotFailure ResultSnapshot := do
  let envelope ← ResultEnvelope.fromDict runtime ((runtime.loads row.envelopeJson).getD (.object []))
  if row.sourceHash = "" then .ok { row, envelope }
  else
    let content ← envelope.normalized runtime
    if runtime.sha256 (runtime.dumps content.toDict) = row.sourceHash then .ok { row, envelope }
    else .error .integrity

/-- A snapshot is inserted under a fresh identifier. -/
def SnapshotTable.insert (table : SnapshotTable) (row : SnapshotRow) (fresh : row.snapshotId = table.nextId) :
    SnapshotTable where
  rows := table.rows ++ [row]
  nextId := table.nextId + 1
  below := by
    intro other member
    rcases List.mem_append.mp member with old | new
    · exact Nat.lt_succ_of_lt (table.below other old)
    · rw [List.mem_singleton.mp new, fresh]
      exact Nat.lt_succ_self _

/-- The row that a call inserts. -/
def CreateSnapshotCall.row (call : CreateSnapshotCall) (runtime : Runtime) (content : ResultEnvelope)
    (snapshotId now : Nat) : SnapshotRow where
  snapshotId := snapshotId
  ownerUserId := strip call.ownerUserId
  tenantId := strip call.tenantId
  departmentId := given call.departmentId
  knowledgeBaseName := call.knowledgeBase runtime content
  sessionId := strip call.sessionId
  turnId := strip call.turnId
  assistantMessageId := call.assistantMessageId
  schemaVersion := textOr content.schemaVersion "v1"
  sourceHash := runtime.sha256 (runtime.dumps content.toDict)
  envelopeJson := runtime.dumps content.toDict
  createdAt := now

/-- The table with the row of a call. -/
def SnapshotTable.record (table : SnapshotTable) (runtime : Runtime) (call : CreateSnapshotCall)
    (content : ResultEnvelope) (now : Nat) : SnapshotTable :=
  table.insert (call.row runtime content table.nextId now) rfl

/-- The snapshot of a turn of an owner. -/
def SnapshotTable.ofTurn? (table : SnapshotTable) (ownerUserId turnId : String) : Option SnapshotRow :=
  table.rows.find? fun row => row.ownerUserId == ownerUserId && row.turnId == turnId

/-- `create_snapshot`. -/
def createSnapshot (runtime : Runtime) (table : SnapshotTable) (call : CreateSnapshotCall) (now : Nat) :
    Except SnapshotFailure (SnapshotTable × ResultSnapshot) := do
  let owner ← asIdentifier call.ownerUserId
  let _ ← asIdentifier call.tenantId
  let _ ← asIdentifier call.sessionId
  let turn ← asIdentifier call.turnId
  let content ← call.envelope.normalized runtime
  match table.ofTurn? owner turn with
  | some existing =>
    if existing.envelopeJson = runtime.dumps content.toDict then
      (rowToSnapshot runtime existing).map fun snapshot => (table, snapshot)
    else .error .immutable
  | none =>
    (rowToSnapshot runtime (call.row runtime content table.nextId now)).map fun snapshot =>
      (table.record runtime call content now, snapshot)

/-- `get_snapshot`. -/
def getSnapshot (runtime : Runtime) (table : SnapshotTable) (ownerUserId : String) (snapshotId : Nat) :
    Except SnapshotFailure (Option ResultSnapshot) :=
  match table.rows.find? fun row => row.snapshotId == snapshotId && row.ownerUserId == ownerUserId with
  | none => .ok none
  | some row => (rowToSnapshot runtime row).map some

end HardwareDatabase.ResultExports
