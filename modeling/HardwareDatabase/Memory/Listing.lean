/-
Module: HardwareDatabase.Memory.Listing
Purpose: `list_records` of the catalog and `list_memories` (`src/src/memory/service.py`). The authorization is an
  input, and a cursor is the number that its text stands for.
Trusted boundary: none
-/
import HardwareDatabase.Memory.Invalidation
import HardwareDatabase.Python.Locations

namespace HardwareDatabase.Memory

open Python

/-! ### The catalog -/

/-- `ORDER BY CASE status WHEN 'verified' THEN 0 ELSE 1 END, updated_at DESC, memory_id`. -/
def listsBefore (left right : Record) : Bool :=
  let rank (record : Record) : Nat := if record.status = .verified then 0 else 1
  decide (rank left < rank right) || rank left == rank right &&
    (decide (right.updatedAt < left.updatedAt) || left.updatedAt == right.updatedAt &&
      decide (left.memoryId ≤ right.memoryId))

/-- The rows of a scope with one of the statuses, in the order of the query. -/
def orderedRecords (tables : Tables) (scope : Scope) (statuses : List RecordStatus) : List Record :=
  (tables.records.filter fun record =>
    record.scope == scope && (statuses.isEmpty || statuses.contains record.status)).mergeSort listsBefore

/-- `list_records`. -/
def listRecords (tables : Tables) (scope : Scope) (statuses : List RecordStatus) (limit offset : Int) : List Record :=
  ((orderedRecords tables scope statuses).drop (max 0 offset).toNat).take (max 1 (min limit 500)).toNat

/-! ### The service -/

/-- `_user_record_is_active`. -/
def userRecordIsActive (tables : Tables) (record : Record) : Bool :=
  match record.scope with
  | .project _ _ => false
  | .user userId =>
    let sources := tables.sources.filter fun source => source.memoryId == record.memoryId && source.sourceValid
    record.status.isActive && (getUserSettings tables userId).optIn && !sources.isEmpty &&
      sources.all fun source =>
        (source.consentEventId.bind fun consentId =>
          tables.consents.find? fun consent => consent.consentEventId == consentId).any fun consent =>
            consent.revokedAt.isNone && consent.userId == userId

/-- `scope`. -/
inductive ScopeSelection
  | all
  | user
  | project
deriving Repr, DecidableEq

/-- `status`. -/
inductive StatusFilter
  | all
  | active
  | only (status : RecordStatus)
deriving Repr, DecidableEq

/-- The statuses that are asked for; all of `MEMORY_STATUSES` for `all`. -/
def StatusFilter.statuses : StatusFilter → List RecordStatus
  | .all => [.candidate, .verificationPending, .supersedePending, .needsRebuild, .verified, .superseded, .rejected,
      .deleted, .provenanceMissing]
  | .active => [.candidate, .verified]
  | .only status => [status]

/-- The arguments of `list_memories`, and the user and the project that the caller may read. -/
structure ListRequest where
  userId : Option Nat
  project : Option (String × String)
  scope : ScopeSelection := .all
  status : StatusFilter := .active
  limit : Int := 100
  offset : Int := 0
  query : String := ""
  cursor : Option Int := none

/-- `str.lower` and the JSON text of a content. -/
structure Texts where
  lower : String → String
  dumps : Content → String

/-- A scope that the caller may not read fails the call when it was asked for by name. -/
def authorized (asked : Bool) (scope : Option Scope) : Except String (List Scope) :=
  match scope with
  | some scope => .ok [scope]
  | none => if asked then .error "MemoryAuthorizationError" else .ok []

def userScopes (request : ListRequest) : Except String (List Scope) :=
  if request.scope = .project then .ok [] else authorized (request.scope = .user) (request.userId.map .user)

def projectScopes (request : ListRequest) : Except String (List Scope) :=
  if request.scope = .user then .ok []
  else authorized (request.scope = .project) (request.project.map fun place => .project place.1 place.2)

/-- The scopes that are listed, the user's first. -/
def scopesOf (request : ListRequest) : Except String (List Scope) := do
  let own ← userScopes request
  let shared ← projectScopes request
  return own ++ shared

/-- A row is listed: a user's only while it is active, and where there is a query it is in the content. -/
def keeps (texts : Texts) (tables : Tables) (query : String) (record : Record) : Bool :=
  (!record.scope.isUser || userRecordIsActive tables record) &&
    (strip query == "" || hasPart (texts.lower (texts.dumps record.content)) (texts.lower query))

/-- `list_memories`. -/
def listMemories (texts : Texts) (tables : Tables) (request : ListRequest) : Except String (List Record) := do
  let cursorOffset := (max 0 (request.cursor.getD 0)).toNat
  let requestedLimit := max 1 (min request.limit 200)
  let fetchLimit := max requestedLimit (min 500 (requestedLimit + cursorOffset))
  let scopes ← scopesOf request
  let rows := scopes.flatMap fun scope =>
    (listRecords tables scope request.status.statuses fetchLimit request.offset).filter
      (keeps texts tables request.query)
  return (rows.drop cursorOffset).take requestedLimit.toNat

end HardwareDatabase.Memory
