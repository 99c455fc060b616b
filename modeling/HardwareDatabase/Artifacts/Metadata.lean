/-
Module: HardwareDatabase.Artifacts.Metadata
Purpose: The governed metadata of stored artifacts and their outbox events (`update_artifact` of
  `src/src/document_authoring/work_order_store.py`). `content_hash` is a parameter that gives nothing for what JSON
  cannot write; what an artifact holds besides is one JSON text.
Trusted boundary: none
-/
import HardwareDatabase.Python.Paths
import HardwareDatabase.Python.Text
import HardwareDatabase.Python.OrderedDict
import HardwareDatabase.Relational.Run
import HardwareDatabase.Relational.Table

namespace HardwareDatabase.Artifacts

open Python (Value Dict strip sortedSet)
open Relational

/-! ### Rows -/

/-- The payload of a row of `document_artifacts`. `update_artifact` validates only what it reads, so the metadata may
be any values. -/
structure Artifact where
  artifactId : String
  workOrderId : String
  validityStatus : Value := .string "current"
  policyStatus : Value := .string "active"
  regenerationStatus : Value := .string "not_needed"
  statusReasons : Value := .array []
  revisionId : Value := .null
  details : String := ""
deriving Repr, DecidableEq

/-- A row of `document_outbox_events`. -/
structure OutboxEvent where
  eventKey : String
  aggregateId : String
  eventType : String
  payload : Dict
deriving Repr, DecidableEq

/-- The tables; events are in the order of their creation. -/
structure Store where
  artifacts : List Artifact
  outbox : List OutboxEvent
deriving Repr, DecidableEq

/-- What `update_artifact` raises. -/
inductive Failure
  -- ValueError
  | unsupportedUpdates (unknown : List String)
  -- KeyError
  | artifactNotFound
  -- pydantic's ValidationError
  | invalidArtifact
  -- TypeError
  | notSerializable
deriving Repr, DecidableEq

/-! ### Updates -/

/-- The keyword arguments that `update_artifact` accepts. -/
def allowedUpdates : List String :=
  ["validity_status", "policy_status", "regeneration_status", "status_reasons", "revision_id"]

/-- The argument under a name, or what the artifact has. -/
def given (updates : Dict) (name : String) (current : Value) : Value :=
  ((updates.find? fun entry => entry.1 == name).map Prod.snd).getD current

/-- `current.model_copy(update=updates)`. -/
def Artifact.modelCopy (current : Artifact) (updates : Dict) : Artifact :=
  { current with
    validityStatus := given updates "validity_status" current.validityStatus
    policyStatus := given updates "policy_status" current.policyStatus
    regenerationStatus := given updates "regeneration_status" current.regenerationStatus
    statusReasons := given updates "status_reasons" current.statusReasons
    revisionId := given updates "revision_id" current.revisionId }

/-- `list[dict[str, Any]]`. -/
def isReasons : Value → Bool
  | .array items => items.all fun item => item.dict?.isSome
  | _ => false

/-- `str | None`. -/
def isOptionalText : Value → Bool
  | .null => true
  | .string _ => true
  | _ => false

/-- `DocumentArtifact.model_validate` passes. -/
def Artifact.Validates (artifact : Artifact) : Prop :=
  artifact.validityStatus ∈ [.string "current", .string "artifact_stale", .string "revalidation_required"] ∧
    artifact.policyStatus ∈ [.string "active", .string "policy_obsolete"] ∧
    artifact.regenerationStatus ∈ [.string "not_needed", .string "recommended"] ∧
    isReasons artifact.statusReasons = true ∧ isOptionalText artifact.revisionId = true

instance (artifact : Artifact) : Decidable artifact.Validates :=
  inferInstanceAs (Decidable (_ ∧ _ ∧ _ ∧ _ ∧ _))

/-! ### The transaction -/

/-- `get_artifact`, without its validation. -/
def Store.getArtifact (store : Store) (artifactId : String) : Option Artifact :=
  store.artifacts.find? fun artifact => artifact.artifactId == artifactId

/-- The `event_type` of the events of `update_artifact`. -/
def metadataUpdated : String :=
  "document_artifact.metadata_updated"

/-- The `event_key` of an update with this hash. -/
def eventKey (artifactId digest : String) : String :=
  "artifact:" ++ artifactId ++ ":metadata:" ++ digest

/-- The event of `update_artifact`. -/
def metadataEvent (revised : Artifact) (digest : String) : OutboxEvent where
  eventKey := eventKey revised.artifactId digest
  aggregateId := revised.artifactId
  eventType := metadataUpdated
  payload :=
    [("artifact_id", .string revised.artifactId),
      ("regeneration_status", revised.regenerationStatus),
      ("validity_status", revised.validityStatus),
      ("work_order_id", .string revised.workOrderId)]

/-- The event is stored unless its key is. -/
def Store.announce (store : Store) (event : OutboxEvent) : Store :=
  if event.eventKey ∈ store.outbox.map (·.eventKey) then store
  else { store with outbox := store.outbox ++ [event] }

/-- `update_artifact`. -/
def updateArtifact (contentHash : Dict → Option String) (store : Store) (artifactId : String) (updates : Dict) :
    Except Failure (Store × Artifact) :=
  let unknown := (updates.map Prod.fst).filter fun name => decide (name ∉ allowedUpdates)
  if unknown ≠ [] then .error (.unsupportedUpdates (sortedSet unknown))
  else
    match store.getArtifact (strip artifactId) with
    | none => .error .artifactNotFound
    | some current =>
      if ¬ current.Validates then .error .invalidArtifact
      else
        let revised := current.modelCopy updates
        match contentHash updates with
        | none => .error .notSerializable
        | some digest =>
          let written :=
            { store with
              artifacts := updateWhere (fun artifact => artifact.artifactId == revised.artifactId)
                (fun _ => revised) store.artifacts }
          .ok (written.announce (metadataEvent revised digest), revised)

/-! ### Calls -/

/-- A call of `update_artifact`. -/
structure Call where
  artifactId : String
  updates : Dict
deriving Repr, DecidableEq

/-- The tables after a call. -/
def Store.step (contentHash : Dict → Option String) (store : Store) (call : Call) : Store :=
  match updateArtifact contentHash store call.artifactId call.updates with
  | .error _ => store
  | .ok (after, _) => after

/-- Calls of `update_artifact` on some tables. -/
def calls (contentHash : Dict → Option String) (store : Store) : Machine Store Call where
  init := store
  step := Store.step contentHash

end HardwareDatabase.Artifacts
