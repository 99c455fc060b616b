/-
Module: HardwareDatabase.Revisions.Service
Purpose: The completion of one artifact revision (`DocumentRevisionService`,
  `src/src/document_authoring/revisions.py`) by any number of calls. Every transaction and standalone statement is a
  step; the calls are those that `_task_for_context` lets through, and the reports on artifacts come with them.
Trusted boundary: none
-/
import HardwareDatabase.Relational.Calls
import HardwareDatabase.Relational.Run
import HardwareDatabase.Revisions.Store

namespace HardwareDatabase.Revisions

open Python (strip Value Dict)
open Relational

/-- What the calls rely on: the digest of a result, the order that a work order restarts, and the tenant of
the task. -/
structure Environment where
  contentHash : Dict → String
  restartOf : String → Option String
  taskTenant : String

/-! ### Checks of a completion -/

/-- The arguments of a completion, its status normalised, with the reports that it will compute. -/
structure Request where
  revalidationStatus : RevalidationStatus
  revalidationResult : Dict
  diffReport : Option Dict
  preservation : Option Dict
  targetChange : Option Dict
deriving Repr

/-- A completion: `complete_revision` names the child, `bind_generated_child` brings it along. -/
inductive Completion
  | completeRevision (childId : String) (request : Request)
  | bindGeneratedChild (child : Artifact) (request : Request)
deriving Repr

/-- A restart chain of at most so many orders leads to the order. -/
def restartsFrom (restartOf : String → Option String) (orderId : String) : Nat → String → Bool
  | 0, _ => false
  | hops + 1, current =>
    if current = "" then false
    else
      match restartOf current with
      | none => false
      | some parent =>
        if parent = "" then false
        else if parent = orderId then true
        else restartsFrom restartOf orderId hops parent

variable (env : Environment)

/-- `_child_in_revision_lineage`. -/
def childInRevisionLineage (revision : ArtifactRevision) (child : Artifact) : Bool :=
  child.workOrderId == revision.workOrderId ||
    restartsFrom env.restartOf revision.workOrderId 32 child.workOrderId

/-- The hashes that a result carries. -/
def snapshotHashes (revision : ArtifactRevision) (child : Artifact) : Dict :=
  [("input_snapshot_hash", .string revision.inputSnapshotHash),
    ("source_snapshot_hash", .string revision.sourceSnapshotHash),
    ("schema_hash", .string revision.schemaHash),
    ("child_artifact_content_hash", .string child.contentHash)]

/-- A supplied hash, if there is one, is the expected one. -/
def supplies (result : Dict) (key : String) (expected : Value) : Bool :=
  match result.get key with
  | .null => true
  | supplied => supplied.text? == expected.text?

/-- The key of the first supplied hash that is not the expected one. -/
def firstDifference (result expected : Dict) : Option String :=
  (expected.find? fun entry => !supplies result entry.1 entry.2).map Prod.fst

/-- A report enters the result under its key; if it has not passed, the revalidation has failed. -/
def withReport (key code : String) (report : Option Dict) (outcome : RevalidationStatus × Dict) :
    RevalidationStatus × Dict :=
  match report with
  | none => outcome
  | some report =>
    let result := Dict.assign key (.object report) outcome.2
    if (report.get "passed").truthy then (outcome.1, result)
    else (.failed, Dict.assign "error_code" (.string code) result)

/-- The status and the result with the three reports. -/
def Request.reported (request : Request) (result : Dict) : RevalidationStatus × Dict :=
  let compared := request.diffReport.elim result fun report =>
    Dict.assign "diff_report" (.object report) result
  withReport "target_change" "revision_content_unchanged" request.targetChange
    (withReport "preservation" "preservation_failed" request.preservation
      (request.revalidationStatus, compared))

/-- The checks that both routes make on the child. -/
def checkChild (revision : ArtifactRevision) (child : Artifact) : Option Failure :=
  if child.parentArtifactId.getD "" ≠ revision.parentArtifactId then some .childNotDerived
  else if child.stage = .approvedRelease then some .childReleased
  else none

/-- A completion whose checks have passed. -/
structure Prepared where
  childId : String
  child : Artifact
  status : RevalidationStatus
  result : Dict
deriving Repr

/-- `complete_revision` up to the binding, on the revision that it has read. -/
def completeRevision (artifacts : List Artifact) (revision : ArtifactRevision)
    (childId : String) (request : Request) : Except Failure Prepared :=
  if request.revalidationStatus = .pending then .error .unsupportedRevalidationStatus
  else if strip childId = "" then .error .childArtifactIdRequired
  else
    match getArtifact artifacts (strip childId) with
    | none => .error .childArtifactNotFound
    | some child =>
      if child.artifactId = revision.parentArtifactId then .error .childIsParent
      else if !childInRevisionLineage env revision child then .error .childOutsideLineage
      else if strip child.tenantId ≠ "" ∧ strip child.tenantId ≠ env.taskTenant then
        .error .childOutsideTenant
      else
        match checkChild revision child,
            firstDifference request.revalidationResult (snapshotHashes revision child) with
        | some failure, _ => .error failure
        | none, some key => .error (.hashDiffers key)
        | none, none =>
          let outcome := request.reported
            (Dict.update request.revalidationResult (snapshotHashes revision child))
          .ok { childId := strip child.artifactId, child, status := outcome.1, result := outcome.2 }

/-- `bind_generated_child` up to the binding, on the revision that it has read. -/
def bindGeneratedChild (revision : ArtifactRevision) (child : Artifact) (request : Request) : Except Failure Prepared :=
  if request.revalidationStatus = .pending then .error .unsupportedRevalidationStatus
  else if strip child.artifactId = "" then .error .childArtifactIdRequired
  else if strip child.artifactId = revision.parentArtifactId then .error .childIsParent
  else if !childInRevisionLineage env revision child then .error .childOutsideLineage
  else
    match checkChild revision child with
    | some failure => .error failure
    | none =>
      let outcome := request.reported
        (Dict.update request.revalidationResult (snapshotHashes revision child))
      .ok { childId := strip child.artifactId, child, status := outcome.1, result := outcome.2 }

/-- The beginning of `_apply_child_binding`, on the revision that has been read: the completion is refused,
or there is nothing left to do, or it goes on. -/
def applyChildBinding (revision : ArtifactRevision) (prepared : Prepared) : Except Failure (Option Prepared) :=
  if revision.childArtifactId.isNone then .ok (some prepared)
  else if revision.boundElsewhere prepared.childId then .error .boundToAnotherChild
  else if revision.revalidationStatus = .pending then .ok (some prepared)
  else if revision.conflicts prepared.status prepared.result then .error .resultConflicts
  else .ok none

/-- What a completion does between its reading of the revision and its first write. -/
def inspect (artifacts : List Artifact) (revision : ArtifactRevision) : Completion → Except Failure (Option Prepared)
  | .completeRevision childId request =>
    (completeRevision env artifacts revision childId request).bind (applyChildBinding revision)
  | .bindGeneratedChild child request =>
    (bindGeneratedChild env revision child request).bind (applyChildBinding revision)

/-- The reason that a completion leaves with the child. -/
def revalidatedReason (revision : ArtifactRevision) (prepared : Prepared) : StatusReason :=
  { code := some "artifact_revision_revalidated"
    revisionId := some revision.revisionId
    revalidationStatus := some prepared.status.text
    revalidationResultHash := some (env.contentHash prepared.result) }

/-- The two reasons are about the same completion, whatever its result. -/
def StatusReason.matches (item reason : StatusReason) : Bool :=
  item.code == reason.code && item.revisionId == reason.revisionId &&
    item.revalidationStatus == reason.revalidationStatus

/-- The lifecycle that a completion writes to the child, made from the child that it has read. -/
def Prepared.lifecycle (env : Environment) (revision : ArtifactRevision) (prepared : Prepared) : Lifecycle :=
  let reason := revalidatedReason env revision prepared
  let reasons := prepared.child.lifecycle.statusReasons
  { validityStatus := if prepared.status = .passed then .current else .revalidationRequired
    regenerationStatus := if prepared.status = .passed then .notNeeded else .recommended
    statusReasons :=
      if reasons.any fun item => item.matches reason then reasons else reasons ++ [reason] }

/-! ### Steps -/

/-- What a call does next, with what it has read. -/
inductive Phase
  -- `mark_released` has found the revision and calls `update_status`
  | releasing
  -- `update_status` and `bind_child_artifact` have read
  | statusRead (status : String) (view : ArtifactRevision)
  | childRead (childId : String) (view : ArtifactRevision)
  -- a completion has read the revision, then passed its checks, then marked the child
  | revisionRead (completion : Completion) (view : ArtifactRevision)
  | inspected (view : ArtifactRevision) (prepared : Prepared)
  -- what was read, and whether the mark has changed the child, are kept for the statements only
  | marked (view : ArtifactRevision) (prepared : Prepared) (changed : Bool)
deriving Repr

/-- The row, the artifacts and the calls that have not ended. -/
structure State where
  revision : ArtifactRevision
  artifacts : List Artifact
  calls : Calls Phase

/-- The first statement of a call, or the next one of a call that has begun. -/
inductive Op
  | updateStatus (status : String)
  | bindChildArtifact (childId : String)
  | markReleased (childId : String)
  | complete (completion : Completion)
  | proceed (call now : Nat)
deriving Repr

/-- A call begins. -/
def State.enter (state : State) (phase : Phase) : State :=
  { state with calls := state.calls.enter (some phase) }

/-- A call goes on to its next phase, or ends. -/
def State.moveTo (state : State) (call : Nat) (phase : Option Phase) : State :=
  { state with calls := state.calls.moveTo call phase }

/-- The lifecycle of an artifact. -/
def State.lifecycle (state : State) (artifactId : String) : Option Lifecycle :=
  (getArtifact state.artifacts artifactId).map Artifact.lifecycle

variable (state : State)

/-- The metadata that a completion writes to the child. -/
def State.mark (view : ArtifactRevision) (prepared : Prepared) : Except Failure (List Artifact) :=
  updateArtifact state.artifacts prepared.childId view.revisionId (prepared.lifecycle env view)

/-- The mark changes the lifecycle of the child. -/
def State.markChanges (view : ArtifactRevision) (prepared : Prepared) : Bool :=
  state.lifecycle prepared.childId != some (prepared.lifecycle env view)

/-- The next statement of a call. -/
def State.proceed (call now : Nat) : State :=
  match state.calls.phase call with
  | none => state
  | some .releasing => state.moveTo call (some (.statusRead "completed" state.revision))
  | some (.statusRead status view) =>
    { state.moveTo call none with revision := view.withStatus status now }
  | some (.childRead childId view) =>
    match checkChildArtifact view childId with
    | .error _ => state.moveTo call none
    | .ok () => { state.moveTo call none with revision := view.withChild childId now }
  | some (.revisionRead completion view) =>
    match inspect env state.artifacts view completion with
    | .ok (some prepared) => state.moveTo call (some (.inspected view prepared))
    | _ => state.moveTo call none
  | some (.inspected view prepared) =>
    match state.mark env view prepared with
    | .error _ => state.moveTo call none
    | .ok artifacts =>
      { state.moveTo call (some (.marked view prepared (state.markChanges env view prepared))) with
        artifacts }
  | some (.marked _ prepared _) =>
    match recordRevalidation state.revision prepared.childId prepared.status prepared.result now with
    | .error _ => state.moveTo call none
    | .ok revision => { state.moveTo call none with revision }

/-- One step. -/
def State.step : Op → State
  | .updateStatus status =>
    if strip status = "" then state else state.enter (.statusRead (strip status) state.revision)
  | .bindChildArtifact childId =>
    if strip childId = "" then state else state.enter (.childRead (strip childId) state.revision)
  | .markReleased childId =>
    if (getArtifact state.artifacts (strip childId)).isSome ∧
        state.revision.childArtifactId = some (strip childId) ∧ state.revision.status ≠ "completed" then
      state.enter .releasing
    else state
  | .complete completion => state.enter (.revisionRead completion state.revision)
  | .proceed call now => state.proceed env call now

/-- What a completion does to a child, and that it is refused. -/
inductive Event
  | marked (call : Nat) (childId : String) (validity : ValidityStatus)
  | refused (call : Nat)
deriving Repr, DecidableEq

/-- The events of the next statement of a call. -/
def State.proceedEvents (call now : Nat) : List Event :=
  match state.calls.phase call with
  | some (.revisionRead completion view) =>
    match inspect env state.artifacts view completion with
    | .error _ => [.refused call]
    | .ok _ => []
  | some (.inspected view prepared) =>
    match state.mark env view prepared with
    | .error _ => [.refused call]
    | .ok _ =>
      if state.markChanges env view prepared then
        [.marked call prepared.childId (prepared.lifecycle env view).validityStatus]
      else []
  | some (.marked _ prepared _) =>
    match recordRevalidation state.revision prepared.childId prepared.status prepared.result now with
    | .error _ => [.refused call]
    | .ok _ => []
  | _ => []

/-- The events of a step. -/
def State.events : Op → List Event
  | .proceed call now => state.proceedEvents env call now
  | _ => []

/-- The interleavings of the calls on a revision that has just been created. -/
def completions (identity : RevisionIdentity) (created : Nat) (artifacts : List Artifact) : Machine State Op where
  init := { revision := .planned identity created, artifacts, calls := .empty }
  step := State.step env

end HardwareDatabase.Revisions
