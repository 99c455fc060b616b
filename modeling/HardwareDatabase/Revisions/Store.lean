/-
Module: HardwareDatabase.Revisions.Store
Purpose: One stored artifact revision (`ArtifactRevisionStore`, `src/src/document_authoring/revisions.py`) and the
  artifacts that it names. `update_status` and `bind_child_artifact` read in one statement and write the whole copy
  back in a later one. The request, the plan bindings and the scopes, which none of these functions reads, are left
  out.
Trusted boundary: none
-/
import HardwareDatabase.Python.Text
import HardwareDatabase.Python.Value
import HardwareDatabase.Relational.Table

namespace HardwareDatabase.Revisions

open Python (strip Value Dict)
open Relational

/-- What a call raises. -/
inductive Failure
  -- KeyError
  | childArtifactNotFound
  -- PermissionError
  | childOutsideTenant
  -- ValueError
  | revisionStatusRequired
  | childArtifactIdRequired
  | boundToAnotherChild
  | resultConflicts
  | unsupportedRevalidationStatus
  | childIsParent
  | childOutsideLineage
  | childNotDerived
  | childReleased
  | hashDiffers (key : String)
deriving Repr, DecidableEq

/-- The message of the exception. -/
def Failure.text : Failure → String
  | .childArtifactNotFound => "child artifact not found"
  | .childOutsideTenant => "revision child artifact is outside the current tenant"
  | .revisionStatusRequired => "revision status is required"
  | .childArtifactIdRequired => "child artifact id is required"
  | .boundToAnotherChild => "artifact revision is already bound to another child artifact"
  | .resultConflicts => "revalidation result conflicts with existing revision completion"
  | .unsupportedRevalidationStatus => "revalidation status must be passed, failed or requires_human"
  | .childIsParent => "revision child artifact must differ from its parent"
  | .childOutsideLineage => "revision child artifact does not belong to the revision work order"
  | .childNotDerived => "revision child artifact is not derived from the revision parent"
  | .childReleased => "revision child must be reviewed before release"
  | .hashDiffers key => "revalidation result " ++ key ++ " does not match the revision snapshot"

/-! ### Revisions -/

/-- `REVISION_REVALIDATION_STATUSES`. -/
inductive RevalidationStatus
  | pending
  | passed
  | failed
  | requiresHuman
deriving Repr, DecidableEq

def RevalidationStatus.text : RevalidationStatus → String
  | .pending => "pending"
  | .passed => "passed"
  | .failed => "failed"
  | .requiresHuman => "requires_human"

/-- `_REVISION_STATUS_BY_REVALIDATION`. -/
def revisionStatusByRevalidation : RevalidationStatus → Option String
  | .pending => none
  | .passed => some "revalidated"
  | .failed => some "failed"
  | .requiresHuman => some "waiting_human"

/-- What a revision is about; it never changes. -/
structure RevisionIdentity where
  revisionId : String
  taskId : String
  workOrderId : String
  parentArtifactId : String
  inputSnapshotHash : String
  sourceSnapshotHash : String
  schemaHash : String
deriving Repr, DecidableEq

/-- The payload of a row of `artifact_revisions`. -/
structure ArtifactRevision extends RevisionIdentity where
  childArtifactId : Option String
  status : String
  revalidationStatus : RevalidationStatus
  revalidationResult : Dict
  updatedAt : Nat
deriving Repr

/-- The revision that `create_revision` stores. -/
def ArtifactRevision.planned (identity : RevisionIdentity) (now : Nat) : ArtifactRevision :=
  { toRevisionIdentity := identity, childArtifactId := none, status := "planned",
    revalidationStatus := .pending, revalidationResult := [], updatedAt := now }

/-- The copy that `update_status` writes back. -/
def ArtifactRevision.withStatus (current : ArtifactRevision) (status : String) (now : Nat) : ArtifactRevision :=
  { current with status, updatedAt := now }

/-- The revision is bound to a child other than this one. -/
def ArtifactRevision.boundElsewhere (current : ArtifactRevision) (childId : String) : Bool :=
  current.childArtifactId.any fun bound => bound != childId

/-- The check of `bind_child_artifact` on the revision that it has read. -/
def checkChildArtifact (current : ArtifactRevision) (childId : String) : Except Failure Unit :=
  if current.boundElsewhere childId then .error .boundToAnotherChild else .ok ()

/-- The copy that `bind_child_artifact` writes back. -/
def ArtifactRevision.withChild (current : ArtifactRevision) (childId : String) (now : Nat) : ArtifactRevision :=
  { current with childArtifactId := some childId, status := "completed", updatedAt := now }

/-- The revision already has another revalidation result than this one. -/
def ArtifactRevision.conflicts (current : ArtifactRevision) (status : RevalidationStatus) (result : Dict) : Bool :=
  current.revalidationStatus != status || !current.revalidationResult.equals result

/-- `record_revalidation`: the transaction returns the row that it leaves. -/
def recordRevalidation (current : ArtifactRevision) (childId : String) (status : RevalidationStatus)
    (result : Dict) (now : Nat) : Except Failure ArtifactRevision :=
  if childId = "" then .error .childArtifactIdRequired
  else
    match revisionStatusByRevalidation status with
    | none => .error .unsupportedRevalidationStatus
    | some revisionStatus =>
      if current.boundElsewhere childId then .error .boundToAnotherChild
      else if current.revalidationStatus ≠ .pending then
        if current.conflicts status result then .error .resultConflicts else .ok current
      else
        .ok
          { current with
            childArtifactId := some childId
            status := revisionStatus
            revalidationStatus := status
            revalidationResult := result.plain
            updatedAt := now }

/-! ### Artifacts -/

inductive Stage
  | draftPreview
  | reviewCandidate
  | approvedRelease
deriving Repr, DecidableEq

inductive ValidityStatus
  | current
  | artifactStale
  | revalidationRequired
deriving Repr, DecidableEq

inductive RegenerationStatus
  | notNeeded
  | recommended
deriving Repr, DecidableEq

/-- An entry of `status_reasons`; the keys that it lacks are `none`. -/
structure StatusReason where
  code : Option String
  revisionId : Option String
  revalidationStatus : Option String
  revalidationResultHash : Option String
deriving Repr, DecidableEq

/-- The lifecycle metadata that a completion writes. -/
structure Lifecycle where
  validityStatus : ValidityStatus
  regenerationStatus : RegenerationStatus
  statusReasons : List StatusReason
deriving Repr, DecidableEq

/-- A `DocumentArtifact`, as far as revisions look at it. -/
structure Artifact where
  artifactId : String
  tenantId : String
  workOrderId : String
  parentArtifactId : Option String
  stage : Stage
  contentHash : String
  revisionId : Option String
  lifecycle : Lifecycle
deriving Repr, DecidableEq

/-- `get_artifact`. -/
def getArtifact (artifacts : List Artifact) (artifactId : String) : Option Artifact :=
  artifacts.find? fun artifact => artifact.artifactId == artifactId

/-- `update_artifact` with the fields that a completion passes. -/
def updateArtifact (artifacts : List Artifact) (artifactId revisionId : String) (lifecycle : Lifecycle) :
    Except Failure (List Artifact) :=
  match getArtifact artifacts artifactId with
  | none => .error .childArtifactNotFound
  | some _ =>
    .ok (updateWhere (fun artifact => artifact.artifactId == artifactId)
      (fun artifact => { artifact with revisionId := some revisionId, lifecycle }) artifacts)

/-! ### What a completion records -/

/-- A recorded completion leaves the row as it was, or is the first and binds the child. -/
theorem recordRevalidation_ok {current after : ArtifactRevision} {childId : String}
    {status : RevalidationStatus} {result : Dict} {now : Nat}
    (done : recordRevalidation current childId status result now = .ok after) :
    current.boundElsewhere childId = false ∧ (current.revalidationStatus ≠ .pending ∧ after = current ∨
        current.revalidationStatus = .pending ∧ after.childArtifactId = some childId) := by
  unfold recordRevalidation at done
  split at done
  · cases done
  · split at done
    · cases done
    · split at done
      · cases done
      · rename_i free
        refine ⟨by simpa using free, ?_⟩
        split at done
        · rename_i completed
          split at done
          · cases done
          · cases done
            exact .inl ⟨completed, rfl⟩
        · rename_i pending
          cases done
          exact .inr ⟨by simpa using pending, rfl⟩

theorem ArtifactRevision.eq_of_boundElsewhere {current : ArtifactRevision} {childId bound : String}
    (free : current.boundElsewhere childId = false) (child : current.childArtifactId = some bound) :
    bound = childId := by
  simpa [ArtifactRevision.boundElsewhere, child] using free

end HardwareDatabase.Revisions
