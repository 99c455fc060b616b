/-
Module: HardwareDatabase.ResultExports.Files
Purpose: The export storage of `ResultExportStore` beside its tables: each step on files or tables is an operation, so
  processes interleave. Input and output do not fail.
Trusted boundary: none
-/
import HardwareDatabase.ResultExports.Service

namespace HardwareDatabase.ResultExports

open Relational

/-! ### Processes -/

/-- A call of `publish_artifact` whose file is written. A refused one still has to unlink its file. -/
structure Publishing where
  call : PublishCall
  ref : StorageRef
  refused : Bool
deriving Repr, DecidableEq

/-- A call of `cleanup_expired` after its transaction. -/
structure Sweep where
  sweepId : Nat
  todo : List StorageRef
deriving Repr, DecidableEq

/-- A call of `cleanup_session` after its first transaction: what it has listed, and what of that it has not
unlinked yet. -/
structure Cleanup where
  cleanupId : Nat
  sessionId : String
  listed : Bool
  listing : List StorageRef
  todo : List StorageRef
deriving Repr, DecidableEq

/-- A cleanup that has unlinked every file it has listed. -/
def Cleanup.ready (cleanup : Cleanup) : Bool :=
  cleanup.listed && cleanup.todo.isEmpty

/-- The calls that touch no file. -/
def ExportOp.keepsFiles : ExportOp → Bool
  | .publish _ _ | .expire _ _ | .cancelSession _ _ | .deleteSession _ => false
  | _ => true

/-- The steps of the processes. -/
inductive StorageOp
  | call (op : {op : ExportOp // op.keepsFiles = true})
  | write (call : PublishCall)
  | commit (artifactId : Nat) (lag : Nat)
  | discard (artifactId : Nat)
  | expire (current : Nat) (limit : Int)
  | unlinkExpired (sweepId : Nat)
  | cancelSession (sessionId : String) (lag : Nat)
  | listFiles (cleanupId : Nat)
  | unlinkListed (cleanupId : Nat)
  | deleteSession (cleanupId : Nat)
deriving DecidableEq

/-- The tables, the files, the processes in progress, and the sessions whose cleanup has returned. -/
structure StorageState where
  store : ExportState
  files : List StorageRef
  publishing : List Publishing
  sweeps : List Sweep
  cleanups : List Cleanup
  returned : List String
  nextProcess : Nat
deriving DecidableEq

namespace StorageState

variable (settings : Settings) (state : StorageState)

/-- The tables of the store. -/
def tables : JobTables :=
  state.store.tables

/-- `path.unlink(missing_ok=True)`. -/
def unlink (ref : StorageRef) : StorageState :=
  { state with files := deleteWhere (fun file => file == ref) state.files }

/-- Other tables at the same instant. -/
def withTables (tables : JobTables) : StorageState :=
  { state with store := { state.store with tables } }

/-- The first half of `publish_artifact`: the file is written under a fresh name. -/
def write (call : PublishCall) : StorageState :=
  if call.fits settings = false then state
  else
    let ref : StorageRef := { artifactId := state.tables.nextId, extension := call.extension }
    { state.withTables { state.tables with nextId := state.tables.nextId + 1 } with
      files := state.files ++ [ref]
      publishing := state.publishing ++ [{ call, ref, refused := false }] }

/-- The publication of a file that is written. -/
def publishing? (artifactId : Nat) (refused : Bool) : Option Publishing :=
  state.publishing.find? fun other => other.ref.artifactId == artifactId && other.refused == refused

/-- The publication is over. -/
def dropPublishing (artifactId : Nat) : StorageState :=
  { state with
    publishing := deleteWhere (fun other => other.ref.artifactId == artifactId) state.publishing }

/-- The publication is refused; its file is not unlinked yet. -/
def refusePublishing (artifactId : Nat) : StorageState :=
  { state with
    publishing := updateWhere (fun other => other.ref.artifactId == artifactId)
      (fun other => { other with refused := true }) state.publishing }

/-- The transaction of `publish_artifact`. -/
def commit (artifactId lag : Nat) : StorageState :=
  match state.publishing? artifactId false with
  | none => state
  | some publishing =>
    match publishArtifact settings state.tables publishing.call artifactId (state.store.now lag) with
    | .ok after => (state.dropPublishing artifactId).withTables after
    | .error _ => state.refusePublishing artifactId

/-- The exception handler of `publish_artifact`. -/
def discard (artifactId : Nat) : StorageState :=
  match state.publishing? artifactId true with
  | none => state
  | some publishing => (state.dropPublishing artifactId).unlink publishing.ref

/-- The transaction of `cleanup_expired`. -/
def expire (current : Nat) (limit : Int) : StorageState :=
  let (after, refs) := expireArtifacts state.tables current limit
  { state.withTables after with
    sweeps := state.sweeps ++ [{ sweepId := state.nextProcess, todo := refs }]
    nextProcess := state.nextProcess + 1 }

/-- The next file of `cleanup_expired`, or its end. -/
def unlinkExpired (sweepId : Nat) : StorageState :=
  match state.sweeps.find? fun sweep => sweep.sweepId == sweepId with
  | none => state
  | some sweep =>
    match sweep.todo with
    | [] => { state with sweeps := deleteWhere (fun other => other.sweepId == sweepId) state.sweeps }
    | ref :: rest =>
      { state.unlink ref with
        sweeps := updateWhere (fun other => other.sweepId == sweepId)
          (fun other => { other with todo := rest }) state.sweeps }

/-- The first transaction of `cleanup_session`. -/
def cancelSession (sessionId : String) (lag : Nat) : StorageState :=
  { state.withTables (ResultExports.cancelSession state.tables sessionId (state.store.now lag)) with
    cleanups := state.cleanups ++
      [{ cleanupId := state.nextProcess, sessionId, listed := false, listing := [], todo := [] }]
    nextProcess := state.nextProcess + 1 }

/-- The cleanup under an identifier. -/
def cleanup? (cleanupId : Nat) : Option Cleanup :=
  state.cleanups.find? fun cleanup => cleanup.cleanupId == cleanupId

/-- An update of a cleanup. -/
def updateCleanup (cleanupId : Nat) (write : Cleanup → Cleanup) : StorageState :=
  { state with
    cleanups := updateWhere (fun cleanup => cleanup.cleanupId == cleanupId) write state.cleanups }

/-- `cleanup_session` selects the files of its session. -/
def listFiles (cleanupId : Nat) : StorageState :=
  match state.cleanup? cleanupId with
  | none => state
  | some cleanup =>
    if cleanup.listed then state
    else
      let refs := sessionRefs state.tables cleanup.sessionId
      state.updateCleanup cleanupId fun other => { other with listed := true, listing := refs, todo := refs }

/-- The next file of `cleanup_session`. -/
def unlinkListed (cleanupId : Nat) : StorageState :=
  match state.cleanup? cleanupId with
  | none => state
  | some cleanup =>
    match cleanup.todo with
    | [] => state
    | ref :: rest =>
      (state.unlink ref).updateCleanup cleanupId fun other => { other with todo := rest }

/-- The last transaction of `cleanup_session`, after which the call returns. -/
def deleteSession (cleanupId : Nat) : StorageState :=
  match state.cleanup? cleanupId with
  | none => state
  | some cleanup =>
    if cleanup.ready then
      { state.withTables (ResultExports.deleteSession state.tables cleanup.sessionId) with
        cleanups := deleteWhere (fun other => other.cleanupId == cleanupId) state.cleanups
        returned := state.returned ++ [cleanup.sessionId] }
    else state

/-- One step of one process. -/
def step : StorageOp → StorageState
  | .call op => { state with store := state.store.step settings op.1 }
  | .write call => state.write settings call
  | .commit artifactId lag => state.commit settings artifactId lag
  | .discard artifactId => state.discard artifactId
  | .expire current limit => state.expire current limit
  | .unlinkExpired sweepId => state.unlinkExpired sweepId
  | .cancelSession sessionId lag => state.cancelSession sessionId lag
  | .listFiles cleanupId => state.listFiles cleanupId
  | .unlinkListed cleanupId => state.unlinkListed cleanupId
  | .deleteSession cleanupId => state.deleteSession cleanupId

/-- No publication and no cleanup is in progress. -/
def Quiescent : Prop :=
  state.publishing = [] ∧ state.sweeps = [] ∧ state.cleanups = []

end StorageState

/-- The export storage of a store with some snapshots and no job yet. -/
def exportStorage (settings : Settings) (snapshots : List SnapshotRow) : Machine StorageState StorageOp where
  init :=
    { store := (exportJobs settings snapshots).init, files := [], publishing := [], sweeps := [],
      cleanups := [], returned := [], nextProcess := 0 }
  step := StorageState.step settings

end HardwareDatabase.ResultExports
