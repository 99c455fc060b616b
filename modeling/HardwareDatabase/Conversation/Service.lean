/-
Module: HardwareDatabase.Conversation.Service
Purpose: Runs of the conversation store: any interleaving of transactions of users, workers and sweeps with arbitrary
  clocks. A sweep appears whole and as its single rows; `elsewhere` is any transaction of the memory and export
  components.
Trusted boundary: none
-/
import HardwareDatabase.Conversation.Turns
import HardwareDatabase.Relational.Run

namespace HardwareDatabase.Conversation

open Memory (Time)
open Relational

/-- The operations on the conversation store. -/
inductive Op
  -- processes and users
  | construct (initialized : Bool)
  | createSession (userId : Nat) (kbName title : String) (departmentId kbId : Option Nat)
  | addMessage (userId sessionId : Nat) (role : Role) (content : String)
  | clearSession (userId sessionId : Nat) (now : Time)
  | deleteSession (userId sessionId : Nat) (now : Time)
  | editMessage (userId sessionId messageId : Nat) (content : Option String) (reason : String)
      (now : Time)
  | setSessionAutoExtract (userId sessionId : Nat) (enabled : Bool)
  | createTurn (request : TurnRequest) (now : Time)
  | allocateTurnSequence (sessionId : Nat)
  | requestTurnCancel (existing : Option TurnStatus) (userId turnId : Nat) (now : Time)
  -- sweeps and settlements
  | transitionWaitingTurn (turnId : Nat) (outcome : WaitOutcome) (errorMessage : String) (now : Time)
  | expireWaitingTurns (maxWaitSeconds : Option Nat) (limit : Nat) (now dbNow : Time)
  | expireQueuedTurn (maxQueueSeconds : Nat) (turnId : Nat) (now : Time)
  | expireQueuedTurns (maxQueueSeconds : Option Nat) (limit : Nat) (now dbNow : Time)
  | requeueStaleTurns (staleAfterSeconds : Nat) (now dbNow : Time)
  -- workers
  | claimTurnResult (userId turnId : Nat) (workerId : String) (staleAfterSeconds : Nat)
      (now dbNow : Time)
  | releaseTurnOwnership (turnId : Nat) (workerId : String) (fencingToken : Option Nat)
  | touchTurnWorker (turnId : Nat) (workerId : String) (fencingToken : Option Nat) (now : Time)
  | updateRecoverableCheckpointRef (turnId : Nat) (workerId : String) (fencingToken : Nat)
      (ref : String) (expectedGeneration : Option Nat)
  | appendTurnEvent (turnId : Nat) (eventType : String) (payload : Payload) (workerId : String)
      (fencingToken : Option Nat) (now : Time)
  | completeTurnResult (call : Completion) (now : Time)
  | failTurnResult (call : Abandonment) (now : Time)
  -- the components that share the database
  | elsewhere (memory : Memory.Tables) (exports : ResultExports.ExportTables)

namespace Store

/-- The transaction of an operation that may raise. -/
def commit (store : Store) : Except Failure Store → Store
  | .ok after => after
  | .error _ => store

/-- One operation. -/
def exec (env : Environment) (store : Store) : Op → Store
  | .construct initialized => store.construct env initialized
  | .createSession userId kbName title departmentId kbId =>
    store.createSession env userId kbName title departmentId kbId
  | .addMessage userId sessionId role content =>
    store.commit (store.addMessage userId sessionId role content)
  | .clearSession userId sessionId now => store.clearSession env userId sessionId now
  | .deleteSession userId sessionId now => store.deleteSession env userId sessionId now
  | .editMessage userId sessionId messageId content reason now =>
    store.commit (store.editMessage env userId sessionId messageId content reason now)
  | .setSessionAutoExtract userId sessionId enabled =>
    store.commit (store.setSessionAutoExtract userId sessionId enabled)
  | .createTurn request now => store.commit (store.createTurn env request now)
  | .allocateTurnSequence sessionId =>
    store.commit ((store.allocateTurnSequence sessionId).map Prod.fst)
  | .requestTurnCancel existing userId turnId now =>
    store.requestTurnCancel existing userId turnId now
  | .transitionWaitingTurn turnId outcome errorMessage now =>
    (store.transitionWaitingTurn turnId outcome errorMessage now).1
  | .expireWaitingTurns maxWaitSeconds limit now dbNow =>
    store.expireWaitingTurns env maxWaitSeconds limit now dbNow
  | .expireQueuedTurn maxQueueSeconds turnId now =>
    store.commit (store.expireQueuedTurn maxQueueSeconds now turnId)
  | .expireQueuedTurns maxQueueSeconds limit now dbNow =>
    store.expireQueuedTurns env maxQueueSeconds limit now dbNow
  | .requeueStaleTurns staleAfterSeconds now dbNow =>
    store.commit (store.requeueStaleTurns env staleAfterSeconds now dbNow)
  | .claimTurnResult userId turnId workerId staleAfterSeconds now dbNow =>
    store.commit
      ((store.claimTurnResult env userId turnId workerId staleAfterSeconds now dbNow).map Prod.fst)
  | .releaseTurnOwnership turnId workerId fencingToken =>
    (store.releaseTurnOwnership turnId workerId fencingToken).1
  | .touchTurnWorker turnId workerId fencingToken now =>
    (store.touchTurnWorker env turnId workerId fencingToken now).1
  | .updateRecoverableCheckpointRef turnId workerId fencingToken ref expectedGeneration =>
    store.commit ((store.updateRecoverableCheckpointRef turnId workerId fencingToken ref
      expectedGeneration).map Prod.fst)
  | .appendTurnEvent turnId eventType payload workerId fencingToken now =>
    store.commit (store.appendTurnEvent turnId eventType payload workerId fencingToken now)
  | .completeTurnResult call now =>
    store.commit ((store.completeTurnResult env call now).map Prod.fst)
  | .failTurnResult call now => store.commit ((store.failTurnResult call now).map Prod.fst)
  | .elsewhere memory exports => { store with memory, exports }

end Store

/-- The conversation store. -/
def conversationService (env : Environment) : Machine Store Op where
  init := Store.empty
  step := Store.exec env

/-! ### Fenced writes -/

/-- The writes that a worker makes for the turn it was given, with the token it was given. -/
def Grant.Writes (given : Grant) : Op → Prop
  | .touchTurnWorker turnId workerId fencingToken _ =>
    turnId = given.turnId ∧ workerId = given.workerId ∧ fencingToken = some given.fencingToken
  | .updateRecoverableCheckpointRef turnId workerId fencingToken _ _ =>
    turnId = given.turnId ∧ workerId = given.workerId ∧ fencingToken = given.fencingToken
  | .appendTurnEvent turnId _ _ workerId fencingToken _ =>
    turnId = given.turnId ∧ workerId = given.workerId ∧ fencingToken = some given.fencingToken
  | .completeTurnResult call _ =>
    call.turnId = given.turnId ∧ call.workerId = given.workerId ∧
      call.fencingToken = some given.fencingToken
  | .failTurnResult call _ =>
    call.turnId = given.turnId ∧ call.workerId = given.workerId ∧
      call.fencingToken = some given.fencingToken
  | _ => False

namespace Store

/-- The call raises, or reports that it was not carried out. -/
def refuses (env : Environment) (store : Store) : Op → Bool
  | .touchTurnWorker turnId workerId fencingToken now =>
    !(store.touchTurnWorker env turnId workerId fencingToken now).2
  | .updateRecoverableCheckpointRef turnId workerId fencingToken ref expectedGeneration =>
    match store.updateRecoverableCheckpointRef turnId workerId fencingToken ref
        expectedGeneration with
    | .ok (_, registered) => !registered
    | .error _ => true
  | .appendTurnEvent turnId eventType payload workerId fencingToken now =>
    !(store.appendTurnEvent turnId eventType payload workerId fencingToken now).isOk
  | .completeTurnResult call now => !(store.completeTurnResult env call now).isOk
  | .failTurnResult call now =>
    match store.failTurnResult call now with
    | .ok (_, finalized) => finalized.isNone
    | .error _ => true
  | _ => false

end Store

end HardwareDatabase.Conversation
