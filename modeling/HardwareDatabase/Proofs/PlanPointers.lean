/-
Module: HardwareDatabase.Proofs.PlanPointers
Purpose: The planning pointers of a document task and of its session follow `taskRule` and `sessionRule`, which differ
  where pointers hold the requested specification without a plan.
Trusted boundary: none
-/
import HardwareDatabase.DocumentTasks.Store
import HardwareDatabase.Proofs.SessionUpdates

namespace HardwareDatabase.DocumentTasks

open Python (strip)
open Relational
open GenerationSessions (Session Store Status ContractVersion generationCalls)

/-! ### Calls on both stores -/

/-- A status that sessions of a contract can have. -/
abbrev ContractStatus (contract : ContractVersion) : Type :=
  { status : Status // status ∈ Status.known ∧
      (contract = .legacyBriefV1 → status.isPlanning = false) }

/-- What a call does to the pointers. A binding of the session may set its status. -/
inductive PointerRequest (contract : ContractVersion)
  | bind (binding : PlanBinding) (status : Option (ContractStatus contract))
  | clear

/-- A call on both stores, with the instants that it writes. -/
structure PointerCall (contract : ContractVersion) where
  request : PointerRequest contract
  now : Nat
  eventAt : Nat

/-- The planning pointers of a session. -/
def sessionPointers (session : Session) : Pointers :=
  { outputSpecId := session.outputSpecId, outputSpecVersion := session.outputSpecVersion,
    documentPlanId := session.documentPlanId, documentPlanVersion := session.documentPlanVersion }

/-- No pointer is set. -/
def Pointers.unbound : Pointers :=
  { outputSpecId := none, outputSpecVersion := none, documentPlanId := none, documentPlanVersion := none }

/-- A document task and its generation session, both readable and unbound. The task has no event of a bound
plan, and the random event keys are yet to be drawn. -/
structure PairStart where
  tasks : TaskStore
  sessions : Store
  row : TaskRow
  session : Session
  taskId : String
  sessionId : String
  taskFound : tasks.row? taskId = some row
  taskValid : row.payload.isValid = true
  taskUnbound : row.payload.pointers = .unbound
  sessionFound : sessions.row sessionId = some session
  sessionReadable : session.isReadable = true
  sessionUnbound : sessionPointers session = .unbound
  named : strip taskId = taskId ∧ taskId ≠ ""
  noPlanEvents : ∀ event ∈ tasks.events, event.taskId = taskId →
    ∀ outputSpecId version, event.key ≠ .plan outputSpecId version
  clearsDrawn : ∀ event ∈ tasks.events, ∀ drawn, event.key = .planClear drawn → drawn < tasks.drawn

/-- The contract of the session. -/
abbrev PairStart.contract (start : PairStart) : ContractVersion :=
  start.session.contractVersion

/-- The two stores. -/
structure Pair where
  tasks : TaskStore
  sessions : Store

variable {contract : ContractVersion}

/-- The call on the task. -/
def taskCall (tasks : TaskStore) (taskId : String) (call : PointerCall contract) : Except Failure TaskStore :=
  match call.request with
  | .bind binding _ => bindPlan tasks taskId binding call.now call.eventAt
  | .clear => clearPlan tasks taskId call.now call.eventAt

/-- The request of the call on the session. -/
def PointerRequest.onSession : PointerRequest contract → GenerationSessions.Request
  | .bind binding status =>
    .bindPlan
      { outputSpecId := binding.outputSpecId, outputSpecVersion := binding.outputSpecVersion,
        documentPlanId := binding.documentPlanId, documentPlanVersion := binding.documentPlanVersion,
        status := status.map fun status => status.val.text }
  | .clear => .clearPlan

/-- The call on the session. -/
def sessionCall (sessions : Store) (sessionId : String) (call : PointerCall contract) :
    Except GenerationSessions.Failure Store :=
  generationCalls.perform sessions { sessionId, now := call.now, request := call.request.onSession }

/-- A call that raises leaves its store as it was. -/
def kept {α ε : Type} (before : α) : Except ε α → α
  | .ok after => after
  | .error _ => before

/-- The calls on a task and its session, one after the other. -/
def pairCalls (start : PairStart) : Machine Pair (PointerCall start.contract) where
  init := { tasks := start.tasks, sessions := start.sessions }
  step := fun pair call =>
    { tasks := kept pair.tasks (taskCall pair.tasks start.taskId call)
      sessions := kept pair.sessions (sessionCall pair.sessions start.sessionId call) }

/-! ### The rules

What each store makes of the pointers of a call, without its other columns. -/

/-- An identifier comes with its version, and a plan with an output specification. -/
structure Pointers.Shaped (pointers : Pointers) : Prop where
  spec : pointers.outputSpecId.isNone = pointers.outputSpecVersion.isNone
  plan : pointers.documentPlanId.isNone = pointers.documentPlanVersion.isNone
  specOfPlan : pointers.outputSpecId = none → pointers.documentPlanId = none

/-- The arguments of a binding that pass the checks before the read. -/
def PlanBinding.Accepted (binding : PlanBinding) : Prop :=
  (normalize (some binding.outputSpecId)).isSome = true ∧ 1 ≤ binding.outputSpecVersion ∧
    (normalize binding.documentPlanId).isNone = binding.documentPlanVersion.isNone

instance (binding : PlanBinding) : Decidable binding.Accepted :=
  inferInstanceAs (Decidable (_ ∧ _ ∧ _))

/-- The rule of the task: only unbound pointers, or the requested ones, take a binding. -/
def taskRule (pointers : Pointers) : PointerRequest contract → Option Pointers
  | .bind binding _ =>
    if binding.Accepted ∧ pointers.isValid = true ∧
        (pointers = .unbound ∨ pointers = binding.requested) then
      some binding.requested
    else none
  | .clear => if pointers.isValid = true then some pointers.withoutPlan else none

/-- The rule of the session: pointers that hold the output specification take its plan as well. -/
def sessionRule (pointers : Pointers) : PointerRequest contract → Option Pointers
  | .bind binding _ =>
    if binding.Accepted ∧ pointers.isValid = true ∧
        (pointers = .unbound ∨ pointers = binding.requested ∨
          pointers = binding.requested.withoutPlan) then
      some binding.requested
    else none
  | .clear => if pointers.isValid = true then some pointers.withoutPlan else none

/-- The request adds a plan to pointers that hold its output specification without one. -/
def Pointers.TakesPlan (pointers : Pointers) (request : PointerRequest contract) : Prop :=
  ∃ binding status, request = .bind binding status ∧ binding.Accepted ∧
    pointers = binding.requested.withoutPlan ∧ binding.requested.documentPlanId.isSome = true

private theorem Pointers.Shaped.unbound : Pointers.unbound.Shaped :=
  ⟨rfl, rfl, fun _ => rfl⟩

private theorem PlanBinding.requested_outputSpecId (binding : PlanBinding) :
    binding.requested.outputSpecId = normalize (some binding.outputSpecId) := by
  rw [requested]

private theorem PlanBinding.requested_documentPlanId (binding : PlanBinding) :
    binding.requested.documentPlanId = normalize binding.documentPlanId := by
  rw [requested]

variable {binding : PlanBinding}

private theorem PlanBinding.Accepted.specified (accepted : binding.Accepted) :
    binding.requested.outputSpecId.isSome = true := by
  rw [requested_outputSpecId]
  exact accepted.1

private theorem PlanBinding.Accepted.bound (accepted : binding.Accepted) : binding.requested ≠ .unbound := by
  intro same
  have spec := accepted.specified
  rw [same] at spec
  cases spec

private theorem PlanBinding.Accepted.shaped (accepted : binding.Accepted) : binding.requested.Shaped := by
  obtain ⟨spec, -, plan⟩ := accepted
  refine ⟨?_, plan, ?_⟩
  · simpa [PlanBinding.requested] using spec
  · intro absent
    simp [PlanBinding.requested] at absent
    simp [absent] at spec

variable {pointers : Pointers}

private theorem Pointers.Shaped.withoutPlan (shaped : pointers.Shaped) : pointers.withoutPlan.Shaped :=
  ⟨shaped.spec, rfl, fun _ => rfl⟩

private theorem Pointers.Shaped.isBound_iff (shaped : pointers.Shaped) :
    pointers.isBound = false ↔ pointers = .unbound := by
  obtain ⟨specId, specVersion, planId, planVersion⟩ := pointers
  simp [Pointers.isBound, Pointers.unbound]
  tauto

private theorem PlanBinding.check_eq (binding : PlanBinding) : (binding.Accepted → binding.check = .ok ()) ∧
      (¬ binding.Accepted → ∃ failure, binding.check = .error failure) := by
  unfold PlanBinding.Accepted PlanBinding.check
  constructor
  · rintro ⟨spec, version, plan⟩
    have some : (normalize (some binding.outputSpecId)).isNone = false := by simpa using spec
    simp [some, plan, version]
  · intro refused
    split
    · exact ⟨_, rfl⟩
    · split
      · exact ⟨_, rfl⟩
      · rename_i spec plan
        exfalso
        apply refused
        simp only [not_or, Bool.not_eq_true, Int.not_lt, ne_eq, Decidable.not_not] at spec plan
        exact ⟨by simpa using spec.1, spec.2, plan⟩

/-! ### The task follows its rule -/

/-- The row of a task holds the pointers, and it is readable where they are valid. -/
structure TaskAt (tasks : TaskStore) (taskId : String) (pointers : Pointers) : Prop where
  row : ∃ row, tasks.row? taskId = some row ∧ row.payload.pointers = pointers ∧
    row.payload.isValid = pointers.isValid
  planEvents : pointers = .unbound → ∀ event ∈ tasks.events, event.taskId = taskId →
    ∀ outputSpecId version, event.key ≠ .plan outputSpecId version
  clearsDrawn : ∀ event ∈ tasks.events, ∀ drawn, event.key = .planClear drawn → drawn < tasks.drawn

private theorem isValid_rebound {task : DocumentTask} (valid : task.isValid = true) (pointers : Pointers) (now : Nat) :
    ({ task.normalized with pointers, updatedAt := now } : DocumentTask).isValid = pointers.isValid := by
  simp only [DocumentTask.isValid, DocumentTask.normalized, Bool.and_eq_true] at valid ⊢
  simp [valid.1.1.1, valid.1.1.2, valid.1.2]

variable {eventAt : Nat} {taskId : String} {tasks : TaskStore}

private theorem row?_write {after : TaskStore} {revision : Revision} {row : TaskRow}
    (found : tasks.row? taskId = some row)
    (named : ∀ columns, (revision.columns columns).taskId = columns.taskId)
    (written : tasks.write taskId revision eventAt = .ok after) : after.row? taskId = some (revision.row row) := by
  have rows : after.rows =
      updateWhere (fun row => row.columns.taskId == taskId) revision.row tasks.rows := by
    unfold TaskStore.write at written
    split at written
    · split at written
      · cases written
        rfl
      · cases written
    · cases written
      rfl
  unfold TaskStore.row? at found ⊢
  rw [rows, find?_updateWhere_self, found]
  · rfl
  · intro row selected
    simpa [Revision.row, named] using selected

variable {now : Nat}

private theorem TaskAt.rebind {old : Pointers} {row : TaskRow} {revision : Revision} (taskAt : TaskAt tasks taskId old)
    (found : tasks.row? taskId = some row) (valid : row.payload.isValid = true)
    (payload : revision.payload = { row.payload.normalized with pointers, updatedAt := now })
    (named : ∀ columns, (revision.columns columns).taskId = columns.taskId)
    (fresh : tasks.hasEvent taskId revision.key = false) (bound : pointers ≠ .unbound)
    (clears : ∀ drawn, revision.key = .planClear drawn → drawn = tasks.drawn) :
    ∃ after, tasks.write taskId revision eventAt = .ok after ∧ TaskAt after taskId pointers := by
  have written : tasks.write taskId revision eventAt = .ok
      { rows := updateWhere (fun row => row.columns.taskId == taskId) revision.row tasks.rows
        events := tasks.events ++
          [{ taskId, key := revision.key, body := revision.body, createdAt := eventAt }]
        drawn := tasks.drawn + 1 } := by
    simp only [TaskStore.write, fresh, Bool.false_eq_true, if_false]
  refine ⟨_, written, ?_, fun unbound => absurd unbound bound, ?_⟩
  · refine ⟨revision.row row, row?_write found named written, ?_, ?_⟩
    · rw [Revision.row, payload]
    · rw [Revision.row, payload]
      exact isValid_rebound valid pointers now
  · intro event member drawn key
    rcases List.mem_append.mp member with old | new
    · exact Nat.lt_succ_of_lt (taskAt.clearsDrawn event old drawn key)
    · rw [List.mem_singleton.mp new] at key
      exact Nat.lt_succ_of_le (clears drawn key).le

private theorem TaskAt.get_of_isValid (taskAt : TaskAt tasks taskId pointers) (valid : pointers.isValid = true) :
    ∃ row, tasks.row? taskId = some row ∧ row.payload.pointers = pointers ∧ row.payload.isValid = true ∧
      tasks.get taskId = .ok row.payload.normalized := by
  obtain ⟨row, found, held, same⟩ := taskAt.row
  rw [valid] at same
  refine ⟨row, found, held, same, ?_⟩
  simp only [TaskStore.get, found, TaskRow.read, DocumentTask.validated, same, if_true]

private theorem TaskAt.get_of_invalid (taskAt : TaskAt tasks taskId pointers) (invalid : ¬ pointers.isValid = true) :
    tasks.get taskId = .error .invalidTask := by
  obtain ⟨row, found, -, same⟩ := taskAt.row
  rw [Bool.not_eq_true] at invalid
  rw [invalid] at same
  simp only [TaskStore.get, found, TaskRow.read, DocumentTask.validated, same, Bool.false_eq_true, if_false]

variable {decide : DocumentTask → Except Failure (Option Revision)}

private theorem revise_of_get {task : DocumentTask} (read : tasks.get taskId = .ok task) :
    tasks.revise taskId eventAt decide = match decide task with
      | .error failure => .error failure
      | .ok none => .ok tasks
      | .ok (some revision) => tasks.write taskId revision eventAt := by
  simp only [TaskStore.revise, read, bind, Except.bind, pure, Except.pure]
  cases decide task with
  | error => rfl
  | ok revision => cases revision <;> rfl

private theorem revise_of_get_error {failure : Failure}
    (unread : tasks.get taskId = .error failure) : tasks.revise taskId eventAt decide = .error failure := by
  simp only [TaskStore.revise, unread, bind, Except.bind]

/-- A call leaves what the rule gives, and it raises where the rule gives nothing. -/
structure Follows {α ε : Type} (holds : α → Pointers → Prop) (rule : Option Pointers)
    (result : Except ε α) : Prop where
  moves : ∀ next, rule = some next → ∃ after, result = .ok after ∧ holds after next
  refuses : rule = none → ∃ failure, result = .error failure

variable {α : Type}

private theorem Follows.of_some {ε : Type} {holds : α → Pointers → Prop} {rule : Option Pointers}
    {result : Except ε α} (next : Pointers) (given : rule = some next)
    (moves : ∃ after, result = .ok after ∧ holds after next) : Follows holds rule result := by
  constructor
  · intro other same
    rw [given] at same
    cases same
    exact moves
  · intro none
    rw [given] at none
    cases none

private theorem Follows.of_none {ε : Type} {holds : α → Pointers → Prop} {rule : Option Pointers}
    {result : Except ε α} (none : rule = none) (refuses : ∃ failure, result = .error failure) :
    Follows holds rule result := by
  constructor
  · intro next given
    rw [none] at given
    cases given
  · exact fun _ => refuses

private theorem hasEvent_eq_false {key : EventKey}
    (fresh : ∀ event ∈ tasks.events, event.taskId = taskId → event.key ≠ key) :
    tasks.hasEvent taskId key = false := by
  rw [TaskStore.hasEvent, List.any_eq_false]
  intro event member
  simpa using fresh event member

variable {status : Option (ContractStatus contract)}

private theorem bindPlan_follows (shaped : pointers.Shaped) (taskAt : TaskAt tasks taskId pointers) :
    Follows (fun after next => TaskAt after taskId next) (taskRule pointers (.bind binding status))
      (bindPlan tasks taskId binding now eventAt) := by
  by_cases accepted : binding.Accepted
  · have checked := binding.check_eq.1 accepted
    by_cases valid : pointers.isValid = true
    · obtain ⟨row, found, held, rowValid, read⟩ := taskAt.get_of_isValid valid
      have heldToo : row.payload.normalized.pointers = pointers := held
      simp only [bindPlan, checked, bind, Except.bind]
      rw [revise_of_get read, heldToo]
      by_cases unbound : pointers = .unbound
      · have free : pointers.isBound = false := shaped.isBound_iff.mpr unbound
        have fresh : tasks.hasEvent taskId (.plan (strip binding.outputSpecId) binding.outputSpecVersion) =
            false :=
          hasEvent_eq_false fun event member named => taskAt.planEvents unbound event member named _ _
        apply Follows.of_some binding.requested
        · rw [taskRule, if_pos ⟨accepted, valid, .inl unbound⟩]
        · simp only [free, Bool.false_eq_true, if_false]
          exact taskAt.rebind found rowValid rfl (fun _ => rfl) fresh accepted.bound
            (fun _ key => by cases key)
      · have taken : pointers.isBound = true := by
          rw [← Bool.not_eq_false, shaped.isBound_iff]
          exact unbound
        by_cases same : pointers = binding.requested
        · apply Follows.of_some pointers
          · rw [taskRule, if_pos ⟨accepted, valid, .inr same⟩, same]
          · rw [if_pos taken, if_neg (not_not.mpr same)]
            exact ⟨tasks, rfl, taskAt⟩
        · apply Follows.of_none
          · rw [taskRule, if_neg (fun given => given.2.2.elim unbound same)]
          · rw [if_pos taken, if_pos same]
            exact ⟨_, rfl⟩
    · apply Follows.of_none
      · rw [taskRule, if_neg (fun given => valid given.2.1)]
      · simp only [bindPlan, checked, bind, Except.bind]
        exact ⟨_, revise_of_get_error (taskAt.get_of_invalid valid)⟩
  · obtain ⟨failure, refused⟩ := binding.check_eq.2 accepted
    apply Follows.of_none
    · rw [taskRule, if_neg (fun given => accepted given.1)]
    · exact ⟨failure, by simp only [bindPlan, refused, bind, Except.bind]⟩

private theorem clearPlan_follows (named : strip taskId = taskId ∧ taskId ≠ "") (shaped : pointers.Shaped)
    (taskAt : TaskAt tasks taskId pointers) : Follows (fun after next => TaskAt after taskId next)
      (taskRule pointers (PointerRequest.clear : PointerRequest contract)) (clearPlan tasks taskId now eventAt) := by
  simp only [clearPlan, named.1, named.2, if_false]
  by_cases valid : pointers.isValid = true
  · obtain ⟨row, found, held, rowValid, read⟩ := taskAt.get_of_isValid valid
    have heldToo : row.payload.normalized.pointers = pointers := held
    rw [revise_of_get read, heldToo]
    apply Follows.of_some pointers.withoutPlan
    · rw [taskRule, if_pos valid]
    · by_cases planned : pointers.documentPlanId = none
      · have noVersion : pointers.documentPlanVersion.isNone = true := by
          rw [← shaped.plan, planned]
          rfl
        have same : pointers.withoutPlan = pointers := by
          rw [Option.isNone_iff_eq_none] at noVersion
          rw [Pointers.withoutPlan, ← planned, ← noVersion]
        simp only [planned, noVersion, Option.isNone_none, Bool.and_self, if_true]
        exact ⟨tasks, rfl, same ▸ taskAt⟩
      · have set : pointers.documentPlanId.isNone = false := by
          simpa [Option.isSome_iff_ne_none] using planned
        have bound : pointers.withoutPlan ≠ .unbound := by
          intro same
          exact planned (shaped.specOfPlan (congrArg Pointers.outputSpecId same))
        have fresh : tasks.hasEvent taskId (.planClear tasks.drawn) = false := by
          apply hasEvent_eq_false
          intro event member _ key
          exact Nat.lt_irrefl _ (taskAt.clearsDrawn event member _ key)
        simp only [set, Bool.false_and, Bool.false_eq_true, if_false]
        refine taskAt.rebind found rowValid rfl (fun _ => rfl) fresh bound ?_
        intro drawn key
        cases key
        rfl
  · apply Follows.of_none
    · rw [taskRule, if_neg valid]
    · exact ⟨_, revise_of_get_error (taskAt.get_of_invalid valid)⟩

private theorem task_follows (named : strip taskId = taskId ∧ taskId ≠ "") (shaped : pointers.Shaped)
    (taskAt : TaskAt tasks taskId pointers) (call : PointerCall contract) :
    Follows (fun after next => TaskAt after taskId next) (taskRule pointers call.request)
      (taskCall tasks taskId call) := by
  unfold taskCall
  cases call.request with
  | bind => exact bindPlan_follows shaped taskAt
  | clear => exact clearPlan_follows named shaped taskAt

/-! ### The session follows its rule -/

/-- What the readability of a session asks for besides its pointers. -/
def restReadable (session : Session) : Bool :=
  Status.known.contains session.status &&
    !(session.contractVersion == .legacyBriefV1 &&
      (GenerationSessions.optional session.templateVersionId).isNone) &&
    !(session.contractVersion == .legacyBriefV1 && session.status.isPlanning) &&
    !(session.outputSpecDraft.isSome && session.outputSpecId.isNone)

private theorem isReadable_iff (session : Session) :
    session.isReadable = true ↔ restReadable session = true ∧ (sessionPointers session).isValid = true := by
  simp only [Session.isReadable, restReadable, Pointers.isValid, sessionPointers, Bool.and_eq_true]
  tauto

/-- The row of a session holds the pointers, and it is readable where they are valid. -/
structure SessionAt (sessions : Store) (sessionId : String) (contract : ContractVersion)
    (pointers : Pointers) : Prop where
  row : ∃ session, sessions.row sessionId = some session ∧ sessionPointers session = pointers ∧
    restReadable session = true ∧ session.contractVersion = contract

variable {sessionId : String} {sessions : Store}

private theorem SessionAt.get_of_isValid
    (sessionAt : SessionAt sessions sessionId contract pointers) (valid : pointers.isValid = true) :
    ∃ session, sessions.getSession sessionId = .ok session ∧ sessionPointers session = pointers ∧
      restReadable session = true ∧ session.contractVersion = contract ∧ sessions.row sessionId = some session := by
  obtain ⟨session, found, held, rest, version⟩ := sessionAt.row
  refine ⟨session, ?_, held, rest, version, found⟩
  have readable : session.isReadable = true := (isReadable_iff session).mpr ⟨rest, held ▸ valid⟩
  simp only [Store.getSession, found, readable, if_true]

private theorem SessionAt.get_of_invalid
    (sessionAt : SessionAt sessions sessionId contract pointers) (invalid : ¬ pointers.isValid = true) :
    sessions.getSession sessionId = .error .invalidSession := by
  obtain ⟨session, found, held, -, -⟩ := sessionAt.row
  have unreadable : ¬ session.isReadable = true := fun readable =>
    invalid (held ▸ ((isReadable_iff session).mp readable).2)
  simp only [Store.getSession, found, unreadable, if_false, Bool.false_eq_true]

variable {session : Session}

private theorem exists_writeSession {revised : Session}
    (found : sessions.row sessionId = some session) (named : revised.sessionId = session.sessionId) :
    ∃ after, sessions.writeSession revised = .ok after := by
  have stored : sessions.sessions.any (fun row => row.sessionId == revised.sessionId) = true := by
    rw [List.any_eq_true]
    exact ⟨session, List.mem_of_find?_eq_some found, by simp [named]⟩
  simp only [Store.writeSession, GenerationSessions.updateSessionRow, stored, if_true, bind, Except.bind,
    pure, Except.pure]
  exact ⟨_, rfl⟩

private theorem SessionAt.rewrite {revised : Session}
    (found : sessions.row sessionId = some session) (named : revised.sessionId = session.sessionId)
    (rest : restReadable revised = true) : ∃ after, sessions.writeSession revised = .ok after ∧
      SessionAt after sessionId revised.contractVersion (sessionPointers revised) := by
  have own : session.sessionId = sessionId := by
    unfold Store.row at found
    simpa using List.find?_some found
  obtain ⟨after, written⟩ := exists_writeSession found named
  refine ⟨after, written, revised, ?_, rfl, rest, rfl⟩
  rw [GenerationSessions.row_writeSession written, if_pos (named.trans own).symm]

private theorem differs_eq_false [DecidableEq α] {current incoming : Option α} :
    GenerationSessions.differs current incoming = false ↔ current = none ∨ current = incoming := by
  unfold GenerationSessions.differs
  cases current <;> simp

/-- The binding that a call passes to the session. -/
def PlanBinding.onSession (binding : PlanBinding) (status : Option (ContractStatus contract)) :
    GenerationSessions.PlanBinding :=
  { outputSpecId := binding.outputSpecId, outputSpecVersion := binding.outputSpecVersion,
    documentPlanId := binding.documentPlanId, documentPlanVersion := binding.documentPlanVersion,
    status := status.map fun status => status.val.text }

private theorem normalize_eq_optional : normalize = GenerationSessions.optional := by
  funext value
  rw [normalize, GenerationSessions.optional]

private theorem conflicts_eq_false (status : Option (ContractStatus contract))
    (shaped : (sessionPointers session).Shaped)
    (accepted : binding.Accepted) : (binding.onSession status).conflicts session = false ↔
      sessionPointers session = .unbound ∨ sessionPointers session = binding.requested ∨
        sessionPointers session = binding.requested.withoutPlan := by
  have spec := accepted.specified
  have plan := accepted.shaped.plan
  have none_iff : (binding.onSession status).conflicts session = false ↔
      (session.outputSpecId = none ∨ session.outputSpecId = binding.requested.outputSpecId) ∧
        (session.outputSpecVersion = none ∨
          session.outputSpecVersion = binding.requested.outputSpecVersion) ∧
        (session.documentPlanId = none ∨ session.documentPlanId = binding.requested.documentPlanId) ∧
        (session.documentPlanVersion = none ∨
          session.documentPlanVersion = binding.requested.documentPlanVersion) := by
    rw [← differs_eq_false, ← differs_eq_false, ← differs_eq_false, ← differs_eq_false]
    rw [binding.requested_outputSpecId, binding.requested_documentPlanId, normalize_eq_optional]
    simp only [GenerationSessions.PlanBinding.conflicts, Bool.or_eq_false_iff, and_assoc]
    exact Iff.rfl
  have version : binding.requested.outputSpecVersion = some binding.outputSpecVersion := rfl
  rw [none_iff]
  simp only [sessionPointers, Pointers.unbound, Pointers.withoutPlan] at shaped ⊢
  obtain ⟨specShape, planShape, specOfPlan⟩ := shaped
  simp only at specShape planShape specOfPlan
  generalize binding.requested = requested at *
  obtain ⟨specId, specVersion, planId, planVersion⟩ := requested
  simp only [Pointers.mk.injEq] at *
  subst version
  cases first : session.outputSpecId <;> cases second : session.outputSpecVersion <;>
    cases third : session.documentPlanId <;> cases fourth : session.documentPlanVersion <;>
    simp_all

private theorem ofText_text : ∀ status ∈ Status.known, Status.ofText (strip status.text) = some status := by
  decide

variable {request : PointerRequest contract}

private theorem perform_of_read (checked : request.onSession.check = .ok ())
    (read : sessions.getSession sessionId = .ok session) :
    generationCalls.perform sessions { sessionId, now, request := request.onSession } =
      match request.onSession.revise session now with
      | .error failure => .error failure
      | .ok none => .ok sessions
      | .ok (some revised) => sessions.writeSession revised := by
  simp only [TwoPhase.perform, generationCalls, Store.look, checked, read, bind, Except.bind, pure, Except.pure]
  cases revision : request.onSession.revise session now with
  | error => rfl
  | ok revised =>
    cases revised with
    | none => rfl
    | some =>
      simp only [Option.map_some, Store.write]
      cases request <;> simp only [PointerRequest.onSession] at revision ⊢ <;> rw [revision]

private theorem perform_of_unread {failure : GenerationSessions.Failure}
    (unread : sessions.getSession sessionId = .error failure) :
    ∃ failure, generationCalls.perform sessions { sessionId, now, request := request.onSession } =
      .error failure := by
  simp only [TwoPhase.perform, generationCalls, Store.look, unread, bind, Except.bind]
  cases request.onSession.check with
  | error failure => exact ⟨failure, rfl⟩
  | ok => exact ⟨failure, rfl⟩

private theorem check_onSession (binding : PlanBinding) (status : Option (ContractStatus contract)) :
    (binding.Accepted → (binding.onSession status).check = .ok ()) ∧
      (¬ binding.Accepted → ∃ failure, (binding.onSession status).check = .error failure) := by
  have same : (binding.onSession status).check = .ok () ↔ binding.check = .ok () := by
    unfold GenerationSessions.PlanBinding.check PlanBinding.check
    have spec : GenerationSessions.optional (some (binding.onSession status).outputSpecId) =
        normalize (some binding.outputSpecId) := rfl
    have plan : GenerationSessions.optional (binding.onSession status).documentPlanId =
        normalize binding.documentPlanId := rfl
    have version : (binding.onSession status).outputSpecVersion = binding.outputSpecVersion := rfl
    have planVersion : (binding.onSession status).documentPlanVersion = binding.documentPlanVersion := rfl
    rw [spec, plan, version, planVersion]
    split
    · simp
    · split <;> simp
  constructor
  · exact fun accepted => same.mpr (binding.check_eq.1 accepted)
  · intro refused
    cases checked : (binding.onSession status).check with
    | error failure => exact ⟨failure, rfl⟩
    | ok =>
      obtain ⟨failure, raised⟩ := binding.check_eq.2 refused
      rw [same.mp checked] at raised
      cases raised

private theorem newStatus_allowed (binding : PlanBinding)
    (status : Option (ContractStatus session.contractVersion)) (rest : restReadable session = true) :
    ∃ next, (binding.onSession status).newStatus session = .ok next ∧ next ∈ Status.known ∧
      (session.contractVersion = .legacyBriefV1 → next.isPlanning = false) := by
  cases status with
  | none =>
    simp only [restReadable, Bool.and_eq_true, List.contains_iff_mem] at rest
    refine ⟨session.status, rfl, rest.1.1.1, ?_⟩
    intro legacy
    simpa [legacy] using rest.1.2
  | some status =>
    refine ⟨status.val, ?_, status.property.1, status.property.2⟩
    simp only [GenerationSessions.PlanBinding.newStatus, PlanBinding.onSession, Option.map_some,
      ofText_text status.val status.property.1]

/-- The payload of a session with the requested pointers. -/
def rebound (session : Session) (binding : PlanBinding) (next : Status) (now : Nat) : Session :=
  { session with
    outputSpecId := binding.requested.outputSpecId
    outputSpecVersion := binding.requested.outputSpecVersion
    documentPlanId := binding.requested.documentPlanId
    documentPlanVersion := binding.requested.documentPlanVersion
    status := next
    updatedAt := now }

private theorem sessionPointers_rebound (session : Session) (binding : PlanBinding) (next : Status) (now : Nat) :
    sessionPointers (rebound session binding next now) = binding.requested := by
  rw [sessionPointers, rebound]

private theorem rebound_readable {next : Status}
    (accepted : binding.Accepted) (rest : restReadable session = true) (known : next ∈ Status.known)
    (fits : session.contractVersion = .legacyBriefV1 → next.isPlanning = false) :
    restReadable (rebound session binding next now) = true := by
  have spec : binding.requested.outputSpecId.isNone = false := by
    rw [Option.isNone_eq_false_iff]
    exact accepted.specified
  simp only [restReadable, rebound, Bool.and_eq_true, List.contains_iff_mem] at rest ⊢
  refine ⟨⟨⟨known, rest.1.1.2⟩, ?_⟩, by simp [spec]⟩
  by_cases legacy : session.contractVersion = .legacyBriefV1
  · simp [fits legacy]
  · simp [legacy]

private theorem revise_bind {next : Status} (named : (binding.onSession status).newStatus session = .ok next) :
    (PointerRequest.bind binding status).onSession.revise session now =
      if (binding.onSession status).conflicts session = true then .error .boundToAnotherPlan
      else if GenerationSessions.PlanBinding.isComplete session = true then .ok none
      else .ok (some (rebound session binding next now)) := by
  have request : (PointerRequest.bind binding status).onSession =
      .bindPlan (binding.onSession status) := rfl
  simp only [request, GenerationSessions.Request.revise, named, bind, Except.bind, pure, Except.pure, throw,
    throwThe, MonadExceptOf.throw, rebound, binding.requested_outputSpecId, binding.requested_documentPlanId,
    normalize_eq_optional]
  split
  · rfl
  · split <;> rfl

private theorem bindSession_follows (shaped : pointers.Shaped)
    (sessionAt : SessionAt sessions sessionId contract pointers) :
    Follows (fun after next => SessionAt after sessionId contract next) (sessionRule pointers (.bind binding status))
      (generationCalls.perform sessions
        { sessionId, now, request := (PointerRequest.bind binding status).onSession }) := by
  by_cases accepted : binding.Accepted
  · by_cases valid : pointers.isValid = true
    · obtain ⟨session, read, held, rest, version, found⟩ := sessionAt.get_of_isValid valid
      have checked : (PointerRequest.bind binding status).onSession.check = .ok () :=
        (check_onSession binding status).1 accepted
      rw [perform_of_read checked read]
      subst version
      have conflicts := conflicts_eq_false status (held ▸ shaped) accepted
      rw [held] at conflicts
      obtain ⟨next, named, known, fits⟩ := newStatus_allowed binding status rest
      rw [revise_bind named]
      by_cases free : (binding.onSession status).conflicts session = false
      · apply Follows.of_some binding.requested
        · rw [sessionRule, if_pos ⟨accepted, valid, conflicts.mp free⟩]
        · simp only [free, Bool.false_eq_true, if_false]
          by_cases complete : GenerationSessions.PlanBinding.isComplete session = true
          · -- the requested binding is already there
            simp only [complete, if_true]
            refine ⟨sessions, rfl, ?_⟩
            have planned : (sessionPointers session).documentPlanId.isSome = true := by
              simp only [GenerationSessions.PlanBinding.isComplete, Bool.and_eq_true] at complete
              exact complete.1.2
            rw [held] at planned
            rcases conflicts.mp free with unbound | same | withoutPlan
            · rw [unbound] at planned
              cases planned
            · rw [← same]
              exact sessionAt
            · rw [withoutPlan] at planned
              cases planned
          · simp only [complete, Bool.false_eq_true, if_false]
            have same : (rebound session binding next now).sessionId = session.sessionId := rfl
            have rewritten := SessionAt.rewrite found same (rebound_readable accepted rest known fits)
            rw [sessionPointers_rebound] at rewritten
            exact rewritten
      · apply Follows.of_none
        · rw [sessionRule, if_neg (fun given => free (conflicts.mpr given.2.2))]
        · rw [Bool.not_eq_false] at free
          simp only [free, if_true]
          exact ⟨_, rfl⟩
    · apply Follows.of_none
      · rw [sessionRule, if_neg (fun given => valid given.2.1)]
      · exact perform_of_unread (sessionAt.get_of_invalid valid)
  · apply Follows.of_none
    · rw [sessionRule, if_neg (fun given => accepted given.1)]
    · obtain ⟨failure, refused⟩ := (check_onSession binding status).2 accepted
      refine ⟨failure, ?_⟩
      have checked : (PointerRequest.bind binding status).onSession.check = .error failure := refused
      simp only [TwoPhase.perform, generationCalls, Store.look, checked, bind, Except.bind]

private theorem clearSession_follows (shaped : pointers.Shaped)
    (sessionAt : SessionAt sessions sessionId contract pointers) :
    Follows (fun after next => SessionAt after sessionId contract next)
      (sessionRule pointers (PointerRequest.clear : PointerRequest contract)) (generationCalls.perform sessions
        { sessionId, now, request := (PointerRequest.clear : PointerRequest contract).onSession }) := by
  by_cases valid : pointers.isValid = true
  · obtain ⟨session, read, held, rest, version, found⟩ := sessionAt.get_of_isValid valid
    rw [perform_of_read rfl read]
    subst version
    apply Follows.of_some pointers.withoutPlan
    · rw [sessionRule, if_pos valid]
    · simp only [PointerRequest.onSession, GenerationSessions.Request.revise]
      by_cases planned : session.documentPlanId = none
      · have absent : pointers.documentPlanId = none := by
          rw [← held]
          exact planned
        have noVersion : pointers.documentPlanVersion = none := by
          rw [← Option.isNone_iff_eq_none, ← shaped.plan, absent]
          rfl
        have same : pointers.withoutPlan = pointers := by
          rw [Pointers.withoutPlan, ← absent, ← noVersion]
        have sessionVersion : session.documentPlanVersion = none := by
          rw [← noVersion, ← held]
          rfl
        simp only [planned, sessionVersion, Option.isNone_none, Bool.and_self, if_true]
        exact ⟨sessions, rfl, same ▸ sessionAt⟩
      · have set : session.documentPlanId.isNone = false := by
          simpa [Option.isSome_iff_ne_none] using planned
        simp only [set, Bool.false_and, Bool.false_eq_true, if_false]
        rw [← held]
        exact SessionAt.rewrite found rfl rest
  · apply Follows.of_none
    · rw [sessionRule, if_neg valid]
    · exact perform_of_unread (sessionAt.get_of_invalid valid)

private theorem session_follows (shaped : pointers.Shaped) (sessionAt : SessionAt sessions sessionId contract pointers)
    (call : PointerCall contract) : Follows (fun after next => SessionAt after sessionId contract next)
      (sessionRule pointers call.request) (sessionCall sessions sessionId call) := by
  unfold sessionCall
  cases call.request with
  | bind => exact bindSession_follows shaped sessionAt
  | clear => exact clearSession_follows shaped sessionAt

/-! ### Where the rules differ -/

/-- The rules agree unless the request adds a plan to an output specification that is already bound. -/
theorem rules_agree
    (apart : ¬ pointers.TakesPlan request) : taskRule pointers request = sessionRule pointers request := by
  cases request with
  | clear => rfl
  | bind binding status =>
    unfold taskRule sessionRule
    refine if_congr ?_ rfl rfl
    constructor
    · rintro ⟨accepted, valid, held⟩
      exact ⟨accepted, valid, held.imp id Or.inl⟩
    · rintro ⟨accepted, valid, unbound | same | withoutPlan⟩
      · exact ⟨accepted, valid, .inl unbound⟩
      · exact ⟨accepted, valid, .inr same⟩
      · refine ⟨accepted, valid, .inr ?_⟩
        have noPlan : binding.requested.documentPlanId = none := by
          by_contra planned
          exact apart ⟨binding, status, rfl, accepted, withoutPlan, Option.isSome_iff_ne_none.mpr planned⟩
        have noVersion : binding.requested.documentPlanVersion = none := by
          rw [← Option.isNone_iff_eq_none, ← accepted.shaped.plan, noPlan]
          rfl
        rw [withoutPlan, Pointers.withoutPlan, ← noPlan, ← noVersion]

private theorem Pointers.outputSpecId_eq_none (unbound : pointers.withoutPlan = .unbound) :
    pointers.outputSpecId = none :=
  congrArg Pointers.outputSpecId unbound

private theorem rules_differ (takes : pointers.TakesPlan request) :
    (∃ next, sessionRule pointers request = some next) ∧ taskRule pointers request = none := by
  obtain ⟨binding, status, rfl, accepted, withoutPlan, planned⟩ := takes
  constructor
  · have valid : pointers.isValid = true := by
      have spec := accepted.1
      rw [withoutPlan]
      simp only [Pointers.isValid, Pointers.withoutPlan, PlanBinding.requested, Bool.and_eq_true]
      simpa [Option.isSome_iff_ne_none] using And.intro accepted.2.1 spec
    refine ⟨binding.requested, ?_⟩
    rw [sessionRule, if_pos ⟨accepted, valid, .inr (.inr withoutPlan)⟩]
  · rw [taskRule]
    refine if_neg ?_
    rintro ⟨-, -, unbound | same⟩
    · have spec := accepted.specified
      rw [Pointers.outputSpecId_eq_none (withoutPlan.symm.trans unbound)] at spec
      cases spec
    · rw [← same, withoutPlan] at planned
      cases planned

private theorem rule_shaped {next : Pointers}
    (shaped : pointers.Shaped) (given : taskRule pointers request = some next) : next.Shaped := by
  cases request with
  | bind =>
    simp only [taskRule] at given
    split at given
    · rename_i taken
      cases given
      exact taken.1.shaped
    · cases given
  | clear =>
    simp only [taskRule] at given
    split at given
    · cases given
      exact shaped.withoutPlan
    · cases given

/-! ### Runs -/

/-- Both stores hold the same pointers. -/
structure PairAt (start : PairStart) (pair : Pair) (pointers : Pointers) : Prop where
  task : TaskAt pair.tasks start.taskId pointers
  session : SessionAt pair.sessions start.sessionId start.contract pointers
  shaped : pointers.Shaped

/-- The task accepts a call after others. -/
def TaskAccepts (start : PairStart) (before : List (PointerCall start.contract))
    (call : PointerCall start.contract) : Prop :=
  ∃ after, taskCall ((pairCalls start).run before).tasks start.taskId call = .ok after

/-- The session accepts a call after others. -/
def SessionAccepts (start : PairStart) (before : List (PointerCall start.contract))
    (call : PointerCall start.contract) : Prop :=
  ∃ after, sessionCall ((pairCalls start).run before).sessions start.sessionId call = .ok after

/-- The pointers of the task after some calls. -/
def taskPointersAfter (start : PairStart) (calls : List (PointerCall start.contract)) : Option Pointers :=
  (((pairCalls start).run calls).tasks.row? start.taskId).map fun row => row.payload.pointers

/-- The pointers of the session after some calls. -/
def sessionPointersAfter (start : PairStart) (calls : List (PointerCall start.contract)) : Option Pointers :=
  (((pairCalls start).run calls).sessions.row start.sessionId).map sessionPointers

/-- The two stores accept and reject the same calls, hold the same pointers all the way, and take a plan of
an output specification whose plan has just been cleared. -/
structure MoveAlike (start : PairStart) (calls : List (PointerCall start.contract)) : Prop where
  outcomes : ∀ before call rest, calls = before ++ call :: rest →
    (TaskAccepts start before call ↔ SessionAccepts start before call)
  pointers : ∀ before rest, calls = before ++ rest →
    taskPointersAfter start before = sessionPointersAfter start before
  rebinds : ∀ before clearing again rest binding status,
    calls = before ++ clearing :: again :: rest → clearing.request = .clear →
    TaskAccepts start before clearing → again.request = .bind binding status → binding.Accepted →
    binding.requested.documentPlanId.isSome = true →
    taskPointersAfter start (before ++ [clearing]) = some binding.requested.withoutPlan →
    TaskAccepts start (before ++ [clearing]) again ∧ SessionAccepts start (before ++ [clearing]) again

/-- No call adds a plan to an output specification that is bound without one. -/
def AddsNoPlan (start : PairStart) (calls : List (PointerCall start.contract)) : Prop :=
  ∀ before call rest, calls = before ++ call :: rest →
    ∀ pointers, taskPointersAfter start before = some pointers → ¬ pointers.TakesPlan call.request

variable {start : PairStart}

private theorem PairAt.taskPointers {calls : List (PointerCall start.contract)}
    (pairAt : PairAt start ((pairCalls start).run calls) pointers) : taskPointersAfter start calls = some pointers := by
  obtain ⟨row, found, held, -⟩ := pairAt.task.row
  rw [taskPointersAfter, found, Option.map_some, held]

private theorem PairAt.sessionPointers {calls : List (PointerCall start.contract)}
    (pairAt : PairAt start ((pairCalls start).run calls) pointers) :
    sessionPointersAfter start calls = some pointers := by
  obtain ⟨session, found, held, -, -⟩ := pairAt.session.row
  rw [sessionPointersAfter, found, Option.map_some, held]

private theorem pairAt_start : PairAt start ((pairCalls start).run []) .unbound where
  task :=
    { row := ⟨start.row, start.taskFound, start.taskUnbound, by rw [start.taskValid]; rfl⟩
      planEvents := fun _ => start.noPlanEvents
      clearsDrawn := start.clearsDrawn }
  session :=
    ⟨start.session, start.sessionFound, start.sessionUnbound,
      ((isReadable_iff start.session).mp start.sessionReadable).1, rfl⟩
  shaped := .unbound

private theorem PairAt.step {pair : Pair} (pairAt : PairAt start pair pointers)
    {call : PointerCall start.contract} (apart : ¬ pointers.TakesPlan call.request) :
    ((∃ after, taskCall pair.tasks start.taskId call = .ok after) ↔
        ∃ after, sessionCall pair.sessions start.sessionId call = .ok after) ∧
      ∃ next, PairAt start ((pairCalls start).step pair call) next := by
  have onTask := task_follows start.named pairAt.shaped pairAt.task call
  have onSession := session_follows pairAt.shaped pairAt.session call
  rw [← rules_agree apart] at onSession
  cases rule : taskRule pointers call.request with
  | none =>
    obtain ⟨failure, taskRaised⟩ := onTask.refuses rule
    obtain ⟨failureToo, sessionRaised⟩ := onSession.refuses rule
    refine ⟨by simp [taskRaised, sessionRaised], pointers, ?_⟩
    have same : (pairCalls start).step pair call = pair := by
      simp only [pairCalls, taskRaised, sessionRaised, kept]
    rw [same]
    exact pairAt
  | some next =>
    obtain ⟨tasks, taskDone, taskAt⟩ := onTask.moves next rule
    obtain ⟨sessions, sessionDone, sessionAt⟩ := onSession.moves next rule
    refine ⟨by simp [taskDone, sessionDone], next, ?_⟩
    have written : (pairCalls start).step pair call = { tasks, sessions } := by
      simp only [pairCalls, taskDone, sessionDone, kept]
    rw [written]
    exact ⟨taskAt, sessionAt, rule_shaped pairAt.shaped rule⟩

private theorem PairAt.disagree {pair : Pair} (pairAt : PairAt start pair pointers)
    {call : PointerCall start.contract} (takes : pointers.TakesPlan call.request) :
    (∃ after, sessionCall pair.sessions start.sessionId call = .ok after) ∧
      ¬ ∃ after, taskCall pair.tasks start.taskId call = .ok after := by
  obtain ⟨⟨next, given⟩, none⟩ := rules_differ takes
  obtain ⟨sessions, done, -⟩ := (session_follows pairAt.shaped pairAt.session call).moves next given
  obtain ⟨failure, raised⟩ := (task_follows start.named pairAt.shaped pairAt.task call).refuses none
  exact ⟨⟨sessions, done⟩, by simp [raised]⟩

private theorem AddsNoPlan.of_concat {calls : List (PointerCall start.contract)}
    {call : PointerCall start.contract} (apart : AddsNoPlan start (calls ++ [call])) : AddsNoPlan start calls := by
  intro before current rest split
  exact apart before current (rest ++ [call]) (by simp [split])

private theorem pairAt_run {calls : List (PointerCall start.contract)} (apart : AddsNoPlan start calls) :
    ∃ pointers, PairAt start ((pairCalls start).run calls) pointers := by
  induction calls using List.reverseRecOn with
  | nil => exact ⟨.unbound, pairAt_start⟩
  | append_singleton calls call ih =>
    obtain ⟨pointers, pairAt⟩ := ih apart.of_concat
    rw [Machine.run_concat]
    exact (pairAt.step (apart calls call [] rfl pointers pairAt.taskPointers)).2

private theorem MoveAlike.of_concat {calls : List (PointerCall start.contract)}
    {call : PointerCall start.contract} (alike : MoveAlike start (calls ++ [call])) : MoveAlike start calls where
  outcomes := fun before current rest split =>
    alike.outcomes before current (rest ++ [call]) (by simp [split])
  pointers := fun before rest split => alike.pointers before (rest ++ [call]) (by simp [split])
  rebinds := fun before clearing again rest binding status split =>
    alike.rebinds before clearing again (rest ++ [call]) binding status (by simp [split])

private theorem MoveAlike.addsNoPlan {calls : List (PointerCall start.contract)}
    (alike : MoveAlike start calls) : AddsNoPlan start calls := by
  induction calls using List.reverseRecOn with
  | nil =>
    intro before call rest split
    simp at split
  | append_singleton calls call ih =>
    have earlier := ih alike.of_concat
    intro before current rest split pointers held takes
    rcases List.eq_nil_or_concat rest with rfl | ⟨front, last, rfl⟩
    · obtain ⟨rfl, same⟩ := List.append_inj' split rfl
      cases same
      obtain ⟨current, pairAt⟩ := pairAt_run earlier
      rw [pairAt.taskPointers] at held
      cases held
      obtain ⟨accepted, refused⟩ := pairAt.disagree takes
      exact refused ((alike.outcomes calls call [] rfl).mpr accepted)
    · have inner : calls = before ++ current :: front := by
        have both : calls ++ [call] = (before ++ current :: front) ++ [last] := by simpa using split
        exact (List.append_inj' both rfl).1
      exact earlier before current front inner pointers held takes

/-- The two stores move alike exactly in the runs in which no call adds a plan to an output specification
that is bound without one. -/
theorem pointers_move_alike_iff (start : PairStart) (calls : List (PointerCall start.contract)) :
    MoveAlike start calls ↔ AddsNoPlan start calls := by
  constructor
  · exact MoveAlike.addsNoPlan
  · intro apart
    have prefixes : ∀ before rest, calls = before ++ rest → AddsNoPlan start before := by
      rintro before rest rfl earlier call later split
      exact apart earlier call (later ++ rest) (by simp [split])
    constructor
    · intro before call rest split
      obtain ⟨pointers, pairAt⟩ := pairAt_run (prefixes before (call :: rest) split)
      exact (pairAt.step (apart before call rest split pointers pairAt.taskPointers)).1
    · intro before rest split
      obtain ⟨pointers, pairAt⟩ := pairAt_run (prefixes before rest split)
      rw [pairAt.taskPointers, pairAt.sessionPointers]
    · intro before clearing again rest binding status split _ _ request accepted planned held
      have here : calls = (before ++ [clearing]) ++ again :: rest := by simp [split]
      exact absurd ⟨binding, status, request, accepted, rfl, planned⟩
        (apart (before ++ [clearing]) again rest here _ held)

/-! ### A new plan after a cleared one -/

def sampleTask : DocumentTask :=
  { taskId := "document-task-1", tenantId := "tenant-a", userId := "user-a", origin := .workbench
    conversationId := none, initiatingTurnId := none, projectId := none
    knowledgeBaseName := some "hardware", templateVersionId := none
    generationSessionId := some "generation-session-1", pointers := .unbound, workOrderId := none
    currentRunId := none, currentArtifactId := none, artifactIds := [], status := .planned
    idempotencyKey := none, createdBy := "user-a", metadata := "", createdAt := 0, updatedAt := 0 }

def sampleSession : Session :=
  { sessionId := "generation-session-1", tenantId := "tenant-a", userId := "user-a"
    knowledgeBaseName := "hardware", templateVersionId := none, contractVersion := .outputSpecV1
    status := .awaitingPlan
    brief :=
      { purpose := "", scope := "", sourcePolicy := "", outputPolicy := "", missingDataPolicy := none
        inferencePolicy := none, clarificationAnswers := [], unresolvedRequirements := ""
        resolvedFields := "", allowedDerivations := [], confirmed := false, confidence := 0
        updatedAt := 0 }
    conversationId := none, initiatingTurnId := none, documentTaskId := some "document-task-1"
    workOrderId := none, outputSpecId := none, outputSpecVersion := none, outputSpecDraft := none
    documentPlanId := none, documentPlanVersion := none, lastQuestionId := none
    clarificationRevision := 0, createdAt := 0, updatedAt := 0 }

/-- A task and its session before any plan. -/
def sampleStart : PairStart where
  tasks := { rows := [{ columns := sampleTask.columns, payload := sampleTask }], events := [], drawn := 0 }
  sessions := { sessions := [sampleSession], messages := [] }
  row := { columns := sampleTask.columns, payload := sampleTask }
  session := sampleSession
  taskId := "document-task-1"
  sessionId := "generation-session-1"
  taskFound := rfl
  taskValid := by decide
  taskUnbound := rfl
  sessionFound := rfl
  sessionReadable := by decide
  sessionUnbound := rfl
  named := by decide
  noPlanEvents := fun _ member => (by cases member)
  clearsDrawn := fun _ member => (by cases member)

/-- A binding of a plan of the output specification. -/
def planOf (documentPlanId : String) (now : Nat) : PointerCall sampleStart.contract :=
  { request :=
      .bind
        { outputSpecId := "spec-1", outputSpecVersion := 1, documentPlanId := some documentPlanId,
          documentPlanVersion := some 1 } none
    now, eventAt := now }

/-- After `clear_plan` the session takes a new plan of the same output specification, the task does not. -/
theorem cleared_task_refuses_new_plan : ¬ ∀ start calls, MoveAlike start calls := by
  intro always
  let before : List (PointerCall sampleStart.contract) :=
    [planOf "plan-1" 1, { request := .clear, now := 2, eventAt := 2 }]
  have outcomes := (always sampleStart (before ++ [planOf "plan-2" 3])).outcomes before
    (planOf "plan-2" 3) [] rfl
  have onSession : (sessionCall ((pairCalls sampleStart).run before).sessions "generation-session-1"
      (planOf "plan-2" 3)).isOk = true := by
    decide
  have onTask : (taskCall ((pairCalls sampleStart).run before).tasks "document-task-1"
      (planOf "plan-2" 3)).isOk = false := by
    decide
  have accepted : SessionAccepts sampleStart before (planOf "plan-2" 3) := by
    cases answer : sessionCall ((pairCalls sampleStart).run before).sessions sampleStart.sessionId
        (planOf "plan-2" 3) with
    | ok after => exact ⟨after, answer⟩
    | error failure =>
      rw [show sampleStart.sessionId = "generation-session-1" from rfl] at answer
      rw [answer] at onSession
      cases onSession
  obtain ⟨after, answer⟩ := outcomes.mpr accepted
  rw [show sampleStart.taskId = "document-task-1" from rfl] at answer
  rw [answer] at onTask
  cases onTask

end HardwareDatabase.DocumentTasks
