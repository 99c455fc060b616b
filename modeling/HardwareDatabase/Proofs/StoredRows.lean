/-
Module: HardwareDatabase.Proofs.StoredRows
Purpose: The rows of the task store and of the session store stay readable under operations whose arguments fit the
  readers.
Trusted boundary: none
-/
import HardwareDatabase.GenerationSessions.Columns
import HardwareDatabase.Proofs.SessionUpdates
import HardwareDatabase.Proofs.StoredTasks

namespace HardwareDatabase.GenerationSessions

open Python (strip)
open Relational

/-! ### Sound rows -/

/-- A row that reads back as it was written. -/
structure SessionRow.Sound (row : SessionRow) : Prop where
  readable : row.payload.isReadable = true
  brief : row.payload.brief.isValid = true
  columns : row.columns = row.payload.columns

/-- Every row is sound, and no two rows are of one session. -/
structure SessionTable.Sound (table : SessionTable) : Prop where
  rows : ∀ row ∈ table.rows, row.Sound
  unique : UniqueOn (fun row : SessionRow => row.columns.sessionId) table.rows

/-- The arguments of a request fit the validators: only a session with an output specification contract takes
a planning status, a plan comes with a positive version, and a draft with a known status and with an output
specification, its own or the one of the session. -/
def Request.Fits (session : Session) : Request → Prop
  | .setStatus status => session.contractVersion = .legacyBriefV1 →
      (Status.ofTextUnchecked (strip status)).isPlanning = false
  | .bindPlan binding => PlanBinding.isComplete session = false →
      binding.documentPlanVersion.all (fun version => 1 ≤ version) = true ∧
        (session.contractVersion = .legacyBriefV1 → ∀ status, binding.status = some status →
          (Status.ofTextUnchecked (strip status)).isPlanning = false)
  | .updateOutputSpecDraft draft _ status => session.contractVersion = .outputSpecV1 →
      (Status.ofText status).isSome = true ∧
        ((optional draft.outputSpecId).or session.outputSpecId).isSome = true
  | _ => True

/-- The arguments of an operation fit the session that it reads. -/
def SessionTable.Fits (table : SessionTable) : SessionOp → Prop
  | .createSession _ => True
  | .call call => ∀ session, table.store.row call.val.sessionId = some session →
      call.val.request.Fits session

private theorem SessionRow.Sound.read {row : SessionRow} (sound : row.Sound) : row.read = .ok row.payload := by
  simp only [SessionRow.read, sound.readable, sound.brief, Bool.and_self, if_true]

/-! ### Payloads -/

/-- A payload that stays readable and keeps the columns that no update writes. -/
structure Session.Follows (revised base : Session) : Prop where
  readable : revised.isReadable = true
  brief : revised.brief.isValid = true
  columns : base.columns.updated revised = revised.columns
  sessionId : revised.sessionId = base.sessionId

private theorem isReadable_spec (session : Session) : session.isReadable = true ↔ session.status ∈ Status.known ∧
      session.outputSpecVersion.all (fun version => 1 ≤ version) = true ∧
      session.documentPlanVersion.all (fun version => 1 ≤ version) = true ∧
      (session.contractVersion = .legacyBriefV1 → (optional session.templateVersionId).isNone = false) ∧
      (session.contractVersion = .legacyBriefV1 → session.status.isPlanning = false) ∧
      session.outputSpecId.isNone = session.outputSpecVersion.isNone ∧
      session.documentPlanId.isNone = session.documentPlanVersion.isNone ∧
      (session.outputSpecDraft.isSome = true → session.outputSpecId.isNone = false) := by
  have arrow : ∀ left right : Bool, ((left && right) = false) ↔ (left = true → right = false) := by
    decide
  simp only [Session.isReadable, Bool.and_eq_true, Bool.not_eq_true', arrow, beq_iff_eq,
    List.contains_iff_mem, and_assoc]

variable {status : Status}

private theorem mem_known_of_ofText {text : String} (parsed : Status.ofText text = some status) :
    status ∈ Status.known :=
  List.mem_of_find?_eq_some parsed

variable {now : Nat}

private theorem update_isValid {brief revised : Brief} {updates : BriefUpdates}
    (done : brief.update updates now = .ok revised) : revised.isValid = true := by
  unfold Brief.update at done
  dsimp only at done
  split at done
  · cases done
  · rename_i accepted
    cases done
    simp only [Bool.or_eq_true, Bool.not_eq_true', decide_eq_false_iff_not, not_or, not_not] at accepted
    simp only [Brief.isValid, Bool.and_eq_true, decide_eq_true_eq]
    exact ⟨accepted.1.2, accepted.2⟩

private theorem keyed_isValid (brief : Brief) (questionId : String) (requestId : Option String) :
    (brief.keyed questionId requestId).isValid = brief.isValid := by
  unfold Brief.keyed
  split
  · split <;> rfl
  · rfl

variable {base : Session}

private theorem follows_of_unchecked {revised : Session} (readable : base.isReadable = true)
    (same : revised.isReadable = base.isReadable) (brief : revised.brief.isValid = true)
    (columns : base.columns.updated revised = revised.columns)
    (sessionId : revised.sessionId = base.sessionId) : revised.Follows base :=
  ⟨same.trans readable, brief, columns, sessionId⟩

private theorem follows_withStatus (readable : base.isReadable = true)
    (brief : base.brief.isValid = true) (known : status ∈ Status.known)
    (planning : base.contractVersion = .legacyBriefV1 → status.isPlanning = false) (now : Nat) :
    ({ base with status, updatedAt := now } : Session).Follows base := by
  have parts := (isReadable_spec base).mp readable
  refine ⟨(isReadable_spec _).mpr ?_, brief, rfl, rfl⟩
  exact ⟨known, parts.2.1, parts.2.2.1, parts.2.2.2.1, planning, parts.2.2.2.2.2⟩

private theorem ofTextUnchecked_known {text : String} (parsed : (Status.ofText text).isSome = true) :
    Status.ofTextUnchecked text ∈ Status.known := by
  obtain ⟨status, known⟩ := Option.isSome_iff_exists.mp parsed
  rw [Status.ofTextUnchecked, known]
  exact mem_known_of_ofText known

private theorem follows_bindPlan {binding : PlanBinding} (readable : base.isReadable = true)
    (brief : base.brief.isValid = true)
    (checked : binding.check = .ok ()) (set : binding.newStatus base = .ok status)
    (positive : binding.documentPlanVersion.all (fun version => 1 ≤ version) = true)
    (planning : base.contractVersion = .legacyBriefV1 → ∀ text, binding.status = some text →
      (Status.ofTextUnchecked (strip text)).isPlanning = false) : ({ base with
        outputSpecId := optional (some binding.outputSpecId)
        outputSpecVersion := some binding.outputSpecVersion
        documentPlanId := optional binding.documentPlanId
        documentPlanVersion := binding.documentPlanVersion
        status
        updatedAt := now } : Session).Follows base := by
  have parts := (isReadable_spec base).mp readable
  -- the status is the one of the session, or a known one that fits its contract
  have statusFits : status ∈ Status.known ∧
      (base.contractVersion = .legacyBriefV1 → status.isPlanning = false) := by
    unfold PlanBinding.newStatus at set
    split at set
    · cases set
      exact ⟨parts.1, parts.2.2.2.2.1⟩
    · rename_i text asked
      split at set
      · rename_i parsed
        cases set
        refine ⟨mem_known_of_ofText parsed, ?_⟩
        intro legacy
        have fits := planning legacy text asked
        rwa [Status.ofTextUnchecked, parsed] at fits
      · cases set
  unfold PlanBinding.check at checked
  split at checked
  · cases checked
  · rename_i spec
    split at checked
    · cases checked
    · rename_i plan
      simp only [not_or, Int.not_lt, ne_eq, Decidable.not_not] at spec plan
      have present : (optional (some binding.outputSpecId)).isNone = false := by
        simpa [Option.isSome_iff_ne_none] using spec.1
      -- only whether the ids are there matters
      generalize optional (some binding.outputSpecId) = specId at present ⊢
      generalize optional binding.documentPlanId = planId at plan ⊢
      refine ⟨(isReadable_spec _).mpr ?_, brief, rfl, rfl⟩
      exact ⟨statusFits.1, by simpa using spec.2, positive, parts.2.2.2.1, statusFits.2, present, plan,
        fun _ => present⟩

private theorem follows_draft {base : Session} {draft : Draft} {status : String} {now : Nat}
    (readable : base.isReadable = true) (brief : base.brief.isValid = true)
    (contract : base.contractVersion = .outputSpecV1) (advances : ¬ draft.version ≤ base.outputSpecVersion.getD 0)
    (fits : (Status.ofText status).isSome = true ∧
      ((optional draft.outputSpecId).or base.outputSpecId).isSome = true) :
    ({ base with
        outputSpecId := (optional draft.outputSpecId).or base.outputSpecId
        outputSpecVersion := some draft.version
        outputSpecDraft := some draft.json
        documentPlanId := none
        documentPlanVersion := none
        status := Status.ofTextUnchecked status
        updatedAt := now } : Session).Follows base := by
  have parts := (isReadable_spec base).mp readable
  have present : ((optional draft.outputSpecId).or base.outputSpecId).isNone = false := by
    rw [← Option.not_isSome, fits.2]
    rfl
  have positive : 1 ≤ draft.version := by
    cases stored : base.outputSpecVersion with
    | none =>
      rw [stored, Option.getD_none] at advances
      omega
    | some =>
      have bound := parts.2.1
      rw [stored] at bound advances
      simp only [Option.all_some, decide_eq_true_eq, Option.getD_some] at bound advances
      omega
  have legacy : ∀ {property : Prop}, base.contractVersion = .legacyBriefV1 → property := by
    intro property other
    rw [contract] at other
    cases other
  refine ⟨(isReadable_spec _).mpr ?_, brief, rfl, rfl⟩
  exact ⟨ofTextUnchecked_known fits.1, by simpa using positive, rfl, legacy, legacy, present, rfl, fun _ => present⟩

private theorem revise_follows {request : Request} {base revised : Session} {now : Nat}
    (readable : base.isReadable = true) (brief : base.brief.isValid = true)
    (checked : request.check = .ok ()) (fits : request.Fits base)
    (computed : request.revise base now = .ok (some revised)) : revised.Follows base := by
  cases request <;> simp only [Request.revise] at computed
  case appendMessage posting =>
      obtain ⟨_, -, computed⟩ := exists_of_bind_eq_ok computed
      cases computed
      exact follows_of_unchecked readable rfl brief rfl rfl
  case applyClarificationAnswer request =>
      obtain ⟨_, -, computed⟩ := exists_of_bind_eq_ok computed
      cases computed
      exact follows_of_unchecked readable rfl brief rfl rfl
  case updateBrief updates briefUpdatedAt closureEnabled =>
      obtain ⟨_, -, computed⟩ := exists_of_bind_eq_ok computed
      obtain ⟨updated, done, computed⟩ := exists_of_bind_eq_ok computed
      cases computed
      exact follows_of_unchecked readable rfl (update_isValid done) rfl rfl
  case setStatus status =>
      split at computed
      · cases computed
      · cases computed
        refine follows_withStatus readable brief (ofTextUnchecked_known ?_) fits now
        simp only [Request.check] at checked
        split at checked
        · cases checked
        · rename_i parsed
          simpa [Option.isSome_iff_ne_none] using parsed
  case confirm closureEnabled =>
      split at computed
      · cases computed
      · obtain ⟨_, -, computed⟩ := exists_of_bind_eq_ok computed
        split at computed
        · cases computed
        · cases computed
          have follows : ({ base with status := .readyToGenerate, updatedAt := now } : Session).Follows base :=
            follows_withStatus readable brief (by decide) (fun _ => rfl) now
          exact ⟨follows.readable, brief, rfl, rfl⟩
  case bindDocumentTask documentTaskId =>
      split at computed
      · cases computed
      · split at computed
        · cases computed
        · cases computed
          exact follows_of_unchecked readable rfl brief rfl rfl
  case bindWorkOrder workOrderId =>
      split at computed
      · cases computed
      · cases computed
        exact follows_of_unchecked readable rfl brief rfl rfl
  case bindPlan binding =>
      split at computed
      · cases computed
      · split at computed
        · cases computed
        · rename_i incomplete
          obtain ⟨status, set, computed⟩ := exists_of_bind_eq_ok computed
          cases computed
          obtain ⟨positive, planning⟩ := fits (by simpa using incomplete)
          exact follows_bindPlan readable brief checked set positive planning
  case updateOutputSpecDraft draft expectedVersion status =>
      split at computed
      · cases computed
      · rename_i contract
        split at computed
        · cases computed
        · split at computed
          · cases computed
          · rename_i advances
            cases computed
            have version : base.contractVersion = .outputSpecV1 := by simpa using contract
            exact follows_draft readable brief version advances (fits version)
  case clearPlan =>
      split at computed
      · cases computed
      · cases computed
        have parts := (isReadable_spec base).mp readable
        refine ⟨(isReadable_spec _).mpr ?_, brief, rfl, rfl⟩
        exact ⟨parts.1, parts.2.1, rfl, parts.2.2.2.1, parts.2.2.2.2.1, parts.2.2.2.2.2.1, rfl, parts.2.2.2.2.2.2.2⟩

/-! ### Operations -/

variable {sessionId : String}

private theorem row_of_written {store middle after : Store} {revised : Session}
    (written : middle.writeSession revised = .ok after) (stored : store.row sessionId = some base)
    (follows : revised.Follows base) :
    ∃ base revised, store.row sessionId = some base ∧ after.row sessionId = some revised ∧ revised.Follows base := by
  have named : base.sessionId = sessionId := by
    unfold Store.row at stored
    simpa using List.find?_some stored
  refine ⟨base, revised, stored, ?_, follows⟩
  rw [row_writeSession written, if_pos (follows.sessionId.trans named).symm]

private theorem applyAnswer_follows {store after : Store} {request : AnswerRequest}
    (applied : store.applyAnswer sessionId request now = .ok after) (brief : request.brief.isValid = true) :
    after.row sessionId = store.row sessionId ∨
      ∃ base revised, store.row sessionId = some base ∧ after.row sessionId = some revised ∧ revised.Follows base := by
  unfold Store.applyAnswer at applied
  obtain ⟨current, found, applied⟩ := exists_of_bind_eq_ok applied
  obtain ⟨stored, readable, -⟩ := getSession_spec found
  split at applied
  · split at applied
    · cases applied
      exact .inl rfl
    · cases applied
  · simp only [Store.recordAnswer, bind, Except.bind, throw, throwThe, MonadExceptOf.throw] at applied
    split at applied
    · cases applied
    · split at applied
      · cases applied
      · split at applied
        · cases applied
        · split at applied
          · cases applied
          · refine .inr (row_of_written applied stored ?_)
            refine follows_of_unchecked readable rfl ?_ rfl rfl
            exact (keyed_isValid _ _ _).trans brief

private theorem perform_follows {store after : Store} {call : Call}
    (performed : generationCalls.perform store call = .ok after) (passes : call.passesValidBrief = true)
    (fits : ∀ session, store.row call.sessionId = some session → call.request.Fits session)
    (briefs : ∀ session, store.row call.sessionId = some session → session.brief.isValid = true) :
    after.row call.sessionId = store.row call.sessionId ∨ ∃ base revised, store.row call.sessionId = some base ∧
        after.row call.sessionId = some revised ∧ revised.Follows base := by
  simp only [TwoPhase.perform] at performed
  split at performed
  · cases performed
  · cases performed
    exact .inl rfl
  · rename_i view looked
    obtain ⟨checked, found, -⟩ := look_spec looked
    obtain ⟨stored, readable, -⟩ := getSession_spec found
    replace performed : store.write call view = .ok after := performed
    unfold Store.write at performed
    split at performed
    · rename_i request asked
      refine applyAnswer_follows performed ?_
      rwa [Call.passesValidBrief, asked] at passes
    · split at performed
      · cases performed
      · cases performed
        exact .inl rfl
      · rename_i revised computed
        have follows : revised.Follows view :=
          revise_follows readable (briefs view stored) checked (fits view stored) computed
        right
        split at performed
        · unfold Store.appendMessage at performed
          obtain ⟨messages, -, performed⟩ := exists_of_bind_eq_ok performed
          exact row_of_written performed stored follows
        · exact row_of_written performed stored follows

variable {table : SessionTable}

private theorem SessionTable.exists_row {session : Session} (stored : table.store.row sessionId = some session) :
    ∃ row ∈ table.rows, row.payload = session ∧ row.payload.sessionId = sessionId := by
  have member := List.mem_of_find?_eq_some stored
  have named : session.sessionId = sessionId := by simpa using List.find?_some stored
  obtain ⟨row, rowMember, rfl⟩ := List.mem_map.mp member
  exact ⟨row, rowMember, rfl, named⟩

private theorem SessionTable.Sound.createSession {after : SessionTable} {creation : SessionCreation}
    (sound : table.Sound) (done : table.createSession creation = .ok after) : after.Sound := by
  unfold SessionTable.createSession at done
  split at done
  · cases done
  · split at done
    · cases done
    · rename_i readable
      split at done
      · cases done
      · rename_i unused
        cases done
        constructor
        · intro row member
          rcases List.mem_append.mp member with earlier | new
          · exact sound.rows row earlier
          · rw [List.mem_singleton.mp new]
            exact ⟨by simpa using readable, creation.brief.property, rfl⟩
        · apply sound.unique.append
          intro other member same
          apply unused
          rw [List.any_eq_true]
          exact ⟨other, member, beq_iff_eq.mpr same⟩

private theorem SessionTable.Sound.perform {after : SessionTable} {call : Call} (sound : table.Sound)
    (passes : call.passesValidBrief = true)
    (fits : ∀ session, table.store.row call.sessionId = some session → call.request.Fits session)
    (done : table.perform call = .ok after) : after.Sound := by
  unfold SessionTable.perform at done
  split at done
  · cases done
  · rename_i store performed
    split at done
    · cases done
      exact ⟨sound.rows, sound.unique⟩
    · rename_i session now
      split at done
      · cases done
        exact ⟨sound.rows, sound.unique⟩
      · rename_i rewritten
        cases done
        have briefs : ∀ session, table.store.row call.sessionId = some session →
            session.brief.isValid = true := by
          intro session stored
          obtain ⟨row, member, rfl, -⟩ := SessionTable.exists_row stored
          exact (sound.rows row member).brief
        rcases perform_follows performed passes fits briefs with same | ⟨base, revised, stored, later, follows⟩
        · exact absurd (same.symm.trans now) rewritten
        · obtain rfl : revised = session := Option.some.inj (later.symm.trans now)
          obtain ⟨row, member, rfl, named⟩ := SessionTable.exists_row stored
          have columns := (sound.rows row member).columns
          have key : row.columns.sessionId = call.sessionId :=
            (congrArg SessionColumns.sessionId columns).trans named
          constructor
          · intro written writtenMember
            rcases mem_updateWhere.mp writtenMember with ⟨old, oldMember, selected, rfl⟩ | ⟨kept, -⟩
            · obtain rfl := sound.unique.eq_of_key oldMember member
                ((beq_iff_eq.mp selected).trans key.symm)
              refine ⟨follows.readable, follows.brief, ?_⟩
              rw [SessionRow.updated, columns]
              exact follows.columns
            · exact sound.rows written kept
          · exact sound.unique.updateWhere fun _ => rfl

private theorem session_sound {after : SessionTable} {op : SessionOp} (sound : table.Sound)
    (fits : table.Fits op) (done : table.apply op = .ok after) : after.Sound := by
  cases op with
  | createSession => exact sound.createSession done
  | call call => exact sound.perform call.property fits done

end HardwareDatabase.GenerationSessions

namespace HardwareDatabase.DocumentTasks

open Relational
open GenerationSessions (Session SessionTable SessionOp SessionCreation)

/-! ### Both stores -/

/-- The two stores of a database. -/
structure StoredRows where
  tasks : TaskStore
  sessions : SessionTable

/-- An operation of one of the stores. -/
inductive RowOp
  | task (op : TaskOp)
  | session (op : SessionOp)

/-- One operation; one that raises is rolled back. -/
def StoredRows.step (stored : StoredRows) : RowOp → StoredRows
  | .task op =>
    match stored.tasks.apply op with
    | .ok tasks => { stored with tasks }
    | .error _ => stored
  | .session op =>
    match stored.sessions.apply op with
    | .ok sessions => { stored with sessions }
    | .error _ => stored

/-- The operations on two empty stores. -/
def rowOperations : Machine StoredRows RowOp where
  init := { tasks := .empty, sessions := { rows := [], messages := [] } }
  step := StoredRows.step

/-- Every row can be read, and its columns are the fields of what is read. -/
structure StoredRows.Readable (stored : StoredRows) : Prop where
  tasks : ∀ row ∈ stored.tasks.rows, ∃ task, row.read = .ok task ∧ row.columns = task.columns
  sessions : ∀ row ∈ stored.sessions.rows, ∃ session, row.read = .ok session ∧
    row.columns = session.columns

/-- Every row is readable after every prefix of a sequence of operations. -/
def StaysReadable (ops : List RowOp) : Prop :=
  ∀ first rest, ops = first ++ rest → (rowOperations.run first).Readable

/-- A task of the interface with its own identifier. -/
def sampleCreate : CreateCall :=
  { tenantId := "tenant", userId := "user", origin := "api", createdBy := "user", conversationId := none,
    initiatingTurnId := none, projectId := none, knowledgeBaseName := none, templateVersionId := none,
    generationSessionId := none, status := "planned", outputSpecId := none, outputSpecVersion := none,
    documentPlanId := none, documentPlanVersion := none, idempotencyKey := none, metadata := "{}", uuid := "1",
    createdAt := 0, updatedAt := 0 }

/-- The task takes a status that `TASK_STATUSES` lists. -/
def legacyOps : List RowOp :=
  [.task (.createTask sampleCreate), .task (.updateStatus "document-task-1" "legacy" 1)]

/-- The task cannot be read any more. -/
theorem legacy_status_blocks_task : ¬ ∀ ops, StaysReadable ops := by
  intro always
  have rows := (always legacyOps legacyOps [] (List.append_nil _).symm).tasks
  have stored : ((rowOperations.run legacyOps).tasks.rows.map fun row => row.read) =
      [.error .invalidTask] := by decide
  obtain ⟨row, member, raises⟩ := List.mem_map.mp (stored ▸ List.mem_singleton_self _)
  obtain ⟨task, read, -⟩ := rows row member
  rw [raises] at read
  cases read

/-- The arguments of an operation fit the validators of the rows that it writes. -/
def StoredRows.Fits (stored : StoredRows) : RowOp → Prop
  | .task op => stored.tasks.Fits op
  | .session op => stored.sessions.Fits op

/-- The rows of both stores are sound. -/
structure StoredRows.Sound (stored : StoredRows) : Prop where
  tasks : stored.tasks.Sound
  sessions : stored.sessions.Sound

private theorem StoredRows.Sound.readable {stored : StoredRows} (sound : stored.Sound) :
    stored.Readable where
  tasks := fun row member => (sound.tasks.rows row member).readable
  sessions := fun row member =>
    have soundRow := sound.sessions.rows row member
    ⟨row.payload, soundRow.read, soundRow.columns⟩

private theorem StoredRows.Sound.step {stored : StoredRows} (sound : stored.Sound) {op : RowOp}
    (fits : stored.Fits op) : (stored.step op).Sound := by
  cases op with
  | task =>
    simp only [StoredRows.step]
    split
    · rename_i tasks done
      exact ⟨task_sound sound.tasks fits done, sound.sessions⟩
    · exact sound
  | session =>
    simp only [StoredRows.step]
    split
    · rename_i sessions done
      exact ⟨sound.tasks, GenerationSessions.session_sound sound.sessions fits done⟩
    · exact sound

/-- The rows stay readable in every sequence of operations whose arguments fit the validators. -/
theorem staysReadable_of_fits (ops : List RowOp) (fits : rowOperations.Respects StoredRows.Fits ops) :
    StaysReadable ops := by
  rintro first rest rfl
  have sound : (rowOperations.run first).Sound := by
    apply Machine.guarded_invariant StoredRows.Sound _ _ fits.of_append
    · exact ⟨sound_empty, ⟨fun _ member => absurd member List.not_mem_nil, .nil _⟩⟩
    · exact fun stored op sound allowed => sound.step allowed
  exact sound.readable

/-- A session with an output specification. -/
def fittingSession : SessionCreation :=
  { tenantId := "tenant", userId := "user", knowledgeBaseName := "kb", templateVersionId := none,
    brief := ⟨default, by decide⟩, conversationId := none, initiatingTurnId := none,
    documentTaskId := some "document-task-1", contractVersion := .outputSpecV1, status := none,
    outputSpecId := none, outputSpecVersion := none, outputSpecDraft := none, documentPlanId := none,
    documentPlanVersion := none, uuid := "1", now := 2, closureEnabled := false }

/-- The task takes another status and a plan; its session takes a planning status. -/
def fittingOps : List RowOp :=
  [.task (.createTask sampleCreate), .task (.updateStatus "document-task-1" "running" 1),
    .task (.bindPlan "document-task-1" ⟨"spec", 1, some "plan", some 1⟩ 2 2),
    .session (.createSession fittingSession),
    .session (.call ⟨⟨"generation-session-1", 3, .setStatus "awaiting_plan"⟩, rfl⟩)]

/-- The rows of these operations are read back. -/
theorem fitting_operations_stay_readable :
    ((rowOperations.run fittingOps).sessions.rows.map fun row => row.columns.status) = [.awaitingPlan] ∧
      StaysReadable fittingOps := by
  refine ⟨by decide, staysReadable_of_fits _ (Machine.RespectsFrom.respects ?_)⟩
  have key : settledKey (settledKey (normalize none)) = settledKey (normalize none) := by decide
  refine ⟨key, ?_, fun _ _ _ _ => by decide, trivial, ?_, trivial⟩
  · intro row _ parsed
    exact absurd parsed (by decide)
  · intro session stored legacy
    have contract : ((rowOperations.run (fittingOps.take 4)).sessions.store.row "generation-session-1").map
        Session.contractVersion = some .outputSpecV1 := by decide
    rw [show (rowOperations.run (fittingOps.take 4)).sessions.store.row _ = some session from stored] at contract
    rw [Option.map_some, legacy] at contract
    cases contract

end HardwareDatabase.DocumentTasks
