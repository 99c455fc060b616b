/-
Module: HardwareDatabase.Proofs.SessionUpdates
Purpose: Lost updates of generation sessions: as long as a call writes the row that it has read, every run is the
  serial run of its calls.
Trusted boundary: none
-/
import HardwareDatabase.GenerationSessions.Store

namespace HardwareDatabase.GenerationSessions

open Python (strip)
open Relational

/-- The interleavings of calls on the session store. -/
abbrev Flights := TwoPhase.State Store Call Session

/-- Only the answer to a clarification reads the session again in its transaction. -/
def Request.readsAgain : Request → Bool
  | .applyClarificationAnswer _ => true
  | _ => false

/-- The payload without the instant of its last write. -/
def Session.untimed (session : Session) : Session :=
  { session with updatedAt := 0 }

/-- A call that writes what it read finds the row as it read it, up to `updated_at`. -/
def rowAsRead (state : Flights) : TwoPhase.Step Call → Prop
  | .look _ _ => True
  | .write id =>
    (state.waiting id).all fun flight =>
      flight.call.request.readsAgain ||
        (state.store.row flight.call.sessionId).any fun row => row.untimed == flight.view.untimed

instance (state : Flights) (step : TwoPhase.Step Call) : Decidable (rowAsRead state step) :=
  match step with
  | .look _ _ => isTrue trivial
  | .write _ => inferInstanceAs (Decidable (_ = true))

/-! ### One call -/

section Revise

variable {session revised : Session} {now : Nat} {request : Request}

/-- A call computes the same payload from sessions that differ in `updated_at`. -/
theorem revise_touch (again : request.readsAgain = false) (updatedAt : Nat) :
    request.revise { session with updatedAt } now = request.revise session now := by
  cases request <;> first | rfl | cases again

theorem revise_untimed {other : Session} (again : request.readsAgain = false) (same : session.untimed = other.untimed) :
    request.revise session now = request.revise other now := by
  have left : request.revise session.untimed now = request.revise session now :=
    revise_touch again 0
  have right : request.revise other.untimed now = request.revise other now := revise_touch again 0
  rw [← left, ← right, same]

end Revise

/-- The version of the output specification; `NULL` counts as zero. -/
def Session.specVersion (session : Session) : Int :=
  session.outputSpecVersion.getD 0

/-- The payload without what a message changes. -/
def Session.withoutPrompt (session : Session) : Session :=
  { session.untimed with lastQuestionId := none }

/-- What is true of every payload that a call computes. -/
structure Revision (request : Request) (session revised : Session) : Prop where
  sessionId : revised.sessionId = session.sessionId
  contractVersion : revised.contractVersion = session.contractVersion
  version : session.specVersion ≤ revised.specVersion
  draft : ∀ draft expectedVersion status,
    request = .updateOutputSpecDraft draft expectedVersion status →
      session.specVersion = expectedVersion ∧ expectedVersion < revised.specVersion
  posting : ∀ posting, request = .appendMessage posting →
    revised.withoutPrompt = session.withoutPrompt

variable {session revised : Session}

theorem Revision.plain {request : Request} (sessionId : revised.sessionId = session.sessionId)
    (contractVersion : revised.contractVersion = session.contractVersion)
    (version : revised.outputSpecVersion = session.outputSpecVersion) (noDraft : ∀ draft expectedVersion status,
      request ≠ .updateOutputSpecDraft draft expectedVersion status)
    (noPosting : ∀ posting, request ≠ .appendMessage posting) : Revision request session revised where
  sessionId := sessionId
  contractVersion := contractVersion
  version := by simp [Session.specVersion, version]
  draft := fun draft expectedVersion status same => absurd same (noDraft draft expectedVersion status)
  posting := fun posting same => absurd same (noPosting posting)

theorem PlanBinding.version_le (binding : PlanBinding)
    (checked : binding.check = .ok ()) (agrees : ¬ binding.conflicts session = true) :
    session.specVersion ≤ binding.outputSpecVersion := by
  have positive : 1 ≤ binding.outputSpecVersion := by
    rw [PlanBinding.check] at checked
    split at checked
    · cases checked
    · rename_i valid
      omega
  simp only [PlanBinding.conflicts, Bool.or_eq_true, not_or] at agrees
  have current := agrees.1.1.2
  cases stored : session.outputSpecVersion with
  | none =>
    simp only [Session.specVersion, stored, Option.getD_none]
    omega
  | some version =>
    have same : version = binding.outputSpecVersion := by
      simpa [differs, stored] using current
    simp [Session.specVersion, stored, same]

theorem revision_of_revise {request : Request} {now : Nat}
    (checked : request.check = .ok ()) (computed : request.revise session now = .ok (some revised)) :
    Revision request session revised := by
  cases request with
  | appendMessage =>
    simp only [Request.revise, bind, Except.bind, pure, Except.pure] at computed
    split at computed
    · cases computed
    · cases computed
      exact ⟨rfl, rfl, le_refl _, nofun, fun _ _ => rfl⟩
  | applyClarificationAnswer =>
    simp only [Request.revise, bind, Except.bind, pure, Except.pure] at computed
    split at computed
    · cases computed
    · cases computed
      exact Revision.plain rfl rfl rfl nofun nofun
  | updateBrief =>
    simp only [Request.revise, bind, Except.bind, pure, Except.pure] at computed
    split at computed
    · cases computed
    · split at computed
      · cases computed
      · cases computed
        exact Revision.plain rfl rfl rfl nofun nofun
  | setStatus | bindWorkOrder | clearPlan =>
    simp only [Request.revise] at computed
    split at computed
    · cases computed
    · cases computed
      exact Revision.plain rfl rfl rfl nofun nofun
  | confirm =>
    simp only [Request.revise, bind, Except.bind, pure, Except.pure, throw, throwThe,
      MonadExceptOf.throw] at computed
    split at computed
    · cases computed
    · split at computed
      · cases computed
      · split at computed
        · cases computed
        · cases computed
          exact Revision.plain rfl rfl rfl nofun nofun
  | bindDocumentTask =>
    simp only [Request.revise] at computed
    split at computed
    · cases computed
    · split at computed
      · cases computed
      · cases computed
        exact Revision.plain rfl rfl rfl nofun nofun
  | bindPlan binding =>
    simp only [Request.revise, bind, Except.bind, pure, Except.pure, throw, throwThe,
      MonadExceptOf.throw] at computed
    split at computed
    · cases computed
    · rename_i agrees
      split at computed
      · cases computed
      · split at computed
        · cases computed
        · cases computed
          exact ⟨rfl, rfl, binding.version_le checked agrees, nofun, nofun⟩
  | updateOutputSpecDraft draft expectedVersion =>
    simp only [Request.revise, bind, Except.bind, pure, Except.pure, throw, throwThe,
      MonadExceptOf.throw] at computed
    split at computed
    · cases computed
    · split at computed
      · cases computed
      · rename_i expected
        split at computed
        · cases computed
        · rename_i advances
          cases computed
          have matched : session.specVersion = expectedVersion := by
            simpa [Session.specVersion] using expected
          have raised : session.specVersion < draft.version := by
            simpa [Session.specVersion] using advances
          refine ⟨rfl, rfl, le_of_lt raised, ?_, nofun⟩
          intro draft' expectedVersion' status' same
          cases same
          exact ⟨matched, matched ▸ raised⟩

/-! ### The row after a write -/

theorem row_writeSession {store after : Store} (written : store.writeSession session = .ok after) (sessionId : String) :
    after.row sessionId =
      if sessionId = session.sessionId then some session else store.row sessionId := by
  simp only [Store.writeSession, updateSessionRow, bind, Except.bind, pure, Except.pure] at written
  split at written
  · cases written
  · rename_i sessions updated
    cases written
    split at updated
    · rename_i stored
      cases updated
      split
      · rename_i same
        subst same
        obtain ⟨row, member, named⟩ := List.any_eq_true.mp stored
        have rewritten := find?_updateWhere_self (q := fun row => row.sessionId == session.sessionId)
          (f := fun _ => session) store.sessions (by simp)
        simp only [Store.row]
        rw [rewritten]
        cases found : store.sessions.find? (fun row => row.sessionId == session.sessionId) with
        | none => exact absurd named (List.find?_eq_none.mp found row member)
        | some => rfl
      · rename_i other
        apply find?_updateWhere
        · intro row selected
          simp only [beq_iff_eq] at selected
          simpa [selected] using Ne.symm other
        · intro row _
          simpa using Ne.symm other
    · cases updated

/-- What a completed call leaves in the session table, where `base` is the session that it wrote from. -/
structure Rewrites (call : Call) (base : Session) (before after : Store) : Prop where
  others : ∀ sessionId, sessionId ≠ call.sessionId → after.row sessionId = before.row sessionId
  own : ∃ revised, after.row call.sessionId = some revised ∧ Revision call.request base revised

/-- The version that a draft replaces, and the session that it belongs to. -/
def Call.draftKey (call : Call) : Option (String × Int) :=
  match call.request with
  | .updateOutputSpecDraft _ expectedVersion _ => some (call.sessionId, expectedVersion)
  | _ => none

theorem draftKey_of_settled {call : Call}
    (settled : call.request.revise session call.now = .ok none) : call.draftKey = none := by
  cases asked : call.request with
  | updateOutputSpecDraft =>
    rw [asked] at settled
    simp only [Request.revise, bind, Except.bind, pure, Except.pure, throw, throwThe,
      MonadExceptOf.throw] at settled
    split at settled
    · cases settled
    · split at settled
      · cases settled
      · split at settled <;> cases settled
  | _ => simp [Call.draftKey, asked]

theorem rewrites_of_writeSession {call : Call} {base : Session} {before middle after : Store}
    (written : middle.writeSession revised = .ok after) (rows : middle.sessions = before.sessions)
    (named : base.sessionId = call.sessionId) (revision : Revision call.request base revised) :
    Rewrites call base before after := by
  have own : revised.sessionId = call.sessionId := revision.sessionId.trans named
  constructor
  · intro sessionId other
    rw [row_writeSession written, if_neg (by rw [own]; exact other), Store.row, rows]
    rfl
  · refine ⟨revised, ?_, revision⟩
    rw [row_writeSession written, if_pos own.symm]

theorem appendMessage_rewrites {call : Call} {posting : Posting} {base : Session}
    {store after : Store} (named : base.sessionId = call.sessionId) (revision : Revision call.request base revised)
    (appended : store.appendMessage call.sessionId posting revised = .ok after) : Rewrites call base store after := by
  simp only [Store.appendMessage, bind, Except.bind] at appended
  split at appended
  · cases appended
  · exact rewrites_of_writeSession appended rfl named revision

theorem getSession_spec {store : Store} {sessionId : String} (found : store.getSession sessionId = .ok session) :
    store.row sessionId = some session ∧ session.isReadable = true ∧ session.sessionId = sessionId := by
  rw [Store.getSession] at found
  split at found
  · cases found
  · rename_i row stored
    split at found
    · rename_i readable
      cases found
      exact ⟨stored, readable, by simpa using List.find?_some stored⟩
    · cases found

theorem applyAnswer_rewrites {call : Call} {request : AnswerRequest} {store after : Store}
    (asked : call.request = .applyClarificationAnswer request)
    (applied : store.applyAnswer call.sessionId request call.now = .ok after) :
    after = store ∨ ∃ base, store.row call.sessionId = some base ∧ Rewrites call base store after := by
  simp only [Store.applyAnswer, bind, Except.bind, pure, Except.pure, throw, throwThe, MonadExceptOf.throw] at applied
  split at applied
  · cases applied
  · rename_i current found
    obtain ⟨stored, -, named⟩ := getSession_spec found
    split at applied
    · split at applied
      · cases applied
        exact Or.inl rfl
      · cases applied
    · right
      refine ⟨current, stored, ?_⟩
      simp only [Store.recordAnswer, bind, Except.bind, throw, throwThe, MonadExceptOf.throw] at applied
      split at applied
      · cases applied
      · split at applied
        · cases applied
        · split at applied
          · cases applied
          · split at applied
            · cases applied
            · have revision : ∀ revised : Session, revised.sessionId = current.sessionId →
                  revised.contractVersion = current.contractVersion →
                  revised.outputSpecVersion = current.outputSpecVersion →
                  Revision call.request current revised := by
                intro revised sessionId contractVersion version
                rw [asked]
                exact Revision.plain sessionId contractVersion version nofun nofun
              exact rewrites_of_writeSession applied rfl named (revision _ rfl rfl rfl)

/-- The second step of a call from a session of the right id: it changes nothing, which a draft never
does, or it rewrites the row from the session it read or, for an answer, from the current one. -/
theorem write_rewrites {call : Call} {view : Session} {store after : Store}
    (checked : call.request.check = .ok ()) (named : view.sessionId = call.sessionId)
    (written : store.write call view = .ok after) : (after = store ∧ call.draftKey = none) ∨
      ∃ base, Rewrites call base store after ∧
        (base = view ∨ (call.request.readsAgain = true ∧ store.row call.sessionId = some base)) := by
  rw [Store.write] at written
  split at written
  · rename_i request asked
    rcases applyAnswer_rewrites asked written with same | ⟨base, stored, rewrites⟩
    · exact Or.inl ⟨same, by simp [Call.draftKey, asked]⟩
    · exact Or.inr ⟨base, rewrites, Or.inr ⟨by simp [Request.readsAgain, asked], stored⟩⟩
  · split at written
    · cases written
    · rename_i settled
      cases written
      exact Or.inl ⟨rfl, draftKey_of_settled settled⟩
    · rename_i revised computed
      have revision := revision_of_revise checked computed
      refine Or.inr ⟨view, ?_, Or.inl rfl⟩
      split at written
      · exact appendMessage_rewrites named revision written
      · exact rewrites_of_writeSession written rfl named revision

/-! ### Calls in flight

A call writes what it has computed from the row that it read; it is undisturbed while that row stands. -/

/-- What is true of a call between its two steps. -/
structure FlightOk (store : Store) (flight : TwoPhase.InFlight Call Session) : Prop where
  checked : flight.call.request.check = .ok ()
  readable : flight.view.isReadable = true
  named : flight.view.sessionId = flight.call.sessionId
  computes : ∃ revised, flight.call.request.revise flight.view flight.call.now = .ok (some revised)
  contract : ∃ row, store.row flight.call.sessionId = some row ∧
    row.contractVersion = flight.view.contractVersion

theorem look_spec {store : Store} {call : Call} {view : Session} (looked : store.look call = .ok (some view)) :
    call.request.check = .ok () ∧ store.getSession call.sessionId = .ok view ∧
      ∃ revised, call.request.revise view call.now = .ok (some revised) := by
  simp only [Store.look, bind, Except.bind, pure, Except.pure] at looked
  split at looked
  · cases looked
  · rename_i checked
    split at looked
    · cases looked
    · rename_i session found
      split at looked
      · cases looked
      · rename_i revised computed
        cases revised with
        | none => cases looked
        | some revised =>
          cases looked
          exact ⟨checked, found, revised, computed⟩

variable {flight : TwoPhase.InFlight Call Session}

theorem FlightOk.after_write {store after : Store} {other : TwoPhase.InFlight Call Session}
    (writer : FlightOk store flight) (ok : FlightOk store other)
    (written : store.write flight.call flight.view = .ok after) : FlightOk after other := by
  refine ⟨ok.checked, ok.readable, ok.named, ok.computes, ?_⟩
  obtain ⟨row, stored, contract⟩ := ok.contract
  rcases write_rewrites writer.checked writer.named written with ⟨rfl, -⟩ | ⟨base, rewrites, origin⟩
  · exact ⟨row, stored, contract⟩
  · by_cases same : other.call.sessionId = flight.call.sessionId
    · obtain ⟨revised, current, revision⟩ := rewrites.own
      rw [same] at stored ⊢
      refine ⟨revised, current, ?_⟩
      rw [revision.contractVersion, ← contract]
      -- the session that was written from has the contract of the row before
      rcases origin with rfl | ⟨-, found⟩
      · obtain ⟨writerRow, writerStored, writerContract⟩ := writer.contract
        rw [stored] at writerStored
        cases writerStored
        exact writerContract.symm
      · rw [stored] at found
        cases found
        rfl
    · rw [rewrites.others _ same]
      exact ⟨row, stored, contract⟩

theorem mem_of_waiting {state : Flights} {id : Nat}
    (waiting : state.waiting id = some flight) : flight ∈ state.inFlight :=
  List.mem_of_find?_eq_some waiting

theorem flightsOk_run (start : Store) (steps : List (TwoPhase.Step Call)) :
    ∀ flight ∈ ((generationCalls.interleaved start).run steps).inFlight,
      FlightOk ((generationCalls.interleaved start).run steps).store flight := by
  apply Machine.invariant (fun state : Flights => ∀ flight ∈ state.inFlight, FlightOk state.store flight)
  · intro flight member
    cases member
  · intro state step ok
    cases step with
    | look =>
      simp only [TwoPhase.interleaved, TwoPhase.step]
      split
      · rename_i view _ looked
        intro flight member
        rcases List.mem_append.mp member with old | new
        · exact ok flight old
        · rw [List.mem_singleton.mp new]
          obtain ⟨checked, found, computes⟩ := look_spec looked
          obtain ⟨stored, readable, named⟩ := getSession_spec found
          exact ⟨checked, readable, named, computes, view, stored, rfl⟩
      · exact ok
    | write =>
      simp only [TwoPhase.interleaved, TwoPhase.step]
      split
      · exact ok
      · rename_i writer waiting
        have writerOk := ok writer (mem_of_waiting waiting)
        split
        · rename_i after written
          intro flight member
          exact writerOk.after_write (ok flight (List.mem_filter.mp member).1) written
        · intro flight member
          exact ok flight (List.mem_filter.mp member).1

theorem perform_answer {store : Store} {request : AnswerRequest} (ok : FlightOk store flight)
    (asked : flight.call.request = .applyClarificationAnswer request) :
    generationCalls.perform store flight.call = generationCalls.write store flight.call flight.view := by
  have transaction : ∀ view, generationCalls.write store flight.call view =
      store.applyAnswer flight.call.sessionId request flight.call.now := by
    intro view
    simp only [generationCalls, Store.write, asked]
  rw [transaction]
  have checked : (Request.applyClarificationAnswer request).check = .ok () := asked ▸ ok.checked
  cases found : store.getSession flight.call.sessionId with
  | error failure =>
    have looked : generationCalls.look store flight.call = .error failure := by
      simp only [generationCalls, Store.look, asked, checked, found, bind, Except.bind]
    simp only [TwoPhase.perform, looked, Store.applyAnswer, found, bind, Except.bind]
  | ok current =>
    -- the guard looks at the contract only, which is the one that was read
    have allowed : guardLegacyWrite current request.closureEnabled = .ok () := by
      obtain ⟨revised, computed⟩ := ok.computes
      obtain ⟨row, stored, contract⟩ := ok.contract
      rw [(getSession_spec found).1] at stored
      cases stored
      rw [asked] at computed
      simp only [Request.revise, bind, Except.bind] at computed
      split at computed
      · cases computed
      · rename_i passed
        rw [guardLegacyWrite, contract]
        exact passed
    have looked : generationCalls.look store flight.call = .ok (some current) := by
      simp only [generationCalls, Store.look, asked, checked, found, Request.revise, allowed, bind,
        Except.bind, pure, Except.pure, Option.map_some]
    simp only [TwoPhase.perform, looked, transaction]

theorem perform_asRead {store : Store} {row : Session}
    (ok : FlightOk store flight) (again : flight.call.request.readsAgain = false)
    (stored : store.row flight.call.sessionId = some row) (same : row.untimed = flight.view.untimed) :
    generationCalls.perform store flight.call = generationCalls.write store flight.call flight.view := by
  have readable : row.isReadable = true := by
    have untimed : row.untimed.isReadable = true := by
      rw [same]
      exact ok.readable
    exact untimed
  have found : store.getSession flight.call.sessionId = .ok row := by
    simp only [Store.getSession, stored, readable, if_true]
  have computes : flight.call.request.revise row flight.call.now =
      flight.call.request.revise flight.view flight.call.now := revise_untimed again same
  obtain ⟨revised, computed⟩ := ok.computes
  have looked : generationCalls.look store flight.call = .ok (some row) := by
    simp only [generationCalls, Store.look, ok.checked, found, computes, computed, bind, Except.bind,
      pure, Except.pure, Option.map_some]
  simp only [TwoPhase.perform, looked]
  simp only [generationCalls, Store.write]
  split
  · rfl
  · rw [computes]

theorem undisturbed_of_rowAsRead {state : Flights} {step : TwoPhase.Step Call}
    (ok : ∀ flight ∈ state.inFlight, FlightOk state.store flight) (asRead : rowAsRead state step) :
    generationCalls.Undisturbed state step := by
  cases step with
  | look => trivial
  | write =>
    intro flight waiting
    have flightOk := ok flight (mem_of_waiting waiting)
    simp only [rowAsRead, waiting, Option.all_some, Bool.or_eq_true, Option.any_eq_true, beq_iff_eq] at asRead
    cases asked : flight.call.request with
    | applyClarificationAnswer => exact perform_answer flightOk asked
    | _ =>
      have again : flight.call.request.readsAgain = false := by rw [asked]; rfl
      rcases asRead with reads | ⟨row, stored, same⟩
      · rw [again] at reads
        cases reads
      · exact perform_asRead flightOk again stored same

/-! ### Versions -/

/-- The version of a session's output specification. -/
def Store.specVersion (store : Store) (sessionId : String) : Int :=
  ((store.row sessionId).map Session.specVersion).getD 0

theorem draftKey_of_look {store : Store} {call : Call} (looked : store.look call = .ok none) :
    call.draftKey = none := by
  simp only [Store.look, bind, Except.bind, pure, Except.pure] at looked
  split at looked
  · cases looked
  · split at looked
    · cases looked
    · split at looked
      · cases looked
      · rename_i revised computed
        cases revised with
        | none => exact draftKey_of_settled computed
        | some => cases looked

theorem perform_rewrites {store after : Store} {call : Call}
    (performed : generationCalls.perform store call = .ok after) : (after = store ∧ call.draftKey = none) ∨
      ∃ base, store.row call.sessionId = some base ∧ Rewrites call base store after := by
  simp only [TwoPhase.perform] at performed
  split at performed
  · cases performed
  · rename_i looked
    cases performed
    exact Or.inl ⟨rfl, draftKey_of_look looked⟩
  · rename_i view looked
    obtain ⟨checked, found, -⟩ := look_spec looked
    obtain ⟨stored, -, named⟩ := getSession_spec found
    rcases write_rewrites checked named performed with unchanged | ⟨base, rewrites, origin⟩
    · exact Or.inl unchanged
    · right
      rcases origin with rfl | ⟨-, current⟩
      · exact ⟨base, stored, rewrites⟩
      · exact ⟨base, current, rewrites⟩

theorem perform_specVersion {store after : Store} {call : Call}
    (performed : generationCalls.perform store call = .ok after) :
    (∀ sessionId, store.specVersion sessionId ≤ after.specVersion sessionId) ∧
      ∀ sessionId version, call.draftKey = some (sessionId, version) →
        store.specVersion sessionId = version ∧ version < after.specVersion sessionId := by
  rcases perform_rewrites performed with ⟨rfl, noDraft⟩ | ⟨base, stored, rewrites⟩
  · refine ⟨fun _ => le_refl _, ?_⟩
    intro sessionId version key
    rw [noDraft] at key
    cases key
  · obtain ⟨revised, current, revision⟩ := rewrites.own
    have before : store.specVersion call.sessionId = base.specVersion := by
      simp [Store.specVersion, stored]
    have later : after.specVersion call.sessionId = revised.specVersion := by
      simp [Store.specVersion, current]
    constructor
    · intro sessionId
      by_cases own : sessionId = call.sessionId
      · rw [own, before, later]
        exact revision.version
      · simp [Store.specVersion, rewrites.others sessionId own]
    · intro sessionId version key
      cases asked : call.request with
      | updateOutputSpecDraft draft expectedVersion status =>
        simp only [Call.draftKey, asked, Option.some.injEq, Prod.mk.injEq] at key
        obtain ⟨rfl, rfl⟩ := key
        rw [before, later]
        exact revision.draft draft expectedVersion status asked
      | _ => simp [Call.draftKey, asked] at key

/-- The versions that have been replaced are different and lie below the current ones. -/
structure Replaced (store : Store) (history : List Call) : Prop where
  once : (history.filterMap Call.draftKey).Nodup
  below : ∀ key ∈ history.filterMap Call.draftKey, key.2 < store.specVersion key.1

theorem Replaced.step {store after : Store} {history : List Call} {call : Call}
    (replaced : Replaced store history) (performed : generationCalls.perform store call = .ok after) :
    Replaced after (history ++ [call]) := by
  obtain ⟨rises, replaces⟩ := perform_specVersion performed
  have kept : ∀ key ∈ history.filterMap Call.draftKey, key.2 < after.specVersion key.1 :=
    fun key member => lt_of_lt_of_le (replaced.below key member) (rises key.1)
  cases key : call.draftKey with
  | none =>
    have same : (history ++ [call]).filterMap Call.draftKey = history.filterMap Call.draftKey := by
      simp [key]
    exact ⟨by rw [same]; exact replaced.once, by rw [same]; exact kept⟩
  | some new =>
    have longer : (history ++ [call]).filterMap Call.draftKey =
        history.filterMap Call.draftKey ++ [new] := by
      simp [key]
    obtain ⟨expected, raised⟩ := replaces new.1 new.2 key
    constructor
    · rw [longer, List.nodup_append]
      refine ⟨replaced.once, List.nodup_singleton _, ?_⟩
      intro old member added addedMember same
      rw [List.mem_singleton.mp addedMember] at same
      have lower := replaced.below old member
      rw [same, expected] at lower
      exact lt_irrefl _ lower
    · intro old member
      rw [longer] at member
      rcases List.mem_append.mp member with earlier | added
      · exact kept old earlier
      · rw [List.mem_singleton.mp added]
        exact raised

/-! ### Runs -/

/-- A write of `append_message` leaves the row of its session but for the last question and
`updated_at`. -/
def KeepsPayload (start : Store) (steps : List (TwoPhase.Step Call)) : Prop :=
  ∀ before id after, steps = before ++ TwoPhase.Step.write id :: after →
    let state := (generationCalls.interleaved start).run before
    ∀ flight, state.waiting id = some flight →
      ∀ posting, flight.call.request = .appendMessage posting →
        ((generationCalls.step state (.write id)).store.row flight.call.sessionId).map
            Session.withoutPrompt =
          (state.store.row flight.call.sessionId).map Session.withoutPrompt

/-- The calls of a run lose no update: its store is that of a serial run of the calls that completed, a
version of an output specification is replaced once, and messages revert nothing. -/
def NoLostUpdates (start : Store) (steps : List (TwoPhase.Step Call)) : Prop :=
  (∃ order, order.Perm (generationCalls.completed start steps) ∧
    generationCalls.serial start order =
      .ok ((generationCalls.interleaved start).run steps).store) ∧
  ((generationCalls.completed start steps).filterMap Call.draftKey).Nodup ∧
  KeepsPayload start steps

variable {steps : List (TwoPhase.Step Call)}

theorem respects_undisturbed {start : Store} (respects : (generationCalls.interleaved start).Respects rowAsRead steps) :
    (generationCalls.interleaved start).Respects generationCalls.Undisturbed steps := by
  intro before step after split
  exact undisturbed_of_rowAsRead (flightsOk_run start before) (respects before step after split)

theorem replaced_run {start : Store}
    (respects : (generationCalls.interleaved start).Respects generationCalls.Undisturbed steps) :
    Replaced ((generationCalls.interleaved start).run steps).store (generationCalls.completed start steps) := by
  apply TwoPhase.completed_invariant Replaced _ _ respects
  · exact ⟨List.nodup_nil, by simp⟩
  · intro before after history call replaced performed
    exact replaced.step performed

theorem keepsPayload_run {start : Store}
    (respects : (generationCalls.interleaved start).Respects generationCalls.Undisturbed steps) :
    KeepsPayload start steps := by
  intro before id after split state flight waiting posting asked
  have effect := respects before (.write id) after split flight waiting
  simp only [TwoPhase.step, waiting]
  cases written : generationCalls.write state.store flight.call flight.view with
  | error => rfl
  | ok stored =>
    have performed : generationCalls.perform state.store flight.call = .ok stored := by
      rw [← written]
      exact effect
    rcases perform_rewrites performed with ⟨rfl, -⟩ | ⟨base, current, rewrites⟩
    · rfl
    · obtain ⟨revised, later, revision⟩ := rewrites.own
      simp only [current, later, Option.map_some, revision.posting posting asked]

/-- In every run whose writes find the row as they read it, no update is lost. -/
theorem undisturbed_runs_lose_no_update {start : Store} {steps : List (TwoPhase.Step Call)}
    (respects : (generationCalls.interleaved start).Respects rowAsRead steps) : NoLostUpdates start steps := by
  have undisturbed := respects_undisturbed respects
  refine ⟨⟨_, List.Perm.refl _, TwoPhase.serial_completed undisturbed⟩, ?_, ?_⟩
  · exact (replaced_run undisturbed).once
  · exact keepsPayload_run undisturbed

/-- A session of the new contract with version one of its output specification. -/
def draftedSession : Session :=
  { sessionId := "generation-session-1", tenantId := "acme", userId := "7"
    knowledgeBaseName := "manuals", templateVersionId := none, contractVersion := .outputSpecV1
    status := .awaitingPlan
    brief :=
      { purpose := "", scope := "", sourcePolicy := "", outputPolicy := "", missingDataPolicy := none
        inferencePolicy := none, clarificationAnswers := [], unresolvedRequirements := ""
        resolvedFields := "", allowedDerivations := [], confirmed := false, confidence := 0
        updatedAt := 0 }
    conversationId := none, initiatingTurnId := none, documentTaskId := none, workOrderId := none
    outputSpecId := some "spec-1", outputSpecVersion := some 1, outputSpecDraft := none
    documentPlanId := none, documentPlanVersion := none, lastQuestionId := none
    clarificationRevision := 0, createdAt := 0, updatedAt := 0 }

def draftedStore : Store :=
  { sessions := [draftedSession], messages := [] }

/-- A call that replaces version one by version two. -/
def secondVersion (json : String) (now : Nat) : Call :=
  { sessionId := "generation-session-1"
    now
    request := .updateOutputSpecDraft { outputSpecId := none, version := 2, json } 1 "awaiting_plan" }

/-- One draft after the other: the second is refused. -/
theorem undisturbed_runs_lose_no_update_samples :
    let steps : List (TwoPhase.Step Call) :=
      [.look 0 (secondVersion "left" 1), .write 0, .look 1 (secondVersion "right" 2), .write 1]
    (generationCalls.interleaved draftedStore).Respects rowAsRead steps ∧
      NoLostUpdates draftedStore steps := by
  intro steps
  have respects : (generationCalls.interleaved draftedStore).Respects rowAsRead steps :=
    Machine.RespectsFrom.respects (by decide)
  exact ⟨respects, undisturbed_runs_lose_no_update respects⟩

/-- Two drafts that expect the same version and read before either writes both succeed. -/
theorem concurrent_drafts_both_succeed :
    ¬ ∀ (start : Store) (steps : List (TwoPhase.Step Call)), NoLostUpdates start steps := by
  intro never
  have once := (never draftedStore [.look 0 (secondVersion "left" 1), .look 1 (secondVersion "right" 2),
    .write 0, .write 1]).2.1
  revert once
  decide

end HardwareDatabase.GenerationSessions
