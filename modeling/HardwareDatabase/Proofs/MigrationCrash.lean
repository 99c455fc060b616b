/-
Module: HardwareDatabase.Proofs.MigrationCrash
Purpose: What a crash inside `_migrate_template_nullable` leaves, and which rows the restart brings back.
Trusted boundary: none
-/
import HardwareDatabase.GenerationSessions.Migration
import Mathlib.Tactic.IntervalCases

namespace HardwareDatabase.GenerationSessions.Migration

open Relational

/-- After a crash when `count` statements of the migration had committed, the next initialisation
completes and its tables hold every original session and message. -/
def Survives (legacy : LegacyDatabase) (count : Nat) : Prop :=
  ∃ middle after, crashedAt legacy count = .ok middle ∧ initDb middle = .ok after ∧
    (∀ row ∈ legacy.database.sessionRows, row ∈ after.sessionRows) ∧
    (∀ row ∈ legacy.database.messageRows, row ∈ after.messageRows)

/-! ### Statements outside the rebuild -/

private theorem createOwnerIndex_spec {database : Database} {table : SessionTable}
    (stored : database.sessions = some table) :
    ∃ ownerIndex, createOwnerIndex database =
      .ok { database with sessions := some { table with ownerIndex } } := by
  rw [createOwnerIndex]
  split
  · refine ⟨table.ownerIndex, ?_⟩
    cases database
    simp_all
  · exact ⟨true, by rw [stored]⟩

private theorem createSessionIndex_spec {database : Database} {table : MessageTable}
    (stored : database.messages = some table) : ∃ sessionIndex, createSessionIndex database =
      .ok { database with messages := some { table with sessionIndex } } := by
  rw [createSessionIndex]
  split
  · refine ⟨table.sessionIndex, ?_⟩
    cases database
    simp_all
  · exact ⟨true, by rw [stored]⟩

private theorem createRequestIndex_spec {database : Database} {table : MessageTable}
    (stored : database.messages = some table) (keys : (requestKeys table.rows).Nodup) :
    ∃ requestIndex, createRequestIndex database =
      .ok { database with messages := some { table with requestIndex } } := by
  rw [createRequestIndex]
  split
  · refine ⟨table.requestIndex, ?_⟩
    cases database
    simp_all
  · refine ⟨true, ?_⟩
    rw [stored]
    simp only
    rw [if_pos keys]

private theorem script_spec (database : Database) :
    ∃ ownerIndex sessionIndex, execAll database script = .ok { database with
      sessions := some { database.sessions.getD newSessions with ownerIndex }
      messages := some { database.messages.getD (newMessages false) with sessionIndex } } := by
  obtain ⟨ownerIndex, owner⟩ := @createOwnerIndex_spec
    { database with sessions := some (database.sessions.getD newSessions) } _ rfl
  obtain ⟨sessionIndex, session⟩ := @createSessionIndex_spec
    { database with
      sessions := some { database.sessions.getD newSessions with ownerIndex }
      messages := some (database.messages.getD (newMessages false)) } _ rfl
  refine ⟨ownerIndex, sessionIndex, ?_⟩
  simp only [execAll, script, List.foldlM_cons, List.foldlM_nil, Statement.exec, owner, session, bind,
    Except.bind, pure, Except.pure]

private theorem rows_getD (database : Database) : (database.sessions.getD newSessions).rows = database.sessionRows ∧
      (database.messages.getD (newMessages false)).rows = database.messageRows := by
  constructor
  · cases stored : database.sessions <;> simp [Database.sessionRows, stored, newSessions]
  · cases stored : database.messages <;> simp [Database.messageRows, stored, newMessages]

private theorem needsMigration_getD (database : Database) :
    (database.sessions.getD newSessions).templateNotNull = needsMigration database := by
  cases stored : database.sessions <;> simp [needsMigration, stored, newSessions]

private theorem finish_spec {database : Database} {table : MessageTable}
    (stored : database.messages = some table) (keys : (requestKeys table.rows).Nodup) :
    ∃ after, execAll database [.ensureClientRequestId, .createRequestIndex] = .ok after ∧
      after.sessionRows = database.sessionRows ∧ after.messageRows = database.messageRows := by
  obtain ⟨requestIndex, created⟩ := @createRequestIndex_spec
    { database with messages := some { table with hasClientRequestId := true } } _ rfl keys
  refine ⟨{ database with
    messages := some { table with hasClientRequestId := true, requestIndex } }, ?_, rfl, ?_⟩
  · simp only [execAll, List.foldlM_cons, List.foldlM_nil, Statement.exec, stored, Option.map_some,
      created, bind, Except.bind, pure, Except.pure]
  · simp [Database.messageRows, stored]

private theorem initDb_settled {database : Database} (settled : needsMigration database = false)
    (keys : (requestKeys database.messageRows).Nodup) :
    ∃ after, initDb database = .ok after ∧ after.sessionRows = database.sessionRows ∧
      after.messageRows = database.messageRows := by
  obtain ⟨ownerIndex, sessionIndex, created⟩ := script_spec database
  obtain ⟨sessionRows, messageRows⟩ := rows_getD database
  have nullable := needsMigration_getD database
  rw [← messageRows] at keys
  obtain ⟨after, finished, keptSessions, keptMessages⟩ := @finish_spec
    { database with
      sessions := some { database.sessions.getD newSessions with ownerIndex }
      messages := some { database.messages.getD (newMessages false) with sessionIndex } } _ rfl keys
  refine ⟨after, ?_, keptSessions.trans sessionRows, keptMessages.trans messageRows⟩
  have skipped : needsMigration
      { database with
        sessions := some { database.sessions.getD newSessions with ownerIndex }
        messages := some { database.messages.getD (newMessages false) with sessionIndex } } = false := by
    rw [← settled, ← nullable]
    rfl
  simp only [initDb, created, migrateTemplateNullable, skipped, Bool.false_eq_true, if_false, finished,
    bind, Except.bind]

/-! ### The rebuild -/

private theorem LegacyDatabase.messageRows_spec (legacy : LegacyDatabase) :
    UniqueOn MessageRow.messageId legacy.database.messageRows ∧ (requestKeys legacy.database.messageRows).Nodup := by
  cases stored : legacy.messages with
  | none => simp [Database.messageRows, LegacyDatabase.database, stored, requestKeys]
  | some table =>
    have rows : legacy.database.messageRows = table.rows := by
      simp [Database.messageRows, LegacyDatabase.database, stored]
    rw [rows]
    exact ⟨legacy.messageKey table stored, legacy.requestKey table stored⟩

/-- Tables that hold the legacy rows and have not been rebuilt. -/
structure Unmigrated (legacy : LegacyDatabase) (sessions : SessionTable) (messages : MessageTable) :
    Prop where
  notNull : sessions.templateNotNull = true
  sessionRows : sessions.rows = legacy.database.sessionRows
  messageRows : messages.rows = legacy.database.messageRows
  noRequestKey : messages.hasClientRequestId = false → ∀ row ∈ messages.rows, row.clientRequestId = none

/-- The canonical tables. -/
def canonical (sessions : SessionTable) (messages : MessageTable) : Database :=
  { sessions := some sessions, sessionsLegacy := none, messages := some messages,
    messagesLegacy := none }

/-- The tables before the first rename: without their indexes. -/
def SessionTable.bare (table : SessionTable) : SessionTable :=
  { table with ownerIndex := false }

def MessageTable.bare (table : MessageTable) : MessageTable :=
  { table with sessionIndex := false, requestIndex := false }

section Rebuild

variable {legacy : LegacyDatabase} {sessions : SessionTable} {messages : MessageTable}

private theorem Unmigrated.copied (old : Unmigrated legacy sessions messages) :
    (if messages.hasClientRequestId then messages.rows
      else messages.rows.map fun row => { row with clientRequestId := none }) =
      legacy.database.messageRows := by
  split
  · exact old.messageRows
  · rename_i missing
    rw [← old.messageRows]
    conv_rhs => rw [← List.map_id messages.rows]
    apply List.map_congr_left
    intro row member
    have unkeyed := old.noRequestKey (by simpa using missing) row member
    simp [← unkeyed]

/-- The rebuilt tables. -/
def rebuiltSessions (legacy : LegacyDatabase) : SessionTable :=
  { newSessions with rows := legacy.database.sessionRows }

def rebuiltMessages (legacy : LegacyDatabase) : MessageTable :=
  { newMessages true with rows := legacy.database.messageRows }

/-- The database after a number of statements of the migration, as far as the rename of the messages is
among them. -/
def rebuilding (legacy : LegacyDatabase) (sessions : SessionTable) (messages : MessageTable) : Nat → Database
  | 5 => { sessions := some sessions.bare, sessionsLegacy := none, messages := none,
           messagesLegacy := some messages.bare }
  | 6 => { sessions := none, sessionsLegacy := some sessions.bare, messages := none,
           messagesLegacy := some messages.bare }
  | 7 => { sessions := some newSessions, sessionsLegacy := some sessions.bare, messages := none,
           messagesLegacy := some messages.bare }
  | 8 => { sessions := some (rebuiltSessions legacy), sessionsLegacy := some sessions.bare,
           messages := none, messagesLegacy := some messages.bare }
  | 9 => { sessions := some (rebuiltSessions legacy), sessionsLegacy := none, messages := none,
           messagesLegacy := some messages.bare }
  | 10 => { sessions := some (rebuiltSessions legacy), sessionsLegacy := none,
            messages := some (newMessages true), messagesLegacy := some messages.bare }
  | 11 => { sessions := some (rebuiltSessions legacy), sessionsLegacy := none,
            messages := some (rebuiltMessages legacy), messagesLegacy := some messages.bare }
  | 14 => canonical { rebuiltSessions legacy with ownerIndex := true } (rebuiltMessages legacy)
  | 15 => canonical { rebuiltSessions legacy with ownerIndex := true }
            { rebuiltMessages legacy with sessionIndex := true }
  | _ => canonical (rebuiltSessions legacy) (rebuiltMessages legacy)

section

variable (old : Unmigrated legacy sessions messages)
include old

/-- One statement of the migration after the rename of the messages. -/
theorem exec_rebuilding {count : Nat} (renamed : 5 ≤ count) (more : count < 15) :
    ∃ statement, migration[count]? = some statement ∧
      Statement.exec (rebuilding legacy sessions messages count) statement =
        .ok (rebuilding legacy sessions messages (count + 1)) := by
  have copied := old.copied
  have sessionKey : (legacy.database.sessionRows.map SessionRow.sessionId).Nodup := legacy.sessionKey
  have messageKey : (legacy.database.messageRows.map MessageRow.messageId).Nodup :=
    legacy.messageRows_spec.1
  interval_cases count <;> refine ⟨_, rfl, ?_⟩ <;>
    simp [rebuilding, Statement.exec, renameSessions, copySessions, copyMessages, createOwnerIndex,
      createSessionIndex, newSessions, newMessages, rebuiltSessions, rebuiltMessages, SessionTable.bare,
      MessageTable.bare, canonical, old.sessionRows, copied, sessionKey, messageKey]

private theorem execAll_rebuilding {count : Nat} (renamed : 5 ≤ count) (last : count ≤ 15) :
    execAll (canonical sessions messages) (migration.take count) = .ok (rebuilding legacy sessions messages count) := by
  induction count, renamed using Nat.le_induction with
  | base =>
    simp [execAll, migration, canonical, rebuilding, Statement.exec, renameMessages, SessionTable.bare,
      MessageTable.bare, bind, Except.bind, pure, Except.pure]
  | succ count renamed ih =>
    obtain ⟨statement, here, done⟩ := exec_rebuilding old renamed last
    have earlier := ih (Nat.le_of_succ_le last)
    unfold execAll at earlier ⊢
    rw [List.take_add_one, here, List.foldlM_append, earlier]
    simp [done, bind, Except.bind, pure, Except.pure]

private theorem execAll_unrenamed {count : Nat} (early : count ≤ 4) :
    ∃ sessions' messages', Unmigrated legacy sessions' messages' ∧
      execAll (canonical sessions messages) (migration.take count) = .ok (canonical sessions' messages') := by
  interval_cases count
  · exact ⟨sessions, messages, old, rfl⟩
  · exact ⟨sessions.bare, messages, ⟨old.notNull, old.sessionRows, old.messageRows, old.noRequestKey⟩, rfl⟩
  · exact ⟨sessions.bare, { messages with sessionIndex := false },
      ⟨old.notNull, old.sessionRows, old.messageRows, old.noRequestKey⟩, rfl⟩
  · exact ⟨sessions.bare, messages.bare, ⟨old.notNull, old.sessionRows, old.messageRows, old.noRequestKey⟩, rfl⟩
  · exact ⟨sessions.bare, messages.bare, ⟨old.notNull, old.sessionRows, old.messageRows, old.noRequestKey⟩, rfl⟩

private theorem script_unmigrated : ∃ sessions' messages', Unmigrated legacy sessions' messages' ∧
      execAll (canonical sessions messages) script = .ok (canonical sessions' messages') := by
  obtain ⟨ownerIndex, sessionIndex, created⟩ := script_spec (canonical sessions messages)
  exact ⟨{ sessions with ownerIndex }, { messages with sessionIndex },
    ⟨old.notNull, old.sessionRows, old.messageRows, old.noRequestKey⟩, created⟩

private theorem initDb_unmigrated : ∃ after, initDb (canonical sessions messages) = .ok after ∧
      after.sessionRows = legacy.database.sessionRows ∧ after.messageRows = legacy.database.messageRows := by
  obtain ⟨sessions', messages', old', created⟩ := script_unmigrated old
  have needed : needsMigration (canonical sessions' messages') = true := old'.notNull
  have rebuilt : execAll (canonical sessions' messages') migration =
      .ok (rebuilding legacy sessions' messages' 15) :=
    execAll_rebuilding old' (by decide) (Nat.le_refl 15)
  obtain ⟨after, finished, sessionRows, messageRows⟩ := @finish_spec
    (rebuilding legacy sessions' messages' 15) _ rfl legacy.messageRows_spec.2
  refine ⟨after, ?_, sessionRows, messageRows⟩
  simp only [initDb, created, migrateTemplateNullable, needed, if_true, rebuilt, finished, bind, Except.bind]

private theorem initDb_between_renames : initDb (rebuilding legacy sessions messages 5) = .error .tableExists := by
  obtain ⟨ownerIndex, sessionIndex, created⟩ := script_spec (rebuilding legacy sessions messages 5)
  simp only [initDb, created, bind, Except.bind, migrateTemplateNullable]
  have notNull := old.notNull
  simp [rebuilding, needsMigration, SessionTable.bare, notNull, execAll, migration, Statement.exec,
    renameMessages, bind, Except.bind]

end

end Rebuild

/-! ### Crash points

A crash keeps the statements before it, and the next start runs the script on what they left. -/

private theorem script_legacy (legacy : LegacyDatabase) : ∃ sessions messages, Unmigrated legacy sessions messages ∧
      execAll legacy.database script = .ok (canonical sessions messages) := by
  obtain ⟨ownerIndex, sessionIndex, created⟩ := script_spec legacy.database
  refine ⟨{ legacy.sessions with ownerIndex },
    { legacy.messages.getD (newMessages false) with sessionIndex }, ?_, created⟩
  refine ⟨legacy.notNull, rfl, (rows_getD legacy.database).2, ?_⟩
  intro missing row member
  cases stored : legacy.messages with
  | none => simp [stored, newMessages] at member
  | some table =>
    simp only [stored, Option.getD_some] at missing member
    exact legacy.noRequestKey table stored missing row member

private theorem crashedAt_eq {legacy : LegacyDatabase} {sessions : SessionTable} {messages : MessageTable}
    (old : Unmigrated legacy sessions messages)
    (created : execAll legacy.database script = .ok (canonical sessions messages)) (count : Nat) :
    crashedAt legacy count = execAll (canonical sessions messages) (migration.take count) := by
  have needed : needsMigration (canonical sessions messages) = true := old.notNull
  simp only [crashedAt, created, needed, if_true, bind, Except.bind]

private theorem survives_iff_subset {legacy : LegacyDatabase} {count : Nat} {middle after : Database}
    (crashed : crashedAt legacy count = .ok middle) (restarted : initDb middle = .ok after) :
    Survives legacy count ↔ (∀ row ∈ legacy.database.sessionRows, row ∈ after.sessionRows) ∧
        (∀ row ∈ legacy.database.messageRows, row ∈ after.messageRows) := by
  constructor
  · rintro ⟨middle', after', crashed', restarted', kept⟩
    rw [crashed] at crashed'
    cases crashed'
    rw [restarted] at restarted'
    cases restarted'
    exact kept
  · exact fun kept => ⟨middle, after, crashed, restarted, kept⟩

private theorem subset_nil {α : Type} {rows : List α} : (∀ row ∈ rows, row ∈ ([] : List α)) ↔ rows = [] := by
  simp [List.eq_nil_iff_forall_not_mem]

private theorem rebuilding_rows (legacy : LegacyDatabase) (sessions : SessionTable) (messages : MessageTable)
    {count : Nat} (renamed : 6 ≤ count) (last : count ≤ 15) :
    needsMigration (rebuilding legacy sessions messages count) = false ∧
      (rebuilding legacy sessions messages count).sessionRows =
        (if 8 ≤ count then legacy.database.sessionRows else []) ∧
      (rebuilding legacy sessions messages count).messageRows =
        (if 11 ≤ count then legacy.database.messageRows else []) := by
  interval_cases count <;> exact ⟨rfl, rfl, rfl⟩

private theorem survives_renamed (legacy : LegacyDatabase) {count : Nat} (renamed : 6 ≤ count) (last : count ≤ 15) :
    Survives legacy count ↔ (∀ row ∈ legacy.database.sessionRows,
        row ∈ if 8 ≤ count then legacy.database.sessionRows else []) ∧ (∀ row ∈ legacy.database.messageRows,
        row ∈ if 11 ≤ count then legacy.database.messageRows else []) := by
  obtain ⟨sessions, messages, old, created⟩ := script_legacy legacy
  have crashed : crashedAt legacy count = .ok (rebuilding legacy sessions messages count) := by
    rw [crashedAt_eq old created, execAll_rebuilding old (by omega) last]
  obtain ⟨settled, sessionRows, messageRows⟩ :=
    rebuilding_rows legacy sessions messages renamed last
  have keys : (requestKeys (rebuilding legacy sessions messages count).messageRows).Nodup := by
    rw [messageRows]
    split
    · exact legacy.messageRows_spec.2
    · exact List.nodup_nil
  obtain ⟨after, restarted, keptSessions, keptMessages⟩ := initDb_settled settled keys
  rw [survives_iff_subset crashed restarted, keptSessions, keptMessages, sessionRows, messageRows]

private theorem survives_early (legacy : LegacyDatabase) {count : Nat} (early : count ≤ 4) : Survives legacy count := by
  obtain ⟨sessions, messages, old, created⟩ := script_legacy legacy
  obtain ⟨sessions', messages', old', executed⟩ := execAll_unrenamed old early
  obtain ⟨after, restarted, sessionRows, messageRows⟩ := initDb_unmigrated old'
  have crashed : crashedAt legacy count = .ok (canonical sessions' messages') := by
    rw [crashedAt_eq old created, executed]
  apply (survives_iff_subset crashed restarted).mpr
  rw [sessionRows, messageRows]
  exact ⟨fun _ member => member, fun _ member => member⟩

private theorem not_survives_between (legacy : LegacyDatabase) : ¬ Survives legacy 5 := by
  rintro ⟨middle, after, crashed, restarted, -⟩
  obtain ⟨sessions, messages, old, created⟩ := script_legacy legacy
  rw [crashedAt_eq old created, execAll_rebuilding old (Nat.le_refl 5) (by decide)] at crashed
  cases crashed
  rw [initDb_between_renames old] at restarted
  cases restarted

private theorem survives_beyond (legacy : LegacyDatabase) {count : Nat} (beyond : 15 ≤ count) :
    Survives legacy count ↔ Survives legacy 15 := by
  have same : crashedAt legacy count = crashedAt legacy 15 := by
    have whole : migration.take count = migration.take 15 :=
      List.take_of_length_le (by simpa [migration] using beyond)
    simp only [crashedAt, whole]
  simp only [Survives, same]

/-- For every legacy content and every crash point: the next initialisation brings every session and
message back if and only if the messages had not been renamed yet, or they had been copied, or only the
messages were still to be copied and there are none, or the renames were done and there is nothing to
copy. -/
theorem survives_iff (legacy : LegacyDatabase) (count : Nat) : Survives legacy count ↔
      count ≤ 4 ∨ 11 ≤ count ∨ (8 ≤ count ∧ legacy.database.messageRows = []) ∨
        (6 ≤ count ∧ legacy.database.sessionRows = [] ∧ legacy.database.messageRows = []) := by
  by_cases early : count ≤ 4
  · simp only [early, true_or, iff_true]
    exact survives_early legacy early
  · by_cases copied : 11 ≤ count
    · simp only [copied, true_or, or_true, iff_true]
      have whole : ∀ last, 11 ≤ last → last ≤ 15 → Survives legacy last := by
        intro last messagesCopied inside
        rw [survives_renamed legacy (by omega) inside, if_pos (by omega), if_pos messagesCopied]
        exact ⟨fun _ member => member, fun _ member => member⟩
      by_cases inside : count ≤ 15
      · exact whole count copied inside
      · exact (survives_beyond legacy (by omega)).mpr (whole 15 (by decide) (Nat.le_refl 15))
    · by_cases between : count = 5
      · subst between
        have never := not_survives_between legacy
        constructor
        · exact fun survives => absurd survives never
        · omega
      · rw [survives_renamed legacy (by omega) (by omega), if_neg copied, subset_nil]
        simp only [early, copied, false_or]
        by_cases sessionsCopied : 8 ≤ count
        · rw [if_pos sessionsCopied]
          constructor
          · exact fun kept => Or.inl ⟨sessionsCopied, kept.2⟩
          · rintro (⟨-, empty⟩ | ⟨-, -, empty⟩) <;> exact ⟨fun _ member => member, empty⟩
        · rw [if_neg sessionsCopied, subset_nil]
          constructor
          · exact fun empty => Or.inr ⟨by omega, empty⟩
          · rintro (⟨late, -⟩ | ⟨-, empty⟩)
            · exact absurd late sessionsCopied
            · exact empty

/-- A legacy database with one session and one message. -/
def oneSession : LegacyDatabase where
  sessions :=
    { templateNotNull := true, ownerIndex := true
      rows := [{ sessionId := "generation-session-1", tenantId := "acme", userId := "7"
                 knowledgeBaseName := "manuals", templateVersionId := some "template-1"
                 status := "needs_clarification", createdAt := "2024-01-01T00:00:00+00:00"
                 updatedAt := "2024-01-01T00:00:00+00:00", payloadJson := "session" }] }
  messages := some
    { hasClientRequestId := true, sessionIndex := true, requestIndex := true
      rows := [{ messageId := "clarification-message-1", sessionId := "generation-session-1"
                 createdAt := "2024-01-01T00:00:00+00:00", clientRequestId := none
                 payloadJson := "message" }] }
  notNull := rfl
  sessionKey := by simp [UniqueOn]
  messageKey := by simp [UniqueOn]
  requestKey := by simp [requestKeys]
  noRequestKey := by simp

/-- A crash right after the renames leaves empty tables that the next initialisation takes as they
are. -/
theorem crash_after_renames_loses_rows : ¬ ∀ (legacy : LegacyDatabase) (count : Nat), Survives legacy count := by
  intro always
  obtain ⟨kept, -⟩ := (survives_renamed oneSession (Nat.le_refl 6) (by decide)).mp (always oneSession 6)
  have emptied : ∀ rows : List SessionRow, (if 8 ≤ 6 then rows else []) = [] := fun _ => if_neg (by decide)
  rw [emptied] at kept
  have lost := kept _ (List.mem_singleton.mpr rfl)
  cases lost

end HardwareDatabase.GenerationSessions.Migration
