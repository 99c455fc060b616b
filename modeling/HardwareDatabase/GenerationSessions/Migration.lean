/-
Module: HardwareDatabase.GenerationSessions.Migration
Purpose: The initialisation of `GenerationSessionStore` on a database of any age. The connection is in autocommit
  mode, so a crash leaves the statements before it. The columns that the sessions table gains later are left out.
Trusted boundary: none
-/
import HardwareDatabase.Relational.Table

namespace HardwareDatabase.GenerationSessions.Migration

open Relational

/-! ### Tables -/

/-- A row of the sessions table: the columns that the rebuild copies. -/
structure SessionRow where
  sessionId : String
  tenantId : String
  userId : String
  knowledgeBaseName : String
  templateVersionId : Option String
  status : String
  createdAt : String
  updatedAt : String
  payloadJson : String
deriving Repr, DecidableEq

/-- A row of the messages table. In a table without the column, the request key reads as `NULL`. -/
structure MessageRow where
  messageId : String
  sessionId : String
  createdAt : String
  clientRequestId : Option String
  payloadJson : String
deriving Repr, DecidableEq

/-- A sessions table with its index `idx_document_generation_sessions_owner`. -/
structure SessionTable where
  templateNotNull : Bool
  ownerIndex : Bool
  rows : List SessionRow
deriving Repr, DecidableEq

/-- A messages table with its indexes `.._messages_session` and `.._messages_request`. -/
structure MessageTable where
  hasClientRequestId : Bool
  sessionIndex : Bool
  requestIndex : Bool
  rows : List MessageRow
deriving Repr, DecidableEq

/-- The tables under their canonical names and under the names of the rebuild. -/
structure Database where
  sessions : Option SessionTable
  sessionsLegacy : Option SessionTable
  messages : Option MessageTable
  messagesLegacy : Option MessageTable
deriving Repr, DecidableEq

def Database.sessionRows (database : Database) : List SessionRow :=
  (database.sessions.map SessionTable.rows).getD []

def Database.messageRows (database : Database) : List MessageRow :=
  (database.messages.map MessageTable.rows).getD []

/-- What a statement raises. -/
inductive Failure
  | noSuchTable
  | tableExists
  | uniqueViolated
deriving Repr, DecidableEq

/-- The pairs of session and request key that the partial unique index covers. -/
def requestKeys (rows : List MessageRow) : List (String × String) :=
  rows.filterMap fun row => (row.clientRequestId.filter (· != "")).map fun key => (row.sessionId, key)

/-- A new sessions table, and a new messages table with or without the request key column. -/
def newSessions : SessionTable :=
  { templateNotNull := false, ownerIndex := false, rows := [] }

def newMessages (hasClientRequestId : Bool) : MessageTable :=
  { hasClientRequestId, sessionIndex := false, requestIndex := false, rows := [] }

/-! ### Statements -/

/-- The statements of the initialisation. -/
inductive Statement
  -- the script
  | createSessionsIfMissing
  | createOwnerIndex
  | createMessagesIfMissing
  | createSessionIndex
  -- the rebuild
  | dropOwnerIndex
  | dropSessionIndex
  | dropRequestIndex
  | foreignKeys (on : Bool)
  | renameMessages
  | renameSessions
  | createSessions
  | copySessions
  | dropSessionsLegacy
  | createMessages
  | copyMessages
  | dropMessagesLegacy
  -- after the rebuild
  | ensureClientRequestId
  | createRequestIndex
deriving Repr, DecidableEq

/-- `CREATE INDEX IF NOT EXISTS` on the sessions table: index names are those of the database. -/
def createOwnerIndex (database : Database) : Except Failure Database :=
  if (database.sessions.any (·.ownerIndex)) || (database.sessionsLegacy.any (·.ownerIndex)) then
    .ok database
  else
    match database.sessions with
    | none => .error .noSuchTable
    | some table => .ok { database with sessions := some { table with ownerIndex := true } }

def createSessionIndex (database : Database) : Except Failure Database :=
  if (database.messages.any (·.sessionIndex)) || (database.messagesLegacy.any (·.sessionIndex)) then
    .ok database
  else
    match database.messages with
    | none => .error .noSuchTable
    | some table => .ok { database with messages := some { table with sessionIndex := true } }

/-- `CREATE UNIQUE INDEX IF NOT EXISTS` fails on rows that share a key. -/
def createRequestIndex (database : Database) : Except Failure Database :=
  if (database.messages.any (·.requestIndex)) || (database.messagesLegacy.any (·.requestIndex)) then
    .ok database
  else
    match database.messages with
    | none => .error .noSuchTable
    | some table =>
      if (requestKeys table.rows).Nodup then
        .ok { database with messages := some { table with requestIndex := true } }
      else .error .uniqueViolated

/-- `ALTER TABLE document_generation_messages RENAME TO document_generation_messages_legacy`. -/
def renameMessages (database : Database) : Except Failure Database :=
  match database.messages, database.messagesLegacy with
  | none, _ => .error .noSuchTable
  | some _, some _ => .error .tableExists
  | some table, none => .ok { database with messages := none, messagesLegacy := some table }

/-- `ALTER TABLE document_generation_sessions RENAME TO document_generation_sessions_legacy`. -/
def renameSessions (database : Database) : Except Failure Database :=
  match database.sessions, database.sessionsLegacy with
  | none, _ => .error .noSuchTable
  | some _, some _ => .error .tableExists
  | some table, none => .ok { database with sessions := none, sessionsLegacy := some table }

/-- `INSERT INTO document_generation_sessions .. SELECT .. FROM document_generation_sessions_legacy`. -/
def copySessions (database : Database) : Except Failure Database :=
  match database.sessions, database.sessionsLegacy with
  | some table, some legacy =>
    let rows := table.rows ++ legacy.rows
    if (rows.map SessionRow.sessionId).Nodup then
      .ok { database with sessions := some { table with rows } }
    else .error .uniqueViolated
  | _, _ => .error .noSuchTable

/-- `INSERT INTO document_generation_messages .. SELECT ..`: the request key is copied where the legacy
table has the column. -/
def copyMessages (database : Database) : Except Failure Database :=
  match database.messages, database.messagesLegacy with
  | some table, some legacy =>
    let copied := if legacy.hasClientRequestId then legacy.rows
      else legacy.rows.map fun row => { row with clientRequestId := none }
    let rows := table.rows ++ copied
    if (rows.map MessageRow.messageId).Nodup then
      .ok { database with messages := some { table with rows } }
    else .error .uniqueViolated
  | _, _ => .error .noSuchTable

/-- One statement. -/
def Statement.exec (database : Database) : Statement → Except Failure Database
  | .createSessionsIfMissing =>
    .ok { database with sessions := some (database.sessions.getD newSessions) }
  | .createOwnerIndex => Migration.createOwnerIndex database
  | .createMessagesIfMissing =>
    .ok { database with messages := some (database.messages.getD (newMessages false)) }
  | .createSessionIndex => Migration.createSessionIndex database
  | .dropOwnerIndex =>
    .ok { database with
      sessions := database.sessions.map fun table => { table with ownerIndex := false }
      sessionsLegacy := database.sessionsLegacy.map fun table => { table with ownerIndex := false } }
  | .dropSessionIndex =>
    .ok { database with
      messages := database.messages.map fun table => { table with sessionIndex := false }
      messagesLegacy := database.messagesLegacy.map fun table => { table with sessionIndex := false } }
  | .dropRequestIndex =>
    .ok { database with
      messages := database.messages.map fun table => { table with requestIndex := false }
      messagesLegacy := database.messagesLegacy.map fun table => { table with requestIndex := false } }
  | .foreignKeys _ => .ok database
  | .renameMessages => Migration.renameMessages database
  | .renameSessions => Migration.renameSessions database
  | .createSessions =>
    if database.sessions.isSome then .error .tableExists
    else .ok { database with sessions := some newSessions }
  | .copySessions => Migration.copySessions database
  | .dropSessionsLegacy =>
    if database.sessionsLegacy.isNone then .error .noSuchTable
    else .ok { database with sessionsLegacy := none }
  | .createMessages =>
    if database.messages.isSome then .error .tableExists
    else .ok { database with messages := some (newMessages true) }
  | .copyMessages => Migration.copyMessages database
  | .dropMessagesLegacy =>
    if database.messagesLegacy.isNone then .error .noSuchTable
    else .ok { database with messagesLegacy := none }
  | .ensureClientRequestId =>
    .ok { database with
      messages := database.messages.map fun table => { table with hasClientRequestId := true } }
  | .createRequestIndex => Migration.createRequestIndex database

/-! ### The initialisation -/

/-- The `executescript` of `_init_db`. -/
def script : List Statement :=
  [.createSessionsIfMissing, .createOwnerIndex, .createMessagesIfMissing, .createSessionIndex]

/-- The statements of `_migrate_template_nullable`. -/
def migration : List Statement :=
  [.dropOwnerIndex, .dropSessionIndex, .dropRequestIndex, .foreignKeys false, .renameMessages,
    .renameSessions, .createSessions, .copySessions, .dropSessionsLegacy, .createMessages, .copyMessages,
    .dropMessagesLegacy, .foreignKeys true, .createOwnerIndex, .createSessionIndex]

/-- Statements one after the other; the first that raises ends the sequence. -/
def execAll (database : Database) (statements : List Statement) : Except Failure Database :=
  statements.foldlM Statement.exec database

/-- `int(template[3]) != 0` for the canonical sessions table. -/
def needsMigration (database : Database) : Bool :=
  database.sessions.any (·.templateNotNull)

/-- `_migrate_template_nullable`. -/
def migrateTemplateNullable (database : Database) : Except Failure Database :=
  if needsMigration database then execAll database migration else .ok database

/-- `_init_db`. -/
def initDb (database : Database) : Except Failure Database := do
  let database ← execAll database script
  let database ← migrateTemplateNullable database
  execAll database [.ensureClientRequestId, .createRequestIndex]

/-- A database from before the template became optional: the key columns are keys, and the request keys
of a table that has the column are unique. -/
structure LegacyDatabase where
  sessions : SessionTable
  messages : Option MessageTable
  notNull : sessions.templateNotNull = true
  sessionKey : UniqueOn SessionRow.sessionId sessions.rows
  messageKey : ∀ table ∈ messages, UniqueOn MessageRow.messageId table.rows
  requestKey : ∀ table ∈ messages, (requestKeys table.rows).Nodup
  noRequestKey : ∀ table ∈ messages, table.hasClientRequestId = false →
    ∀ row ∈ table.rows, row.clientRequestId = none

def LegacyDatabase.database (legacy : LegacyDatabase) : Database :=
  { sessions := some legacy.sessions, sessionsLegacy := none, messages := legacy.messages,
    messagesLegacy := none }

/-- The database after an initialisation that was interrupted when `count` statements of the migration
had committed. -/
def crashedAt (legacy : LegacyDatabase) (count : Nat) : Except Failure Database := do
  let database ← execAll legacy.database script
  if needsMigration database then execAll database (migration.take count) else return database

end HardwareDatabase.GenerationSessions.Migration
