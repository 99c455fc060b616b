/-
Module: HardwareDatabase.Proofs.SnapshotRoundTrip
Purpose: The way of a result envelope into a snapshot and back: it reads back as itself, unless its title is empty.
Trusted boundary: none
-/
import HardwareDatabase.ResultExports.Envelope
import HardwareDatabase.Relational.Table

namespace HardwareDatabase.ResultExports

open Python (Value Dict strip)
open Relational

/-! ### What is claimed of an envelope -/

/-- The JSON module gives a value back, and writes what it gives back as the same text. -/
def Runtime.Inverts (runtime : Runtime) (value : Value) : Prop :=
  runtime.loads (runtime.dumps value) = some value.plain ∧ runtime.dumps value.plain = runtime.dumps value

/-- The envelope that comes back from its JSON text. -/
def ResultEnvelope.plain (envelope : ResultEnvelope) : ResultEnvelope :=
  { envelope with
    tables := envelope.tables.map Dict.plain
    citations := envelope.citations.map Dict.plain
    metadata := envelope.metadata.plain
    blocks := envelope.blocks.map Dict.plain
    assets := envelope.assets.map Dict.plain }

/-- A snapshot survives: normalising twice is normalising once, the snapshot is created, it reads back with
the same content, and the same call later returns it again. -/
structure Survives (runtime : Runtime) (table : SnapshotTable) (call : CreateSnapshotCall) (now : Nat) :
    Prop where
  idempotent : ∀ content, call.envelope.normalized runtime = .ok content →
    content.normalized runtime = .ok content
  stored : ∃ content after snapshot read,
    call.envelope.normalized runtime = .ok content ∧
    createSnapshot runtime table call now = .ok (after, snapshot) ∧
    getSnapshot runtime after snapshot.row.ownerUserId snapshot.row.snapshotId = .ok (some read) ∧
    read.envelope.normalized runtime = .ok content.plain ∧
    ∀ later, createSnapshot runtime after call later = .ok (after, snapshot)

/-- The identifiers of a call are not blank. -/
structure CreateSnapshotCall.Named (call : CreateSnapshotCall) : Prop where
  owner : strip call.ownerUserId ≠ ""
  tenant : strip call.tenantId ≠ ""
  session : strip call.sessionId ≠ ""
  turn : strip call.turnId ≠ ""

/-- An integer beyond the floats that follows nothing but finite numbers. -/
def Overflows (values : List Value) : Prop :=
  ∃ before value after, values = before ++ .int value :: after ∧ fitsFloat value = false ∧
    ∀ other ∈ before, isNumber other = .ok true

/-- The types of a table can be found: its columns are a sequence, and either it states enough types, or it
has no column, or its rows are a sequence and no column meets an integer beyond the floats where it is looked
at as a number. -/
def Typable (table : Dict) : Prop :=
  ∃ columns, ((table.get "columns").orElse (.array [])).iterated = some columns ∧
    ((suppliedTypes table columns.length).isSome = true ∨ columns = [] ∨
      ∃ rows, ((table.get "rows").orElse (.array [])).iterated = some rows ∧
        ∀ columnIndex < columns.length, ¬ Overflows ((rows.map (cell columnIndex)).filter isFilled))

/-! ### Inferred types -/

private theorem overflows_cons {value : Value} {rest : List Value} :
    Overflows (value :: rest) ↔ (∃ number, value = .int number ∧ fitsFloat number = false) ∨
        (isNumber value = .ok true ∧ Overflows rest) := by
  constructor
  · rintro ⟨before, number, after, split, beyond, finite⟩
    cases before with
    | nil =>
      cases split
      exact .inl ⟨number, rfl, beyond⟩
    | cons head tail =>
      cases split
      exact .inr ⟨finite value (by simp), tail, number, after, rfl, beyond,
        fun other member => finite other (by simp [member])⟩
  · rintro (⟨number, rfl, beyond⟩ | ⟨first, before, number, after, rfl, beyond, finite⟩)
    · exact ⟨[], number, rest, rfl, beyond, by simp⟩
    · refine ⟨value :: before, number, after, rfl, beyond, ?_⟩
      simpa using ⟨first, finite⟩

private theorem allNumbers_ok_iff (values : List Value) :
    (∃ answer, allNumbers values = .ok answer) ↔ ¬ Overflows values := by
  induction values with
  | nil => exact ⟨by rintro - ⟨before, number, after, split, -⟩; simp at split, fun _ => ⟨true, rfl⟩⟩
  | cons value rest ih =>
    rw [overflows_cons, not_or, allNumbers]
    cases scanned : isNumber value with
    | error =>
      constructor
      · rintro ⟨answer, done⟩
        cases done
      · rintro ⟨bounded, -⟩
        cases value with
        | int number =>
          cases fits : fitsFloat number with
          | false => exact absurd ⟨number, rfl, fits⟩ bounded
          | true => simp [isNumber, fits] at scanned
        | _ => cases scanned
    | ok answer =>
      have bounded : ¬ ∃ number, value = .int number ∧ fitsFloat number = false := by
        rintro ⟨number, rfl, beyond⟩
        simp [isNumber, beyond] at scanned
      cases answer with
      | true => simpa [bounded, bind, Except.bind] using ih
      | false => simp [bounded, bind, Except.bind]

private theorem inferValueType_ok_iff (values : List Value) :
    (∃ answer, inferValueType values = .ok answer) ↔ ¬ Overflows (values.filter isFilled) := by
  unfold inferValueType
  by_cases empty : (values.filter isFilled).isEmpty = true
  · have none : ¬ Overflows (values.filter isFilled) := by
      rw [List.isEmpty_iff.mp empty]
      rintro ⟨before, number, after, split, -⟩
      simp at split
    simp [empty, none]
  · by_cases bools : (values.filter isFilled).all isBool = true
    · have none : ¬ Overflows (values.filter isFilled) := by
        rintro ⟨before, number, after, split, -, -⟩
        have truth := List.all_eq_true.mp bools (.int number) (by simp [split])
        cases truth
      simp [empty, bools, none]
    · rw [← allNumbers_ok_iff]
      simp only [empty, bools, if_neg, Bool.false_eq_true, not_false_eq_true]
      constructor
      · rintro ⟨answer, done⟩
        obtain ⟨numbers, scanned, -⟩ := exists_of_bind_eq_ok done
        exact ⟨numbers, scanned⟩
      · rintro ⟨numbers, scanned⟩
        rw [scanned]
        exact ⟨_, rfl⟩

/-! ### Tables with types -/

private theorem listOf_eq_ok_iff {value : Value} {items : List Value} :
    listOf value = .ok items ↔ value.iterated = some items := by
  unfold listOf
  cases value.iterated with
  | none => simp
  | some => simp

/-- A table carries the types that normalisation gives it. -/
structure Typed (table : Dict) (columns : List Value) (texts : List String) : Prop where
  listed : columnsOf table = .ok columns
  width : texts.length = columns.length
  types : table.get "value_types" = .array (texts.map .string)
  assigned : table.assign "value_types" (.array (texts.map .string)) = table

variable {runtime : Runtime}

private theorem normalizedTable_ok_iff (runtime : Runtime) (table : Dict) :
    (∃ typed, normalizedTable runtime table = .ok typed) ↔ Typable table := by
  unfold normalizedTable Typable columnsOf
  constructor
  · rintro ⟨typed, done⟩
    obtain ⟨columns, listed, done⟩ := exists_of_bind_eq_ok done
    obtain ⟨types, inferred, -⟩ := exists_of_bind_eq_ok done
    refine ⟨columns, listOf_eq_ok_iff.mp listed, ?_⟩
    unfold valueTypes at inferred
    cases supplied : suppliedTypes table columns.length with
    | some => exact .inl rfl
    | none =>
      rw [supplied] at inferred
      refine .inr ?_
      have each := exists_mapM_eq_ok_iff.mp ⟨types, inferred⟩
      cases columns with
      | nil => exact .inl rfl
      | cons =>
        obtain ⟨text, done⟩ := each 0 (by simp)
        obtain ⟨rows, rowsListed, -⟩ := exists_of_bind_eq_ok done
        refine .inr ⟨rows, listOf_eq_ok_iff.mp rowsListed, fun columnIndex inside => ?_⟩
        obtain ⟨text, done⟩ := each columnIndex (List.mem_range.mpr inside)
        obtain ⟨sameRows, again, done⟩ := exists_of_bind_eq_ok done
        rw [rowsListed] at again
        cases again
        exact (inferValueType_ok_iff _).mp ⟨text, done⟩
  · rintro ⟨columns, listed, typable⟩
    rw [listOf_eq_ok_iff.mpr listed]
    have inferred : ∃ types, valueTypes runtime table columns.length = .ok types := by
      unfold valueTypes
      cases supplied : suppliedTypes table columns.length with
      | some => exact ⟨_, rfl⟩
      | none =>
        refine exists_mapM_eq_ok_iff.mpr fun columnIndex member => ?_
        have inside := List.mem_range.mp member
        rcases typable with given | none | ⟨rows, rowsListed, bounded⟩
        · simp [supplied] at given
        · simp [none] at inside
        · obtain ⟨text, done⟩ := (inferValueType_ok_iff _).mpr (bounded columnIndex inside)
          refine ⟨text, ?_⟩
          rw [columnType, listOf_eq_ok_iff.mpr rowsListed]
          exact done
    obtain ⟨types, done⟩ := inferred
    refine ⟨table.assign "value_types" (.array (types.map .string)), ?_⟩
    simp only [bind, Except.bind, done]

variable {table : Dict}

private theorem length_valueTypes {width : Nat} {types : List String}
    (done : valueTypes runtime table width = .ok types) : types.length = width := by
  unfold valueTypes at done
  cases supplied : suppliedTypes table width with
  | some =>
    rw [supplied] at done
    cases done
    unfold suppliedTypes at supplied
    split at supplied
    · split at supplied
      · rename_i enough
        cases supplied
        simp [enough]
      · cases supplied
    · cases supplied
  | none =>
    rw [supplied] at done
    have same := (mapM_eq_ok_iff.mp done).length_eq
    rw [List.length_range] at same
    exact same.symm

private theorem normalizedTable_typed {typed : Dict} (done : normalizedTable runtime table = .ok typed) :
    ∃ columns texts, Typed typed columns texts := by
  unfold normalizedTable at done
  obtain ⟨columns, listed, done⟩ := exists_of_bind_eq_ok done
  obtain ⟨texts, inferred, done⟩ := exists_of_bind_eq_ok done
  cases done
  refine ⟨columns, texts, ?_, length_valueTypes inferred, Dict.get_assign_self _ _ _, Dict.assign_assign _ _ _⟩
  unfold columnsOf at listed ⊢
  rw [Dict.get_assign_of_ne (by decide)]
  exact listed

private theorem Typed.normalizedTable_eq {columns : List Value} {texts : List String}
    (typed : Typed table columns texts) (runtime : Runtime) : normalizedTable runtime table = .ok table := by
  have supplied : suppliedTypes table columns.length = some (texts.map .string) := by
    have all : (texts.map Value.string).take columns.length = texts.map .string :=
      List.take_of_length_le (by simp [typed.width])
    simp only [suppliedTypes, typed.types, List.length_map, typed.width, Nat.le_refl, if_true, all]
  have texts' : (texts.map Value.string).map runtime.str = texts := by
    rw [List.map_map]
    exact List.map_id texts
  unfold normalizedTable valueTypes
  rw [typed.listed]
  simp only [bind, Except.bind, supplied, texts', typed.assigned]

private theorem iterated_plain {value : Value} {items : List Value}
    (listed : (value.orElse (.array [])).iterated = some items) :
    ∃ others, (value.plain.orElse (.array [])).iterated = some others ∧ others.length = items.length := by
  cases value with
  | array elements =>
    rw [Value.plain_array]
    cases elements with
    | nil => exact ⟨items, listed, rfl⟩
    | cons =>
      simp only [Value.orElse, Value.truthy, List.isEmpty_cons, Bool.not_false, if_true, Value.iterated,
        Option.some.injEq, List.map_cons] at listed ⊢
      exact ⟨_, rfl, by simp [← listed]⟩
  | object entries =>
    rw [Value.plain, Value.plainEntries_eq_map]
    cases entries with
    | nil => exact ⟨items, listed, rfl⟩
    | cons =>
      simp only [Value.orElse, Value.truthy, List.isEmpty_cons, Bool.not_false, if_true, Value.iterated,
        Option.some.injEq, List.map_cons] at listed ⊢
      exact ⟨_, rfl, by simp [← listed]⟩
  | date => simp [Value.orElse, Value.truthy, Value.iterated] at listed
  | _ => exact ⟨items, listed, rfl⟩

private theorem Typed.plain {columns : List Value} {texts : List String}
    (typed : Typed table columns texts) : ∃ others, Typed table.plain others texts := by
  have listed : ((table.get "columns").orElse (.array [])).iterated = some columns :=
    listOf_eq_ok_iff.mp typed.listed
  obtain ⟨others, plainListed, width⟩ := iterated_plain listed
  refine ⟨others, ?_, typed.width.trans width.symm, ?_, ?_⟩
  · rw [columnsOf, Dict.get_plain]
    exact listOf_eq_ok_iff.mpr plainListed
  · rw [Dict.get_plain, typed.types, Value.plain_strings]
  · have assigned := congrArg Dict.plain typed.assigned
    rw [Dict.plain_assign, Value.plain_strings] at assigned
    exact assigned

/-! ### Envelopes with types -/

/-- A normalised envelope: its tables carry their types, and it has a version and a language. -/
structure ResultEnvelope.Typed (envelope : ResultEnvelope) : Prop where
  tables : ∀ table ∈ envelope.tables, ∃ columns texts, ResultExports.Typed table columns texts
  schemaVersion : envelope.schemaVersion ≠ ""
  language : envelope.language ≠ ""

private theorem textOr_ne {text default : String} (named : default ≠ "") : textOr text default ≠ "" := by
  unfold textOr
  split
  · exact named
  · assumption

private theorem textOr_eq_self {text default : String} (named : text ≠ "") : textOr text default = text :=
  if_neg named

variable {envelope : ResultEnvelope}

private theorem normalized_typed {content : ResultEnvelope}
    (done : envelope.normalized runtime = .ok content) : content.Typed := by
  unfold ResultEnvelope.normalized at done
  obtain ⟨tables, each, done⟩ := exists_of_bind_eq_ok done
  cases done
  refine ⟨?_, textOr_ne (by decide), textOr_ne (by decide)⟩
  intro typed member
  obtain ⟨index, inside, rfl⟩ := List.getElem_of_mem member
  have pairs := mapM_eq_ok_iff.mp each
  have same := pairs.length_eq
  exact normalizedTable_typed (pairs.get (same ▸ inside) inside)

private theorem ResultEnvelope.Typed.normalized_eq (typed : envelope.Typed)
    (runtime : Runtime) : envelope.normalized runtime = .ok envelope := by
  have tables : envelope.tables.mapM (normalizedTable runtime) = .ok envelope.tables := by
    apply mapM_eq_ok_iff.mpr
    apply List.forall₂_same.mpr
    intro table member
    obtain ⟨columns, texts, each⟩ := typed.tables table member
    exact each.normalizedTable_eq runtime
  unfold ResultEnvelope.normalized
  rw [tables]
  simp only [bind, Except.bind, textOr_eq_self typed.schemaVersion, textOr_eq_self typed.language]

private theorem ResultEnvelope.Typed.plain (typed : envelope.Typed) : envelope.plain.Typed := by
  refine ⟨?_, typed.schemaVersion, typed.language⟩
  intro table member
  obtain ⟨original, originalMember, rfl⟩ := List.mem_map.mp member
  obtain ⟨columns, texts, each⟩ := typed.tables original originalMember
  obtain ⟨others, plain⟩ := each.plain
  exact ⟨others, texts, plain⟩

private theorem normalized_ok_iff (runtime : Runtime) (envelope : ResultEnvelope) :
    (∃ content, envelope.normalized runtime = .ok content) ↔ ∀ table ∈ envelope.tables, Typable table := by
  have each : (∀ table ∈ envelope.tables, Typable table) ↔
      ∃ tables, envelope.tables.mapM (normalizedTable runtime) = .ok tables := by
    rw [exists_mapM_eq_ok_iff]
    exact forall₂_congr fun table _ => (normalizedTable_ok_iff runtime table).symm
  rw [each]
  unfold ResultEnvelope.normalized
  constructor
  · rintro ⟨content, done⟩
    obtain ⟨tables, done, -⟩ := exists_of_bind_eq_ok done
    exact ⟨tables, done⟩
  · rintro ⟨tables, done⟩
    rw [done]
    exact ⟨_, rfl⟩

private theorem title_of_normalized {content : ResultEnvelope}
    (done : envelope.normalized runtime = .ok content) : content.title = envelope.title := by
  unfold ResultEnvelope.normalized at done
  obtain ⟨tables, -, done⟩ := exists_of_bind_eq_ok done
  cases done
  rfl

/-! ### The way through the dictionary -/

private theorem plain_objects (entries : List Dict) :
    (Value.array (entries.map .object)).plain = .array ((entries.map Dict.plain).map .object) := by
  rw [Value.plain_array, List.map_map, List.map_map]
  rfl

private theorem toDict_plain (envelope : ResultEnvelope) : envelope.toDict.plain = envelope.plain.toDict := by
  simp only [ResultEnvelope.toDict, ResultEnvelope.fields, ResultEnvelope.plain, Value.plain,
    Value.plainEntries, ← plain_objects]
  rfl

private theorem dictsOf_objects (entries : List Dict) :
    ResultEnvelope.dictsOf (.array (entries.map .object)) = .ok entries := by
  have all : (entries.map Value.object).filterMap Value.dict? = entries := by
    rw [List.filterMap_map]
    exact List.filterMap_some
  cases entries with
  | nil => rfl
  | cons =>
    simp only [ResultEnvelope.dictsOf, Value.orElse, Value.truthy, List.map_cons, List.isEmpty_cons,
      Bool.not_false, if_true, listOf, Value.iterated, bind, Except.bind] at all ⊢
    rw [all]

private theorem textOf_string (runtime : Runtime) (text default : String) :
    ResultEnvelope.textOf runtime (.string text) default = textOr text default := by
  unfold ResultEnvelope.textOf textOr
  by_cases empty : text = ""
  · simp [empty, Value.truthy]
  · simp [empty, Value.truthy, Runtime.str]

private theorem get_fields (envelope : ResultEnvelope) : envelope.fields.get "title" = .string envelope.title ∧
      envelope.fields.get "query" = .string envelope.query ∧ envelope.fields.get "answer" = .string envelope.answer ∧
      envelope.fields.get "footer" = .string envelope.footer ∧
      envelope.fields.get "tables" = .array (envelope.tables.map .object) ∧
      envelope.fields.get "citations" = .array (envelope.citations.map .object) ∧
      envelope.fields.get "metadata" = .object envelope.metadata ∧
      envelope.fields.get "schema_version" = .string envelope.schemaVersion ∧
      envelope.fields.get "blocks" = .array (envelope.blocks.map .object) ∧
      envelope.fields.get "assets" = .array (envelope.assets.map .object) ∧
      envelope.fields.get "language" = .string envelope.language := by
  simp [ResultEnvelope.fields, Dict.get]

private theorem fromDict_toDict (runtime : Runtime) (envelope : ResultEnvelope) :
    ResultEnvelope.fromDict runtime envelope.toDict =
      .ok { envelope with
        title := textOr envelope.title "导出结果"
        schemaVersion := textOr envelope.schemaVersion "v1"
        language := textOr envelope.language "zh-CN" } := by
  have kept : ∀ text, textOr text "" = text := by
    intro text
    unfold textOr
    split
    · exact Eq.symm ‹_›
    · rfl
  obtain ⟨title, query, answer, footer, tables, citations, metadata, schemaVersion, blocks, assets,
    language⟩ := get_fields envelope
  simp only [ResultEnvelope.toDict, ResultEnvelope.fromDict, title, query, answer, footer, tables,
    citations, metadata, schemaVersion, blocks, assets, language, dictsOf_objects, textOf_string, kept,
    Value.dict?, Option.getD_some, bind, Except.bind]

/-! ### Snapshots -/

variable {table : SnapshotTable} {call : CreateSnapshotCall} {content : ResultEnvelope}

private theorem fromDict_stored (call : CreateSnapshotCall) (typed : content.Typed)
    (inverts : runtime.Inverts content.toDict)
    (snapshotId now : Nat) : ResultEnvelope.fromDict runtime
        ((runtime.loads (call.row runtime content snapshotId now).envelopeJson).getD (.object [])) =
      .ok { content.plain with title := textOr content.title "导出结果" } := by
  have loaded : runtime.loads (call.row runtime content snapshotId now).envelopeJson =
      some content.toDict.plain := inverts.1
  have plainTyped := typed.plain
  rw [loaded, Option.getD_some, toDict_plain, fromDict_toDict, textOr_eq_self plainTyped.schemaVersion,
    textOr_eq_self plainTyped.language]
  rfl

private theorem rowToSnapshot_eq (call : CreateSnapshotCall) (typed : content.Typed)
    (inverts : runtime.Inverts content.toDict)
    (titled : content.title ≠ "") (snapshotId now : Nat) :
    rowToSnapshot runtime (call.row runtime content snapshotId now) =
      .ok { row := call.row runtime content snapshotId now, envelope := content.plain } := by
  have stored := fromDict_stored call typed inverts snapshotId now
  rw [textOr_eq_self titled] at stored
  have hashed : runtime.sha256 (runtime.dumps content.plain.toDict) =
      (call.row runtime content snapshotId now).sourceHash := by
    rw [← toDict_plain, inverts.2]
    rfl
  unfold rowToSnapshot
  rw [stored]
  have same : ({ content.plain with title := content.title } : ResultEnvelope) = content.plain := rfl
  simp only [bind, Except.bind, same, typed.plain.normalized_eq runtime, hashed, if_true]
  split <;> rfl

private theorem envelope_of_rowToSnapshot {row : SnapshotRow} {snapshot : ResultSnapshot}
    (read : rowToSnapshot runtime row = .ok snapshot) :
    ResultEnvelope.fromDict runtime ((runtime.loads row.envelopeJson).getD (.object [])) = .ok snapshot.envelope ∧
      snapshot.row = row := by
  unfold rowToSnapshot at read
  obtain ⟨envelope, parsed, read⟩ := exists_of_bind_eq_ok read
  split at read
  · cases read
    exact ⟨parsed, rfl⟩
  · obtain ⟨content, -, read⟩ := exists_of_bind_eq_ok read
    split at read
    · cases read
      exact ⟨parsed, rfl⟩
    · cases read

private theorem asIdentifier_eq {value : String} (named : strip value ≠ "") : asIdentifier value = .ok (strip value) :=
  if_neg named

private theorem createSnapshot_fresh (named : call.Named)
    (fresh : table.ofTurn? (strip call.ownerUserId) (strip call.turnId) = none)
    (done : call.envelope.normalized runtime = .ok content) (now : Nat) : createSnapshot runtime table call now =
      (rowToSnapshot runtime (call.row runtime content table.nextId now)).map fun snapshot =>
        (table.record runtime call content now, snapshot) := by
  simp only [createSnapshot, asIdentifier_eq named.owner, asIdentifier_eq named.tenant,
    asIdentifier_eq named.session, asIdentifier_eq named.turn, done, fresh, bind, Except.bind]

@[simp] theorem record_rows (table : SnapshotTable) (runtime : Runtime) (call : CreateSnapshotCall)
    (content : ResultEnvelope) (now : Nat) : (table.record runtime call content now).rows =
      table.rows ++ [call.row runtime content table.nextId now] := rfl

private theorem createSnapshot_again (named : call.Named)
    (fresh : table.ofTurn? (strip call.ownerUserId) (strip call.turnId) = none)
    (done : call.envelope.normalized runtime = .ok content) (now later : Nat) :
    createSnapshot runtime (table.record runtime call content now) call later =
      (rowToSnapshot runtime (call.row runtime content table.nextId now)).map fun snapshot =>
        (table.record runtime call content now, snapshot) := by
  have found : (table.record runtime call content now).ofTurn?
      (strip call.ownerUserId) (strip call.turnId) = some (call.row runtime content table.nextId now) := by
    unfold SnapshotTable.ofTurn? at fresh ⊢
    rw [record_rows, List.find?_append, fresh]
    simp [CreateSnapshotCall.row]
  have same : (call.row runtime content table.nextId now).envelopeJson = runtime.dumps content.toDict := rfl
  simp only [createSnapshot, asIdentifier_eq named.owner, asIdentifier_eq named.tenant,
    asIdentifier_eq named.session, asIdentifier_eq named.turn, done, found, same, if_true, bind, Except.bind]

private theorem getSnapshot_recorded (runtime : Runtime) (table : SnapshotTable) (call : CreateSnapshotCall)
    (content : ResultEnvelope) (now : Nat) :
    getSnapshot runtime (table.record runtime call content now) (strip call.ownerUserId) table.nextId =
      (rowToSnapshot runtime (call.row runtime content table.nextId now)).map some := by
  have none : table.rows.find? (fun other =>
      other.snapshotId == table.nextId && other.ownerUserId == strip call.ownerUserId) = none := by
    apply List.find?_eq_none.mpr
    intro other member
    simp [Nat.ne_of_lt (table.below other member)]
  unfold getSnapshot
  rw [record_rows, List.find?_append, none]
  simp [CreateSnapshotCall.row]

/-- A snapshot survives exactly when its envelope has a title and its tables can be typed. -/
theorem snapshot_survives_iff (runtime : Runtime) (table : SnapshotTable) (call : CreateSnapshotCall)
    (now : Nat) (named : call.Named) (fresh : table.ofTurn? (strip call.ownerUserId) (strip call.turnId) = none)
    (inverts : ∀ content, call.envelope.normalized runtime = .ok content → runtime.Inverts content.toDict) :
    Survives runtime table call now ↔ call.envelope.title ≠ "" ∧ ∀ table ∈ call.envelope.tables, Typable table := by
  constructor
  · intro survives
    obtain ⟨content, after, snapshot, read, done, created, found, same, -⟩ := survives.stored
    refine ⟨?_, (normalized_ok_iff runtime call.envelope).mp ⟨content, done⟩⟩
    rw [createSnapshot_fresh named fresh done] at created
    obtain ⟨first, checked, answer⟩ := exists_of_map_eq_ok created
    cases answer
    obtain ⟨-, row⟩ := envelope_of_rowToSnapshot checked
    have recorded : getSnapshot runtime (table.record runtime call content now) (strip call.ownerUserId)
        table.nextId = .ok (some read) := by
      rw [row] at found
      exact found
    rw [getSnapshot_recorded] at recorded
    obtain ⟨second, again, answer⟩ := exists_of_map_eq_ok recorded
    cases answer
    obtain ⟨parsed, -⟩ := envelope_of_rowToSnapshot again
    rw [fromDict_stored call (normalized_typed done) (inverts content done), Except.ok.injEq] at parsed
    have title := title_of_normalized same
    rw [← parsed] at title
    intro untitled
    have bare : content.title = "" := (title_of_normalized done).trans untitled
    have stored : content.title = textOr content.title "导出结果" := title
    rw [bare] at stored
    exact textOr_ne (by decide) stored.symm
  · rintro ⟨titled, typable⟩
    obtain ⟨content, done⟩ := (normalized_ok_iff runtime call.envelope).mpr typable
    have typed := normalized_typed done
    have checked := rowToSnapshot_eq call typed (inverts content done)
      (by rw [title_of_normalized done]; exact titled) table.nextId now
    constructor
    case idempotent => exact fun other normal => (normalized_typed normal).normalized_eq runtime
    case stored =>
      refine ⟨content, table.record runtime call content now,
        { row := call.row runtime content table.nextId now, envelope := content.plain },
        { row := call.row runtime content table.nextId now, envelope := content.plain }, done, ?_, ?_,
        typed.plain.normalized_eq runtime, ?_⟩
      · rw [createSnapshot_fresh named fresh done, checked]
        rfl
      · refine (getSnapshot_recorded runtime table call content now).trans ?_
        rw [checked]
        rfl
      · intro later
        rw [createSnapshot_again named fresh done, checked]
        rfl

/-! ### An envelope with a title and one without -/

/-- An envelope with one table. -/
def sampleEnvelope (title : String) : ResultEnvelope where
  title := title
  query := ""
  answer := ""
  footer := ""
  tables := [[("columns", .array [.string "n"]), ("rows", .array [.array [.string "a"]])]]
  citations := []
  metadata := []
  schemaVersion := "v1"
  blocks := []
  assets := []
  language := "zh-CN"

/-- The envelope with the type of its column. -/
def sampleContent (title : String) : ResultEnvelope :=
  { sampleEnvelope title with
    tables := [[("columns", .array [.string "n"]), ("rows", .array [.array [.string "a"]]),
      ("value_types", .array [.string "text"])]] }

/-- The JSON text of the envelope. -/
def sampleText (title : String) : String :=
  "\x7b\"answer\":\"\",\"assets\":[],\"blocks\":[],\"citations\":[],\"footer\":\"\",\"language\":\"zh-CN\"," ++
    "\"metadata\":\x7b\x7d,\"query\":\"\",\"schema_version\":\"v1\",\"tables\":[" ++
    "\x7b\"columns\":[\"n\"],\"rows\":[[\"a\"]],\"value_types\":[\"text\"]\x7d],\"title\":\"" ++ title ++ "\"\x7d"

/-- The title in the dictionary of an envelope. -/
def sampleTitle (value : Value) : String :=
  match (value.dict?.getD []).get "title" with
  | .string text => text
  | _ => ""

/-- The JSON module and the digests on the texts of the envelope. -/
def sampleRuntime : Runtime where
  repr _ := ""
  dumps value := sampleText (sampleTitle value)
  loads text :=
    if text = sampleText "" then some (sampleContent "").toDict
    else if text = sampleText "报告" then some (sampleContent "报告").toDict
    else none
  sha256 text :=
    if text = sampleText "" then "26a47be485d99d4829cb8f076533dd7a6cfc9de290f90d89351b0c2c61576fd6"
    else if text = sampleText "报告" then "e9aa8ce0b494ce44f0a2044be7b06b20ca6e7ae24ee08a791657756b8b35a59e"
    else "cefad8fef6d402b91d0536a3e0cff8a5742e78c6a23a4cf9c0fba779a81a3a0d"

/-- The call for an envelope. -/
def sampleCall (title : String) : CreateSnapshotCall where
  ownerUserId := "7"
  tenantId := "default"
  departmentId := none
  knowledgeBaseName := none
  sessionId := "3"
  turnId := "turn-1"
  assistantMessageId := none
  envelope := sampleEnvelope title

/-- No snapshot yet. -/
def emptyTable : SnapshotTable where
  rows := []
  nextId := 0
  below := by simp

private theorem sampleCall_named (title : String) : (sampleCall title).Named := by
  constructor <;> simp only [sampleCall] <;> decide

private theorem sampleEnvelope_normalized (title : String) :
    (sampleEnvelope title).normalized sampleRuntime = .ok (sampleContent title) := by
  rfl

private theorem sampleRuntime_dumps (title : String) :
    sampleRuntime.dumps (sampleContent title).toDict = sampleText title := by
  have stored := (get_fields (sampleContent title)).1
  simp only [sampleRuntime, sampleTitle, ResultEnvelope.toDict, Value.dict?, Option.getD_some, stored]
  rfl

private theorem sampleRuntime_loads {title : String} (known : title = "" ∨ title = "报告") :
    sampleRuntime.loads (sampleText title) = some (sampleContent title).toDict := by
  have distinct : sampleText "报告" ≠ sampleText "" := by decide +kernel
  rcases known with rfl | rfl
  · simp only [sampleRuntime, if_true]
  · simp only [sampleRuntime, if_neg distinct, if_true]

private theorem sampleRuntime_inverts {title : String} (known : title = "" ∨ title = "报告")
    (content : ResultEnvelope) (done : (sampleEnvelope title).normalized sampleRuntime = .ok content) :
    sampleRuntime.Inverts content.toDict := by
  have same : sampleContent title = content :=
    Except.ok.inj ((sampleEnvelope_normalized title).symm.trans done)
  have plain : (sampleContent title).toDict.plain = (sampleContent title).toDict := rfl
  subst same
  rw [Runtime.Inverts, plain, sampleRuntime_dumps]
  exact ⟨sampleRuntime_loads known, rfl⟩

/-- An envelope with a title survives. -/
theorem titled_snapshot_survives : Survives sampleRuntime emptyTable (sampleCall "报告") 0 :=
  (snapshot_survives_iff sampleRuntime emptyTable (sampleCall "报告") 0 (sampleCall_named _) rfl
    (sampleRuntime_inverts (.inr rfl))).mpr
      ⟨by decide, (normalized_ok_iff sampleRuntime _).mp ⟨_, sampleEnvelope_normalized "报告"⟩⟩

/-- An envelope without a title fails the integrity check of the transaction that creates it. -/
theorem empty_title_lost : ¬ ∀ runtime table call now, CreateSnapshotCall.Named call →
    table.ofTurn? (strip call.ownerUserId) (strip call.turnId) = none →
    (∀ content, call.envelope.normalized runtime = .ok content → runtime.Inverts content.toDict) →
    Survives runtime table call now := by
  intro always
  have survives := always sampleRuntime emptyTable (sampleCall "") 0 (sampleCall_named _) rfl
    (sampleRuntime_inverts (.inl rfl))
  have refused : (createSnapshot sampleRuntime emptyTable (sampleCall "") 0).isOk = false := by
    decide +kernel
  obtain ⟨content, after, snapshot, read, -, created, -⟩ := survives.stored
  rw [created] at refused
  cases refused

end HardwareDatabase.ResultExports
