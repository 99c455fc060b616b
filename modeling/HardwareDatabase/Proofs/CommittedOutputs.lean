/-
Module: HardwareDatabase.Proofs.CommittedOutputs
Purpose: The manifest of a call that makes a sandbox task succeed: what is verified is the sanitised manifest, from
  which entries may be gone.
Trusted boundary: `str` gives a text back
-/
import HardwareDatabase.Proofs.TransitionCalls

namespace HardwareDatabase.Sandbox

open Python (strip clip lowerAscii Value Dict)
open Relational

variable {env : Environment}

/-! ### Cut texts -/

private theorem clip_clip (limit : Nat) (text : String) : clip limit (clip limit text) = clip limit text := by
  simp [clip, List.take_take]

private theorem length_clip (limit : Nat) (text : String) : (clip limit text).length = min limit text.length := by
  rw [clip, String.length_ofList, List.length_take, String.length_toList]

variable {text : String}

private theorem clip_eq_self {limit : Nat} (short : text.length ≤ limit) : clip limit text = text := by
  have whole : text.toList.take limit = text.toList := List.take_of_length_le (String.length_toList ▸ short)
  rw [clip, whole, String.ofList_toList]

private theorem clip_eq_self_of_lt {limit : Nat} (short : (clip limit text).length < limit) :
    clip limit text = text := by
  rw [length_clip] at short
  exact clip_eq_self (by omega)

private theorem clip_eq_empty_iff : clip 256 text = "" ↔ text = "" := by
  rw [← String.length_eq_zero_iff, length_clip, ← String.length_eq_zero_iff]
  omega

/-! ### Sanitised entries -/

/-- The artifact entries of a manifest, as its readers find them. -/
def entriesOf (manifest : Dict) : List Value :=
  (listed? manifest (.array [])).getD []

/-- What sanitising keeps of the fields of an entry. -/
def keptFields (env : Environment) (fields : Dict) : Dict :=
  manifestKeys.foldl (keepKey env fields) []

/-- The fields that say which artifact an entry is and whether it is committed. -/
def artifactKeys : List String :=
  ["artifact_id", "sha256", "state"]

/-- Two entries of one artifact in one state. -/
def SameArtifact (env : Environment) (entry other : Value) : Prop :=
  ∃ fields others, entry = .object fields ∧ other = .object others ∧
    ∀ key ∈ artifactKeys, Dict.textOf env fields key = Dict.textOf env others key

variable {key : String} {raw item : Dict}

private theorem get_keepKey_of_ne {other : String} (different : other ≠ key) :
    (keepKey env raw item key).get other = item.get other := by
  unfold keepKey
  split
  · split
    · split
      · rfl
      · exact Python.Dict.get_assign_of_ne different _ _
    · exact Python.Dict.get_assign_of_ne different _ _
  · rfl

private theorem get_keepKeys_of_notMem {keys : List String} (absent : key ∉ keys) :
    (keys.foldl (keepKey env raw) item).get key = item.get key := by
  induction keys generalizing item with
  | nil => rfl
  | cons head rest ih =>
    rw [List.mem_cons, not_or] at absent
    rw [List.foldl_cons, ih absent.2, get_keepKey_of_ne absent.1]

private theorem get_keepKey_self (other : key ≠ "size") : (keepKey env raw item key).get key =
      if raw.any (fun entry => entry.1 == key) then .string (clip 256 (Dict.textOf env raw key)) else item.get key := by
  unfold keepKey
  split
  · exact Python.Dict.get_assign_self key _ item
  · rfl

private theorem get_eq_null (absent : ¬ raw.any (fun entry => entry.1 == key) = true) : raw.get key = .null := by
  induction raw with
  | nil => rfl
  | cons entry rest ih =>
    simp only [List.any_cons, Bool.or_eq_true, beq_iff_eq, not_or] at absent
    rw [Python.Dict.get, if_neg absent.1, ih absent.2]

variable {fields : Dict}

private theorem textOf_of_get (texts : ∀ text, env.str (.string text) = text)
    (held : fields.get key = .string text) : Dict.textOf env fields key = text := by
  by_cases empty : text = ""
  · simp [Dict.textOf, held, Value.truthy, empty]
  · simp [Dict.textOf, held, Value.truthy, empty, texts]

private theorem get_keptFields (fields : Dict) {key : String} (asked : key ∈ artifactKeys) :
    (keptFields env fields).get key =
      if fields.any (fun entry => entry.1 == key) then .string (clip 256 (Dict.textOf env fields key)) else .null := by
  have distinct : manifestKeys.Nodup := by decide
  have listed : key ∈ manifestKeys ∧ key ≠ "size" := by
    revert key
    decide
  obtain ⟨before, after, split⟩ := List.append_of_mem listed.1
  rw [split, List.nodup_append, List.nodup_cons] at distinct
  have early : key ∉ before := fun member => distinct.2.2 key member key List.mem_cons_self rfl
  rw [keptFields, split, List.foldl_append, List.foldl_cons, get_keepKeys_of_notMem distinct.2.1.1,
    get_keepKey_self listed.2, get_keepKeys_of_notMem early]
  rfl

private theorem textOf_keptFields (texts : ∀ text, env.str (.string text) = text) (fields : Dict)
    (asked : key ∈ artifactKeys) :
    Dict.textOf env (keptFields env fields) key = clip 256 (Dict.textOf env fields key) := by
  have kept := @get_keptFields env fields key asked
  by_cases present : fields.any (fun entry => entry.1 == key) = true
  · rw [if_pos present] at kept
    exact textOf_of_get texts kept
  · rw [if_neg present] at kept
    simp [Dict.textOf, kept, get_eq_null present, Value.truthy, clip]

private theorem truthy_keptFields {fields : Dict} {key : String} (asked : key ∈ artifactKeys) :
    ((keptFields env fields).get key).truthy = true ↔ Dict.textOf env fields key ≠ "" := by
  rw [get_keptFields fields asked]
  by_cases present : fields.any (fun entry => entry.1 == key) = true
  · rw [if_pos present, Value.truthy, bne_iff_ne, ne_eq, clip_eq_empty_iff]
  · simp [if_neg present, Dict.textOf, get_eq_null present, Value.truthy]

private theorem safeItem?_eq_some_iff {raw item : Value} : safeItem? env raw = some item ↔
    ∃ fields, raw = .object fields ∧ Dict.textOf env fields "artifact_id" ≠ "" ∧
      item = .object (keptFields env fields) := by
  cases raw with
  | object fields =>
    have named := @truthy_keptFields env fields "artifact_id" (by decide)
    show (if ((keptFields env fields).get "artifact_id").truthy = true then
      some (Value.object (keptFields env fields)) else none) = some item ↔ _
    constructor
    · intro kept
      split at kept
      · rename_i present
        exact ⟨fields, rfl, named.mp present, (Option.some.inj kept).symm⟩
      · cases kept
    · rintro ⟨_, ⟨⟩, present, rfl⟩
      rw [if_pos (named.mpr present)]
  | _ => simp [safeItem?, Value.dict?]

private theorem entriesOf_items (items : List Value) : entriesOf [("items", .array items)] = items := by
  simp [entriesOf, listed?, Dict.getOr, Python.Dict.get]

private theorem entriesOf_safeManifest (manifest : Dict) :
    entriesOf (safeManifest env manifest) = ((entriesOf manifest).take 256).filterMap (safeItem? env) := by
  unfold safeManifest
  cases listed : listed? manifest (.array []) with
  | none =>
    rw [entriesOf, entriesOf, listed]
    rfl
  | some => rw [entriesOf_items, entriesOf, listed, Option.getD_some]

variable {manifest : Dict}

private theorem mem_entriesOf_safeManifest {item : Value} :
    item ∈ entriesOf (safeManifest env manifest) ↔ ∃ fields, .object fields ∈ (entriesOf manifest).take 256 ∧
      Dict.textOf env fields "artifact_id" ≠ "" ∧ item = .object (keptFields env fields) := by
  rw [entriesOf_safeManifest, List.mem_filterMap]
  constructor
  · rintro ⟨raw, member, kept⟩
    obtain ⟨fields, rfl, named, rfl⟩ := safeItem?_eq_some_iff.mp kept
    exact ⟨fields, member, named, rfl⟩
  · rintro ⟨fields, member, named, rfl⟩
    exact ⟨_, member, safeItem?_eq_some_iff.mpr ⟨fields, rfl, named, rfl⟩⟩

private theorem mem_entriesOf_stored (texts : ∀ text, env.str (.string text) = text) {item : Value} :
    item ∈ entriesOf (safeManifest env (safeManifest env manifest)) ↔
      ∃ fields, .object fields ∈ (entriesOf manifest).take 256 ∧ Dict.textOf env fields "artifact_id" ≠ "" ∧
        item = .object (keptFields env (keptFields env fields)) := by
  have bounded : (entriesOf (safeManifest env manifest)).length ≤ 256 := by
    rw [entriesOf_safeManifest]
    exact (List.length_filterMap_le _ _).trans (List.length_take_le _ _)
  rw [mem_entriesOf_safeManifest, List.take_of_length_le bounded]
  constructor
  · rintro ⟨kept, member, -, rfl⟩
    obtain ⟨fields, listed, named, same⟩ := mem_entriesOf_safeManifest.mp member
    cases same
    exact ⟨fields, listed, named, rfl⟩
  · rintro ⟨fields, listed, named, rfl⟩
    refine ⟨keptFields env fields, mem_entriesOf_safeManifest.mpr ⟨fields, listed, named, rfl⟩, ?_, rfl⟩
    rw [textOf_keptFields texts fields (by decide), ne_eq, clip_eq_empty_iff]
    exact named

/-! ### Committed entries -/

private theorem length_le_of_isDigest (digest : isDigest text = true) : text.length ≤ 71 := by
  simp only [isDigest, Bool.and_eq_true, beq_iff_eq] at digest
  have digits := digest.1
  have lower : (lowerAscii text).toList.length = text.length := by
    rw [lowerAscii, String.toList_ofList, List.length_map, String.length_toList]
  unfold withoutScheme at digits
  split at digits
  · rw [List.length_drop, lower] at digits
    omega
  · rw [lower] at digits
    omega

private theorem uncut_of_committed (texts : ∀ text, env.str (.string text) = text)
    (committed : itemCommitted env (.object (keptFields env fields)) = true) :
    clip 256 (Dict.textOf env fields "sha256") = Dict.textOf env fields "sha256" ∧
      clip 256 (Dict.textOf env fields "state") = Dict.textOf env fields "state" := by
  simp only [itemCommitted, Value.dict?, Bool.and_eq_true] at committed
  obtain ⟨⟨state, -⟩, digest⟩ := committed
  rw [textOf_keptFields texts fields (by decide)] at state digest
  constructor
  · have short := length_le_of_isDigest digest
    exact clip_eq_self_of_lt (by omega)
  · have short : (clip 256 (Dict.textOf env fields "state")).length < 256 := by
      simp only [List.contains_cons, List.contains_nil, Bool.or_false, Bool.or_eq_true, beq_iff_eq] at state
      rcases state with is | is <;> rw [is] <;> decide
    exact clip_eq_self_of_lt short

variable {entry : Value}

private theorem itemCommitted_congr {other : Value} (same : SameArtifact env entry other) :
    itemCommitted env entry = itemCommitted env other := by
  obtain ⟨fields, others, rfl, rfl, texts⟩ := same
  simp only [itemCommitted, Value.dict?, texts "artifact_id" (by decide), texts "sha256" (by decide),
    texts "state" (by decide)]

private theorem sameArtifact_kept (texts : ∀ text, env.str (.string text) = text)
    (committed : itemCommitted env (.object (keptFields env fields)) = true)
    (short : (Dict.textOf env fields "artifact_id").length ≤ 256) :
    SameArtifact env (.object fields) (.object (keptFields env fields)) := by
  obtain ⟨digest, state⟩ := uncut_of_committed texts committed
  refine ⟨_, _, rfl, rfl, ?_⟩
  intro key asked
  rw [textOf_keptFields texts fields asked]
  simp only [artifactKeys, List.mem_cons, List.not_mem_nil, or_false] at asked
  rcases asked with rfl | rfl | rfl
  · exact (clip_eq_self short).symm
  · exact digest.symm
  · exact state.symm

private theorem sameArtifact_keptTwice (texts : ∀ text, env.str (.string text) = text) (fields : Dict) :
    SameArtifact env (.object (keptFields env fields)) (.object (keptFields env (keptFields env fields))) := by
  refine ⟨_, _, rfl, rfl, ?_⟩
  intro key asked
  rw [textOf_keptFields texts (keptFields env fields) asked, textOf_keptFields texts fields asked, clip_clip]

private theorem SameArtifact.trans {first second third : Value} (left : SameArtifact env first second)
    (right : SameArtifact env second third) : SameArtifact env first third := by
  obtain ⟨fields, others, rfl, rfl, same⟩ := left
  obtain ⟨_, last, ⟨⟩, rfl, again⟩ := right
  exact ⟨fields, last, rfl, rfl, fun key asked => (same key asked).trans (again key asked)⟩

private theorem committed_safeManifest (committed : manifestCommitted env (safeManifest env manifest) = true) :
    manifest ≠ [] ∧ ∀ item ∈ entriesOf (safeManifest env manifest), itemCommitted env item = true := by
  constructor
  · rintro rfl
    cases committed
  · unfold safeManifest at committed ⊢
    cases listed : listed? manifest (.array []) with
    | none =>
      rw [listed] at committed
      cases committed
    | some =>
      rw [listed] at committed
      rw [entriesOf_items]
      simp only [manifestCommitted, listed?, Dict.getOr, List.any_cons, beq_self_eq_true, Bool.true_or, if_true,
        Python.Dict.get, List.isEmpty_cons, Bool.not_false, Bool.true_and, Bool.and_eq_true, List.all_eq_true]
        at committed
      exact committed.2

/-! ### Manifests that sanitising keeps

Sanitising drops entries without a name and cuts long texts; these manifests come through whole. -/

/-- An entry of a manifest that sanitising keeps: a mapping that names its artifact in at most 256 characters and
is one of the first 256 entries or repeats one of them. -/
def KeepsEntry (env : Environment) (manifest : Dict) (entry : Value) : Prop :=
  ∃ fields, entry = .object fields ∧ Dict.textOf env fields "artifact_id" ≠ "" ∧
    (Dict.textOf env fields "artifact_id").length ≤ 256 ∧
    ∃ kept ∈ (entriesOf manifest).take 256, SameArtifact env entry kept

/-- An entry that was verified and is stored. -/
def StandsIn (env : Environment) (stored : Dict) (entry : Value) : Prop :=
  itemCommitted env entry = true ∧ ∃ item ∈ entriesOf stored, SameArtifact env entry item

private theorem standsIn_of_keepsEntry (texts : ∀ text, env.str (.string text) = text)
    (committed : manifestCommitted env (safeManifest env manifest) = true) (keeps : KeepsEntry env manifest entry) :
    StandsIn env (safeManifest env (safeManifest env manifest)) entry := by
  obtain ⟨fields, rfl, named, short, kept, member, same⟩ := keeps
  obtain ⟨_, others, ⟨⟩, rfl, fieldTexts⟩ := same
  have name := fieldTexts "artifact_id" (by decide)
  have verified : itemCommitted env (.object (keptFields env others)) = true :=
    (committed_safeManifest committed).2 _ (mem_entriesOf_safeManifest.mpr ⟨others, member, name ▸ named, rfl⟩)
  have sameKept : SameArtifact env (.object fields) (.object (keptFields env others)) :=
    SameArtifact.trans ⟨fields, others, rfl, rfl, fieldTexts⟩ (sameArtifact_kept texts verified (name ▸ short))
  refine ⟨(itemCommitted_congr sameKept).trans verified, _, ?_, sameKept.trans (sameArtifact_keptTwice texts others)⟩
  exact (mem_entriesOf_stored texts).mpr ⟨others, member, name ▸ named, rfl⟩

private theorem keepsEntry_of_standsIn (texts : ∀ text, env.str (.string text) = text)
    (committed : manifestCommitted env (safeManifest env manifest) = true)
    (stands : ∀ entry ∈ entriesOf manifest, StandsIn env (safeManifest env (safeManifest env manifest)) entry)
    (member : entry ∈ entriesOf manifest) : KeepsEntry env manifest entry := by
  -- the name of a stored entry has been cut, so every name of the manifest is short
  have cut : ∀ entry ∈ entriesOf manifest, ∃ fields others, entry = .object fields ∧
      .object others ∈ (entriesOf manifest).take 256 ∧ Dict.textOf env others "artifact_id" ≠ "" ∧
        ∀ key ∈ artifactKeys, Dict.textOf env fields key = clip 256 (Dict.textOf env others key) := by
    intro entry member
    obtain ⟨-, item, stored, fields, kept, rfl, rfl, same⟩ := stands entry member
    obtain ⟨others, listed, named, again⟩ := (mem_entriesOf_stored texts).mp stored
    cases again
    refine ⟨fields, others, rfl, listed, named, ?_⟩
    intro key asked
    rw [same key asked, textOf_keptFields texts _ asked, textOf_keptFields texts others asked, clip_clip]
  have short : ∀ fields, .object fields ∈ entriesOf manifest →
      (Dict.textOf env fields "artifact_id").length ≤ 256 := by
    intro fields member
    obtain ⟨_, others, ⟨⟩, -, -, same⟩ := cut _ member
    rw [same "artifact_id" (by decide), length_clip]
    exact Nat.min_le_left _ _
  obtain ⟨fields, others, rfl, listed, named, same⟩ := cut entry member
  have verified : itemCommitted env (.object (keptFields env others)) = true :=
    (committed_safeManifest committed).2 _ (mem_entriesOf_safeManifest.mpr ⟨others, listed, named, rfl⟩)
  obtain ⟨_, _, ⟨⟩, ⟨⟩, uncut⟩ := sameArtifact_kept texts verified (short others (List.mem_of_mem_take listed))
  have sameTexts : ∀ key ∈ artifactKeys, Dict.textOf env fields key = Dict.textOf env others key := by
    intro key asked
    calc Dict.textOf env fields key
        _ = clip 256 (Dict.textOf env others key) := same key asked
        _ = Dict.textOf env (keptFields env others) key := (textOf_keptFields texts others asked).symm
        _ = Dict.textOf env others key := (uncut key asked).symm
  refine ⟨fields, rfl, ?_, short fields member, _, listed, fields, others, rfl, rfl, sameTexts⟩
  rw [sameTexts "artifact_id" (by decide)]
  exact named

/-! ### Calls that make a task succeed -/

/-- What a call that brings a manifest owes a state: when it makes a task succeed, every entry of the manifest was
verified and is stored, and when it asks for a success with an entry that is not committed, it is refused and the
tables stay. -/
structure CommitsWhole (env : Environment) (state : State) (call : TransitionCall) (manifest : Dict) : Prop where
  stored : ∀ before ∈ state.db.tasks, ∀ after row, transition env state.db call state.clock = .ok (after, row) →
    row.taskId = before.taskId → before.status ≠ .succeeded → row.status = .succeeded →
      ∀ entry ∈ entriesOf manifest, StandsIn env row.outputManifest entry
  refused : ∀ before ∈ state.db.tasks, before.taskId = call.taskId → before.status ≠ .succeeded →
    TaskStatus.named? (strip call.toStatus) = some .succeeded →
      (∃ entry ∈ entriesOf manifest, itemCommitted env entry = false) →
        (∃ failure, transition env state.db call state.clock = .error failure) ∧
          state.tables env (.transition call) = state.db

private theorem manifest_of_success {call : TransitionCall} {before : Task} {stored : Option Dict}
    (clock : Nat) (brings : call.outputManifest = some manifest)
    (manifested : call.manifest env before .succeeded = .ok stored) : manifest = [] ∨
      (overflows env manifest = false ∧ manifestCommitted env (safeManifest env manifest) = true) ∧
        (call.moved env .succeeded stored clock before).outputManifest =
          safeManifest env (safeManifest env manifest) := by
  cases manifest with
  | nil => exact .inl rfl
  | cons =>
    right
    unfold TransitionCall.manifest at manifested
    rw [if_pos rfl, brings] at manifested
    simp only [Option.getD_some, manifestOr, List.isEmpty_cons, Bool.false_eq_true, if_false] at manifested
    split at manifested
    · cases manifested
    rename_i finite
    split at manifested
    · cases manifested
    · rename_i passed
      cases manifested
      simp only [Bool.or_eq_true, Bool.not_eq_true', not_or, Bool.not_eq_false] at passed
      exact ⟨⟨Bool.eq_false_iff.mpr finite, passed.2⟩, rfl⟩

private theorem standsIn_of_success (texts : ∀ text, env.str (.string text) = text)
    (kept : overflows env manifest = false → manifestCommitted env (safeManifest env manifest) = true →
      ∀ entry ∈ entriesOf manifest, KeepsEntry env manifest entry)
    {db after : Database} (keyed : db.IsKeyed) {call : TransitionCall} (brings : call.outputManifest = some manifest)
    {clock : Nat} {before row : Task} (member : before ∈ db.tasks)
    (done : transition env db call clock = .ok (after, row)) (same : row.taskId = before.taskId)
    (pending : before.status ≠ .succeeded) (success : row.status = .succeeded) :
    ∀ entry ∈ entriesOf manifest, StandsIn env row.outputManifest entry := by
  intro entry listed
  cases (transition_eq_ok_iff keyed).mp done with
  | repeated _ names finds =>
    obtain rfl := keyed.eq_of_key finds.member member same
    exact absurd success pending
  | moved task target stored names finds other edge manifested =>
    obtain rfl : target = .succeeded := success
    rcases manifest_of_success clock brings manifested with rfl | ⟨committed, written⟩
    · cases listed
    · rw [written]
      exact standsIn_of_keepsEntry texts committed.2 (kept committed.1 committed.2 entry listed)

private theorem exists_collecting (env : Environment) :
    ∃ ops, ∃ task ∈ ((ledger env).run ops).db.tasks, task.status = .collecting := by
  refine ⟨[.create .sample "t" "" "" 0, .transition { taskId := "t", toStatus := "queued" },
    .transition { taskId := "t", toStatus := "running" },
    .transition { taskId := "t", toStatus := "collecting" }], _, List.Mem.head _, rfl⟩

private theorem keepsEntry_of_commitsWhole (texts : ∀ text, env.str (.string text) = text) {manifest : Dict}
    (whole : ∀ ops call, call.outputManifest = some manifest → CommitsWhole env ((ledger env).run ops) call manifest)
    (finite : overflows env manifest = false) (committed : manifestCommitted env (safeManifest env manifest) = true) :
    ∀ entry ∈ entriesOf manifest, KeepsEntry env manifest entry := by
  obtain ⟨ops, task, member, collecting⟩ := exists_collecting env
  let call : TransitionCall := { taskId := task.taskId, toStatus := "succeeded", outputManifest := some manifest }
  have present : manifest.isEmpty = false := List.isEmpty_eq_false_iff.mpr (committed_safeManifest committed).1
  have filled : (safeManifest env manifest).isEmpty = false := by
    rw [manifestCommitted, Bool.and_eq_true, Bool.not_eq_true'] at committed
    exact committed.1
  have manifested : call.manifest env task .succeeded = .ok (some (safeManifest env manifest)) := by
    simp [call, TransitionCall.manifest, manifestOr, present, filled, finite, committed]
  have names : TaskStatus.named? (strip call.toStatus) = some .succeeded := by
    show TaskStatus.named? (strip "succeeded") = _
    decide
  have finds : call.Finds ((ledger env).run ops).db task ((ledger env).run ops).clock := ⟨member, rfl, rfl, rfl⟩
  have done := (transition_eq_ok_iff (run_keyed ops)).mpr (.moved task .succeeded _ names finds
    (by rw [collecting]; decide) (by rw [collecting]; decide) manifested)
  intro entry listed
  refine keepsEntry_of_standsIn texts committed ?_ listed
  exact (whole ops call rfl).stored task member _ _ done rfl (by rw [collecting]; decide) rfl

/-- In every run, every call that brings a manifest commits it whole, if and only if sanitising the manifest raises,
it is refused once it is sanitised, or sanitising keeps each of its entries. -/
theorem success_commits_whole_iff (env : Environment) (texts : ∀ text, env.str (.string text) = text)
    (manifest : Dict) :
    (∀ ops call, call.outputManifest = some manifest → CommitsWhole env ((ledger env).run ops) call manifest) ↔
      (overflows env manifest = false → manifestCommitted env (safeManifest env manifest) = true →
        ∀ entry ∈ entriesOf manifest, KeepsEntry env manifest entry) := by
  constructor
  · exact keepsEntry_of_commitsWhole texts
  · intro kept ops call brings
    have keyed : ((ledger env).run ops).db.IsKeyed := run_keyed ops
    refine ⟨?_, ?_⟩
    · intro before member after row done same pending success
      exact standsIn_of_success texts kept keyed brings member done same pending success
    · rintro before member named pending names ⟨entry, listed, unverified⟩
      cases done : transition env ((ledger env).run ops).db call ((ledger env).run ops).clock with
      | error failure =>
        refine ⟨⟨failure, rfl⟩, ?_⟩
        simp only [State.tables, Database.perform, handing, done, Except.map]
      | ok result =>
        obtain ⟨after, row⟩ := result
        have ended : row.taskId = before.taskId ∧ row.status = .succeeded := by
          cases (transition_eq_ok_iff keyed).mp done with
          | repeated _ found finds =>
            rw [names] at found
            exact ⟨finds.named.trans named.symm, (Option.some.inj found).symm⟩
          | moved task target stored found finds =>
            rw [names] at found
            exact ⟨finds.named.trans named.symm, (Option.some.inj found).symm⟩
        obtain ⟨verified, -⟩ :=
          standsIn_of_success texts kept keyed brings member done ended.1 pending ended.2 entry listed
        rw [unverified] at verified
        cases verified

/-- An artifact that the broker has committed. -/
def committedEntry : Value :=
  .object [("artifact_id", .string "a"),
    ("sha256", .string "e3b0c44298fc1c149afbf4c8996fb92427ae41e4649b934ca495991b7852b855"),
    ("state", .string "committed")]

/-- The success of a task that brings one committed artifact. -/
theorem one_artifact_commits_whole : CommitsWhole .default
      ((ledger .default).run [.create .sample "t" "" "" 0, .transition { taskId := "t", toStatus := "queued" },
        .transition { taskId := "t", toStatus := "running" },
        .transition { taskId := "t", toStatus := "collecting" }])
      { taskId := "t", toStatus := "succeeded", outputManifest := some [("items", .array [committedEntry])] }
      [("items", .array [committedEntry])] := by
  refine (success_commits_whole_iff .default (fun _ => rfl) _).mpr ?_ _ _ rfl
  intro _ _ entry listed
  rw [entriesOf_items, List.mem_singleton] at listed
  subst listed
  refine ⟨_, rfl, by decide, by decide, committedEntry, ?_, _, _, rfl, rfl, fun _ _ => rfl⟩
  rw [entriesOf_items]
  exact List.mem_singleton_self _

/-- An entry that names no artifact is dropped before the manifest is verified. -/
theorem unnamed_entry_dropped : ¬ ∀ (env : Environment), (∀ text, env.str (.string text) = text) →
    ∀ (ops : List Op) (call : TransitionCall) (manifest : Dict), call.outputManifest = some manifest →
      CommitsWhole env ((ledger env).run ops) call manifest := by
  intro always
  have kept := @keepsEntry_of_commitsWhole .default (fun _ => rfl) _
    (fun ops call => always .default (fun _ => rfl) ops call
      [("items", .array [committedEntry, .object [("filename", .string "b.txt")]])])
    (by decide +kernel) (by decide +kernel) (.object [("filename", .string "b.txt")]) (by simp [entriesOf_items])
  obtain ⟨_, ⟨⟩, named, -⟩ := kept
  exact named rfl

end HardwareDatabase.Sandbox
