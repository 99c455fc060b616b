/-
Module: HardwareDatabase.Proofs.FrozenInputs
Purpose: The fingerprint of a work order binds its frozen inputs: every accepted preimage shows them, or leaves out a
  default.
Trusted boundary: none
-/
import HardwareDatabase.Proofs.ContentHashes
import HardwareDatabase.WorkOrders.Fingerprints

namespace HardwareDatabase.WorkOrders

open Planning (ensure ensure_eq_ok)
open Python
open Relational
open Replanning (CollisionFree Mapping keyOrdered_map keyOrdered_mapping keyOrdered_texts texts_inj)

/-! ### The JSON of a field -/

private theorem nullable_injective {α : Type} {write : α → Value} (injective : Function.Injective write)
    (notNull : ∀ value, write value ≠ .null) : Function.Injective (nullable write) := by
  intro left right same
  cases left with
  | none =>
    cases right with
    | none => rfl
    | some second => exact absurd same.symm (notNull second)
  | some first =>
    cases right with
    | none => exact absurd same (notNull first)
    | some => exact congrArg some (injective same)

private theorem keyOrdered_nullable {α : Type} {write : α → Value} (each : ∀ value, (write value).KeyOrdered)
    (value : Option α) : (nullable write value).KeyOrdered := by
  cases value with
  | none => rfl
  | some value => exact each value

private theorem ScopeType.text_injective : Function.Injective ScopeType.text := by
  intro left right same
  cases left <;> cases right <;> simp [text] at same ⊢

private theorem TargetFormat.text_injective : Function.Injective TargetFormat.text := by
  intro left right same
  cases left <;> cases right <;> simp [text] at same ⊢

private theorem ExecutionMode.text_injective : Function.Injective ExecutionMode.text := by
  intro left right same
  cases left <;> cases right <;> simp [text] at same ⊢

private theorem OrderStatus.text_injective : Function.Injective OrderStatus.text := by
  intro left right same
  cases left <;> cases right <;> simp [text] at same ⊢

private theorem value_injective : Function.Injective Mapping.value := by
  intro left right same
  obtain ⟨entries, ordered⟩ := left
  obtain ⟨others, otherOrdered⟩ := right
  cases same
  rfl

private theorem string_injective : Function.Injective Value.string :=
  fun _ _ => Value.string.inj

private theorem Kind.json_injective (kind : Kind) : Function.Injective kind.json := by
  cases kind with
  | text => exact string_injective
  | optionalText => exact nullable_injective string_injective (by simp)
  | integer => exact fun _ _ => Value.int.inj
  | optionalPositive =>
    refine nullable_injective ?_ (by simp)
    intro left right same
    exact Subtype.ext (Int.natCast_inj.mp (Value.int.inj same))
  | optionalBool => exact nullable_injective (fun _ _ => Value.bool.inj) (by simp)
  | texts => exact fun _ _ => texts_inj.mp
  | mapping => exact value_injective
  | textMapping => exact value_injective.comp Subtype.val_injective
  | mappings =>
    intro left right same
    exact List.map_injective_iff.mpr value_injective (Value.array.inj same)
  | scopeType => exact string_injective.comp ScopeType.text_injective
  | targetFormat => exact string_injective.comp TargetFormat.text_injective
  | executionMode => exact string_injective.comp ExecutionMode.text_injective
  | optionalMode => exact nullable_injective (string_injective.comp ExecutionMode.text_injective) (by simp)
  | status => exact string_injective.comp OrderStatus.text_injective

private theorem Kind.keyOrdered_json (kind : Kind) (content : kind.Content) : (kind.json content).KeyOrdered := by
  cases kind with
  | optionalText | optionalPositive | optionalBool | optionalMode =>
    refine keyOrdered_nullable ?_ content
    exact fun _ => rfl
  | texts => exact keyOrdered_texts content
  | mapping => exact keyOrdered_mapping content
  | textMapping => exact keyOrdered_mapping content.val
  | mappings => exact keyOrdered_map keyOrdered_mapping content
  | text | integer | scopeType | targetFormat | executionMode | status => rfl

/-! ### Payloads -/

private theorem Field.names_sorted : (Field.all.map Field.name).Pairwise (· < ·) := by
  have chain : (Field.all.map Field.name).IsChain (· < ·) := by
    repeat refine .cons_cons (Dict.lt_of_chars (by decide)) ?_
    exact .singleton _
  exact List.isChain_iff_pairwise.mp chain

private theorem Field.name_injective : Function.Injective Field.name := by
  intro left right same
  have distinct : (Field.all.map Field.name).Nodup := names_sorted.imp fun before => ne_of_lt before
  exact List.inj_on_of_nodup_map distinct left.mem_all right.mem_all same

private theorem object_injective : Function.Injective object := by
  intro left right same
  refine List.map_injective_iff.mpr ?_ (Value.object.inj same)
  rintro ⟨field, value⟩ ⟨other, second⟩ entries
  obtain ⟨names, values⟩ := Prod.mk.inj entries
  exact Prod.ext (Field.name_injective names) values

private theorem tagged_injective {version : Int} : Function.Injective (tagged version) := by
  intro left right same
  have entries := Value.object.inj same
  refine object_injective ?_
  simpa using entries

private theorem preimage_injective (version : Int) : Function.Injective (preimage version) := by
  intro left right same
  unfold preimage at same
  split at same
  · exact tagged_injective same
  · split at same
    · exact tagged_injective same
    · exact object_injective same

/-- The fields of a payload are in the order of their names, and so are the keys of what it shows. -/
structure KeysInOrder (payload : List (Field × Value)) : Prop where
  fields : (payload.map Prod.fst).Sublist Field.all
  values : ∀ entry ∈ payload, entry.2.KeyOrdered

variable {payload : List (Field × Value)}

private theorem KeysInOrder.keyOrdered (inOrder : KeysInOrder payload) : (object payload).KeyOrdered := by
  refine Value.keyOrdered_object.mpr ⟨Dict.sorted_of_keys ?_, ?_⟩
  · have names : (payload.map fun entry => (entry.1.name, entry.2)).map Prod.fst =
        (payload.map Prod.fst).map Field.name := by
      simp [List.map_map, Function.comp_def]
    rw [names]
    exact Field.names_sorted.sublist (inOrder.fields.map Field.name)
  · intro entry member
    obtain ⟨origin, among, rfl⟩ := List.mem_map.mp member
    exact inOrder.values origin among

private theorem keyOrdered_preimage {version : Int} (inOrder : KeysInOrder payload) :
    (preimage version payload).KeyOrdered := by
  have tags (tag : Int) : (tagged tag payload).KeyOrdered := by
    have keys : ["frozen_inputs", "input_fingerprint_version"].IsChain (· < ·) :=
      .cons_cons (Dict.lt_of_chars (by decide)) (.singleton _)
    refine Value.keyOrdered_object.mpr ⟨Dict.sorted_of_chain keys, ?_⟩
    intro entry member
    rcases List.mem_pair.mp member with rfl | rfl
    · exact inOrder.keyOrdered
    · rfl
  unfold preimage
  split
  · exact tags 3
  · split
    · exact tags 2
    · exact inOrder.keyOrdered

variable {field : Field} {excluded : List Field}

section Payloads

variable {Digest : Type} {contentHash : Value → Digest} {order : DocumentWorkOrder Digest}

private theorem keysInOrder_modelDump (excluded : List Field) :
    KeysInOrder (modelDump order excluded) where
  fields := by
    have fields : (modelDump order excluded).map Prod.fst = Field.all.filter (· ∉ excluded) := by
      simp [modelDump, List.map_map, Function.comp_def]
    rw [fields]
    exact List.filter_sublist
  values := by
    intro entry member
    obtain ⟨field, -, rfl⟩ := List.mem_map.mp member
    exact Kind.keyOrdered_json _ _

private theorem keysInOrder_clearTask {payload : List (Field × Value)} (inOrder : KeysInOrder payload) :
    KeysInOrder (clearTask payload) where
  fields := by
    have fields : (clearTask payload).map Prod.fst = payload.map Prod.fst := by
      rw [clearTask, List.map_map]
      refine List.map_congr_left ?_
      intro entry _
      simp only [Function.comp_apply]
      split <;> rfl
    rw [fields]
    exact inOrder.fields
  values := by
    intro entry member
    obtain ⟨origin, among, rfl⟩ := List.mem_map.mp member
    by_cases task : origin.1 = .taskId
    · rw [if_pos task]
      rfl
    · rw [if_neg task]
      exact inOrder.values origin among

private theorem mem_modelDump {value : Value} :
    (field, value) ∈ modelDump order excluded ↔ field ∉ excluded ∧ value = order.json field := by
  rw [modelDump, List.mem_map]
  constructor
  · rintro ⟨shown, member, same⟩
    obtain ⟨rfl, rfl⟩ := Prod.mk.inj same
    exact ⟨by simpa using (List.mem_filter.mp member).2, rfl⟩
  · rintro ⟨kept, rfl⟩
    exact ⟨field, List.mem_filter.mpr ⟨field.mem_all, by simpa using kept⟩, rfl⟩

private theorem mem_clearTask (other : field ≠ .taskId)
    {value : Value} : (field, value) ∈ clearTask payload ↔ (field, value) ∈ payload := by
  rw [clearTask, List.mem_map]
  constructor
  · rintro ⟨entry, member, same⟩
    by_cases task : entry.1 = .taskId
    · rw [if_pos task] at same
      exact absurd ((Prod.mk.inj same).1.symm.trans task) other
    · rw [if_neg task] at same
      exact same ▸ member
  · intro member
    exact ⟨(field, value), member, if_neg other⟩

/-! ### What an accepted payload shows

A digest shows its payload, and the payload shows every frozen field. -/

/-- The fields that a fingerprint of a version binds. -/
def frozen (version : Int) (field : Field) : Prop :=
  field ≠ .taskId ∧
    field ∉ if 3 ≤ version then discard alwaysExcluded (.requestedExecutor :: planningReferences)
      else if 2 ≤ version then discard alwaysExcluded [.requestedExecutor] else alwaysExcluded

private theorem mem_discard {fields : List Field} :
    field ∈ discard excluded fields ↔ field ∈ excluded ∧ field ∉ fields := by
  rw [discard, List.mem_filter, decide_eq_true_eq]

private theorem unsaid_cases (unsaid : field ∈ unsaidFields order) :
    (field = .scopeType ∨ field = .knowledgeBaseName) ∧ order.scope = .project ∨
      (field = .generationSessionId ∨ field = .generationBrief) ∧
        order.value .generationSessionId = none ∧ order.value .generationBrief = .empty ∨
      field = .restartOfWorkOrderId ∧ order.value .restartOfWorkOrderId = none ∨
      field = .sourceScopeSnapshot ∧ order.value .sourceScopeSnapshot = "" ∨
      field = .attachmentRefsSnapshot ∧ order.value .attachmentRefsSnapshot = [] ∨
      field = .kbScopeSnapshot ∧ order.value .kbScopeSnapshot = .empty := by
  simp only [unsaidFields, List.mem_append, List.mem_ite_nil_right, List.mem_cons, List.not_mem_nil,
    or_false] at unsaid
  tauto

/-- What is left out while it says nothing has its default. -/
theorem default_of_unsaid (checked : checkFields order = .ok ())
    (unsaid : field ∈ unsaidFields order) (now : String) : field.default now = some (order.value field) := by
  rcases unsaid_cases unsaid with ⟨rfl | rfl, project⟩ | ⟨rfl | rfl, session, brief⟩ | ⟨rfl, none⟩ | ⟨rfl, none⟩ |
    ⟨rfl, none⟩ | ⟨rfl, none⟩
  · exact congrArg some project.symm
  · obtain ⟨_, -, checked⟩ := exists_of_bind_eq_ok checked
    obtain ⟨_, scope, -⟩ := exists_of_bind_eq_ok checked
    rw [checkScope, project] at scope
    obtain ⟨_, -, unnamed⟩ := exists_of_bind_eq_ok scope
    exact congrArg some (ensure_eq_ok unnamed).symm
  · exact congrArg some session.symm
  · exact congrArg some brief.symm
  all_goals exact congrArg some none.symm

/-- What a version takes back was never left out for saying nothing. -/
theorem discard_unsaid {fields : List Field} (apart : ∀ field ∈ fields,
    field ∉ [Field.scopeType, .knowledgeBaseName, .generationSessionId, .generationBrief, .restartOfWorkOrderId,
      .sourceScopeSnapshot, .attachmentRefsSnapshot, .kbScopeSnapshot]) :
    discard (alwaysExcluded ++ unsaidFields order) fields = discard alwaysExcluded fields ++ unsaidFields order := by
  rw [discard, List.filter_append]
  refine congrArg _ (List.filter_eq_self.mpr ?_)
  intro field unsaid
  rw [decide_eq_true_eq]
  intro member
  refine apart field member ?_
  rcases unsaid_cases unsaid with ⟨rfl | rfl, -⟩ | ⟨rfl | rfl, -⟩ | ⟨rfl, -⟩ | ⟨rfl, -⟩ | ⟨rfl, -⟩ | ⟨rfl, -⟩ <;>
    decide

/-- A payload shows a frozen field, or the field has its default. -/
def ShowsFrozen (order : DocumentWorkOrder Digest) (payload : List (Field × Value)) : Prop :=
  ∀ field, frozen order.version field →
    (∀ value, (field, value) ∈ payload ↔ value = order.json field) ∨
      (∀ value, (field, value) ∉ payload) ∧ field.default "" = some (order.value field)

private theorem unsaid_of_excluded (bound : frozen order.version field)
    (excluded : field ∈ excludedFields order) : field ∈ unsaidFields order := by
  have kept := bound.2
  unfold excludedFields at excluded
  split at excluded
  case isTrue third =>
    rw [if_pos third, mem_discard] at kept
    rw [mem_discard, List.mem_append] at excluded
    tauto
  case isFalse third =>
    rw [if_neg third] at kept
    split at excluded
    case isTrue second =>
      rw [if_pos second, mem_discard] at kept
      rw [mem_discard, List.mem_append] at excluded
      tauto
    case isFalse second =>
      rw [if_neg second] at kept
      exact (List.mem_append.mp excluded).resolve_left kept

private theorem showsFrozen_modelDump (checked : checkFields order = .ok ())
    (within : ∀ field, field ≠ .taskId → field ∈ excluded → field ∈ excludedFields order) :
    ShowsFrozen order (modelDump order excluded) := by
  intro field bound
  by_cases left : field ∈ excluded
  · refine .inr ⟨fun value member => (mem_modelDump.mp member).1 left, ?_⟩
    exact default_of_unsaid checked (unsaid_of_excluded bound (within field bound.1 left)) ""
  · exact .inl fun value => by simp [mem_modelDump, left]

private theorem ShowsFrozen.clearTask (shows : ShowsFrozen order payload) : ShowsFrozen order (clearTask payload) := by
  intro field bound
  simpa only [mem_clearTask bound.1] using shows field bound

private theorem eq_of_showsFrozen {other : DocumentWorkOrder Digest}
    (version : order.version = other.version) (shows : ShowsFrozen order payload)
    (otherShows : ShowsFrozen other payload) (bound : frozen order.version field) :
    order.value field = other.value field := by
  rcases shows field bound with shown | ⟨hidden, default⟩
  · rcases otherShows field (version ▸ bound) with otherShown | ⟨otherHidden, -⟩
    · have same : order.json field = other.json field := (otherShown _).mp ((shown _).mpr rfl)
      exact Kind.json_injective field.kind same
    · exact absurd ((shown _).mpr rfl) (otherHidden _)
  · rcases otherShows field (version ▸ bound) with otherShown | ⟨-, otherDefault⟩
    · exact absurd ((otherShown _).mpr rfl) (hidden _)
    · exact Option.some.inj (default.symm.trans otherDefault)

/-! ### The fingerprints of the callers -/

private theorem computeInputFingerprintV2_eq (second : order.version = 2) (versioned : checkVersion order = .ok ()) :
    computeInputFingerprintV2 contentHash order = .ok (contentHash (strictPreimage order)) := by
  have excluded := @discard_unsaid _ order [.requestedExecutor] (by decide)
  have executor : ensure ((order.value .requestedExecutor).isSome = true)
      "v2 input fingerprints require requested_executor" = .ok () := by
    rw [checkVersion, second] at versioned
    exact versioned
  rw [strictPreimage, preimage, excludedFields, second, computeInputFingerprintV2, executor]
  exact congrArg (fun fields => Except.ok (contentHash (tagged 2 (clearTask (modelDump order fields))))) excluded.symm

private theorem computeInputFingerprintV3_eq (third : order.version = 3) (versioned : checkVersion order = .ok ()) :
    computeInputFingerprintV3 contentHash order = .ok (contentHash (strictPreimage order)) := by
  have excluded := @discard_unsaid _ order (.requestedExecutor :: planningReferences) (by decide)
  rw [checkVersion, third] at versioned
  obtain ⟨⟨⟩, executor, planned⟩ := exists_of_bind_eq_ok versioned
  have referenced : ensure (hasPlanningReferences order = true)
      "v3 input fingerprints require accepted planning references" = .ok () :=
    if_pos (ensure_eq_ok planned)
  rw [strictPreimage, preimage, excludedFields, third, computeInputFingerprintV3, executor, referenced]
  exact congrArg (fun fields => Except.ok (contentHash (tagged 3 (clearTask (modelDump order fields))))) excluded.symm

end Payloads

/-! ### Accepted orders -/

section Accepted

variable {Digest : Type} [DecidableEq Digest] {contentHash : Value → Digest}
  {order result : DocumentWorkOrder Digest}

private theorem calculateInputFingerprint_eq_ok (accepted : calculateInputFingerprint contentHash order = .ok result) :
    checkFields order = .ok () ∧ checkVersion order = .ok () ∧
      (result = { order with inputFingerprint := some (contentHash (strictPreimage order)) } ∨
        result = order ∧ order.version < 3 ∧ ∃ preimage ∈
          [compatibilityPreimage order, legacyCompatibilityPreimage order, strictLegacyPreimage order],
          order.inputFingerprint = some (contentHash preimage)) := by
  obtain ⟨⟨⟩, checked, accepted⟩ := exists_of_bind_eq_ok accepted
  obtain ⟨⟨⟩, versioned, accepted⟩ := exists_of_bind_eq_ok accepted
  refine ⟨checked, versioned, ?_⟩
  cases fingerprint : order.inputFingerprint with
  | none =>
    simp only [fingerprint] at accepted
    cases accepted
    exact .inl rfl
  | some =>
    simp only [fingerprint] at accepted
    obtain ⟨⟨⟩, matched, accepted⟩ := exists_of_bind_eq_ok accepted
    cases accepted
    rcases ensure_eq_ok matched with rfl | ⟨older, matched⟩
    · rw [← fingerprint]
      exact .inl rfl
    · refine .inr ⟨rfl, older, ?_⟩
      simpa using matched

private theorem calculateInputFingerprint_of_checked (checked : checkFields order = .ok ())
    (versioned : checkVersion order = .ok ()) (unsigned : order.inputFingerprint = none ∨
      order.inputFingerprint = some (contentHash (strictPreimage order))) :
    calculateInputFingerprint contentHash order =
      .ok { order with inputFingerprint := some (contentHash (strictPreimage order)) } := by
  rw [calculateInputFingerprint, checked, versioned]
  rcases unsigned with none | same
  · simp only [none]
    rfl
  · simp only [same, ensure, true_or, if_true]
    rw [← same]
    rfl

private theorem exists_payload (accepted : calculateInputFingerprint contentHash order = .ok result) :
    result.value = order.value ∧ ∃ payload, ShowsFrozen result payload ∧ KeysInOrder payload ∧
      result.inputFingerprint = some (contentHash (preimage result.version payload)) := by
  obtain ⟨checked, -, rfl | ⟨rfl, -, shown, among, fingerprint⟩⟩ := calculateInputFingerprint_eq_ok accepted
  · refine ⟨rfl, _, (showsFrozen_modelDump checked fun _ _ => id).clearTask,
      keysInOrder_clearTask (keysInOrder_modelDump _), rfl⟩
  · refine ⟨rfl, ?_⟩
    have compatible : ∀ field ∈ compatibilityExcluded result, field ∈ excludedFields result := by
      intro field member
      unfold compatibilityExcluded at member
      split at member
      · exact (mem_discard.mp (mem_discard.mp member).1).1
      · exact (mem_discard.mp member).1
    have withTask {excluded : List Field} (within : ∀ field ∈ excluded, field ∈ excludedFields result) :
        ∀ field, field ≠ .taskId → field ∈ excluded ++ [.taskId] → field ∈ excludedFields result := by
      intro field other member
      rcases List.mem_append.mp member with member | member
      · exact within field member
      · exact absurd (List.mem_singleton.mp member) other
    simp only [List.mem_cons, List.not_mem_nil, or_false] at among
    rcases among with rfl | rfl | rfl
    · exact ⟨_, showsFrozen_modelDump checked fun field _ => compatible field, keysInOrder_modelDump _, fingerprint⟩
    · exact ⟨_, showsFrozen_modelDump checked (withTask compatible), keysInOrder_modelDump _, fingerprint⟩
    · exact ⟨_, showsFrozen_modelDump checked (withTask fun _ => id), keysInOrder_modelDump _, fingerprint⟩

private theorem construct_dump (now : String) :
    construct contentHash now order.dump = (calculateInputFingerprint contentHash order).mapError .invalid := by
  have complete : ∀ field ∈ Field.all,
      ((order.dump.value field).or (field.default now)).isSome = true := fun _ _ => rfl
  exact dif_pos complete

/-- The validator accepts what it returns. -/
theorem calculateInputFingerprint_again (accepted : calculateInputFingerprint contentHash order = .ok result) :
    calculateInputFingerprint contentHash result = .ok result := by
  obtain ⟨checked, versioned, rfl | ⟨rfl, -⟩⟩ := calculateInputFingerprint_eq_ok accepted
  · exact @calculateInputFingerprint_of_checked _ _ _ { order with inputFingerprint := some _ } checked versioned
      (.inr rfl)
  · exact accepted

private theorem exists_of_construct_eq_ok {now : String} {fields : GivenFields Digest}
    (built : construct contentHash now fields = .ok order) :
    ∃ origin : DocumentWorkOrder Digest, origin.inputFingerprint = fields.inputFingerprint ∧
      calculateInputFingerprint contentHash origin = .ok order := by
  unfold construct at built
  split at built
  case isTrue => exact ⟨⟨_, fields.inputFingerprint⟩, rfl, eq_ok_of_mapError built⟩
  case isFalse => cases built

/-- Orders of one version with the same fingerprint agree on what is frozen; a dump is accepted again with its
fingerprint; and the fingerprints that are assigned are those that the callers compute. -/
theorem fingerprints_bind_frozen_inputs (collisionFree : CollisionFree contentHash) :
    (∀ (now later : String) (fields others : GivenFields Digest) (left right : DocumentWorkOrder Digest),
      construct contentHash now fields = .ok left → construct contentHash later others = .ok right →
      left.version = right.version → left.inputFingerprint = right.inputFingerprint →
      ∀ field, frozen left.version field → left.value field = right.value field) ∧
    ∀ (now : String) (fields : GivenFields Digest) (order : DocumentWorkOrder Digest),
      construct contentHash now fields = .ok order → (∀ later, construct contentHash later order.dump = .ok order) ∧
      (order.version = 2 → fields.inputFingerprint = none →
        (computeInputFingerprintV2 contentHash order).map some = .ok order.inputFingerprint) ∧ (order.version = 3 →
        (computeInputFingerprintV3 contentHash order).map some = .ok order.inputFingerprint) := by
  refine ⟨?_, ?_⟩
  · intro now later fields others left right built otherBuilt version fingerprint field bound
    obtain ⟨_, -, accepted⟩ := exists_of_construct_eq_ok built
    obtain ⟨_, -, otherAccepted⟩ := exists_of_construct_eq_ok otherBuilt
    obtain ⟨-, payload, shows, inOrder, hashed⟩ := exists_payload accepted
    obtain ⟨-, other, otherShows, otherInOrder, otherHashed⟩ := exists_payload otherAccepted
    rw [hashed, otherHashed, ← version, Option.some.injEq] at fingerprint
    have same : payload = other := preimage_injective _
      (collisionFree _ _ (keyOrdered_preimage inOrder) (keyOrdered_preimage otherInOrder) fingerprint)
    exact eq_of_showsFrozen version shows (same ▸ otherShows) bound
  · intro now fields order built
    obtain ⟨origin, given, accepted⟩ := exists_of_construct_eq_ok built
    obtain ⟨-, versioned, signed⟩ := calculateInputFingerprint_eq_ok accepted
    refine ⟨?_, ?_, ?_⟩
    · intro later
      rw [construct_dump, calculateInputFingerprint_again accepted]
      rfl
    · intro second unsigned
      rcases signed with rfl | ⟨-, -, _, -, fingerprint⟩
      · exact congrArg (Except.map some) (computeInputFingerprintV2_eq second versioned)
      · cases unsigned.symm.trans (given.symm.trans fingerprint)
    · intro third
      rcases signed with rfl | ⟨rfl, older, -⟩
      · exact congrArg (Except.map some) (computeInputFingerprintV3_eq third versioned)
      · omega

end Accepted

/-- An order for the deterministic renderer with a fingerprint of the second version. -/
def draftFields : GivenFields Value where
  value
    | .projectId | .baselineId => some (some "P-1")
    | .targetFormat => some .docx
    | .executionMode => some .deterministicOnly
    | .requestedExecutor => some (some .deterministicOnly)
    | .inputFingerprintVersion => some 2
    | .workOrderId | .baselineContentHash | .sourceSetSnapshotId | .templateVersionId | .documentSchemaId
    | .documentSchemaVersion | .templateSchemaId | .templateSchemaVersion | .retrievalPolicyVersion
    | .rendererPolicyVersion | .createdBy => some "1"
    | _ => none
  inputFingerprint := none

/-- A draft is given its fingerprint, and the order is accepted again as it was dumped. -/
theorem draft_is_bound : ∃ order, construct id "2026-01-01" draftFields = .ok order ∧
    construct id "2026-01-02" order.dump = .ok order ∧
    (computeInputFingerprintV2 id order).map some = .ok order.inputFingerprint := by
  have complete : ∀ field ∈ Field.all,
      ((draftFields.value field).or (field.default "2026-01-01")).isSome = true := by decide
  let draft : DocumentWorkOrder Value :=
    ⟨fun field => ((draftFields.value field).or (field.default "2026-01-01")).get (complete field field.mem_all), none⟩
  have checked : checkFields draft = .ok () := rfl
  have versioned : checkVersion draft = .ok () := rfl
  have accepted := @calculateInputFingerprint_of_checked _ _ id draft checked versioned (.inl rfl)
  have built : construct id "2026-01-01" draftFields = _ :=
    (dif_pos complete).trans (congrArg (Except.mapError Rejection.invalid) accepted)
  have collisionFree : CollisionFree (id : Value → Value) := fun _ _ _ _ same => same
  obtain ⟨again, computed, -⟩ := (fingerprints_bind_frozen_inputs collisionFree).2 _ draftFields _ built
  exact ⟨_, built, again _, computed rfl rfl⟩

end HardwareDatabase.WorkOrders
