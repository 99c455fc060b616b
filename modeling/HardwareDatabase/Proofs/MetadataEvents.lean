/-
Module: HardwareDatabase.Proofs.MetadataEvents
Purpose: Whether the outbox tells a consumer the statuses of an artifact: an update is announced under a key made of
  its own hash.
Trusted boundary: none
-/
import HardwareDatabase.Artifacts.Metadata

namespace HardwareDatabase.Artifacts

open Python (Value Dict strip)
open Relational

/-! ### The consumer -/

/-- The validity and the regeneration status. -/
def Artifact.statuses (artifact : Artifact) : Value × Value :=
  (artifact.validityStatus, artifact.regenerationStatus)

/-- The statuses that an event reports. -/
def OutboxEvent.statuses (event : OutboxEvent) : Value × Value :=
  (event.payload.get "validity_status", event.payload.get "regeneration_status")

/-- The `metadata_updated` events of an artifact, in the order of their creation. -/
def metadataEvents (store : Store) (artifactId : String) : List OutboxEvent :=
  store.outbox.filter fun event => event.eventType == metadataUpdated && event.aggregateId == artifactId

/-- What a consumer has after the events, when it starts with these statuses. -/
def consumed (start : Value × Value) (events : List OutboxEvent) : Value × Value :=
  events.foldl (fun _ event => event.statuses) start

/-- An artifact that has just been saved: it is stored, and no update of it is announced. -/
structure SavedArtifact where
  store : Store
  artifact : Artifact
  stored : store.getArtifact artifact.artifactId = some artifact
  unannounced : metadataEvents store artifact.artifactId = []

/-- The consumer of the events has the statuses that the artifact has. -/
def Follows (saved : SavedArtifact) (store : Store) : Prop :=
  (store.getArtifact saved.artifact.artifactId).map Artifact.statuses =
    some (consumed saved.artifact.statuses (metadataEvents store saved.artifact.artifactId))

instance (saved : SavedArtifact) (store : Store) : Decidable (Follows saved store) :=
  inferInstanceAs (Decidable (_ = _))

/-- An update leaves the validity and the regeneration status as they are. -/
def KeepsStatuses (updates : Dict) (current : Artifact) : Prop :=
  given updates "validity_status" current.validityStatus = current.validityStatus ∧
    given updates "regeneration_status" current.regenerationStatus = current.regenerationStatus

/-- A call goes through: it names only fields that it may update, of a stored artifact that is valid, and its hash can
be computed. -/
structure Accepted (contentHash : Dict → Option String) (store : Store) (call : Call) (current : Artifact)
    (digest : String) : Prop where
  allowed : ∀ name ∈ call.updates.map Prod.fst, name ∈ allowedUpdates
  stored : store.getArtifact (strip call.artifactId) = some current
  valid : current.Validates
  hashed : contentHash call.updates = some digest

/-- If a call on the artifact goes through, its update has not been made before under this key, or leaves both statuses
as they are. -/
def Announced (contentHash : Dict → Option String) (saved : SavedArtifact) (store : Store) (call : Call) : Prop :=
  ∀ current digest, strip call.artifactId = saved.artifact.artifactId →
    Accepted contentHash store call current digest →
    eventKey saved.artifact.artifactId digest ∉ store.outbox.map (·.eventKey) ∨ KeepsStatuses call.updates current

/-! ### One call -/

variable {digest : String} {current : Artifact}

section Step

variable {contentHash : Dict → Option String} {saved : SavedArtifact} {store : Store} {call : Call}

private theorem step_of_accepted (accepted : Accepted contentHash store call current digest) :
    store.step contentHash call = ({ store with
          artifacts := updateWhere (fun artifact => artifact.artifactId == current.artifactId)
            (fun _ => current.modelCopy call.updates) store.artifacts } : Store).announce
        (metadataEvent (current.modelCopy call.updates) digest) := by
  have none : (call.updates.map Prod.fst).filter (fun name => decide (name ∉ allowedUpdates)) = [] := by
    rw [List.filter_eq_nil_iff]
    intro name member
    simpa using accepted.allowed name member
  simp only [Store.step, updateArtifact, none, ne_eq, not_true_eq_false, if_false, accepted.stored, accepted.valid,
    accepted.hashed]
  rfl

private theorem step_of_refused (refused : ∀ current digest, ¬ Accepted contentHash store call current digest) :
    store.step contentHash call = store := by
  rw [Store.step]
  split
  · rfl
  · rename_i after revised done
    simp only [updateArtifact] at done
    split at done
    · cases done
    · rename_i allowed
      split at done
      · cases done
      · rename_i current stored
        split at done
        · cases done
        · rename_i valid
          split at done
          · cases done
          · rename_i digest hashed
            refine absurd ?_ (refused current digest)
            refine { allowed := ?_, stored, valid := not_not.mp valid, hashed }
            intro name member
            have kept := List.filter_eq_nil_iff.mp (not_not.mp allowed) name member
            simpa using kept

private theorem artifactId_of_getArtifact {artifactId : String} {artifact : Artifact}
    (stored : store.getArtifact artifactId = some artifact) : artifact.artifactId = artifactId := by
  simpa using List.find?_some stored

@[simp] theorem getArtifact_announce (event : OutboxEvent) (artifactId : String) :
    (store.announce event).getArtifact artifactId = store.getArtifact artifactId := by
  rw [Store.announce]
  split
  · rfl
  · rfl

private theorem metadataEvents_announce_of_ne {event : OutboxEvent} {artifactId : String}
    (other : event.aggregateId ≠ artifactId) :
    metadataEvents (store.announce event) artifactId = metadataEvents store artifactId := by
  rw [Store.announce]
  split
  · rfl
  · rw [metadataEvents, List.filter_append, List.filter_cons_of_neg (by simp [other]), List.filter_nil,
      List.append_nil, metadataEvents]

private theorem step_of_other (other : strip call.artifactId ≠ saved.artifact.artifactId) :
    (store.step contentHash call).getArtifact saved.artifact.artifactId =
        store.getArtifact saved.artifact.artifactId ∧
      metadataEvents (store.step contentHash call) saved.artifact.artifactId =
        metadataEvents store saved.artifact.artifactId := by
  by_cases refused : ∀ current digest, ¬ Accepted contentHash store call current digest
  · rw [step_of_refused refused]
    exact ⟨rfl, rfl⟩
  · push Not at refused
    obtain ⟨current, digest, accepted⟩ := refused
    have apart : current.artifactId ≠ saved.artifact.artifactId := artifactId_of_getArtifact accepted.stored ▸ other
    rw [step_of_accepted accepted, getArtifact_announce]
    constructor
    · refine find?_updateWhere store.artifacts ?_ ?_
      · intro artifact same
        rw [eq_of_beq same]
        simpa using apart
      · intro artifact _
        simpa [Artifact.modelCopy] using apart
    · exact metadataEvents_announce_of_ne apart

private theorem getArtifact_step (accepted : Accepted contentHash store call current digest)
    (own : strip call.artifactId = saved.artifact.artifactId) :
    (store.step contentHash call).getArtifact saved.artifact.artifactId = some (current.modelCopy call.updates) := by
  have same := (artifactId_of_getArtifact accepted.stored).trans own
  have stored := accepted.stored
  rw [own, Store.getArtifact] at stored
  rw [step_of_accepted accepted, getArtifact_announce, same, Store.getArtifact,
    find?_updateWhere_self _ fun _ _ => by simpa [Artifact.modelCopy] using same, stored, Option.map_some]

private theorem keepsStatuses_iff {updates : Dict} :
    KeepsStatuses updates current ↔ (current.modelCopy updates).statuses = current.statuses := by
  simp [KeepsStatuses, Artifact.statuses, Artifact.modelCopy]

private theorem consumed_announce {artifacts : List Artifact} {outbox : List OutboxEvent} {start : Value × Value}
    {revised : Artifact} (new : (metadataEvent revised digest).eventKey ∉ outbox.map (·.eventKey)) :
    consumed start (metadataEvents (Store.announce ⟨artifacts, outbox⟩ (metadataEvent revised digest))
      revised.artifactId) = revised.statuses := by
  rw [Store.announce, if_neg new, metadataEvents, List.filter_append,
    List.filter_cons_of_pos (by simp [metadataEvent]), List.filter_nil, consumed, List.foldl_append]
  rfl

/-- A consumer that is right is right after a call exactly if the call announces what it changes. -/
theorem follows_step_iff (follows : Follows saved store) :
    Follows saved (store.step contentHash call) ↔ Announced contentHash saved store call := by
  by_cases own : strip call.artifactId = saved.artifact.artifactId
  · by_cases refused : ∀ current digest, ¬ Accepted contentHash store call current digest
    · rw [step_of_refused refused]
      exact ⟨fun _ current digest _ accepted => absurd accepted (refused current digest), fun _ => follows⟩
    · push Not at refused
      obtain ⟨current, digest, accepted⟩ := refused
      have same := (artifactId_of_getArtifact accepted.stored).trans own
      have stored := accepted.stored
      rw [own] at stored
      have announced : Announced contentHash saved store call ↔
          (eventKey saved.artifact.artifactId digest ∉ store.outbox.map (·.eventKey) ∨
            KeepsStatuses call.updates current) := by
        constructor
        · intro each
          exact each current digest own accepted
        · intro holds other otherDigest _ otherAccepted
          have otherStored := accepted.stored.symm.trans otherAccepted.stored
          have otherHashed := accepted.hashed.symm.trans otherAccepted.hashed
          cases otherStored
          cases otherHashed
          exact holds
      rw [announced, Follows, getArtifact_step accepted own, Option.map_some, Option.some_inj]
      rw [Follows, stored, Option.map_some, Option.some_inj] at follows
      have sameId : (current.modelCopy call.updates).artifactId = saved.artifact.artifactId := same
      rw [step_of_accepted accepted]
      by_cases known : eventKey saved.artifact.artifactId digest ∈ store.outbox.map (·.eventKey)
      · have repeated : (metadataEvent (current.modelCopy call.updates) digest).eventKey ∈
            store.outbox.map (·.eventKey) := by
          rw [metadataEvent, sameId]
          exact known
        have silent : ∀ artifacts, metadataEvents (({ store with artifacts } : Store).announce
            (metadataEvent (current.modelCopy call.updates) digest)) saved.artifact.artifactId =
              metadataEvents store saved.artifact.artifactId := by
          intro artifacts
          rw [Store.announce, if_pos repeated]
          rfl
        rw [silent, ← follows, keepsStatuses_iff]
        exact ⟨Or.inr, fun either => either.resolve_left (not_not_intro known)⟩
      · have new : (metadataEvent (current.modelCopy call.updates) digest).eventKey ∉
            store.outbox.map (·.eventKey) := by
          rw [metadataEvent, sameId]
          exact known
        refine ⟨fun _ => Or.inl known, fun _ => ?_⟩
        rw [← sameId]
        exact (consumed_announce new).symm
  · have frame := @step_of_other contentHash saved store call own
    refine ⟨fun _ current digest own' => absurd own' own, fun _ => ?_⟩
    rw [Follows, frame.1, frame.2]
    exact follows

end Step

/-! ### Runs -/

private theorem follows_saved (saved : SavedArtifact) : Follows saved saved.store := by
  rw [Follows, saved.stored, saved.unannounced]
  rfl

/-- After every call of a run the consumer has the statuses of the artifact exactly if every call of the run that goes
through and changes a status of the artifact makes an update that has not been made before. -/
theorem consumer_follows_iff (contentHash : Dict → Option String) (saved : SavedArtifact) (ops : List Call) :
    (∀ before after, ops = before ++ after → Follows saved ((calls contentHash saved.store).run before)) ↔
      (calls contentHash saved.store).Respects (Announced contentHash saved) ops := by
  constructor
  · rintro right before call after rfl
    have here := right before (call :: after) rfl
    have next := right (before ++ [call]) after (by simp)
    rw [Machine.run_concat] at next
    exact (follows_step_iff here).mp next
  · rintro announced before after rfl
    exact Machine.guarded_invariant (Follows saved) (follows_saved saved)
      (fun store call follows guard => (follows_step_iff follows).mpr guard) announced.of_append

/-- A hash that spells the update out. -/
def spelled (updates : Dict) : Option String :=
  some (String.join (updates.map fun entry => entry.1 ++ "=" ++ entry.2.text?.getD "" ++ ";"))

/-- A saved draft. -/
def savedDraft : SavedArtifact where
  store := { artifacts := [{ artifactId := "draft", workOrderId := "order" }], outbox := [] }
  artifact := { artifactId := "draft", workOrderId := "order" }
  stored := by decide +kernel
  unannounced := rfl

/-- The draft needs revalidation, is current again, and needs revalidation once more: of that the consumer is not
told. -/
theorem second_revalidation_is_silent : ¬ Follows savedDraft ((calls spelled savedDraft.store).run
      [⟨"draft", [("validity_status", .string "revalidation_required")]⟩,
        ⟨"draft", [("validity_status", .string "current")]⟩,
        ⟨"draft", [("validity_status", .string "revalidation_required")]⟩]) := by
  decide +kernel

end HardwareDatabase.Artifacts
