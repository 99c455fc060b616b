/-
Module: HardwareDatabase.Proofs.UncertainPermits
Purpose: How a permit leaves its isolation: with recorded evidence, or by the plain release, which does so without a
  word.
Trusted boundary: none
-/
import HardwareDatabase.Proofs.GovernorCapacity

namespace HardwareDatabase.Governor

open Python (strip)
open Relational

/-! ### What is owed -/

/-- A permit that is isolated before a transaction and not any more after it. -/
def LeavesUncertain (before after : Tables) (permitId : String) : Prop :=
  ∃ permit, before.permit? permitId = some permit ∧ permit.state = .uncertain ∧
    ∀ later, after.permit? permitId = some later → later.state ≠ .uncertain

/-- A transaction records a recognised evidence about a permit. -/
def Evidenced (before after : Tables) (permitId : String) : Prop :=
  ∃ entries, after.audit = before.audit ++ entries ∧
    ∃ entry ∈ entries, entry.permitId = permitId ∧ entry.evidence ∈ validReleaseEvidence

/-- Every permit that leaves its isolation does so with recorded evidence. -/
def EvidencedExits (quotas : String → Quota) (ops : List Op) : Prop :=
  ∀ before op rest, ops = before ++ op :: rest → ∀ permitId,
    LeavesUncertain ((governor quotas).run before).tables
      ((governor quotas).run (before ++ [op])).tables permitId →
    Evidenced ((governor quotas).run before).tables ((governor quotas).run (before ++ [op])).tables permitId

/-- The plain release of a permit: by its identifier, or by leaving `governor_acquire`. -/
def ServiceState.ReleasesPlainly (state : ServiceState) (op : Op) (permitId : String) : Prop :=
  op = .release permitId ∨ op = .exit permitId ∧ state.holds permitId = true

/-- No plain release names a permit that is isolated at that instant. -/
def SparesUncertain (state : ServiceState) (op : Op) : Prop :=
  ∀ permitId permit, state.ReleasesPlainly op permitId → state.tables.permit? permitId = some permit →
    permit.state ≠ .uncertain

/-! ### Transactions row by row -/

/-- A transaction that lets a permit out of its isolation only with recorded evidence, for the identifiers
that it spares from a plain release. -/
def LetsOut (spared : String → Prop) (before after : Tables) : Prop :=
  ∃ rewrite added entries, (∀ permit : Permit, (rewrite permit).permitId = permit.permitId) ∧
    after.permits = before.permits.map rewrite ++ added ∧ after.audit = before.audit ++ entries ∧
    ∀ permit, spared permit.permitId → permit.state = .uncertain →
      (rewrite permit).state = .uncertain ∨
        ∃ entry ∈ entries, entry.permitId = permit.permitId ∧ entry.evidence ∈ validReleaseEvidence

variable {spared : String → Prop}

variable {tables : Tables}

private theorem letsOut_insert {after : Tables} (added : List Permit)
    (permits : after.permits = tables.permits ++ added) (audit : after.audit = tables.audit) :
    LetsOut spared tables after :=
  ⟨id, added, [], fun _ => rfl, by simpa using permits, by simpa using audit, fun _ _ isolated => .inl isolated⟩

private theorem LetsOut.refl (tables : Tables) : LetsOut spared tables tables :=
  letsOut_insert [] (List.append_nil _).symm rfl

private theorem LetsOut.trans {first second third : Tables} (earlier : LetsOut spared first second)
    (later : LetsOut spared second third) : LetsOut spared first third := by
  obtain ⟨rewrite, added, entries, keeps, permits, audit, exits⟩ := earlier
  obtain ⟨again, addedAgain, entriesAgain, keepsAgain, permitsAgain, auditAgain, exitsAgain⟩ := later
  refine ⟨fun permit => again (rewrite permit), added.map again ++ addedAgain, entries ++ entriesAgain,
    ?_, ?_, ?_, ?_⟩
  · exact fun permit => (keepsAgain (rewrite permit)).trans (keeps permit)
  · rw [permitsAgain, permits, List.map_append, List.map_map, List.append_assoc]
    rfl
  · rw [auditAgain, audit, List.append_assoc]
  · intro permit kept isolated
    rcases exits permit kept isolated with still | ⟨entry, member, same, valid⟩
    · rw [← keeps permit] at kept
      rcases exitsAgain (rewrite permit) kept still with still | ⟨entry, member, same, valid⟩
      · exact .inl still
      · exact .inr ⟨entry, List.mem_append_right _ member, same.trans (keeps permit), valid⟩
    · exact .inr ⟨entry, List.mem_append_left _ member, same, valid⟩

private theorem letsOut_update {after : Tables} {selects : Permit → Bool} {write : Permit → Permit}
    (entries : List AuditEntry) (permits : after.permits = (tables.updatePermits selects write).permits)
    (audit : after.audit = tables.audit ++ entries) (keeps : ∀ permit, (write permit).permitId = permit.permitId)
    (exits : ∀ permit, spared permit.permitId → selects permit = true → permit.state = .uncertain →
      (write permit).state = .uncertain ∨
        ∃ entry ∈ entries, entry.permitId = permit.permitId ∧ entry.evidence ∈ validReleaseEvidence) :
    LetsOut spared tables after := by
  refine ⟨fun permit => if selects permit then write permit else permit, [], entries, ?_, ?_, audit, ?_⟩
  · intro permit
    by_cases selected : selects permit = true
    · simp [selected, keeps]
    · simp [selected]
  · rw [permits, List.append_nil]
    rfl
  · intro permit kept isolated
    by_cases selected : selects permit = true
    · simpa [selected] using exits permit kept selected isolated
    · exact .inl (by simpa [selected] using isolated)

private theorem letsOut_updatePermits {selects : Permit → Bool} {write : Permit → Permit} (tables : Tables)
    (keeps : ∀ permit, (write permit).permitId = permit.permitId)
    (isolates : ∀ permit, spared permit.permitId → selects permit = true → permit.state = .uncertain →
      (write permit).state = .uncertain) : LetsOut spared tables (tables.updatePermits selects write) :=
  letsOut_update [] rfl (List.append_nil _).symm keeps fun permit kept selected isolated =>
    .inl (isolates permit kept selected isolated)

private theorem reapExpired_letsOut (tables : Tables) (now clock : Nat) :
    LetsOut spared tables (reapExpired tables now clock) :=
  letsOut_updatePermits tables (fun _ => rfl) fun _ _ _ _ => rfl

private theorem maintain_letsOut (tables : Tables) (escalateSeconds : Int) (now clock : Nat) :
    LetsOut spared tables (maintain tables escalateSeconds now clock) := by
  apply (reapExpired_letsOut tables now clock).trans
  exact letsOut_updatePermits _ (fun _ => rfl) fun _ _ _ isolated => isolated

private theorem renew_letsOut (tables : Tables) (permitId : String) (leaseSeconds : Int) (now : Nat) :
    LetsOut spared tables (renew tables permitId leaseSeconds now) :=
  letsOut_updatePermits tables (fun _ => rfl) fun _ _ _ isolated => isolated

private theorem tryAcquire_letsOut {after : Tables} {call : AcquireCall} {capacity reserved : Int}
    {granted : Option String} (done : tryAcquire tables call capacity reserved = .ok (after, granted)) :
    LetsOut spared tables after := by
  simp only [tryAcquire] at done
  split at done
  · cases done
    exact LetsOut.refl tables
  · have reaped : LetsOut spared tables (reapExpired tables call.now call.clock) :=
      reapExpired_letsOut tables call.now call.clock
    split at done
    · cases done
      exact reaped
    · split at done
      · cases done
        exact reaped
      · split at done
        · cases done
        · cases done
          exact reaped.trans (letsOut_insert [call.permit] rfl rfl)

private theorem release_letsOut (tables : Tables) (permitId : String) :
    LetsOut (fun other => other ≠ permitId) tables (release tables permitId) := by
  refine letsOut_updatePermits tables (fun _ => rfl) ?_
  intro permit other selected
  simp only [Permit.isHeld, Bool.and_eq_true, beq_iff_eq] at selected
  exact absurd selected.1 other

private theorem FinishCall.check_evidence {call : FinishCall} {outcome : FinishOutcome} {evidence : String}
    (checked : call.check = .ok (outcome, evidence)) (certain : outcome ≠ .uncertain) :
    evidence ∈ validReleaseEvidence := by
  unfold FinishCall.check at checked
  split at checked
  · cases checked
  · cases checked
    exact absurd rfl certain
  · split at checked
    · rename_i valid
      cases checked
      exact valid
    · cases checked

private theorem finishChecked_letsOut (tables : Tables) (call : FinishCall) {outcome : FinishOutcome}
    {evidence : String} (valid : outcome ≠ .uncertain → evidence ∈ validReleaseEvidence) :
    LetsOut spared tables (finishChecked tables call outcome evidence).1 := by
  unfold finishChecked
  split
  · exact LetsOut.refl tables
  · rename_i permit _
    split
    · exact LetsOut.refl tables
    · split
      · exact letsOut_update [call.entry permit .finishUncertain evidence] rfl rfl
          (fun _ => rfl) fun _ _ _ _ => .inl rfl
      · rename_i certain
        refine letsOut_update [call.entry permit .finish evidence] rfl rfl (fun _ => rfl) ?_
        intro row _ selected _
        simp only [Permit.isHeld, Bool.and_eq_true, beq_iff_eq] at selected
        exact .inr ⟨_, List.mem_singleton.mpr rfl, selected.1.symm, valid certain⟩

private theorem finish_letsOut {after : Tables} {call : FinishCall} {confirmed : Bool}
    (done : finish tables call = .ok (after, confirmed)) : LetsOut spared tables after := by
  unfold finish at done
  cases checked : call.check with
  | error =>
    rw [checked] at done
    cases done
  | ok outcome =>
    simp only [checked, Except.ok.injEq] at done
    have letsOut : LetsOut spared tables (finishChecked tables call outcome.1 outcome.2).1 :=
      finishChecked_letsOut tables call (FinishCall.check_evidence checked)
    rwa [done] at letsOut

private theorem releaseUncertain_letsOut {after : Tables} {call : RecoveryCall} {recovered : Bool}
    (done : releaseUncertain tables call = .ok (after, recovered)) : LetsOut spared tables after := by
  unfold releaseUncertain at done
  split at done
  · cases done
  · rename_i valid
    split at done
    · cases done
      exact LetsOut.refl tables
    · rename_i permit _
      split at done
      · cases done
        exact LetsOut.refl tables
      · cases done
        refine letsOut_update [call.entry permit] rfl rfl (fun _ => rfl) ?_
        intro row _ selected _
        simp only [Bool.and_eq_true, beq_iff_eq] at selected
        have recognised : strip call.evidence ∈ validReleaseEvidence := by simpa using valid
        exact .inr ⟨_, List.mem_singleton.mpr rfl, selected.1.symm, recognised⟩

private theorem LetsOut.weaken {sparedToo : String → Prop} {before after : Tables}
    (letsOut : LetsOut spared before after) (fewer : ∀ permitId, sparedToo permitId → spared permitId) :
    LetsOut sparedToo before after := by
  obtain ⟨rewrite, added, entries, keeps, permits, audit, exits⟩ := letsOut
  exact ⟨rewrite, added, entries, keeps, permits, audit,
    fun permit kept isolated => exits permit (fewer permit.permitId kept) isolated⟩

variable {permitId : String}

private theorem LetsOut.evidenced {before after : Tables} (letsOut : LetsOut spared before after)
    (kept : spared permitId)
    (leaves : LeavesUncertain before after permitId) : Evidenced before after permitId := by
  obtain ⟨rewrite, added, entries, keeps, permits, audit, exits⟩ := letsOut
  obtain ⟨permit, found, isolated, gone⟩ := leaves
  have named : permit.permitId = permitId := by
    unfold Tables.permit? at found
    simpa using List.find?_some found
  have same : (fun row : Permit => row.permitId == permitId) ∘ rewrite =
      fun row => row.permitId == permitId := by
    funext row
    simp [keeps]
  have later : after.permit? permitId = some (rewrite permit) := by
    unfold Tables.permit? at found ⊢
    rw [permits, List.find?_append, List.find?_map, same, found]
    rfl
  rcases exits permit (named ▸ kept) isolated with still | ⟨entry, member, about, valid⟩
  · exact absurd still (gone _ later)
  · exact ⟨entries, audit, entry, member, about.trans named, valid⟩

private theorem release_leaves {permit : Permit}
    (found : tables.permit? permitId = some permit) (isolated : permit.state = .uncertain) :
    LeavesUncertain tables (release tables permitId) permitId ∧
      ¬ Evidenced tables (release tables permitId) permitId := by
  constructor
  · refine ⟨permit, found, isolated, ?_⟩
    intro later laterFound still
    have member := List.mem_of_find?_eq_some laterFound
    have named : later.permitId = permitId := by
      unfold Tables.permit? at laterFound
      simpa using List.find?_some laterFound
    rcases mem_updateWhere.mp member with ⟨old, -, -, rfl⟩ | ⟨-, skipped⟩
    · cases still
    · simp [Permit.isHeld, named, still] at skipped
  · rintro ⟨entries, audit, entry, member, -⟩
    have none : entries = [] := List.self_eq_append_right.mp audit
    rw [none] at member
    cases member

/-! ### Operations -/

variable {op : Op} {state : ServiceState} {quotas : String → Quota}

private theorem attempt_letsOut {after : Tables} (done : state.attempt quotas op = .ok after) :
    LetsOut (fun permitId => ¬ state.ReleasesPlainly op permitId) state.tables after := by
  cases op <;> simp only [ServiceState.attempt] at done
  case tryAcquire call =>
      obtain ⟨⟨tables, granted⟩, answer, rfl⟩ := exists_of_map_eq_ok done
      exact tryAcquire_letsOut answer
  case enter call =>
      obtain ⟨⟨tables, granted⟩, answer, rfl⟩ := exists_of_map_eq_ok done
      exact tryAcquire_letsOut answer
  case release permitId =>
      cases done
      apply (release_letsOut state.tables permitId).weaken
      rintro other spared rfl
      exact spared (.inl rfl)
  case renew permitId leaseSeconds now =>
      cases done
      exact renew_letsOut state.tables permitId leaseSeconds now
  case finish call =>
      obtain ⟨⟨tables, confirmed⟩, answer, rfl⟩ := exists_of_map_eq_ok done
      exact finish_letsOut answer
  case releaseUncertain call =>
      obtain ⟨⟨tables, recovered⟩, answer, rfl⟩ := exists_of_map_eq_ok done
      exact releaseUncertain_letsOut answer
  case reapExpired now clock =>
      cases done
      exact reapExpired_letsOut state.tables now clock
  case maintain escalateSeconds now clock =>
      cases done
      exact maintain_letsOut state.tables escalateSeconds now clock
  case exit permitId =>
      cases done
      split
      · rename_i holds
        apply (release_letsOut state.tables permitId).weaken
        rintro other spared rfl
        exact spared (.inr ⟨rfl, holds⟩)
      · exact LetsOut.refl state.tables

private theorem step_evidenced (spared : ¬ state.ReleasesPlainly op permitId)
    (leaves : LeavesUncertain state.tables (state.step quotas op).tables permitId) :
    Evidenced state.tables (state.step quotas op).tables permitId := by
  cases outcome : state.attempt quotas op with
  | error =>
    simp only [ServiceState.step, outcome] at leaves
    obtain ⟨permit, found, isolated, gone⟩ := leaves
    exact absurd isolated (gone permit found)
  | ok =>
    simp only [ServiceState.step, outcome] at leaves ⊢
    exact (attempt_letsOut outcome).evidenced spared leaves

private theorem step_of_releasesPlainly (plain : state.ReleasesPlainly op permitId) :
    (state.step quotas op).tables = release state.tables permitId := by
  rcases plain with rfl | ⟨rfl, holds⟩
  · rfl
  · simp only [ServiceState.step, ServiceState.attempt, holds, if_true]

/-! ### Whole runs -/

/-- The exits from isolation of a run are all evidenced exactly where no plain release names a permit that
is isolated at that instant. -/
theorem evidenced_exits_iff (quotas : String → Quota) (ops : List Op) :
    EvidencedExits quotas ops ↔ (governor quotas).Respects SparesUncertain ops := by
  constructor
  · intro owed before op rest split permitId permit plain found isolated
    have released : ((governor quotas).run (before ++ [op])).tables =
        release ((governor quotas).run before).tables permitId := by
      rw [Machine.run_concat]
      exact step_of_releasesPlainly plain
    obtain ⟨leaves, unevidenced⟩ := release_leaves found isolated
    rw [← released] at leaves unevidenced
    exact unevidenced (owed before op rest split permitId leaves)
  · intro spares before op rest split permitId leaves
    rw [Machine.run_concat] at leaves ⊢
    apply step_evidenced _ leaves
    intro plain
    obtain ⟨permit, found, isolated, -⟩ := leaves
    exact spares before op rest split permitId permit plain found isolated

/-! ### A body that marks its permit as uncertain -/

/-- One slot for every resource. -/
def sampleQuotas (_ : String) : Quota :=
  { capacity := 1, reserved := 0, reservedLe := by decide }

/-- A call enters `governor_acquire` and marks its permit as uncertain before it leaves. -/
def interruptedBody : List Op :=
  [.enter
      { resource := "tool", interactive := true, ownerId := "worker-1", attemptId := "attempt-1",
        leaseSeconds := 300, uuid := "permit-1", now := 1000000, clock := 1000000, locked := false },
    .finish
      { permitId := "permit-1", outcome := "uncertain", evidence := "", reason := "transport interrupted",
        now := 2000000 }]

/-- Leaving the context manager clears the uncertainty without evidence. -/
theorem exit_clears_uncertain : ¬ ∀ quotas ops, EvidencedExits quotas ops := by
  intro always
  have isolated : (((governor sampleQuotas).run interruptedBody).tables.permit? "permit-1").map
      Permit.state = some .uncertain := by
    decide
  have held : ((governor sampleQuotas).run interruptedBody).holds "permit-1" = true := by
    decide
  obtain ⟨permit, found, state⟩ := Option.map_eq_some_iff.mp isolated
  obtain ⟨leaves, unevidenced⟩ := release_leaves found state
  have owed := always sampleQuotas (interruptedBody ++ [.exit "permit-1"]) interruptedBody
    (.exit "permit-1") [] rfl "permit-1"
  rw [Machine.run_concat] at owed
  have released : ((governor sampleQuotas).step ((governor sampleQuotas).run interruptedBody)
      (.exit "permit-1")).tables = release ((governor sampleQuotas).run interruptedBody).tables "permit-1" :=
    step_of_releasesPlainly (.inr ⟨rfl, held⟩)
  rw [← released] at leaves unevidenced
  exact unevidenced (owed leaves)

end HardwareDatabase.Governor
