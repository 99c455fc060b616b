/-
Module: HardwareDatabase.Proofs.PlanComparison
Purpose: What the comparison of two plans detects, in terms of their contents.
Trusted boundary: none
-/
import HardwareDatabase.Replanning.Diff
import HardwareDatabase.Proofs.ContentHashes

namespace HardwareDatabase.Replanning

open Python Value
open Relational (exists_of_bind_eq_ok)

/-! ### What is compared -/

/-- The last requirement of a unit. -/
def DocumentPlan.lastRequirement (plan : DocumentPlan) (unitId : String) : Option CoverageRequirement :=
  plan.coverageContract.reverse.find? fun item => decide (item.unitId = unitId)

/-- A unit of both plans has other contents. -/
def UnitChanged (parent child : DocumentPlan) (unitId : String) : Prop :=
  ∃ old ∈ parent.semanticUnits, ∃ new ∈ child.semanticUnits,
    old.unitId = unitId ∧ new.unitId = unitId ∧ ¬ old.SameContent new

/-- The last requirements of a unit have other contents. -/
def CoverageChanged (parent child : DocumentPlan) (unitId : String) : Prop :=
  ∃ old ∈ parent.lastRequirement unitId, ∃ new ∈ child.lastRequirement unitId, ¬ old.SameContent new

/-- The specification, the layout, the sources and the policies are the same. -/
structure SameSetting (parent child : DocumentPlan) : Prop where
  specKeys : ∀ key, key ∈ parent.outputSpecSummary.entries.map Prod.fst ↔
    key ∈ child.outputSpecSummary.entries.map Prod.fst
  specFields : ∀ key old new, (key, old) ∈ parent.outputSpecSummary.entries →
    (key, new) ∈ child.outputSpecSummary.entries → ShowSame old new
  specHash : parent.outputSpecHash = child.outputSpecHash
  layout : parent.layoutContract.SameContent child.layoutContract
  rendering : ShowSame parent.renderSpec.value child.renderSpec.value
  snapshot : parent.sourceSnapshotId = child.sourceSnapshotId
  snapshotHash : parent.sourceSnapshotHash = child.sourceSnapshotHash
  versions : parent.versionLabels = child.versionLabels
  approval : ShowSame parent.approvalPolicy.value child.approvalPolicy.value
  unitReview : ShowSame parent.unitReviewPolicy.value child.unitReviewPolicy.value
  documentReview : ShowSame parent.documentReviewPolicy.value child.documentReviewPolicy.value

/-! ### Hashes that differ -/

theorem mem_of_selectM {α : Type} {condition : α → Except Failure Bool} {items selected : List α}
    (done : selectM condition items = .ok selected) {item : α} :
    item ∈ selected ↔ item ∈ items ∧ condition item = .ok true := by
  induction items generalizing selected with
  | nil =>
    cases done
    simp
  | cons first rest ih =>
    obtain ⟨chosen, tested, done⟩ := exists_of_bind_eq_ok done
    obtain ⟨later, remaining, done⟩ := exists_of_bind_eq_ok done
    cases done
    have onwards := ih remaining
    cases chosen with
    | true =>
      rw [if_pos rfl, List.mem_cons, List.mem_cons, onwards]
      constructor
      · rintro (rfl | found)
        · exact ⟨Or.inl rfl, tested⟩
        · exact ⟨Or.inr found.1, found.2⟩
      · rintro ⟨rfl | member, holds⟩
        · exact Or.inl rfl
        · exact Or.inr ⟨member, holds⟩
    | false =>
      rw [if_neg Bool.false_ne_true, List.mem_cons, onwards]
      constructor
      · rintro ⟨member, holds⟩
        exact ⟨Or.inr member, holds⟩
      · rintro ⟨rfl | member, holds⟩
        · rw [tested] at holds
          cases holds
        · exact ⟨member, holds⟩

theorem tested_of_selectM {α : Type} {condition : α → Except Failure Bool} {items selected : List α}
    (done : selectM condition items = .ok selected) : ∀ item ∈ items, ∃ chosen, condition item = .ok chosen := by
  induction items generalizing selected with
  | nil => nofun
  | cons first rest ih =>
    obtain ⟨chosen, tested, done⟩ := exists_of_bind_eq_ok done
    obtain ⟨later, remaining, -⟩ := exists_of_bind_eq_ok done
    intro item member
    rcases List.mem_cons.mp member with rfl | member
    · exact ⟨chosen, tested⟩
    · exact ih remaining item member

variable {key unitId : String} {keys : List String} {mapping : Mapping}

section Comparing

variable {Digest : Type} [DecidableEq Digest] {sha256 : Value → Digest}

theorem differs_eq_ok (collisionFree : CollisionFree sha256) {left right : Value} (leftOrdered : left.KeyOrdered)
    (rightOrdered : right.KeyOrdered) {different : Bool} (done : differs sha256 left right = .ok different) :
    different = true ↔ bare left ≠ bare right := by
  obtain ⟨first, leftHash, done⟩ := exists_of_bind_eq_ok done
  obtain ⟨second, rightHash, done⟩ := exists_of_bind_eq_ok done
  cases done
  have same := planningContentHash_eq_iff collisionFree leftOrdered rightOrdered leftHash rightHash
  rw [List.append_nil] at same
  rw [decide_eq_true_iff, Ne, same]

/-- All values of a dictionary are in key order. -/
def AllOrdered (dict : OrderedDict String Value) : Prop :=
  ∀ key value, dict.get? key = some value → value.KeyOrdered

theorem mem_changedKeys (collisionFree : CollisionFree sha256) {left right : OrderedDict String Value}
    (leftOrdered : AllOrdered left) (rightOrdered : AllOrdered right)
    (done : changedKeys sha256 left right = .ok keys) :
    key ∈ keys ↔ ∃ old new, left.get? key = some old ∧ right.get? key = some new ∧ bare old ≠ bare new := by
  have both : key ∈ left.keys.filter right.contains ↔
      (∃ old, left.get? key = some old) ∧ ∃ new, right.get? key = some new := by
    rw [List.mem_filter, OrderedDict.mem_keys_iff, OrderedDict.contains_iff]
  rw [mem_of_selectM done]
  constructor
  · rintro ⟨member, different⟩
    obtain ⟨⟨old, oldThere⟩, new, newThere⟩ := both.mp member
    rw [oldThere, newThere] at different
    have verdict := differs_eq_ok collisionFree (leftOrdered key old oldThere) (rightOrdered key new newThere)
      different
    exact ⟨old, new, oldThere, newThere, verdict.mp rfl⟩
  · rintro ⟨old, new, oldThere, newThere, apart⟩
    have member := both.mpr ⟨⟨old, oldThere⟩, new, newThere⟩
    obtain ⟨chosen, tested⟩ := tested_of_selectM done key member
    refine ⟨member, ?_⟩
    rw [oldThere, newThere] at tested ⊢
    have verdict := differs_eq_ok collisionFree (leftOrdered key old oldThere) (rightOrdered key new newThere)
      tested
    rw [Option.getD_some, Option.getD_some] at tested ⊢
    rw [tested, verdict.mpr apart]

/-! ### Units and requirements -/

theorem allOrdered_ofEntries {entries : List (String × Value)}
    (each : ∀ entry ∈ entries, entry.2.KeyOrdered) : AllOrdered (.ofEntries entries) := by
  intro key value found
  rw [OrderedDict.get?_ofEntries] at found
  obtain ⟨entry, there, rfl⟩ := Option.map_eq_some_iff.mp found
  exact each entry (List.mem_reverse.mp (List.mem_of_find?_eq_some there))

theorem allOrdered_unitDumps (plan : DocumentPlan) : AllOrdered plan.unitDumps := by
  refine allOrdered_ofEntries ?_
  intro entry member
  obtain ⟨unit, -, rfl⟩ := List.mem_map.mp member
  exact unit.keyOrdered_dump

theorem allOrdered_coverageDumps (plan : DocumentPlan) : AllOrdered plan.coverageDumps := by
  refine allOrdered_ofEntries ?_
  intro entry member
  obtain ⟨item, -, rfl⟩ := List.mem_map.mp member
  exact item.keyOrdered_dump

theorem get?_unitDumps {plan : DocumentPlan} (units : plan.unitIds.Nodup) {dump : Value} :
    plan.unitDumps.get? unitId = some dump ↔ ∃ unit ∈ plan.semanticUnits, unit.unitId = unitId ∧ unit.dump = dump := by
  have distinct : ((plan.semanticUnits.map fun unit => (unit.unitId, unit.dump)).map Prod.fst).Nodup := by
    rw [List.map_map]
    exact units
  rw [DocumentPlan.unitDumps, OrderedDict.get?_ofEntries_iff distinct, List.mem_map]
  simp only [Prod.mk.injEq]

theorem get?_coverageDumps (plan : DocumentPlan) (unitId : String) :
    plan.coverageDumps.get? unitId = (plan.lastRequirement unitId).map (·.dump) := by
  rw [DocumentPlan.coverageDumps, OrderedDict.get?_ofEntries, ← List.map_reverse, List.find?_map, Option.map_map]
  rfl

variable {parent child : DocumentPlan}

theorem mem_changedUnits_iff (collisionFree : CollisionFree sha256) (parentUnits : parent.unitIds.Nodup)
    (childUnits : child.unitIds.Nodup) (done : changedKeys sha256 parent.unitDumps child.unitDumps = .ok keys) :
    unitId ∈ keys ↔ UnitChanged parent child unitId := by
  rw [mem_changedKeys collisionFree (allOrdered_unitDumps parent) (allOrdered_unitDumps child) done]
  constructor
  · rintro ⟨_, _, oldThere, newThere, apart⟩
    obtain ⟨old, oldMember, oldName, rfl⟩ := (get?_unitDumps parentUnits).mp oldThere
    obtain ⟨new, newMember, newName, rfl⟩ := (get?_unitDumps childUnits).mp newThere
    exact ⟨old, oldMember, new, newMember, oldName, newName,
      fun same => apart (SemanticUnitPlan.bare_eq_iff.mpr same)⟩
  · rintro ⟨old, oldMember, new, newMember, oldName, newName, apart⟩
    exact ⟨old.dump, new.dump, (get?_unitDumps parentUnits).mpr ⟨old, oldMember, oldName, rfl⟩,
      (get?_unitDumps childUnits).mpr ⟨new, newMember, newName, rfl⟩,
      fun same => apart (SemanticUnitPlan.bare_eq_iff.mp same)⟩

theorem mem_changedCoverage_iff (collisionFree : CollisionFree sha256)
    (done : changedKeys sha256 parent.coverageDumps child.coverageDumps = .ok keys) :
    unitId ∈ keys ↔ CoverageChanged parent child unitId := by
  rw [mem_changedKeys collisionFree (allOrdered_coverageDumps parent) (allOrdered_coverageDumps child) done]
  simp only [get?_coverageDumps, Option.map_eq_some_iff]
  constructor
  · rintro ⟨_, _, ⟨old, oldThere, rfl⟩, ⟨new, newThere, rfl⟩, apart⟩
    exact ⟨old, oldThere, new, newThere, fun same => apart (CoverageRequirement.bare_eq_iff.mpr same)⟩
  · rintro ⟨old, oldThere, new, newThere, apart⟩
    exact ⟨_, _, ⟨old, oldThere, rfl⟩, ⟨new, newThere, rfl⟩,
      fun same => apart (CoverageRequirement.bare_eq_iff.mp same)⟩

/-! ### The setting -/

theorem distinct_of_mapping (mapping : Mapping) : (mapping.entries.map Prod.fst).Nodup := by
  have sorted := (keyOrdered_object.mp mapping.ordered).1
  exact (List.pairwise_map.mpr sorted).imp fun before => ne_of_lt before

theorem allOrdered_mapping (mapping : Mapping) : AllOrdered (.ofEntries mapping.entries) :=
  allOrdered_ofEntries (keyOrdered_object.mp mapping.ordered).2

theorem get?_mapping {value : Value} :
    (OrderedDict.ofEntries mapping.entries).get? key = some value ↔ (key, value) ∈ mapping.entries :=
  OrderedDict.get?_ofEntries_iff (distinct_of_mapping mapping)

theorem mem_keys_mapping : key ∈ (OrderedDict.ofEntries mapping.entries).keys ↔ key ∈ mapping.entries.map Prod.fst := by
  rw [OrderedDict.mem_keys_iff]
  simp only [get?_mapping, List.mem_map, Prod.exists, exists_and_right, exists_eq_right]

theorem contains_mapping :
    (OrderedDict.ofEntries mapping.entries).contains key = true ↔ key ∈ mapping.entries.map Prod.fst := by
  rw [OrderedDict.contains_iff, ← OrderedDict.mem_keys_iff, mem_keys_mapping]

theorem bare_eq_of_mapping {left right : Mapping} {old new : Value}
    (oldMember : (key, old) ∈ left.entries) (newMember : (key, new) ∈ right.entries) :
    bare old = bare new ↔ ShowSame old new :=
  bare_eq_iff ((keyOrdered_object.mp left.ordered).2 _ oldMember)
    ((keyOrdered_object.mp right.ordered).2 _ newMember)

theorem changedMappingKeys_eq_nil (collisionFree : CollisionFree sha256) {left right : Mapping}
    (done : changedMappingKeys sha256 left right = .ok keys) :
    keys = [] ↔ (∀ key, key ∈ left.entries.map Prod.fst ↔ key ∈ right.entries.map Prod.fst) ∧
      ∀ key old new, (key, old) ∈ left.entries → (key, new) ∈ right.entries → ShowSame old new := by
  obtain ⟨changed, compared, done⟩ := exists_of_bind_eq_ok done
  cases done
  have changedIff {key : String} : key ∈ changed ↔
      ∃ old new, (key, old) ∈ left.entries ∧ (key, new) ∈ right.entries ∧ bare old ≠ bare new := by
    rw [mem_changedKeys collisionFree (allOrdered_mapping left) (allOrdered_mapping right) compared]
    simp only [get?_mapping]
  have found {key : String} : key ∈ sortedSet (changed ++
        ((OrderedDict.ofEntries left.entries).keys.filter fun key =>
          !(OrderedDict.ofEntries right.entries).contains key) ++
        (OrderedDict.ofEntries right.entries).keys.filter fun key =>
          !(OrderedDict.ofEntries left.entries).contains key) ↔
      key ∈ changed ∨ (key ∈ left.entries.map Prod.fst ∧ key ∉ right.entries.map Prod.fst) ∨
        (key ∈ right.entries.map Prod.fst ∧ key ∉ left.entries.map Prod.fst) := by
    rw [mem_sortedSet, List.mem_append, List.mem_append, List.mem_filter, List.mem_filter, mem_keys_mapping,
      mem_keys_mapping, or_assoc, Bool.not_eq_true', Bool.not_eq_true', ← Bool.not_eq_true, ← Bool.not_eq_true,
      contains_mapping, contains_mapping]
  rw [List.eq_nil_iff_forall_not_mem]
  constructor
  · intro unchanged
    constructor
    · intro key
      have untouched := fun here => unchanged key (found.mpr here)
      constructor
      · intro member
        by_contra absent
        exact untouched (Or.inr (Or.inl ⟨member, absent⟩))
      · intro member
        by_contra absent
        exact untouched (Or.inr (Or.inr ⟨member, absent⟩))
    · intro key old new oldMember newMember
      rw [← bare_eq_of_mapping oldMember newMember]
      by_contra apart
      exact unchanged key (found.mpr (Or.inl (changedIff.mpr ⟨old, new, oldMember, newMember, apart⟩)))
  · rintro ⟨sameKeys, sameFields⟩ key member
    rcases found.mp member with different | missing | missing
    · obtain ⟨old, new, oldMember, newMember, apart⟩ := changedIff.mp different
      exact apart ((bare_eq_of_mapping oldMember newMember).mpr (sameFields key old new oldMember newMember))
    · exact missing.2 ((sameKeys key).mp missing.1)
    · exact missing.2 ((sameKeys key).mpr missing.1)

theorem compareSpec_eq_nil (collisionFree : CollisionFree sha256) {fields : List String}
    (done : compareSpec sha256 parent child = .ok fields) :
    fields = [] ↔ parent.outputSpecHash = child.outputSpecHash ∧
      (∀ key, key ∈ parent.outputSpecSummary.entries.map Prod.fst ↔
        key ∈ child.outputSpecSummary.entries.map Prod.fst) ∧
      ∀ key old new, (key, old) ∈ parent.outputSpecSummary.entries →
        (key, new) ∈ child.outputSpecSummary.entries → ShowSame old new := by
  obtain ⟨changed, compared, done⟩ := exists_of_bind_eq_ok done
  cases done
  rw [← changedMappingKeys_eq_nil collisionFree compared]
  by_cases sameHash : parent.outputSpecHash = child.outputSpecHash
  · simp [sameHash]
  · by_cases none : changed = []
    · simp [sameHash, none]
    · simp [sameHash, none]

theorem compareLayout_eq_nil (collisionFree : CollisionFree sha256) {fields : List String}
    (done : compareLayout sha256 parent child = .ok fields) :
    fields = [] ↔ parent.layoutContract.SameContent child.layoutContract ∧
      ShowSame parent.renderSpec.value child.renderSpec.value := by
  obtain ⟨layoutDiffers, compared, done⟩ := exists_of_bind_eq_ok done
  have layout := differs_eq_ok collisionFree (LayoutContract.keyOrdered_dump _) (LayoutContract.keyOrdered_dump _)
    compared
  rw [Ne, LayoutContract.bare_eq_iff] at layout
  cases layoutDiffers with
  | true =>
    cases done
    simp [layout.mp rfl]
  | false =>
    have sameLayout : parent.layoutContract.SameContent child.layoutContract := by
      by_contra apart
      cases layout.mpr apart
    obtain ⟨renderDiffers, compared, done⟩ := exists_of_bind_eq_ok done
    have rendering := differs_eq_ok collisionFree (keyOrdered_mapping _) (keyOrdered_mapping _) compared
    rw [Ne, Mapping.bare_eq_iff] at rendering
    cases renderDiffers with
    | true =>
      cases done
      simp [rendering.mp rfl]
    | false =>
      cases done
      have sameRendering : ShowSame parent.renderSpec.value child.renderSpec.value := by
        by_contra apart
        cases rendering.mpr apart
      simp [sameLayout, sameRendering]

theorem compareSources_eq_nil : compareSources parent child = [] ↔ parent.sourceSnapshotId = child.sourceSnapshotId ∧
      parent.sourceSnapshotHash = child.sourceSnapshotHash := by
  rw [compareSources]
  split
  · rename_i changed
    constructor
    · nofun
    · rintro ⟨sameId, sameHash⟩
      rcases changed with apart | apart
      · exact absurd sameId apart
      · exact absurd sameHash apart
  · rename_i unchanged
    push Not at unchanged
    simp [unchanged]

theorem compareVersions_eq_nil : compareVersions parent child = [] ↔ parent.versionLabels = child.versionLabels := by
  simp [compareVersions, DocumentPlan.versionLabels, List.filter_eq_nil_iff]

theorem comparePolicies_eq_nil (collisionFree : CollisionFree sha256) {changed : List String}
    (done : comparePolicies sha256 parent child = .ok changed) :
    changed = [] ↔ ShowSame parent.approvalPolicy.value child.approvalPolicy.value ∧
      ShowSame parent.unitReviewPolicy.value child.unitReviewPolicy.value ∧
      ShowSame parent.documentReviewPolicy.value child.documentReviewPolicy.value := by
  obtain ⟨pairs, compared, done⟩ := exists_of_bind_eq_ok done
  cases done
  have verdict (label : String) (old new : Mapping)
      (member : ((label, old.value), (label, new.value)) ∈ parent.policies.zip child.policies) :
      ((label, old.value), (label, new.value)) ∉ pairs ↔ ShowSame old.value new.value := by
    obtain ⟨chosen, tested⟩ := tested_of_selectM compared _ member
    have different := differs_eq_ok collisionFree old.keyOrdered new.keyOrdered tested
    rw [Ne, Mapping.bare_eq_iff] at different
    rw [mem_of_selectM compared, tested]
    cases chosen with
    | true => simp [member, different.mp rfl]
    | false =>
      have same : ShowSame old.value new.value := by
        by_contra apart
        cases different.mpr apart
      simp [same]
  have approvalVerdict := verdict "approval_policy" parent.approvalPolicy child.approvalPolicy
    (by simp [DocumentPlan.policies])
  have unitReviewVerdict := verdict "unit_review_policy" parent.unitReviewPolicy child.unitReviewPolicy
    (by simp [DocumentPlan.policies])
  have documentReviewVerdict := verdict "document_review_policy" parent.documentReviewPolicy
    child.documentReviewPolicy (by simp [DocumentPlan.policies])
  have only : ∀ pair ∈ pairs, pair ∈ parent.policies.zip child.policies :=
    fun pair member => ((mem_of_selectM compared).mp member).1
  rw [List.map_eq_nil_iff, List.eq_nil_iff_forall_not_mem]
  constructor
  · intro none
    exact ⟨approvalVerdict.mp (none _), unitReviewVerdict.mp (none _), documentReviewVerdict.mp (none _)⟩
  · rintro ⟨approval, unitReview, documentReview⟩ pair member
    have place := only pair member
    simp only [DocumentPlan.policies, List.zip_cons_cons, List.zip_nil_right, List.mem_cons,
      List.not_mem_nil, or_false] at place
    rcases place with rfl | rfl | rfl
    · exact approvalVerdict.mpr approval member
    · exact unitReviewVerdict.mpr unitReview member
    · exact documentReviewVerdict.mpr documentReview member

/-- What a comparison says about the units, the requirements and the setting. -/
structure Detects (comparison : Comparison) (parent child : DocumentPlan) : Prop where
  units : ∀ unitId, unitId ∈ comparison.changedUnits ↔ UnitChanged parent child unitId
  coverage : ∀ unitId, unitId ∈ comparison.changedCoverage ↔ CoverageChanged parent child unitId
  setting : comparison.planwide ↔ ¬ SameSetting parent child

/-- A comparison that does not raise detects the changes outside the names of the lifecycle fields. -/
theorem detects_of_compare (collisionFree : CollisionFree sha256) (parentUnits : parent.unitIds.Nodup)
    (childUnits : child.unitIds.Nodup) {comparison : Comparison}
    (done : compare sha256 parent child = .ok comparison) : Detects comparison parent child := by
  obtain ⟨changedUnits, units, done⟩ := exists_of_bind_eq_ok done
  obtain ⟨changedCoverage, coverage, done⟩ := exists_of_bind_eq_ok done
  obtain ⟨changedSpecFields, spec, done⟩ := exists_of_bind_eq_ok done
  obtain ⟨changedLayout, layout, done⟩ := exists_of_bind_eq_ok done
  obtain ⟨changedPolicies, policies, done⟩ := exists_of_bind_eq_ok done
  cases done
  refine
    { units := fun _ => mem_changedUnits_iff collisionFree parentUnits childUnits units
      coverage := fun _ => mem_changedCoverage_iff collisionFree coverage
      setting := ?_ }
  have specNil := compareSpec_eq_nil collisionFree spec
  have layoutNil := compareLayout_eq_nil collisionFree layout
  have policiesNil := comparePolicies_eq_nil collisionFree policies
  rw [Comparison.planwide, ← not_iff_not, not_not]
  simp only [not_or, not_not, List.append_eq_nil_iff, specNil, layoutNil, policiesNil, compareSources_eq_nil,
    compareVersions_eq_nil]
  constructor
  · rintro ⟨⟨specHash, specKeys, specFields⟩, ⟨layout, rendering⟩, ⟨snapshot, snapshotHash⟩, versions, approval,
      unitReview, documentReview⟩
    exact
      { specKeys, specFields, specHash, layout, rendering, snapshot, snapshotHash, versions, approval, unitReview
        documentReview }
  · intro same
    exact ⟨⟨same.specHash, same.specKeys, same.specFields⟩, ⟨same.layout, same.rendering⟩,
      ⟨same.snapshot, same.snapshotHash⟩, same.versions, same.approval, same.unitReview, same.documentReview⟩

end Comparing

end HardwareDatabase.Replanning
