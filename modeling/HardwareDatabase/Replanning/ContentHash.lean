/-
Module: HardwareDatabase.Replanning.ContentHash
Purpose: The content hash of the planning values (`src/src/document_authoring/planning/models.py`). SHA-256 of the
  canonical JSON text is a parameter.
Trusted boundary: none
-/
import HardwareDatabase.Python.Paths

namespace HardwareDatabase.Replanning

open Python

/-- A free-form mapping, `dict[str, Any]`, that holds JSON values. -/
structure Mapping where
  entries : Dict
  ordered : (Value.object entries).KeyOrdered
deriving Repr, DecidableEq

namespace Mapping

/-- The mapping as a value. -/
def value (mapping : Mapping) : Value :=
  .object mapping.entries

/-- `{}`. -/
def empty : Mapping :=
  ⟨[], rfl⟩

instance : Inhabited Mapping :=
  ⟨empty⟩

theorem keyOrdered (mapping : Mapping) : mapping.value.KeyOrdered :=
  mapping.ordered

end Mapping

/-- `_HASH_EXCLUDED_FIELDS`. -/
def hashExcludedFields : List String :=
  ["accepted_at", "confirmed_at", "confirmed_by", "created_at", "plan_hash", "stale_at", "status", "updated_at"]

/-- `_strip_hash_excluded`. -/
def stripHashExcluded (value : Value) (excluded : List String) : Value :=
  value.without excluded

mutual

/-- What `canonical_json` writes: JSON types, with finite numbers. -/
def isJson : Value → Bool
  | .date _ => false
  | .float _ finite _ => finite
  | .array items => areJson items
  | .object entries => haveJson entries
  | _ => true

def areJson : List Value → Bool
  | [] => true
  | item :: rest => isJson item && areJson rest

def haveJson : List (String × Value) → Bool
  | [] => true
  | (_, value) :: rest => isJson value && haveJson rest

end

/-- What a call raises. -/
inductive Failure
  -- the ValueError of canonical_json
  | notJson
  -- pydantic's ValidationError
  | invalidDiff (message : String)
deriving Repr, DecidableEq

section Hash

variable {Digest : Type} (sha256 : Value → Digest)

/-- `planning_content_hash`, with SHA-256 of the canonical text of a value. -/
def planningContentHash (model : Value) (exclude : List String := []) : Except Failure Digest :=
  let normalized := stripHashExcluded model (hashExcludedFields ++ exclude)
  if isJson normalized then .ok (sha256 normalized) else .error .notJson

/-- SHA-256 over canonical JSON is injective. -/
def CollisionFree : Prop :=
  ∀ left right : Value, left.KeyOrdered → right.KeyOrdered → sha256 left = sha256 right → left = right

variable {sha256}

theorem planningContentHash_eq_ok {model : Value} {exclude : List String} {digest : Digest}
    (hashed : planningContentHash sha256 model exclude = .ok digest) :
    digest = sha256 (stripHashExcluded model (hashExcludedFields ++ exclude)) := by
  simp only [planningContentHash] at hashed
  split at hashed
  · cases hashed
    rfl
  · cases hashed

/-- Two hashes are the same when the values agree up to the entries that are left out. -/
theorem planningContentHash_eq_iff (collisionFree : CollisionFree sha256) {exclude : List String}
    {left right : Value} (leftOrdered : left.KeyOrdered) (rightOrdered : right.KeyOrdered)
    {first second : Digest} (leftHash : planningContentHash sha256 left exclude = .ok first)
    (rightHash : planningContentHash sha256 right exclude = .ok second) : first = second ↔
      left.without (hashExcludedFields ++ exclude) = right.without (hashExcludedFields ++ exclude) := by
  rw [planningContentHash_eq_ok leftHash, planningContentHash_eq_ok rightHash]
  constructor
  · exact collisionFree _ _ (Value.keyOrdered_without _ leftOrdered) (Value.keyOrdered_without _ rightOrdered)
  · intro same
    exact congrArg sha256 same

end Hash

end HardwareDatabase.Replanning
