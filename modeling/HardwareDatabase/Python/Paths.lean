/-
Module: HardwareDatabase.Python.Paths
Purpose: What a value shows at the end of a path through its dictionaries and its lists.
Trusted boundary: none
-/
import HardwareDatabase.Python.Value
import Mathlib.Data.String.Basic

namespace HardwareDatabase.Python

/-- One step into a value. -/
inductive Step
  | key (name : String)
  | item (index : Nat)
deriving Repr, DecidableEq

/-- A path avoids the keys of a list. -/
def Avoids (keys : List String) (path : List Step) : Prop :=
  ∀ name, Step.key name ∈ path → name ∉ keys

@[simp] theorem avoids_nil (keys : List String) : Avoids keys [] := by
  simp [Avoids]

@[simp] theorem avoids_item (keys : List String) (index : Nat) (path : List Step) :
    Avoids keys (.item index :: path) ↔ Avoids keys path := by
  simp [Avoids]

@[simp] theorem avoids_key (keys : List String) (name : String) (path : List Step) :
    Avoids keys (.key name :: path) ↔ name ∉ keys ∧ Avoids keys path := by
  simp [Avoids]

/-! ### Dictionaries in key order -/

variable {entries : Dict}

namespace Dict

/-- The keys are in order, each of them once. -/
def Sorted (entries : Dict) : Prop :=
  entries.Pairwise fun left right => left.1 < right.1

instance (entries : Dict) : Decidable entries.Sorted :=
  inferInstanceAs (Decidable (entries.Pairwise fun left right => left.1 < right.1))

theorem lookup_eq_none_of_lt {name : String} (after : ∀ entry ∈ entries, name < entry.1) :
    entries.lookup name = none := by
  refine List.lookup_eq_none_iff.mpr ?_
  intro entry member
  have distinct : name ≠ entry.1 := ne_of_lt (after entry member)
  simpa using distinct

theorem sorted_of_keys (keys : (entries.map Prod.fst).Pairwise (· < ·)) : entries.Sorted :=
  List.pairwise_map.mp keys

/-- Texts are in the order of their characters; for literals these are at hand without decoding. -/
theorem lt_of_chars {left right : List Char} (before : left < right) : String.ofList left < String.ofList right := by
  rw [String.lt_iff_toList_lt, String.toList_ofList, String.toList_ofList]
  exact before

theorem sorted_of_chain (keys : (entries.map Prod.fst).IsChain (· < ·)) : entries.Sorted :=
  sorted_of_keys (List.isChain_iff_pairwise.mp keys)

theorem mem_of_lookup {name : String} {value : Value}
    (found : entries.lookup name = some value) : (name, value) ∈ entries := by
  obtain ⟨before, after, rfl, -⟩ := List.lookup_eq_some_iff.mp found
  simp

/-- Dictionaries with the same value under each key are the same. -/
theorem eq_of_lookup_eq {left right : Dict} (leftSorted : left.Sorted) (rightSorted : right.Sorted)
    (same : ∀ name, left.lookup name = right.lookup name) : left = right := by
  induction left generalizing right with
  | nil =>
    cases right with
    | nil => rfl
    | cons entry =>
      obtain ⟨name, value⟩ := entry
      have found := same name
      simp at found
  | cons entry rest ih =>
    obtain ⟨name, value⟩ := entry
    cases right with
    | nil =>
      have found := same name
      simp at found
    | cons other others =>
      obtain ⟨otherName, otherValue⟩ := other
      obtain ⟨after, restSorted⟩ := List.pairwise_cons.mp leftSorted
      obtain ⟨otherAfter, othersSorted⟩ := List.pairwise_cons.mp rightSorted
      -- the smaller of the two first keys would be missing in the other dictionary
      have sameName : name = otherName := by
        rcases lt_trichotomy name otherName with before | equal | before
        · have absent : List.lookup name ((otherName, otherValue) :: others) = none := by
            refine lookup_eq_none_of_lt ?_
            intro entry member
            rcases List.mem_cons.mp member with rfl | member
            · exact before
            · exact lt_trans before (otherAfter entry member)
          have found := same name
          rw [absent] at found
          simp at found
        · exact equal
        · have absent : List.lookup otherName ((name, value) :: rest) = none := by
            refine lookup_eq_none_of_lt ?_
            intro entry member
            rcases List.mem_cons.mp member with rfl | member
            · exact before
            · exact lt_trans before (after entry member)
          have found := same otherName
          rw [absent] at found
          simp at found
      subst sameName
      have sameValue : value = otherValue := by
        simpa using same name
      have sameRest : rest = others := by
        refine ih restSorted othersSorted ?_
        intro key
        by_cases first : key = name
        · rw [first, lookup_eq_none_of_lt after, lookup_eq_none_of_lt otherAfter]
        · have found := same key
          have different : (key == name) = false := by simpa using first
          simpa [List.lookup_cons, different] using found
      rw [sameValue, sameRest]

end Dict

namespace Value

/-- Induction on a value, with a hypothesis for each item and for the value of each entry. -/
@[elab_as_elim]
theorem inductionOn {motive : Value → Prop} (value : Value)
    (atom : ∀ value, (∀ items, value ≠ .array items) → (∀ entries, value ≠ .object entries) → motive value)
    (array : ∀ items, (∀ item ∈ items, motive item) → motive (.array items))
    (object : ∀ entries : Dict, (∀ entry ∈ entries, motive entry.2) → motive (.object entries)) : motive value :=
  @Value.rec motive (fun items => ∀ item ∈ items, motive item)
    (fun entries => ∀ entry ∈ entries, motive entry.2) (fun entry => motive entry.2)
    (atom .null nofun nofun)
    (fun value => atom (.bool value) nofun nofun)
    (fun value => atom (.int value) nofun nofun)
    (fun text finite zero => atom (.float text finite zero) nofun nofun)
    (fun text => atom (.string text) nofun nofun)
    (fun text => atom (.date text) nofun nofun)
    array object nofun
    (fun first rest firstHolds restHolds item member => by
      rcases List.mem_cons.mp member with rfl | member
      · exact firstHolds
      · exact restHolds item member)
    nofun
    (fun first rest firstHolds restHolds entry member => by
      rcases List.mem_cons.mp member with rfl | member
      · exact firstHolds
      · exact restHolds entry member)
    (fun name value holds => holds) value

/-! ### Deciding whether values are the same -/

mutual

/-- Whether two values are the same: unlike for `equals`, one and true are not. -/
def same : Value → Value → Bool
  | .null, .null => true
  | .bool left, .bool right => left == right
  | .int left, .int right => left == right
  | .float text finite zero, .float other otherFinite otherZero =>
    text == other && finite == otherFinite && zero == otherZero
  | .string left, .string right => left == right
  | .date left, .date right => left == right
  | .array left, .array right => sameItems left right
  | .object left, .object right => sameEntries left right
  | _, _ => false

def sameItems : List Value → List Value → Bool
  | [], [] => true
  | left :: lefts, right :: rights => same left right && sameItems lefts rights
  | _, _ => false

def sameEntries : List (String × Value) → List (String × Value) → Bool
  | [], [] => true
  | (key, left) :: lefts, (other, right) :: rights => key == other && same left right && sameEntries lefts rights
  | _, _ => false

end

theorem sameItems_iff {left right : List Value} (each : ∀ item ∈ left, ∀ other, same item other = true ↔ item = other) :
    sameItems left right = true ↔ left = right := by
  induction left generalizing right with
  | nil =>
    cases right with
    | nil => simp [sameItems]
    | cons => simp [sameItems]
  | cons item rest ih =>
    cases right with
    | nil => simp [sameItems]
    | cons =>
      rw [sameItems, Bool.and_eq_true, each item List.mem_cons_self,
        ih fun item member => each item (List.mem_cons_of_mem _ member), List.cons.injEq]

theorem sameEntries_iff {left right : Dict}
    (each : ∀ entry ∈ left, ∀ other, same entry.2 other = true ↔ entry.2 = other) :
    sameEntries left right = true ↔ left = right := by
  induction left generalizing right with
  | nil =>
    cases right with
    | nil => simp [sameEntries]
    | cons => simp [sameEntries]
  | cons entry rest ih =>
    cases right with
    | nil => simp [sameEntries]
    | cons =>
      rw [sameEntries, Bool.and_eq_true, Bool.and_eq_true, beq_iff_eq, each entry List.mem_cons_self,
        ih fun entry member => each entry (List.mem_cons_of_mem _ member), List.cons.injEq, Prod.ext_iff]

theorem same_iff (left right : Value) : left.same right = true ↔ left = right := by
  induction left using inductionOn generalizing right with
  | atom value notArray notObject =>
    cases value with
    | array items => exact absurd rfl (notArray items)
    | object entries => exact absurd rfl (notObject entries)
    | _ => cases right <;> simp [same, and_assoc]
  | array items ih =>
    cases right with
    | array => rw [same, sameItems_iff ih, Value.array.injEq]
    | _ => simp [same]
  | object entries ih =>
    cases right with
    | object => rw [same, sameEntries_iff ih, Value.object.injEq]
    | _ => simp [same]

instance : DecidableEq Value :=
  fun left right => decidable_of_iff _ (same_iff left right)

/-! ### Values with their dictionaries in key order -/

mutual

/-- The dictionaries of a value hold their entries in key order. -/
def keyOrdered : Value → Bool
  | .array items => keyOrderedItems items
  | .object entries => decide (Dict.Sorted entries) && keyOrderedEntries entries
  | _ => true

def keyOrderedItems : List Value → Bool
  | [] => true
  | item :: rest => keyOrdered item && keyOrderedItems rest

def keyOrderedEntries : List (String × Value) → Bool
  | [] => true
  | (_, value) :: rest => keyOrdered value && keyOrderedEntries rest

end

/-- The dictionaries of a value hold their entries in key order. -/
def KeyOrdered (value : Value) : Prop :=
  value.keyOrdered = true

instance (value : Value) : Decidable value.KeyOrdered :=
  inferInstanceAs (Decidable (_ = _))

theorem keyOrdered_array {items : List Value} : (Value.array items).KeyOrdered ↔ ∀ item ∈ items, item.KeyOrdered := by
  rw [KeyOrdered, keyOrdered]
  induction items with
  | nil => simp [keyOrderedItems]
  | cons item rest ih => simp [keyOrderedItems, ih, KeyOrdered]

theorem keyOrdered_object :
    (Value.object entries).KeyOrdered ↔ entries.Sorted ∧ ∀ entry ∈ entries, entry.2.KeyOrdered := by
  have each : keyOrderedEntries entries = true ↔ ∀ entry ∈ entries, entry.2.KeyOrdered := by
    induction entries with
    | nil => simp [keyOrderedEntries]
    | cons entry rest ih => simp [keyOrderedEntries, ih, KeyOrdered]
  rw [KeyOrdered, keyOrdered, Bool.and_eq_true, decide_eq_true_eq, each]

/-! ### Paths -/

/-- The value at the end of a path. -/
def follow : List Step → Value → Option Value
  | [], value => some value
  | .key name :: rest, .object entries => (entries.lookup name).bind (follow rest)
  | .item index :: rest, .array items => items[index]?.bind (follow rest)
  | _ :: _, _ => none

/-- A value without what it contains. -/
def face : Value → Value
  | .array _ => .array []
  | .object _ => .object []
  | value => value

/-- What a value shows at the end of a path: an atom, a list or a dictionary, or nothing. -/
def shown (path : List Step) (value : Value) : Option Value :=
  (value.follow path).map face

@[simp] theorem shown_nil (value : Value) : shown [] value = some value.face := rfl

@[simp] theorem shown_item (index : Nat) (path : List Step) (items : List Value) :
    shown (.item index :: path) (.array items) = items[index]?.bind (shown path) := by
  rw [shown, follow, Option.map_bind]
  rfl

@[simp] theorem shown_key (name : String) (path : List Step) (entries : Dict) :
    shown (.key name :: path) (.object entries) = (entries.lookup name).bind (shown path) := by
  rw [shown, follow, Option.map_bind]
  rfl

/-! ### Leaving out keys -/

mutual

/-- The value without the entries under some keys, at every depth. -/
def without (keys : List String) : Value → Value
  | .array items => .array (withoutItems keys items)
  | .object entries => .object (withoutEntries keys entries)
  | .null => .null
  | .bool value => .bool value
  | .int value => .int value
  | .float text finite zero => .float text finite zero
  | .string text => .string text
  | .date text => .date text

def withoutItems (keys : List String) : List Value → List Value
  | [] => []
  | item :: rest => without keys item :: withoutItems keys rest

def withoutEntries (keys : List String) : List (String × Value) → List (String × Value)
  | [] => []
  | (name, value) :: rest =>
    if name ∈ keys then withoutEntries keys rest else (name, without keys value) :: withoutEntries keys rest

end

theorem withoutItems_eq_map (keys : List String) (items : List Value) :
    withoutItems keys items = items.map (without keys) := by
  induction items with
  | nil => rfl
  | cons item rest ih => rw [withoutItems, ih, List.map_cons]

theorem lookup_withoutEntries (keys : List String) (entries : Dict) (name : String) :
    (withoutEntries keys entries).lookup name =
      if name ∈ keys then none else (entries.lookup name).map (without keys) := by
  induction entries with
  | nil => simp [withoutEntries]
  | cons entry rest ih =>
    obtain ⟨key, value⟩ := entry
    rw [withoutEntries]
    by_cases same : name = key
    · subst same
      by_cases left : name ∈ keys
      · rw [if_pos left, ih, if_pos left, if_pos left]
      · simp [left]
    · have different : (name == key) = false := by simpa using same
      by_cases left : key ∈ keys
      · rw [if_pos left, ih]
        simp [List.lookup_cons, different]
      · rw [if_neg left]
        simp [List.lookup_cons, different, ih]

variable {keys : List String}

theorem mem_withoutEntries {entry : String × Value} (member : entry ∈ withoutEntries keys entries) :
    ∃ value, (entry.1, value) ∈ entries ∧ entry.2 = without keys value := by
  induction entries with
  | nil => cases member
  | cons first rest ih =>
    obtain ⟨key, value⟩ := first
    rw [withoutEntries] at member
    split at member
    · obtain ⟨value, found, same⟩ := ih member
      exact ⟨value, List.mem_cons_of_mem _ found, same⟩
    · rcases List.mem_cons.mp member with rfl | member
      · exact ⟨value, List.mem_cons_self, rfl⟩
      · obtain ⟨value, found, same⟩ := ih member
        exact ⟨value, List.mem_cons_of_mem _ found, same⟩

theorem sorted_withoutEntries (keys : List String) (sorted : entries.Sorted) :
    Dict.Sorted (withoutEntries keys entries) := by
  induction entries with
  | nil => exact List.Pairwise.nil
  | cons first rest ih =>
    obtain ⟨key, value⟩ := first
    obtain ⟨after, restSorted⟩ := List.pairwise_cons.mp sorted
    rw [withoutEntries]
    split
    · exact ih restSorted
    · refine List.pairwise_cons.mpr ⟨?_, ih restSorted⟩
      intro entry member
      obtain ⟨value, found, -⟩ := mem_withoutEntries member
      exact after (entry.1, value) found

theorem without_of_atom {value : Value} (notArray : ∀ items, value ≠ .array items)
    (notObject : ∀ entries, value ≠ .object entries) (keys : List String) : value.without keys = value := by
  cases value with
  | array items => exact absurd rfl (notArray items)
  | object entries => exact absurd rfl (notObject entries)
  | _ => rfl

@[simp] theorem without_array (keys : List String) (items : List Value) :
    (Value.array items).without keys = .array (items.map (without keys)) := by
  rw [without, withoutItems_eq_map]

@[simp] theorem without_object (keys : List String) (entries : Dict) :
    (Value.object entries).without keys = .object (withoutEntries keys entries) := by
  rw [without]

theorem keyOrdered_without (keys : List String) {value : Value} (ordered : value.KeyOrdered) :
    (value.without keys).KeyOrdered := by
  induction value using inductionOn with
  | atom value notArray notObject => rwa [without_of_atom notArray notObject]
  | array items ih =>
    rw [without_array, keyOrdered_array]
    intro item member
    obtain ⟨original, found, rfl⟩ := List.mem_map.mp member
    exact ih original found (keyOrdered_array.mp ordered original found)
  | object entries ih =>
    obtain ⟨sorted, each⟩ := keyOrdered_object.mp ordered
    rw [without_object, keyOrdered_object]
    refine ⟨sorted_withoutEntries keys sorted, ?_⟩
    intro entry member
    obtain ⟨value, found, same⟩ := mem_withoutEntries member
    rw [same]
    exact ih _ found (each _ found)

@[simp] theorem face_without (keys : List String) (value : Value) : (value.without keys).face = value.face := by
  cases value with
  | array => rw [without_array, face, face]
  | object => rw [without_object, face, face]
  | _ => rfl

theorem shown_without {path : List Step} (avoids : Avoids keys path) (value : Value) :
    shown path (value.without keys) = shown path value := by
  induction path generalizing value with
  | nil => simp
  | cons step path ih =>
    cases value using inductionOn with
    | atom value notArray notObject => rw [without_of_atom notArray notObject]
    | array items _ =>
      cases step with
      | key => rw [without_array]; rfl
      | item index =>
        have onwards := ih ((avoids_item keys index path).mp avoids)
        rw [without_array, shown_item, shown_item, List.getElem?_map, Option.bind_map]
        exact congrArg _ (funext onwards)
    | object entries _ =>
      cases step with
      | item => rw [without_object]; rfl
      | key name =>
        obtain ⟨kept, avoids⟩ := (avoids_key keys name path).mp avoids
        rw [without_object, shown_key, shown_key, lookup_withoutEntries, if_neg kept, Option.bind_map]
        exact congrArg _ (funext (ih avoids))

theorem without_congr {others : List String} (same : ∀ name, name ∈ keys ↔ name ∈ others) (value : Value) :
    value.without keys = value.without others := by
  induction value using inductionOn with
  | atom value notArray notObject =>
    rw [without_of_atom notArray notObject, without_of_atom notArray notObject]
  | array items ih =>
    rw [without_array, without_array]
    exact congrArg Value.array (List.map_congr_left ih)
  | object entries ih =>
    rw [without_object, without_object]
    refine congrArg Value.object ?_
    induction entries with
    | nil => rfl
    | cons entry rest restSame =>
      have later := restSame fun other member => ih other (List.mem_cons_of_mem _ member)
      have here := ih entry List.mem_cons_self
      rw [withoutEntries, withoutEntries, later, here]
      exact if_congr (same entry.1) rfl rfl

/-! ### What is shown decides the value -/

theorem face_eq_array {value : Value} (same : value.face = .array []) : ∃ items, value = .array items := by
  cases value with
  | array items => exact ⟨items, rfl⟩
  | _ => cases same

theorem face_eq_object {value : Value} (same : value.face = .object []) : ∃ entries, value = .object entries := by
  cases value with
  | object entries => exact ⟨entries, rfl⟩
  | _ => cases same

theorem face_of_atom {value : Value} (notArray : ∀ items, value ≠ .array items)
    (notObject : ∀ entries, value ≠ .object entries) : value.face = value := by
  cases value with
  | array items => exact absurd rfl (notArray items)
  | object entries => exact absurd rfl (notObject entries)
  | _ => rfl

theorem map_without_eq {left right : Option Value}
    (same : ∀ path, Avoids keys path → left.bind (shown path) = right.bind (shown path))
    (onwards : ∀ first ∈ left, ∀ second ∈ right, (∀ path, Avoids keys path → shown path first = shown path second) →
        first.without keys = second.without keys) : left.map (without keys) = right.map (without keys) := by
  have root := same [] (avoids_nil keys)
  cases left with
  | none =>
    cases right with
    | none => rfl
    | some => simp at root
  | some first =>
    cases right with
    | none => simp at root
    | some second => exact congrArg some (onwards first rfl second rfl same)

/-- Values that show the same at every path that avoids the keys differ in entries under the keys only. -/
theorem without_eq_of_shown {left right : Value} (leftOrdered : left.KeyOrdered)
    (rightOrdered : right.KeyOrdered) (same : ∀ path, Avoids keys path → shown path left = shown path right) :
    left.without keys = right.without keys := by
  induction left using inductionOn generalizing right with
  | atom value notArray notObject =>
    have root : value = right.face := by
      simpa [face_of_atom notArray notObject] using same [] (avoids_nil keys)
    cases right with
    | array => exact absurd root (notArray [])
    | object => exact absurd root (notObject [])
    | _ => rw [root]; rfl
  | array items ih =>
    have root : right.face = .array [] := by
      simpa [face] using (same [] (avoids_nil keys)).symm
    obtain ⟨others, rfl⟩ := face_eq_array root
    rw [without_array, without_array]
    refine congrArg Value.array (List.ext_getElem? ?_)
    intro index
    rw [List.getElem?_map, List.getElem?_map]
    refine map_without_eq ?_ ?_
    · intro path avoids
      have found := same (.item index :: path) ((avoids_item keys index path).mpr avoids)
      rwa [shown_item, shown_item] at found
    · intro first firstThere second secondThere sameOnwards
      have firstMember := List.mem_of_getElem? firstThere
      have secondMember := List.mem_of_getElem? secondThere
      exact ih first firstMember (keyOrdered_array.mp leftOrdered first firstMember)
        (keyOrdered_array.mp rightOrdered second secondMember) sameOnwards
  | object entries ih =>
    have root : right.face = .object [] := by
      simpa [face] using (same [] (avoids_nil keys)).symm
    obtain ⟨others, rfl⟩ := face_eq_object root
    obtain ⟨sorted, each⟩ := keyOrdered_object.mp leftOrdered
    obtain ⟨otherSorted, otherEach⟩ := keyOrdered_object.mp rightOrdered
    rw [without_object, without_object]
    refine congrArg Value.object (Dict.eq_of_lookup_eq (sorted_withoutEntries keys sorted)
      (sorted_withoutEntries keys otherSorted) ?_)
    intro name
    rw [lookup_withoutEntries, lookup_withoutEntries]
    by_cases left : name ∈ keys
    · rw [if_pos left, if_pos left]
    · rw [if_neg left, if_neg left]
      refine map_without_eq ?_ ?_
      · intro path avoids
        have found := same (.key name :: path) ((avoids_key keys name path).mpr ⟨left, avoids⟩)
        rwa [shown_key, shown_key] at found
      · intro first firstThere second secondThere sameOnwards
        have firstMember := Dict.mem_of_lookup firstThere
        have secondMember := Dict.mem_of_lookup secondThere
        exact ih (name, first) firstMember (each _ firstMember)
          (otherEach _ secondMember) sameOnwards

/-- Values agree up to the entries under some keys when every path that avoids the keys shows the same. -/
theorem without_eq_iff {left right : Value} (leftOrdered : left.KeyOrdered) (rightOrdered : right.KeyOrdered) :
    left.without keys = right.without keys ↔ ∀ path, Avoids keys path → shown path left = shown path right := by
  constructor
  · intro same path avoids
    rw [← shown_without avoids left, same, shown_without avoids right]
  · exact without_eq_of_shown leftOrdered rightOrdered

end Value

end HardwareDatabase.Python
