/-
Module: HardwareDatabase.Proofs.AdmissionBounds
Purpose: A window admits at most one capacity of a key, with what the rate adds, for each time that the key is
  forgotten in it.
Trusted boundary: none
-/
import HardwareDatabase.Limiter.Admission
import HardwareDatabase.Proofs.BucketBounds
import Mathlib.Algebra.BigOperators.Group.List.Defs
import Mathlib.Data.Finset.Card
import Mathlib.Data.List.Nodup

namespace HardwareDatabase.Limiter.Admission

open Relational TokenBucket

/-! ### Touching -/

/-- How many of the first keys `_touch` forgets. -/
def surplus (seen : List (String × ℚ)) : Nat :=
  seen.length - maxBucketKeys

private theorem prune_spec (buckets : String → Option TokenBucket) (seen : List (String × ℚ)) :
    (prune buckets seen).seen = seen.drop (surplus seen) ∧ ∀ key, (prune buckets seen).buckets key =
        if key ∈ (seen.take (surplus seen)).map Prod.fst then none else buckets key := by
  induction seen generalizing buckets with
  | nil => exact ⟨rfl, fun _ => rfl⟩
  | cons stale rest ih =>
    by_cases full : maxBucketKeys < (stale :: rest).length
    · have next : prune buckets (stale :: rest) = prune (Function.update buckets stale.1 none) rest := if_pos full
      have one : surplus (stale :: rest) = surplus rest + 1 := by
        simp only [surplus, List.length_cons] at full ⊢
        omega
      obtain ⟨kept, found⟩ := ih (Function.update buckets stale.1 none)
      rw [next, one, List.drop_succ_cons, List.take_succ_cons, List.map_cons]
      refine ⟨kept, fun key => ?_⟩
      rw [found]
      by_cases here : key = stale.1
      · rw [if_pos (List.mem_cons.mpr (Or.inl here)), here, Function.update_self, ite_self]
      · rw [Function.update_of_ne here]
        simp [here]
    · have stop : prune buckets (stale :: rest) = { buckets, seen := stale :: rest } := if_neg full
      have none : surplus (stale :: rest) = 0 := Nat.sub_eq_zero_of_le (Nat.le_of_not_lt full)
      rw [stop, none]
      exact ⟨rfl, fun _ => rfl⟩

variable {controller : Controller} {key other : String} {now ratePerMinute clock : ℚ}

/-- The keys after a touch, before the first ones are forgotten. -/
def moved (controller : Controller) (key : String) (now : ℚ) : List (String × ℚ) :=
  controller.seen.filter (fun entry => entry.1 ≠ key) ++ [(key, now)]

/-- The keys of the two maps are the same, each once. -/
structure Matched (controller : Controller) : Prop where
  nodup : (controller.seen.map Prod.fst).Nodup
  keys : ∀ key, (controller.buckets key).isSome ↔ key ∈ controller.seen.map Prod.fst

private theorem mem_moved : other ∈ (moved controller key now).map Prod.fst ↔
    other = key ∨ other ∈ controller.seen.map Prod.fst := by
  by_cases same : other = key
  · simp [moved, same]
  · simp [moved, same]

private theorem nodup_moved (matched : Matched controller) : ((moved controller key now).map Prod.fst).Nodup := by
  rw [moved, List.map_append, List.map_cons, List.map_nil]
  refine (matched.nodup.sublist (List.filter_sublist.map Prod.fst)).append (List.nodup_singleton key) ?_
  rintro other there here
  rw [List.mem_singleton.mp here] at there
  simp at there

/-- The keys that a touch forgets, and those that it keeps. -/
def forgotten (controller : Controller) (key : String) (now : ℚ) : List String :=
  ((moved controller key now).take (surplus (moved controller key now))).map Prod.fst

def remembered (controller : Controller) (key : String) (now : ℚ) : List String :=
  ((moved controller key now).drop (surplus (moved controller key now))).map Prod.fst

private theorem forgotten_append_remembered : forgotten controller key now ++ remembered controller key now =
    (moved controller key now).map Prod.fst := by
  rw [forgotten, remembered, ← List.map_append, List.take_append_drop]

private theorem not_mem_forgotten : key ∉ forgotten controller key now := by
  have fits : surplus (moved controller key now) ≤
      (controller.seen.filter fun entry => entry.1 ≠ key).length := by
    simp only [surplus, moved, List.length_append, List.length_singleton, maxBucketKeys]
    omega
  intro member
  rw [forgotten, moved] at member
  rw [moved] at fits
  rw [List.take_append_of_le_length fits] at member
  obtain ⟨entry, early, same⟩ := List.mem_map.mp member
  have other := List.of_mem_filter (List.mem_of_mem_take early)
  simp [same] at other

private theorem length_remembered (early : other ∈ forgotten controller key now) :
    (remembered controller key now).length = maxBucketKeys := by
  rw [remembered, List.length_map, List.length_drop]
  rcases Nat.eq_zero_or_pos (surplus (moved controller key now)) with none | some
  · rw [forgotten, none] at early
    cases early
  · rw [surplus] at some ⊢
    exact Nat.sub_sub_self (Nat.le_of_lt (Nat.lt_of_sub_pos some))

private theorem touch_eq : controller.touch key now ratePerMinute clock = prune (Function.update controller.buckets key
      (some ((controller.buckets key).getD (configured ratePerMinute clock)))) (moved controller key now) := by
  rw [Controller.touch, moved]
  cases found : controller.buckets key with
  | none => rfl
  | some bucket =>
    have same : Function.update controller.buckets key (some bucket) = controller.buckets := by
      rw [← found, Function.update_eq_self]
    simp only [Option.getD_some, same]

private theorem touch_seen : (controller.touch key now ratePerMinute clock).seen.map Prod.fst =
    remembered controller key now := by
  rw [touch_eq, (prune_spec _ _).1, remembered]

private theorem touch_buckets_self : (controller.touch key now ratePerMinute clock).buckets key =
    some ((controller.buckets key).getD (configured ratePerMinute clock)) := by
  have kept := @not_mem_forgotten controller key now
  rw [forgotten] at kept
  rw [touch_eq, (prune_spec _ _).2, Function.update_self, if_neg kept]

private theorem touch_buckets_of_ne (different : other ≠ key) :
    (controller.touch key now ratePerMinute clock).buckets other =
      if other ∈ forgotten controller key now then none else controller.buckets other := by
  rw [touch_eq, (prune_spec _ _).2, Function.update_of_ne different, forgotten]

private theorem matched_touch (matched : Matched controller) :
    Matched (controller.touch key now ratePerMinute clock) where
  nodup := by
    rw [touch_seen]
    exact (nodup_moved matched).sublist ((List.drop_sublist _ _).map Prod.fst)
  keys := by
    intro other
    have whole := @nodup_moved controller key now matched
    rw [← forgotten_append_remembered] at whole
    have parts : other ∈ forgotten controller key now ∨ other ∈ remembered controller key now ↔
        other = key ∨ other ∈ controller.seen.map Prod.fst := by
      rw [← List.mem_append, forgotten_append_remembered, mem_moved]
    rw [touch_seen]
    by_cases here : other = key
    · subst here
      rw [touch_buckets_self]
      have there := (parts.mpr (Or.inl rfl)).resolve_left not_mem_forgotten
      exact ⟨fun _ => there, fun _ => rfl⟩
    · rw [touch_buckets_of_ne here]
      split
      · rename_i early
        have late : other ∉ remembered controller key now := fun there =>
          (List.nodup_append.mp whole).2.2 other early other there rfl
        simp [late]
      · rename_i kept
        rw [matched.keys]
        exact (or_iff_right here).symm.trans (parts.symm.trans (or_iff_right kept))

/-! ### Steps -/

variable {state : State}

/-- The maps match, and the request that is going on has a bucket. -/
structure Registered (state : State) : Prop where
  matched : Matched state.controller
  current : ∀ key ∈ state.current, (state.controller.buckets key).isSome

/-- The key that a step touches. -/
def State.touches (state : State) : Op → List String
  | .touch key _ _ => if state.current = none then [key] else []
  | _ => []

/-- What a step does. -/
inductive StepCase (state : State) (op : Op) : Prop
  | advance (elapsed : ℚ≥0) (isOp : op = .advance elapsed)
      (next : state.step op = { state with clock := state.clock + elapsed })
  | stays (next : state.step op = state) (admitsNone : ∀ key, state.admits key op = [])
      (touchesNone : state.touches op = [])
  | touch (key : String) (now ratePerMinute : ℚ) (isOp : op = .touch key now ratePerMinute)
      (free : state.current = none)
      (next : state.step op =
        { state with controller := state.controller.touch key now ratePerMinute state.clock, current := some key })
  | ask (key : String) (bucket : TokenBucket) (isOp : op = .ask) (asks : state.current = some key)
      (found : state.controller.buckets key = some bucket)
      (next : state.step op =
        { state with
          controller.buckets :=
            Function.update state.controller.buckets key (some (bucket.waitRound 1 state.clock).1)
          current := none })

private theorem Registered.step_cases (registered : Registered state) (op : Op) : StepCase state op := by
  cases op with
  | advance elapsed => exact .advance elapsed rfl rfl
  | touch key now ratePerMinute =>
    cases going : state.current with
    | none => exact .touch key now ratePerMinute rfl going (by simp only [State.step, going])
    | some =>
      exact .stays (by simp only [State.step, going]) (fun _ => rfl)
        (by simp only [State.touches, going, reduceCtorEq, if_false])
  | ask =>
    cases going : state.current with
    | none =>
      refine .stays (by simp only [State.step, going]) (fun key => ?_) rfl
      simp only [State.admits, going, reduceCtorEq, if_false]
    | some key =>
      obtain ⟨bucket, found⟩ := Option.isSome_iff_exists.mp (registered.current key going)
      exact .ask key bucket rfl going found (by simp only [State.step, going, found])

private theorem Registered.step (registered : Registered state) (op : Op) : Registered (state.step op) := by
  cases registered.step_cases op with
  | advance elapsed isOp next =>
    rw [next]
    exact ⟨registered.matched, registered.current⟩
  | stays next =>
    rw [next]
    exact registered
  | touch key now ratePerMinute isOp free next =>
    rw [next]
    refine ⟨matched_touch registered.matched, ?_⟩
    rintro other ⟨rfl⟩
    rw [touch_buckets_self]
    rfl
  | ask key bucket isOp asks found next =>
    rw [next]
    refine ⟨⟨registered.matched.nodup, fun other => ?_⟩, nofun⟩
    rw [← registered.matched.keys]
    dsimp only
    by_cases here : other = key
    · subst here
      rw [Function.update_self, found]
      rfl
    · rw [Function.update_of_ne here]

variable (started : ℚ)

private theorem registered_init : Registered (admission started).init :=
  ⟨⟨List.nodup_nil, fun _ => by simp [admission]⟩, nofun⟩

private theorem registered_run (ops : List Op) : Registered ((admission started).run ops) :=
  Machine.invariant _ (registered_init started) (fun _ op registered => registered.step op) ops

/-! ### Forgetting -/

/-- The keys that have been touched since a key was. -/
def since (key : String) (history : List String) : List String :=
  history.reverse.takeWhile fun other => other ≠ key

private theorem since_concat_of_ne {key other : String} (different : other ≠ key) (history : List String) :
    since key (history ++ [other]) = other :: since key history := by
  simp [since, different]

/-- The keys after a key have been touched since. -/
def Recent (state : State) (history : List String) : Prop :=
  (state.controller.seen.map Prod.fst).Pairwise fun key other => other ∈ since key history

private theorem Recent.moved {history : List String} (recent : Recent state history) (key : String) (now : ℚ) :
    ((moved state.controller key now).map Prod.fst).Pairwise fun first second =>
      second ∈ since first (history ++ [key]) := by
  rw [Admission.moved, List.map_append, List.map_cons, List.map_nil, List.pairwise_append]
  have different : ∀ first ∈ (state.controller.seen.filter fun entry => entry.1 ≠ key).map Prod.fst, key ≠ first := by
    rintro first there rfl
    simp at there
  refine ⟨?_, List.pairwise_singleton _ _, ?_⟩
  · refine List.Pairwise.imp_of_mem (fun first _ earlier => ?_) (recent.sublist (List.filter_sublist.map Prod.fst))
    rw [since_concat_of_ne (different _ first)]
    exact List.mem_cons_of_mem key earlier
  · intro first there second last
    rw [List.mem_singleton.mp last, since_concat_of_ne (different first there)]
    exact List.mem_cons_self

private theorem recent_step {history : List String} (registered : Registered state) (recent : Recent state history)
    (op : Op) : Recent (state.step op) (history ++ state.touches op) := by
  cases registered.step_cases op with
  | advance _ isOp next | ask _ _ isOp _ _ next =>
    have quiet : state.touches op = [] := by
      rw [isOp]
      rfl
    rw [next, quiet, List.append_nil]
    exact recent
  | stays next admitsNone touchesNone =>
    rw [next, touchesNone, List.append_nil]
    exact recent
  | touch key now ratePerMinute isOp free next =>
    rw [next, isOp, State.touches, if_pos free, Recent, touch_seen, remembered]
    exact (recent.moved key now).sublist ((List.drop_sublist _ _).map Prod.fst)

private theorem recent_run (ops : List Op) :
    Recent ((admission started).run ops) ((admission started).emitted State.touches ops) :=
  (Machine.history_invariant (fun state history => Registered state ∧ Recent state history)
    ⟨registered_init started, List.Pairwise.nil⟩
    (fun _ _ op ⟨registered, recent⟩ => ⟨registered.step op, recent_step registered recent op⟩) ops).2

private theorem many_since {history : List String} (registered : Registered state) (recent : Recent state history)
    {op : Op} {key : String} (evicted : state.evicts key op ≠ []) :
    maxBucketKeys ≤ (since key (history ++ state.touches op)).toFinset.card := by
  have gone : (state.controller.buckets key).isSome ∧ ((state.step op).controller.buckets key).isNone := by
    by_contra stays
    exact evicted (if_neg stays)
  obtain ⟨there, absent⟩ := gone
  rw [Option.isNone_iff_eq_none] at absent
  have changed : (state.step op).controller.buckets key ≠ state.controller.buckets key := by
    intro same
    rw [← same, absent] at there
    cases there
  cases registered.step_cases op with
  | advance elapsed isOp next =>
    rw [next] at changed
    exact absurd rfl changed
  | stays next =>
    rw [next] at changed
    exact absurd rfl changed
  | touch touched now ratePerMinute isOp free next =>
    rw [next] at absent
    dsimp only at absent
    have different : key ≠ touched := by
      rintro rfl
      rw [touch_buckets_self] at absent
      cases absent
    have early : key ∈ forgotten state.controller touched now := by
      by_contra kept
      rw [next] at changed
      exact changed ((touch_buckets_of_ne different).trans (if_neg kept))
    have ordered := recent.moved touched now
    rw [← forgotten_append_remembered, List.pairwise_append] at ordered
    have nodup := @nodup_moved state.controller touched now registered.matched
    rw [← forgotten_append_remembered, List.nodup_append] at nodup
    rw [isOp, State.touches, if_pos free, ← length_remembered early, ← List.toFinset_card_of_nodup nodup.2.1]
    refine Finset.card_le_card fun other late => ?_
    exact List.mem_toFinset.mpr (ordered.2.2 key early other (List.mem_toFinset.mp late))
  | ask asked bucket isOp asks found next =>
    rw [next] at absent
    dsimp only at absent
    by_cases here : key = asked
    · rw [here, Function.update_self] at absent
      cases absent
    · rw [next] at changed
      exact absurd (Function.update_of_ne here _ _) changed

/-! ### The budget of a key

What a key was admitted since it was last forgotten is bounded by its capacity and by what has come in since. -/

/-- The rate and the capacity of the bucket that a request configures. -/
def rateOf (ratePerMinute : ℚ) : ℚ :=
  (configured ratePerMinute 0).rate

def capacityOf (ratePerMinute : ℚ) : ℚ :=
  (configured ratePerMinute 0).capacity

/-- The requests on a key carry its rate. -/
def Rated (key : String) (ratePerMinute : ℚ) (_ : State) (op : Op) : Prop :=
  ∀ now rate, op = .touch key now rate → rate = ratePerMinute

/-- The bucket of a key is in order, with its rate and its capacity. -/
structure Orderly (key : String) (ratePerMinute : ℚ) (state : State) : Prop where
  registered : Registered state
  solvent : ∀ bucket ∈ state.controller.buckets key, bucket.Solvent state.clock
  rate : ∀ bucket ∈ state.controller.buckets key, bucket.rate = rateOf ratePerMinute
  capacity : ∀ bucket ∈ state.controller.buckets key, bucket.capacity = capacityOf ratePerMinute

/-- What the requests on a key could be granted. -/
def available (key : String) (ratePerMinute : ℚ) (state : State) : ℚ :=
  match state.controller.buckets key with
  | none => capacityOf ratePerMinute + tolerance
  | some bucket => bucket.available state.clock

/-- A step takes a token for what it admits, and puts a full bucket back for what it forgets. -/
def charges (key : String) (ratePerMinute : ℚ) (state : State) (op : Op) : List (ℚ × ℚ) :=
  (state.admits key op).map (fun reading => (reading, 1)) ++
    (state.evicts key op).map (fun reading => (reading, -(capacityOf ratePerMinute + tolerance)))

variable {key : String} {ratePerMinute : ℚ}

private theorem rateOf_pos (ratePerMinute : ℚ) : 0 < rateOf ratePerMinute :=
  (solvent_create _ _ 0).rate_pos

private theorem capacityOf_pos (ratePerMinute : ℚ) : 0 < capacityOf ratePerMinute :=
  (solvent_create _ _ 0).capacity_pos

private theorem Orderly.available_le (orderly : Orderly key ratePerMinute state) :
    available key ratePerMinute state ≤ capacityOf ratePerMinute + tolerance := by
  unfold available
  split
  · exact le_refl _
  · rename_i bucket found
    rw [← orderly.capacity bucket found]
    exact TokenBucket.available_le bucket state.clock

private theorem Orderly.available_nonneg (orderly : Orderly key ratePerMinute state) :
    0 ≤ available key ratePerMinute state := by
  unfold available
  split
  · exact le_of_lt (add_pos (capacityOf_pos _) tolerance_pos)
  · rename_i bucket found
    exact (orderly.solvent bucket found).available_nonneg

private theorem evicts_of_same {op : Op} (same : (state.step op).controller.buckets key = state.controller.buckets key) :
    state.evicts key op = [] := by
  refine if_neg fun gone => ?_
  rw [same, Option.isNone_iff_eq_none] at gone
  simp [gone.2] at gone

private theorem evicts_of_mem {op : Op} {bucket : TokenBucket}
    (found : (state.step op).controller.buckets key = some bucket) : state.evicts key op = [] := by
  refine if_neg fun gone => ?_
  rw [found] at gone
  cases gone.2

/-- What a step does to the bucket of a key. -/
inductive KeyCase (key : String) (ratePerMinute : ℚ) (state : State) (op : Op) : Prop
  | passes (elapsed : ℚ≥0) (clock : (state.step op).clock = state.clock + elapsed)
      (same : (state.step op).controller.buckets key = state.controller.buckets key)
      (charge : charges key ratePerMinute state op = [])
  | made (clock : (state.step op).clock = state.clock) (new : state.controller.buckets key = none)
      (found : (state.step op).controller.buckets key = some (configured ratePerMinute state.clock))
      (charge : charges key ratePerMinute state op = [])
  | forgotten (clock : (state.step op).clock = state.clock)
      (gone : (state.step op).controller.buckets key = none)
      (charge : charges key ratePerMinute state op = [(state.clock, -(capacityOf ratePerMinute + tolerance))])
  | asked (clock : (state.step op).clock = state.clock) (bucket : TokenBucket)
      (before : state.controller.buckets key = some bucket)
      (found : (state.step op).controller.buckets key = some (bucket.waitRound 1 state.clock).1)
      (charge : charges key ratePerMinute state op =
        if (bucket.waitRound 1 state.clock).2 = none then [(state.clock, 1)] else [])

private theorem Registered.key_cases (registered : Registered state) {op : Op}
    (rated : Rated key ratePerMinute state op) :
    KeyCase key ratePerMinute state op := by
  -- a step that admits nothing and leaves the bucket
  have quiet : state.admits key op = [] →
      (state.step op).controller.buckets key = state.controller.buckets key →
      charges key ratePerMinute state op = [] := by
    intro admitsNone same
    rw [charges, admitsNone, evicts_of_same same]
    rfl
  cases registered.step_cases op with
  | advance elapsed isOp next =>
    have same : (state.step op).controller.buckets key = state.controller.buckets key := by rw [next]
    exact .passes elapsed (by rw [next]) same (quiet (by rw [isOp]; rfl) same)
  | stays next admitsNone =>
    have same : (state.step op).controller.buckets key = state.controller.buckets key := by rw [next]
    exact .passes 0 (by rw [next]; simp) same (quiet (admitsNone key) same)
  | touch touched now rate isOp free next =>
    have admitsNone : state.admits key op = [] := by
      rw [isOp]
      rfl
    have clock : (state.step op).clock = state.clock := by rw [next]
    by_cases here : key = touched
    · subst here
      have found : (state.step op).controller.buckets key =
          some ((state.controller.buckets key).getD (configured rate state.clock)) := by
        rw [next]
        exact touch_buckets_self
      cases before : state.controller.buckets key with
      | none =>
        rw [before, Option.getD_none, rated now rate isOp] at found
        refine .made clock before found ?_
        rw [charges, admitsNone, evicts_of_mem found]
        rfl
      | some =>
        rw [before, Option.getD_some, ← before] at found
        exact .passes 0 (by rw [clock]; simp) found (quiet admitsNone found)
    · have found : (state.step op).controller.buckets key =
          if key ∈ forgotten state.controller touched now then none else state.controller.buckets key := by
        rw [next]
        exact touch_buckets_of_ne here
      by_cases gone : key ∈ forgotten state.controller touched now ∧ (state.controller.buckets key).isSome
      · rw [if_pos gone.1] at found
        refine .forgotten clock found ?_
        rw [charges, admitsNone, State.evicts, if_pos ⟨gone.2, by rw [found]; rfl⟩]
        rfl
      · have same : (state.step op).controller.buckets key = state.controller.buckets key := by
          rw [found]
          split
          · rename_i early
            cases before : state.controller.buckets key with
            | none => rfl
            | some => exact absurd ⟨early, by rw [before]; rfl⟩ gone
          · rfl
        exact .passes 0 (by rw [clock]; simp) same (quiet admitsNone same)
  | ask asked bucket isOp asks before next =>
    have clock : (state.step op).clock = state.clock := by rw [next]
    by_cases here : key = asked
    · subst here
      have found : (state.step op).controller.buckets key = some (bucket.waitRound 1 state.clock).1 := by
        rw [next]
        exact Function.update_self _ _ _
      refine .asked clock bucket before found ?_
      rw [charges, evicts_of_mem found, isOp]
      simp only [State.admits, asks, if_true, before]
      split
      · rfl
      · rfl
    · have same : (state.step op).controller.buckets key = state.controller.buckets key := by
        rw [next]
        exact Function.update_of_ne here _ _
      have other : state.current ≠ some key := by
        rw [asks]
        exact fun equal => here (Option.some.inj equal).symm
      have admitsNone : state.admits key op = [] := by
        rw [isOp]
        exact if_neg other
      exact .passes 0 (by rw [clock]; simp) same (quiet admitsNone same)

private theorem Orderly.step (orderly : Orderly key ratePerMinute state) {op : Op}
    (rated : Rated key ratePerMinute state op) : Orderly key ratePerMinute (state.step op) := by
  have registered := orderly.registered.step op
  cases orderly.registered.key_cases rated with
  | passes elapsed clock same =>
    refine ⟨registered, ?_, ?_, ?_⟩
    · rw [same, clock]
      exact fun bucket found => (orderly.solvent bucket found).advance elapsed
    · rw [same]
      exact orderly.rate
    · rw [same]
      exact orderly.capacity
  | made clock new found =>
    refine ⟨registered, ?_, ?_, ?_⟩ <;> rw [found] <;> rintro bucket ⟨rfl⟩
    · rw [clock]
      exact solvent_create _ _ _
    · rfl
    · rfl
  | forgotten clock gone =>
    refine ⟨registered, ?_, ?_, ?_⟩ <;> rw [gone] <;> exact nofun
  | asked clock bucket before found =>
    have pays := (orderly.solvent bucket before).waitRound 1
    refine ⟨registered, ?_, ?_, ?_⟩ <;> rw [found] <;> rintro after ⟨rfl⟩
    · rw [clock]
      exact pays.solvent
    · exact pays.rate.trans (orderly.rate bucket before)
    · exact pays.capacity.trans (orderly.capacity bucket before)

private theorem orderly_init (key : String) (ratePerMinute : ℚ) : Orderly key ratePerMinute (admission started).init :=
  ⟨registered_init started, nofun, nofun, nofun⟩

private theorem key_budget (key : String) (ratePerMinute : ℚ) :
    Budget (admission started) (Rated key ratePerMinute) (charges key ratePerMinute) (Orderly key ratePerMinute)
      State.clock (available key ratePerMinute) (rateOf ratePerMinute) (capacityOf ratePerMinute + tolerance) where
  start := orderly_init started key ratePerMinute
  nonneg state orderly := orderly.available_nonneg
  bounded state orderly := orderly.available_le
  step state op orderly rated := orderly.step rated
  spends := by
    intro state op orderly rated
    change (_ ∧ state.clock ≤ (state.step op).clock ∧ available key ratePerMinute (state.step op) ≤
        available key ratePerMinute state + rateOf ratePerMinute * ((state.step op).clock - state.clock)) ∨
      ((state.step op).clock = state.clock ∧ ∃ amount, _ ∧
        available key ratePerMinute (state.step op) + amount ≤ available key ratePerMinute state)
    cases orderly.registered.key_cases rated with
    | passes elapsed clock same charge =>
      refine Or.inl ⟨charge, by rw [clock]; exact le_add_of_nonneg_right elapsed.2, ?_⟩
      rw [clock, add_sub_cancel_left, available, available, same, clock]
      split
      · exact le_add_of_nonneg_right (mul_nonneg (le_of_lt (rateOf_pos _)) elapsed.2)
      · rename_i bucket found
        rw [← orderly.rate bucket found]
        exact (orderly.solvent bucket found).available_advance elapsed
    | made clock new found charge =>
      refine Or.inl ⟨charge, le_of_eq clock.symm, ?_⟩
      rw [clock, sub_self, mul_zero, add_zero]
      have most := (orderly.step rated).available_le
      rwa [available.eq_1 key ratePerMinute state, new]
    | forgotten clock gone charge =>
      refine Or.inr ⟨clock, _, charge, ?_⟩
      rw [available.eq_1 key ratePerMinute (state.step op), gone]
      have left := orderly.available_nonneg
      linarith
    | asked clock bucket before found charge =>
      have pays := ((orderly.solvent bucket before).waitRound 1).paid
      have now : available key ratePerMinute state = bucket.available state.clock := by rw [available, before]
      have later : available key ratePerMinute (state.step op) =
          (bucket.waitRound 1 state.clock).1.available state.clock := by rw [available, found, clock]
      rw [now, later]
      split at charge
      · rename_i granted
        rw [if_pos granted] at pays
        exact Or.inr ⟨clock, _, charge, le_of_eq (by exact_mod_cast pays)⟩
      · rename_i refused
        rw [if_neg refused] at pays
        refine Or.inl ⟨charge, le_of_eq clock.symm, ?_⟩
        rw [clock, sub_self, mul_zero, add_zero]
        linarith

/-! ### Windows -/

private theorem spentWithin_append (start stop : ℚ) (first second : List (ℚ × ℚ)) :
    spentWithin start stop (first ++ second) = spentWithin start stop first + spentWithin start stop second := by
  simp [spentWithin, List.filter_append]

private theorem spentWithin_map_const (start stop amount : ℚ) (readings : List ℚ) :
    spentWithin start stop (readings.map fun reading => (reading, amount)) =
      countWithin start stop readings * amount := by
  rw [spentWithin, countWithin, List.filter_map, List.map_map, List.countP_eq_length_filter]
  simp [Function.comp_def, List.sum_replicate]

/-- What is charged in a window: a token for each admission, and a full bucket less for each time the key is
forgotten. -/
theorem spentWithin_charges (key : String) (ratePerMinute start stop : ℚ) (ops : List Op) :
    spentWithin start stop ((admission started).emitted (charges key ratePerMinute) ops) =
      admitted started key start stop ops -
        (capacityOf ratePerMinute + tolerance) * evictions started key start stop ops := by
  induction ops using List.reverseRecOn with
  | nil => simp [Machine.emitted, Machine.emittedFrom, admitted, evictions, countWithin]
  | append_singleton ops op ih =>
    rw [Machine.emitted_concat, spentWithin_append, ih, charges, spentWithin_append, spentWithin_map_const,
      spentWithin_map_const]
    simp only [admitted, evictions, Machine.emitted_concat, countWithin, List.countP_append, Nat.cast_add]
    ring

/-- A window admits no more requests on a key than one capacity, with the tolerance, for each time that the key is
forgotten and one more, and what the rate adds; the key is forgotten when the table is full of keys that have been
touched since; and the two maps have the same keys. -/
theorem requests_keep_to_rate (key : String) (ratePerMinute : ℚ) (ops : List Op)
    (rated : ∀ now rate, Op.touch key now rate ∈ ops → rate = ratePerMinute) : (∀ start stop, start ≤ stop →
      (admitted started key start stop ops : ℚ) ≤
        (capacityOf ratePerMinute + tolerance) * (evictions started key start stop ops + 1) +
          rateOf ratePerMinute * (stop - start)) ∧
      (∀ before op after, ops = before ++ op :: after → ((admission started).run before).evicts key op ≠ [] →
        maxBucketKeys ≤ (since key ((admission started).emitted State.touches (before ++ [op]))).toFinset.card) ∧
      ∀ other, (((admission started).run ops).controller.buckets other).isSome ↔
        other ∈ ((admission started).run ops).controller.seen.map Prod.fst := by
  refine ⟨fun start stop ordered => ?_, fun before op after _ evicted => ?_, ?_⟩
  · have respects : (admission started).Respects (Rated key ratePerMinute) ops := by
      intro before op after split now rate isOp
      refine rated now rate ?_
      rw [split, isOp]
      exact List.mem_append_right _ List.mem_cons_self
    have within := (key_budget started key ratePerMinute).spentWithin_le (le_of_lt (rateOf_pos _)) respects start
      (sub_nonneg.mpr ordered)
    rw [add_sub_cancel, spentWithin_charges] at within
    linarith
  · rw [Machine.emitted_concat]
    exact many_since (registered_run started before) (recent_run started before) evicted
  · exact (registered_run started ops).matched.keys

/-- A request on a key at the reading of the clock. -/
def request (key : String) : List Op :=
  [.touch key 0 1, .ask]

/-- Two clients with a request each. -/
theorem two_clients_keep_to_rate : (∀ start stop, start ≤ stop →
      (admitted 0 "1" start stop (request "1" ++ request "2") : ℚ) ≤
        (capacityOf 1 + tolerance) * (evictions 0 "1" start stop (request "1" ++ request "2") + 1) +
          rateOf 1 * (stop - start)) ∧ (∀ before op after, request "1" ++ request "2" = before ++ op :: after →
        ((admission 0).run before).evicts "1" op ≠ [] →
        maxBucketKeys ≤ (since "1" ((admission 0).emitted State.touches (before ++ [op]))).toFinset.card) ∧
      ∀ other, (((admission 0).run (request "1" ++ request "2")).controller.buckets other).isSome ↔
        other ∈ ((admission 0).run (request "1" ++ request "2")).controller.seen.map Prod.fst :=
  requests_keep_to_rate 0 "1" 1 (request "1" ++ request "2") (by simp [request])

/-! ### Past the bound

Enough other clients make the controller forget a key, which then starts with a full bucket. -/

/-- The keys of many users of one resource. -/
def client (number : Nat) : String :=
  String.ofList ("user:chat:".toList ++ List.replicate (number + 1) '1')

/-- The second request comes a moment before its token is there. -/
def earlyRequests : List Op :=
  request (client 0) ++ .advance (60 - 3 / 100000000) :: request (client 0)

/-- A client and a number of others, each with one request. -/
def crowd (others : Nat) : List Op :=
  request (client 0) ++ (List.range others).flatMap fun number => request (client (number + 1))

/-- Between the two requests the others fill the table. -/
def crowdedRequests : List Op :=
  crowd maxBucketKeys ++ request (client 0)

private theorem client_injective : Function.Injective client := by
  intro first second same
  have ones := List.append_cancel_left (String.ofList_injective same)
  have lengths := congrArg List.length ones
  rw [List.length_replicate, List.length_replicate] at lengths
  exact Nat.succ.inj lengths

private theorem run_touch {ops : List Op} (free : ((admission 0).run ops).current = none) (key : String) :
    (admission 0).run (ops ++ [.touch key 0 1]) = { (admission 0).run ops with
        controller := ((admission 0).run ops).controller.touch key 0 1 ((admission 0).run ops).clock
        current := some key } := by
  rw [Machine.run_concat]
  simp only [admission, State.step] at free ⊢
  rw [free]

private theorem request_split (ops : List Op) (key : String) :
    ops ++ request key = ops ++ [.touch key 0 1] ++ [.ask] := by
  rw [request, List.append_assoc, List.singleton_append]

private theorem run_request {ops : List Op} {key : String} (free : ((admission 0).run ops).current = none)
    (new : key ∉ ((admission 0).run ops).controller.seen.map Prod.fst) :
    ((admission 0).run (ops ++ request key)).current = none ∧
      ((admission 0).run (ops ++ request key)).clock = ((admission 0).run ops).clock ∧
      ((admission 0).run (ops ++ request key)).controller.seen.map Prod.fst =
        (((admission 0).run ops).controller.seen.map Prod.fst ++ [key]).drop
          (((admission 0).run ops).controller.seen.length + 1 - maxBucketKeys) := by
  have kept : (((admission 0).run ops).controller.seen.filter fun entry => entry.1 ≠ key) =
      ((admission 0).run ops).controller.seen := by
    refine List.filter_eq_self.mpr fun entry there => ?_
    rw [decide_eq_true_eq]
    rintro rfl
    exact new (List.mem_map_of_mem there)
  have keys : ((admission 0).run (ops ++ [.touch key 0 1])).controller.seen.map Prod.fst =
      (((admission 0).run ops).controller.seen.map Prod.fst ++ [key]).drop
        (((admission 0).run ops).controller.seen.length + 1 - maxBucketKeys) := by
    rw [run_touch free, touch_seen, remembered, surplus, moved, kept, List.map_drop, List.map_append,
      List.length_append]
    rfl
  rw [run_touch free] at keys
  rw [request_split, Machine.run_concat, run_touch free]
  simp only [admission, State.step, touch_buckets_self] at keys ⊢
  exact ⟨trivial, trivial, keys⟩

private theorem crowd_succ (others : Nat) : crowd (others + 1) = crowd others ++ request (client (others + 1)) := by
  rw [crowd, crowd, List.range_succ, List.flatMap_append, List.flatMap_singleton, List.append_assoc]

private theorem run_crowd {others : Nat} (room : others < maxBucketKeys) :
    ((admission 0).run (crowd others)).current = none ∧ ((admission 0).run (crowd others)).clock = 0 ∧
      ((admission 0).run (crowd others)).controller.seen.map Prod.fst = (List.range (others + 1)).map client := by
  induction others with
  | zero => exact @run_request [] (client 0) rfl List.not_mem_nil
  | succ others ih =>
    obtain ⟨free, clock, keys⟩ := ih (Nat.lt_of_succ_lt room)
    have new : client (others + 1) ∉ (List.range (others + 1)).map client := by
      rw [List.mem_map_of_injective client_injective, List.mem_range]
      exact Nat.lt_irrefl _
    rw [← keys] at new
    have length := congrArg List.length keys
    rw [List.length_map, List.length_map, List.length_range] at length
    obtain ⟨free', clock', keys'⟩ := run_request free new
    rw [crowd_succ]
    refine ⟨free', clock'.trans clock, ?_⟩
    rw [keys', keys, length, Nat.sub_eq_zero_of_le (Nat.succ_le_of_lt room), List.drop_zero,
      @List.range_succ (others + 1), List.map_append]
    rfl

private theorem run_full_crowd :
    ((admission 0).run (crowd maxBucketKeys)).current = none ∧ ((admission 0).run (crowd maxBucketKeys)).clock = 0 ∧
      ((admission 0).run (crowd maxBucketKeys)).controller.buckets (client 0) = none := by
  obtain ⟨others, full⟩ : ∃ others, maxBucketKeys = others + 1 := ⟨9999, rfl⟩
  obtain ⟨free, clock, keys⟩ := run_crowd (Nat.lt_of_lt_of_eq (Nat.lt_succ_self others) full.symm)
  have new : client (others + 1) ∉ (List.range (others + 1)).map client := by
    rw [List.mem_map_of_injective client_injective, List.mem_range]
    exact Nat.lt_irrefl _
  rw [← keys] at new
  have length := congrArg List.length keys
  rw [List.length_map, List.length_map, List.length_range] at length
  obtain ⟨free', clock', keys'⟩ := run_request free new
  have matched := (registered_run 0 (crowd maxBucketKeys)).matched.keys (client 0)
  rw [full, crowd_succ] at matched ⊢
  refine ⟨free', clock'.trans clock, ?_⟩
  have absent : client 0 ∉ ((admission 0).run (crowd others ++ request (client (others + 1)))).controller.seen.map
      Prod.fst := by
    rw [keys', keys, length, full, Nat.add_sub_cancel_left, List.range_succ_eq_map]
    simp [client_injective.eq_iff]
  rw [← matched, Option.not_isSome_iff_eq_none] at absent
  exact absent

private theorem admitted_concat (key : String) (start stop : ℚ) (ops : List Op) (op : Op) :
    admitted started key start stop (ops ++ [op]) =
      admitted started key start stop ops + countWithin start stop (((admission started).run ops).admits key op) := by
  rw [admitted, admitted, Machine.emitted_concat, countWithin, List.countP_append]
  rfl

private theorem admitted_le_append (key : String) (start stop : ℚ) (first second : List Op) :
    admitted started key start stop first ≤ admitted started key start stop (first ++ second) := by
  obtain ⟨rest, same⟩ := (admission started).emitted_append (State.admits key) first second
  rw [admitted, admitted, same, countWithin, countWithin, List.countP_append]
  exact Nat.le_add_right _ _

private theorem admitted_crowded : 2 ≤ admitted 0 (client 0) 0 0 crowdedRequests := by
  obtain ⟨free, clock, forgotten⟩ := run_full_crowd
  have first : 1 ≤ admitted 0 (client 0) 0 0 (crowd maxBucketKeys ++ [.touch (client 0) 0 1]) := by
    have alone : admitted 0 (client 0) 0 0 (request (client 0)) = 1 := by decide +kernel
    rw [← alone, crowd, List.append_assoc]
    exact admitted_le_append 0 (client 0) 0 0 _ _
  have again : ((admission 0).run (crowd maxBucketKeys ++ [.touch (client 0) 0 1])).admits (client 0) .ask = [0] := by
    have full : ((configured 1 0).waitRound 1 0).2 = none := by decide +kernel
    simp only [run_touch free, State.admits, if_true, touch_buckets_self, forgotten, clock, Option.getD_none, full]
  have one : 1 ≤ countWithin 0 0 [0] := by decide
  rw [crowdedRequests, request_split, admitted_concat, again]
  exact Nat.add_le_add first one

/-- A request is admitted before its token is there, and a client is admitted again when it has been forgotten. -/
theorem bound_is_exceeded : capacityOf 1 + rateOf 1 * (60 - 3 / 100000000) <
        admitted 0 (client 0) 0 (60 - 3 / 100000000) earlyRequests ∧
      capacityOf 1 + rateOf 1 * (0 - 0) < admitted 0 (client 0) 0 0 crowdedRequests := by
  refine ⟨by decide +kernel, ?_⟩
  have twice : (2 : ℚ) ≤ admitted 0 (client 0) 0 0 crowdedRequests := by exact_mod_cast admitted_crowded
  have one : capacityOf 1 + rateOf 1 * (0 - 0) < 2 := by decide +kernel
  exact lt_of_lt_of_le one twice

end HardwareDatabase.Limiter.Admission
