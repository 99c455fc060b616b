/-
Module: HardwareDatabase.Proofs.RateLimits
Purpose: When the distributed rate limiter keeps to its rate: as long as no script credits more time than has passed.
Trusted boundary: none
-/
import HardwareDatabase.Limiter.Distributed

namespace HardwareDatabase.Limiter

open Relational

/-! ### Limits and credit -/

/-- The rate and the burst that the calls on a key are to keep to. -/
structure Limit where
  rate : ℚ
  burst : ℚ
  rate_pos : 0 < rate
  burst_pos : 0 < burst

/-- The script has at most the rate and the burst of the limit. -/
def Script.KeepsTo (limit : Limit) (script : Script) : Prop :=
  script.rate ≤ limit.rate ∧ script.burst ≤ limit.burst

/-- The call has at most the rate and the burst of the limit. -/
def Request.KeepsTo (limit : Limit) (request : Request) : Prop :=
  ∀ script ∈ request.script, script.KeepsTo limit

/-- The time since a bucket was written. -/
def Bucket.elapsed (bucket : Bucket) (clock : Nat) : ℚ :=
  seconds clock - seconds bucket.written

/-- A script credits no more time than has passed since the last one, or the bucket is full by now. -/
def Credited (limit : Limit) (clock : Nat) (bucket : Bucket) (pending : Pending) : Prop :=
  (bucket.isLive clock = true ∧ seconds pending.now - bucket.ts ≤ bucket.elapsed clock) ∨
    pending.script.burst ≤ bucket.tokens + limit.rate * bucket.elapsed clock

/-- A script that runs on a key that has been written before is credited. -/
def Timely (limit : Limit) (state : State) : Op → Prop
  | .eval call => ∀ bucket ∈ state.key, ∀ pending ∈ state.calls.phase call,
      Credited limit state.clock bucket pending
  | _ => True

instance (limit : Limit) (clock : Nat) (bucket : Bucket) (pending : Pending) :
    Decidable (Credited limit clock bucket pending) :=
  inferInstanceAs (Decidable (_ ∨ _))

instance (limit : Limit) (state : State) : (op : Op) → Decidable (Timely limit state op)
  | .eval call => inferInstanceAs (Decidable (∀ bucket ∈ state.key, ∀ pending ∈ state.calls.phase call,
      Credited limit state.clock bucket pending))
  | .advance _ => isTrue trivial
  | .request _ => isTrue trivial
  | .giveUp _ => isTrue trivial

/-- The tokens of the limit that have not been granted. -/
def available (limit : Limit) (state : State) : ℚ :=
  match state.key with
  | none => limit.burst
  | some bucket => min limit.burst (bucket.tokens + limit.rate * bucket.elapsed state.clock)

/-- The bucket is in order, and the calls keep to the limit. -/
structure Orderly (limit : Limit) (state : State) : Prop where
  tokens : ∀ bucket ∈ state.key, 0 ≤ bucket.tokens
  written : ∀ bucket ∈ state.key, bucket.written ≤ state.clock
  keeps : ∀ call, ∀ pending ∈ state.calls.phase call, pending.script.KeepsTo limit

variable {limit : Limit} {state : State}

/-! ### Scripts -/

private theorem seconds_le {earlier later : Nat} (ordered : earlier ≤ later) : seconds earlier ≤ seconds later := by
  unfold seconds
  gcongr

private theorem Orderly.elapsed_nonneg (orderly : Orderly limit state) {bucket : Bucket} (there : bucket ∈ state.key) :
    0 ≤ bucket.elapsed state.clock :=
  sub_nonneg.mpr (seconds_le (orderly.written bucket there))

private theorem run_spends (state : State) (pending : Pending) :
    let filled := refill state.stored pending.script (seconds pending.now)
    (state.run pending).1.written = state.clock ∧ ((state.run pending).2 = true ∧ pending.script.cost ≤ filled ∧
          (state.run pending).1.tokens = filled - pending.script.cost ∨
        (state.run pending).2 = false ∧ (state.run pending).1.tokens = filled) := by
  intro filled
  unfold State.run
  split
  · rename_i isRate
    have one : pending.script.cost = 1 := pending.script.cost_rate isRate
    simp only [rateLua, one]
    split
    · rename_i enough
      exact ⟨rfl, Or.inl ⟨rfl, enough, rfl⟩⟩
    · exact ⟨rfl, Or.inr ⟨rfl, rfl⟩⟩
  · simp only [tokenLua]
    split
    · rename_i enough
      exact ⟨rfl, Or.inl ⟨rfl, enough.2, rfl⟩⟩
    · exact ⟨rfl, Or.inr ⟨rfl, rfl⟩⟩

private theorem refill_le_burst (stored : Option Bucket) (script : Script) (now : ℚ) :
    refill stored script now ≤ script.burst := by
  unfold refill
  split
  · exact min_le_left _ _
  · exact min_le_left _ _

private theorem refill_nonneg {stored : Option Bucket} (solvent : ∀ bucket ∈ stored, 0 ≤ bucket.tokens)
    (script : Script) (now : ℚ) : 0 ≤ refill stored script now := by
  have credit : ∀ ts, 0 ≤ max 0 (now - ts) * script.rate := fun ts =>
    mul_nonneg (le_max_left _ _) (le_of_lt script.rate_pos)
  unfold refill
  split
  · exact le_min (le_of_lt script.burst_pos) (add_nonneg (le_of_lt script.burst_pos) (credit now))
  · rename_i bucket
    exact le_min (le_of_lt script.burst_pos) (add_nonneg (solvent bucket rfl) (credit bucket.ts))

private theorem refill_le_available (orderly : Orderly limit state) {pending : Pending}
    (keeps : pending.script.KeepsTo limit)
    (credited : ∀ bucket ∈ state.key, Credited limit state.clock bucket pending) :
    refill state.stored pending.script (seconds pending.now) ≤ available limit state := by
  have capped := refill_le_burst state.stored pending.script (seconds pending.now)
  have burst : refill state.stored pending.script (seconds pending.now) ≤ limit.burst :=
    le_trans capped keeps.2
  unfold available
  split
  · exact burst
  · rename_i bucket here
    refine le_min burst ?_
    rcases credited bucket here with ⟨live, elapsed⟩ | full
    · have found : state.stored = some bucket := by
        rw [State.stored, here, Option.filter_some, if_pos live]
      have time : max 0 (seconds pending.now - bucket.ts) ≤ bucket.elapsed state.clock :=
        max_le (orderly.elapsed_nonneg here) elapsed
      have credit : max 0 (seconds pending.now - bucket.ts) * pending.script.rate ≤
          bucket.elapsed state.clock * limit.rate :=
        mul_le_mul time keeps.1 (le_of_lt pending.script.rate_pos) (orderly.elapsed_nonneg here)
      rw [found]
      calc refill (some bucket) pending.script (seconds pending.now)
          ≤ bucket.tokens + max 0 (seconds pending.now - bucket.ts) * pending.script.rate := min_le_right _ _
        _ ≤ bucket.tokens + limit.rate * bucket.elapsed state.clock := by linarith
    · exact le_trans capped full

/-! ### The budget -/

private theorem available_nonneg (orderly : Orderly limit state) : 0 ≤ available limit state := by
  unfold available
  split
  · exact le_of_lt limit.burst_pos
  · rename_i bucket here
    have earned : 0 ≤ limit.rate * bucket.elapsed state.clock :=
      mul_nonneg (le_of_lt limit.rate_pos) (orderly.elapsed_nonneg here)
    exact le_min (le_of_lt limit.burst_pos) (add_nonneg (orderly.tokens bucket here) earned)

private theorem available_le_burst (limit : Limit) (state : State) : available limit state ≤ limit.burst := by
  unfold available
  split
  · exact le_refl _
  · exact min_le_left _ _

private theorem available_advance (limit : Limit) (state : State) (micros : Nat) :
    available limit (state.step (.advance micros)) ≤
      available limit state + limit.rate * (seconds (state.clock + micros) - seconds state.clock) := by
  have passed : seconds state.clock ≤ seconds (state.clock + micros) := seconds_le (Nat.le_add_right _ _)
  have earned : 0 ≤ limit.rate * (seconds (state.clock + micros) - seconds state.clock) :=
    mul_nonneg (le_of_lt limit.rate_pos) (sub_nonneg.mpr passed)
  cases here : state.key with
  | none =>
    simp only [available, State.step, here]
    linarith
  | some =>
    simp only [available, State.step, here, Bucket.elapsed]
    rw [← min_add_add_right]
    refine min_le_min (by linarith) (le_of_eq ?_)
    ring

private theorem available_eval (limit : Limit) {call : Nat} {pending : Pending}
    (running : state.calls.phase call = some pending) :
    available limit (state.step (.eval call)) ≤ (state.run pending).1.tokens := by
  obtain ⟨written, -⟩ := run_spends state pending
  simp only [available, State.step, running, Bucket.elapsed, written, sub_self, mul_zero, add_zero]
  exact min_le_right _ _

private theorem Orderly.step (orderly : Orderly limit state) {op : Op}
    (keeps : ∀ request, op = .request request → request.KeepsTo limit) : Orderly limit (state.step op) := by
  cases op with
  | advance =>
    exact ⟨orderly.tokens, fun bucket there => Nat.le_add_right_of_le (orderly.written bucket there), orderly.keeps⟩
  | request request =>
    refine ⟨orderly.tokens, orderly.written, fun call pending there => ?_⟩
    have entered : (state.calls.enter
        (request.script.map fun script => { script, now := state.clock })).phase call = some pending := there
    by_cases here : call = state.calls.next
    · rw [here, Calls.phase_enter_self] at entered
      obtain ⟨script, sent, rfl⟩ := Option.map_eq_some_iff.mp entered
      exact keeps request rfl script sent
    · rw [Calls.phase_enter_of_ne state.calls here] at entered
      exact orderly.keeps call pending entered
  | eval call =>
    cases running : state.calls.phase call with
    | none =>
      simp only [State.step, running]
      exact orderly
    | some pending =>
      obtain ⟨written, spends⟩ := run_spends state pending
      have filled : 0 ≤ refill state.stored pending.script (seconds pending.now) := by
        apply refill_nonneg
        intro bucket found
        exact orderly.tokens bucket ((Option.mem_filter_iff.mp found).1)
      simp only [State.step, running]
      refine ⟨fun bucket there => ?_, fun bucket there => ?_, fun other next there => ?_⟩
      · cases Option.some.inj there
        rcases spends with ⟨-, enough, left⟩ | ⟨-, left⟩
        · rw [left]
          exact sub_nonneg.mpr enough
        · rw [left]
          exact filled
      · cases Option.some.inj there
        exact Nat.le_of_eq written
      · exact orderly.keeps other next (state.calls.mem_of_moveTo_none there)
  | giveUp =>
    exact ⟨orderly.tokens, orderly.written,
      fun other next there => orderly.keeps other next (state.calls.mem_of_moveTo_none there)⟩

private theorem limiter_budget (limit : Limit) : Budget limiter
      (fun state op => (∀ request, op = .request request → request.KeepsTo limit) ∧ Timely limit state op)
      State.grants (Orderly limit) (fun state => seconds state.clock) (available limit) limit.rate limit.burst where
  start := by
    constructor
    · intro bucket absent
      cases absent
    · intro bucket absent
      cases absent
    · intro call pending absent
      cases absent
  nonneg _ orderly := available_nonneg orderly
  bounded state _ := available_le_burst limit state
  step _ _ orderly allowed := orderly.step allowed.1
  spends := by
    rintro state op orderly ⟨-, timely⟩
    cases op with
    | advance micros =>
      exact Or.inl ⟨rfl, seconds_le (Nat.le_add_right _ _), available_advance limit state micros⟩
    | request | giveUp => exact Or.inl ⟨rfl, le_refl _, by simp [limiter, State.step, available]⟩
    | eval call =>
      cases running : state.calls.phase call with
      | none =>
        have same : state.step (.eval call) = state := by simp only [State.step, running]
        refine Or.inl ⟨by simp only [State.grants, running], ?_, ?_⟩
        · simp only [limiter, same, le_refl]
        · simp only [limiter, same, sub_self, mul_zero, add_zero, le_refl]
      | some pending =>
        have filled := refill_le_available orderly (orderly.keeps call pending running)
          (fun bucket there => timely bucket there pending running)
        have left := available_eval limit running
        have still : (state.step (.eval call)).clock = state.clock := by simp only [State.step, running]
        obtain ⟨-, ⟨allowed, -, tokens⟩ | ⟨refused, tokens⟩⟩ := run_spends state pending
        · refine Or.inr ⟨congrArg seconds still, pending.script.cost, ?_, ?_⟩
          · simp only [State.grants, running, if_pos allowed]
          · simp only [limiter]
            linarith
        · refine Or.inl ⟨?_, le_of_eq (congrArg seconds still.symm), ?_⟩
          · simp only [State.grants, running, refused, Bool.false_eq_true, if_false]
          · simp only [limiter, still, sub_self, mul_zero, add_zero]
            linarith

/-- In every run whose calls keep to a limit and whose scripts are all credited, what is granted in a window of
time is at most the burst and what the rate adds over its length. -/
theorem grants_keep_to_limit (limit : Limit) {ops : List Op}
    (keeps : ∀ request, .request request ∈ ops → request.KeepsTo limit)
    (timely : limiter.Respects (Timely limit) ops) (start : ℚ) {length : ℚ} (positive : 0 ≤ length) :
    granted start (start + length) ops ≤ limit.burst + limit.rate * length := by
  apply (limiter_budget limit).spentWithin_le (le_of_lt limit.rate_pos) _ start positive
  intro before op after split
  refine ⟨fun request same => keeps request ?_, timely before op after split⟩
  rw [split, ← same]
  exact List.mem_append_right _ (List.mem_cons_self)

private theorem sampleRate_pos : (0 : ℚ) < 1 := one_pos

/-- A quota of sixty calls a minute and a burst of three. -/
def sampleLimit : Limit :=
  { rate := 1, burst := 3, rate_pos := sampleRate_pos, burst_pos := by norm_num }

/-- Two calls, a second apart. -/
def sampleOps : List Op :=
  [.request (.allow 60 3 120), .eval 0, .advance 1000000, .request (.allow 60 3 120), .eval 1]

private theorem sampleOps_keep {request : Request} (member : .request request ∈ sampleOps) :
    request.KeepsTo sampleLimit := by
  have same : request = .allow 60 3 120 := by simpa [sampleOps] using member
  subst same
  rintro script (sent : some _ = some script)
  cases sent
  constructor
  · norm_num [perSecond, sampleLimit]
  · norm_num [sampleLimit]

/-- The two calls are granted, and keep to the quota. -/
theorem grants_keep_to_limit_twice : granted 0 (0 + 1) sampleOps = 2 ∧
      granted 0 (0 + 1) sampleOps ≤ sampleLimit.burst + sampleLimit.rate * 1 :=
  ⟨by decide +kernel, grants_keep_to_limit sampleLimit (fun _ => sampleOps_keep)
    (Machine.RespectsFrom.respects (by decide +kernel)) 0 zero_le_one⟩

/-! ### Credit that is issued twice -/

/-- A call with an old time sets the timestamp back between two later ones. -/
def staleOps : List Op :=
  [.request (.allow 60 1 120), .advance 10000000, .request (.allow 60 1 120), .eval 1, .eval 0,
    .request (.allow 60 1 120), .eval 2]

/-- The key expires long before the bucket is full again. -/
def expiredOps : List Op :=
  [.request (.allowTokens (3 / 50) 10 (some 10) 1), .eval 0, .advance 1000000,
    .request (.allowTokens (3 / 50) 10 (some 10) 1), .eval 1]

/-- Two tokens at one instant with a burst of one, and twenty within a second with a burst of ten and a thousandth
of a token for each second. -/
theorem credit_is_issued_twice : ¬ granted 10 (10 + 0) staleOps ≤ 1 + perSecond 60 * 0 ∧
      ¬ granted 0 (0 + 1) expiredOps ≤ 10 + perSecond (3 / 50) * 1 := by
  decide +kernel

end HardwareDatabase.Limiter
