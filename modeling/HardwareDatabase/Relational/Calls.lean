/-
Module: HardwareDatabase.Relational.Calls
Purpose: Calls of several clients that take more than one step, and how histories (`Accounted`, `Backed`) and tickets
  (`Exclusive`) follow them.
Trusted boundary: none
-/
import Mathlib.Logic.Function.Basic

namespace Relational

/-- The phases of the calls that have not ended, and the number of the next call. -/
structure Calls (φ : Type) where
  phase : Nat → Option φ
  next : Nat

namespace Calls

variable {φ ε : Type}

/-- No call has begun. -/
def empty : Calls φ :=
  { phase := fun _ => none, next := 0 }

/-- A call begins, and may end at once. -/
def enter (calls : Calls φ) (phase : Option φ) : Calls φ :=
  { phase := Function.update calls.phase calls.next phase, next := calls.next + 1 }

/-- A call goes on to another phase, or ends. -/
def moveTo (calls : Calls φ) (call : Nat) (phase : Option φ) : Calls φ :=
  { calls with phase := Function.update calls.phase call phase }

/-- No call runs that has not begun. -/
def Fresh (calls : Calls φ) : Prop :=
  ∀ call, calls.next ≤ call → calls.phase call = none

@[simp] theorem phase_moveTo_self (calls : Calls φ) (call : Nat) (phase : Option φ) :
    (calls.moveTo call phase).phase call = phase := by
  simp only [moveTo, Function.update_self]

theorem phase_moveTo_of_ne (calls : Calls φ) {call other : Nat} (different : other ≠ call)
    (phase : Option φ) : (calls.moveTo call phase).phase other = calls.phase other := by
  simp only [moveTo, Function.update_of_ne different]

@[simp] theorem phase_enter_self (calls : Calls φ) (phase : Option φ) :
    (calls.enter phase).phase calls.next = phase := by
  simp only [enter, Function.update_self]

/-- A call that runs after another one has ended ran before. -/
theorem mem_of_moveTo_none (calls : Calls φ) {call other : Nat} {phase : φ}
    (running : phase ∈ (calls.moveTo call none).phase other) : phase ∈ calls.phase other := by
  by_cases same : other = call
  · subst same
    rw [phase_moveTo_self] at running
    cases running
  · rw [phase_moveTo_of_ne calls same] at running
    exact running

theorem phase_enter_of_ne (calls : Calls φ) {other : Nat} (different : other ≠ calls.next)
    (phase : Option φ) : (calls.enter phase).phase other = calls.phase other := by
  simp only [enter, Function.update_of_ne different]

theorem fresh_empty : (empty : Calls φ).Fresh :=
  fun _ _ => rfl

theorem Fresh.lt_next {calls : Calls φ} {call : Nat} {phase : φ} (fresh : calls.Fresh)
    (running : calls.phase call = some phase) : call < calls.next := by
  by_contra late
  rw [fresh call (Nat.le_of_not_lt late)] at running
  cases running

theorem Fresh.enter {calls : Calls φ} (fresh : calls.Fresh) (phase : Option φ) : (calls.enter phase).Fresh := by
  intro call late
  have later : calls.next < call := late
  rw [phase_enter_of_ne calls (Nat.ne_of_gt later)]
  exact fresh call (Nat.le_of_lt later)

theorem Fresh.moveTo {calls : Calls φ} {call : Nat} {old : φ} (fresh : calls.Fresh)
    (running : calls.phase call = some old) (phase : Option φ) : (calls.moveTo call phase).Fresh := by
  intro other late
  have begun := fresh.lt_next running
  rw [phase_moveTo_of_ne calls (Nat.ne_of_gt (Nat.lt_of_lt_of_le begun late))]
  exact fresh other late

/-! ### Effects and refusals -/

/-- The kinds of events of a call: an effect, and a refusal. -/
structure Accounts (φ ε : Type) where
  acts : ε → Option Nat
  refuses : ε → Option Nat
  committed : φ → Prop

variable (accounts : Accounts φ ε)

/-- The call has had an effect. -/
def Accounts.Acted (events : List ε) (call : Nat) : Prop :=
  ∃ event ∈ events, accounts.acts event = some call

/-- The call was refused. -/
def Accounts.Refused (events : List ε) (call : Nat) : Prop :=
  ∃ event ∈ events, accounts.refuses event = some call

/-- A call that has had an effect is not refused: it is in a committed phase while it runs. -/
structure Accounted (calls : Calls φ) (events : List ε) : Prop where
  fresh : calls.Fresh
  actedBegun : ∀ call, accounts.Acted events call → call < calls.next
  refusedBegun : ∀ call, accounts.Refused events call → call < calls.next
  committed : ∀ call, accounts.Acted events call → ∀ phase, calls.phase call = some phase →
    accounts.committed phase
  ended : ∀ call, accounts.Refused events call → calls.phase call = none
  exclusive : ∀ call, accounts.Refused events call → ¬ accounts.Acted events call

namespace Accounted

variable {accounts} {calls : Calls φ} {events : List ε}

theorem nil : (empty : Calls φ).Accounted accounts [] where
  fresh := fresh_empty
  actedBegun := fun _ ⟨_, member, _⟩ => absurd member List.not_mem_nil
  refusedBegun := fun _ ⟨_, member, _⟩ => absurd member List.not_mem_nil
  committed := fun _ ⟨_, member, _⟩ => absurd member List.not_mem_nil
  ended := fun _ ⟨_, member, _⟩ => absurd member List.not_mem_nil
  exclusive := fun _ ⟨_, member, _⟩ => absurd member List.not_mem_nil

/-- A call whose phase is not committed has had no effect. -/
theorem not_acted {call : Nat} {phase : φ} (accounted : calls.Accounted accounts events)
    (running : calls.phase call = some phase) (uncommitted : ¬ accounts.committed phase) :
    ¬ accounts.Acted events call :=
  fun acted => uncommitted (accounted.committed call acted phase running)

theorem enter (accounted : calls.Accounted accounts events) (phase : Option φ) :
    (calls.enter phase).Accounted accounts events where
  fresh := accounted.fresh.enter phase
  actedBegun := fun call acted => Nat.lt_succ_of_lt (accounted.actedBegun call acted)
  refusedBegun := fun call refused => Nat.lt_succ_of_lt (accounted.refusedBegun call refused)
  committed := by
    intro call acted
    rw [phase_enter_of_ne calls (Nat.ne_of_lt (accounted.actedBegun call acted))]
    exact accounted.committed call acted
  ended := by
    intro call refused
    rw [phase_enter_of_ne calls (Nat.ne_of_lt (accounted.refusedBegun call refused))]
    exact accounted.ended call refused
  exclusive := accounted.exclusive

/-- A call goes on or ends; if it has had an effect its next phase is committed. -/
theorem moveTo {call : Nat} {old : φ} {new : Option φ} (accounted : calls.Accounted accounts events)
    (running : calls.phase call = some old)
    (keeps : accounts.Acted events call → ∀ phase, new = some phase → accounts.committed phase) :
    (calls.moveTo call new).Accounted accounts events where
  fresh := accounted.fresh.moveTo running new
  actedBegun := accounted.actedBegun
  refusedBegun := accounted.refusedBegun
  committed := by
    intro other acted phase now
    by_cases same : other = call
    · subst same
      rw [phase_moveTo_self] at now
      exact keeps acted phase now
    · rw [phase_moveTo_of_ne calls same] at now
      exact accounted.committed other acted phase now
  ended := by
    intro other refused
    have ended := accounted.ended other refused
    rw [phase_moveTo_of_ne calls ?_, ended]
    rintro rfl
    rw [running] at ended
    cases ended
  exclusive := accounted.exclusive

section

variable (accounted : calls.Accounted accounts events)
include accounted

/-- One more event, which is an effect or a refusal of a call that may have it, or neither. -/
theorem extend {event : ε} (effect : ∀ call, accounts.acts event = some call → call < calls.next ∧
      ¬ accounts.Refused events call ∧ ∀ phase, calls.phase call = some phase → accounts.committed phase)
    (refusal : ∀ call, accounts.refuses event = some call → call < calls.next ∧
      calls.phase call = none ∧ ¬ accounts.Acted events call)
    (one : accounts.acts event = none ∨ accounts.refuses event = none) :
    calls.Accounted accounts (events ++ [event]) := by
  have acted : ∀ call, accounts.Acted (events ++ [event]) call →
      accounts.Acted events call ∨ accounts.acts event = some call := by
    intro call has
    simpa [Accounts.Acted, or_and_right, exists_or] using has
  have refused : ∀ call, accounts.Refused (events ++ [event]) call →
      accounts.Refused events call ∨ accounts.refuses event = some call := by
    intro call was
    simpa [Accounts.Refused, or_and_right, exists_or] using was
  refine ⟨accounted.fresh, ?_, ?_, ?_, ?_, ?_⟩
  · intro call has
    rcases acted call has with earlier | now
    · exact accounted.actedBegun call earlier
    · exact (effect call now).1
  · intro call was
    rcases refused call was with earlier | now
    · exact accounted.refusedBegun call earlier
    · exact (refusal call now).1
  · intro call has
    rcases acted call has with earlier | now
    · exact accounted.committed call earlier
    · exact (effect call now).2.2
  · intro call was
    rcases refused call was with earlier | now
    · exact accounted.ended call earlier
    · exact (refusal call now).2.1
  · intro call was has
    rcases acted call has with before | here <;> rcases refused call was with earlier | now
    · exact accounted.exclusive call earlier before
    · exact (refusal call now).2.2 before
    · exact (effect call here).2.1 earlier
    · rcases one with none | none <;> simp [none] at here now

theorem silent {event : ε} (noEffect : accounts.acts event = none) (noRefusal : accounts.refuses event = none) :
    calls.Accounted accounts (events ++ [event]) :=
  accounted.extend (by simp [noEffect]) (by simp [noRefusal]) (.inl noEffect)

/-- An effect of a call that has not been refused and whose phase is committed. -/
theorem act {event : ε} {call : Nat}
    (effect : accounts.acts event = some call) (noRefusal : accounts.refuses event = none)
    (begun : call < calls.next) (unrefused : ¬ accounts.Refused events call)
    (commits : ∀ phase, calls.phase call = some phase → accounts.committed phase) :
    calls.Accounted accounts (events ++ [event]) := by
  refine accounted.extend ?_ (by simp [noRefusal]) (.inr noRefusal)
  rw [effect]
  rintro _ ⟨⟩
  exact ⟨begun, unrefused, commits⟩

theorem refuse {event : ε} {call : Nat}
    (noEffect : accounts.acts event = none) (refusal : accounts.refuses event = some call)
    (begun : call < calls.next) (stopped : calls.phase call = none)
    (inert : ¬ accounts.Acted events call) : calls.Accounted accounts (events ++ [event]) := by
  refine accounted.extend (by simp [noEffect]) ?_ (.inl noEffect)
  rw [refusal]
  rintro _ ⟨⟩
  exact ⟨begun, stopped, inert⟩

end

end Accounted

/-! ### Committed phases -/

/-- A call in a committed phase has had an effect. -/
def Backed (calls : Calls φ) (events : List ε) : Prop :=
  ∀ call phase, calls.phase call = some phase → accounts.committed phase → accounts.Acted events call

namespace Backed

variable {accounts} {calls : Calls φ} {events : List ε}

theorem nil : (empty : Calls φ).Backed accounts [] := by
  intro call phase running
  cases running

theorem append (backed : calls.Backed accounts events) (more : List ε) : calls.Backed accounts (events ++ more) := by
  intro call phase running committed
  obtain ⟨event, member, effect⟩ := backed call phase running committed
  exact ⟨event, List.mem_append_left more member, effect⟩

theorem enter {new : Option φ} (backed : calls.Backed accounts events)
    (acted : ∀ phase, new = some phase → accounts.committed phase → accounts.Acted events calls.next) :
    (calls.enter new).Backed accounts events := by
  intro call phase running committed
  by_cases same : call = calls.next
  · subst same
    rw [phase_enter_self] at running
    exact acted phase running committed
  · rw [phase_enter_of_ne calls same] at running
    exact backed call phase running committed

theorem moveTo {call : Nat} {new : Option φ} (backed : calls.Backed accounts events)
    (acted : ∀ phase, new = some phase → accounts.committed phase → accounts.Acted events call) :
    (calls.moveTo call new).Backed accounts events := by
  intro other phase running committed
  by_cases same : other = call
  · subst same
    rw [phase_moveTo_self] at running
    exact acted phase running committed
  · rw [phase_moveTo_of_ne calls same] at running
    exact backed other phase running committed

end Backed

/-! ### Tickets -/

variable {κ : Type}

/-- The ticket that a call holds in its phase. -/
def holds (ticket : φ → Option κ) (calls : Calls φ) (call : Nat) : Option κ :=
  (calls.phase call).bind ticket

/-- No two calls hold one ticket, no ticket is spent twice, and a spent ticket is not held. -/
structure Exclusive (ticket : φ → Option κ) (calls : Calls φ) (spent : List κ) : Prop where
  distinct : ∀ call other held, calls.holds ticket call = some held → calls.holds ticket other = some held →
    call = other
  unspent : ∀ call held, calls.holds ticket call = some held → held ∉ spent
  once : spent.Nodup

/-- A ticket that is new to the calls: it is not spent and no other call holds it. -/
def NewFor (ticket : φ → Option κ) (calls : Calls φ) (spent : List κ) (call : Nat) (held : κ) : Prop :=
  held ∉ spent ∧ ∀ other, other ≠ call → calls.holds ticket other ≠ some held

theorem holds_moveTo_self (ticket : φ → Option κ) (calls : Calls φ) (call : Nat) (phase : Option φ) :
    (calls.moveTo call phase).holds ticket call = phase.bind ticket := by
  rw [holds, phase_moveTo_self]

theorem holds_moveTo_of_ne (ticket : φ → Option κ) (calls : Calls φ) {call other : Nat}
    (different : other ≠ call) (phase : Option φ) :
    (calls.moveTo call phase).holds ticket other = calls.holds ticket other := by
  rw [holds, phase_moveTo_of_ne calls different, holds]

namespace Exclusive

variable {ticket : φ → Option κ} {calls : Calls φ} {spent : List κ}

theorem nil (ticket : φ → Option κ) : (empty : Calls φ).Exclusive ticket [] where
  distinct := by
    intro call other held holding
    cases holding
  unspent := by
    intro call held holding
    cases holding
  once := List.nodup_nil

/-- A call goes on; a ticket that it holds then is new, or the one it has held. -/
theorem moveTo {call : Nat} {new : Option φ} (exclusive : calls.Exclusive ticket spent)
    (keeps : ∀ held, new.bind ticket = some held →
      calls.holds ticket call = some held ∨ calls.NewFor ticket spent call held) :
    (calls.moveTo call new).Exclusive ticket spent where
  distinct := by
    -- a ticket of the call that goes on is not that of another call
    have apart : ∀ other held, other ≠ call → new.bind ticket = some held →
        calls.holds ticket other ≠ some held := by
      intro other held different holding
      rcases keeps held holding with before | ⟨-, free⟩
      · exact fun same => different (exclusive.distinct other call held same before)
      · exact free other different
    intro one other held first second
    by_cases here : one = call
    · subst here
      rw [holds_moveTo_self] at first
      by_cases there : other = one
      · exact there.symm
      · rw [holds_moveTo_of_ne ticket calls there] at second
        exact absurd second (apart other held there first)
    · rw [holds_moveTo_of_ne ticket calls here] at first
      by_cases there : other = call
      · subst there
        rw [holds_moveTo_self] at second
        exact absurd first (apart one held here second)
      · rw [holds_moveTo_of_ne ticket calls there] at second
        exact exclusive.distinct one other held first second
  unspent := by
    intro other held holding
    by_cases here : other = call
    · subst here
      rw [holds_moveTo_self] at holding
      rcases keeps held holding with before | ⟨free, -⟩
      · exact exclusive.unspent other held before
      · exact free
    · rw [holds_moveTo_of_ne ticket calls here] at holding
      exact exclusive.unspent other held holding
  once := exclusive.once

theorem enter {new : Option φ} (exclusive : calls.Exclusive ticket spent)
    (brings : ∀ held, new.bind ticket = some held → calls.NewFor ticket spent calls.next held) :
    (calls.enter new).Exclusive ticket spent := by
  have moved : (calls.moveTo calls.next new).Exclusive ticket spent :=
    exclusive.moveTo fun held holding => .inr (brings held holding)
  exact ⟨moved.distinct, moved.unspent, moved.once⟩

theorem spend {call : Nat} {held : κ} {new : Option φ} (exclusive : calls.Exclusive ticket spent)
    (holding : calls.holds ticket call = some held) (released : new.bind ticket = none) :
    (calls.moveTo call new).Exclusive ticket (spent ++ [held]) := by
  have moved : (calls.moveTo call new).Exclusive ticket spent :=
    exclusive.moveTo fun other taken => by rw [released] at taken; cases taken
  refine ⟨moved.distinct, ?_, ?_⟩
  · intro other kept taken member
    rcases List.mem_append.mp member with before | now
    · exact moved.unspent other kept taken before
    · -- the spent ticket is held by no other call
      rw [List.mem_singleton.mp now] at taken
      by_cases here : other = call
      · subst here
        rw [holds_moveTo_self, released] at taken
        cases taken
      · rw [holds_moveTo_of_ne ticket calls here] at taken
        exact here (exclusive.distinct other call held taken holding)
  · apply List.nodup_append.mpr
    refine ⟨exclusive.once, by simp, ?_⟩
    intro earlier member last same
    rw [List.mem_singleton.mp same]
    intro equal
    exact exclusive.unspent call held holding (equal ▸ member)

end Exclusive

end Calls

end Relational
