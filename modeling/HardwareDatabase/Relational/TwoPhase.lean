/-
Module: HardwareDatabase.Relational.TwoPhase
Purpose: Calls that read in one step and write in a later one, and when a run is the serial run of its calls.
Trusted boundary: none
-/
import HardwareDatabase.Relational.Run

namespace Relational

/-- Calls `κ` on a store `σ` that read a view `ν` before they write. -/
structure TwoPhase (σ κ ν ε : Type) where
  look : σ → κ → Except ε (Option ν)
  write : σ → κ → ν → Except ε σ

namespace TwoPhase

variable {σ κ ν ε : Type} (calls : TwoPhase σ κ ν ε)

/-- The whole call in one step. -/
def perform (store : σ) (call : κ) : Except ε σ :=
  match calls.look store call with
  | .error failure => .error failure
  | .ok none => .ok store
  | .ok (some view) => calls.write store call view

/-- Calls one after the other; the first that raises ends the run. -/
def serial (store : σ) (order : List κ) : Except ε σ :=
  order.foldlM calls.perform store

/-- A step of a call. -/
inductive Step (κ : Type)
  | look (id : Nat) (call : κ)
  | write (id : Nat)
deriving Repr, DecidableEq

/-- A call between its two steps. -/
structure InFlight (κ ν : Type) where
  id : Nat
  call : κ
  view : ν
deriving Repr, DecidableEq

/-- The store and the calls that have read. -/
structure State (σ κ ν : Type) where
  store : σ
  inFlight : List (InFlight κ ν)
deriving Repr, DecidableEq

/-- The call with an id that has read. -/
def State.waiting (state : State σ κ ν) (id : Nat) : Option (InFlight κ ν) :=
  state.inFlight.find? fun flight => flight.id == id

/-- One step; a call that raises ends without effect. -/
def step (state : State σ κ ν) : Step κ → State σ κ ν
  | .look id call =>
    match state.waiting id, calls.look state.store call with
    | none, .ok (some view) => { state with inFlight := state.inFlight ++ [{ id, call, view }] }
    | _, _ => state
  | .write id =>
    match state.waiting id with
    | none => state
    | some flight =>
      let inFlight := state.inFlight.filter fun other => other.id != id
      match calls.write state.store flight.call flight.view with
      | .ok store => { store, inFlight }
      | .error _ => { state with inFlight }

/-- The call that a step completes. -/
def completes (state : State σ κ ν) : Step κ → List κ
  | .look id call =>
    match state.waiting id, calls.look state.store call with
    | none, .ok none => [call]
    | _, _ => []
  | .write id =>
    match state.waiting id with
    | none => []
    | some flight =>
      match calls.write state.store flight.call flight.view with
      | .ok _ => [flight.call]
      | .error _ => []

/-- The interleavings of calls that start in `store`. -/
def interleaved (store : σ) : Machine (State σ κ ν) (Step κ) where
  init := { store, inFlight := [] }
  step := calls.step

/-- The calls that a run completes, in the order in which they do. -/
def completed (store : σ) (steps : List (Step κ)) : List κ :=
  (calls.interleaved store).emitted calls.completes steps

/-- A write that has the effect of the whole call at that moment. -/
def Undisturbed (state : State σ κ ν) : Step κ → Prop
  | .look _ _ => True
  | .write id => ∀ flight, state.waiting id = some flight →
      calls.perform state.store flight.call = calls.write state.store flight.call flight.view

variable {calls}

/-- A step that is not disturbed leaves the store and completes nothing, or has the effect of the call
that it completes. -/
theorem step_cases {state : State σ κ ν} {step : Step κ} (undisturbed : calls.Undisturbed state step) :
    (calls.completes state step = [] ∧ (calls.step state step).store = state.store) ∨
      ∃ call, calls.completes state step = [call] ∧
        calls.perform state.store call = .ok (calls.step state step).store := by
  cases step with
  | look id call =>
    simp only [completes, TwoPhase.step]
    split
    · rename_i free found
      refine Or.inr ⟨call, rfl, ?_⟩
      simp only [perform, found, free]
    · refine Or.inl ⟨rfl, ?_⟩
      split <;> rfl
  | write id =>
    cases waiting : state.waiting id with
    | none => exact Or.inl (by simp [completes, TwoPhase.step, waiting])
    | some flight =>
      have effect := undisturbed flight waiting
      simp only [completes, TwoPhase.step, waiting]
      cases written : calls.write state.store flight.call flight.view with
      | error => exact Or.inl ⟨rfl, rfl⟩
      | ok => exact Or.inr ⟨flight.call, rfl, by rw [effect, written]⟩

/-- What the whole calls preserve about the store and the calls before them holds after a run without
disturbed writes. -/
theorem completed_invariant (inv : σ → List κ → Prop) {store : σ} (start : inv store [])
    (one : ∀ before after history call, inv before history → calls.perform before call = .ok after →
      inv after (history ++ [call])) {steps : List (Step κ)}
    (respects : (calls.interleaved store).Respects calls.Undisturbed steps) :
    inv ((calls.interleaved store).run steps).store (calls.completed store steps) := by
  apply Machine.guarded_history (fun (state : State σ κ ν) history => inv state.store history) _ _
    respects
  · exact start
  · intro state history step before undisturbed
    rcases step_cases undisturbed with ⟨nothing, same⟩ | ⟨call, completed, performed⟩
    · rw [nothing, List.append_nil]
      exact same ▸ before
    · rw [completed]
      exact one state.store _ history call before performed

theorem serial_concat {store middle : σ} {order : List κ} {call : κ} (before : calls.serial store order = .ok middle) :
    calls.serial store (order ++ [call]) = calls.perform middle call := by
  rw [serial, List.foldlM_append]
  rw [serial] at before
  rw [before]
  simp only [List.foldlM_cons, List.foldlM_nil, bind, Except.bind, pure, Except.pure]
  cases calls.perform middle call <;> rfl

/-- Without disturbed writes a run is the serial run of the calls it completes. -/
theorem serial_completed {store : σ} {steps : List (Step κ)}
    (respects : (calls.interleaved store).Respects calls.Undisturbed steps) :
    calls.serial store (calls.completed store steps) = .ok ((calls.interleaved store).run steps).store := by
  apply completed_invariant (fun after history => calls.serial store history = .ok after) _ _ respects
  · rfl
  · intro before after history call serial performed
    rw [serial_concat serial, performed]

end TwoPhase

end Relational
