/-
Module: HardwareDatabase.Relational.Run
Purpose: Runs of a store whose transactions are atomic (`Machine`), and the inductions over them.
Trusted boundary: none
-/
import Mathlib.Data.List.Induction

namespace Relational

/-- A store whose operations are atomic transactions. -/
structure Machine (σ ι : Type) where
  init : σ
  step : σ → ι → σ

namespace Machine

variable {σ ι : Type} (machine : Machine σ ι)

/-- The state after a list of transactions, in commit order. -/
def run (ops : List ι) : σ :=
  ops.foldl machine.step machine.init

@[simp] theorem run_nil : machine.run [] = machine.init := rfl

@[simp] theorem run_concat (ops : List ι) (op : ι) : machine.run (ops ++ [op]) = machine.step (machine.run ops) op := by
  simp [run]

/-- Every step of the run meets `guard` in the state it is taken from. -/
def Respects (guard : σ → ι → Prop) (ops : List ι) : Prop :=
  ∀ before op after, ops = before ++ op :: after → guard (machine.run before) op

variable {machine}

/-- An invariant holds after every run. -/
theorem invariant (inv : σ → Prop) (start : inv machine.init)
    (step : ∀ state op, inv state → inv (machine.step state op)) (ops : List ι) : inv (machine.run ops) := by
  induction ops using List.reverseRecOn with
  | nil => exact start
  | append_singleton ops op ih =>
    rw [run_concat]
    exact step _ op ih

theorem Respects.of_concat {guard : σ → ι → Prop} {ops : List ι} {op : ι}
    (respects : machine.Respects guard (ops ++ [op])) : machine.Respects guard ops ∧ guard (machine.run ops) op := by
  refine ⟨?_, respects ops op [] rfl⟩
  intro before current after split
  exact respects before current (after ++ [op]) (by simp [split])

theorem Respects.of_append {guard : σ → ι → Prop} {first second : List ι}
    (respects : machine.Respects guard (first ++ second)) : machine.Respects guard first := by
  intro before current after split
  exact respects before current (after ++ second) (by simp [split])

/-- An invariant of guarded steps holds after every run whose steps all meet the guard. -/
theorem guarded_invariant {guard : σ → ι → Prop} (inv : σ → Prop) (start : inv machine.init)
    (step : ∀ state op, inv state → guard state op → inv (machine.step state op))
    {ops : List ι} (respects : machine.Respects guard ops) : inv (machine.run ops) := by
  induction ops using List.reverseRecOn with
  | nil => exact start
  | append_singleton ops op ih =>
    obtain ⟨earlier, here⟩ := respects.of_concat
    rw [run_concat]
    exact step _ op (ih earlier) here

/-- A property that every guarded step keeps still holds after any guarded continuation. -/
theorem guarded_stable {guard : σ → ι → Prop} (property : σ → Prop)
    (step : ∀ before op, guard (machine.run before) op → property (machine.run before) →
      property (machine.step (machine.run before) op)) {first : List ι} (holds : property (machine.run first)) :
    ∀ {second : List ι}, machine.Respects guard (first ++ second) →
      property (machine.run (first ++ second)) := by
  intro second
  induction second using List.reverseRecOn with
  | nil => simpa using fun _ => holds
  | append_singleton second op ih =>
    intro respects
    rw [← List.append_assoc] at respects ⊢
    obtain ⟨earlier, here⟩ := respects.of_concat
    rw [run_concat]
    exact step _ op here (ih earlier)

/-- Every step of a run from `state` meets `guard`, read off the list of operations. -/
def RespectsFrom (machine : Machine σ ι) (guard : σ → ι → Prop) (state : σ) : List ι → Prop
  | [] => True
  | op :: rest => guard state op ∧ RespectsFrom machine guard (machine.step state op) rest

instance decidableRespectsFrom (guard : σ → ι → Prop) [∀ state op, Decidable (guard state op)] :
    ∀ (state : σ) (ops : List ι), Decidable (machine.RespectsFrom guard state ops)
  | _, [] => isTrue trivial
  | state, op :: rest =>
    have := decidableRespectsFrom guard (machine.step state op) rest
    inferInstanceAs (Decidable (_ ∧ _))

theorem RespectsFrom.respects {guard : σ → ι → Prop} {ops : List ι}
    (steps : machine.RespectsFrom guard machine.init ops) : machine.Respects guard ops := by
  intro before op after split
  subst split
  -- the prefix is consumed step by step
  have consumed : ∀ (before : List ι) (state : σ), machine.RespectsFrom guard state (before ++ op :: after) →
      guard (before.foldl machine.step state) op := by
    intro before
    induction before with
    | nil => exact fun state steps => steps.1
    | cons head tail ih =>
      exact fun state steps => ih (machine.step state head) steps.2
  exact consumed before machine.init steps

/-- A property that every step of a run keeps still holds after any continuation. -/
theorem stable (property : σ → Prop) (step : ∀ before op, property (machine.run before) →
      property (machine.step (machine.run before) op))
    {first : List ι} (holds : property (machine.run first)) (second : List ι) :
    property (machine.run (first ++ second)) := by
  have unguarded : machine.Respects (fun _ _ => True) (first ++ second) :=
    fun _ _ _ _ => trivial
  exact guarded_stable property (fun before op _ => step before op) holds unguarded

/-! ### Histories -/

/-- What the steps of a run from `state` emit, oldest first. -/
def emittedFrom {ε : Type} (machine : Machine σ ι) (emit : σ → ι → List ε) (state : σ) : List ι → List ε
  | [] => []
  | op :: rest => emit state op ++ emittedFrom machine emit (machine.step state op) rest

/-- What the steps of a run emit, oldest first. -/
def emitted {ε : Type} (machine : Machine σ ι) (emit : σ → ι → List ε) (ops : List ι) : List ε :=
  machine.emittedFrom emit machine.init ops

theorem emitted_concat {ε : Type} (emit : σ → ι → List ε) (ops : List ι) (op : ι) :
    machine.emitted emit (ops ++ [op]) = machine.emitted emit ops ++ emit (machine.run ops) op := by
  have consumed : ∀ (ops : List ι) (state : σ), machine.emittedFrom emit state (ops ++ [op]) =
        machine.emittedFrom emit state ops ++ emit (ops.foldl machine.step state) op := by
    intro ops
    induction ops with
    | nil => simp [emittedFrom]
    | cons head tail ih =>
      intro state
      simp only [List.cons_append, emittedFrom, ih, List.append_assoc, List.foldl_cons]
  exact consumed ops machine.init

/-- What a run has emitted is the beginning of what its continuations emit. -/
theorem emitted_append {ε : Type} (emit : σ → ι → List ε) (first second : List ι) :
    ∃ rest, machine.emitted emit (first ++ second) = machine.emitted emit first ++ rest := by
  induction second using List.reverseRecOn with
  | nil => exact ⟨[], by rw [List.append_nil, List.append_nil]⟩
  | append_singleton second op ih =>
    obtain ⟨rest, same⟩ := ih
    rw [← List.append_assoc, emitted_concat, same, List.append_assoc]
    exact ⟨_, rfl⟩

/-- An invariant of the state and of what has been emitted holds after every run whose steps all meet the
guard. -/
theorem guarded_history {ε : Type} {emit : σ → ι → List ε} {guard : σ → ι → Prop}
    (inv : σ → List ε → Prop) (start : inv machine.init [])
    (step : ∀ state history op, inv state history → guard state op →
      inv (machine.step state op) (history ++ emit state op)) {ops : List ι} (respects : machine.Respects guard ops) :
    inv (machine.run ops) (machine.emitted emit ops) := by
  induction ops using List.reverseRecOn with
  | nil => exact start
  | append_singleton ops op ih =>
    obtain ⟨earlier, here⟩ := respects.of_concat
    rw [run_concat, emitted_concat]
    exact step _ _ op (ih earlier) here

/-- An invariant of the state and of what has been emitted holds after every run. -/
theorem history_invariant {ε : Type} {emit : σ → ι → List ε} (inv : σ → List ε → Prop) (start : inv machine.init [])
    (step : ∀ state history op, inv state history → inv (machine.step state op) (history ++ emit state op))
    (ops : List ι) : inv (machine.run ops) (machine.emitted emit ops) := by
  have unguarded : machine.Respects (fun _ _ => True) ops := fun _ _ _ _ => trivial
  exact guarded_history inv start (fun state history op before _ => step state history op before)
    unguarded

/-! ### Goals -/

/-- A run reaches a goal when every run that is not there yet can take a step that lowers its rank. -/
theorem reaches {α : Type} {rel : α → α → Prop} (wellFounded : WellFounded rel) (rank : σ → α) (goal : σ → Prop)
    (allowed : ι → Prop) (step : ∀ ops, ¬ goal (machine.run ops) →
      ∃ op, allowed op ∧ rel (rank (machine.run (ops ++ [op]))) (rank (machine.run ops)))
    (ops : List ι) : ∃ more, (∀ op ∈ more, allowed op) ∧ goal (machine.run (ops ++ more)) := by
  -- the induction is on the rank of the run
  induction here : rank (machine.run ops) using wellFounded.induction generalizing ops with
  | _ value ih =>
    by_cases there : goal (machine.run ops)
    · refine ⟨[], fun op none => absurd none List.not_mem_nil, ?_⟩
      rw [List.append_nil]
      exact there
    · obtain ⟨op, fine, lower⟩ := step ops there
      rw [here] at lower
      obtain ⟨more, others, reached⟩ := ih _ lower (ops ++ [op]) rfl
      refine ⟨op :: more, ?_, ?_⟩
      · intro other member
        rcases List.mem_cons.mp member with rfl | later
        · exact fine
        · exact others other later
      · rw [List.append_cons]
        exact reached

end Machine

end Relational
