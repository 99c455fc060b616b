/-
Module: HardwareDatabase.Proofs.MaintenanceLeases
Purpose: The tokens of the maintenance lease tell processes apart in just the runs in which no process calls while the
  row shows its owner id from a grant to another one.
Trusted boundary: none
-/
import HardwareDatabase.Governor.Maintenance

namespace HardwareDatabase.Governor

open Relational

/-! ### Steps -/

/-- What a step does: nothing, a process begins or ends, or it acquires, renews or releases the lease. -/
inductive Effect (pid : Nat → Nat) (state : MaintenanceState) (process : Nat) :
    MaintenanceState → Option Int → Prop
  | nothing : Effect pid state process state none
  | settle (stage : Stage) (empty : ∀ token, stage ≠ .alive (some token)) :
      Effect pid state process (state.setStage process stage) none
  | acquire (leaseSeconds : Int) (now : Nat) (acquired : Option (Lease String) × Option Int)
      (made : acquired = tryAcquireMaintenance state.lease (maintainerId (pid process)) leaseSeconds now) :
      Effect pid state process ({ state with lease := acquired.1 }.setStage process (.alive acquired.2)) acquired.2
  | renew (held leaseSeconds : Int) (now : Nat) (left : Option Int)
      (alive : state.stage process = .alive (some held)) (kept : ∀ token, left = some token → token = held) :
      Effect pid state process
        ({ state with
            lease := (renewMaintenance state.lease (maintainerId (pid process)) held leaseSeconds now).1 }.setStage
          process (.alive left)) none
  | release (held : Int) (stage : Stage) (empty : ∀ token, stage ≠ .alive (some token)) :
      Effect pid state process
        ({ state with lease := (releaseMaintenance state.lease (maintainerId (pid process)) held).1 }.setStage
          process stage) none

section Steps

variable {pid : Nat → Nat}

private theorem call_effect (state : MaintenanceState) (process : Nat) {token : Option Int}
    (alive : state.stage process = .alive token) (now : Nat) (operation : MaintenanceCall) :
    Effect pid state process (state.call pid process token now operation).1
      (state.call pid process token now operation).2 := by
  cases operation with
  | tryAcquire leaseSeconds => exact .acquire leaseSeconds now _ rfl
  | renew leaseSeconds =>
    cases token with
    | none => exact .nothing
    | some held =>
      refine .renew held leaseSeconds now _ alive ?_
      intro token kept
      split at kept
      · exact (Option.some.inj kept).symm
      · cases kept
  | release =>
    cases token with
    | none => exact .nothing
    | some held => exact .release held _ (fun token => nofun)

private theorem perform_effect (pid : Nat → Nat) (state : MaintenanceState) (op : MaintenanceOp) :
    Effect pid state op.process (state.perform pid op).1 (state.perform pid op).2 := by
  cases op with
  | start | crash =>
    simp only [MaintenanceState.perform]
    split
    · exact .settle _ (fun token => nofun)
    · exact .nothing
  | call process now operation =>
    simp only [MaintenanceState.perform]
    split
    · rename_i token alive
      exact call_effect state process alive now operation
    · exact .nothing
  | iterate process now =>
    simp only [MaintenanceState.perform]
    split
    · rename_i token alive
      exact call_effect state process alive now _
    · exact .nothing
  | stop process raises =>
    simp only [MaintenanceState.perform]
    split
    · rename_i token alive
      cases token with
      | none => exact .settle _ (fun token => nofun)
      | some held =>
        cases raises with
        | true => exact .settle _ (fun token => nofun)
        | false => exact .release held _ (fun token => nofun)
    · exact .nothing

private theorem Effect.operation {state after : MaintenanceState} {process : Nat} {granted : Option Int}
    (effect : Effect pid state process after granted) :
    Lease.Operation "" (maintainerId (pid process)) state.lease after.lease granted := by
  cases effect with
  | nothing => exact .nothing
  | settle => exact .nothing
  | acquire leaseSeconds now acquired made =>
    subst made
    exact .acquire now _
  | renew held => exact .renew held _
  | release held => exact .release held

private theorem Effect.holds {state after : MaintenanceState} {acting : Nat} {granted : Option Int}
    (effect : Effect pid state acting after granted) {process : Nat} {token : Int}
    (holds : after.stage process = .alive (some token)) :
    state.stage process = .alive (some token) ∨ process = acting ∧ granted = some token := by
  have updated : ∀ stage, Function.update state.stage acting stage process = .alive (some token) →
      state.stage process = .alive (some token) ∨ process = acting ∧ stage = .alive (some token) := by
    intro stage now
    by_cases here : process = acting
    · subst here
      rw [Function.update_self] at now
      exact Or.inr ⟨rfl, now⟩
    · rw [Function.update_of_ne here] at now
      exact Or.inl now
  cases effect with
  | nothing => exact Or.inl holds
  | settle stage empty =>
    rcases updated stage holds with before | ⟨-, now⟩
    · exact Or.inl before
    · exact absurd now (empty token)
  | acquire =>
    rcases updated _ holds with before | ⟨here, taken⟩
    · exact Or.inl before
    · exact Or.inr ⟨here, Stage.alive.inj taken⟩
  | renew held leaseSeconds now left alive kept =>
    rcases updated _ holds with before | ⟨here, still⟩
    · exact Or.inl before
    · rw [here, kept token (Stage.alive.inj still)]
      exact Or.inl alive
  | release held stage empty =>
    rcases updated stage holds with before | ⟨-, now⟩
    · exact Or.inl before
    · exact absurd now (empty token)

private theorem perform_granted (pid : Nat → Nat) (state : MaintenanceState) (op : MaintenanceOp) :
    (op.acquires state = true ∧ ∃ leaseSeconds now, (state.perform pid op).2 =
        (tryAcquireMaintenance state.lease (maintainerId (pid op.process)) leaseSeconds now).2) ∨
      (op.acquires state = false ∧ (state.perform pid op).2 = none) := by
  cases op with
  | start | stop | crash =>
    simp only [MaintenanceState.perform]
    split
    · exact Or.inr ⟨rfl, rfl⟩
    · exact Or.inr ⟨rfl, rfl⟩
  | call process now operation =>
    cases operation with
    | tryAcquire leaseSeconds =>
      simp only [MaintenanceState.perform, MaintenanceOp.acquires]
      split
      · exact Or.inl ⟨rfl, leaseSeconds, now, rfl⟩
      · exact Or.inr ⟨rfl, rfl⟩
    | renew | release =>
      simp only [MaintenanceState.perform]
      split
      · rename_i token alive
        cases token <;> exact Or.inr ⟨rfl, rfl⟩
      · exact Or.inr ⟨rfl, rfl⟩
  | iterate process now =>
    simp only [MaintenanceState.perform, MaintenanceOp.acquires]
    split
    · rename_i token alive
      rw [alive]
      cases token with
      | none => exact Or.inl ⟨rfl, 15, now, rfl⟩
      | some => exact Or.inr ⟨rfl, rfl⟩
    · rename_i idle
      refine Or.inr ⟨?_, rfl⟩
      exact beq_eq_false_iff_ne.mpr fun alive => idle none alive

end Steps

/-! ### Runs -/

variable {ops : List MaintenanceOp}

section Runs

variable (pid : Nat → Nat)

/-- After a run a live process holds a token. -/
def Holds (ops : List MaintenanceOp) (process : Nat) (token : Int) : Prop :=
  ((maintenance pid).run ops).stage process = .alive (some token)

/-- At no instant of a run two live processes hold the same token, and the token increases whenever the lease
passes from one process to another. -/
def TokensFence (ops : List MaintenanceOp) : Prop :=
  (∀ before after, ops = before ++ after → ∀ first second token, Holds pid before first token →
      Holds pid before second token → first = second) ∧
    ∀ first second token next, [(first, token), (second, next)].Sublist (maintenanceGrants pid ops) →
      first ≠ second → token < next

/-- No process calls for the lease while the row shows its owner id from a grant to another process. -/
def Unmistaken (ops : List MaintenanceOp) : Prop :=
  ∀ before op after, ops = before ++ op :: after → op.acquires ((maintenance pid).run before) = true →
    Follows (fun process => maintainerId (pid process)) ((maintenance pid).run before).lease
      (maintenanceGrants pid before) op.process

variable {pid}

private theorem maintenance_tracks (pid : Nat → Nat) (ops : List MaintenanceOp) :
    Grants "" (fun process => maintainerId (pid process)) ((maintenance pid).run ops).lease
        (maintenanceGrants pid ops) ∧
      ∀ process token, Holds pid ops process token → (process, token) ∈ maintenanceGrants pid ops := by
  refine Machine.history_invariant (fun (state : MaintenanceState) history =>
    Grants "" (fun process => maintainerId (pid process)) state.lease history ∧
      ∀ process token, state.stage process = .alive (some token) → (process, token) ∈ history)
    ⟨Grants.nil, fun process token holds => by cases holds⟩ ?_ ops
  rintro state history op ⟨tracked, held⟩
  have effect := perform_effect pid state op
  refine ⟨tracked.step effect.operation, fun process token holds => ?_⟩
  rcases effect.holds holds with before | ⟨rfl, granted⟩
  · exact List.mem_append_left _ (held process token before)
  · apply List.mem_append_right
    rw [granted]
    exact List.mem_singleton_self _

private theorem maintenanceGrants_concat (ops : List MaintenanceOp) (op : MaintenanceOp) :
    maintenanceGrants pid (ops ++ [op]) =
      maintenanceGrants pid ops ++ (((maintenance pid).run ops).perform pid op).2.toList.map (op.process, ·) :=
  Machine.emitted_concat _ ops op

private theorem maintenanceGrants_append (pid : Nat → Nat) (first second : List MaintenanceOp) :
    ∃ rest, maintenanceGrants pid (first ++ second) = maintenanceGrants pid first ++ rest :=
  Machine.emitted_append _ first second

private theorem Unmistaken.of_append {first second : List MaintenanceOp}
    (unmistaken : Unmistaken pid (first ++ second)) :
    Unmistaken pid first := by
  intro before op after split
  exact unmistaken before op (after ++ second) (by simp [split])

private theorem ordered_of_unmistaken (unmistaken : Unmistaken pid ops) : Ordered (maintenanceGrants pid ops) := by
  induction ops using List.reverseRecOn with
  | nil => exact List.Pairwise.nil
  | append_singleton ops op ih =>
    rw [maintenanceGrants_concat]
    apply (maintenance_tracks pid ops).1.ordered_step (ih unmistaken.of_append)
      (perform_effect pid _ op).operation
    intro granted
    rcases perform_granted pid ((maintenance pid).run ops) op with ⟨acquires, -⟩ | ⟨-, refused⟩
    · exact unmistaken ops op [] rfl acquires
    · exact absurd refused granted

private theorem unmistaken_of_fence (fence : TokensFence pid ops) : Unmistaken pid ops := by
  intro before op after split acquires lease there own last latest
  by_contra different
  obtain ⟨holder, holds, -⟩ := (maintenance_tracks pid before).1.getLast? there
  cases holds.symm.trans latest
  obtain ⟨earlier, history⟩ := List.getLast?_eq_some_iff.mp latest
  have again : (((maintenance pid).run before).perform pid op).2 = some lease.token := by
    rcases perform_granted pid ((maintenance pid).run before) op with
      ⟨-, leaseSeconds, now, granted⟩ | ⟨idle, -⟩
    · rw [granted, there, tryAcquireMaintenance]
      simp only [Lease.acquire]
      rw [if_pos own]
    · rw [acquires] at idle
      cases idle
  obtain ⟨rest, continued⟩ := maintenanceGrants_append pid (before ++ [op]) after
  have taken : [(holder, lease.token), (op.process, lease.token)].Sublist (maintenanceGrants pid ops) := by
    have whole : maintenanceGrants pid ops =
        earlier ++ ([(holder, lease.token), (op.process, lease.token)] ++ rest) := by
      rw [split, List.append_cons, continued, maintenanceGrants_concat, history, again]
      simp
    rw [whole]
    exact (List.sublist_append_left _ rest).trans (List.sublist_append_right earlier _)
  exact absurd (fence.2 _ _ _ _ taken different) (Int.lt_irrefl _)

private theorem fence_of_unmistaken (unmistaken : Unmistaken pid ops) : TokensFence pid ops := by
  constructor
  · intro before after split first second token firstHolds secondHolds
    have ordered := ordered_of_unmistaken (split ▸ unmistaken).of_append
    obtain ⟨-, granted⟩ := maintenance_tracks pid before
    exact ordered.unique (granted first token firstHolds) (granted second token secondHolds) rfl
  · intro first second token next taken different
    have fenced : Fenced (first, token) (second, next) :=
      (ordered_of_unmistaken unmistaken).forall_sublist taken
    exact fenced.2 different

end Runs

/-- The tokens fence off the processes in just the runs in which no process calls for the lease while the row
shows its owner id from a grant to another process. -/
theorem maintenance_tokens_fence_iff (pid : Nat → Nat) (ops : List MaintenanceOp) :
    TokensFence pid ops ↔ Unmistaken pid ops :=
  ⟨unmistaken_of_fence, fence_of_unmistaken⟩

/-- Two containers whose maintainers both have process id one hold the same token. -/
theorem maintenance_tokens_shared : ¬ ∀ pid ops, TokensFence pid ops := by
  intro always
  have fence := (always (fun _ => 1) [.start 0, .start 1, .iterate 0 0, .iterate 1 5000000]).1 _ []
    (List.append_nil _).symm 0 1 1
  have first : Holds (fun _ => 1) [.start 0, .start 1, .iterate 0 0, .iterate 1 5000000] 0 1 := by
    unfold Holds
    decide +kernel
  have second : Holds (fun _ => 1) [.start 0, .start 1, .iterate 0 0, .iterate 1 5000000] 1 1 := by
    unfold Holds
    decide +kernel
  exact absurd (fence first second) (by decide)

end HardwareDatabase.Governor
