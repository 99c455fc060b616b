/-
Module: HardwareDatabase.Proofs.TurnSequences
Purpose: The turn sequence numbers of a session grow as long as the reconciliation at construction lowers no counter.
Trusted boundary: none
-/
import HardwareDatabase.Proofs.TurnRuns

namespace HardwareDatabase.Conversation

open Relational

/-- The numbers that were handed out for a session, oldest first. -/
def Store.handedOut (store : Store) (sessionId : Nat) : List Nat :=
  ((store.history.allotted.filter fun entry => entry.1 == sessionId).map Prod.snd).reverse

/-- The reconciliation would lower no counter: every session's counter is at most the successor of the
largest sequence number among its surviving turns. -/
def Store.CountersReconciled (store : Store) : Prop :=
  ∀ session ∈ store.sessions, session.nextTurnSequence ≤ store.reconciledSequence session

/-- The condition on an operation: a first construction in a process finds the counters reconciled. -/
def KeepsCounters (store : Store) : Op → Prop
  | .construct initialized => initialized = false → store.CountersReconciled
  | _ => True

instance (store : Store) : Decidable store.CountersReconciled :=
  inferInstanceAs (Decidable (∀ session ∈ store.sessions, _ ≤ _))

instance (store : Store) (op : Op) : Decidable (KeepsCounters store op) := by
  apply Op.casesOn (motive := fun op => Decidable (KeepsCounters store op)) op <;> intros <;>
    simp only [KeepsCounters] <;> infer_instance

/-- The permission that the steps ask for. -/
def mayReconcile (store : Store) : Deed → Prop
  | .reconcile => store.CountersReconciled
  | _ => True

private theorem pointerBlind_mayReconcile : PointerBlind mayReconcile := by
  intro store p f deed _ allowed
  cases deed <;> exact allowed

private theorem KeepsCounters.permits {store : Store} {op : Op} (keeps : KeepsCounters store op) :
    Permits mayReconcile store op := by
  cases op with
  | construct => exact keeps
  | transitionWaitingTurn turnId outcome =>
    cases outcome with
    | pending => trivial
    | failed => exact fun _ _ _ _ => trivial
  | claimTurnResult => exact fun _ _ => trivial
  | completeTurnResult => exact fun _ _ _ => trivial
  | _ => trivial

/-- The counters are ahead of everything that was handed out. -/
structure SequencesOk (store : Store) : Prop where
  known : ∀ entry ∈ store.history.allotted, entry.1 < store.nextSessionId
  behind : ∀ entry ∈ store.history.allotted, ∀ session ∈ store.sessions,
    session.id = entry.1 → entry.2 < session.nextTurnSequence
  increasing : store.history.allotted.Pairwise fun newer older =>
    newer.1 = older.1 → older.2 < newer.2

namespace SequencesOk

variable {env : Environment} {old new : Store}

section

variable (sequences : SequencesOk old)
include sequences

private theorem of_counters (history : new.history.allotted = old.history.allotted)
    (nextSession : old.nextSessionId ≤ new.nextSessionId)
    (counters : ∀ session ∈ new.sessions, old.nextSessionId ≤ session.id ∨
      ∃ before ∈ old.sessions, before.id = session.id ∧
        before.nextTurnSequence ≤ session.nextTurnSequence) : SequencesOk new where
  known := by
    intro entry member
    rw [history] at member
    exact Nat.lt_of_lt_of_le (sequences.known entry member) nextSession
  behind := by
    intro entry member session sessionMember home
    rw [history] at member
    rcases counters session sessionMember with fresh | ⟨before, beforeMember, same, kept⟩
    · have earlier := sequences.known entry member
      omega
    · exact Nat.lt_of_lt_of_le
        (sequences.behind entry member before beforeMember (same.trans home)) kept
  increasing := by
    rw [history]
    exact sequences.increasing

private theorem of_same (history : new.history.allotted = old.history.allotted)
    (sessions : new.sessions = old.sessions) (nextSession : new.nextSessionId = old.nextSessionId) :
    SequencesOk new := by
  apply sequences.of_counters history (Nat.le_of_eq nextSession.symm)
  intro session member
  rw [sessions] at member
  exact Or.inr ⟨session, member, rfl, Nat.le_refl _⟩

private theorem allot {session : Session} {f : Session → Session}
    (member : session ∈ old.sessions) (fresh : session.id < old.nextSessionId)
    (keeps : ∀ session, (f session).id = session.id) :
    SequencesOk (old.allot session.id (old.sequenceToAllot session) f) := by
  have ahead : session.nextTurnSequence ≤ old.sequenceToAllot session := by
    rw [Store.sequenceToAllot]
    apply Nat.le_trans _ (Nat.le_max_left _ _)
    split <;> omega
  have later : ∀ entry ∈ old.history.allotted, entry.1 = session.id →
      entry.2 < old.sequenceToAllot session := by
    intro entry entryMember home
    exact Nat.lt_of_lt_of_le (sequences.behind entry entryMember session member home.symm) ahead
  constructor
  case known =>
    intro entry entryMember
    rcases List.mem_cons.mp entryMember with rfl | earlier
    · exact fresh
    · exact sequences.known entry earlier
  case behind =>
    intro entry entryMember row rowMember home
    obtain ⟨before, beforeMember, rfl⟩ := exists_of_mem_updateWhere rowMember
    by_cases here : before.id = session.id
    · have selected : (before.id == session.id) = true := by simp [here]
      rw [if_pos selected] at home ⊢
      have bound : entry.2 ≤ old.sequenceToAllot session := by
        rcases List.mem_cons.mp entryMember with rfl | earlier
        · exact Nat.le_refl _
        · exact Nat.le_of_lt (later entry earlier (by rw [← home, keeps, here]))
      exact Nat.lt_succ_of_le bound
    · have skipped : ¬ (before.id == session.id) = true := by simp [here]
      rw [if_neg skipped] at home ⊢
      rcases List.mem_cons.mp entryMember with rfl | earlier
      · exact absurd home here
      · exact sequences.behind entry earlier before beforeMember home
  case increasing =>
    apply List.pairwise_cons.mpr
    exact ⟨fun older olderMember same => later older olderMember same.symm, sequences.increasing⟩

private theorem step (ok : StoreOk old) (step : TurnStep env mayReconcile old new) : SequencesOk new := by
  cases step with
  | quiet same => exact sequences.of_same (by rw [same.history]) same.sessions same.nextSession
  | describe keeps =>
    apply sequences.of_counters
    · rfl
    · exact Nat.le_refl _
    · intro session member
      obtain ⟨before, beforeMember, rfl⟩ := exists_of_mem_updateWhere member
      refine Or.inr ⟨before, beforeMember, ?_⟩
      split
      · exact ⟨(keeps before).1.symm, Nat.le_of_eq (keeps before).2.2.symm⟩
      · exact ⟨rfl, Nat.le_refl _⟩
  | openSession fresh =>
    apply sequences.of_counters
    · rfl
    · exact Nat.le_succ _
    · intro session member
      rcases List.mem_append.mp member with earlier | here
      · exact Or.inr ⟨session, earlier, rfl, Nat.le_refl _⟩
      · rw [List.mem_singleton.mp here, fresh]
        exact Or.inl (Nat.le_refl _)
  | reconcile allowed =>
    apply sequences.of_counters
    · rfl
    · exact Nat.le_refl _
    · intro session member
      obtain ⟨before, beforeMember, rfl⟩ := exists_of_mem_updateWhere member
      refine Or.inr ⟨before, beforeMember, ?_⟩
      split
      · exact ⟨rfl, allowed before beforeMember⟩
      · exact ⟨rfl, Nat.le_refl _⟩
  | @create request session now member =>
    have allotted : SequencesOk (old.allot session.id (old.sequenceToAllot session) fun row =>
        { row with
          title := if row.title = untitled then Store.titleFrom (Python.strip request.query)
            else row.title }) :=
      sequences.allot member (ok.sessionFresh session member) fun _ => rfl
    exact allotted.of_same rfl rfl rfl
  | allot member => exact sequences.allot member (ok.sessionFresh _ member) fun _ => rfl
  | drop =>
    apply sequences.of_counters
    · rfl
    · exact Nat.le_refl _
    · intro session member
      exact Or.inr ⟨session, mem_of_mem_deleteWhere member, rfl, Nat.le_refl _⟩
  | @conclude turn f text =>
    cases text <;> exact sequences.of_same rfl rfl rfl
  | _ => exact sequences.of_same rfl rfl rfl

end

end SequencesOk

variable {env : Environment}

private theorem sequencesOk_run {ops : List Op} (respects : (conversationService env).Respects KeepsCounters ops) :
    SequencesOk ((conversationService env).run ops) := by
  apply turnSteps_invariant SequencesOk pointerBlind_mayReconcile
  · constructor <;> simp [Store.empty]
  · exact fun ok sequences step => sequences.step ok step
  · exact fun before op after split => (respects before op after split).permits

/-- As long as no construction lowers a counter, the numbers of a session are handed out in strictly
increasing order. -/
theorem sequences_strictly_increase {env : Environment} {ops : List Op}
    (respects : (conversationService env).Respects KeepsCounters ops) (sessionId : Nat) :
    (((conversationService env).run ops).handedOut sessionId).Pairwise (· < ·) := by
  have increasing := (sequencesOk_run respects).increasing
  rw [Store.handedOut, List.pairwise_reverse, List.pairwise_map]
  apply (increasing.filter _).imp_of_mem
  intro newer older newerMember olderMember lower
  have newerHome := (List.mem_filter.mp newerMember).2
  have olderHome := (List.mem_filter.mp olderMember).2
  simp only [beq_iff_eq] at newerHome olderHome
  exact lower (newerHome.trans olderHome.symm)

/-- A turn before and a turn after a restart of the service. -/
theorem sequences_increase_over_restart : (((conversationService sampleEnvironment).run
      [.createSession 1 "kb" "board" none (some 3), .createTurn sampleRequest 5, .construct false,
        .createTurn sampleRequest 9]).handedOut 1).Pairwise (· < ·) :=
  sequences_strictly_increase (Machine.RespectsFrom.respects (by decide)) 1

/-- A cleared session starts again at 1 when the service is constructed anew. -/
theorem cleared_sequence_reused : ¬ (((conversationService sampleEnvironment).run
      [.createSession 1 "kb" "board" none (some 3), .createTurn sampleRequest 5, .clearSession 1 1 7,
        .construct false, .createTurn sampleRequest 9]).handedOut 1).Pairwise (· < ·) := by
  decide

/-! ### The order of the turns -/

/-- The turns of a session, and their answers, come in the order of their sequence numbers. -/
def Store.TurnsInOrder (store : Store) : Prop :=
  ∀ turn ∈ store.turns, ∀ later ∈ store.turns, turn.sessionId = later.sessionId →
    ∀ first second, turn.turnSequence = some first → later.turnSequence = some second → turn.id < later.id →
      first < second ∧ turn.assistantMessageId < later.assistantMessageId

private theorem Store.TurnsInOrder.step {may : Store → Deed → Prop} {old new : Store} (ok : StoreOk old)
    (ordered : old.TurnsInOrder) (step : TurnStep env may old new) : new.TurnsInOrder := by
  intro turn found later laterFound session first second numbered laterNumbered lower
  rcases step.turn_origin ok found with ⟨before, member, identity, -⟩ | isNew
  · rw [Turn.id_of_identity identity] at lower
    rw [Turn.sessionId_of_identity identity] at session
    rw [Turn.turnSequence_of_identity identity] at numbered
    rw [Turn.assistantMessageId_of_identity identity]
    rcases step.turn_origin ok laterFound with ⟨laterBefore, laterMember, laterIdentity, -⟩ | isNew
    · rw [Turn.id_of_identity laterIdentity] at lower
      rw [Turn.sessionId_of_identity laterIdentity] at session
      rw [Turn.turnSequence_of_identity laterIdentity] at laterNumbered
      rw [Turn.assistantMessageId_of_identity laterIdentity]
      exact ordered before member laterBefore laterMember session first second numbered laterNumbered lower
    · obtain ⟨sequence, stored, above⟩ := isNew.sequence
      cases laterNumbered.symm.trans stored
      have below := le_maxTurnSequence member numbered
      have answer := ok.assistantFresh before member
      rw [← session] at above
      rw [isNew.message]
      omega
  · -- a new turn has the largest id
    have laterFresh : later.id ≤ old.nextTurnId := by
      rcases step.turn_origin ok laterFound with ⟨laterBefore, laterMember, laterIdentity, -⟩ | laterNew
      · rw [Turn.id_of_identity laterIdentity]
        exact Nat.le_of_lt (ok.turnFresh laterBefore laterMember)
      · exact Nat.le_of_eq laterNew.id
    rw [isNew.id] at lower
    omega

/-- The id of a turn is used, and it stands for no other turn. -/
def Turn.KeptIn (turn : Turn) (store : Store) : Prop :=
  turn.id < store.nextTurnId ∧ ∀ later ∈ store.turns, later.id = turn.id → later.identity = turn.identity

private theorem Turn.KeptIn.step {may : Store → Deed → Prop} {old new : Store} {turn : Turn}
    (kept : turn.KeptIn old) (ok : StoreOk old) (step : TurnStep env may old new) : turn.KeptIn new := by
  obtain ⟨used, same⟩ := kept
  refine ⟨Nat.lt_of_lt_of_le used step.counters.1, ?_⟩
  intro later found here
  rcases step.turn_origin ok found with ⟨before, member, identity, -⟩ | isNew
  · rw [identity]
    exact same before member ((Turn.id_of_identity identity).symm.trans here)
  · rw [isNew.id] at here
    omega

/-- In every run the turns of a session have their sequence numbers and their answers in the order in which they
were created, also where the reconciliation hands numbers out again; and a turn id that is in use never stands for
another turn later: its session, its messages and its number stay. -/
theorem turns_in_creation_order (env : Environment) (first second : List Op) :
    ((conversationService env).run first).TurnsInOrder ∧ ∀ turn ∈ ((conversationService env).run first).turns,
        ∀ later ∈ ((conversationService env).run (first ++ second)).turns, later.id = turn.id →
          later.identity = turn.identity := by
  constructor
  · exact anySteps_invariant Store.TurnsInOrder (fun _ member => absurd member List.not_mem_nil)
      (fun ok ordered step => ordered.step ok step) first
  · intro turn member
    have ok := storeOk_run env first
    have kept : turn.KeptIn ((conversationService env).run (first ++ second)) := by
      apply Machine.stable turn.KeptIn
      · intro before op kept
        have ok := storeOk_run env before
        exact (exec_turnSteps ok pointerBlind_anyDeed (permits_anyDeed op)).keep
          (fun okOld kept step => kept.step okOld step) ok kept
      · refine ⟨ok.turnFresh turn member, ?_⟩
        intro later found here
        rw [ok.turnIds.eq_of_key found member here]
    exact kept.2

end HardwareDatabase.Conversation
