/-
Module: HardwareDatabase.Relational.Breadth
Purpose: Breadth-first search from several sources to the first of several targets, and the way back to a source.
Trusted boundary: none
-/
import HardwareDatabase.Python.OrderedDict
import Mathlib.Data.List.Chain

namespace Relational

open HardwareDatabase.Python

/-! ### The search -/

/-- The variables of the search. -/
structure Search (α β : Type) where
  /-- the node before each node that is found, and the label of the step from it -/
  previous : OrderedDict α (Option (α × β))
  queue : List α
  found : Option α := none

/-- A step of a path. -/
structure Hop (α β : Type) where
  before : α
  after : α
  label : β

variable {α β : Type} [DecidableEq α]

/-- The loop over the neighbours of a node, which ends at a new target. -/
def visit (targets : List α) (current : α) : Search α β → List (α × β) → Search α β
  | search, [] => search
  | search, (peer, label) :: rest =>
    if search.previous.contains peer = true then visit targets current search rest
    else
      let previous := search.previous.assign peer (some (current, label))
      if peer ∈ targets then { search with previous, found := some peer }
      else visit targets current { search with previous, queue := search.queue ++ [peer] } rest

/-- The loop over the queue, which ends when a target is found. -/
def advance (neighbours : α → List (α × β)) (targets : List α) : Nat → Search α β → Search α β
  | 0, search => search
  | fuel + 1, search =>
    match search.found, search.queue with
    | none, current :: queue =>
      advance neighbours targets fuel (visit targets current { search with queue } (neighbours current))
    | _, _ => search

/-- The sources are found, and a target among them. -/
def startSearch (sources targets : List α) : Search α β :=
  let previous := OrderedDict.ofEntries (sources.map fun source => (source, none))
  { previous, queue := sources, found := targets.find? previous.contains }

/-- The way to a node: the nodes from a source on, and the steps. -/
def traceBack (previous : OrderedDict α (Option (α × β))) : Nat → α → List α × List (Hop α β)
  | 0, _ => ([], [])
  | fuel + 1, node =>
    match (previous.get? node).join with
    | none => ([node], [])
    | some (parent, label) =>
      let way := traceBack previous fuel parent
      (way.1 ++ [node], way.2 ++ [⟨parent, node, label⟩])

/-- The way to the target that is found. -/
def breadthFirst (neighbours : α → List (α × β)) (fuel : Nat) (sources targets : List α) :
    Option (List α × List (Hop α β)) :=
  let search := advance neighbours targets fuel (startSearch sources targets)
  search.found.map (traceBack search.previous search.previous.entries.length)

/-! ### Paths -/

/-- A path along a relation from a source to a target. -/
structure IsPath (related : α → α → Prop) (sources targets path : List α) : Prop where
  chain : path.IsChain related
  starts : ∃ source ∈ sources, path.head? = some source
  ends : ∃ target ∈ targets, path.getLast? = some target

variable (neighbours : α → List (α × β))

/-- The node is a neighbour of the other. -/
def Leads (node peer : α) : Prop :=
  ∃ label, (peer, label) ∈ neighbours node

/-- The steps are those between the nodes of a path. -/
structure StepsOf (path : List α) (hops : List (Hop α β)) : Prop where
  befores : hops.map Hop.before = path.dropLast
  afters : hops.map Hop.after = path.tail
  each : ∀ hop ∈ hops, (hop.after, hop.label) ∈ neighbours hop.before

/-! ### The tree of the search -/

/-- Each found node is a source or a neighbour of a found node that is a level above it. -/
structure Tree (sources : List α) (previous : OrderedDict α (Option (α × β))) (level : α → Nat) : Prop where
  root : ∀ {node : α}, previous.get? node = some none → node ∈ sources ∧ level node = 0
  branch : ∀ {node parent : α} {label : β}, previous.get? node = some (some (parent, label)) →
    previous.contains parent = true ∧ (node, label) ∈ neighbours parent ∧ level node = level parent + 1
  small : ∀ {node : α}, previous.contains node = true → level node < previous.entries.length

variable {neighbours} {sources targets : List α} {previous : OrderedDict α (Option (α × β))} {level : α → Nat}

variable {peer : α}

theorem length_assign (fresh : previous.contains peer ≠ true) (value : Option (α × β)) :
    (previous.assign peer value).entries.length = previous.entries.length + 1 := by
  have unknown : peer ∉ previous.entries.map Prod.fst := fun member =>
    fresh (OrderedDict.contains_iff.mpr (OrderedDict.mem_keys_iff.mp member))
  rw [OrderedDict.assign, dif_neg unknown, List.length_append, List.length_singleton]

theorem contains_assign (previous : OrderedDict α (Option (α × β))) (peer : α) (value : Option (α × β)) {node : α} :
    (previous.assign peer value).contains node = true ↔ node = peer ∨ previous.contains node = true := by
  rw [OrderedDict.contains, OrderedDict.get?_assign]
  split
  · rename_i same
    simp [same]
  · rename_i other
    simp [other, OrderedDict.contains]

/-- A new neighbour of a found node is a level below it. -/
theorem Tree.assign (tree : Tree neighbours sources previous level) {current : α} {label : β}
    (known : previous.contains current = true) (fresh : previous.contains peer ≠ true)
    (edge : (peer, label) ∈ neighbours current) : Tree neighbours sources (previous.assign peer (some (current, label)))
      (Function.update level peer (level current + 1)) := by
  have apart {node : α} (there : previous.contains node = true) : node ≠ peer := fun same => fresh (same ▸ there)
  refine ⟨fun {node} there => ?_, fun {node parent name} there => ?_, fun {node} there => ?_⟩
  · rw [OrderedDict.get?_assign] at there
    split at there
    · cases there
    · rename_i other
      rw [Function.update_of_ne other]
      exact tree.root there
  · rw [OrderedDict.get?_assign] at there
    split at there
    · rename_i same
      cases there
      rw [contains_assign, same, Function.update_self, Function.update_of_ne (apart known)]
      exact ⟨.inr known, edge, rfl⟩
    · rename_i other
      obtain ⟨above, step, deeper⟩ := tree.branch there
      rw [contains_assign, Function.update_of_ne other, Function.update_of_ne (apart above)]
      exact ⟨.inr above, step, deeper⟩
  · rw [length_assign fresh]
    rcases (contains_assign _ _ _).mp there with rfl | old
    · rw [Function.update_self]
      exact Nat.succ_lt_succ (tree.small known)
    · rw [Function.update_of_ne (apart old)]
      exact Nat.lt_succ_of_lt (tree.small old)

/-- The way to a found node is a path from a source, as long as the level of the node. -/
theorem Tree.traceBack_spec (tree : Tree neighbours sources previous level) {fuel : Nat} {node : α}
    (known : previous.contains node = true) (enough : level node < fuel) :
    (traceBack previous fuel node).1.IsChain (Leads neighbours) ∧
      (∃ source ∈ sources, (traceBack previous fuel node).1.head? = some source) ∧
      (traceBack previous fuel node).1.getLast? = some node ∧
      (traceBack previous fuel node).1.length = level node + 1 ∧
      StepsOf neighbours (traceBack previous fuel node).1 (traceBack previous fuel node).2 := by
  induction fuel generalizing node with
  | zero => exact absurd enough (Nat.not_lt_zero _)
  | succ fuel ih =>
    obtain ⟨entry, there⟩ := OrderedDict.contains_iff.mp known
    rw [traceBack, there]
    cases entry with
    | none =>
      obtain ⟨source, top⟩ := tree.root there
      exact ⟨.singleton node, ⟨node, source, rfl⟩, rfl, by rw [top]; rfl, rfl, rfl, nofun⟩
    | some step =>
      obtain ⟨parent, label⟩ := step
      obtain ⟨above, edge, deeper⟩ := tree.branch there
      obtain ⟨chain, ⟨source, member, starts⟩, ends, length, steps⟩ :=
        ih above (by omega)
      have some : (traceBack previous fuel parent).1 ≠ [] := by
        rw [← List.length_pos_iff, length]
        exact Nat.succ_pos _
      have closes : (traceBack previous fuel parent).1.dropLast ++ [parent] =
          (traceBack previous fuel parent).1 := List.dropLast_append_getLast? _ ends
      simp only [Option.join_some]
      refine ⟨?_, ⟨source, member, ?_⟩, ?_, ?_, ?_, ?_, fun hop there => ?_⟩
      · refine List.isChain_append.mpr ⟨chain, .singleton node, fun last isLast first isFirst => ?_⟩
        rw [ends] at isLast
        cases isLast
        cases isFirst
        exact ⟨label, edge⟩
      · rw [List.head?_append, starts]
        rfl
      · rw [List.getLast?_append]
        rfl
      · rw [List.length_append, length, deeper]
        rfl
      · rw [List.map_append, steps.befores, List.dropLast_concat]
        exact closes
      · rw [List.map_append, steps.afters, List.tail_append_of_ne_nil some]
        rfl
      · rcases List.mem_append.mp there with old | new
        · exact steps.each hop old
        · rw [List.mem_singleton.mp new]
          exact edge

/-! ### The order of the queue -/

/-- No target is found yet: the queue holds nodes of one level, and then of the next. The neighbours of a node that is
not in the queue are found, unless they are still waiting. -/
structure Layered (neighbours : α → List (α × β)) (sources targets : List α) (depth : Nat)
    (waiting : List (α × α × β)) (search : Search α β) (level : α → Nat) : Prop where
  tree : Tree neighbours sources search.previous level
  open_ : search.found = none
  rooted : ∀ source ∈ sources, search.previous.contains source = true ∧ level source = 0
  missed : ∀ {node : α}, search.previous.contains node = true → node ∉ targets
  shallow : ∀ {node : α}, search.previous.contains node = true → level node ≤ depth + 1
  queued : ∀ node ∈ search.queue, search.previous.contains node = true ∧ depth ≤ level node
  sorted : search.queue.Pairwise fun left right => level left ≤ level right
  closed : ∀ {node : α}, search.previous.contains node = true → node ∉ search.queue → ∀ step ∈ neighbours node,
    (node, step) ∈ waiting ∨ (search.previous.contains step.1 = true ∧ level step.1 ≤ level node + 1)
  pending : ∀ entry ∈ waiting,
    search.previous.contains entry.1 = true ∧ level entry.1 = depth ∧ entry.2 ∈ neighbours entry.1

namespace Layered

variable {depth : Nat} {waiting : List (α × α × β)} {search : Search α β} {current : α}

section

variable (inv : Layered neighbours sources targets depth waiting search level)
include inv

/-- A path that ends within the depth ends at a found node. -/
theorem near {node : α} {rest : List α}
    (chain : (node :: rest).IsChain (Leads neighbours)) (known : search.previous.contains node = true)
    (short : level node + rest.length ≤ depth) :
    ∀ last, (node :: rest).getLast? = some last → search.previous.contains last = true := by
  induction rest generalizing node with
  | nil => exact fun last ends => Option.some.inj ends ▸ known
  | cons next rest ih =>
    intro last ends
    obtain ⟨⟨label, edge⟩, later⟩ := List.isChain_cons_cons.mp chain
    rw [List.length_cons] at short
    have done : node ∉ search.queue := fun member => absurd (inv.queued node member).2 (by omega)
    rcases inv.closed known done _ edge with waits | ⟨found, above⟩
    · exact absurd (inv.pending _ waits).2.1 (show level node ≠ depth by omega)
    · exact ih later found (show level next + rest.length ≤ depth by
        have above : level next ≤ level node + 1 := above
        omega) last (by rwa [List.getLast?_cons_cons] at ends)

/-- A path from a source to a target is longer than the depth. -/
theorem far {path : List α} (isPath : IsPath (Leads neighbours) sources targets path) : depth + 2 ≤ path.length := by
  obtain ⟨chain, ⟨source, member, starts⟩, target, isTarget, ends⟩ := isPath
  by_contra short
  cases path with
  | nil => cases starts
  | cons =>
    cases starts
    obtain ⟨known, top⟩ := inv.rooted _ member
    rw [List.length_cons] at short
    exact inv.missed (inv.near chain known (by omega) target ends) isTarget

end

section

variable (inv : Layered neighbours sources targets depth [] search level)
include inv

/-- If nothing is left in the queue, no path leads to a target. -/
theorem exhausted (empty : search.queue = []) (path : List α) : ¬ IsPath (Leads neighbours) sources targets path := by
  have reached (rest : List α) : ∀ node, (node :: rest).IsChain (Leads neighbours) →
      search.previous.contains node = true →
        ∀ last, (node :: rest).getLast? = some last → search.previous.contains last = true := by
    induction rest with
    | nil => exact fun node _ known last ends => Option.some.inj ends ▸ known
    | cons next rest ih =>
      intro node chain known last ends
      obtain ⟨⟨label, edge⟩, later⟩ := List.isChain_cons_cons.mp chain
      have found := (inv.closed known (by simp [empty]) _ edge).resolve_left List.not_mem_nil
      exact ih next later found.1 last (by rwa [List.getLast?_cons_cons] at ends)
  rintro ⟨chain, ⟨source, member, starts⟩, target, isTarget, ends⟩
  cases path with
  | nil => cases starts
  | cons node rest =>
    cases starts
    exact inv.missed (reached rest _ chain (inv.rooted _ member).1 target ends) isTarget

theorem take {queue : List α}
    (first : search.queue = current :: queue) : Layered neighbours sources targets (level current)
      ((neighbours current).map fun step => (current, step)) { search with queue } level := by
  have sorted := inv.sorted
  rw [first, List.pairwise_cons] at sorted
  obtain ⟨known, low⟩ := inv.queued current (first ▸ List.mem_cons_self)
  refine ⟨inv.tree, inv.open_, inv.rooted, inv.missed, fun there => ?_, fun node member => ?_, sorted.2,
    fun {node} there gone step edge => ?_, fun entry member => ?_⟩
  · exact Nat.le_trans (inv.shallow there) (Nat.succ_le_succ low)
  · exact ⟨(inv.queued node (first ▸ List.mem_cons_of_mem _ member)).1, sorted.1 node member⟩
  · by_cases same : node = current
    · rw [same] at edge ⊢
      exact .inl (List.mem_map_of_mem edge)
    · exact .inr ((inv.closed there (by simp [first, same, gone]) step edge).resolve_left List.not_mem_nil)
  · obtain ⟨step, edge, rfl⟩ := List.mem_map.mp member
    exact ⟨known, rfl, edge⟩

end

theorem skip {label : β}
    (inv : Layered neighbours sources targets depth ((current, peer, label) :: waiting) search level)
    (known : search.previous.contains peer = true) : Layered neighbours sources targets depth waiting search level := by
  refine ⟨inv.tree, inv.open_, inv.rooted, inv.missed, inv.shallow, inv.queued, inv.sorted,
    fun there gone step edge => ?_, fun entry member => inv.pending entry (List.mem_cons_of_mem _ member)⟩
  rcases inv.closed there gone step edge with waits | found
  · rcases List.mem_cons.mp waits with same | later
    · cases same
      have same := (inv.pending _ List.mem_cons_self).2.1
      exact .inr ⟨known, by rw [same]; exact inv.shallow known⟩
    · exact .inl later
  · exact .inr found

theorem enqueue {label : β}
    (inv : Layered neighbours sources targets depth ((current, peer, label) :: waiting) search level)
    (fresh : search.previous.contains peer ≠ true) (other : peer ∉ targets) :
    Layered neighbours sources targets depth waiting
      { search with previous := search.previous.assign peer (some (current, label)), queue := search.queue ++ [peer] }
      (Function.update level peer (level current + 1)) := by
  obtain ⟨known, same, edge⟩ := inv.pending _ List.mem_cons_self
  have same : level current = depth := same
  have apart {node : α} (there : search.previous.contains node = true) : node ≠ peer := fun same => fresh (same ▸ there)
  have old {node : α} (there : search.previous.contains node = true) :
      Function.update level peer (level current + 1) node = level node := Function.update_of_ne (apart there) ..
  have grown {node : α} (there : search.previous.contains node = true) :
      (search.previous.assign peer (some (current, label))).contains node = true :=
    (contains_assign _ _ _).mpr (.inr there)
  refine ⟨inv.tree.assign known fresh edge, inv.open_, fun source member => ?_, fun there => ?_, fun {node} there => ?_,
    fun node member => ?_, ?_, fun {node} there gone step way => ?_, fun entry member => ?_⟩
  · obtain ⟨found, top⟩ := inv.rooted source member
    exact ⟨grown found, (old found).trans top⟩
  · rcases (contains_assign _ _ _).mp there with rfl | there
    · exact other
    · exact inv.missed there
  · rcases (contains_assign _ _ _).mp there with rfl | there
    · rw [Function.update_self, same]
    · rw [old there]
      exact inv.shallow there
  · rcases List.mem_append.mp member with there | new
    · obtain ⟨found, low⟩ := inv.queued node there
      exact ⟨grown found, by rwa [old found]⟩
    · rw [List.mem_singleton.mp new, Function.update_self, contains_assign, same]
      exact ⟨.inl rfl, Nat.le_succ _⟩
  · refine List.pairwise_append.mpr ⟨?_, List.pairwise_singleton _ _, fun left leftMember right rightMember => ?_⟩
    · refine inv.sorted.imp_of_mem fun {left right} leftMember rightMember below => ?_
      rwa [old (inv.queued left leftMember).1, old (inv.queued right rightMember).1]
    · have found := (inv.queued left leftMember).1
      rw [List.mem_singleton.mp rightMember, Function.update_self, old found, same]
      exact inv.shallow found
  · rw [List.mem_append, List.mem_singleton, not_or] at gone
    have found := ((contains_assign _ _ _).mp there).resolve_left gone.2
    rcases inv.closed found gone.1 step way with waits | ⟨reached, near⟩
    · rcases List.mem_cons.mp waits with first | later
      · cases first
        rw [contains_assign, Function.update_self, old found]
        exact .inr ⟨.inl rfl, Nat.le_refl _⟩
      · exact .inl later
    · rw [old reached, old found]
      exact .inr ⟨grown reached, near⟩
  · obtain ⟨found, top, way⟩ := inv.pending entry (List.mem_cons_of_mem _ member)
    exact ⟨grown found, (old found).trans top, way⟩

end Layered

/-! ### The outcome -/

/-- A target is found, and no path to a target is shorter than its level. -/
structure Nearest (neighbours : α → List (α × β)) (sources targets : List α) (search : Search α β) (node : α) :
    Prop where
  isTarget : node ∈ targets
  known : search.previous.contains node = true
  levels : ∃ level, Tree neighbours sources search.previous level ∧
    ∀ path, IsPath (Leads neighbours) sources targets path → level node + 1 ≤ path.length

/-- The nodes that are not found yet. -/
def unknown (nodes : List α) (search : Search α β) : Nat :=
  (nodes.filter fun node => !search.previous.contains node).length

variable {search : Search α β}

theorem unknown_assign {nodes : List α} (member : peer ∈ nodes)
    (fresh : search.previous.contains peer ≠ true) (value : Option (α × β)) (queue : List α) (found : Option α) :
    unknown nodes { previous := search.previous.assign peer value, queue, found } < unknown nodes search := by
  have both : (nodes.filter fun node => !(search.previous.assign peer value).contains node) =
      (nodes.filter fun node => !search.previous.contains node).filter
        fun node => !(search.previous.assign peer value).contains node := by
    rw [List.filter_filter]
    refine List.filter_congr fun node _ => ?_
    by_cases there : search.previous.contains node = true
    · rw [(contains_assign _ _ _).mpr (.inr there)]
      rfl
    · simp [there]
  rw [unknown, unknown, both, List.length_filter_lt_length_iff_exists]
  refine ⟨peer, List.mem_filter.mpr ⟨member, by simpa using fresh⟩, ?_⟩
  rw [(contains_assign _ _ _).mpr (.inl rfl)]
  nofun

/-- The loop over the neighbours finds a target, or keeps the order of the queue. -/
theorem visit_spec {current : α} {depth : Nat} (steps : List (α × β)) {level : α → Nat}
    (inv : Layered neighbours sources targets depth (steps.map fun step => (current, step)) search level)
    (nodes : List α) (covers : ∀ step ∈ steps, step.1 ∈ nodes) :
    (∃ node, (visit targets current search steps).found = some node ∧
      Nearest neighbours sources targets (visit targets current search steps) node) ∨
    ((∃ level, Layered neighbours sources targets depth [] (visit targets current search steps) level) ∧
      (visit targets current search steps).queue.length + unknown nodes (visit targets current search steps) ≤
        search.queue.length + unknown nodes search) := by
  induction steps generalizing search level with
  | nil => exact .inr ⟨⟨level, inv⟩, Nat.le_refl _⟩
  | cons step rest ih =>
    obtain ⟨peer, label⟩ := step
    have later : ∀ step ∈ rest, step.1 ∈ nodes := fun step member => covers step (List.mem_cons_of_mem _ member)
    rw [visit]
    by_cases known : search.previous.contains peer = true
    · rw [if_pos known]
      exact ih (inv.skip known) later
    · rw [if_neg known]
      obtain ⟨above, same, edge⟩ := inv.pending _ List.mem_cons_self
      have same : level current = depth := same
      by_cases target : peer ∈ targets
      · simp only [if_pos target]
        refine .inl ⟨peer, rfl, target, (contains_assign _ _ _).mpr (.inl rfl), _,
          inv.tree.assign above known edge, fun path isPath => ?_⟩
        rw [Function.update_self, same]
        exact inv.far isPath
      · simp only [if_neg target]
        have listed : peer ∈ nodes := covers (peer, label) List.mem_cons_self
        have fewer := unknown_assign listed known (some (current, label))
          (search.queue ++ [peer]) search.found
        rcases ih (inv.enqueue known target) later with found | ⟨kept, measure⟩
        · exact .inl found
        · refine .inr ⟨kept, ?_⟩
          rw [List.length_append, List.length_singleton] at measure
          omega

/-- The loop over the queue ends with a target, or there is no path to one. -/
theorem advance_spec (fuel : Nat) {nodes : List α}
    (covers : ∀ node, ∀ step ∈ neighbours node, step.1 ∈ nodes) {depth : Nat} {level : α → Nat}
    (inv : Layered neighbours sources targets depth [] search level)
    (enough : search.queue.length + unknown nodes search ≤ fuel) :
    (∃ node, (advance neighbours targets fuel search).found = some node ∧
      Nearest neighbours sources targets (advance neighbours targets fuel search) node) ∨
    ((advance neighbours targets fuel search).found = none ∧
      ∀ path, ¬ IsPath (Leads neighbours) sources targets path) := by
  induction fuel generalizing search depth level with
  | zero => exact .inr ⟨inv.open_, inv.exhausted (List.length_eq_zero_iff.mp (by omega))⟩
  | succ fuel ih =>
    cases first : search.queue with
    | nil =>
      have stays : advance neighbours targets (fuel + 1) search = search := by
        rw [advance, inv.open_, first]
      rw [stays]
      exact .inr ⟨inv.open_, inv.exhausted first⟩
    | cons current queue =>
      have goesOn : advance neighbours targets (fuel + 1) search =
          advance neighbours targets fuel (visit targets current { search with queue } (neighbours current)) := by
        rw [advance, inv.open_, first]
      rw [goesOn]
      rcases visit_spec (neighbours current) (inv.take first) nodes (covers current) with
        ⟨node, found, nearest⟩ | ⟨⟨level, kept⟩, measure⟩
      · have stays : advance neighbours targets fuel (visit targets current { search with queue }
            (neighbours current)) = visit targets current { search with queue } (neighbours current) := by
          cases fuel with
          | zero => rfl
          | succ => rw [advance, found]
        rw [stays]
        exact .inl ⟨node, found, nearest⟩
      · refine ih kept ?_
        have same : unknown nodes { search with queue } = unknown nodes search := rfl
        rw [first, List.length_cons] at enough
        have measure : _ ≤ queue.length + unknown nodes { search with queue } := measure
        omega

theorem get?_start {node : α} {entry : Option (α × β)} :
    (OrderedDict.ofEntries (sources.map fun source => (source, (none : Option (α × β))))).get? node = some entry ↔
      node ∈ sources ∧ entry = none := by
  rw [OrderedDict.get?_ofEntries, Option.map_eq_some_iff]
  constructor
  · rintro ⟨found, first, rfl⟩
    have same : found.1 = node := by simpa using List.find?_some first
    obtain ⟨source, member, rfl⟩ := List.mem_map.mp (List.mem_reverse.mp (List.mem_of_find?_eq_some first))
    exact ⟨same ▸ member, rfl⟩
  · rintro ⟨member, rfl⟩
    have there : ((sources.map fun source => (source, (none : Option (α × β)))).reverse.find?
        fun entry => decide (entry.1 = node)).isSome := by
      rw [List.find?_isSome]
      exact ⟨(node, none), List.mem_reverse.mpr (List.mem_map_of_mem member), by simp⟩
    obtain ⟨found, first⟩ := Option.isSome_iff_exists.mp there
    obtain ⟨source, -, rfl⟩ := List.mem_map.mp (List.mem_reverse.mp (List.mem_of_find?_eq_some first))
    exact ⟨_, first, rfl⟩

theorem startSearch_spec : (∃ node, (startSearch sources targets : Search α β).found = some node ∧
      Nearest neighbours sources targets (startSearch sources targets) node) ∨
    ∃ level, Layered neighbours sources targets 0 [] (startSearch sources targets) level := by
  have known {node : α} : (startSearch sources targets : Search α β).previous.contains node = true ↔
      node ∈ sources := by
    rw [OrderedDict.contains_iff, startSearch]
    simp only [get?_start]
    simp
  have tree : Tree neighbours sources (startSearch sources targets : Search α β).previous fun _ => 0 := by
    refine ⟨fun there => ⟨(get?_start.mp there).1, rfl⟩, fun there => ?_, fun there => ?_⟩
    · exact absurd (get?_start.mp there).2 (by simp)
    · obtain ⟨entry, there⟩ := OrderedDict.contains_iff.mp there
      exact List.length_pos_of_mem (OrderedDict.mem_entries_iff.mpr there)
  cases found : (startSearch sources targets : Search α β).found with
  | some node =>
    have there : (startSearch sources targets : Search α β).previous.contains node = true := List.find?_some found
    refine .inl ⟨node, rfl, List.mem_of_find?_eq_some found, there, _, tree, fun path isPath => ?_⟩
    obtain ⟨-, ⟨source, -, starts⟩, -⟩ := isPath
    cases path with
    | nil => cases starts
    | cons => exact Nat.succ_le_succ (Nat.zero_le _)
  | none =>
    refine .inr ⟨_, tree, found, fun source member => ⟨known.mpr member, rfl⟩, fun there target => ?_,
      fun _ => Nat.zero_le _, fun node member => ⟨known.mpr member, Nat.zero_le _⟩,
      List.pairwise_of_forall fun _ _ => Nat.le_refl _, fun there gone => absurd (known.mp there) gone, by simp⟩
    exact List.find?_eq_none.mp found _ target there

/-- What is found is a shortest path from a source to a target, with its steps. -/
theorem breadthFirst_spec {nodes : List α} (covers : ∀ node, ∀ step ∈ neighbours node, step.1 ∈ nodes) {fuel : Nat}
    (enough : sources.length + nodes.length ≤ fuel) :
    (∃ way, breadthFirst neighbours fuel sources targets = some way ∧
      IsPath (Leads neighbours) sources targets way.1 ∧ StepsOf neighbours way.1 way.2 ∧
        ∀ path, IsPath (Leads neighbours) sources targets path → way.1.length ≤ path.length) ∨
    (breadthFirst neighbours fuel sources targets = none ∧
      ∀ path, ¬ IsPath (Leads neighbours) sources targets path) := by
  have outcome : (∃ node, (advance neighbours targets fuel (startSearch sources targets)).found = some node ∧
      Nearest neighbours sources targets (advance neighbours targets fuel (startSearch sources targets)) node) ∨
    ((advance neighbours targets fuel (startSearch sources targets)).found = none ∧
      ∀ path, ¬ IsPath (Leads neighbours) sources targets path) := by
    rcases @startSearch_spec α β _ neighbours sources targets with
      ⟨node, found, nearest⟩ | ⟨level, inv⟩
    · have stays : advance neighbours targets fuel (startSearch sources targets) = startSearch sources targets := by
        cases fuel with
        | zero => rfl
        | succ => rw [advance, found]
      rw [stays]
      exact .inl ⟨node, found, nearest⟩
    · refine advance_spec fuel covers inv (Nat.le_trans (Nat.add_le_add_left ?_ _) enough)
      exact List.length_filter_le _ _
  rcases outcome with ⟨node, found, isTarget, known, level, tree, least⟩ | ⟨none, noPath⟩
  · obtain ⟨chain, starts, ends, length, steps⟩ := tree.traceBack_spec known (tree.small known)
    refine .inl ⟨_, by rw [breadthFirst, found]; rfl, ⟨chain, starts, node, isTarget, ends⟩, steps,
      fun path isPath => ?_⟩
    rw [length]
    exact least path isPath
  · exact .inr ⟨by rw [breadthFirst, none]; rfl, noPath⟩

end Relational
