/-
Module: HardwareDatabase.Proofs.HeadingOutlines
Purpose: A path of the outline is right exactly as long as every heading closes no open one or has as many headings
  around it as its level asks for.
Trusted boundary: none
-/
import HardwareDatabase.Attachments.DocxRevision
import Mathlib.Data.List.Basic

namespace HardwareDatabase.Attachments

open Python

variable {Format : Type}

/-! ### Headings -/

/-- A heading: its level and its text. -/
abbrev Heading := Nat × String

/-- A paragraph that is a heading and not blank. -/
def Paragraph.heading (paragraph : Paragraph Format) : Option Heading :=
  match headingLevel paragraph with
  | none => none
  | some level =>
    let text := strip (paragraphText paragraph.runs)
    if text = "" then none else some (level, text)

/-- The headings of a document. -/
def headings (document : List (Paragraph Format)) : List Heading :=
  document.filterMap Paragraph.heading

/-- The headings that no later one of an equal or a lower level closes. -/
def openHeadings : List Heading → List Heading
  | [] => []
  | heading :: later =>
    if ∀ other ∈ later, heading.1 < other.1 then heading :: openHeadings later else openHeadings later

/-- The headings around a heading of the level that comes next: those still open, of the levels below its own. -/
def enclosing (before : List Heading) (level : Nat) : List Heading :=
  (openHeadings before).filter fun heading => decide (heading.1 < level)

/-- The path of every heading consists of the headings around it and of itself. -/
def PathsEnclose (document : List (Paragraph Format)) : Prop :=
  ∀ before heading behind, headings document = before ++ heading :: behind →
    ((headingOutline document)[before.length]?.map fun entry => entry.fullPath) =
      some ((enclosing before heading.1).map Prod.snd ++ [heading.2])

/-- A heading closes none of the open headings, or there are exactly as many around it as there are levels below its
own. -/
def Fits (before : List Heading) (level : Nat) : Prop :=
  (∀ heading ∈ openHeadings before, heading.1 < level) ∨ (enclosing before level).length = level - 1

/-- Every heading fits. -/
def LevelsFit (document : List (Paragraph Format)) : Prop :=
  ∀ before heading behind, headings document = before ++ heading :: behind → Fits before heading.1

private theorem mem_openHeadings_iff {before : List Heading} {heading : Heading} : heading ∈ openHeadings before ↔
      ∃ earlier later, before = earlier ++ heading :: later ∧ ∀ other ∈ later, heading.1 < other.1 := by
  induction before with
  | nil =>
    constructor
    · nofun
    · rintro ⟨earlier, later, split, -⟩
      simp at split
  | cons first rest ih =>
    have ofRest (member : heading ∈ openHeadings rest) :
        ∃ earlier later, first :: rest = earlier ++ heading :: later ∧ ∀ other ∈ later, heading.1 < other.1 := by
      obtain ⟨earlier, later, rfl, below⟩ := ih.mp member
      exact ⟨first :: earlier, later, rfl, below⟩
    rw [openHeadings]
    constructor
    · intro member
      split at member
      · rename_i remains
        rcases List.mem_cons.mp member with rfl | member
        · exact ⟨[], rest, rfl, remains⟩
        · exact ofRest member
      · exact ofRest member
    · rintro ⟨earlier, later, split, below⟩
      cases earlier with
      | nil =>
        cases split
        rw [if_pos below]
        exact List.mem_cons_self
      | cons other earlier =>
        cases split
        have member := ih.mpr ⟨earlier, later, rfl, below⟩
        split
        · exact List.mem_cons_of_mem _ member
        · exact member

/-! ### The stack

The stack holds the headings that enclose the next paragraph. -/

private theorem one_le_headingLevel {paragraph : Paragraph Format} {level : Nat}
    (found : headingLevel paragraph = some level) :
    1 ≤ level := by
  have ofOutline {value : Option Int} {level : Nat} (found : outlineLevel value = some level) : 1 ≤ level := by
    obtain ⟨given, -, rfl⟩ := Option.map_eq_some_iff.mp found
    omega
  have ofStyles (styles : List Style) : ∀ seen, styleLevel seen styles = some level → 1 ≤ level := by
    induction styles with
    | nil => nofun
    | cons style bases ih =>
      intro seen found
      rw [styleLevel] at found
      split at found
      · cases found
      · split at found
        · cases found
          exact Nat.le_max_left 1 _
        · split at found
          · rename_i outlined
            cases found
            exact ofOutline outlined
          · exact ih _ found
  rw [headingLevel] at found
  split at found
  · rename_i outlined
    cases found
    exact ofOutline outlined
  · exact ofStyles _ _ found

private theorem one_le_of_mem_headings {document : List (Paragraph Format)} :
    ∀ heading ∈ headings document, 1 ≤ heading.1 := by
  intro heading member
  obtain ⟨paragraph, -, found⟩ := List.mem_filterMap.mp member
  rw [Paragraph.heading] at found
  split at found
  · cases found
  · rename_i level isHeading
    dsimp only at found
    split at found
    · cases found
    · cases found
      exact one_le_headingLevel isHeading

/-- The paths that the outline gives to headings, with the stack so far. -/
def pathsFrom (stack : List Heading) : List Heading → List (List String)
  | [] => []
  | heading :: rest =>
    ((stack.take (heading.1 - 1)).map Prod.snd ++ [heading.2]) ::
      pathsFrom (stack.take (heading.1 - 1) ++ [heading]) rest

private theorem fullPaths_outlineFrom (stack : List Heading) (document : List (Paragraph Format)) :
    (outlineFrom stack document).map (fun entry => entry.fullPath) = pathsFrom stack (headings document) := by
  induction document generalizing stack with
  | nil => rfl
  | cons paragraph rest ih =>
    rw [outlineFrom, headings, List.filterMap_cons, Paragraph.heading, ← headings]
    cases headingLevel paragraph with
    | none => exact ih stack
    | some =>
      dsimp only
      split
      · exact ih stack
      · rw [List.map_cons, ih, pathsFrom]

private theorem openHeadings_concat (before : List Heading) (heading : Heading) :
    openHeadings (before ++ [heading]) = enclosing before heading.1 ++ [heading] := by
  induction before with
  | nil => simp [openHeadings, enclosing]
  | cons first rest ih =>
    simp only [List.cons_append, openHeadings, ih, enclosing]
    by_cases remains : ∀ other ∈ rest, first.1 < other.1
    · by_cases below : first.1 < heading.1
      · have after : ∀ other ∈ rest ++ [heading], first.1 < other.1 := by
          simpa [or_imp, forall_and, below] using remains
        rw [if_pos after, if_pos remains, List.filter_cons_of_pos (by simpa using below), List.cons_append]
      · have closed : ¬ ∀ other ∈ rest ++ [heading], first.1 < other.1 :=
          fun after => below (after heading (by simp))
        rw [if_neg closed, if_pos remains, List.filter_cons_of_neg (by simpa using below)]
    · have closed : ¬ ∀ other ∈ rest ++ [heading], first.1 < other.1 :=
        fun after => remains fun other member => after other (List.mem_append_left _ member)
      rw [if_neg closed, if_neg remains]

private theorem pairwise_openHeadings (before : List Heading) :
    (openHeadings before).Pairwise fun outer inner => outer.1 < inner.1 := by
  induction before with
  | nil => exact List.Pairwise.nil
  | cons first rest ih =>
    rw [openHeadings]
    split
    · rename_i remains
      refine List.Pairwise.cons ?_ ih
      intro other member
      obtain ⟨earlier, later, rfl, -⟩ := mem_openHeadings_iff.mp member
      exact remains other (by simp)
    · exact ih

private theorem exists_take_of_pairwise {stack : List Heading}
    (rising : stack.Pairwise fun outer inner => outer.1 < inner.1) (level : Nat) :
    ∃ count, count ≤ stack.length ∧ stack.filter (fun heading => decide (heading.1 < level)) = stack.take count := by
  induction stack with
  | nil => exact ⟨0, Nat.le_refl _, rfl⟩
  | cons first rest ih =>
    obtain ⟨above, rising⟩ := List.pairwise_cons.mp rising
    by_cases below : first.1 < level
    · obtain ⟨count, bound, same⟩ := ih rising
      refine ⟨count + 1, Nat.succ_le_succ bound, ?_⟩
      rw [List.filter_cons_of_pos (by simpa using below), same, List.take_succ_cons]
    · have none : ∀ heading ∈ first :: rest, ¬ heading.1 < level := by
        intro heading member
        rcases List.mem_cons.mp member with rfl | member
        · exact below
        · have := above heading member
          omega
      refine ⟨0, Nat.zero_le _, ?_⟩
      rw [List.take_zero, List.filter_eq_nil_iff]
      simpa using none

private theorem length_le_of_pairwise {stack : List Heading}
    (rising : stack.Pairwise fun outer inner => outer.1 < inner.1) {low level : Nat}
    (within : ∀ heading ∈ stack, low ≤ heading.1 ∧ heading.1 < level) : stack.length ≤ level - low := by
  induction stack generalizing low with
  | nil => exact Nat.zero_le _
  | cons first rest ih =>
    obtain ⟨above, rising⟩ := List.pairwise_cons.mp rising
    have firstWithin := within first List.mem_cons_self
    have fewer : rest.length ≤ level - (first.1 + 1) :=
      ih rising fun heading member =>
        ⟨above heading member, (within heading (List.mem_cons_of_mem _ member)).2⟩
    rw [List.length_cons]
    omega

private theorem length_take_eq_iff {before : List Heading} (levels : ∀ heading ∈ before, 1 ≤ heading.1) {level : Nat} :
    ((openHeadings before).take (level - 1)).length = (enclosing before level).length ↔ Fits before level := by
  have rising := pairwise_openHeadings before
  have whole : (∀ heading ∈ openHeadings before, heading.1 < level) ↔
      (enclosing before level).length = (openHeadings before).length := by
    rw [enclosing, List.length_filter_eq_length_iff]
    simp
  have bound : (enclosing before level).length ≤ level - 1 := by
    refine length_le_of_pairwise (rising.filter _) ?_
    intro heading member
    obtain ⟨isOpen, below⟩ := List.mem_filter.mp member
    obtain ⟨earlier, later, rfl, -⟩ := mem_openHeadings_iff.mp isOpen
    exact ⟨levels heading (by simp), of_decide_eq_true below⟩
  have fewer : (enclosing before level).length ≤ (openHeadings before).length := List.length_filter_le _ _
  rw [Fits, whole, List.length_take]
  omega

private theorem take_eq_enclosing {before : List Heading} {level : Nat}
    (same : ((openHeadings before).take (level - 1)).length = (enclosing before level).length) :
    (openHeadings before).take (level - 1) = enclosing before level := by
  obtain ⟨count, bound, kept⟩ := exists_take_of_pairwise (pairwise_openHeadings before) level
  rw [enclosing, kept] at same ⊢
  rw [List.length_take, List.length_take, Nat.min_eq_left bound] at same
  rw [List.take_eq_take_iff, same, Nat.min_eq_left bound]

private theorem path_eq_iff {before : List Heading} (heading : Heading) :
    ((openHeadings before).take (heading.1 - 1)).map Prod.snd ++ [heading.2] =
        (enclosing before heading.1).map Prod.snd ++ [heading.2] ↔
      (openHeadings before).take (heading.1 - 1) = enclosing before heading.1 := by
  rw [List.append_left_inj]
  constructor
  · intro same
    have lengths := congrArg List.length same
    rw [List.length_map, List.length_map] at lengths
    exact take_eq_enclosing lengths
  · intro same
    rw [same]

/-! ### Paths -/

private theorem forall_split_cons {α : Type} {property : List α → α → Prop} {first : α} {rest : List α} :
    (∀ before item behind, first :: rest = before ++ item :: behind → property before item) ↔ property [] first ∧
        ∀ before item behind, rest = before ++ item :: behind → property (first :: before) item := by
  constructor
  · intro everywhere
    refine ⟨everywhere [] first rest rfl, ?_⟩
    rintro before item behind rfl
    exact everywhere (first :: before) item behind rfl
  · rintro ⟨head, tail⟩ before item behind split
    cases before with
    | nil =>
      cases split
      exact head
    | cons other before =>
      cases split
      exact tail before item behind rfl

private theorem pathsFrom_iff {before remaining : List Heading}
    (levels : ∀ heading ∈ before ++ remaining, 1 ≤ heading.1) :
    (∀ earlier heading behind, remaining = earlier ++ heading :: behind →
        (pathsFrom (openHeadings before) remaining)[earlier.length]? =
          some ((enclosing (before ++ earlier) heading.1).map Prod.snd ++ [heading.2])) ↔
      ∀ earlier heading behind, remaining = earlier ++ heading :: behind → Fits (before ++ earlier) heading.1 := by
  induction remaining generalizing before with
  | nil =>
    constructor
    · rintro - earlier heading behind split
      simp at split
    · rintro - earlier heading behind split
      simp at split
  | cons heading rest ih =>
    have known : ∀ other ∈ before, 1 ≤ other.1 := fun other member => levels other (List.mem_append_left _ member)
    rw [forall_split_cons, forall_split_cons, List.append_nil]
    have here : (pathsFrom (openHeadings before) (heading :: rest))[([] : List Heading).length]? =
          some ((enclosing before heading.1).map Prod.snd ++ [heading.2]) ↔ Fits before heading.1 := by
      rw [pathsFrom, List.length_nil, List.getElem?_cons_zero, Option.some_inj, path_eq_iff,
        ← length_take_eq_iff known]
      exact ⟨congrArg List.length, take_eq_enclosing⟩
    rw [here]
    refine and_congr_right fun fits => ?_
    have kept := take_eq_enclosing ((length_take_eq_iff known).mpr fits)
    have onwards := @ih (before ++ [heading]) (by simpa using levels)
    rw [openHeadings_concat] at onwards
    simp only [pathsFrom, kept, List.length_cons, List.getElem?_cons_succ]
    simpa only [List.append_assoc, List.singleton_append] using onwards

/-- The outline gives every heading the path of the headings around it exactly if every heading closes no open heading
or has as many headings around it as there are levels below its own. -/
theorem paths_enclose_iff (document : List (Paragraph Format)) : PathsEnclose document ↔ LevelsFit document := by
  have whole := @pathsFrom_iff [] (headings document) (by simpa using one_le_of_mem_headings)
  have paths : openHeadings [] = [] := rfl
  simp only [List.nil_append, paths, ← fullPaths_outlineFrom, List.getElem?_map] at whole
  exact whole

/-- A paragraph with a heading style. -/
def titled (level : Nat) (text : String) : Paragraph Unit where
  runs := [{ text, format := () }]
  styles := [{ styleId := "Heading", nameNumber := some level }]

/-- A document that skips the second level: its third heading is listed under the second, which is of the same
level. -/
theorem skipped_level_nests_siblings : ¬ PathsEnclose [titled 1 "Report", titled 3 "Pins", titled 3 "Nets"] ∧
      (headingOutline [titled 1 "Report", titled 3 "Pins", titled 3 "Nets"]).map (fun entry => entry.fullPath) =
        [["Report"], ["Report", "Pins"], ["Report", "Pins", "Nets"]] := by
  refine ⟨?_, by decide +kernel⟩
  intro right
  have path := right [(1, "Report"), (3, "Pins")] (3, "Nets") [] (by decide +kernel)
  exact absurd path (by decide +kernel)

end HardwareDatabase.Attachments
