/-
Module: HardwareDatabase.Proofs.SectionObjects
Purpose: The tables, drawings and other objects of a section that is replaced, and when they all come back once.
Trusted boundary: none
-/
import HardwareDatabase.Attachments.DocxSections
import HardwareDatabase.Relational.Failures
import Mathlib.Algebra.Order.BigOperators.Group.List
import Mathlib.Algebra.Order.Group.Nat

namespace HardwareDatabase.Attachments

open Python Relational

/-! ### Objects -/

/-- A table, a drawing or another embedded object. -/
def isObject (element : Element) : Bool :=
  tagOf element == "w:tbl" || isEmbedded element

/-- The objects in the elements, those in other objects too. -/
def objects (elements : List Element) : List Element :=
  (RoseTree.subtreesAll elements).filter isObject

/-- The properties of paragraphs and runs hold no objects, as the file format has it. -/
def PlainProperties (body : List Element) : Prop :=
  ∀ node ∈ RoseTree.subtreesAll body, tagOf node = "w:pPr" ∨ tagOf node = "w:rPr" → objects [node] = []

/-- A block whose objects are recognised: it is a table, it has none, or it is a paragraph that has them in runs, and
in none of them a run with an object. -/
def Recognised (element : Element) : Prop :=
  tagOf element = "w:tbl" ∨ objects [element] = [] ∨
    tagOf element = "w:p" ∧ objects [element.prune isEmbeddedRun] = [] ∧
      ∀ object ∈ objects [element], ∀ node ∈ RoseTree.subtreesAll object.children, isEmbeddedRun node = false

/-- The blocks outside the section are as they were, and every object of the body is in the child, as often as it was
in the body. -/
structure LosesNothing (body child : List Element) (position : Nat) (elements : List Element) : Prop where
  outside : ∃ fresh, child = body.take (position + 1) ++ fresh ++ body.drop (position + 1 + elements.length)
  kept : (objects child).Perm (objects body)

@[simp] theorem objects_nil : objects [] = [] := by
  simp [objects]

@[simp] theorem objects_append (left right : List Element) :
    objects (left ++ right) = objects left ++ objects right := by
  simp [objects]

private theorem objects_cons (element : Element) (rest : List Element) :
    objects (element :: rest) = objects [element] ++ objects rest :=
  objects_append [element] rest

private theorem objects_eq_flatMap (elements : List Element) :
    objects elements = elements.flatMap fun element => objects [element] := by
  induction elements with
  | nil => exact objects_nil
  | cons element rest ih => rw [objects_cons, ih, List.flatMap_cons]

private theorem objects_singleton (element : Element) :
    objects [element] = (if isObject element then [element] else []) ++ objects element.children := by
  rw [objects, RoseTree.subtreesAll_cons, RoseTree.subtreesAll_nil, List.append_nil, RoseTree.subtrees_eq,
    List.filter_cons, objects]
  split <;> rfl

variable {elements : List Element}

private theorem objects_eq_nil_iff : objects elements = [] ↔ ∀ element ∈ elements, objects [element] = [] := by
  rw [objects_eq_flatMap, List.flatMap_eq_nil_iff]

private theorem isObject_prune (element : Element) : isObject (element.prune isEmbeddedRun) = isObject element := by
  simp [isObject, isEmbedded, tagOf]

private theorem objects_node {label : Markup} {children : List Element}
    (plain : isObject (.node label children) = false) :
    objects [.node label children] = objects children := by
  rw [objects_singleton, plain, if_neg Bool.false_ne_true, List.nil_append]
  rfl

/-! ### New elements -/

private theorem objects_filter (none : objects elements = []) (p : Element → Bool) : objects (elements.filter p) = [] :=
  objects_eq_nil_iff.mpr fun element member => objects_eq_nil_iff.mp none element (List.mem_of_mem_filter member)

variable {element : Element}

private theorem objects_children (none : objects [element] = []) : objects element.children = [] := by
  rw [objects_singleton] at none
  exact (List.append_eq_nil_iff.mp none).2

private theorem objects_of_tag {label : Markup} {children : List Element} {tag : String} (named : label.tag = tag)
    (other : tag ∉ "w:tbl" :: embeddedTags) : objects [.node label children] = objects children := by
  refine objects_node ?_
  obtain ⟨noTable, noEmbedded⟩ := not_or.mp (mt List.mem_cons.mpr other)
  simp [isObject, isEmbedded, tagOf, RoseTree.label, named, noTable, noEmbedded]

private theorem findChild_eq_some {tag : String} {child : Element} (found : findChild tag element = some child) :
    child ∈ element.children ∧ tagOf child = tag := by
  rw [findChild] at found
  have named := List.find?_some found
  exact ⟨List.mem_of_find?_eq_some found, eq_of_beq named⟩

private theorem objects_sanitized {pPr : Element} (named : tagOf pPr = "w:pPr") (none : objects [pPr] = []) :
    objects [sanitizedParagraphProperties pPr] = [] := by
  rw [sanitizedParagraphProperties, objects_of_tag named (by decide)]
  exact objects_filter (objects_children none) _

/-- What `python-docx` writes holds no objects: a style changes the properties of the paragraph only, and a new
text becomes texts, tabs and breaks. -/
structure DocxView.WritesNoObjects (view : DocxView) : Prop where
  setStyle : ∀ styleId paragraph, tagOf paragraph = "w:p" → objects [paragraph] = [] →
    tagOf (view.setStyle styleId paragraph) = "w:p" ∧ objects [view.setStyle styleId paragraph] = []
  runContent : ∀ line, objects (view.runContent line) = []

variable {view : DocxView}

private theorem objects_newParagraph (writes : view.WritesNoObjects) (style : Option (Option String))
    {runProperties paragraphProperties : Option Element} (plainRun : ∀ rPr ∈ runProperties, objects [rPr] = [])
    (plainParagraph : ∀ pPr ∈ paragraphProperties, objects [pPr] = []) (line : String) :
    objects [newParagraph view style runProperties paragraphProperties line] = [] := by
  have properties : objects paragraphProperties.toList = [] := by
    cases paragraphProperties with
    | none => exact objects_nil
    | some pPr => exact plainParagraph pPr rfl
  have run : objects runProperties.toList = [] := by
    cases runProperties with
    | none => exact objects_nil
    | some rPr => exact plainRun rPr rfl
  have element : objects [oxmlElement "w:p" paragraphProperties.toList] = [] :=
    (@objects_of_tag _ _ "w:p" rfl (by decide)).trans properties
  have styled : ∃ styled, tagOf styled = "w:p" ∧ objects [styled] = [] ∧
      newParagraph view style runProperties paragraphProperties line =
        if line = "" then styled
        else .node styled.label
          (styled.children ++ [oxmlElement "w:r" (runProperties.toList ++ view.runContent line)]) := by
    cases style with
    | none => exact ⟨_, rfl, element, rfl⟩
    | some styleId =>
      obtain ⟨named, none⟩ := writes.setStyle styleId _ rfl element
      exact ⟨_, named, none, rfl⟩
  obtain ⟨styled, named, none, same⟩ := styled
  rw [same]
  split
  · exact none
  · rw [objects_of_tag named (by decide), objects_append, objects_children none, List.nil_append, oxmlElement,
      @objects_of_tag _ _ "w:r" rfl (by decide), objects_append, run, writes.runContent, List.append_nil]

/-! ### What is kept -/

/-- What is placed for an item. -/
def itemObjects : Preserved → List Element
  | .table element => objects [element]
  | .runs _ runElements => objects (runElements.map (RoseTree.prune isEmbeddedRun))

private theorem objects_placeItem (writes : view.WritesNoObjects) (item : Preserved) :
    objects [placeItem view item] = itemObjects item := by
  cases item with
  | table => rfl
  | runs paragraph =>
    have empty : objects [oxmlElement "w:p"] = [] := (@objects_of_tag _ _ "w:p" rfl (by decide)).trans objects_nil
    obtain ⟨named, holder⟩ := writes.setStyle ((view.styleOf paragraph).getD none) _ rfl empty
    rw [placeItem, objects_of_tag named (by decide), objects_append, objects_children holder,
      List.nil_append, itemObjects]

/-- What comes back of a block. -/
def keptObjects (element : Element) : List Element :=
  if tagOf element = "w:p" then objects ((embeddedRunElements element).map (RoseTree.prune isEmbeddedRun))
  else if tagOf element = "w:tbl" then objects [element]
  else []

private theorem itemObjects_preservedItems (elements : List Element) :
    (preservedItems true elements).flatMap itemObjects = elements.flatMap keptObjects := by
  induction elements with
  | nil => rfl
  | cons element rest ih =>
    rw [preservedItems, List.flatMap_cons, keptObjects]
    by_cases paragraph : tagOf element = "w:p"
    · rw [if_pos (by simpa using paragraph), if_pos paragraph]
      by_cases none : embeddedRunElements element = []
      · simp [none, ih]
      · simp [none, ih, itemObjects]
    · rw [if_neg (by simpa using paragraph), if_neg paragraph]
      by_cases table : tagOf element = "w:tbl"
      · simp [table, ih, itemObjects]
      · simp [table, ih]

/-! ### Blocks -/

/-- How many elements lie in the elements, counted in each. -/
def weight (elements : List Element) : Nat :=
  (elements.map RoseTree.size).sum

private theorem weight_append (left right : List Element) : weight (left ++ right) = weight left + weight right := by
  simp [weight]

private theorem weight_flatMap (f : Element → List Element) (elements : List Element) :
    weight (elements.flatMap f) = (elements.map fun element => weight (f element)).sum := by
  induction elements with
  | nil => rfl
  | cons element rest ih =>
    rw [List.flatMap_cons, weight_append, ih, List.map_cons, List.sum_cons]

private theorem weight_eq_zero_iff : weight elements = 0 ↔ elements = [] := by
  cases elements with
  | nil => simp [weight]
  | cons element =>
    have positive := element.size_pos
    simp only [weight, List.map_cons, List.sum_cons, reduceCtorEq, iff_false]
    omega

private theorem weight_perm {left right : List Element} (same : left.Perm right) : weight left = weight right :=
  (same.map RoseTree.size).sum_eq

private theorem eq_of_sum_eq {α : Type} {f g : α → Nat} {items : List α} (less : ∀ item ∈ items, f item ≤ g item)
    (same : (items.map f).sum = (items.map g).sum) : ∀ item ∈ items, f item = g item := by
  intro item member
  by_contra differ
  have smaller := List.sum_lt_sum f g less ⟨item, member, Nat.lt_of_le_of_ne (less item member) differ⟩
  exact absurd same (Nat.ne_of_lt smaller)

/-- The objects of a paragraph come back from its runs or stay outside them, each without the runs that are moved. -/
theorem objects_paragraph_perm (paragraph : tagOf element = "w:p") :
    (objects [element.prune isEmbeddedRun] ++ keptObjects element).Perm
      ((objects [element]).map (RoseTree.prune isEmbeddedRun)) := by
  have notRun : isEmbeddedRun element = false := by simp [isEmbeddedRun, paragraph]
  have runs : embeddedRunElements element = (RoseTree.subtreesAll element.children).filter isEmbeddedRun := by
    rw [embeddedRunElements, RoseTree.subtrees_eq, List.filter_cons_of_neg (by simp [notRun])]
  have kept : keptObjects element = (RoseTree.pieces isEmbeddedRun element.children).filter isObject := by
    rw [keptObjects, if_pos paragraph, runs, objects, RoseTree.subtreesAll_eq_flatMap, List.flatMap_map, RoseTree.pieces]
  have single : ∀ other : Element, objects [other] = other.subtrees.filter isObject := by
    intro other
    rw [objects, RoseTree.subtreesAll_cons, RoseTree.subtreesAll_nil, List.append_nil]
  have mapped : (objects [element]).map (RoseTree.prune isEmbeddedRun) =
      (element.subtrees.map (RoseTree.prune isEmbeddedRun)).filter isObject := by
    rw [single, List.filter_map]
    congr 1
    exact List.filter_congr fun other _ => (isObject_prune other).symm
  rw [kept, mapped, single, ← List.filter_append]
  exact (RoseTree.subtrees_prune_perm element).filter _

private theorem weight_map_prune_le (elements : List Element) :
    weight (elements.map (RoseTree.prune isEmbeddedRun)) ≤ weight elements := by
  rw [weight, weight, List.map_map]
  exact List.sum_le_sum fun element _ => RoseTree.size_prune_le element

private theorem keptObjects_perm (recognised : Recognised element) : (keptObjects element).Perm (objects [element]) := by
  rcases recognised with table | none | ⟨paragraph, inRuns, apart⟩
  · rw [keptObjects, if_neg (by simp [table]), if_pos table]
  · rw [none]
    by_cases paragraph : tagOf element = "w:p"
    · have both := objects_paragraph_perm paragraph
      rw [none, List.map_nil] at both
      rw [(List.append_eq_nil_iff.mp both.eq_nil).2]
    · rw [keptObjects, if_neg paragraph, none, ite_self]
  · have both := objects_paragraph_perm paragraph
    have unchanged : (objects [element]).map (RoseTree.prune isEmbeddedRun) = objects [element] :=
      (List.map_congr_left fun object member => RoseTree.prune_eq_self object (apart object member)).trans
        (List.map_id _)
    rwa [inRuns, List.nil_append, unchanged] at both

private theorem weight_keptObjects_le (element : Element) :
    weight (keptObjects element) ≤ weight (objects [element]) := by
  by_cases paragraph : tagOf element = "w:p"
  · have both := weight_perm (objects_paragraph_perm paragraph)
    have less := weight_map_prune_le (objects [element])
    rw [weight_append] at both
    omega
  · rw [keptObjects, if_neg paragraph]
    split
    · exact Nat.le_refl _
    · exact Nat.zero_le _

private theorem recognised_of_weight (same : weight (keptObjects element) = weight (objects [element])) :
    Recognised element := by
  by_cases paragraph : tagOf element = "w:p"
  · have both := weight_perm (objects_paragraph_perm paragraph)
    have less := weight_map_prune_le (objects [element])
    rw [weight_append] at both
    have inRuns : objects [element.prune isEmbeddedRun] = [] := weight_eq_zero_iff.mp (by omega)
    have equal : weight ((objects [element]).map (RoseTree.prune isEmbeddedRun)) = weight (objects [element]) := by omega
    rw [weight, weight, List.map_map] at equal
    have sizes := eq_of_sum_eq (fun object _ => RoseTree.size_prune_le object) equal
    exact .inr (.inr ⟨paragraph, inRuns, fun object member => RoseTree.unmarked_of_size (sizes object member)⟩)
  · by_cases table : tagOf element = "w:tbl"
    · exact .inl table
    · rw [keptObjects, if_neg paragraph, if_neg table] at same
      exact .inr (.inl (weight_eq_zero_iff.mp same.symm))

private theorem keptObjects_perm_iff :
    (elements.flatMap keptObjects).Perm (objects elements) ↔ ∀ element ∈ elements, Recognised element := by
  rw [objects_eq_flatMap]
  constructor
  · intro same
    have total := weight_perm same
    rw [weight_flatMap, weight_flatMap] at total
    intro element member
    exact recognised_of_weight (eq_of_sum_eq (fun other _ => weight_keptObjects_le other) total element member)
  · intro recognised
    exact List.Perm.flatMap_left elements fun element member => keptObjects_perm (recognised element member)

/-! ### The loop over the lines -/

/-- The objects of the items that are not placed yet. -/
def unplacedObjects (items : List Preserved) (placedFlags : List Bool) : List Element :=
  ((items.zip placedFlags).filter fun item => !item.2).flatMap fun item => itemObjects item.1

private theorem unplacedObjects_cons (item : Preserved) (items : List Preserved) (placed : Bool) (flags : List Bool) :
    unplacedObjects (item :: items) (placed :: flags) =
      (if placed then [] else itemObjects item) ++ unplacedObjects items flags := by
  cases placed <;> simp [unplacedObjects]

private theorem unplacedObjects_start (items : List Preserved) :
    unplacedObjects items (items.map fun _ => false) = items.flatMap itemObjects := by
  induction items with
  | nil => rfl
  | cons item rest ih =>
    rw [List.map_cons, unplacedObjects_cons, ih, List.flatMap_cons]
    rfl

variable {flags : List Bool}

private theorem unplacedObjects_set {items : List Preserved} {chosen : Nat} {item : Preserved}
    (open_ : flags[chosen]? = some false) (here : items[chosen]? = some item) :
    (itemObjects item ++ unplacedObjects items (flags.set chosen true)).Perm (unplacedObjects items flags) := by
  induction items generalizing flags chosen with
  | nil => simp at here
  | cons first rest ih =>
    cases flags with
    | nil => simp at open_
    | cons flag flags =>
      cases chosen with
      | zero =>
        obtain rfl : first = item := by simpa using here
        obtain rfl : flag = false := by simpa using open_
        rw [List.set_cons_zero, unplacedObjects_cons, unplacedObjects_cons]
        exact .refl _
      | succ chosen =>
        have later := @ih flags chosen (by simpa using open_) (by simpa using here)
        rw [List.set_cons_succ, unplacedObjects_cons, unplacedObjects_cons]
        exact (List.perm_append_comm_assoc _ _ _).trans (List.Perm.append_left _ later)

private theorem chooseItem_eq_ok {number : Option Nat} {chosen : Nat}
    (done : chooseItem flags number = .ok chosen) : flags[chosen]? = some false := by
  unfold chooseItem at done
  split at done
  · rename_i index
    split at done
    · cases done
    · split at done
      · cases done
      · rename_i inRange fresh
        cases done
        obtain ⟨positive, within⟩ := not_or.mp inRange
        have bound : index - 1 < flags.length := by omega
        rw [List.getElem?_eq_getElem bound]
        rw [List.getD_eq_getElem?_getD, List.getElem?_eq_getElem bound] at fresh
        simpa using fresh
  · split at done
    · rename_i index found
      cases done
      obtain ⟨bound, fresh, -⟩ := List.findIdx?_eq_some_iff_getElem.mp found
      rw [List.getElem?_eq_getElem bound]
      simpa using fresh
    · cases done

private theorem placeLines_perm (writes : view.WritesNoObjects) {paragraph : String → Element} {items : List Preserved}
    (plain : ∀ line, objects [paragraph line] = []) {lines : List String} {placement : Placement}
    (same : flags.length = items.length) (done : placeLines view paragraph items flags lines = .ok placement) :
    (objects placement.elements ++ unplacedObjects items placement.placedFlags).Perm (unplacedObjects items flags) := by
  induction lines generalizing flags placement with
  | nil =>
    cases done
    rw [objects_nil, List.nil_append]
  | cons line rest ih =>
    rw [placeLines] at done
    split at done
    · split at done
      · cases done
      · split at done
        · cases done
        · obtain ⟨later, placed, built⟩ := exists_of_bind_eq_ok done
          cases built
          rw [objects_cons, plain, List.nil_append]
          exact ih same placed
    · obtain ⟨chosen, chose, done⟩ := exists_of_bind_eq_ok done
      obtain ⟨later, placed, built⟩ := exists_of_bind_eq_ok done
      cases built
      have fresh := chooseItem_eq_ok chose
      obtain ⟨bound, -⟩ := List.getElem?_eq_some_iff.mp fresh
      have here : items[chosen]? = some (items.get ⟨chosen, same ▸ bound⟩) := List.getElem?_eq_getElem _
      have others := ih ((List.length_set).trans same) placed
      have taken := unplacedObjects_set fresh here
      rw [here, Option.map_some, Option.toList_some, objects_append, objects_placeItem writes, List.append_assoc]
      exact (List.Perm.append_left _ others).trans taken

/-! ### The replacement -/

private theorem objects_runProperties (plain : PlainProperties elements) :
    ∀ rPr ∈ runProperties elements, objects [rPr] = [] := by
  intro rPr sampled
  obtain ⟨element, member, sampled⟩ := List.exists_of_findSome?_eq_some sampled
  obtain ⟨run, runMember, found⟩ := List.exists_of_findSome?_eq_some sampled
  obtain ⟨child, named⟩ := findChild_eq_some found
  have inside := RoseTree.mem_subtrees_of_child (List.mem_of_mem_filter runMember) child
  have listed := RoseTree.subtreesAll_subset elements (RoseTree.mem_subtreesAll_of_mem (List.mem_of_mem_filter member))
  exact plain rPr (listed inside) (.inr named)

private theorem objects_paragraphProperties (plain : PlainProperties elements) :
    ∀ pPr ∈ paragraphProperties elements, objects [pPr] = [] := by
  intro pPr sampled
  obtain ⟨element, member, sampled⟩ := List.exists_of_findSome?_eq_some sampled
  obtain ⟨properties, found, rfl⟩ := Option.map_eq_some_iff.mp sampled
  obtain ⟨child, named⟩ := findChild_eq_some found
  have inside := RoseTree.mem_subtrees_of_child (RoseTree.mem_subtrees_self element) child
  have listed := RoseTree.subtreesAll_subset elements (RoseTree.mem_subtreesAll_of_mem (List.mem_of_mem_filter member))
  exact objects_sanitized named (plain properties (listed inside) (.inl named))

private theorem sectionElements_append (view : DocxView) (level : Nat) (siblings : List Element) :
    sectionElements view level siblings ++ siblings.drop (sectionElements view level siblings).length = siblings := by
  have start : sectionElements view level siblings = siblings.take (sectionElements view level siblings).length :=
    List.prefix_iff_eq_take.mp (List.takeWhile_prefix _)
  exact (congrArg (· ++ _) start).trans (List.take_append_drop _ _)

private theorem body_eq (view : DocxView) (body : List Element) (position level : Nat) :
    body = body.take (position + 1) ++ (sectionElements view level (body.drop (position + 1)) ++
      body.drop (position + 1 + (sectionElements view level (body.drop (position + 1))).length)) := by
  have after := sectionElements_append view level (body.drop (position + 1))
  rw [List.drop_drop] at after
  rw [after, List.take_append_drop]

private theorem PlainProperties.section {body before rest : List Element} (plain : PlainProperties body)
    (whole : body = before ++ (elements ++ rest)) : PlainProperties elements := by
  intro node member
  refine plain node ?_
  rw [whole, RoseTree.subtreesAll_append, RoseTree.subtreesAll_append]
  exact List.mem_append_right _ (List.mem_append_left _ member)

private theorem objects_leftOver (writes : view.WritesNoObjects) (items : List Preserved) (flags : List Bool) :
    objects (((items.zip flags).filter fun item => !item.2).map fun item => placeItem view item.1) =
      unplacedObjects items flags := by
  rw [objects_eq_flatMap, List.flatMap_map, unplacedObjects]
  simp only [objects_placeItem writes]

/-- A replacement loses nothing exactly if every block of the section is recognised. -/
theorem loses_nothing_iff {view : DocxView} {body child : List Element} {headingPath fullPath : List String}
    {after : String} {audit : SectionAudit} {position level : Nat} (writes : view.WritesNoObjects)
    (plain : PlainProperties body)
    (located : findSectionHeading view body headingPath = .ok (position, level, fullPath))
    (done : replaceSectionInDocx view body headingPath after = .ok (child, audit)) :
    LosesNothing body child position (sectionElements view level (body.drop (position + 1))) ↔
      ∀ element ∈ sectionElements view level (body.drop (position + 1)), Recognised element := by
  unfold replaceSectionInDocx at done
  rw [located, ok_bind] at done
  dsimp only at done
  obtain ⟨placement, placed, built⟩ := exists_of_bind_eq_ok done
  clear done
  have whole := body_eq view body position level
  generalize sectionElements view level (body.drop (position + 1)) = elements at *
  obtain ⟨rfl, -⟩ := Prod.mk.inj (Except.ok.inj built)
  have sectionPlain := plain.section whole
  have lines := placeLines_perm writes
    (objects_newParagraph writes _ (objects_runProperties sectionPlain) (objects_paragraphProperties sectionPlain))
    (List.length_map _) placed
  rw [unplacedObjects_start, itemObjects_preservedItems, ← objects_leftOver writes, ← objects_append] at lines
  generalize placement.elements ++ _ = fresh at lines ⊢
  have objectsBody : objects body = objects (body.take (position + 1)) ++ (objects elements ++
      objects (body.drop (position + 1 + elements.length))) := by
    conv_lhs => rw [whole, objects_append, objects_append]
  rw [← keptObjects_perm_iff]
  constructor
  · rintro ⟨-, kept⟩
    rw [objectsBody, List.append_assoc, objects_append, objects_append, List.perm_append_left_iff,
      List.perm_append_right_iff] at kept
    exact lines.symm.trans kept
  · intro same
    refine ⟨⟨fresh, rfl⟩, ?_⟩
    rw [objectsBody, List.append_assoc, objects_append, objects_append, List.perm_append_left_iff,
      List.perm_append_right_iff]
    exact lines.trans same

/-! ### A section with a table -/

/-- `paragraph.style = style`: the id of the style is written first in the properties. -/
def setStyle (styleId : Option String) (paragraph : Element) : Element :=
  let pPr := (findChild "w:pPr" paragraph).getD (oxmlElement "w:pPr")
  let style := styleId.toList.map fun id => RoseTree.node { tag := "w:pStyle", attrib := [("w:val", id)] } []
  .node paragraph.label
    (.node pPr.label (style ++ pPr.children.filter fun child => tagOf child != "w:pStyle") ::
      paragraph.children.filter fun child => tagOf child != "w:pPr")

/-- A `w:t` element; blanks around the text are kept. -/
def textElement (text : String) : Element :=
  .node { tag := "w:t", attrib := if strip text = text then [] else [("xml:space", "preserve")], text } []

/-- The parts of a text with `w:tab` elements between them. -/
def tabbedParts : List (List Char) → List Element
  | [] => []
  | part :: rest =>
    (if part.isEmpty then [] else [textElement (String.ofList part)]) ++
      (if rest.isEmpty then [] else oxmlElement "w:tab" :: tabbedParts rest)

private theorem objects_setStyle (styleId : Option String) {paragraph : Element} (named : tagOf paragraph = "w:p")
    (none : objects [paragraph] = []) :
    tagOf (setStyle styleId paragraph) = "w:p" ∧ objects [setStyle styleId paragraph] = [] := by
  have children := objects_children none
  have style : objects (styleId.toList.map fun id =>
      RoseTree.node { tag := "w:pStyle", attrib := [("w:val", id)] } []) = [] := by
    cases styleId with
    | none => exact objects_nil
    | some => exact (@objects_of_tag _ _ "w:pStyle" rfl (by decide)).trans objects_nil
  have properties : objects [(findChild "w:pPr" paragraph).getD (oxmlElement "w:pPr")] = [] ∧
      tagOf ((findChild "w:pPr" paragraph).getD (oxmlElement "w:pPr")) = "w:pPr" := by
    cases found : findChild "w:pPr" paragraph with
    | none => exact ⟨(objects_of_tag rfl (by decide)).trans objects_nil, rfl⟩
    | some pPr =>
      obtain ⟨member, tag⟩ := findChild_eq_some found
      exact ⟨objects_eq_nil_iff.mp children pPr member, tag⟩
  refine ⟨named, ?_⟩
  rw [setStyle, objects_of_tag named (by decide), objects_cons, objects_of_tag properties.2 (by decide), objects_append,
    style, objects_filter (objects_children properties.1), objects_filter children]
  rfl

private theorem objects_tabbedParts (parts : List (List Char)) : objects (tabbedParts parts) = [] := by
  induction parts with
  | nil => exact objects_nil
  | cons part rest ih =>
    have here : objects (if part.isEmpty then [] else [textElement (String.ofList part)]) = [] := by
      split
      · exact objects_nil
      · exact (@objects_of_tag _ _ "w:t" rfl (by decide)).trans objects_nil
    have later : objects (if rest.isEmpty then [] else oxmlElement "w:tab" :: tabbedParts rest) = [] := by
      split
      · exact objects_nil
      · rw [objects_cons, ih, List.append_nil]
        exact (@objects_of_tag _ _ "w:tab" rfl (by decide)).trans objects_nil
    rw [tabbedParts, objects_append, here, later, List.append_nil]

/-- A document whose headings have an outline level and whose styles are all the default. -/
def outlinedView : DocxView where
  paragraphOf element :=
    { runs := (element.children.filter fun child => tagOf child == "w:r").map fun run =>
        { text := String.join ((iterTag "w:t" run).map fun node => node.label.text), format := () }
      outlineLvl := if (iterTag "w:outlineLvl" element).isEmpty then none else some 0 }
  styleOf _ := some none
  normalStyle := some none
  setStyle := setStyle
  runContent line := tabbedParts (splitChars '\t' line.toList)
  decimal character := if character.isDigit then some (character.toNat - 48) else none

private theorem outlinedView_writes : outlinedView.WritesNoObjects where
  setStyle styleId _ named none := objects_setStyle styleId named none
  runContent _ := objects_tabbedParts _

/-- A heading and the blocks of its section. -/
def headedBody (blocks : List Element) : List Element :=
  oxmlElement "w:p"
      [oxmlElement "w:pPr" [oxmlElement "w:outlineLvl"], oxmlElement "w:r" [textElement "Power"]] ::
    (blocks ++ [oxmlElement "w:sectPr"])

/-- A picture in a paragraph and a table. -/
def pictureAndTable : List Element :=
  [oxmlElement "w:p" [oxmlElement "w:r" [oxmlElement "w:drawing"]], oxmlElement "w:tbl"]

/-- A table in a content control. -/
def controlledTable : List Element :=
  [oxmlElement "w:sdt" [oxmlElement "w:sdtContent" [oxmlElement "w:tbl"]]]

/-- A picture in a paragraph and a table come back. -/
theorem picture_and_table_come_back : ∃ child audit,
    replaceSectionInDocx outlinedView (headedBody pictureAndTable) ["Power"] "New text" = .ok (child, audit) ∧
      LosesNothing (headedBody pictureAndTable) child 0
        (sectionElements outlinedView 1 ((headedBody pictureAndTable).drop 1)) := by
  have plain : PlainProperties (headedBody pictureAndTable) := by
    unfold PlainProperties
    decide +kernel
  have located : findSectionHeading outlinedView (headedBody pictureAndTable) ["Power"] = .ok (0, 1, ["Power"]) := by
    decide +kernel
  have recognised : ∀ element ∈ sectionElements outlinedView 1 ((headedBody pictureAndTable).drop 1),
      Recognised element := by
    unfold Recognised
    decide +kernel
  have placed : (replaceSectionInDocx outlinedView (headedBody pictureAndTable) ["Power"] "New text").map
      (fun replaced => replaced.2.preservedDrawings) = .ok 1 := by
    decide +kernel
  obtain ⟨⟨child, audit⟩, done, -⟩ := exists_of_map_eq_ok placed
  exact ⟨child, audit, done, (loses_nothing_iff outlinedView_writes plain located done).mpr recognised⟩

/-- A table in a content control does not. -/
theorem controlled_table_is_lost : ∃ child audit,
    replaceSectionInDocx outlinedView (headedBody controlledTable) ["Power"] "New text" = .ok (child, audit) ∧
      ¬ LosesNothing (headedBody controlledTable) child 0
        (sectionElements outlinedView 1 ((headedBody controlledTable).drop 1)) := by
  have objectsLeft : (replaceSectionInDocx outlinedView (headedBody controlledTable) ["Power"] "New text").map
      (fun replaced => (objects replaced.1).length) = .ok 0 := by
    decide +kernel
  obtain ⟨⟨child, audit⟩, done, none⟩ := exists_of_map_eq_ok objectsLeft
  refine ⟨child, audit, done, fun loses => ?_⟩
  have one : (objects (headedBody controlledTable)).length = 1 := by decide +kernel
  have same := loses.kept.length_eq
  rw [none, one] at same
  cases same

end HardwareDatabase.Attachments
