/-
Module: HardwareDatabase.Attachments.DocxSections
Purpose: The replacement of a section of a DOCX body (`src/src/attachments/docx_revision.py`). The elements are trees;
  what `python-docx` tells of a paragraph and writes for a style or a text is given, as are the decimal digits of
  Unicode.
Trusted boundary: none
-/
import HardwareDatabase.Attachments.DocxRevision
import HardwareDatabase.Python.Locations
import HardwareDatabase.Relational.Tree
import Mathlib.Algebra.GroupWithZero.Nat

namespace HardwareDatabase.Attachments

open Python Relational

/-! ### Elements -/

/-- The name, the attributes and the text of an element. -/
structure Markup where
  tag : String
  attrib : List (String × String) := []
  text : String := ""
deriving Repr, DecidableEq

/-- An element with the elements under it. -/
abbrev Element :=
  RoseTree Markup

/-- `element.tag`. -/
def tagOf (element : Element) : String :=
  element.label.tag

/-- `OxmlElement(tag)`, with its children. -/
def oxmlElement (tag : String) (children : List Element := []) : Element :=
  .node { tag } children

/-- `element.find(tag)`. -/
def findChild (tag : String) (element : Element) : Option Element :=
  element.children.find? fun child => tagOf child == tag

/-- `element.iter(tag)`. -/
def iterTag (tag : String) (element : Element) : List Element :=
  element.subtrees.filter fun node => tagOf node == tag

/-- `_EMBEDDED_TAGS`. -/
def embeddedTags : List String :=
  ["w:drawing", "w:object", "w:pict", "w:oleObject"]

def isEmbedded (node : Element) : Bool :=
  embeddedTags.contains (tagOf node)

/-- `_element_embedded_count`. -/
def elementEmbeddedCount (element : Element) : Nat :=
  element.subtrees.countP isEmbedded

/-- A `w:r` that carries a drawing or an OLE object. -/
def isEmbeddedRun (node : Element) : Bool :=
  tagOf node == "w:r" && node.subtrees.any isEmbedded

/-- `_embedded_run_elements`. -/
def embeddedRunElements (paragraph : Element) : List Element :=
  paragraph.subtrees.filter isEmbeddedRun

/-- What `python-docx` tells of the elements of a document and writes into them, and `unicodedata.decimal`. -/
structure DocxView where
  paragraphOf : Element → Paragraph Unit
  -- the style of a paragraph, by the id that is written for it; the default style has none
  styleOf : Element → Option (Option String)
  normalStyle : Option (Option String)
  -- `paragraph.style = style`
  setStyle : Option String → Element → Element
  -- what the new run of `paragraph.add_run(line)` holds
  runContent : String → List Element
  decimal : Char → Option Nat

/-- What a replacement raises. -/
inductive SectionFailure
  | docxRevision (message : String)
  -- the ValueError of lxml for a text that XML cannot hold
  | notXml
deriving Repr, DecidableEq

/-! ### The section -/

/-- `_heading_outline`, with the positions of the headings in the body. -/
def positionedOutline (view : DocxView) (stack : List (Nat × String)) :
    List (Element × Nat) → List (Nat × Nat × List String)
  | [] => []
  | (element, position) :: rest =>
    match headingLevel (view.paragraphOf element) with
    | none => positionedOutline view stack rest
    | some level =>
      let text := strip (paragraphText (view.paragraphOf element).runs)
      if text = "" then positionedOutline view stack rest
      else
        let stack := stack.take (level - 1)
        (position, level, stack.map Prod.snd ++ [text]) :: positionedOutline view (stack ++ [(level, text)]) rest

/-- `document.paragraphs`, with their positions. -/
def bodyParagraphs (body : List Element) : List (Element × Nat) :=
  body.zipIdx.filter fun item => tagOf item.1 == "w:p"

/-- `_find_section_heading`: the position of the heading, its level and its path. -/
def findSectionHeading (view : DocxView) (body : List Element) (headingPath : List String) :
    Except SectionFailure (Nat × Nat × List String) :=
  let path := (headingPath.map strip).filter fun item => item != ""
  match path.getLast? with
  | none => .error (.docxRevision "a section edit requires at least one heading")
  | some target =>
    let above := path.dropLast
    let found := (positionedOutline view [] (bodyParagraphs body)).filter fun entry =>
      let text := entry.2.2.getLastD ""
      (text == target || hasPart text target) && (above.isEmpty || entry.2.2.take above.length == above)
    let exact := found.filter fun entry => entry.2.2.getLastD "" == target
    let candidates := if exact.isEmpty then found else exact
    match candidates with
    | [] => .error (.docxRevision ("section heading was not found: " ++ target))
    | [entry] => .ok entry
    | _ => .error (.docxRevision
        ("section heading is ambiguous (found " ++ toString candidates.length ++ "): " ++ target))

/-- The section ends at this element. -/
def endsSection (view : DocxView) (level : Nat) (element : Element) : Bool :=
  (tagOf element == "w:p" &&
    match headingLevel (view.paragraphOf element) with
    | none => false
    | some other => other ≤ level) || tagOf element == "w:sectPr"

/-- `section_elements`, of the elements after the heading. -/
def sectionElements (view : DocxView) (level : Nat) (siblings : List Element) : List Element :=
  siblings.takeWhile fun element => !endsSection view level element

/-! ### Formats -/

/-- `_PPR_EXCLUDED_TAGS`. -/
def pPrExcludedTags : List String :=
  ["w:sectPr", "w:pageBreakBefore"]

/-- `_sanitized_paragraph_properties`. -/
def sanitizedParagraphProperties (pPr : Element) : Element :=
  .node pPr.label (pPr.children.filter fun child => !pPrExcludedTags.contains (tagOf child))

/-- `body_style`. -/
def bodyStyle (view : DocxView) (elements : List Element) : Option (Option String) :=
  match (elements.filter fun element => tagOf element == "w:p").findSome? view.styleOf with
  | some style => some style
  | none => view.normalStyle

/-- `paragraph_properties`. -/
def paragraphProperties (elements : List Element) : Option Element :=
  (elements.filter fun element => tagOf element == "w:p").findSome? fun element =>
    (findChild "w:pPr" element).map sanitizedParagraphProperties

/-- `run_properties`. -/
def runProperties (elements : List Element) : Option Element :=
  (elements.filter fun element => tagOf element == "w:p").findSome? fun element =>
    (iterTag "w:r" element).findSome? (findChild "w:rPr")

/-! ### New paragraphs -/

/-- `_new_paragraph_after`: the element that is inserted. -/
def newParagraph (view : DocxView) (style : Option (Option String)) (runProperties paragraphProperties : Option Element)
    (line : String) : Element :=
  let element := oxmlElement "w:p" paragraphProperties.toList
  let styled := match style with
    | none => element
    | some styleId => view.setStyle styleId element
  if line = "" then styled
  else .node styled.label (styled.children ++ [oxmlElement "w:r" (runProperties.toList ++ view.runContent line)])

/-- lxml takes the text. -/
def isXmlText (line : String) : Bool :=
  line.toList.all isXmlChar

/-! ### What is kept -/

/-- An item of `preserved`. -/
inductive Preserved
  | runs (paragraph : Element) (runElements : List Element)
  | table (element : Element)

/-- The items of the section that are kept. -/
def preservedItems (preserveEmbedded : Bool) : List Element → List Preserved
  | [] => []
  | element :: rest =>
    if tagOf element == "w:p" then
      let embeddedRuns := if preserveEmbedded then embeddedRunElements element else []
      if embeddedRuns.isEmpty then preservedItems preserveEmbedded rest
      else .runs element embeddedRuns :: preservedItems preserveEmbedded rest
    else if tagOf element == "w:tbl" && preserveEmbedded then
      .table element :: preservedItems preserveEmbedded rest
    else preservedItems preserveEmbedded rest

/-- `removed`. -/
def removedElements (preserveEmbedded : Bool) (elements : List Element) : List Element :=
  elements.filter fun element =>
    if tagOf element == "w:p" then !preserveEmbedded || (embeddedRunElements element).isEmpty
    else !(tagOf element == "w:tbl" && preserveEmbedded)

/-- `_place_item`: the element that is inserted. A run that is moved leaves the run it was in. -/
def placeItem (view : DocxView) : Preserved → Element
  | .table element => element
  | .runs paragraph runElements =>
    let holder := view.setStyle ((view.styleOf paragraph).getD none) (oxmlElement "w:p")
    .node holder.label (holder.children ++ runElements.map (RoseTree.prune isEmbeddedRun))

/-! ### Placeholders -/

/-- What is left after one of the words, if the text starts with it; `IGNORECASE` matters for ASCII letters. -/
def dropWord (words : List String) (text : List Char) : Option (List Char) :=
  words.findSome? fun word =>
    if word.toList.isPrefixOf (text.map lowerChar) then some (text.drop word.length) else none

/-- `_PLACEHOLDER_RE.match(line)`, with the number in the match. -/
def placeholderNumber (view : DocxView) (line : String) : Option (Option Nat) := do
  let skipSpace := List.dropWhile isSpace
  let afterOpening ← dropWord ["[["] (skipSpace line.toList)
  let afterWord ← dropWord ["embed", "嵌入对象", "嵌入"] (skipSpace afterOpening)
  let afterColon := (dropWord [":", "："] (skipSpace afterWord)).getD (skipSpace afterWord)
  let digits := (skipSpace afterColon).map view.decimal |>.takeWhile Option.isSome
  let afterClosing ← dropWord ["]]"] (skipSpace ((skipSpace afterColon).drop digits.length))
  if (skipSpace afterClosing).isEmpty then
    some (if digits.isEmpty then none
      else some (digits.foldl (fun number digit => 10 * number + digit.getD 0) 0))
  else none

/-- The index of the item that a placeholder chooses. -/
def chooseItem (placedFlags : List Bool) : Option Nat → Except SectionFailure Nat
  | some index =>
    if index < 1 ∨ placedFlags.length < index then
      .error (.docxRevision ("object placeholder index out of range: " ++ toString index ++ " (原节共有 " ++
        toString placedFlags.length ++ " 个可保留对象)"))
    else if placedFlags.getD (index - 1) false then
      .error (.docxRevision ("object placeholder " ++ toString index ++
        " was used more than once （同一对象不能重复放置）"))
    else .ok (index - 1)
  | none =>
    match placedFlags.findIdx? (!·) with
    | some index => .ok index
    | none => .error (.docxRevision
        "there is no preserved object left for this placeholder （占位符数量超过原节可保留对象数量）")

/-- What the loop over the lines has made. -/
structure Placement where
  elements : List Element
  placedFlags : List Bool
  placedObjects : Nat
  insertedParagraphs : Nat

/-- The loop over the lines, from the flags on. -/
def placeLines (view : DocxView) (paragraph : String → Element) (items : List Preserved) :
    List Bool → List String → Except SectionFailure Placement
  | placedFlags, [] => .ok { elements := [], placedFlags, placedObjects := 0, insertedParagraphs := 0 }
  | placedFlags, line :: rest =>
    match placeholderNumber view line with
    | none => do
      if hasPart line "[[" && hasPart line "]]" then
        .error (.docxRevision ("an object placeholder must occupy its own line " ++
          "（每个 [[embed]] 占位符必须单独一行）"))
      else if !isXmlText line then .error .notXml
      else
        let later ← placeLines view paragraph items placedFlags rest
        .ok { later with
          elements := paragraph line :: later.elements
          insertedParagraphs := later.insertedParagraphs + 1 }
    | some number => do
      let chosen ← chooseItem placedFlags number
      let later ← placeLines view paragraph items (placedFlags.set chosen true) rest
      .ok { later with
        elements := (items[chosen]?.map (placeItem view)).toList ++ later.elements
        placedObjects := later.placedObjects + 1 }

/-! ### The replacement -/

/-- `text.strip()` of the `w:t` elements. -/
def textElements (element : Element) : String :=
  strip (String.join ((iterTag "w:t" element).map fun node => node.label.text))

/-- `_elements_text`. -/
def elementsText (elements : List Element) : String :=
  "\n".intercalate (elements.flatMap fun element =>
    if tagOf element == "w:p" then [textElements element].filter fun text => text != ""
    else if tagOf element == "w:tbl" then
      (iterTag "w:tr" element).map fun row =>
        " | ".intercalate (((iterTag "w:tc" row).map textElements).filter fun cell => cell != "")
    else [])

/-- `after.replace("\r\n", "\n").replace("\r", "\n")`. -/
def newlines : List Char → List Char
  | '\r' :: '\n' :: rest => '\n' :: newlines rest
  | '\r' :: rest => '\n' :: newlines rest
  | character :: rest => character :: newlines rest
  | [] => []

/-- The lines of the new text. -/
def afterLines (after : String) : List String :=
  (splitChars '\n' (newlines after.toList)).map String.ofList

/-- The audit record. -/
structure SectionAudit where
  headingPath : List String
  headingLevel : Nat
  preserveEmbedded : Bool
  removedParagraphs : Nat
  removedTables : Nat
  removedDrawings : Nat
  preservedParagraphs : Nat
  preservedTables : Nat
  preservedDrawings : Nat
  placedObjects : Nat
  insertedParagraphs : Nat
  removedText : String
deriving Repr, DecidableEq

def Preserved.isTable : Preserved → Bool
  | .table _ => true
  | .runs _ _ => false

/-- The drawings that an item counts for `preserved_drawings`. -/
def Preserved.drawings : Preserved → Nat
  | .table _ => 0
  | .runs _ runElements => (runElements.map elementEmbeddedCount).sum

/-- `replace_section_in_docx`, of the body of the document. -/
def replaceSectionInDocx (view : DocxView) (body : List Element) (headingPath : List String) (after : String)
    (preserveEmbedded : Bool := true) : Except SectionFailure (List Element × SectionAudit) := do
  let (position, level, fullPath) ← findSectionHeading view body headingPath
  let elements := sectionElements view level (body.drop (position + 1))
  let items := preservedItems preserveEmbedded elements
  let removed := removedElements preserveEmbedded elements
  let paragraph := newParagraph view (bodyStyle view elements) (runProperties elements) (paragraphProperties elements)
  let placement ← placeLines view paragraph items (items.map fun _ => false) (afterLines after)
  let leftOver := (items.zip placement.placedFlags).filter fun item => !item.2
  let child := body.take (position + 1) ++
    (placement.elements ++ leftOver.map fun item => placeItem view item.1) ++
      body.drop (position + 1 + elements.length)
  .ok (child,
    { headingPath := fullPath
      headingLevel := level
      preserveEmbedded
      removedParagraphs := removed.countP fun element => tagOf element == "w:p"
      removedTables := removed.countP fun element => tagOf element == "w:tbl"
      removedDrawings := (removed.map elementEmbeddedCount).sum
      preservedParagraphs := items.countP fun item => !item.isTable
      preservedTables := items.countP Preserved.isTable
      preservedDrawings := (items.map Preserved.drawings).sum
      placedObjects := placement.placedObjects
      insertedParagraphs := placement.insertedParagraphs
      removedText := elementsText elements })

end HardwareDatabase.Attachments
