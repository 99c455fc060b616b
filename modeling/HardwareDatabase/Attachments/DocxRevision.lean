/-
Module: HardwareDatabase.Attachments.DocxRevision
Purpose: Headings and spans of a DOCX body (`src/src/attachments/docx_revision.py`). A style comes with the number
  that `_HEADING_NAME_RE` finds in its name; how `python-docx` reads and assigns the text of a run is a parameter.
Trusted boundary: none
-/
import HardwareDatabase.Python.Text

namespace HardwareDatabase.Attachments

open Python

/-! ### Paragraphs -/

/-- A run as it is read: its text and its format. -/
structure Run (Format : Type) where
  text : String
  format : Format
deriving Repr, DecidableEq

/-- A style of the document. -/
structure Style where
  styleId : String
  nameNumber : Option Nat := none
  outlineLvl : Option Int := none
deriving Repr, DecidableEq

/-- A paragraph, with its style and the styles that this one is based on. -/
structure Paragraph (Format : Type) where
  runs : List (Run Format)
  outlineLvl : Option Int := none
  styles : List Style := []
deriving Repr, DecidableEq

/-- `_paragraph_text`. -/
def paragraphText {Format : Type} : List (Run Format) → String
  | [] => ""
  | run :: rest => run.text ++ paragraphText rest

/-- `_outline_level_from_pPr`. -/
def outlineLevel (outlineLvl : Option Int) : Option Nat :=
  outlineLvl.map fun value => (max 1 (value + 1)).toNat

/-- The style chain in `heading_level`. -/
def styleLevel (seen : List String) : List Style → Option Nat
  | [] => none
  | style :: bases =>
    if style.styleId ≠ "" ∧ style.styleId ∈ seen then none
    else match style.nameNumber with
      | some number => some (max 1 number)
      | none => match outlineLevel style.outlineLvl with
        | some level => some level
        | none => styleLevel (style.styleId :: seen) bases

/-- `heading_level`. -/
def headingLevel {Format : Type} (paragraph : Paragraph Format) : Option Nat :=
  match outlineLevel paragraph.outlineLvl with
  | some level => some level
  | none => styleLevel [] paragraph.styles

/-! ### The outline -/

/-- What `_heading_outline` yields for a heading. -/
structure OutlineEntry (Format : Type) where
  paragraph : Paragraph Format
  level : Nat
  fullPath : List String
deriving Repr, DecidableEq

/-- `_heading_outline`, with the stack so far. -/
def outlineFrom {Format : Type} (stack : List (Nat × String)) : List (Paragraph Format) → List (OutlineEntry Format)
  | [] => []
  | paragraph :: rest =>
    match headingLevel paragraph with
    | none => outlineFrom stack rest
    | some level =>
      let text := strip (paragraphText paragraph.runs)
      if text = "" then outlineFrom stack rest
      else
        let stack := stack.take (level - 1)
        { paragraph, level, fullPath := stack.map Prod.snd ++ [text] } ::
          outlineFrom (stack ++ [(level, text)]) rest

/-- `_heading_outline`. -/
def headingOutline {Format : Type} (document : List (Paragraph Format)) : List (OutlineEntry Format) :=
  outlineFrom [] document

/-! ### Spans

A span is replaced run by run: the first run that it meets takes the new text, the others lose their part
of the span. Every text goes through the assignment of `Run.text`, which not every text survives. -/

/-- A `DocxRevisionError`, with its text, or the ValueError of lxml. -/
inductive Failure
  | docxRevision (message : String)
  -- the text has a character that XML cannot hold
  | notXml
deriving Repr, DecidableEq

/-- XML holds the character in a text of a run. -/
def isXmlChar (character : Char) : Bool :=
  character == '\t' || (32 ≤ character.toNat && character.toNat != 0xFFFE && character.toNat != 0xFFFF)

/-- A run can hold the text: line ends become breaks, all other characters are XML's. -/
def isRunText (text : String) : Bool :=
  text.toList.all fun character => character == '\n' || character == '\r' || isXmlChar character

/-- The text with a line feed for every carriage return. -/
def lineFeeds (text : String) : String :=
  String.ofList (text.toList.map fun character => if character = '\r' then '\n' else character)

/-- The runs of `python-docx`: what is read of a run, and `run.text = text`. -/
structure RunText (R Format : Type) where
  read : R → Run Format
  write : R → String → Option R

/-- What `python-docx` documents of `Run.text`: a text that is read is one that a run can hold; an assigned
text is read again with a line feed for every line end, and leaves the format; a text that XML cannot hold
is refused. -/
structure RunText.Lawful {R Format : Type} (access : RunText R Format) : Prop where
  readable : ∀ run, isRunText (access.read run).text = true
  written : ∀ run text, isRunText text = true → ∃ next, access.write run text = some next ∧
    access.read next = { access.read run with text := lineFeeds text }
  refused : ∀ run text, isRunText text = false → access.write run text = none

/-- The text that is assigned to a run that starts at the position and meets the span. -/
def replacedText (start stop : Nat) (after : String) (runStart : Nat) (inserted : Bool) (text : String) : String :=
  let runEnd := runStart + text.length
  let localStart := max start runStart - runStart
  let localEnd := min stop runEnd - runStart
  if inserted then clip localStart text ++ skip localEnd text
  else clip localStart text ++ after ++ skip localEnd text

section Spans

variable {R Format : Type} (access : RunText R Format)

/-- The text of the runs. -/
def RunText.textOf (runs : List R) : String :=
  paragraphText (runs.map access.read)

/-- The loop of `_replace_span` from a position on, with whether `after` is already inserted. -/
def replaceRuns (start stop : Nat) (after : String) : Nat → Bool → List R → Except Failure (List R × Bool)
  | _, inserted, [] => .ok ([], inserted)
  | position, inserted, run :: rest =>
    let text := (access.read run).text
    let runEnd := position + text.length
    if runEnd ≤ start ∨ stop ≤ position then
      (replaceRuns start stop after runEnd inserted rest).map fun later => (run :: later.1, later.2)
    else
      match access.write run (replacedText start stop after position inserted text) with
      | none => .error .notXml
      | some written =>
        (replaceRuns start stop after runEnd true rest).map fun later => (written :: later.1, later.2)

/-- `_replace_span`. -/
def replaceSpan (runs : List R) (start stop : Nat) (after : String) : Except Failure (List R) :=
  match replaceRuns access start stop after 0 false runs with
  | .error failure => .error failure
  | .ok (replaced, true) => .ok replaced
  | .ok (_, false) => .error (.docxRevision "replacement target runs could not be located")

end Spans

end HardwareDatabase.Attachments
