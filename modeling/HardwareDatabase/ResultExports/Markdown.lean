/-
Module: HardwareDatabase.ResultExports.Markdown
Purpose: The walk over the tokens of a Markdown answer (`src/src/result_exports/markdown.py`), with the test for a
  full HTML document (`src/src/result_exports/answer.py`); indices are numbers of tokens that are passed over.
Trusted boundary: none
-/
import HardwareDatabase.Python.Locations

namespace HardwareDatabase.Markdown

open Python

/-! ### Full HTML documents -/

/-- What the host says of characters and texts. -/
structure TextHost where
  /-- `text.casefold()` -/
  casefold : String → String
  /-- `\w` -/
  isWord : Char → Bool

/-- A place with the part, and what follows it accepted: `re.search`. -/
def searchThen (part : List Char) (accept : List Char → Bool) : List Char → Bool
  | [] => part.isEmpty && accept []
  | character :: rest =>
    (part.isPrefixOf (character :: rest) && accept ((character :: rest).drop part.length)) ||
      searchThen part accept rest

/-- `\b` after a word. -/
def endsWord (host : TextHost) : List Char → Bool
  | [] => true
  | character :: _ => !host.isWord character

/-- `\s*>` -/
def closesTag (after : List Char) : Bool :=
  (after.dropWhile isSpace).head? == some '>'

/-- `is_full_html_document`. -/
def isFullHtmlDocument (host : TextHost) (text : String) : Bool :=
  let lowered := host.casefold text
  let hasWord (part : String) := searchThen part.toList (endsWord host) lowered.toList
  (hasPart lowered "<!doctype html" || hasWord "<html") && (hasWord "<head" || hasWord "<body") &&
    searchThen "</html".toList closesTag lowered.toList

/-! ### Nodes and tokens -/

def maxMarkdownChars : Nat := 500000
def maxMarkdownBlocks : Nat := 1000
def maxTableRows : Nat := 10000
def maxTableColumns : Nat := 100
def maxListItems : Nat := 10000

/-- What surrounds inline content; a node has its name as its type. -/
inductive Span where
  | emphasis | strong | strikethrough | link
deriving Repr, DecidableEq

/-- A node of `_inline_nodes`. -/
inductive Node where
  | text (text : String)
  | code (text : String)
  | lineBreak
  | image (text src : String)
  | container (span : Span) (href : Option String) (children : List Node)

mutual

/-- What a node adds to `inline_text`. -/
def Node.flat : Node → String
  | .text text | .code text | .image text _ => text
  | .lineBreak => "\n"
  | .container _ _ children => inlineText children

/-- `inline_text`. -/
def inlineText : List Node → String
  | [] => ""
  | node :: rest => node.flat ++ inlineText rest

end

/-- The type of a child of an inline token; `other` is one that `_inline_nodes` does not know. -/
inductive ChildType where
  | opening (span : Span)
  | closing (span : Span)
  | softbreak | hardbreak | text | codeInline | image | htmlInline | entity | other
deriving Repr, DecidableEq

/-- A child of an inline token, with the attributes `href` and `src`. -/
structure InlineToken where
  type : ChildType
  content : String := ""
  href : Option String := none
  src : String := ""

/-- What opens and closes: `…_open` and `…_close`. -/
inductive Container where
  | heading | paragraph | bulletList | orderedList | listItem | blockquote
  | table | thead | tbody | tr | th | td
deriving Repr, DecidableEq

/-- The type of a token. -/
inductive TokenType where
  | opening (container : Container)
  | closing (container : Container)
  | inlines | fence | codeBlock | rule | htmlBlock | other
deriving Repr, DecidableEq

/-- A token of the parser. -/
structure Token where
  type : TokenType
  tag : String := ""
  info : String := ""
  content : String := ""
  /-- the attribute `start`, and the attribute `style` -/
  start : Option Int := none
  style : String := ""
  children : List InlineToken := []

/-! ### Inline nodes -/

/-- A container that is open, with the nodes in it so far. -/
structure OpenSpan where
  span : Span
  href : Option String
  nodes : List Node

/-- `root`, and what is open, the innermost container first. -/
structure InlineState where
  root : List Node := []
  opened : List OpenSpan := []

/-- `stack[-1].append(node)`. -/
def InlineState.append (state : InlineState) (nodes : List Node) : InlineState :=
  match state.opened with
  | [] => { state with root := state.root ++ nodes }
  | inner :: outer => { state with opened := { inner with nodes := inner.nodes ++ nodes } :: outer }

/-- The node of a container. -/
def OpenSpan.node (inner : OpenSpan) : Node :=
  .container inner.span inner.href inner.nodes

/-- A closing token ends the innermost container, whatever its type is. -/
def InlineState.close (state : InlineState) : InlineState :=
  match state.opened with
  | [] => state
  | inner :: outer => { state with opened := outer }.append [inner.node]

/-- The node of a child that neither opens nor closes. -/
def InlineToken.node? (child : InlineToken) : Option Node :=
  match child.type with
  | .opening _ | .closing _ => none
  | .softbreak | .hardbreak => some .lineBreak
  | .codeInline => some (.code (clip maxMarkdownChars child.content))
  | .image => some (.image (clip 1000 child.content) (clip 2000 child.src))
  | .text | .htmlInline | .entity | .other =>
    if child.content = "" then none else some (.text (clip maxMarkdownChars child.content))

/-- The loop body of `_inline_nodes`. -/
def inlineStep (state : InlineState) (child : InlineToken) : InlineState :=
  match child.type with
  | .opening span =>
    let href := if span = .link then (child.href.filter (· != "")).map (clip 2000) else none
    { state with opened := ⟨span, href, []⟩ :: state.opened }
  | .closing _ => state.close
  | _ => state.append child.node?.toList

/-- The nodes of the open containers in those around them. -/
def closedNodes (root : List Node) : List OpenSpan → List Node → List Node
  | [], later => root ++ later
  | inner :: outer, later => closedNodes root outer [.container inner.span inner.href (inner.nodes ++ later)]

/-- `_inline_nodes`; the nodes of a container that is never closed are in it. -/
def inlineNodes (children : List InlineToken) : List Node :=
  let state := children.foldl inlineStep {}
  closedNodes state.root state.opened []

/-- `_inline_block`. -/
structure InlineBlock where
  text : String := ""
  inlines : List Node := []

def inlineBlock (token : Token) : InlineBlock where
  text := inlineText (inlineNodes token.children)
  inlines := inlineNodes token.children

/-- The block has a text or nodes. -/
def InlineBlock.filled (block : InlineBlock) : Bool :=
  block.text != "" || !block.inlines.isEmpty

/-- A block of the export document. -/
inductive ExportBlock where
  | heading (level : Nat) (inline_ : InlineBlock)
  | paragraph (inline_ : InlineBlock)
  | list (ordered : Bool) (items : List InlineBlock) (start : Option Int)
  | quote (text : String) (inlines : List Node)
  | table (columns : List String) (rows : List (List String)) (inlines : List (List Node))
      (rowInlines : List (List (List Node))) (alignments : List String)
  | code (language text : String)
  | rule

/-! ### Containers -/

/-- `_first_inline` of the tokens of a range. -/
def firstInline (tokens : List Token) : InlineBlock :=
  ((tokens.find? fun token => token.type = .inlines).map inlineBlock).getD {}

/-- `_matching_close`, counted from the token that comes first. -/
def matchingClose (container : Container) : Nat → List Token → Nat
  | _, [] => 0
  | depth, token :: rest =>
    if token.type = .opening container then matchingClose container (depth + 1) rest + 1
    else if token.type = .closing container then
      if depth = 1 then 0 else matchingClose container (depth - 1) rest + 1
    else matchingClose container depth rest + 1

/-- `tokens[start + 1 : end]`, with `end` the place of the matching close. -/
def innerTokens (container : Container) (tokens : List Token) : List Token :=
  (tokens.take (matchingClose container 0 tokens)).tail

/-- `min(end + 1, len(tokens)) - start`. -/
def passedOver (container : Container) (tokens : List Token) : Nat :=
  min (matchingClose container 0 tokens + 1) tokens.length

/-- The loop of `_list_block`: the tokens since the start of the item, if there is one, and the items so far. -/
def listItems : Nat → Option (List Token) → List InlineBlock → List Token → List InlineBlock
  | _, _, items, [] => items
  | depth, item, items, token :: rest =>
    if token.type = .opening .listItem then
      listItems (depth + 1) (if depth = 0 then some [] else item.map (· ++ [token])) items rest
    else if token.type = .closing .listItem then
      match (if depth = 1 then item else none) with
      | some body =>
        let found := firstInline body
        let items := if found.filled then items ++ [found] else items
        if maxListItems ≤ items.length then items else listItems (depth - 1) none items rest
      | none => listItems (depth - 1) (if depth = 1 then item else item.map (· ++ [token])) items rest
    else listItems depth (item.map (· ++ [token])) items rest

/-- `_list_block`, for the opening token and the tokens after it. -/
def listBlock (ordered : Bool) (opening : Token) (tokens : List Token) : Option ExportBlock × Nat :=
  let container := if ordered then .orderedList else .bulletList
  let items := listItems 0 none [] (innerTokens container tokens)
  let block := ExportBlock.list ordered items (if ordered then opening.start.map (max 1) else none)
  (if items.isEmpty then none else some block, passedOver container tokens)

/-- The nodes of some lines, with breaks between them. -/
def joinLines : List InlineBlock → List Node
  | [] => []
  | line :: rest => line.inlines ++ rest.flatMap fun line => .lineBreak :: line.inlines

/-- `_quote_block`. -/
def quoteBlock (tokens : List Token) : Option ExportBlock × Nat :=
  let lines := ((innerTokens .blockquote tokens).filter fun token => token.type = .inlines).map inlineBlock
  let text := "\n".intercalate ((lines.map (·.text)).filter (· != ""))
  (if text = "" then none else some (.quote text (joinLines lines)), passedOver .blockquote tokens)

/-! ### Tables -/

/-- The variables of the loop of `_table_block`. -/
structure TableState where
  header : List String := []
  headerInlines : List (List Node) := []
  rows : List (List String) := []
  rowInlines : List (List (List Node)) := []
  alignments : List String := []
  /-- `current_cells` and `current_inline_cells`, which are set together -/
  cells : Option (List String × List (List Node)) := none
  isHeader : Bool := false
  cell : Option InlineBlock := none

/-- The alignment that a style gives. -/
def alignmentOf (style : String) : String :=
  if hasPart style "center" then "center" else if hasPart style "right" then "right" else "left"

/-- The loop body of `_table_block` for one token. -/
def tableStep (state : TableState) (token : Token) : TableState :=
  match token.type with
  | .opening .tr => { state with cells := some ([], []), isHeader := false }
  | .opening .th =>
    { state with isHeader := true, cell := some {}
                 alignments := if state.alignments.length < maxTableColumns then
                   state.alignments ++ [alignmentOf token.style] else state.alignments }
  | .opening .td => { state with isHeader := false, cell := some {} }
  | .inlines => { state with cell := state.cell.map fun _ => inlineBlock token }
  | .closing .th | .closing .td =>
    match state.cells with
    | some (texts, inlines) =>
      let cell := state.cell.getD {}
      { state with cells := some (texts ++ [clip maxMarkdownChars cell.text], inlines ++ [cell.inlines])
                   cell := none }
    | none => state
  | .closing .tr =>
    match state.cells with
    | some (texts, inlines) =>
      let texts := texts.take maxTableColumns
      let inlines := inlines.take maxTableColumns
      let after := { state with cells := none, isHeader := false }
      if state.isHeader = true ∧ state.header = [] then { after with header := texts, headerInlines := inlines }
      else if texts ≠ [] then
        { after with rows := state.rows ++ [texts], rowInlines := state.rowInlines ++ [inlines] }
      else after
    | none => state
  | _ => state

/-- The loop of `_table_block`, which ends with the last row that is let in. -/
def tableLoop (state : TableState) : List Token → TableState
  | [] => state
  | token :: rest =>
    let after := tableStep state token
    if state.rows.length < after.rows.length ∧ maxTableRows ≤ after.rows.length then after
    else tableLoop after rest

/-- `(items + [filler] * width)[:width]`. -/
def fitted {α : Type} (filler : α) (width : Nat) (items : List α) : List α :=
  (items ++ List.replicate width filler).take width

/-- The block of a table: a table without a header gets names for the columns of its first row. -/
def tableOf (state : TableState) : ExportBlock :=
  let widest := ((state.header.length :: state.rows.map List.length).foldl max 0)
  let named := state.header = [] ∧ state.rows ≠ []
  let width := min maxTableColumns (if named then (state.rows.headD []).length else widest)
  let names := (List.range width).map fun index => "列" ++ toString (index + 1)
  .table (fitted "" width (if named then names else state.header))
    (state.rows.map (fitted "" width))
    ((if named then names.map fun name => [.text name] else state.headerInlines).take width)
    (state.rowInlines.map (fitted [] width))
    (fitted "left" width state.alignments)

/-- `_table_block`, with the test for columns. -/
def tableBlock (tokens : List Token) : Option ExportBlock × Nat :=
  let block := tableOf (tableLoop {} (innerTokens .table tokens))
  let empty := match block with
    | .table columns _ _ _ _ => columns.isEmpty
    | _ => false
  (if empty then none else some block, passedOver .table tokens)

/-! ### The walk -/

section Walk

variable (host : TextHost)

/-- `max(1, min(6, int(token.tag[1:])))`, or 1 where there is no number. -/
def headingLevel (tag : String) : Nat :=
  match (skip 1 tag).toInt? with
  | some level => (max 1 (min 6 level)).toNat
  | none => 1

/-- `str(token.info or "").strip().split(None, 1)[0]`, which raises for a blank text. -/
def firstWord (info : String) : Except String String :=
  if strip info = "" then .error "IndexError"
  else .ok (String.ofList ((strip info).toList.takeWhile fun character => !isSpace character))

/-- The block of a code text. -/
def codeBlock (language : String) (token : Token) : Option ExportBlock :=
  let text := clip maxMarkdownChars token.content
  if isFullHtmlDocument host text then none else some (.code (clip 80 language) text)

/-- One turn of `_parse_tokens`: the block that is added, and how many tokens are passed over. -/
def step (token : Token) (rest : List Token) : Except String (Option ExportBlock × Nat) :=
  match token.type with
  | .opening .heading => .ok (some (.heading (headingLevel token.tag) (firstInline (rest.take 2))), 3)
  | .opening .paragraph =>
    let block := firstInline (rest.take 2)
    .ok (if block.filled then some (.paragraph block) else none, 3)
  | .opening .bulletList => .ok (listBlock false token (token :: rest))
  | .opening .orderedList => .ok (listBlock true token (token :: rest))
  | .opening .blockquote => .ok (quoteBlock (token :: rest))
  | .opening .table => .ok (tableBlock (token :: rest))
  | .fence => (firstWord token.info).map fun language => (codeBlock host language token, 1)
  | .codeBlock => .ok (codeBlock host "" token, 1)
  | .rule => .ok (some .rule, 1)
  | .htmlBlock =>
    let text := strip token.content
    let shown := clip maxMarkdownChars text
    .ok (if text = "" ∨ isFullHtmlDocument host text = true then none
      else some (.paragraph { text := shown, inlines := [.text shown] }), 1)
  | _ => .ok (none, 1)

/-- The loop of `_parse_tokens`: the tokens that are still to be passed over, and the blocks so far. -/
def walk : Nat → List ExportBlock → List Token → Except String (List ExportBlock)
  | _, blocks, [] => .ok blocks
  | count + 1, blocks, _ :: rest => walk count blocks rest
  | 0, blocks, token :: rest =>
    if maxMarkdownBlocks ≤ blocks.length then .ok blocks
    else
      match step host token rest with
      | .error failure => .error failure
      | .ok (block, passed) => walk (passed - 1) (blocks ++ block.toList) rest

/-- `_parse_tokens`. -/
def parseTokens (tokens : List Token) : Except String (List ExportBlock) :=
  walk host 0 [] tokens

end Walk

end HardwareDatabase.Markdown
