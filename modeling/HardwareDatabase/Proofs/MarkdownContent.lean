/-
Module: HardwareDatabase.Proofs.MarkdownContent
Purpose: When the export blocks of a Markdown document hold its inline texts, cells and code, in nodes and in texts:
  fences have an info string, items and quotes nothing that is dropped.
Trusted boundary: none
-/
import HardwareDatabase.ResultExports.Markdown
import Mathlib.Data.List.Basic
import Mathlib.Data.List.Flatten

namespace HardwareDatabase.Markdown

open Python

/-! ### Documents -/

/-- A cell: its style, and the children of its inline token. -/
abbrev Cell := String × List InlineToken

/-- A block of a document; a table has a cell in its header. -/
inductive Doc where
  | heading (tag : String) (children : List InlineToken)
  | paragraph (children : List InlineToken)
  | list (ordered : Bool) (start : Option Int) (items : List (List Doc))
  | quote (children : List Doc)
  | table (first : Cell) (more : List Cell) (rows : List (List Cell))
  | fence (info content : String)
  | codeBlock (content : String)
  | rule

def openToken (container : Container) : Token := { type := .opening container }

def closeToken (container : Container) : Token := { type := .closing container }

def inlineToken (children : List InlineToken) : Token := { type := .inlines, children }

/-- The tokens of the cells of a row. -/
def cellTokens (container : Container) (cells : List Cell) : List Token :=
  cells.flatMap fun cell =>
    [{ type := .opening container, style := cell.1 }, inlineToken cell.2, closeToken container]

/-- The tokens of a row. -/
def rowTokens (container : Container) (cells : List Cell) : List Token :=
  openToken .tr :: (cellTokens container cells ++ [closeToken .tr])

/-- The tokens of the body of a table. -/
def bodyTokens (rows : List (List Cell)) : List Token :=
  openToken .tbody :: (rows.flatMap (rowTokens .td) ++ [closeToken .tbody])

/-- The container of a list. -/
def listContainer (ordered : Bool) : Container :=
  if ordered then .orderedList else .bulletList

mutual

/-- The tokens of a block. -/
def Doc.tokens : Doc → List Token
  | .heading tag children =>
    [{ type := .opening .heading, tag }, inlineToken children, closeToken .heading]
  | .paragraph children => [openToken .paragraph, inlineToken children, closeToken .paragraph]
  | .list ordered start items =>
    { type := .opening (listContainer ordered), start } ::
      (itemTokens items ++ [closeToken (listContainer ordered)])
  | .quote children => openToken .blockquote :: (docTokens children ++ [closeToken .blockquote])
  | .table first more rows =>
    openToken .table :: ((openToken .thead :: (rowTokens .th (first :: more) ++ [closeToken .thead])) ++
      (if rows = [] then [] else bodyTokens rows) ++ [closeToken .table])
  | .fence info content => [{ type := .fence, info, content }]
  | .codeBlock content => [{ type := .codeBlock, content }]
  | .rule => [{ type := .rule }]

/-- The tokens of some blocks. -/
def docTokens : List Doc → List Token
  | [] => []
  | doc :: rest => doc.tokens ++ docTokens rest

/-- The tokens of the items of a list. -/
def itemTokens : List (List Doc) → List Token
  | [] => []
  | item :: rest => (openToken .listItem :: (docTokens item ++ [closeToken .listItem])) ++ itemTokens rest

end

/-! ### Matching tokens -/

/-- Each opening token of the kind has its closing token. -/
inductive Matched (container : Container) : List Token → Prop
  | nil : Matched container []
  | skip {token : Token} {rest : List Token} (notOpening : token.type ≠ .opening container)
      (notClosing : token.type ≠ .closing container) (matched : Matched container rest) :
      Matched container (token :: rest)
  | wrap {opening closing : Token} {inner rest : List Token} (opens : opening.type = .opening container)
      (closes : closing.type = .closing container) (inside : Matched container inner) (after : Matched container rest) :
      Matched container (opening :: (inner ++ closing :: rest))

namespace Matched

variable {container kind : Container} {tokens others : List Token}

private theorem append (matched : Matched container tokens) (also : Matched container others) :
    Matched container (tokens ++ others) := by
  induction matched with
  | nil => exact also
  | skip notOpening notClosing _ ih => exact .skip notOpening notClosing ih
  | wrap opens closes inside _ _ ih =>
    rw [List.cons_append, List.append_assoc, List.cons_append]
    exact .wrap opens closes inside ih

private theorem single {token : Token} (notOpening : token.type ≠ .opening container)
    (notClosing : token.type ≠ .closing container) : Matched container [token] :=
  .skip notOpening notClosing .nil

private theorem between {opening closing : Token} (opens : opening.type = .opening kind)
    (closes : closing.type = .closing kind)
    (inside : Matched container tokens) : Matched container (opening :: (tokens ++ [closing])) := by
  by_cases same : kind = container
  · subst same
    exact .wrap opens closes inside .nil
  · have free : Matched container [closing] := single (by simp [closes]) (by simp [closes, same])
    exact .skip (by simp [opens, same]) (by simp [opens]) (inside.append free)

variable {α : Type}

private theorem flatMap {items : List α} {f : α → List Token} (each : ∀ item, Matched container (f item)) :
    Matched container (items.flatMap f) := by
  induction items with
  | nil => exact .nil
  | cons item rest ih =>
    rw [List.flatMap_cons]
    exact (each item).append ih

private theorem row (cells : List Cell) : Matched container (rowTokens kind cells) := by
  have free (children : List InlineToken) : Matched container [inlineToken children] :=
    single (by simp [inlineToken]) (by simp [inlineToken])
  exact between rfl rfl (flatMap fun cell => between rfl rfl (free cell.2))

private theorem matchingClose_eq (matched : Matched container tokens) (depth : Nat) (rest : List Token) :
    matchingClose container (depth + 1) (tokens ++ rest) = tokens.length + matchingClose container (depth + 1) rest := by
  induction matched generalizing depth rest with
  | nil => simp
  | skip notOpening notClosing _ ih =>
    rw [List.cons_append, matchingClose, if_neg notOpening, if_neg notClosing, ih, List.length_cons]
    omega
  | wrap opens closes _ _ inside after =>
    rw [List.cons_append, matchingClose, if_pos opens, List.append_assoc, inside, List.cons_append, matchingClose,
      if_neg (by simp [closes]), if_pos closes, if_neg (by omega), Nat.add_sub_cancel, after]
    simp only [List.length_cons, List.length_append]
    omega

private theorem inside_pair {opening closing : Token} (opens : opening.type = .opening container)
    (closes : closing.type = .closing container) (matched : Matched container tokens) (rest : List Token) :
    innerTokens container (opening :: (tokens ++ closing :: rest)) = tokens ∧
      passedOver container (opening :: (tokens ++ closing :: rest)) = tokens.length + 2 := by
  have close : matchingClose container 0 (opening :: (tokens ++ closing :: rest)) = tokens.length + 1 := by
    rw [matchingClose, if_pos opens, matched.matchingClose_eq 0, matchingClose, if_neg (by simp [closes]),
      if_pos closes, if_pos rfl]
  constructor
  · rw [innerTokens, close, List.take_succ_cons, List.tail_cons, List.take_left' rfl]
  · rw [passedOver, close]
    simp only [List.length_cons, List.length_append]
    omega

private theorem listItems_eq (matched : Matched .listItem tokens) (depth : Nat) (body rest : List Token)
    (items : List InlineBlock) : listItems (depth + 1) (some body) items (tokens ++ rest) =
      listItems (depth + 1) (some (body ++ tokens)) items rest := by
  induction matched generalizing depth body rest with
  | nil => simp
  | skip notOpening notClosing _ ih =>
    rw [List.cons_append, listItems, if_neg notOpening, if_neg notClosing, Option.map_some, ih,
      List.append_assoc, List.singleton_append]
  | wrap opens closes _ _ inside after =>
    rw [List.cons_append, listItems, if_pos opens, if_neg (by omega), Option.map_some, List.append_assoc, inside,
      List.cons_append, listItems, if_neg (by simp [closes]), if_pos closes, if_neg (by omega)]
    simp only [Nat.add_sub_cancel, if_neg (show ¬ depth + 1 + 1 = 1 by omega), Option.map_some]
    rw [after]
    simp

end Matched

mutual

private theorem matched_tokens (container : Container) : (doc : Doc) → Matched container doc.tokens
  | .heading _ _ | .paragraph _ => by
    rw [Doc.tokens]
    exact Matched.between rfl rfl (.single (by simp [inlineToken]) (by simp [inlineToken]))
  | .list ordered _ items => by
    rw [Doc.tokens]
    exact Matched.between rfl rfl (matched_itemTokens container items)
  | .quote children => by
    rw [Doc.tokens]
    exact Matched.between rfl rfl (matched_docTokens container children)
  | .table first more rows => by
    rw [Doc.tokens]
    refine Matched.between rfl rfl (Matched.append (Matched.between rfl rfl (Matched.row _)) ?_)
    split
    · exact .nil
    · exact Matched.between rfl rfl (Matched.flatMap fun row => Matched.row row)
  | .fence _ _ | .codeBlock _ | .rule => by
    rw [Doc.tokens]
    exact .single (by simp) (by simp)

private theorem matched_docTokens (container : Container) : (docs : List Doc) → Matched container (docTokens docs)
  | [] => .nil
  | doc :: rest => by
    rw [docTokens]
    exact (matched_tokens container doc).append (matched_docTokens container rest)

private theorem matched_itemTokens (container : Container) :
    (items : List (List Doc)) → Matched container (itemTokens items)
  | [] => .nil
  | item :: rest => by
    rw [itemTokens]
    exact (Matched.between rfl rfl (matched_docTokens container item)).append (matched_itemTokens container rest)

end

/-! ### Content

What is to be kept is read off the children of the inline tokens; what the blocks show is read off their nodes, and each
block says the same in its texts. -/

/-- An inline text, or a code text. -/
inductive Piece where
  | inline_ (text : String)
  | code (text : String)

/-- The text of a child, but for line breaks and what opens or closes. -/
def InlineToken.piece? (child : InlineToken) : Option Piece :=
  match child.type with
  | .opening _ | .closing _ | .softbreak | .hardbreak => none
  | _ => if child.content = "" then none else some (.inline_ child.content)

/-- The piece of a text. -/
def textPieces (text : String) : List Piece :=
  if text = "" then [] else [.inline_ text]

mutual

/-- The texts of a node. -/
def Node.pieces : Node → List Piece
  | .text text | .code text | .image text _ => textPieces text
  | .lineBreak => []
  | .container _ _ children => nodePieces children

/-- The texts of some nodes. -/
def nodePieces : List Node → List Piece
  | [] => []
  | node :: rest => node.pieces ++ nodePieces rest

end

variable (host : TextHost)

/-- The text of a code block, but for a full HTML document. -/
def codePieces (content : String) : List Piece :=
  if isFullHtmlDocument host content then [] else [.code content]

/-- What a token holds. -/
def tokenContent (token : Token) : List Piece :=
  match token.type with
  | .inlines => token.children.filterMap InlineToken.piece?
  | .fence | .codeBlock => codePieces host token.content
  | _ => []

/-- What the tokens hold, in their order. -/
def content (tokens : List Token) : List Piece :=
  tokens.flatMap (tokenContent host)

/-- What a block of the export document holds. -/
def ExportBlock.pieces : ExportBlock → List Piece
  | .heading _ block | .paragraph block => nodePieces block.inlines
  | .list _ items _ => items.flatMap fun item => nodePieces item.inlines
  | .quote _ inlines => nodePieces inlines
  | .table _ _ inlines rowInlines _ => inlines.flatMap nodePieces ++ rowInlines.flatMap (·.flatMap nodePieces)
  | .code _ text => [.code text]
  | .rule => []

/-- The text says what the nodes say. -/
def InlineBlock.Agrees (block : InlineBlock) : Prop :=
  block.text = inlineText block.inlines

/-- The texts of a block say what its nodes say: those of its items, lines and cells. -/
def ExportBlock.Agrees : ExportBlock → Prop
  | .heading _ block | .paragraph block => block.Agrees
  | .list _ items _ => ∀ item ∈ items, item.Agrees
  | .quote text inlines => ∃ lines : List InlineBlock, (∀ line ∈ lines, line.Agrees) ∧ inlines = joinLines lines ∧
      text = "\n".intercalate ((lines.map (·.text)).filter (· != ""))
  | .table columns rows inlines rowInlines _ => columns = fitted "" columns.length (inlines.map inlineText) ∧
      rows = rowInlines.map (·.map inlineText)
  | .code _ _ | .rule => True

/-- The document is parsed, and what it holds stands in the blocks in its order, in nodes and in texts. -/
def Keeps (docs : List Doc) : Prop :=
  ∃ blocks, parseTokens host (docTokens docs) = .ok blocks ∧
    (content host (docTokens docs)).Sublist (blocks.flatMap ExportBlock.pieces) ∧ ∀ block ∈ blocks, block.Agrees

/-- The text of a child is within the size caps. -/
def InlineToken.Fits (child : InlineToken) : Prop :=
  child.content.length ≤ if child.type = .image then 1000 else maxMarkdownChars

/-- The texts of an inline token are within the size caps, each by itself and together. -/
def Token.Fits (token : Token) : Prop :=
  (∀ child ∈ token.children, child.Fits) ∧ (inlineText (inlineNodes token.children)).length ≤ maxMarkdownChars

/-- The block is within the size caps. -/
def Doc.Fits : Doc → Prop
  | .list _ _ items => items.length ≤ maxListItems
  | .table _ more rows => more.length + 1 ≤ maxTableColumns ∧ (∀ row ∈ rows, row.length ≤ maxTableColumns) ∧
      rows.length ≤ maxTableRows
  | .fence _ content | .codeBlock content => content.length ≤ maxMarkdownChars
  | _ => True

/-- The document is within the size caps. -/
structure WithinCaps (docs : List Doc) : Prop where
  few : docs.length ≤ maxMarkdownBlocks
  blocks : ∀ doc ∈ docs, doc.Fits
  tokens : ∀ token ∈ docTokens docs, token.Fits

instance (child : InlineToken) : Decidable child.Fits :=
  inferInstanceAs (Decidable (_ ≤ _))

instance (token : Token) : Decidable token.Fits :=
  inferInstanceAs (Decidable (_ ∧ _))

/-- A fence has an info string. -/
def Doc.Named : Doc → Prop
  | .fence info _ => strip info ≠ ""
  | _ => True

/-- Items of lists hold nothing but their first inline content, and quotes no code. -/
def Doc.Shallow : Doc → Prop
  | .list _ _ items => ∀ item ∈ items,
      content host ((docTokens item).eraseP fun token => token.type = .inlines) = []
  | .quote children => content host ((docTokens children).filter fun token => token.type ≠ .inlines) = []
  | _ => True

/-! ### Inline nodes -/

private theorem nodePieces_append (left right : List Node) :
    nodePieces (left ++ right) = nodePieces left ++ nodePieces right := by
  induction left with
  | nil => rfl
  | cons node rest ih => rw [List.cons_append, nodePieces, nodePieces, ih, List.append_assoc]

private theorem nodePieces_singleton (node : Node) : nodePieces [node] = node.pieces := by
  rw [nodePieces, nodePieces, List.append_nil]

/-- The texts so far, those of the innermost container last. -/
def InlineState.pieces (state : InlineState) : List Piece :=
  nodePieces state.root ++ state.opened.reverse.flatMap fun inner => nodePieces inner.nodes

private theorem pieces_append (state : InlineState) (nodes : List Node) :
    (state.append nodes).pieces = state.pieces ++ nodePieces nodes := by
  obtain ⟨root, opened⟩ := state
  cases opened with
  | nil => simp [InlineState.append, InlineState.pieces, nodePieces_append]
  | cons => simp [InlineState.append, InlineState.pieces, nodePieces_append]

private theorem pieces_close (state : InlineState) : state.close.pieces = state.pieces := by
  obtain ⟨root, opened⟩ := state
  cases opened with
  | nil => rfl
  | cons =>
    rw [InlineState.close, pieces_append, nodePieces_singleton, OpenSpan.node, Node.pieces]
    simp [InlineState.pieces]

private theorem clip_of_length_le {limit : Nat} {text : String} (fits : text.length ≤ limit) :
    clip limit text = text := by
  rw [clip, List.take_of_length_le (by rwa [String.length_toList]), String.ofList_toList]

private theorem pieces_node? {child : InlineToken} (fits : child.Fits) :
    nodePieces child.node?.toList = child.piece?.toList := by
  rw [InlineToken.Fits] at fits
  rw [InlineToken.node?, InlineToken.piece?]
  cases kind : child.type with
  | image =>
    rw [kind, if_pos rfl] at fits
    simp only [Option.toList_some, nodePieces_singleton, Node.pieces, clip_of_length_le fits, textPieces]
    split <;> rfl
  | _ =>
    rw [kind, if_neg (by simp)] at fits
    simp only [clip_of_length_le fits, Option.toList_some, Option.toList_none, nodePieces_singleton, Node.pieces,
      textPieces, nodePieces]
    try split <;> simp_all [nodePieces, Node.pieces, textPieces]

private theorem pieces_inlineStep (state : InlineState) {child : InlineToken} (fits : child.Fits) :
    (inlineStep state child).pieces = state.pieces ++ child.piece?.toList := by
  rw [← pieces_node? fits, inlineStep]
  split
  · rename_i span kind
    simp [InlineToken.node?, kind, InlineState.pieces, nodePieces]
  · rename_i span kind
    rw [pieces_close]
    simp [InlineToken.node?, kind, nodePieces]
  · exact pieces_append state _

private theorem nodePieces_closedNodes (root : List Node) (opened : List OpenSpan) (later : List Node) :
    nodePieces (closedNodes root opened later) =
      nodePieces root ++ (opened.reverse.flatMap fun inner => nodePieces inner.nodes) ++ nodePieces later := by
  induction opened generalizing later with
  | nil => rw [closedNodes, nodePieces_append, List.reverse_nil, List.flatMap_nil, List.append_nil]
  | cons inner outer ih =>
    rw [closedNodes, ih, nodePieces_singleton, Node.pieces, nodePieces_append]
    simp

/-- The nodes of an inline token within the caps have the texts of its children, in their order. -/
theorem nodePieces_inlineNodes {children : List InlineToken} (fits : ∀ child ∈ children, child.Fits) :
    nodePieces (inlineNodes children) = children.filterMap InlineToken.piece? := by
  have loop : ∀ (later : List InlineToken) (state : InlineState), (∀ child ∈ later, child.Fits) →
      (later.foldl inlineStep state).pieces = state.pieces ++ later.filterMap InlineToken.piece? := by
    intro later
    induction later with
    | nil => simp
    | cons child rest ih =>
      intro state fits
      rw [List.forall_mem_cons] at fits
      rw [List.foldl_cons, ih _ fits.2, pieces_inlineStep state fits.1, List.append_assoc, List.filterMap_cons]
      cases child.piece? with
      | none => rfl
      | some => rfl
  have whole := loop children {} fits
  rw [inlineNodes, nodePieces_closedNodes, nodePieces, List.append_nil]
  exact whole

/-- What the nodes of a token show. -/
def tokenPieces (token : Token) : List Piece :=
  match token.type with
  | .inlines => nodePieces (inlineNodes token.children)
  | .fence | .codeBlock => codePieces host token.content
  | _ => []

/-- What the nodes of some tokens show. -/
def drawn (tokens : List Token) : List Piece :=
  tokens.flatMap (tokenPieces host)

private theorem content_eq_drawn {tokens : List Token} (fits : ∀ token ∈ tokens, token.Fits) :
    content host tokens = drawn host tokens := by
  refine List.flatMap_congr fun token member => ?_
  rw [tokenContent, tokenPieces]
  split
  · exact (nodePieces_inlineNodes (fits token member).1).symm
  all_goals rfl

/-- What the export document shows of a block. -/
def Doc.shown : Doc → List Piece
  | .list _ _ items => items.flatMap fun item => nodePieces (firstInline (docTokens item)).inlines
  | .quote children => drawn host ((docTokens children).filter fun token => token.type = .inlines)
  | doc => drawn host doc.tokens

/-! ### Lists and quotes -/

private theorem nodePieces_of_not_filled {block : InlineBlock} (empty : block.filled = false) :
    nodePieces block.inlines = [] := by
  simp only [InlineBlock.filled, Bool.or_eq_false_iff, Bool.not_eq_false', List.isEmpty_iff] at empty
  rw [empty.2]
  rfl

private theorem listItems_open (item : Option (List Token)) (found : List InlineBlock) (rest : List Token) :
    listItems 0 item found (openToken .listItem :: rest) = listItems 1 (some []) found rest := by
  simp [listItems, openToken]

private theorem listItems_close (body : List Token) (found : List InlineBlock) (rest : List Token) :
    listItems 1 (some body) found (closeToken .listItem :: rest) =
      if maxListItems ≤ (found ++ [firstInline body].filter InlineBlock.filled).length then
        found ++ [firstInline body].filter InlineBlock.filled
      else listItems 0 none (found ++ [firstInline body].filter InlineBlock.filled) rest := by
  cases filled : (firstInline body).filled <;> simp [listItems, closeToken, filled]

private theorem listItems_itemTokens (items : List (List Doc)) (found : List InlineBlock)
    (fits : found.length + items.length ≤ maxListItems) : listItems 0 none found (itemTokens items) =
      found ++ (items.map fun item => firstInline (docTokens item)).filter InlineBlock.filled := by
  induction items generalizing found with
  | nil => simp [itemTokens, listItems]
  | cons item rest ih =>
    have parts : (List.map (fun item => firstInline (docTokens item)) (item :: rest)).filter InlineBlock.filled =
        [firstInline (docTokens item)].filter InlineBlock.filled ++
          (rest.map fun item => firstInline (docTokens item)).filter InlineBlock.filled :=
      List.filter_append [_] _
    rw [itemTokens, List.cons_append, List.append_assoc, listItems_open,
      (matched_docTokens .listItem item).listItems_eq 0, List.nil_append, List.singleton_append, listItems_close,
      parts, ← List.append_assoc]
    rw [List.length_cons] at fits
    have grown := List.length_filter_le InlineBlock.filled [firstInline (docTokens item)]
    rw [List.length_singleton] at grown
    split
    · rename_i full
      rw [List.length_append] at full
      have last : rest = [] := List.length_eq_zero_iff.mp (by omega)
      rw [last, List.map_nil, List.filter_nil, List.append_nil]
    · exact ih _ (by rw [List.length_append]; omega)

private theorem pieces_filtered (blocks : List InlineBlock) :
    ((blocks.filter InlineBlock.filled).flatMap fun block => nodePieces block.inlines) =
      blocks.flatMap fun block => nodePieces block.inlines := by
  induction blocks with
  | nil => rfl
  | cons block rest ih =>
    rw [List.filter_cons, List.flatMap_cons, ← ih]
    split
    · rfl
    · rename_i empty
      rw [nodePieces_of_not_filled (Bool.eq_false_iff.mpr empty), List.nil_append]

mutual

private theorem pieces_eq_nil : (node : Node) → node.flat = "" → node.pieces = []
  | .text _, empty | .code _, empty | .image _ _, empty => by
    rw [Node.flat] at empty
    rw [Node.pieces, textPieces, if_pos empty]
  | .lineBreak, _ => by rw [Node.pieces]
  | .container _ _ children, empty => by
    rw [Node.flat] at empty
    rw [Node.pieces, inlineText_eq_empty children empty]

private theorem inlineText_eq_empty : (nodes : List Node) → inlineText nodes = "" → nodePieces nodes = []
  | [], _ => by rw [nodePieces]
  | node :: rest, empty => by
    rw [inlineText, String.append_eq_empty_iff] at empty
    rw [nodePieces, pieces_eq_nil node empty.1, inlineText_eq_empty rest empty.2, List.append_nil]

end

private theorem nodePieces_joinLines (lines : List InlineBlock) :
    nodePieces (joinLines lines) = lines.flatMap fun line => nodePieces line.inlines := by
  cases lines with
  | nil => rfl
  | cons line rest =>
    rw [joinLines, nodePieces_append, List.flatMap_cons]
    congr 1
    induction rest with
    | nil => rfl
    | cons line rest ih =>
      rw [List.flatMap_cons, List.flatMap_cons, nodePieces_append, ih]
      rfl

private theorem intercalate_eq_empty {texts : List String} (filled : ∀ text ∈ texts, text ≠ "")
    (empty : "\n".intercalate texts = "") : texts = [] := by
  cases texts with
  | nil => rfl
  | cons text rest =>
    have first := filled text List.mem_cons_self
    cases rest with
    | nil => simp_all
    | cons =>
      rw [String.intercalate_cons_cons] at empty
      simp_all

/-! ### Tables -/

/-- The nodes of a cell. -/
def cellNodes (cell : Cell) : List Node :=
  inlineNodes cell.2

/-- The text that a cell gets. -/
def cellText (nodes : List Node) : String :=
  clip maxMarkdownChars (inlineText nodes)

/-- The loop over the tokens of a table has found the cells of this header and of these rows. -/
structure Found (state : TableState) (header : List (List Node)) (rows : List (List (List Node))) : Prop where
  headerInlines : state.headerInlines = header
  headerTexts : state.header = header.map cellText
  rowInlines : state.rowInlines = rows
  rowTexts : state.rows = rows.map (·.map cellText)

variable {state : TableState}

private theorem tableLoop_cons {token : Token} (same : (tableStep state token).rows = state.rows)
    (rest : List Token) : tableLoop state (token :: rest) = tableLoop (tableStep state token) rest := by
  rw [tableLoop]
  exact if_neg fun grown => absurd grown.1 (by rw [same]; exact Nat.lt_irrefl _)

private theorem tableLoop_cells {container : Container} (isCell : container = .th ∨ container = .td) (cells : List Cell)
    (rest : List Token) {state : TableState} {texts : List String} {nodes : List (List Node)}
    (inRow : state.cells = some (texts, nodes)) :
    ∃ alignments cell, tableLoop state (cellTokens container cells ++ rest) = tableLoop { state with
        cells := some (texts ++ (cells.map cellNodes).map cellText, nodes ++ cells.map cellNodes)
        isHeader := if cells = [] then state.isHeader else decide (container = .th)
        alignments
        cell } rest := by
  obtain ⟨header, headerInlines, rows, rowInlines, alignments, _, isHeader, cell⟩ := state
  subst inRow
  induction cells generalizing texts nodes alignments isHeader cell with
  | nil =>
    refine ⟨alignments, cell, ?_⟩
    rw [List.map_nil, List.map_nil, List.append_nil, List.append_nil, if_pos rfl]
    rfl
  | cons first others ih =>
    have more : cellTokens container (first :: others) = { type := .opening container, style := first.1 } ::
        inlineToken first.2 :: closeToken container :: cellTokens container others := rfl
    rw [more, List.cons_append, List.cons_append, List.cons_append]
    obtain rfl | rfl := isCell
    all_goals
      rw [tableLoop_cons rfl, tableLoop_cons rfl, tableLoop_cons rfl]
      obtain ⟨alignments, cell, ran⟩ := ih _ _ _
      refine ⟨alignments, cell, ran.trans ?_⟩
      simp [tableStep, inlineToken, inlineBlock, cellNodes, cellText]

private theorem tableLoop_header {cells : List Cell} (some : cells ≠ []) (fits : cells.length ≤ maxTableColumns)
    (rest : List Token) : ∃ after, tableLoop {} (rowTokens .th cells ++ rest) = tableLoop after rest ∧
      Found after (cells.map cellNodes) [] := by
  obtain ⟨alignments, cell, ran⟩ :=
    @tableLoop_cells .th (.inl rfl) cells (closeToken .tr :: rest) (tableStep {} (openToken .tr)) [] [] rfl
  rw [rowTokens, List.cons_append, List.append_assoc, tableLoop_cons rfl, List.singleton_append, ran,
    if_neg some, tableLoop_cons rfl]
  exact ⟨_, rfl, List.take_of_length_le (by simpa using fits), List.take_of_length_le (by simpa using fits), rfl, rfl⟩

variable {rows : List (List (List Node))} {header : List (List Node)}

private theorem tableLoop_row {cells : List Cell} (fits : cells.length ≤ maxTableColumns) (rest : List Token)
    (found : Found state header rows) : ∃ after, tableLoop state (rowTokens .td cells ++ rest) =
        (if state.rows.length < after.rows.length ∧ maxTableRows ≤ after.rows.length then after
          else tableLoop after rest) ∧
      Found after header (rows ++ if cells = [] then [] else [cells.map cellNodes]) := by
  obtain ⟨alignments, cell, ran⟩ :=
    @tableLoop_cells .td (.inr rfl) cells (closeToken .tr :: rest) (tableStep state (openToken .tr)) [] [] rfl
  rw [rowTokens, List.cons_append, List.append_assoc, tableLoop_cons rfl, List.singleton_append, ran, tableLoop]
  refine ⟨_, rfl, ?_⟩
  by_cases none : cells = []
  · subst none
    rw [if_pos (rfl : ([] : List Cell) = []), if_pos (rfl : ([] : List Cell) = []), List.append_nil]
    exact ⟨found.headerInlines, found.headerTexts, found.rowInlines, found.rowTexts⟩
  · have texts_take : ((cells.map cellNodes).map cellText).take maxTableColumns = (cells.map cellNodes).map cellText :=
      List.take_of_length_le (by simpa using fits)
    have cells_take : (cells.map cellNodes).take maxTableColumns = cells.map cellNodes :=
      List.take_of_length_le (by simpa using fits)
    have filled : (cells.map cellNodes).map cellText ≠ [] := by simpa using none
    simp only [tableStep, closeToken, openToken, if_neg none, List.nil_append, texts_take, cells_take,
      if_neg (show ¬ (decide (Container.td = Container.th) = true ∧ state.header = []) from nofun), if_pos filled]
    refine ⟨found.headerInlines, found.headerTexts, congrArg (· ++ [cells.map cellNodes]) found.rowInlines, ?_⟩
    rw [List.map_append, found.rowTexts]
    rfl

/-- The loop over the rows of the body, up to the end of the table. -/
theorem tableLoop_rows (body : List (List Cell)) (found : Found state header rows)
    (fits : ∀ row ∈ body, row.length ≤ maxTableColumns) (few : rows.length + body.length ≤ maxTableRows) :
    Found (tableLoop state (body.flatMap (rowTokens .td) ++ [closeToken .tbody])) header
      (rows ++ body.flatMap fun cells => if cells = [] then [] else [cells.map cellNodes]) := by
  induction body generalizing state rows with
  | nil =>
    rw [List.flatMap_nil, List.nil_append, tableLoop_cons rfl, List.flatMap_nil, List.append_nil]
    exact found
  | cons cells others ih =>
    rw [List.flatMap_cons, List.append_assoc]
    obtain ⟨after, ran, next⟩ := tableLoop_row (fits cells List.mem_cons_self)
      (others.flatMap (rowTokens .td) ++ [closeToken .tbody]) found
    have grown : (rows ++ if cells = [] then [] else [cells.map cellNodes]).length ≤ rows.length + 1 := by
      split <;> simp
    rw [List.length_cons] at few
    rw [ran, List.flatMap_cons, ← List.append_assoc]
    split
    · rename_i full
      have last : others = [] := List.length_eq_zero_iff.mp (by
        rw [next.rowTexts, List.length_map] at full
        omega)
      rw [last, List.flatMap_nil, List.append_nil]
      exact next
    · exact ih next (fun row member => fits row (List.mem_cons_of_mem _ member)) (by omega)

private theorem le_foldl_max (values : List Nat) (start : Nat) :
    start ≤ values.foldl max start ∧ ∀ value ∈ values, value ≤ values.foldl max start := by
  induction values generalizing start with
  | nil => simp
  | cons first rest ih =>
    obtain ⟨above, each⟩ := ih (max start first)
    refine ⟨Nat.le_trans (Nat.le_max_left _ _) above, fun value member => ?_⟩
    rcases List.mem_cons.mp member with rfl | later
    · exact Nat.le_trans (Nat.le_max_right _ _) above
    · exact each value later

private theorem flatMap_fitted {width : Nat} {row : List (List Node)} (fits : row.length ≤ width) :
    (fitted [] width row).flatMap nodePieces = row.flatMap nodePieces := by
  rw [fitted, List.take_append, List.take_of_length_le fits, List.take_replicate, List.flatMap_append]
  have blank : (List.replicate (min (width - row.length) width) ([] : List Node)).flatMap nodePieces = [] :=
    List.flatMap_eq_nil_iff.mpr fun nodes member => by rw [List.eq_of_mem_replicate member]; rfl
  rw [blank, List.append_nil]

private theorem map_fitted (width : Nat) (row : List (List Node)) :
    (fitted [] width row).map inlineText = fitted "" width (row.map inlineText) := by
  rw [fitted, fitted, List.map_take, List.map_append, List.map_replicate, inlineText]

private theorem length_fitted (filler : α) (width : Nat) (items : List α) :
    (fitted filler width items).length = width := by
  rw [fitted, List.length_take, List.length_append, List.length_replicate]
  omega

/-- The texts of the cells are within the size caps. -/
def CellsFit (cells : List (List Node)) : Prop :=
  ∀ nodes ∈ cells, (inlineText nodes).length ≤ maxMarkdownChars

private theorem CellsFit.texts {cells : List (List Node)} (fits : CellsFit cells) :
    cells.map cellText = cells.map inlineText :=
  List.map_congr_left fun nodes member => clip_of_length_le (fits nodes member)

/-- The block of a table shows all its cells, in nodes and in texts. -/
theorem tableOf_shows (found : Found state header rows) (some : header ≠ []) (fits : header.length ≤ maxTableColumns)
    (narrow : ∀ row ∈ rows, row.length ≤ maxTableColumns) (sized : CellsFit header)
    (rowsSized : ∀ row ∈ rows, CellsFit row) :
    ∃ columns texts inlines rowInlines alignments, tableOf state = .table columns texts inlines rowInlines alignments ∧
      columns ≠ [] ∧ (tableOf state).pieces = header.flatMap nodePieces ++ rows.flatMap (·.flatMap nodePieces) ∧
      (tableOf state).Agrees := by
  have headerLength : state.header.length = header.length := by rw [found.headerTexts, List.length_map]
  have named : ¬ (state.header = [] ∧ state.rows ≠ []) := fun named =>
    some (List.length_eq_zero_iff.mp (by rw [← headerLength, named.1, List.length_nil]))
  obtain ⟨-, widest⟩ := le_foldl_max (state.header.length :: state.rows.map List.length) 0
  obtain ⟨width, widthIs⟩ : ∃ width,
      min maxTableColumns ((state.header.length :: state.rows.map List.length).foldl max 0) = width := ⟨_, rfl⟩
  have wide : header.length ≤ width :=
    widthIs ▸ Nat.le_min.mpr ⟨fits, headerLength ▸ widest _ List.mem_cons_self⟩
  have each : ∀ row ∈ rows, row.length ≤ width := fun row member =>
    widthIs ▸ Nat.le_min.mpr ⟨narrow row member, widest _ (List.mem_cons_of_mem _ (List.mem_map.mpr
      ⟨row.map cellText, by rw [found.rowTexts]; exact List.mem_map_of_mem member, List.length_map _⟩))⟩
  have shape : tableOf state = .table (fitted "" width state.header) (state.rows.map (fitted "" width))
      (state.headerInlines.take width) (state.rowInlines.map (fitted [] width))
      (fitted "left" width state.alignments) := by
    rw [tableOf, if_neg named, if_neg named, if_neg named, widthIs]
  rw [shape]
  refine ⟨_, _, _, _, _, rfl, ?_, ?_, ?_, ?_⟩
  · rw [← List.length_pos_iff, length_fitted]
    exact Nat.lt_of_lt_of_le (List.length_pos_iff.mpr some) wide
  · rw [ExportBlock.pieces, found.headerInlines, List.take_of_length_le wide, found.rowInlines, List.flatMap_map]
    congr 1
    exact List.flatMap_congr fun row member => flatMap_fitted (each row member)
  · rw [length_fitted, found.headerInlines, List.take_of_length_le wide, found.headerTexts, sized.texts]
  · rw [found.rowTexts, found.rowInlines, List.map_map, List.map_map]
    refine List.map_congr_left fun row member => ?_
    rw [Function.comp_apply, Function.comp_apply, (rowsSized row member).texts, map_fitted]

/-! ### Blocks -/

private theorem drawn_append (left right : List Token) :
    drawn host (left ++ right) = drawn host left ++ drawn host right :=
  List.flatMap_append

private theorem drawn_between {kind : Container} {opening closing : Token} (opens : opening.type = .opening kind)
    (closes : closing.type = .closing kind) (tokens : List Token) :
    drawn host (opening :: (tokens ++ [closing])) = drawn host tokens := by
  rw [← List.singleton_append, drawn_append, drawn_append]
  simp [drawn, tokenPieces, opens, closes]

private theorem drawn_rowTokens (container : Container) (cells : List Cell) :
    drawn host (rowTokens container cells) = cells.flatMap fun cell => nodePieces (cellNodes cell) := by
  rw [rowTokens, drawn_between host rfl rfl, drawn, cellTokens, List.flatMap_assoc]
  exact List.flatMap_congr fun cell _ => by simp [tokenPieces, inlineToken, closeToken, cellNodes]

private theorem firstInline_inlines (tokens : List Token) : nodePieces (firstInline tokens).inlines =
    drawn host ((tokens.find? fun token => token.type = .inlines).toList) := by
  rw [firstInline]
  cases found : tokens.find? fun token => token.type = .inlines with
  | none => rfl
  | some token =>
    have kind : token.type = .inlines := by simpa using List.find?_some found
    simp [drawn, tokenPieces, kind, inlineBlock]

private theorem firstInline_agrees (tokens : List Token) : (firstInline tokens).Agrees := by
  rw [firstInline]
  cases tokens.find? fun token => token.type = .inlines <;> rfl

/-- The block, if there is one, shows these pieces in its nodes, and the same in its texts. -/
def Shows (block : Option ExportBlock) (pieces : List Piece) : Prop :=
  block.toList.flatMap ExportBlock.pieces = pieces ∧ ∀ shown ∈ block, shown.Agrees

private theorem Shows.nothing : Shows none [] :=
  ⟨rfl, nofun⟩

private theorem Shows.block {block : ExportBlock} {pieces : List Piece} (same : block.pieces = pieces)
    (agrees : block.Agrees) :
    Shows (some block) pieces := by
  refine ⟨?_, fun shown found => Option.some.inj found ▸ agrees⟩
  rw [Option.toList_some, List.flatMap_singleton, same]

private theorem shows_codeBlock {token : Token} (fits : token.content.length ≤ maxMarkdownChars) (language : String) :
    Shows (codeBlock host language token) (codePieces host token.content) := by
  rw [codeBlock, clip_of_length_le fits, codePieces]
  split
  · exact .nothing
  · exact .block rfl trivial

/-- The block of a list. -/
def listOf (ordered : Bool) (start : Option Int) (items : List (List Doc)) : Option ExportBlock :=
  let found := (items.map fun item => firstInline (docTokens item)).filter InlineBlock.filled
  if found.isEmpty then none else some (.list ordered found (if ordered then start.map (max 1) else none))

private theorem listBlock_eq (ordered : Bool) (start : Option Int) {items : List (List Doc)}
    (fits : items.length ≤ maxListItems) (rest : List Token) :
    listBlock ordered { type := .opening (listContainer ordered), start }
      ({ type := .opening (listContainer ordered), start } ::
        (itemTokens items ++ closeToken (listContainer ordered) :: rest)) =
      (listOf ordered start items, (itemTokens items).length + 1 + 1) := by
  obtain ⟨inner, passed⟩ := @Matched.inside_pair (listContainer ordered) (itemTokens items)
    { type := .opening (listContainer ordered), start } (closeToken (listContainer ordered)) rfl rfl
    (matched_itemTokens _ items) rest
  have found := listItems_itemTokens items [] (by simpa using fits)
  rw [List.nil_append] at found
  rw [listContainer] at inner passed
  rw [listContainer, listBlock, inner, passed, found]
  rfl

private theorem shows_listOf (ordered : Bool) (start : Option Int) (items : List (List Doc)) :
    Shows (listOf ordered start items)
      (items.flatMap fun item => nodePieces (firstInline (docTokens item)).inlines) := by
  have shown := pieces_filtered (items.map fun item => firstInline (docTokens item))
  rw [List.flatMap_map] at shown
  rw [← shown, listOf]
  split
  · rename_i empty
    rw [List.isEmpty_iff.mp empty]
    exact .nothing
  · refine .block rfl fun item member => ?_
    obtain ⟨tokens, -, rfl⟩ := List.mem_map.mp (List.mem_of_mem_filter member)
    exact firstInline_agrees _

/-- The inline contents of a quote. -/
def quoteLines (children : List Doc) : List InlineBlock :=
  ((docTokens children).filter fun token => token.type = .inlines).map inlineBlock

/-- The block of a quote. -/
def quoteOf (children : List Doc) : Option ExportBlock :=
  let text := "\n".intercalate (((quoteLines children).map (·.text)).filter (· != ""))
  if text = "" then none else some (.quote text (joinLines (quoteLines children)))

private theorem quoteBlock_eq (children : List Doc) (rest : List Token) :
    quoteBlock (openToken .blockquote :: (docTokens children ++ closeToken .blockquote :: rest)) =
      (quoteOf children, (docTokens children).length + 1 + 1) := by
  obtain ⟨inner, passed⟩ := @Matched.inside_pair .blockquote (docTokens children) (openToken .blockquote)
    (closeToken .blockquote) rfl rfl (matched_docTokens _ children) rest
  rw [quoteBlock, inner, passed]
  rfl

private theorem shows_quoteOf (children : List Doc) : Shows (quoteOf children)
    (drawn host ((docTokens children).filter fun token => token.type = .inlines)) := by
  have lines : (quoteLines children).flatMap (fun line => nodePieces line.inlines) =
      drawn host ((docTokens children).filter fun token => token.type = .inlines) := by
    rw [quoteLines, List.flatMap_map, drawn]
    refine List.flatMap_congr fun token member => ?_
    have kind : token.type = .inlines := by simpa using (List.mem_filter.mp member).2
    simp [tokenPieces, kind, inlineBlock]
  have agree : ∀ line ∈ quoteLines children, line.Agrees := fun line member => by
    obtain ⟨token, -, rfl⟩ := List.mem_map.mp member
    rfl
  rw [← lines, quoteOf]
  split
  · rename_i empty
    have none := intercalate_eq_empty (fun text there => by simpa using (List.mem_filter.mp there).2) empty
    rw [List.flatMap_eq_nil_iff.mpr fun line member => ?_]
    · exact .nothing
    have blank : line.text = "" := by
      simpa using List.filter_eq_nil_iff.mp none line.text (List.mem_map_of_mem member)
    exact inlineText_eq_empty _ ((agree line member).symm.trans blank)
  · exact .block (nodePieces_joinLines _) ⟨_, agree, rfl, rfl⟩

/-- The tokens in a table. -/
def tableTokens (first : Cell) (more : List Cell) (rows : List (List Cell)) : List Token :=
  (openToken .thead :: (rowTokens .th (first :: more) ++ [closeToken .thead])) ++
    if rows = [] then [] else bodyTokens rows

variable {more : List Cell}

private theorem found_table (first : Cell) {rows : List (List Cell)}
    (wide : more.length + 1 ≤ maxTableColumns) (narrow : ∀ row ∈ rows, row.length ≤ maxTableColumns)
    (few : rows.length ≤ maxTableRows) : Found (tableLoop {} (tableTokens first more rows))
      ((first :: more).map cellNodes) (rows.flatMap fun cells => if cells = [] then [] else [cells.map cellNodes]) := by
  rw [tableTokens, List.cons_append, tableLoop_cons rfl, List.append_assoc]
  obtain ⟨after, ran, found⟩ := tableLoop_header (List.cons_ne_nil first more) wide
    ([closeToken .thead] ++ if rows = [] then [] else bodyTokens rows)
  have start : tableLoop (tableStep {} (openToken .thead)) = tableLoop {} := rfl
  rw [start, ran, List.singleton_append, tableLoop_cons rfl]
  split
  · rename_i none
    rw [none]
    exact found
  · rw [bodyTokens, tableLoop_cons rfl, ← List.nil_append (List.flatMap _ rows)]
    exact tableLoop_rows rows found narrow (by simpa using few)

private theorem cellsFit_of_rowTokens {container : Container} {cells : List Cell}
    (sized : ∀ token ∈ rowTokens container cells, token.Fits) : CellsFit (cells.map cellNodes) := by
  intro nodes member
  obtain ⟨cell, there, rfl⟩ := List.mem_map.mp member
  refine (sized (inlineToken cell.2) (List.mem_cons_of_mem _ (List.mem_append_left _ ?_))).2
  exact List.mem_flatMap.mpr ⟨cell, there, by simp⟩

private theorem cellsFit_of_tableTokens {first : Cell} {rows : List (List Cell)}
    (sized : ∀ token ∈ tableTokens first more rows, token.Fits) : CellsFit ((first :: more).map cellNodes) ∧
      ∀ row ∈ rows.flatMap fun cells => if cells = [] then [] else [cells.map cellNodes], CellsFit row := by
  constructor
  · exact cellsFit_of_rowTokens fun token member => sized token
      (List.mem_append_left _ (List.mem_cons_of_mem _ (List.mem_append_left _ member)))
  · intro row member
    obtain ⟨cells, there, inside⟩ := List.mem_flatMap.mp member
    split at inside
    · cases inside
    · rw [List.mem_singleton.mp inside]
      refine @cellsFit_of_rowTokens .td cells fun token holds => sized token (List.mem_append_right _ ?_)
      rw [if_neg (List.ne_nil_of_mem there)]
      exact List.mem_cons_of_mem _ (List.mem_append_left _ (List.mem_flatMap.mpr ⟨cells, there, holds⟩))

private theorem drawn_tableTokens (first : Cell) (more : List Cell) (rows : List (List Cell)) :
    drawn host (tableTokens first more rows) = (((first :: more).map cellNodes).flatMap nodePieces) ++
      (rows.flatMap fun cells => if cells = [] then [] else [cells.map cellNodes]).flatMap (·.flatMap nodePieces) := by
  have body : drawn host (rows.flatMap (rowTokens .td)) =
      (rows.flatMap fun cells => if cells = [] then [] else [cells.map cellNodes]).flatMap
        (·.flatMap nodePieces) := by
    rw [drawn, List.flatMap_assoc, List.flatMap_assoc]
    refine List.flatMap_congr fun cells _ => (drawn_rowTokens host .td cells).trans ?_
    split
    · rename_i none
      rw [none]
      rfl
    · rw [List.flatMap_singleton, List.flatMap_map]
  have head : drawn host (openToken .thead :: (rowTokens .th (first :: more) ++ [closeToken .thead])) =
      ((first :: more).map cellNodes).flatMap nodePieces := by
    rw [drawn_between host rfl rfl, drawn_rowTokens, List.flatMap_map]
  rw [tableTokens, drawn_append, head, ← body]
  congr 1
  split
  · rename_i none
    rw [none]
    rfl
  · exact drawn_between host rfl rfl _

private theorem tableBlock_eq (first : Cell) {rows : List (List Cell)}
    (wide : more.length + 1 ≤ maxTableColumns) (narrow : ∀ row ∈ rows, row.length ≤ maxTableColumns)
    (few : rows.length ≤ maxTableRows) (sized : ∀ token ∈ tableTokens first more rows, token.Fits) :
    ∃ block, Shows (some block) (drawn host (tableTokens first more rows)) ∧
      ∀ rest, tableBlock (openToken .table :: (tableTokens first more rows ++ closeToken .table :: rest)) =
        (some block, (tableTokens first more rows).length + 1 + 1) := by
  obtain ⟨headerSized, rowsSized⟩ := cellsFit_of_tableTokens sized
  obtain ⟨columns, texts, inlines, rowInlines, alignments, shape, filled, pieces, agrees⟩ :=
    tableOf_shows (found_table first wide narrow few) (by simp) (by simpa using wide) (by
      intro row member
      obtain ⟨cells, there, inside⟩ := List.mem_flatMap.mp member
      split at inside
      · cases inside
      · rw [List.mem_singleton.mp inside, List.length_map]
        exact narrow cells there) headerSized rowsSized
  refine ⟨_, .block (pieces.trans (drawn_tableTokens host first more rows).symm) agrees, fun rest => ?_⟩
  have matched : Matched .table (tableTokens first more rows) := by
    refine Matched.append (Matched.between rfl rfl (Matched.row _)) ?_
    split
    · exact .nil
    · exact Matched.between rfl rfl (Matched.flatMap fun row => Matched.row row)
  obtain ⟨inner, passed⟩ := @Matched.inside_pair .table _ (openToken .table) (closeToken .table) rfl rfl
    matched rest
  rw [tableBlock, inner, passed, shape]
  simp [filled]

variable {doc : Doc}

private theorem step_tokens (fits : doc.Fits) (sized : ∀ token ∈ doc.tokens, token.Fits) (named : doc.Named) :
    ∃ token tail block, doc.tokens = token :: tail ∧
      (∀ rest, step host token (tail ++ rest) = .ok (block, doc.tokens.length)) ∧ Shows block (doc.shown host) := by
  cases doc with
  | heading tag children =>
    refine ⟨_, _, some (.heading (headingLevel tag) (inlineBlock (inlineToken children))), by rw [Doc.tokens],
      fun rest => by rw [Doc.tokens]; rfl, .block ?_ rfl⟩
    simp [ExportBlock.pieces, Doc.shown, Doc.tokens, drawn, tokenPieces, inlineToken, closeToken, inlineBlock]
  | paragraph children =>
    refine ⟨_, _, if (inlineBlock (inlineToken children)).filled then
      some (.paragraph (inlineBlock (inlineToken children))) else none, by rw [Doc.tokens],
      fun rest => by rw [Doc.tokens]; rfl, ?_⟩
    have shown : Doc.shown host (.paragraph children) = nodePieces (inlineBlock (inlineToken children)).inlines := by
      simp [Doc.shown, Doc.tokens, drawn, tokenPieces, inlineToken, closeToken, openToken, inlineBlock]
    rw [shown]
    split
    · exact .block rfl rfl
    · rename_i empty
      rw [nodePieces_of_not_filled (Bool.eq_false_iff.mpr empty)]
      exact .nothing
  | list ordered start items =>
    refine ⟨_, _, listOf ordered start items, by rw [Doc.tokens], fun rest => ?_, ?_⟩
    · rw [List.append_assoc, List.singleton_append, Doc.tokens, List.length_cons, List.length_append,
        List.length_singleton, ← listBlock_eq ordered start fits rest]
      cases ordered <;> rfl
    · exact shows_listOf ordered start items
  | quote children =>
    refine ⟨_, _, quoteOf children, by rw [Doc.tokens], fun rest => ?_, ?_⟩
    · rw [List.append_assoc, List.singleton_append, Doc.tokens, List.length_cons, List.length_append,
        List.length_singleton, ← quoteBlock_eq children rest]
      rfl
    · exact shows_quoteOf host children
  | table first more rows =>
    obtain ⟨wide, narrow, few⟩ := fits
    have tokens : (Doc.table first more rows).tokens =
        openToken .table :: (tableTokens first more rows ++ [closeToken .table]) := by rw [Doc.tokens]; rfl
    rw [tokens] at sized
    obtain ⟨block, shows, ran⟩ := tableBlock_eq host first wide narrow few fun token member =>
      sized token (List.mem_cons_of_mem _ (List.mem_append_left _ member))
    refine ⟨_, _, some block, tokens, fun rest => ?_, ?_⟩
    · rw [List.append_assoc, List.singleton_append, tokens, List.length_cons, List.length_append,
        List.length_singleton, ← ran rest]
      rfl
    · have whole : Doc.shown host (.table first more rows) = drawn host (tableTokens first more rows) := by
        rw [Doc.shown, tokens]
        · exact drawn_between host rfl rfl _
        all_goals simp
      rw [whole]
      exact shows
  | fence info text =>
    have fits : text.length ≤ maxMarkdownChars := fits
    have named : strip info ≠ "" := named
    obtain ⟨language, word⟩ : ∃ language, firstWord info = .ok language := ⟨_, if_neg named⟩
    have shown : Doc.shown host (.fence info text) = codePieces host text := by
      simp [Doc.shown, Doc.tokens, drawn, tokenPieces]
    refine ⟨_, _, codeBlock host language { type := .fence, info, content := text }, by rw [Doc.tokens],
      fun rest => ?_, shown ▸ shows_codeBlock host fits language⟩
    rw [step, word, Doc.tokens]
    rfl
  | codeBlock text =>
    have fits : text.length ≤ maxMarkdownChars := fits
    have shown : Doc.shown host (.codeBlock text) = codePieces host text := by
      simp [Doc.shown, Doc.tokens, drawn, tokenPieces]
    exact ⟨_, _, codeBlock host "" { type := .codeBlock, content := text }, by rw [Doc.tokens],
      fun rest => by rw [Doc.tokens]; rfl, shown ▸ shows_codeBlock host fits ""⟩
  | rule =>
    refine ⟨_, _, some .rule, by rw [Doc.tokens], fun rest => by rw [Doc.tokens]; rfl, .block ?_ trivial⟩
    simp [ExportBlock.pieces, Doc.shown, Doc.tokens, drawn, tokenPieces]

/-! ### The walk over a document -/

private theorem walk_append (tail rest : List Token) (blocks : List ExportBlock) :
    walk host tail.length blocks (tail ++ rest) = walk host 0 blocks rest := by
  induction tail with
  | nil => rfl
  | cons token others ih =>
    rw [List.length_cons, List.cons_append, walk]
    exact ih

variable {blocks : List ExportBlock}

private theorem walk_tokens (fits : doc.Fits) (sized : ∀ token ∈ doc.tokens, token.Fits) (named : doc.Named)
    (few : blocks.length < maxMarkdownBlocks) : ∃ block : Option ExportBlock,
      (∀ rest, walk host 0 blocks (doc.tokens ++ rest) = walk host 0 (blocks ++ block.toList) rest) ∧
        Shows block (doc.shown host) := by
  obtain ⟨token, tail, block, tokens, ran, shows⟩ := step_tokens host fits sized named
  refine ⟨block, fun rest => ?_, shows⟩
  rw [tokens, List.cons_append, walk, if_neg (Nat.not_le.mpr few), ran, tokens, List.length_cons]
  exact walk_append host tail rest _

/-- The walk raises at a fence without an info string. -/
theorem walk_blank (blank : ¬ doc.Named) (few : blocks.length < maxMarkdownBlocks) (rest : List Token) :
    walk host 0 blocks (doc.tokens ++ rest) = .error "IndexError" := by
  cases doc with
  | fence info =>
    have blank : strip info = "" := not_not.mp blank
    rw [Doc.tokens, List.singleton_append, walk, if_neg (Nat.not_le.mpr few), step, firstWord, if_pos blank]
    rfl
  | _ => exact absurd trivial blank

private theorem length_append_toList (items : List α) (item : Option α) :
    (items ++ item.toList).length ≤ items.length + 1 := by
  cases item <;> simp

private theorem sized_cons {rest : List Doc} (sized : ∀ token ∈ docTokens (doc :: rest), token.Fits) :
    (∀ token ∈ doc.tokens, token.Fits) ∧ ∀ token ∈ docTokens rest, token.Fits := by
  rw [docTokens] at sized
  exact List.forall_mem_append.mp sized

private theorem walk_docTokens (docs : List Doc)
    (few : blocks.length + docs.length ≤ maxMarkdownBlocks) (fits : ∀ doc ∈ docs, doc.Fits)
    (sized : ∀ token ∈ docTokens docs, token.Fits) (named : ∀ doc ∈ docs, doc.Named)
    (agree : ∀ block ∈ blocks, block.Agrees) : ∃ after, walk host 0 blocks (docTokens docs) = .ok after ∧
      after.flatMap ExportBlock.pieces = blocks.flatMap ExportBlock.pieces ++ docs.flatMap (Doc.shown host) ∧
      ∀ block ∈ after, block.Agrees := by
  induction docs generalizing blocks with
  | nil => exact ⟨blocks, by rw [docTokens, walk], by rw [List.flatMap_nil, List.append_nil], agree⟩
  | cons doc rest ih =>
    rw [List.length_cons] at few
    rw [List.forall_mem_cons] at fits named
    obtain ⟨first, others⟩ := sized_cons sized
    obtain ⟨block, ran, pieces, agrees⟩ := walk_tokens host fits.1 first named.1
      (show blocks.length < maxMarkdownBlocks by omega)
    have grown := length_append_toList blocks block
    obtain ⟨after, done, found, after_agree⟩ := ih
      (show (blocks ++ block.toList).length + rest.length ≤ maxMarkdownBlocks by omega) fits.2 others named.2
      (List.forall_mem_append.mpr ⟨agree, fun shown member => agrees shown (Option.mem_toList.mp member)⟩)
    refine ⟨after, by rw [docTokens, ran, done], ?_, after_agree⟩
    rw [found, List.flatMap_append, pieces, List.append_assoc, List.flatMap_cons]

private theorem walk_docTokens_blank (docs : List Doc)
    (few : blocks.length + docs.length ≤ maxMarkdownBlocks) (fits : ∀ doc ∈ docs, doc.Fits)
    (sized : ∀ token ∈ docTokens docs, token.Fits) (blank : ¬ ∀ doc ∈ docs, doc.Named) :
    walk host 0 blocks (docTokens docs) = .error "IndexError" := by
  induction docs generalizing blocks with
  | nil => exact absurd nofun blank
  | cons doc rest ih =>
    rw [List.length_cons] at few
    rw [List.forall_mem_cons] at fits
    obtain ⟨first, others⟩ := sized_cons sized
    have room : blocks.length < maxMarkdownBlocks := by omega
    rw [docTokens]
    by_cases named : doc.Named
    · obtain ⟨block, ran, -⟩ := walk_tokens host fits.1 first named room
      have grown := length_append_toList blocks block
      rw [ran]
      exact ih (by omega) fits.2 others fun later => blank (List.forall_mem_cons.mpr ⟨named, later⟩)
    · exact walk_blank host named room _

/-! ### What is shown -/

private theorem flatMap_sublist_iff {β : Type} {f g : α → List β} {items : List α}
    (below : ∀ item ∈ items, (f item).Sublist (g item)) :
    (items.flatMap g).Sublist (items.flatMap f) ↔ ∀ item ∈ items, g item = f item := by
  constructor
  · intro above
    induction items with
    | nil => nofun
    | cons item rest ih =>
      have later : ∀ other ∈ rest, (f other).Sublist (g other) := fun other member =>
        below other (List.mem_cons_of_mem _ member)
      have first := below item List.mem_cons_self
      have others := List.Sublist.flatMap_right rest later
      have lengths := above.length_le
      rw [List.flatMap_cons, List.flatMap_cons, List.length_append, List.length_append] at lengths
      have whole := first.eq_of_length (by have := first.length_le; have := others.length_le; omega)
      have wholes := others.eq_of_length (by have := first.length_le; have := others.length_le; omega)
      refine List.forall_mem_cons.mpr ⟨whole.symm, ih later ?_⟩
      rw [wholes]
  · intro same
    rw [List.flatMap_congr same]

private theorem drawn_part {part others whole : List Token} (inside : part.Sublist whole)
    (split : whole.Perm (part ++ others)) : (drawn host part).Sublist (drawn host whole) ∧
      (drawn host whole = drawn host part ↔ drawn host others = []) := by
  have below : (drawn host part).Sublist (drawn host whole) := inside.flatMap _
  have lengths : (drawn host whole).length = (drawn host part).length + (drawn host others).length := by
    rw [← List.length_append, ← drawn_append]
    exact (split.flatMap_right _).length_eq
  refine ⟨below, fun same => ?_, fun none => ?_⟩
  · rw [same] at lengths
    exact List.length_eq_zero_iff.mp (by omega)
  · exact (below.eq_of_length (by simp [lengths, none])).symm

private theorem find_perm_eraseP (p : α → Bool) (items : List α) :
    (items.find? p).toList.Sublist items ∧ items.Perm ((items.find? p).toList ++ items.eraseP p) := by
  induction items with
  | nil => exact ⟨.slnil, .nil⟩
  | cons item rest ih =>
    obtain ⟨inside, split⟩ := ih
    cases holds : p item with
    | true =>
      rw [List.find?_cons_of_pos holds, List.eraseP_cons_of_pos holds]
      exact ⟨List.singleton_sublist.mpr List.mem_cons_self, .refl _⟩
    | false =>
      rw [List.find?_cons_of_neg (by simp [holds]), List.eraseP_cons_of_neg (by simp [holds])]
      exact ⟨inside.cons _, (split.cons item).trans List.perm_middle.symm⟩

private theorem drawn_itemTokens (items : List (List Doc)) :
    drawn host (itemTokens items) = items.flatMap fun item => drawn host (docTokens item) := by
  induction items with
  | nil => rfl
  | cons item rest ih =>
    rw [itemTokens, drawn_append, ih, drawn_between host rfl rfl, List.flatMap_cons]

private theorem drawn_docTokens (docs : List Doc) :
    drawn host (docTokens docs) = docs.flatMap fun doc => drawn host doc.tokens := by
  induction docs with
  | nil => rfl
  | cons doc rest ih => rw [docTokens, drawn_append, ih, List.flatMap_cons]

private theorem mem_itemTokens {items : List (List Doc)} {item : List Doc} (member : item ∈ items) {token : Token}
    (inside : token ∈ docTokens item) : token ∈ itemTokens items := by
  induction items with
  | nil => cases member
  | cons first rest ih =>
    rw [itemTokens, List.mem_append]
    rcases List.mem_cons.mp member with rfl | later
    · exact .inl (List.mem_cons_of_mem _ (List.mem_append_left _ inside))
    · exact .inr (ih later)

/-- What is shown of a block is a part of it, and all of it if and only if the block is shallow. -/
theorem shown_tokens (doc : Doc) (sized : ∀ token ∈ doc.tokens, token.Fits) :
    (doc.shown host).Sublist (drawn host doc.tokens) ∧ (drawn host doc.tokens = doc.shown host ↔ doc.Shallow host) := by
  cases doc with
  | list ordered start items =>
    have fits : ∀ item ∈ items, ∀ token ∈ docTokens item, token.Fits := fun item member token inside =>
      sized token (by
        rw [Doc.tokens]
        exact List.mem_cons_of_mem _ (List.mem_append_left _ (mem_itemTokens member inside)))
    have tokens : drawn host (Doc.list ordered start items).tokens =
        items.flatMap fun item => drawn host (docTokens item) := by
      rw [Doc.tokens, drawn_between host rfl rfl, drawn_itemTokens]
    have part (item : List Doc) := drawn_part host (find_perm_eraseP (fun token : Token => token.type = .inlines)
      (docTokens item)).1 (find_perm_eraseP _ (docTokens item)).2
    have below : ∀ item ∈ items, (nodePieces (firstInline (docTokens item)).inlines).Sublist
        (drawn host (docTokens item)) := fun item _ => by
      rw [firstInline_inlines host]
      exact (part item).1
    have whole : (items.flatMap fun item => drawn host (docTokens item)) =
        items.flatMap (fun item => nodePieces (firstInline (docTokens item)).inlines) ↔
          (items.flatMap fun item => drawn host (docTokens item)).Sublist
            (items.flatMap fun item => nodePieces (firstInline (docTokens item)).inlines) :=
      ⟨fun same => same ▸ .refl _, fun above => above.antisymm (List.Sublist.flatMap_right items below)⟩
    rw [tokens]
    refine ⟨List.Sublist.flatMap_right items below, whole.trans ((flatMap_sublist_iff below).trans ?_)⟩
    refine forall₂_congr fun item member => ?_
    rw [firstInline_inlines host,
      content_eq_drawn host fun token inside => fits item member token (List.mem_of_mem_eraseP inside)]
    exact (part item).2
  | quote children =>
    have tokens : drawn host (Doc.quote children).tokens = drawn host (docTokens children) := by
      rw [Doc.tokens, drawn_between host rfl rfl]
    have fits : ∀ token ∈ docTokens children, token.Fits := fun token inside => sized token (by
      rw [Doc.tokens]
      exact List.mem_cons_of_mem _ (List.mem_append_left _ inside))
    rw [tokens, Doc.Shallow, content_eq_drawn host fun token inside => fits token (List.mem_of_mem_filter inside)]
    refine drawn_part host List.filter_sublist ?_
    have split := List.filter_append_perm (fun token : Token => decide (token.type = .inlines)) (docTokens children)
    simpa using split.symm
  | _ => exact ⟨.refl _, iff_of_true rfl trivial⟩

private theorem sized_of_mem {docs : List Doc} (sized : ∀ token ∈ docTokens docs, token.Fits) :
    ∀ doc ∈ docs, ∀ token ∈ doc.tokens, token.Fits := by
  induction docs with
  | nil => nofun
  | cons doc rest ih => exact List.forall_mem_cons.mpr ⟨(sized_cons sized).1, ih (sized_cons sized).2⟩

/-- What a document within the caps holds is kept if and only if each fence at its top has an info string, and its
lists and quotes are shallow. -/
theorem keeps_content_iff {docs : List Doc} (caps : WithinCaps docs) :
    Keeps host docs ↔ ∀ doc ∈ docs, doc.Named ∧ doc.Shallow host := by
  obtain ⟨few, fits, sized⟩ := caps
  have room : ([] : List ExportBlock).length + docs.length ≤ maxMarkdownBlocks := by simpa using few
  have shown (doc : Doc) (member : doc ∈ docs) := shown_tokens host doc (sized_of_mem sized doc member)
  by_cases named : ∀ doc ∈ docs, doc.Named
  · obtain ⟨blocks, parsed, pieces, agree⟩ := walk_docTokens host docs room fits sized named nofun
    rw [List.flatMap_nil, List.nil_append] at pieces
    have kept : Keeps host docs ↔
        (docs.flatMap fun doc => drawn host doc.tokens).Sublist (docs.flatMap (Doc.shown host)) := by
      rw [← pieces, ← drawn_docTokens, ← content_eq_drawn host sized]
      constructor
      · rintro ⟨others, parsed', inside, -⟩
        obtain rfl : others = blocks := Except.ok.inj (parsed'.symm.trans parsed)
        exact inside
      · exact fun inside => ⟨blocks, parsed, inside, agree⟩
    rw [kept, flatMap_sublist_iff fun doc member => (shown doc member).1]
    exact forall₂_congr fun doc member => (shown doc member).2.trans (and_iff_right (named doc member)).symm
  · have raised := walk_docTokens_blank host docs room fits sized named
    refine iff_of_false ?_ fun each => named fun doc member => (each doc member).1
    rintro ⟨blocks, parsed, -⟩
    exact absurd (parsed.symm.trans raised) nofun

/-- Letters and digits are words, and texts are folded one character at a time. -/
def latinHost : TextHost where
  casefold text := String.ofList (text.toList.map Char.toLower)
  isWord character := character.isAlphanum || character == '_'

/-- The children of an inline token that is one text. -/
def plain (text : String) : List InlineToken :=
  [{ type := .text, content := text }]

/-- A list of one paragraph with an image in bold, and a fence with an info string. -/
def plainAnswer : List Doc :=
  [.list false none [[.paragraph (plain "pins" ++ [{ type := .opening .strong },
    { type := .image, content := "board", src := "u1.png" }, { type := .closing .strong }])]], .fence "py" "print"]

/-- The theorem at an answer that is kept. -/
theorem plain_answer_is_kept : Keeps latinHost plainAnswer := by
  have caps : WithinCaps plainAnswer := by
    refine ⟨by decide, fun doc member => ?_, by decide⟩
    rw [plainAnswer, List.mem_cons, List.mem_singleton] at member
    obtain rfl | rfl := member
    · exact show 1 ≤ maxListItems by decide
    · exact show "print".length ≤ maxMarkdownChars by decide
  refine (keeps_content_iff latinHost caps).mpr fun doc member => ?_
  rw [plainAnswer, List.mem_cons, List.mem_singleton] at member
  obtain rfl | rfl := member
  · refine ⟨trivial, fun item there => ?_⟩
    rw [List.mem_singleton.mp there]
    rfl
  · exact ⟨show strip "py" ≠ "" by decide, trivial⟩

/-- A fence without an info string. -/
def bareFence : List Doc :=
  [.fence "" "print"]

/-- An item of two paragraphs. -/
def longItem : List Doc :=
  [.list false none [[.paragraph (plain "pins"), .paragraph (plain "nets")]]]

/-- The walk raises at a fence without an info string, and drops the second paragraph of an item. -/
theorem fences_and_items_are_lost : (WithinCaps bareFence ∧ ¬ Keeps latinHost bareFence) ∧
    (WithinCaps longItem ∧ ¬ Keeps latinHost longItem) := by
  refine ⟨⟨⟨by decide, fun doc member => ?_, by decide⟩, ?_⟩, ⟨⟨by decide, fun doc member => ?_, by decide⟩, ?_⟩⟩
  · rw [List.mem_singleton.mp member]
    exact show "print".length ≤ maxMarkdownChars by decide
  · have raised : parseTokens latinHost (docTokens bareFence) = .error "IndexError" := rfl
    rintro ⟨blocks, parsed, -⟩
    exact absurd (parsed.symm.trans raised) nofun
  · rw [List.mem_singleton.mp member]
    exact show 1 ≤ maxListItems by decide
  · have parsed : parseTokens latinHost (docTokens longItem) =
        .ok [.list false [{ text := "pins", inlines := [.text "pins"] }] none] := rfl
    rintro ⟨blocks, found, inside, -⟩
    obtain rfl := Except.ok.inj (found.symm.trans parsed)
    have lengths := inside.length_le
    have both : (content latinHost (docTokens longItem)).length = 2 := rfl
    have one : (List.flatMap ExportBlock.pieces
        [.list false [{ text := "pins", inlines := [.text "pins"] }] none]).length = 1 := rfl
    omega

end HardwareDatabase.Markdown
