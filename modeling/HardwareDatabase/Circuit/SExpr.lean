/-
Module: HardwareDatabase.Circuit.SExpr
Purpose: The s-expression reader of `src/src/circuit/parsers/edif_lite_parser.py`. The tokeniser is a generator: it is
  known by what it yields and by what it raises after that. The recursion limit and the memory of the host are left
  out.
Trusted boundary: none
-/
import HardwareDatabase.Python.Text

namespace HardwareDatabase.Circuit

open Python (isSpace)

/-! ### The tokeniser -/

/-- The tokens, named after the groups of `_TOKEN_RE`. -/
inductive Token
  | lparen
  | rparen
  | string (body : String)
  | symbol (text : String)
deriving Repr, DecidableEq

/-- What the reader raises. -/
inductive Failure
  /-- `ValueError`: `EDIF tokeniser stuck at byte {pos}: {text[pos:pos+40]!r}` -/
  | stuck (pos : Nat) (excerpt : String)
  /-- `ValueError`: `expected '(' but got {kind} {value!r}` -/
  | expectedOpen (got : Token)
  /-- `ValueError`: `expected head symbol but got {kind} {value!r}` -/
  | expectedHead (got : Token)
  /-- `ValueError`: `not an EDIF file: root node head is {root.head!r}` -/
  | notEdif (head : String)
  /-- `StopIteration` of the exhausted generator -/
  | stopIteration
deriving Repr, DecidableEq

/-- `isinstance(error, ValueError)`: the parse errors of the module. -/
def Failure.isValueError : Failure → Bool
  | .stopIteration => false
  | _ => true

/-- `[^\s()"]` -/
def isSymbolChar (character : Char) : Bool :=
  !isSpace character && character != '(' && character != ')' && character != '"'

/-- `(?:\\.|[^"\\])*"`: the body of a quoted string and what follows its closing quote. The dot does not
match a line break. -/
def quoted : List Char → Option (List Char × List Char)
  | [] => none
  | character :: rest =>
    if character = '"' then some ([], rest)
    else if character = '\\' then
      match rest with
      | [] => none
      | escaped :: rest =>
        if escaped = '\n' then none
        else (quoted rest).map fun found => (character :: escaped :: found.1, found.2)
    else (quoted rest).map fun found => (character :: found.1, found.2)

/-- `_TOKEN_RE.match`: the token at the start of the text, after leading whitespace, and the rest. -/
def nextToken (text : List Char) : Option (Token × List Char) :=
  match text.dropWhile isSpace with
  | [] => none
  | character :: rest =>
    if character = '(' then some (.lparen, rest)
    else if character = ')' then some (.rparen, rest)
    else if character = '"' then
      (quoted rest).map fun found => (.string (String.ofList found.1), found.2)
    else
      some (.symbol (String.ofList (character :: rest.takeWhile isSymbolChar)),
        rest.dropWhile isSymbolChar)

/-- A generator: what it yields, and what it raises after that. -/
structure TokenSource where
  yielded : List Token
  raises : Option Failure
deriving Repr, DecidableEq

/-- One more token before the others. -/
def TokenSource.cons (token : Token) (source : TokenSource) : TokenSource :=
  { source with yielded := token :: source.yielded }

/-- The loop of `_tokenize` from `pos` on, as far as `fuel` turns go. -/
def tokenizeFrom : Nat → Nat → List Char → TokenSource
  | 0, _, _ => ⟨[], none⟩
  | fuel + 1, pos, text =>
    if text.isEmpty then ⟨[], none⟩
    else
      match nextToken text with
      | none =>
        if text.all isSpace then ⟨[], none⟩
        else ⟨[], some (.stuck pos (String.ofList (text.take 40)))⟩
      | some (token, rest) =>
        (tokenizeFrom fuel (pos + (text.length - rest.length)) rest).cons token

/-- `_tokenize`: every turn consumes a character. -/
def tokenize (text : List Char) : TokenSource :=
  tokenizeFrom (text.length + 1) 0 text

/-! ### The tree -/

/-- A child of a form: a nested form, a `("str", value)` pair or a bare symbol. -/
inductive Child
  | node (head : String) (children : List Child)
  | string (value : String)
  | symbol (value : String)
deriving Repr

/-- `SExpr`. -/
structure SExpr where
  head : String
  children : List Child
deriving Repr

namespace SExpr

/-- The form as a child of another one. -/
def asChild (node : SExpr) : Child :=
  .node node.head node.children

/-- `node.children.append(child)`. -/
def append (node : SExpr) (child : Child) : SExpr :=
  { node with children := node.children ++ [child] }

end SExpr

/-- `isinstance(child, SExpr)`, with the form. -/
def Child.form? : Child → Option SExpr
  | .node head children => some ⟨head, children⟩
  | _ => none

/-! ### The reader -/

/-- `_TokenStream`: what was pushed back, the last one first, and the generator. -/
structure TokenStream where
  buffer : List Token
  source : TokenSource
deriving Repr, DecidableEq

namespace TokenStream

/-- `_TokenStream(source)`. -/
def ofSource (source : TokenSource) : TokenStream :=
  { buffer := [], source }

/-- `next`. -/
def next (tokens : TokenStream) : Except Failure (Token × TokenStream) :=
  match tokens.buffer with
  | token :: buffer => .ok (token, { tokens with buffer })
  | [] =>
    match tokens.source.yielded with
    | token :: yielded => .ok (token, { tokens with source := { tokens.source with yielded } })
    | [] => .error (tokens.source.raises.getD .stopIteration)

/-- `push`. -/
def push (tokens : TokenStream) (token : Token) : TokenStream :=
  { tokens with buffer := token :: tokens.buffer }

/-- What is still to be read. -/
def pending (tokens : TokenStream) : List Token :=
  tokens.buffer ++ tokens.source.yielded

end TokenStream

mutual

/-- `_parse_sexpr`, as far as `fuel` calls and turns of its loop go. -/
def parseWithin : Nat → TokenStream → Option (Except Failure (SExpr × TokenStream))
  | 0, _ => none
  | fuel + 1, tokens =>
    match tokens.next with
    | .error failure => some (.error failure)
    | .ok (.lparen, tokens) =>
      match tokens.next with
      | .error failure => some (.error failure)
      | .ok (.symbol head, tokens) => childrenWithin fuel ⟨head, []⟩ tokens
      | .ok (token, _) => some (.error (.expectedHead token))
    | .ok (token, _) => some (.error (.expectedOpen token))

/-- The loop of `_parse_sexpr` over the children of `node`. -/
def childrenWithin : Nat → SExpr → TokenStream → Option (Except Failure (SExpr × TokenStream))
  | 0, _, _ => none
  | fuel + 1, node, tokens =>
    match tokens.next with
    | .error failure => some (.error failure)
    | .ok (.rparen, tokens) => some (.ok (node, tokens))
    | .ok (.lparen, tokens) =>
      match parseWithin fuel (tokens.push .lparen) with
      | none => none
      | some (.error failure) => some (.error failure)
      | some (.ok (child, tokens)) => childrenWithin fuel (node.append child.asChild) tokens
    | .ok (.string body, tokens) => childrenWithin fuel (node.append (.string body)) tokens
    | .ok (.symbol text, tokens) => childrenWithin fuel (node.append (.symbol text)) tokens

end

/-- `_parse_sexpr`. A call or a turn consumes a token, or pushes back the one that it consumed, so that
the fuel suffices. -/
def parseSexpr (tokens : TokenStream) : Except Failure (SExpr × TokenStream) :=
  (parseWithin (2 * tokens.pending.length + 1) tokens).getD (.error .stopIteration)

/-- `parse_edif_file`, on the decoded text. -/
def parseEdif (text : List Char) : Except Failure SExpr := do
  let (root, _) ← parseSexpr (TokenStream.ofSource (tokenize text))
  if Python.lowerAscii root.head ≠ "edif" then
    throw (.notEdif root.head)
  return root

end HardwareDatabase.Circuit
