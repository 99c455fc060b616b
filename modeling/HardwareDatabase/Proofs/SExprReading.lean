/-
Module: HardwareDatabase.Proofs.SExprReading
Purpose: Reading inverts printing exactly if every string has a body that the regular expression of the tokeniser can
  match.
Trusted boundary: none
-/
import HardwareDatabase.Circuit.SExpr
import Mathlib.Data.List.TakeWhile

namespace HardwareDatabase.Circuit

open Python (isSpace)

/-! ### Printing -/

mutual

/-- The tokens of a child. -/
def Child.tokens : Child → List Token
  | .node head children => .lparen :: .symbol head :: (tokensOf children ++ [.rparen])
  | .string value => [.string value]
  | .symbol value => [.symbol value]

/-- The tokens of the children of a form. -/
def tokensOf : List Child → List Token
  | [] => []
  | child :: rest => child.tokens ++ tokensOf rest

end

/-- The tokens of a form. -/
def SExpr.tokens (tree : SExpr) : List Token :=
  tree.asChild.tokens

/-- How a token is written. -/
def Token.spelling : Token → List Char
  | .lparen => ['(']
  | .rparen => [')']
  | .string body => '"' :: (body.toList ++ ['"'])
  | .symbol text => text.toList

/-- Whether a symbol that is written before the text runs on into it. -/
def runsOn (text : List Char) : Bool :=
  text.head?.any isSymbolChar

/-- The text consists of the tokens, with whitespace between them that keeps a symbol from running on. -/
inductive Spells : List Token → List Char → Prop
  | ends {blank : List Char} (space : blank.all isSpace = true) : Spells [] blank
  | token {token : Token} {tokens : List Token} {blank text : List Char}
      (space : blank.all isSpace = true)
      (apart : ∀ symbol, token = .symbol symbol → runsOn text = false)
      (rest : Spells tokens text) : Spells (token :: tokens) (blank ++ (token.spelling ++ text))

/-- A symbol that can be read back: it is not empty and has no whitespace, parenthesis or quote. -/
def Token.isNamed : Token → Bool
  | .symbol text => text != "" && text.toList.all isSymbolChar
  | _ => true

/-- `(?:\\.|[^"\\])*` matches the whole of it: there is no closing quote in it, and every backslash
stands before a character of it that is not a line break. -/
def isBody : List Char → Bool
  | [] => true
  | character :: rest =>
    if character = '"' then false
    else if character = '\\' then
      match rest with
      | [] => false
      | escaped :: rest => escaped != '\n' && isBody rest
    else isBody rest

/-- The body of a string token can be read back. -/
def Token.isWhole : Token → Bool
  | .string body => isBody body.toList
  | _ => true

/-! ### The tokeniser -/

theorem quoted_quote (rest : List Char) : quoted ('"' :: rest) = some ([], rest) := by
  rw [quoted.eq_def]
  rfl

theorem quoted_escape (escaped : Char) (rest : List Char) : quoted ('\\' :: escaped :: rest) =
      if escaped = '\n' then none
      else (quoted rest).map fun found => ('\\' :: escaped :: found.1, found.2) := by
  rw [quoted.eq_def]
  rfl

theorem quoted_plain {character : Char} (rest : List Char) (quote : character ≠ '"') (slash : character ≠ '\\') :
    quoted (character :: rest) = (quoted rest).map fun found => (character :: found.1, found.2) := by
  rw [quoted.eq_def]
  simp only [if_neg quote, if_neg slash]

theorem isBody_escape (escaped : Char) (rest : List Char) :
    isBody ('\\' :: escaped :: rest) = (escaped != '\n' && isBody rest) := by
  rw [isBody.eq_def]
  rfl

theorem isBody_plain {character : Char} (rest : List Char) (quote : character ≠ '"')
    (slash : character ≠ '\\') : isBody (character :: rest) = isBody rest := by
  rw [isBody.eq_def]
  simp only [if_neg quote, if_neg slash]

theorem quoted_append {body : List Char} (whole : isBody body = true) (rest : List Char) :
    quoted (body ++ '"' :: rest) = some (body, rest) := by
  induction body using isBody.induct with
  | case1 => exact quoted_quote rest
  | case2 =>
    rw [isBody.eq_def] at whole
    simp at whole
  | case3 => cases whole
  | case4 escaped tail _ ih =>
    rw [isBody_escape, Bool.and_eq_true, bne_iff_ne] at whole
    rw [List.cons_append, List.cons_append, quoted_escape, if_neg whole.1, ih whole.2]
    rfl
  | case5 character tail quote slash ih =>
    rw [isBody_plain tail quote slash] at whole
    rw [List.cons_append, quoted_plain _ quote slash, ih whole]
    rfl

variable {text : List Char}

theorem isBody_of_quoted : ∀ {body rest : List Char}, quoted text = some (body, rest) →
      isBody body = true ∧ rest.length < text.length := by
  induction text using quoted.induct with
  | case1 => intro body rest found; cases found
  | case2 =>
    intro body rest found
    rw [quoted_quote, Option.some.injEq, Prod.mk.injEq] at found
    obtain ⟨rfl, rfl⟩ := found
    exact ⟨rfl, Nat.lt_succ_self _⟩
  | case3 => intro body rest found; cases found
  | case4 =>
    intro body rest found
    rw [quoted_escape, if_pos rfl] at found
    cases found
  | case5 escaped tail line _ ih =>
    intro body rest found
    rw [quoted_escape, if_neg line, Option.map_eq_some_iff] at found
    obtain ⟨⟨inner, left⟩, there, same⟩ := found
    obtain ⟨rfl, rfl⟩ := Prod.mk.inj same
    obtain ⟨whole, shorter⟩ := ih there
    refine ⟨?_, by simp only [List.length_cons]; omega⟩
    rw [isBody_escape, Bool.and_eq_true, bne_iff_ne]
    exact ⟨line, whole⟩
  | case6 character tail quote slash ih =>
    intro body rest found
    rw [quoted_plain _ quote slash, Option.map_eq_some_iff] at found
    obtain ⟨⟨inner, left⟩, there, same⟩ := found
    obtain ⟨rfl, rfl⟩ := Prod.mk.inj same
    obtain ⟨whole, shorter⟩ := ih there
    refine ⟨?_, by simp only [List.length_cons]; omega⟩
    rw [isBody_plain _ quote slash]
    exact whole

theorem nextToken_spelling {token : Token} {blank : List Char} (space : blank.all isSpace = true)
    (named : token.isNamed = true) (whole : token.isWhole = true)
    (apart : ∀ symbol, token = .symbol symbol → runsOn text = false) :
    nextToken (blank ++ (token.spelling ++ text)) = some (token, text) := by
  have skipped : ∀ {character : Char} (rest : List Char), isSpace character = false →
      (blank ++ character :: rest).dropWhile isSpace = character :: rest := by
    intro character rest visible
    rw [List.dropWhile_append_of_pos (by simpa using space), List.dropWhile_cons_of_neg (by simp [visible])]
  cases token with
  | lparen =>
    rw [nextToken, Token.spelling, List.singleton_append, skipped text (by decide)]
    rfl
  | rparen =>
    rw [nextToken, Token.spelling, List.singleton_append, skipped text (by decide)]
    rfl
  | string =>
    have found := quoted_append whole text
    rw [nextToken, Token.spelling, List.cons_append, skipped _ (by decide), List.append_assoc,
      List.singleton_append]
    simp only [found]
    simp
  | symbol symbol =>
    simp only [Token.isNamed, Bool.and_eq_true, bne_iff_ne, ne_eq] at named
    obtain ⟨filled, visible⟩ := named
    cases characters : symbol.toList with
    | nil => exact absurd (String.toList_eq_nil_iff.mp characters) filled
    | cons character rest =>
      rw [characters, List.all_cons, Bool.and_eq_true] at visible
      obtain ⟨first, others⟩ := visible
      have stops : text.takeWhile isSymbolChar = [] ∧ text.dropWhile isSymbolChar = text := by
        have still := apart symbol rfl
        cases text with
        | nil => exact ⟨rfl, rfl⟩
        | cons next =>
          have halted : isSymbolChar next = false := by simpa [runsOn] using still
          exact ⟨by simp [halted], by simp [halted]⟩
      have taken : (rest ++ text).takeWhile isSymbolChar = rest := by
        rw [List.takeWhile_append_of_pos (by simpa using others), stops.1, List.append_nil]
      have dropped : (rest ++ text).dropWhile isSymbolChar = text := by
        rw [List.dropWhile_append_of_pos (by simpa using others), stops.2]
      simp only [isSymbolChar, Bool.and_eq_true, Bool.not_eq_true', bne_iff_ne, ne_eq] at first
      obtain ⟨⟨⟨shown, opening⟩, closing⟩, quote⟩ := first
      rw [nextToken, Token.spelling, characters, List.cons_append, skipped _ shown]
      simp only [if_neg opening, if_neg closing, if_neg quote, taken, dropped]
      rw [← characters, String.ofList_toList]

theorem nextToken_blank {blank : List Char} (space : blank.all isSpace = true) : nextToken blank = none := by
  have skipped : blank.dropWhile isSpace = [] := by
    rw [List.dropWhile_eq_nil_iff]
    simpa using space
  rw [nextToken, skipped]

theorem nextToken_spec {rest : List Char} {token : Token} (found : nextToken text = some (token, rest)) :
    rest.length < text.length ∧ token.isWhole = true := by
  rw [nextToken] at found
  have shorter : (text.dropWhile isSpace).length ≤ text.length :=
    (List.dropWhile_suffix isSpace).length_le
  split at found
  · cases found
  · rename_i character tail visible
    rw [visible, List.length_cons] at shorter
    split at found
    · cases found
      exact ⟨by omega, rfl⟩
    · split at found
      · cases found
        exact ⟨by omega, rfl⟩
      · split at found
        · rw [Option.map_eq_some_iff] at found
          obtain ⟨⟨body, left⟩, there, same⟩ := found
          cases same
          obtain ⟨whole, less⟩ := isBody_of_quoted there
          refine ⟨by simp only; omega, ?_⟩
          rw [Token.isWhole, String.toList_ofList]
          exact whole
        · cases found
          have less := (List.dropWhile_suffix isSymbolChar (l := tail)).length_le
          exact ⟨by omega, rfl⟩

theorem tokenizeFrom_of_spells {tokens : List Token} (spelled : Spells tokens text)
    (named : ∀ token ∈ tokens, token.isNamed = true) (whole : ∀ token ∈ tokens, token.isWhole = true) :
    ∀ {fuel pos : Nat}, text.length < fuel → tokenizeFrom fuel pos text = ⟨tokens, none⟩ := by
  induction spelled with
  | @ends blank space =>
    intro fuel pos enough
    obtain ⟨fuel, rfl⟩ := Nat.exists_eq_succ_of_ne_zero (Nat.ne_of_gt (Nat.zero_lt_of_lt enough))
    rw [tokenizeFrom, nextToken_blank space, if_pos space, ite_self]
  | @token token tokens blank text space apart rest ih =>
    intro fuel pos enough
    obtain ⟨fuel, rfl⟩ := Nat.exists_eq_succ_of_ne_zero (Nat.ne_of_gt (Nat.zero_lt_of_lt enough))
    have found := nextToken_spelling space (named token (by simp)) (whole token (by simp)) apart
    have shorter := (nextToken_spec found).1
    have filled : (blank ++ (token.spelling ++ text)).isEmpty = false := by
      rw [List.isEmpty_eq_false_iff]
      exact List.ne_nil_of_length_pos (by omega)
    rw [tokenizeFrom, filled, found]
    simp only [Bool.false_eq_true, if_false]
    rw [ih (fun token member => named token (by simp [member]))
      (fun token member => whole token (by simp [member])) (by omega)]
    rfl

theorem tokenize_of_spells {tokens : List Token} (spelled : Spells tokens text)
    (named : ∀ token ∈ tokens, token.isNamed = true) (whole : ∀ token ∈ tokens, token.isWhole = true) :
    tokenize text = ⟨tokens, none⟩ :=
  tokenizeFrom_of_spells spelled named whole (Nat.lt_succ_self _)

/-- The tokeniser yields no string with a body that it could not match, and raises errors of the module
only. -/
theorem tokenizeFrom_spec (fuel : Nat) : ∀ (pos : Nat) (text : List Char),
    (∀ token ∈ (tokenizeFrom fuel pos text).yielded, token.isWhole = true) ∧
      ∀ failure ∈ (tokenizeFrom fuel pos text).raises, failure.isValueError = true := by
  induction fuel with
  | zero => intro pos text; exact ⟨by simp [tokenizeFrom], by simp [tokenizeFrom]⟩
  | succ fuel ih =>
    intro pos text
    rw [tokenizeFrom]
    split
    · exact ⟨by simp, by simp⟩
    · split
      · split
        · exact ⟨by simp, by simp⟩
        · refine ⟨by simp, ?_⟩
          intro failure raised
          cases raised
          rfl
      · rename_i token rest found
        obtain ⟨yields, raises⟩ := ih (pos + (text.length - rest.length)) rest
        refine ⟨?_, raises⟩
        intro other member
        rcases List.mem_cons.mp member with rfl | later
        · exact (nextToken_spec found).2
        · exact yields other later

theorem tokenize_spec (text : List Char) : (∀ token ∈ (tokenize text).yielded, token.isWhole = true) ∧
      ∀ failure ∈ (tokenize text).raises, failure.isValueError = true :=
  tokenizeFrom_spec _ 0 text

/-! ### The stream -/

namespace TokenStream

variable {tokens : TokenStream}

variable {rest : List Token}

theorem next_cons {token : Token} (pending : tokens.pending = token :: rest) :
    ∃ after, tokens.next = .ok (token, after) ∧ after.pending = rest ∧ after.source.raises = tokens.source.raises := by
  obtain ⟨buffer, source⟩ := tokens
  cases buffer with
  | cons first buffer =>
    cases pending
    exact ⟨⟨buffer, source⟩, rfl, rfl, rfl⟩
  | nil =>
    have yields : source.yielded = token :: rest := pending
    refine ⟨⟨[], { source with yielded := rest }⟩, ?_, rfl, rfl⟩
    rw [next]
    simp only [yields]

theorem next_nil (pending : tokens.pending = []) : tokens.next = .error (tokens.source.raises.getD .stopIteration) := by
  obtain ⟨buffer, source⟩ := tokens
  obtain ⟨rfl, drained⟩ := List.append_eq_nil_iff.mp pending
  have yields : source.yielded = [] := drained
  rw [next]
  simp only [yields]

@[simp] theorem pending_push (tokens : TokenStream) (token : Token) :
    (tokens.push token).pending = token :: tokens.pending := rfl

@[simp] theorem raises_push (tokens : TokenStream) (token : Token) :
    (tokens.push token).source.raises = tokens.source.raises := rfl

end TokenStream

/-! ### Trees are read back -/

mutual

theorem parse_complete : ∀ (head : String) (children : List Child) {rest : List Token}
    {fuel : Nat} {tokens : TokenStream}, tokens.pending = (Child.node head children).tokens ++ rest →
      2 * tokens.pending.length + 1 ≤ fuel → ∃ after, parseWithin fuel tokens = some (.ok (⟨head, children⟩, after)) ∧
          after.pending = rest ∧ after.source.raises = tokens.source.raises
  | head, children, rest, 0, tokens, _, enough => by omega
  | head, children, rest, fuel + 1, tokens, pending, enough => by
    rw [Child.tokens, List.cons_append, List.cons_append, List.append_assoc,
      List.singleton_append] at pending
    obtain ⟨opened, first, left, same⟩ := TokenStream.next_cons pending
    obtain ⟨headed, second, still, sameAgain⟩ := TokenStream.next_cons left
    have fewer : 2 * headed.pending.length + 2 ≤ fuel := by
      rw [pending, List.length_cons, List.length_cons, ← still] at enough
      omega
    obtain ⟨after, read, ended, kept⟩ := children_complete children [] head still fewer
    refine ⟨after, ?_, ended, kept.trans (sameAgain.trans same)⟩
    rw [parseWithin, first]
    simp only [second]
    exact read

theorem children_complete : ∀ (children earlier : List Child) (head : String) {rest : List Token}
    {fuel : Nat} {tokens : TokenStream}, tokens.pending = tokensOf children ++ .rparen :: rest →
      2 * tokens.pending.length + 2 ≤ fuel → ∃ after, childrenWithin fuel ⟨head, earlier⟩ tokens =
            some (.ok (⟨head, earlier ++ children⟩, after)) ∧
          after.pending = rest ∧ after.source.raises = tokens.source.raises
  | _, _, _, _, 0, _, _, enough => by omega
  | [], earlier, head, rest, fuel + 1, tokens, pending, enough => by
    obtain ⟨closed, first, left, same⟩ := TokenStream.next_cons pending
    refine ⟨closed, ?_, left, same⟩
    rw [childrenWithin, first, List.append_nil]
  | .string value :: others, earlier, head, rest, fuel + 1, tokens, pending, enough => by
    rw [tokensOf, Child.tokens, List.append_assoc, List.singleton_append] at pending
    obtain ⟨later, first, left, same⟩ := TokenStream.next_cons pending
    have fewer : 2 * later.pending.length + 2 ≤ fuel := by
      rw [pending, List.length_cons, ← left] at enough
      omega
    obtain ⟨after, read, ended, kept⟩ :=
      children_complete others (earlier ++ [.string value]) head left fewer
    refine ⟨after, ?_, ended, kept.trans same⟩
    rw [List.append_assoc, List.singleton_append] at read
    rw [childrenWithin, first]
    exact read
  | .symbol value :: others, earlier, head, rest, fuel + 1, tokens, pending, enough => by
    rw [tokensOf, Child.tokens, List.append_assoc, List.singleton_append] at pending
    obtain ⟨later, first, left, same⟩ := TokenStream.next_cons pending
    have fewer : 2 * later.pending.length + 2 ≤ fuel := by
      rw [pending, List.length_cons, ← left] at enough
      omega
    obtain ⟨after, read, ended, kept⟩ :=
      children_complete others (earlier ++ [.symbol value]) head left fewer
    refine ⟨after, ?_, ended, kept.trans same⟩
    rw [List.append_assoc, List.singleton_append] at read
    rw [childrenWithin, first]
    exact read
  | .node inner members :: others, earlier, head, rest, fuel + 1, tokens, pending, enough => by
    rw [tokensOf, List.append_assoc] at pending
    have opens : tokens.pending = .lparen :: (.symbol inner :: (tokensOf members ++ [.rparen]) ++
        (tokensOf others ++ .rparen :: rest)) := by
      rw [pending, Child.tokens]
      rfl
    obtain ⟨opened, first, left, same⟩ := TokenStream.next_cons opens
    have pushed : (opened.push .lparen).pending =
        (Child.node inner members).tokens ++ (tokensOf others ++ .rparen :: rest) := by
      rw [TokenStream.pending_push, left, Child.tokens]
      rfl
    have enoughInner : 2 * (opened.push .lparen).pending.length + 1 ≤ fuel := by
      rw [pushed, ← pending]
      omega
    obtain ⟨later, child, next, sameInner⟩ := parse_complete inner members pushed enoughInner
    have fewer : 2 * later.pending.length + 2 ≤ fuel := by
      rw [opens, List.length_cons, List.length_append, List.length_cons, ← next] at enough
      omega
    obtain ⟨after, read, ended, kept⟩ :=
      children_complete others (earlier ++ [.node inner members]) head next fewer
    refine ⟨after, ?_, ended, kept.trans (sameInner.trans same)⟩
    rw [List.append_assoc, List.singleton_append] at read
    rw [childrenWithin, first]
    simp only [child]
    exact read

end

theorem tokens_unique {first second : SExpr} {rest more : List Token}
    (same : first.tokens ++ rest = second.tokens ++ more) : first = second ∧ rest = more := by
  let tokens : TokenStream := ⟨first.tokens ++ rest, ⟨[], none⟩⟩
  have pending : tokens.pending = first.tokens ++ rest := List.append_nil _
  obtain ⟨after, read, ended, _⟩ := parse_complete first.head first.children pending (Nat.le_refl _)
  obtain ⟨other, readAgain, endedAgain, _⟩ :=
    parse_complete second.head second.children (pending.trans same) (Nat.le_refl _)
  rw [read, Option.some.injEq, Except.ok.injEq, Prod.mk.injEq] at readAgain
  obtain ⟨tree, stream⟩ := readAgain
  exact ⟨tree, by rw [← ended, stream, endedAgain]⟩

/-! ### Every stream -/

/-- The stream breaks off inside a form: something is missing that would complete it. -/
def CutOff (tokens : List Token) : Prop :=
  ∃ (tree : SExpr) (missing : List Token), missing ≠ [] ∧ tokens ++ missing = tree.tokens

/-- The stream breaks off among the children of a form. -/
def CutOffInside (tokens : List Token) : Prop :=
  ∃ (children : List Child) (missing : List Token), missing ≠ [] ∧
    tokens ++ missing = tokensOf children ++ [.rparen]

/-- No form starts with the stream or is where it starts. -/
def Malformed (tokens : List Token) : Prop :=
  ∀ (tree : SExpr) (more rest : List Token), tokens ++ more ≠ tree.tokens ++ rest

/-- The same for the children of a form. -/
def MalformedInside (tokens : List Token) : Prop :=
  ∀ (children : List Child) (more rest : List Token),
    tokens ++ more ≠ tokensOf children ++ .rparen :: rest

/-- What the reader can make of a stream: a form and the rest of the stream, an error of the module if
no form fits, or what the generator raises if the stream breaks off. -/
inductive Reading (tokens : TokenStream) : Except Failure (SExpr × TokenStream) → Prop
  | tree {node : SExpr} {after : TokenStream} (spelled : tokens.pending = node.tokens ++ after.pending)
      (same : after.source.raises = tokens.source.raises) : Reading tokens (.ok (node, after))
  | misread {failure : Failure} (error : failure.isValueError = true)
      (malformed : Malformed tokens.pending) : Reading tokens (.error failure)
  | cutOff (short : CutOff tokens.pending) :
      Reading tokens (.error (tokens.source.raises.getD .stopIteration))

/-- The same for the children of a form, after those that were read. -/
inductive ReadingInside (earlier : SExpr) (tokens : TokenStream) :
    Except Failure (SExpr × TokenStream) → Prop
  | children {children : List Child} {after : TokenStream}
      (spelled : tokens.pending = tokensOf children ++ .rparen :: after.pending)
      (same : after.source.raises = tokens.source.raises) :
      ReadingInside earlier tokens (.ok (⟨earlier.head, earlier.children ++ children⟩, after))
  | misread {failure : Failure} (error : failure.isValueError = true)
      (malformed : MalformedInside tokens.pending) : ReadingInside earlier tokens (.error failure)
  | cutOff (short : CutOffInside tokens.pending) :
      ReadingInside earlier tokens (.error (tokens.source.raises.getD .stopIteration))

theorem childTokens_unique {first second : Child} {more : List Token}
    (same : first.tokens ++ rest = second.tokens ++ more) : first = second ∧ rest = more := by
  cases first with
  | node head children =>
    cases second with
    | node otherHead others =>
      obtain ⟨tree, left⟩ := @tokens_unique ⟨head, children⟩ ⟨otherHead, others⟩
        _ _ same
      cases tree
      exact ⟨rfl, left⟩
    | string => simp [Child.tokens] at same
    | symbol => simp [Child.tokens] at same
  | string =>
    cases second with
    | node => simp [Child.tokens] at same
    | string => simpa [Child.tokens] using same
    | symbol => simp [Child.tokens] at same
  | symbol =>
    cases second with
    | node => simp [Child.tokens] at same
    | string => simp [Child.tokens] at same
    | symbol => simpa [Child.tokens] using same

theorem childTokens_ne_rparen (child : Child) (rest more : List Token) : child.tokens ++ rest ≠ .rparen :: more := by
  cases child <;> simp [Child.tokens]

theorem ReadingInside.cons {earlier : SExpr} {child : Child} {tokens later : TokenStream}
    {result : Except Failure (SExpr × TokenStream)} (spelled : tokens.pending = child.tokens ++ later.pending)
    (same : later.source.raises = tokens.source.raises) (others : ReadingInside (earlier.append child) later result) :
    ReadingInside earlier tokens result := by
  cases others with
  | @children children after rest kept =>
    have all : (earlier.append child).children ++ children =
        earlier.children ++ (child :: children) := by
      simp [SExpr.append]
    rw [all]
    refine .children ?_ (kept.trans same)
    rw [spelled, rest, tokensOf, List.append_assoc]
  | misread error malformed =>
    refine .misread error ?_
    intro children more rest fits
    rw [spelled, List.append_assoc] at fits
    cases children with
    | nil => exact childTokens_ne_rparen child _ _ fits
    | cons other others =>
      rw [tokensOf, List.append_assoc] at fits
      exact malformed others more rest (childTokens_unique fits).2
  | cutOff short =>
    obtain ⟨children, missing, some, whole⟩ := short
    rw [same]
    refine .cutOff ⟨child :: children, missing, some, ?_⟩
    rw [spelled, List.append_assoc, whole, tokensOf, List.append_assoc]

theorem ReadingInside.nested {earlier : SExpr} {tokens pushed : TokenStream} {failure : Failure}
    (opens : tokens.pending = .lparen :: rest) (pending : pushed.pending = tokens.pending)
    (same : pushed.source.raises = tokens.source.raises)
    (inner : Reading pushed (.error failure)) : ReadingInside earlier tokens (.error failure) := by
  cases inner with
  | misread error malformed =>
    refine .misread error ?_
    rw [pending] at malformed
    intro children more others fits
    cases children with
    | nil => simp [opens, tokensOf] at fits
    | cons child =>
      cases child with
      | node head members =>
        rw [tokensOf, List.append_assoc] at fits
        exact malformed ⟨head, members⟩ _ _ fits
      | string => simp [opens, tokensOf, Child.tokens] at fits
      | symbol => simp [opens, tokensOf, Child.tokens] at fits
  | cutOff short =>
    obtain ⟨tree, missing, some, whole⟩ := short
    rw [same]
    refine .cutOff ⟨[tree.asChild], missing ++ [.rparen], by simp, ?_⟩
    rw [← pending, ← List.append_assoc, whole, tokensOf, tokensOf, List.append_nil]
    rfl

theorem Reading.ofChildren {head : String} {tokens headed : TokenStream} {result : Except Failure (SExpr × TokenStream)}
    (spelled : tokens.pending = .lparen :: .symbol head :: headed.pending)
    (same : headed.source.raises = tokens.source.raises)
    (inside : ReadingInside ⟨head, []⟩ headed result) : Reading tokens result := by
  cases inside with
  | @children children after rest kept =>
    refine .tree ?_ (kept.trans same)
    rw [spelled, rest]
    simp [SExpr.tokens, SExpr.asChild, Child.tokens]
  | misread error malformed =>
    refine .misread error ?_
    intro tree more rest fits
    apply malformed tree.children more rest
    rw [spelled] at fits
    simp only [SExpr.tokens, SExpr.asChild, Child.tokens, List.cons_append, List.cons.injEq,
      true_and, List.append_assoc] at fits
    exact fits.2
  | cutOff short =>
    obtain ⟨children, missing, some, whole⟩ := short
    rw [same]
    refine .cutOff ⟨⟨head, children⟩, missing, some, ?_⟩
    rw [spelled, List.cons_append, List.cons_append, whole]
    rfl

theorem readings (fuel : Nat) : (∀ tokens : TokenStream, 2 * tokens.pending.length + 1 ≤ fuel →
      ∃ result, parseWithin fuel tokens = some result ∧ Reading tokens result) ∧
    ∀ (node : SExpr) (tokens : TokenStream), 2 * tokens.pending.length + 2 ≤ fuel →
      ∃ result, childrenWithin fuel node tokens = some result ∧ ReadingInside node tokens result := by
  induction fuel with
  | zero => exact ⟨fun tokens enough => by omega, fun node tokens enough => by omega⟩
  | succ fuel ih =>
    obtain ⟨parses, reads⟩ := ih
    constructor
    · intro tokens enough
      rw [parseWithin]
      cases pending : tokens.pending with
      | nil =>
        rw [TokenStream.next_nil pending]
        refine ⟨_, rfl, .cutOff ⟨⟨"", []⟩, [.lparen, .symbol "", .rparen], by simp, ?_⟩⟩
        rw [pending]
        rfl
      | cons token rest =>
        obtain ⟨opened, first, left, same⟩ := TokenStream.next_cons pending
        have misread (different : token ≠ .lparen) :
            Reading tokens (.error (.expectedOpen token)) := by
          refine .misread rfl ?_
          intro tree more others fits
          rw [pending] at fits
          exact different (List.cons.inj fits).1
        rw [first]
        cases token with
        | rparen | string | symbol => exact ⟨_, rfl, misread (by simp)⟩
        | lparen =>
          rw [pending, List.length_cons, ← left] at enough
          simp only
          cases inside : opened.pending with
          | nil =>
            rw [TokenStream.next_nil inside, same]
            refine ⟨_, rfl, .cutOff ⟨⟨"", []⟩, [.symbol "", .rparen], by simp, ?_⟩⟩
            rw [pending, ← left, inside]
            rfl
          | cons token =>
            obtain ⟨headed, second, still, sameAgain⟩ := TokenStream.next_cons inside
            have misheaded (different : ∀ head, token ≠ .symbol head) :
                Reading tokens (.error (.expectedHead token)) := by
              refine .misread rfl ?_
              intro tree more others fits
              rw [pending, ← left, inside] at fits
              exact different tree.head (List.cons.inj (List.cons.inj fits).2).1
            rw [second]
            cases token with
            | lparen | rparen | string => exact ⟨_, rfl, misheaded (by simp)⟩
            | symbol head =>
              rw [inside, List.length_cons, ← still] at enough
              obtain ⟨result, read, reading⟩ := reads ⟨head, []⟩ headed (by omega)
              refine ⟨result, read, Reading.ofChildren ?_ (sameAgain.trans same) reading⟩
              rw [pending, ← left, inside, still]
    · intro node tokens enough
      rw [childrenWithin]
      cases pending : tokens.pending with
      | nil =>
        rw [TokenStream.next_nil pending]
        refine ⟨_, rfl, .cutOff ⟨[], [.rparen], by simp, ?_⟩⟩
        rw [pending, tokensOf]
      | cons token =>
        obtain ⟨later, first, left, same⟩ := TokenStream.next_cons pending
        rw [pending, List.length_cons, ← left] at enough
        rw [first]
        cases token with
        | rparen =>
          refine ⟨_, rfl, ?_⟩
          have closed := @ReadingInside.children node _ [] _
            (pending.trans (by rw [left]; rfl)) same
          simpa using closed
        | lparen =>
          have pushed : (later.push .lparen).pending = tokens.pending := by
            rw [TokenStream.pending_push, left, pending]
          obtain ⟨result, child, reading⟩ := parses (later.push .lparen) (by
            rw [TokenStream.pending_push, List.length_cons]
            omega)
          simp only [child]
          cases result with
          | error =>
            exact ⟨_, rfl, ReadingInside.nested pending pushed same reading⟩
          | ok found =>
            obtain ⟨form, after⟩ := found
            cases reading with
            | tree spelled kept =>
              have fewer := congrArg List.length spelled
              simp only [TokenStream.pending_push, List.length_cons, List.length_append,
                SExpr.tokens, SExpr.asChild, Child.tokens] at fewer
              obtain ⟨result, read, others⟩ :=
                reads (node.append form.asChild) after (by omega)
              exact ⟨result, read, others.cons (pushed.symm.trans spelled) (kept.trans same)⟩
        | string body =>
          obtain ⟨result, read, reading⟩ := reads (node.append (.string body)) later (by omega)
          exact ⟨result, read, reading.cons (pending.trans (by rw [left]; rfl)) same⟩
        | symbol text =>
          obtain ⟨result, read, reading⟩ := reads (node.append (.symbol text)) later (by omega)
          exact ⟨result, read, reading.cons (pending.trans (by rw [left]; rfl)) same⟩

theorem parseSexpr_reading (tokens : TokenStream) : Reading tokens (parseSexpr tokens) := by
  obtain ⟨result, read, reading⟩ :=
    (readings (2 * tokens.pending.length + 1)).1 tokens (Nat.le_refl _)
  rw [parseSexpr, read]
  exact reading

theorem not_malformed_of_cutOff {tokens : List Token} (short : CutOff tokens) : ¬ Malformed tokens := by
  obtain ⟨tree, missing, _, whole⟩ := short
  intro malformed
  exact malformed tree missing [] (by rw [whole, List.append_nil])

theorem not_cutOff_append (tree : SExpr) (rest : List Token) : ¬ CutOff (tree.tokens ++ rest) := by
  rintro ⟨other, missing, some, whole⟩
  have same : tree.tokens ++ (rest ++ missing) = other.tokens ++ [] := by
    rw [← List.append_assoc, whole, List.append_nil]
  exact some (List.append_eq_nil_iff.mp (tokens_unique same).2).2

/-- The reader ends in a tree or an error of the module unless the stream breaks off inside a form and
the generator has no error of its own to raise. -/
theorem parseSexpr_ends_iff (tokens : TokenStream) : ((∃ read, parseSexpr tokens = .ok read) ∨
        ∃ failure, parseSexpr tokens = .error failure ∧ failure.isValueError = true) ↔
      (CutOff tokens.pending → ∃ failure ∈ tokens.source.raises, failure.isValueError = true) := by
  have reading := parseSexpr_reading tokens
  generalize parseSexpr tokens = result at reading
  cases reading with
  | @tree node after spelled =>
    refine ⟨fun _ short => ?_, fun _ => Or.inl ⟨_, rfl⟩⟩
    rw [spelled] at short
    exact absurd short (not_cutOff_append node after.pending)
  | misread error malformed =>
    exact ⟨fun _ short => absurd malformed (not_malformed_of_cutOff short), fun _ => Or.inr ⟨_, rfl, error⟩⟩
  | cutOff short =>
    cases raised : tokens.source.raises with
    | none =>
      constructor
      · rintro (⟨read, impossible⟩ | ⟨failure, same, error⟩)
        · cases impossible
        · cases same
          cases error
      · intro excused
        obtain ⟨failure, member, _⟩ := excused short
        cases member
    | some failure =>
      constructor
      · rintro (⟨read, impossible⟩ | ⟨other, same, error⟩)
        · cases impossible
        · cases same
          exact fun _ => ⟨failure, rfl, error⟩
      · intro excused
        obtain ⟨other, member, error⟩ := excused short
        cases member
        exact Or.inr ⟨failure, rfl, error⟩

/-! ### Reading inverts printing -/

/-- A printed tree is read back, with nothing left over, exactly if the regular expression can match the
body of every string in it. -/
theorem parseSexpr_tokenize_iff {tree : SExpr} (spelled : Spells tree.tokens text)
    (named : ∀ token ∈ tree.tokens, token.isNamed = true) :
    (∃ after, parseSexpr (TokenStream.ofSource (tokenize text)) = .ok (tree, after) ∧
        after.pending = [] ∧ after.source.raises = none) ↔ ∀ token ∈ tree.tokens, token.isWhole = true := by
  constructor
  · rintro ⟨after, read, drained, _⟩
    have reading := parseSexpr_reading (TokenStream.ofSource (tokenize text))
    rw [read] at reading
    cases reading with
    | tree yields =>
      have same : (tokenize text).yielded = tree.tokens := by
        rw [drained, List.append_nil] at yields
        exact yields
      rw [← same]
      exact (tokenize_spec text).1
  · intro whole
    have tokens := tokenize_of_spells spelled named whole
    have pending : (TokenStream.ofSource (tokenize text)).pending =
        (Child.node tree.head tree.children).tokens ++ [] := by
      rw [tokens, List.append_nil]
      rfl
    obtain ⟨after, read, drained, same⟩ :=
      parse_complete tree.head tree.children pending (Nat.le_refl _)
    refine ⟨after, ?_, drained, ?_⟩
    · rw [parseSexpr, read]
      rfl
    · rw [same, tokens]
      rfl

theorem parseEdif_of_tokens {tree : SExpr}
    (tokens : tokenize text = ⟨tree.tokens, none⟩) (edif : Python.lowerAscii tree.head = "edif") :
    parseEdif text = .ok tree := by
  have pending : (TokenStream.ofSource (tokenize text)).pending =
      (Child.node tree.head tree.children).tokens ++ [] := by
    rw [tokens, List.append_nil]
    rfl
  obtain ⟨after, read, _⟩ := parse_complete tree.head tree.children pending (Nat.le_refl _)
  rw [parseEdif, parseSexpr, read]
  simp only [Option.getD_some, bind, Except.bind, pure, Except.pure]
  rw [if_neg (not_not_intro edif)]

/-- A printed tree whose symbols can be read back is read back, with all input consumed, exactly if the
bodies of its strings are ones that the regular expression can match; and on every stream the reader ends
in a tree or an error of the module exactly if the stream does not break off inside a form, or the
tokeniser raises such an error there. -/
theorem reading_inverts_printing_iff {tree : SExpr} {text : List Char}
    (spelled : Spells tree.tokens text) (named : ∀ token ∈ tree.tokens, token.isNamed = true) (tokens : TokenStream) :
    ((∃ after, parseSexpr (TokenStream.ofSource (tokenize text)) = .ok (tree, after) ∧
        after.pending = [] ∧ after.source.raises = none) ↔ ∀ token ∈ tree.tokens, token.isWhole = true) ∧
    (((∃ read, parseSexpr tokens = .ok read) ∨
        ∃ failure, parseSexpr tokens = .error failure ∧ failure.isValueError = true) ↔
      (CutOff tokens.pending → ∃ failure ∈ tokens.source.raises, failure.isValueError = true)) :=
  ⟨parseSexpr_tokenize_iff spelled named, parseSexpr_ends_iff tokens⟩

/-- `(edif "a")` with a blank after the head. -/
def sampleText : List Char :=
  [] ++ (Token.lparen.spelling ++ ([] ++ ((Token.symbol "edif").spelling ++
    ([' '] ++ ((Token.string "a").spelling ++ ([] ++ (Token.rparen.spelling ++ [])))))))

theorem spells_sampleText : Spells (SExpr.mk "edif" [.string "a"]).tokens sampleText := by
  refine .token rfl (fun _ impossible => nomatch impossible) ?_
  refine .token rfl (fun _ _ => by decide) ?_
  refine .token rfl (fun _ impossible => nomatch impossible) ?_
  refine .token rfl (fun _ impossible => nomatch impossible) ?_
  exact .ends rfl

/-- The sample text, and the stream of its first two tokens. -/
theorem sampleText_is_read : ((∃ after, parseSexpr (TokenStream.ofSource (tokenize sampleText)) =
          .ok (⟨"edif", [.string "a"]⟩, after) ∧ after.pending = [] ∧ after.source.raises = none) ↔
      ∀ token ∈ (SExpr.mk "edif" [.string "a"]).tokens, token.isWhole = true) ∧
    (((∃ read, parseSexpr ⟨[], ⟨[.lparen, .symbol "edif"], none⟩⟩ = .ok read) ∨
        ∃ failure, parseSexpr ⟨[], ⟨[.lparen, .symbol "edif"], none⟩⟩ = .error failure ∧
          failure.isValueError = true) ↔ (CutOff [.lparen, .symbol "edif"] →
        ∃ failure ∈ (none : Option Failure), failure.isValueError = true)) :=
  reading_inverts_printing_iff spells_sampleText (by decide)
    ⟨[], ⟨[.lparen, .symbol "edif"], none⟩⟩

/-- A file that breaks off after its first two tokens: the reader raises the `StopIteration` of the
generator. -/
theorem truncated_text_stops_iteration : ¬ ∀ text : List Char,
      (∃ read, parseSexpr (TokenStream.ofSource (tokenize text)) = .ok read) ∨
        ∃ failure, parseSexpr (TokenStream.ofSource (tokenize text)) = .error failure ∧
          failure.isValueError = true := by
  intro ends
  have tokens : tokenize ['(', 'e', 'd', 'i', 'f'] = ⟨[.lparen, .symbol "edif"], none⟩ := by decide
  have ended := (parseSexpr_ends_iff _).mp (ends ['(', 'e', 'd', 'i', 'f'])
  rw [tokens] at ended
  obtain ⟨failure, impossible, _⟩ := ended ⟨⟨"edif", []⟩, [.rparen], by simp, rfl⟩
  cases impossible

end HardwareDatabase.Circuit
