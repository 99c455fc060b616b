/-
Module: HardwareDatabase.Proofs.OrcadTexts
Purpose: Texts that are written with the escapes of OrCAD and decoded again.
Trusted boundary: none
-/
import HardwareDatabase.Proofs.EscapedTexts

namespace HardwareDatabase.Circuit

/-! ### The encoding -/

/-- The code page that the codec decodes: an ASCII character is one byte, any other a lead and a trail byte, and a text
is decoded from the left. -/
structure CodePage (codec : Codec) where
  encode : Char → Option (List Nat)
  ascii : ∀ character : Char, character.toNat < 128 → encode character = some [character.toNat]
  wide : ∀ character bytes, 128 ≤ character.toNat → encode character = some bytes →
    ∃ lead trail, bytes = [lead, trail] ∧ 128 < lead ∧ lead < 256 ∧ 64 ≤ trail ∧ trail < 256
  replacement : encode (Char.ofNat 0xFFFD) = none
  decodesNone : (codec.gbk []).toList = []
  decodes : ∀ character bytes, encode character = some bytes → ∀ rest,
    (codec.gbk (bytes ++ rest)).toList = character :: (codec.gbk rest).toList
  truncated : ∀ lead, 128 < lead → lead < 256 → (codec.gbk [lead]).toList = [Char.ofNat 0xFFFD]

/-- A byte is escaped when it is no ASCII one, and so is the percent sign. -/
def byteText (byte : Nat) : List Char :=
  if byte < 128 ∧ byte ≠ 37 then [Char.ofNat byte] else spellByte byte

/-- The text as OrCAD writes it, for one that the code page has. -/
def CodePage.orcadEncoding {codec : Codec} (page : CodePage codec) : List Char → Option (List Char)
  | [] => some []
  | character :: rest =>
    match page.encode character, page.orcadEncoding rest with
    | some bytes, some written => some (bytes.flatMap byteText ++ written)
    | _, _ => none

/-- A percent sign or a character that is not ASCII. -/
def Escaped (character : Char) : Prop :=
  character = '%' ∨ 128 ≤ character.toNat

/-- Every percent sign stands next to an escaped character. -/
def Accompanied (text : List Char) : Prop :=
  ∀ before after, text = before ++ '%' :: after →
    (∃ character, before.getLast? = some character ∧ Escaped character) ∨
      ∃ character, after.head? = some character ∧ Escaped character

/-- No byte of the character after the first one is ASCII. -/
def CodePage.StaysWide {codec : Codec} (page : CodePage codec) (character : Char) : Prop :=
  ∀ bytes, page.encode character = some bytes → ∀ trail ∈ bytes.tail, 128 ≤ trail

/-- What a text must look like to be decoded to itself. -/
structure CodePage.Restorable {codec : Codec} (page : CodePage codec) (text : List Char) : Prop where
  wide : ∀ character ∈ text, page.StaysWide character
  accompanied : Accompanied text
  unreplaced : ¬ ['3', '7', '%'] <:+: text

/-! ### The replacement of `37%` -/

private theorem count_replaceEscapedPercent (text : List Char) :
    (replaceEscapedPercent text).count '%' = text.count '%' := by
  induction text using replaceEscapedPercent.induct with
  | case1 rest ih =>
    rw [replaceEscapedPercent, List.count_cons_self, ih,
      List.count_cons_of_ne (by decide), List.count_cons_of_ne (by decide), List.count_cons_self]
  | case2 character rest other ih =>
    rw [replaceEscapedPercent.eq_2 _ _ other, List.count_cons, List.count_cons, ih]
  | case3 => rfl

variable {character : Char} {text : List Char}

private theorem mem_replaceEscapedPercent (member : character ∈ text)
    (three : character ≠ '3') (seven : character ≠ '7') : character ∈ replaceEscapedPercent text := by
  induction text using replaceEscapedPercent.induct with
  | case1 rest ih =>
    rw [replaceEscapedPercent]
    simp only [List.mem_cons, three, seven, false_or] at member
    rcases member with percent | later
    · exact List.mem_cons.mpr (.inl percent)
    · exact List.mem_cons_of_mem _ (ih later)
  | case2 first rest other ih =>
    rw [replaceEscapedPercent.eq_2 _ _ other]
    rcases List.mem_cons.mp member with here | later
    · exact List.mem_cons.mpr (.inl here)
    · exact List.mem_cons_of_mem _ (ih later)
  | case3 => exact absurd member List.not_mem_nil

private theorem length_replaceEscapedPercent_le (text : List Char) :
    (replaceEscapedPercent text).length ≤ text.length := by
  induction text using replaceEscapedPercent.induct with
  | case1 =>
    rw [replaceEscapedPercent]
    simp only [List.length_cons]
    omega
  | case2 character rest other ih =>
    rw [replaceEscapedPercent.eq_2 _ _ other]
    simpa using ih
  | case3 => exact Nat.le_refl _

private theorem replaceEscapedPercent_eq_self_iff (text : List Char) :
    replaceEscapedPercent text = text ↔ ¬ ['3', '7', '%'] <:+: text := by
  induction text using replaceEscapedPercent.induct with
  | case1 rest =>
    constructor
    · intro same
      have shorter := length_replaceEscapedPercent_le rest
      rw [replaceEscapedPercent] at same
      have lengths := congrArg List.length same
      simp only [List.length_cons] at lengths
      omega
    · intro absent
      exact absurd ⟨[], rest, rfl⟩ absent
  | case2 character rest other ih =>
    rw [replaceEscapedPercent.eq_2 _ _ other, List.cons.injEq, ih, List.infix_cons_iff]
    have noStart : ¬ ['3', '7', '%'] <+: character :: rest := by
      rintro ⟨after, same⟩
      obtain ⟨rfl, rfl⟩ := List.cons.inj same
      exact other after rfl rfl
    simp [noStart]
  | case3 => simp [replaceEscapedPercent]

/-! ### Accompanied percent signs -/

private theorem accompanied_iff_of_escaped (escaped : ∀ character ∈ text, Escaped character) :
    Accompanied text ↔ text ≠ ['%'] := by
  constructor
  · rintro accompanied rfl
    rcases accompanied [] [] rfl with ⟨character, last, -⟩ | ⟨character, first, -⟩
    · cases last
    · cases first
  · rintro several before after rfl
    cases after with
    | cons next => exact .inr ⟨next, rfl, escaped next (by simp)⟩
    | nil =>
      rcases List.eq_nil_or_concat before with rfl | ⟨initial, last, rfl⟩
      · exact absurd rfl several
      · exact .inl ⟨last, by simp, escaped last (by simp)⟩

/-- A character that is not escaped separates the percent signs before it from those after it. -/
theorem accompanied_append_cons_iff {before rest : List Char} (plain : ¬ Escaped character) :
    Accompanied (before ++ character :: rest) ↔ Accompanied before ∧ Accompanied rest := by
  constructor
  · refine fun accompanied => ⟨?_, ?_⟩
    · rintro left right rfl
      rcases accompanied left (right ++ character :: rest) (by simp) with found | ⟨next, first, escaped⟩
      · exact .inl found
      · cases right with
        | nil =>
          cases first
          exact absurd escaped plain
        | cons => exact .inr ⟨next, first, escaped⟩
    · rintro left right rfl
      rcases accompanied (before ++ character :: left) right (by simp) with ⟨next, last, escaped⟩ | found
      · rcases List.eq_nil_or_concat left with rfl | ⟨initial, final, rfl⟩
        · rw [List.getLast?_append, List.getLast?_singleton] at last
          cases last
          exact absurd escaped plain
        · refine .inl ⟨next, ?_, escaped⟩
          rw [List.concat_eq_append, ← List.cons_append, ← List.append_assoc, List.getLast?_concat] at last
          rw [List.concat_eq_append, List.getLast?_concat, last]
      · exact .inr found
  · rintro ⟨earlier, later⟩ left right same
    rcases List.append_eq_append_iff.mp same with ⟨middle, rfl, tail⟩ | ⟨middle, rfl, tail⟩
    · cases middle with
      | nil =>
        cases tail
        exact absurd (.inl rfl) plain
      | cons other middle =>
        obtain ⟨rfl, rfl⟩ := List.cons.inj tail
        rcases later middle right rfl with ⟨next, last, escaped⟩ | found
        · refine .inl ⟨next, ?_, escaped⟩
          rw [List.getLast?_append, List.getLast?_cons, last]
          rfl
        · exact .inr found
    · cases middle with
      | nil =>
        cases tail
        exact absurd (.inl rfl) plain
      | cons other middle =>
        obtain ⟨rfl, rfl⟩ := List.cons.inj tail
        rcases earlier left middle rfl with found | ⟨next, first, escaped⟩
        · exact .inl found
        · cases middle with
          | nil => cases first
          | cons => exact .inr ⟨next, first, escaped⟩

/-! ### The pieces of a written text -/

namespace CodePage

variable {codec : Codec} (page : CodePage codec)

/-- The bytes of a character. -/
def bytes (character : Char) : List Nat :=
  (page.encode character).getD []

/-- The page has every character of the text. -/
def Has (text : List Char) : Prop :=
  ∀ character ∈ text, page.encode character = some (page.bytes character)

/-- How a byte is written. -/
def bytePiece (byte : Nat) : Piece :=
  if byte < 128 ∧ byte ≠ 37 then .plain (Char.ofNat byte) else .escape byte

/-- The pieces that a text is written in. -/
def pieces (text : List Char) : List Piece :=
  (text.flatMap page.bytes).map bytePiece

variable {page}

private theorem spell_bytePiece (byte : Nat) : (bytePiece byte).spell = byteText byte := by
  rw [bytePiece, byteText]
  split <;> rfl

private theorem spell_pieces_cons (character : Char) (rest : List Char) :
    spell (page.pieces (character :: rest)) = (page.bytes character).flatMap byteText ++ spell (page.pieces rest) := by
  rw [pieces, List.flatMap_cons, List.map_append, spell, List.flatMap_append, List.flatMap_map]
  simp only [spell_bytePiece]
  rfl

private theorem orcadEncoding_eq_some {written : List Char} (encoded : page.orcadEncoding text = some written) :
    page.Has text ∧ written = spell (page.pieces text) := by
  induction text generalizing written with
  | nil =>
    cases encoded
    exact ⟨nofun, rfl⟩
  | cons character rest ih =>
    rw [orcadEncoding] at encoded
    split at encoded
    · rename_i bytes onwards known later
      cases encoded
      obtain ⟨has, rfl⟩ := ih later
      have same : page.bytes character = bytes := by rw [CodePage.bytes, known, Option.getD_some]
      refine ⟨?_, ?_⟩
      · intro other member
        rcases List.mem_cons.mp member with rfl | among
        · rw [known, same]
        · exact has other among
      · rw [spell_pieces_cons, same]
    · cases encoded

private theorem byte_lt (known : page.encode character = some (page.bytes character)) :
    ∀ byte ∈ page.bytes character, byte < 256 := by
  intro byte member
  by_cases small : character.toNat < 128
  · rw [CodePage.bytes, page.ascii character small, Option.getD_some, List.mem_singleton] at member
    omega
  · obtain ⟨lead, trail, two, -, leadSmall, -, trailSmall⟩ := page.wide character _ (by omega) known
    rw [two] at member
    simp only [List.mem_cons, List.not_mem_nil, or_false] at member
    omega

private theorem proper_pieces (has : page.Has text) : ∀ piece ∈ page.pieces text, piece.Proper := by
  intro piece member
  obtain ⟨byte, among, rfl⟩ := List.mem_map.mp member
  obtain ⟨character, inside, among⟩ := List.mem_flatMap.mp among
  rw [bytePiece]
  split
  · rename_i plain
    have known : ∀ number < 128, Char.ofNat number = '%' → number = 37 := by decide
    exact fun percent => plain.2 (known byte plain.1 percent)
  · exact byte_lt (has character inside) byte among

private theorem gbk_bytes (has : page.Has text) (rest : List Nat) :
    (codec.gbk (text.flatMap page.bytes ++ rest)).toList = text ++ (codec.gbk rest).toList := by
  induction text with
  | nil => rfl
  | cons character text ih =>
    rw [List.flatMap_cons, List.append_assoc, page.decodes _ _ (has character List.mem_cons_self),
      ih fun other member => has other (List.mem_cons_of_mem _ member), List.cons_append]

private theorem bytes_ascii (small : character.toNat < 128) : page.bytes character = [character.toNat] := by
  rw [CodePage.bytes, page.ascii character small, Option.getD_some]

private theorem pieces_cons (character : Char) (rest : List Char) :
    page.pieces (character :: rest) = (page.bytes character).map bytePiece ++ page.pieces rest := by
  rw [pieces, List.flatMap_cons, List.map_append]
  rfl

private theorem pieces_plain (plain : ¬ Escaped character) (rest : List Char) :
    page.pieces (character :: rest) = .plain character :: page.pieces rest := by
  have small : character.toNat < 128 := Nat.lt_of_not_le fun large => plain (.inr large)
  have other : character.toNat ≠ 37 := by
    intro same
    refine plain (.inl ?_)
    rw [← Char.ofNat_toNat character, same]
  rw [pieces_cons, bytes_ascii small, List.map_singleton, bytePiece, if_pos ⟨small, other⟩, Char.ofNat_toNat,
    List.singleton_append]

private theorem pieces_run (known : page.encode character = some (page.bytes character))
    (escaped : Escaped character) (wide : page.StaysWide character) (rest : List Char) :
    page.pieces (character :: rest) = (page.bytes character).map Piece.escape ++ page.pieces rest := by
  rw [pieces_cons]
  refine congrArg (· ++ page.pieces rest) (List.map_congr_left ?_)
  intro byte member
  refine if_neg ?_
  rintro ⟨small, other⟩
  rcases escaped with rfl | large
  · rw [bytes_ascii (by decide), List.mem_singleton] at member
    exact other member
  · obtain ⟨lead, trail, two, leadLarge, -⟩ := page.wide character _ large known
    have trailLarge := wide _ known
    rw [two] at member trailLarge
    have := trailLarge trail List.mem_cons_self
    simp only [List.mem_cons, List.not_mem_nil, or_false] at member
    omega

private theorem pieces_narrow (known : page.encode character = some (page.bytes character))
    (narrow : ¬ page.StaysWide character) (rest : List Char) :
    128 ≤ character.toNat ∧ ∃ lead trail, 128 < lead ∧ lead < 256 ∧
      page.pieces (character :: rest) = .escape lead :: .plain trail :: page.pieces rest := by
  have large : 128 ≤ character.toNat := by
    refine Nat.le_of_not_lt fun small => narrow fun bytes found trail member => ?_
    rw [page.ascii character small] at found
    cases found
    cases member
  refine ⟨large, ?_⟩
  obtain ⟨lead, trail, two, leadLarge, leadSmall, trailLarge, -⟩ := page.wide character _ large known
  have trailSmall : trail < 128 := by
    refine Nat.lt_of_not_le fun wide => narrow fun bytes found other member => ?_
    rw [known, two] at found
    cases found
    rw [List.tail_cons, List.mem_singleton] at member
    omega
  refine ⟨lead, Char.ofNat trail, leadLarge, leadSmall, ?_⟩
  rw [pieces_cons, two, List.map_cons, List.map_singleton, bytePiece, if_neg (by omega), bytePiece,
    if_pos ⟨trailSmall, by omega⟩]
  rfl

private theorem decodePieces_escapes (pending bytes : List Nat) (rest : List Piece) :
    decodePieces codec pending (bytes.map Piece.escape ++ rest) = decodePieces codec (pending ++ bytes) rest := by
  induction bytes generalizing pending with
  | nil => rw [List.append_nil]; rfl
  | cons byte bytes ih =>
    rw [List.map_cons, List.cons_append, decodePieces, ih, List.append_assoc]
    rfl

private theorem flush_of_two {bytes : List Nat} (two : 2 ≤ bytes.length) :
    flush codec bytes = (codec.gbk bytes).toList := by
  match bytes, two with
  | first :: second :: bytes, _ => rfl

private theorem length_le_bytes (has : page.Has text) : text.length ≤ (text.flatMap page.bytes).length := by
  induction text with
  | nil => exact Nat.le_refl _
  | cons character text ih =>
    have later := ih fun other member => has other (List.mem_cons_of_mem _ member)
    have one : 1 ≤ (page.bytes character).length := by
      by_cases small : character.toNat < 128
      · rw [bytes_ascii small]
        exact Nat.le_refl _
      · obtain ⟨lead, trail, two, -⟩ := page.wide character _ (Nat.le_of_not_lt small) (has _ List.mem_cons_self)
        rw [two]
        exact Nat.le_succ 1
    rw [List.flatMap_cons, List.length_append, List.length_cons]
    omega

/-! ### What is decoded -/

/-- How the decoded text compares with the one that was written. -/
structure Outcome (text decoded : List Char) (kept : Prop) : Prop where
  same : kept → decoded = text
  different : ¬ kept → text.count '%' < decoded.count '%' ∨ Char.ofNat 0xFFFD ∈ decoded
  count_le : text.count '%' ≤ decoded.count '%'

private theorem Outcome.of_iff {decoded : List Char} {kept other : Prop} (iff : kept ↔ other)
    (outcome : Outcome text decoded kept) : Outcome text decoded other := by
  rw [← iff]
  exact outcome

private theorem Outcome.append {decoded text' decoded' : List Char} {kept kept' : Prop}
    (first : Outcome text decoded kept) (second : Outcome text' decoded' kept') :
    Outcome (text ++ character :: text') (decoded ++ character :: decoded') (kept ∧ kept') := by
  have firstLe := first.count_le
  have secondLe := second.count_le
  have total (left right : List Char) :
      (left ++ character :: right).count '%' = left.count '%' + right.count '%' + [character].count '%' := by
    rw [List.count_append, List.count_cons, List.count_singleton]
    omega
  constructor
  · rintro ⟨one, two⟩
    rw [first.same one, second.same two]
  · intro lost
    rw [total, total]
    by_cases one : kept
    · rcases second.different fun two => lost ⟨one, two⟩ with more | marked
      · exact .inl (by omega)
      · exact .inr (by simp [marked])
    · rcases first.different one with more | marked
      · exact .inl (by omega)
      · exact .inr (by simp [marked])
  · rw [total, total]
    omega

private theorem outcome_flush {run : List Char} (has : page.Has run) (escaped : ∀ character ∈ run, Escaped character) :
    Outcome run (flush codec (run.flatMap page.bytes)) (Accompanied run) := by
  refine Outcome.of_iff (accompanied_iff_of_escaped escaped).symm ?_
  by_cases alone : run = ['%']
  · subst alone
    have written : flush codec (['%'].flatMap page.bytes) = ['%', '3', '7', '%'] := by
      rw [List.flatMap_singleton, bytes_ascii (by decide)]
      rfl
    rw [written]
    exact ⟨fun several => absurd rfl several, fun _ => .inl (by decide), by decide⟩
  · have whole : flush codec (run.flatMap page.bytes) = run := by
      have decodes := gbk_bytes has []
      rw [List.append_nil, page.decodesNone, List.append_nil] at decodes
      rcases run with _ | ⟨character, rest⟩
      · rfl
      · refine (flush_of_two ?_).trans decodes
        have onwards := length_le_bytes fun other member => has other (List.mem_cons_of_mem character member)
        rw [List.flatMap_cons, List.length_append]
        rcases escaped character List.mem_cons_self with rfl | large
        · cases rest with
          | nil => exact absurd rfl alone
          | cons =>
            rw [List.length_cons] at onwards
            rw [bytes_ascii (by decide), List.length_singleton]
            omega
        · obtain ⟨lead, trail, two, -⟩ := page.wide character _ large (has _ List.mem_cons_self)
          rw [two, List.length_cons, List.length_singleton]
          omega
    rw [whole]
    exact ⟨fun _ => rfl, fun single => absurd alone single, Nat.le_refl _⟩

private theorem flush_narrow {run : List Char} (has : page.Has run) {lead : Nat} (large : 128 < lead)
    (small : lead < 256) :
    run.count '%' ≤ (flush codec (run.flatMap page.bytes ++ [lead])).count '%' ∧
      (run.count '%' < (flush codec (run.flatMap page.bytes ++ [lead])).count '%' ∨
        Char.ofNat 0xFFFD ∈ flush codec (run.flatMap page.bytes ++ [lead])) := by
  cases run with
  | nil =>
    have more : 0 < (spellByte lead).count '%' := by
      rw [spellByte, List.count_cons_self]
      exact Nat.succ_pos _
    exact ⟨Nat.zero_le _, .inl more⟩
  | cons character rest =>
    have long := length_le_bytes has
    rw [List.length_cons] at long
    have marked : flush codec ((character :: rest).flatMap page.bytes ++ [lead]) =
        character :: rest ++ [Char.ofNat 0xFFFD] := by
      rw [flush_of_two (by rw [List.length_append, List.length_singleton]; omega), gbk_bytes has,
        page.truncated lead large small]
    rw [marked, List.count_append]
    exact ⟨Nat.le_add_right _ _, .inr (by simp)⟩

private theorem outcome_decodePieces {run text : List Char} (hasRun : page.Has run)
    (escaped : ∀ character ∈ run, Escaped character) (has : page.Has text) :
    Outcome (run ++ text) (decodePieces codec (run.flatMap page.bytes) (page.pieces text))
      ((∀ character ∈ text, page.StaysWide character) ∧ Accompanied (run ++ text)) := by
  induction text generalizing run with
  | nil =>
    rw [List.append_nil]
    refine Outcome.of_iff ⟨fun kept => ⟨nofun, kept⟩, And.right⟩ ?_
    exact outcome_flush hasRun escaped
  | cons character text ih =>
    have known := has character List.mem_cons_self
    have later : page.Has text := fun other member => has other (List.mem_cons_of_mem _ member)
    by_cases wide : page.StaysWide character
    · by_cases inRun : Escaped character
      · -- the run grows by the bytes of the character
        have grown : page.Has (run ++ [character]) := by
          intro other member
          rcases List.mem_append.mp member with before | here
          · exact hasRun other before
          · rw [List.mem_singleton.mp here]
            exact known
        have onwards := @ih (run ++ [character]) grown (by
          intro other member
          rcases List.mem_append.mp member with before | here
          · exact escaped other before
          · rw [List.mem_singleton.mp here]
            exact inRun) later
        rw [List.flatMap_append, List.flatMap_singleton, List.append_assoc, List.singleton_append] at onwards
        rw [pieces_run known inRun wide, decodePieces_escapes]
        refine Outcome.of_iff ?_ onwards
        rw [List.forall_mem_cons, and_iff_right wide]
      · -- the run ends before the character
        have onwards := @ih [] nofun nofun later
        rw [pieces_plain inRun, decodePieces]
        refine Outcome.of_iff ?_ ((outcome_flush hasRun escaped).append onwards)
        rw [List.nil_append, List.forall_mem_cons, and_iff_right wide, accompanied_append_cons_iff inRun]
        exact and_left_comm
    · -- the run ends within the character
      obtain ⟨large, lead, trail, leadLarge, leadSmall, written⟩ := pieces_narrow known wide text
      have onwards := (@ih [] nofun nofun later).count_le
      obtain ⟨least, changed⟩ := flush_narrow hasRun leadLarge leadSmall
      have other : (character == '%') = false := by
        rw [beq_eq_false_iff_ne]
        rintro rfl
        exact absurd large (by decide)
      rw [written, decodePieces, decodePieces]
      rw [List.flatMap_nil, List.nil_append] at onwards
      constructor
      · exact fun kept => absurd (kept.1 character List.mem_cons_self) wide
      · intro _
        rcases changed with more | marked
        · refine .inl ?_
          rw [List.count_append, List.count_append, List.count_cons, List.count_cons, other]
          simp only [Bool.false_eq_true, if_false]
          omega
        · exact .inr (List.mem_append_left _ marked)
      · rw [List.count_append, List.count_append, List.count_cons, List.count_cons, other]
        simp only [Bool.false_eq_true, if_false]
        omega

/-! ### Texts that are restored -/

private theorem replaceEscapedPercent_decodePieces_iff (reads : codec.ReadsDigits) {written : List Char}
    (encoded : page.orcadEncoding text = some written) :
    replaceEscapedPercent (decodeRuns codec (written.length + 1) written) = text ↔ page.Restorable text := by
  obtain ⟨has, rfl⟩ := orcadEncoding_eq_some encoded
  have outcome := @outcome_decodePieces codec page [] text nofun nofun has
  rw [List.nil_append, List.flatMap_nil, ← decodeRuns_spell reads (proper_pieces has)] at outcome
  generalize decodeRuns codec ((spell (page.pieces text)).length + 1) (spell (page.pieces text)) = decoded at outcome
  by_cases kept : (∀ character ∈ text, page.StaysWide character) ∧ Accompanied text
  · rw [outcome.same kept, replaceEscapedPercent_eq_self_iff]
    exact ⟨fun absent => ⟨kept.1, kept.2, absent⟩, fun restorable => restorable.unreplaced⟩
  · refine ⟨fun same => ?_, fun restorable => absurd ⟨restorable.wide, restorable.accompanied⟩ kept⟩
    rcases outcome.different kept with more | marked
    · rw [← same, count_replaceEscapedPercent] at more
      exact absurd more (Nat.lt_irrefl _)
    · have inside := mem_replaceEscapedPercent marked (by decide) (by decide)
      rw [same] at inside
      have known := has _ inside
      rw [page.replacement] at known
      cases known

end CodePage

/-- A text that was written with escapes is decoded to itself exactly when every percent sign stands next to an escaped
character, no character has an ASCII byte after its first, and `37%` does not occur; a text without escapes exactly when
`37%` does not occur. Both parsers decode alike. -/
theorem decoding_restores_iff {codec : Codec} (reads : codec.ReadsDigits) (page : CodePage codec) :
    (∀ text written, page.orcadEncoding text = some written →
      (decodeOrcadText codec (String.ofList written) = String.ofList text ↔ page.Restorable text) ∧
      (decodeEdfText codec (some (String.ofList written)) = some (String.ofList text) ↔ page.Restorable text)) ∧
    ∀ text, ¬ HasEscape codec text →
      (decodeOrcadText codec (String.ofList text) = String.ofList text ↔ ¬ ['3', '7', '%'] <:+: text) ∧
      (decodeEdfText codec (some (String.ofList text)) = some (String.ofList text) ↔ ¬ ['3', '7', '%'] <:+: text) := by
  have shown (value text : List Char) : decodeOrcadText codec (String.ofList value) = String.ofList text ↔
      replaceEscapedPercent (decodeRuns codec (value.length + 1) value) = text := by
    rw [decodeOrcadText, String.toList_ofList, String.length_ofList, String.ofList_inj]
  have edf (value text : List Char) : decodeEdfText codec (some (String.ofList value)) = some (String.ofList text) ↔
      replaceEscapedPercent (decodeRuns codec (value.length + 1) value) = text := by
    rw [decodeEdfText, Option.map_some, Option.some_inj, shown]
  constructor
  · intro text written encoded
    rw [shown, edf]
    exact ⟨CodePage.replaceEscapedPercent_decodePieces_iff reads encoded,
      CodePage.replaceEscapedPercent_decodePieces_iff reads encoded⟩
  · intro text plain
    rw [shown, edf, decodeRuns_plain plain]
    exact ⟨replaceEscapedPercent_eq_self_iff text, replaceEscapedPercent_eq_self_iff text⟩

/-! ### A small code page -/

/-- A decoder with two characters of GBK. -/
def sampleDecode : List Nat → List Char
  | [] => []
  | [byte] => if byte < 128 then [Char.ofNat byte] else [Char.ofNat 0xFFFD]
  | first :: second :: rest =>
    if first < 128 then Char.ofNat first :: sampleDecode (second :: rest)
    else if first = 196 ∧ second = 227 then '你' :: sampleDecode rest
    else if first = 129 ∧ second = 64 then '丂' :: sampleDecode rest
    else Char.ofNat 0xFFFD :: sampleDecode (second :: rest)

def sampleCodec : Codec where
  gbk := fun bytes => String.ofList (sampleDecode bytes)
  decimal := fun character => if character.isDigit then some (character.toNat - '0'.toNat) else none

private theorem sampleCodec_readsDigits : sampleCodec.ReadsDigits where
  digit := fun _ digit => if_pos digit
  percent := by decide

private theorem sampleDecode_ascii {byte : Nat} (small : byte < 128) (rest : List Nat) :
    sampleDecode (byte :: rest) = Char.ofNat byte :: sampleDecode rest := by
  cases rest with
  | nil => simp only [sampleDecode, if_pos small]
  | cons => rw [sampleDecode, if_pos small]

def samplePage : CodePage sampleCodec where
  encode := fun character =>
    if character.toNat < 128 then some [character.toNat]
    else if character = '你' then some [196, 227]
    else if character = '丂' then some [129, 64]
    else none
  ascii := fun _ small => if_pos small
  wide := by
    intro character bytes large encoded
    rw [if_neg (Nat.not_lt.mpr large)] at encoded
    split at encoded
    · cases encoded
      exact ⟨196, 227, rfl, by decide⟩
    · split at encoded
      · cases encoded
        exact ⟨129, 64, rfl, by decide⟩
      · cases encoded
  replacement := by decide
  decodesNone := by decide
  decodes := by
    intro character bytes encoded rest
    simp only [sampleCodec, String.toList_ofList]
    split at encoded
    · rename_i small
      cases encoded
      rw [List.singleton_append, sampleDecode_ascii small, Char.ofNat_toNat]
    · split at encoded
      · rename_i same
        cases encoded
        rw [same]
        rfl
      · split at encoded
        · rename_i same
          cases encoded
          rw [same]
          rfl
        · cases encoded
  truncated := by
    intro lead large small
    simp only [sampleCodec, String.toList_ofList]
    rw [sampleDecode, if_neg (by omega)]

/-- A percent sign next to a wide character comes back, and so does a text without escapes. -/
theorem accompanied_percent_is_restored :
    decodeOrcadText sampleCodec (String.ofList ['%', '1', '9', '6', '%', '%', '2', '2', '7', '%', '%', '3', '7', '%']) =
      String.ofList ['你', '%'] ∧
    decodeOrcadText sampleCodec (String.ofList ['5', '%']) = String.ofList ['5', '%'] := by
  have restored := decoding_restores_iff sampleCodec_readsDigits samplePage
  constructor
  · refine (restored.1 ['你', '%'] _ (by decide)).1.mpr ⟨?_, ?_, by decide⟩
    · intro character member bytes encoded trail inside
      simp only [List.mem_cons, List.not_mem_nil, or_false] at member
      rcases member with rfl | rfl
      · cases (show some [196, 227] = some bytes from encoded)
        rw [List.tail_cons, List.mem_singleton] at inside
        omega
      · cases (show some [37] = some bytes from encoded)
        cases inside
    · refine (accompanied_iff_of_escaped ?_).mpr (by decide)
      intro character member
      simp only [List.mem_cons, List.not_mem_nil, or_false] at member
      rcases member with rfl | rfl
      · exact .inr (by decide)
      · exact .inl rfl
  · refine (restored.2 ['5', '%'] ?_).1.mpr (by decide)
    rintro ⟨before, digits, after, same, some, -⟩
    have percents := congrArg (List.count '%') same
    rw [List.count_append, List.count_cons_self, List.count_append, List.count_cons_self] at percents
    have one : ['5', '%'].count '%' = 1 := by decide
    omega

/-- `5%` is written with one escape, which is not decoded: the text comes back as `5%%`. And `137%`, which has no
escape, comes back as `1%`. -/
theorem lone_percent_is_doubled : samplePage.orcadEncoding ['5', '%'] = some ['5', '%', '3', '7', '%'] ∧
    decodeOrcadText sampleCodec (String.ofList ['5', '%', '3', '7', '%']) = String.ofList ['5', '%', '%'] ∧
    decodeOrcadText sampleCodec (String.ofList ['1', '3', '7', '%']) = String.ofList ['1', '%'] ∧
    ¬ (∀ text written, samplePage.orcadEncoding text = some written →
      decodeOrcadText sampleCodec (String.ofList written) = String.ofList text) := by
  have doubled : decodeOrcadText sampleCodec (String.ofList ['5', '%', '3', '7', '%']) =
      String.ofList ['5', '%', '%'] := by
    rw [decodeOrcadText, String.toList_ofList, String.length_ofList]
    refine congrArg String.ofList ?_
    decide
  refine ⟨by decide, doubled, ?_, fun every => ?_⟩
  · rw [decodeOrcadText, String.toList_ofList, String.length_ofList]
    refine congrArg String.ofList ?_
    decide
  · have same := every ['5', '%'] ['5', '%', '3', '7', '%'] (by decide)
    rw [doubled, String.ofList_inj] at same
    exact absurd same (by decide)

end HardwareDatabase.Circuit
