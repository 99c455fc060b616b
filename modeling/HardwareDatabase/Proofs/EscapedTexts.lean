/-
Module: HardwareDatabase.Proofs.EscapedTexts
Purpose: The decoding of texts of plain characters and escaped bytes: a run of two or more escapes is decoded as a
  whole, a single one is left as it is.
Trusted boundary: none
-/
import HardwareDatabase.Circuit.OrcadEdif
import Mathlib.Data.List.TakeWhile

namespace HardwareDatabase.Circuit

/-! ### Pieces -/

/-- The host knows the ASCII digits, and that the percent sign is none. -/
structure Codec.ReadsDigits (codec : Codec) : Prop where
  digit : ∀ character : Char, character.isDigit = true →
    codec.decimal character = some (character.toNat - '0'.toNat)
  percent : codec.decimal '%' = none

/-- A part of a written text. -/
inductive Piece
  | plain (character : Char)
  | escape (byte : Nat)
deriving Repr, DecidableEq

/-- A byte between percent signs. -/
def spellByte (byte : Nat) : List Char :=
  '%' :: (Nat.toDigits 10 byte ++ ['%'])

def Piece.spell : Piece → List Char
  | .plain character => [character]
  | .escape byte => spellByte byte

/-- The text of the pieces. -/
def spell (pieces : List Piece) : List Char :=
  pieces.flatMap Piece.spell

/-- A plain character is no percent sign, and an escape is that of a byte. -/
def Piece.Proper : Piece → Prop
  | .plain character => character ≠ '%'
  | .escape byte => byte < 256

/-- What a run of escapes is decoded to. -/
def flush (codec : Codec) : List Nat → List Char
  | [] => []
  | [byte] => spellByte byte
  | first :: second :: bytes => (codec.gbk (first :: second :: bytes)).toList

/-- What pieces are decoded to after the escapes of an open run. -/
def decodePieces (codec : Codec) : List Nat → List Piece → List Char
  | pending, [] => flush codec pending
  | pending, .plain character :: rest => flush codec pending ++ character :: decodePieces codec [] rest
  | pending, .escape byte :: rest => decodePieces codec (pending ++ [byte]) rest

/-! ### Runs in a text -/

section Runs

variable {codec : Codec}

theorem length_lt_of_encodedRun {fuel : Nat} {text left : List Char} {numbers : List Nat}
    (found : encodedRun codec fuel text = some (numbers, left)) : left.length < text.length := by
  induction fuel generalizing text numbers left with
  | zero => cases found
  | succ fuel ih =>
    have suffix : text.dropWhile (fun character => (codec.decimal character).isSome) <:+ text :=
      List.dropWhile_suffix _
    have shorter := suffix.length_le
    simp only [encodedRun] at found
    split at found
    · cases found
    · split at found
      · rename_i rest after
        rw [after, List.length_cons, List.length_cons] at shorter
        split at found
        · rename_i numbers' left' inner
          cases found
          have := ih inner
          omega
        · cases found
          rw [List.length_cons]
          omega
      · rename_i rest after
        rw [after, List.length_cons] at shorter
        cases found
        omega
      · cases found

theorem decodeRuns_fuel {fuel other : Nat} {text : List Char} (enough : text.length < fuel)
    (otherEnough : text.length < other) : decodeRuns codec fuel text = decodeRuns codec other text := by
  induction fuel generalizing other text with
  | zero => omega
  | succ fuel ih =>
    cases other with
    | zero => omega
    | succ other =>
      cases text with
      | nil => rfl
      | cons character rest =>
        rw [List.length_cons] at enough otherEnough
        have same := @ih other rest (by omega) (by omega)
        rw [decodeRuns, decodeRuns]
        split
        · split
          · rename_i numbers left found
            have shorter := length_lt_of_encodedRun found
            rw [same, @ih other left (by omega) (by omega)]
          · rw [same]
        · rw [same]

/-- `_ENCODED_GBK_RE.sub(replace, value)`. -/
def decoded (codec : Codec) (text : List Char) : List Char :=
  decodeRuns codec (text.length + 1) text

theorem decoded_cons {character : Char} (plain : character ≠ '%') (rest : List Char) :
    decoded codec (character :: rest) = character :: decoded codec rest := by
  rw [decoded, decodeRuns, if_neg plain]
  rfl

/-- No run of two numbers starts here. -/
def NoRun (codec : Codec) (text : List Char) : Prop :=
  ∀ numbers left, encodedRun codec (text.length + 1) text = some (numbers, left) → numbers.length < 2

theorem decoded_percent {rest : List Char} (short : NoRun codec rest) :
    decoded codec ('%' :: rest) = '%' :: decoded codec rest := by
  rw [decoded, decodeRuns, if_pos rfl]
  split
  · rename_i numbers left found
    rw [if_pos (short numbers left found)]
    rfl
  · rfl

theorem decoded_run {rest left : List Char} {numbers : List Nat}
    (found : encodedRun codec (rest.length + 1) rest = some (numbers, left)) (two : 2 ≤ numbers.length)
    (bytes : ∀ byte ∈ numbers, byte < 256) :
    decoded codec ('%' :: rest) = (codec.gbk numbers).toList ++ decoded codec left := by
  have all : (numbers.all fun code => decide (code < 256)) = true := by simpa using bytes
  have shorter := length_lt_of_encodedRun found
  rw [decoded, decodeRuns, if_pos rfl, found]
  dsimp only
  rw [if_neg (by omega), if_pos all, List.length_cons, decoded,
    @decodeRuns_fuel codec (rest.length + 1) (left.length + 1) left (by omega) (by omega)]

theorem decoded_append {plain : List Char} (none : ∀ character ∈ plain, character ≠ '%') (rest : List Char) :
    decoded codec (plain ++ rest) = plain ++ decoded codec rest := by
  induction plain with
  | nil => rfl
  | cons character plain ih =>
    rw [List.cons_append, decoded_cons (none character List.mem_cons_self),
      ih fun other member => none other (List.mem_cons_of_mem _ member), List.cons_append]

/-! ### Runs of pieces -/

section Spelled

variable (reads : codec.ReadsDigits)

include reads

theorem decimal_of_mem_toDigits (byte : Nat) :
    ∀ character ∈ Nat.toDigits 10 byte, codec.decimal character = some (character.toNat - '0'.toNat) := by
  intro character member
  exact reads.digit character (Nat.isDigit_of_mem_toDigits (by decide) (by decide) member)

theorem ne_percent_of_mem_toDigits (byte : Nat) : ∀ character ∈ Nat.toDigits 10 byte, character ≠ '%' := by
  rintro character member rfl
  have digit := decimal_of_mem_toDigits reads byte '%' member
  rw [reads.percent] at digit
  cases digit

theorem numberOf_toDigits (byte : Nat) : numberOf codec (Nat.toDigits 10 byte) = byte := by
  have same (digits : List Char) (start : Nat)
      (known : ∀ character ∈ digits, codec.decimal character = some (character.toNat - '0'.toNat)) :
      digits.foldl (fun value digit => 10 * value + (codec.decimal digit).getD 0) start =
        Nat.ofDigitChars 10 digits start := by
    rw [Nat.ofDigitChars_eq_foldl]
    induction digits generalizing start with
    | nil => rfl
    | cons digit digits ih =>
      rw [List.foldl_cons, List.foldl_cons, known digit List.mem_cons_self, Option.getD_some]
      exact ih _ fun character member => known character (List.mem_cons_of_mem _ member)
  rw [numberOf, same _ 0 (decimal_of_mem_toDigits reads byte), Nat.ofDigitChars_ten_toDigits]

theorem takeWhile_toDigits (byte : Nat) (rest : List Char) :
    (Nat.toDigits 10 byte ++ '%' :: rest).takeWhile (fun character => (codec.decimal character).isSome) =
      Nat.toDigits 10 byte := by
  rw [List.takeWhile_append_of_pos fun character member => by
    rw [decimal_of_mem_toDigits reads byte character member]; rfl,
    List.takeWhile_cons_of_neg (by rw [reads.percent]; exact Bool.false_ne_true), List.append_nil]

theorem dropWhile_toDigits (byte : Nat) (rest : List Char) :
    (Nat.toDigits 10 byte ++ '%' :: rest).dropWhile (fun character => (codec.decimal character).isSome) =
      '%' :: rest := by
  rw [List.dropWhile_append_of_pos fun character member => by
    rw [decimal_of_mem_toDigits reads byte character member]; rfl,
    List.dropWhile_cons_of_neg (by rw [reads.percent]; exact Bool.false_ne_true)]

theorem encodedRun_spelled (byte : Nat) (bytes : List Nat) {rest : List Char} (ends : rest.head? ≠ some '%')
    {fuel : Nat} (enough : bytes.length < fuel) :
    encodedRun codec fuel (Nat.toDigits 10 byte ++ '%' :: (bytes.flatMap spellByte ++ rest)) =
      some (byte :: bytes, rest) := by
  induction bytes generalizing byte fuel with
  | nil =>
    obtain ⟨fuel, rfl⟩ := Nat.exists_eq_add_of_lt enough
    rw [List.flatMap_nil, List.nil_append, List.length_nil, Nat.zero_add, encodedRun, takeWhile_toDigits reads,
      dropWhile_toDigits reads, numberOf_toDigits reads, if_neg (by simp [Nat.toDigits_ne_nil])]
    cases rest with
    | nil => rfl
    | cons first rest =>
      have different : first ≠ '%' := fun same => ends (congrArg some same)
      split
      · rename_i same
        cases same
        exact absurd rfl different
      · rename_i same
        cases same
        rfl
      · rename_i other
        exact absurd rfl (other (first :: rest))
  | cons next bytes ih =>
    rw [List.length_cons] at enough
    obtain ⟨fuel, rfl⟩ := Nat.exists_eq_add_of_lt enough
    have inner := @ih next (bytes.length + 1 + fuel) (by omega)
    have shape : (next :: bytes).flatMap spellByte ++ rest =
        '%' :: (Nat.toDigits 10 next ++ '%' :: (bytes.flatMap spellByte ++ rest)) := by
      rw [List.flatMap_cons, spellByte]
      simp
    rw [shape, encodedRun, takeWhile_toDigits reads, dropWhile_toDigits reads, numberOf_toDigits reads,
      if_neg (by simp [Nat.toDigits_ne_nil])]
    simp only [inner]

end Spelled

/-- No escape begins here. -/
def StartsPlain : List Piece → Prop
  | .escape _ :: _ => False
  | _ => True

theorem head?_spell_ne {pieces : List Piece} (proper : ∀ piece ∈ pieces, piece.Proper) (starts : StartsPlain pieces) :
    (spell pieces).head? ≠ some '%' := by
  cases pieces with
  | nil => nofun
  | cons piece =>
    cases piece with
    | plain =>
      intro same
      exact proper _ List.mem_cons_self (Option.some.inj same)
    | escape => exact absurd starts id

theorem exists_dropWhile_spell (reads : codec.ReadsDigits) (pieces : List Piece) :
    ∃ rest, (∀ piece ∈ rest, piece ∈ pieces) ∧
      (spell pieces).dropWhile (fun character => (codec.decimal character).isSome) = spell rest := by
  induction pieces with
  | nil => exact ⟨[], nofun, rfl⟩
  | cons piece pieces ih =>
    cases piece with
    | plain character =>
      obtain ⟨rest, within, dropped⟩ := ih
      by_cases numeric : (codec.decimal character).isSome
      · refine ⟨rest, fun piece member => List.mem_cons_of_mem _ (within piece member), ?_⟩
        rw [← dropped]
        exact List.dropWhile_cons_of_pos numeric
      · refine ⟨.plain character :: pieces, fun piece member => member, ?_⟩
        exact List.dropWhile_cons_of_neg numeric
    | escape byte =>
      refine ⟨.escape byte :: pieces, fun piece member => member, ?_⟩
      exact List.dropWhile_cons_of_neg (by rw [reads.percent]; exact Bool.false_ne_true)

theorem spell_escape (byte : Nat) (pieces : List Piece) :
    spell (.escape byte :: pieces) = '%' :: (Nat.toDigits 10 byte ++ '%' :: spell pieces) := by
  rw [spell, List.flatMap_cons, Piece.spell, spellByte, ← spell]
  simp

theorem spell_ne_two_percents (reads : codec.ReadsDigits) {pieces : List Piece}
    (proper : ∀ piece ∈ pieces, piece.Proper) (rest : List Char) : spell pieces ≠ '%' :: '%' :: rest := by
  intro same
  cases pieces with
  | nil => cases same
  | cons piece =>
    cases piece with
    | plain => exact proper _ List.mem_cons_self (List.cons.inj same).1
    | escape byte =>
      rw [spell_escape] at same
      have after := (List.cons.inj same).2
      cases digits : Nat.toDigits 10 byte with
      | nil => exact Nat.toDigits_ne_nil digits
      | cons digit =>
        rw [digits] at after
        have first : digit ∈ Nat.toDigits 10 byte := by rw [digits]; exact List.mem_cons_self
        exact ne_percent_of_mem_toDigits reads byte digit first (List.cons.inj after).1

theorem noRun_spell (reads : codec.ReadsDigits) {pieces : List Piece} (proper : ∀ piece ∈ pieces, piece.Proper) :
    NoRun codec (spell pieces) := by
  intro numbers left found
  obtain ⟨rest, within, dropped⟩ := exists_dropWhile_spell reads pieces
  simp only [encodedRun, dropped] at found
  split at found
  · cases found
  · split at found
    · rename_i more two
      exact absurd two (spell_ne_two_percents reads (fun piece member => proper piece (within piece member)) more)
    · cases found
      exact Nat.one_lt_two
    · cases found

theorem flatMap_spellByte_cons (byte : Nat) (bytes : List Nat) (rest : List Char) :
    (byte :: bytes).flatMap spellByte ++ rest =
      '%' :: (Nat.toDigits 10 byte ++ '%' :: (bytes.flatMap spellByte ++ rest)) := by
  rw [List.flatMap_cons, spellByte]
  simp

theorem length_le_flatMap_spellByte (bytes : List Nat) : bytes.length ≤ (bytes.flatMap spellByte).length := by
  induction bytes with
  | nil => exact Nat.le_refl _
  | cons =>
    rw [List.flatMap_cons, List.length_append, List.length_cons, spellByte, List.length_cons]
    omega

theorem decoded_flatMap_spellByte (reads : codec.ReadsDigits) {bytes : List Nat} (small : ∀ byte ∈ bytes, byte < 256)
    {pieces : List Piece} (proper : ∀ piece ∈ pieces, piece.Proper) (starts : StartsPlain pieces) :
    decoded codec (bytes.flatMap spellByte ++ spell pieces) = flush codec bytes ++ decoded codec (spell pieces) := by
  have ends := head?_spell_ne proper starts
  cases bytes with
  | nil => rfl
  | cons first bytes =>
    have long := length_le_flatMap_spellByte bytes
    have found := @encodedRun_spelled codec reads first bytes (spell pieces) ends
      ((Nat.toDigits 10 first ++ '%' :: (bytes.flatMap spellByte ++ spell pieces)).length + 1)
      (by rw [List.length_append, List.length_cons, List.length_append]; omega)
    rw [flatMap_spellByte_cons]
    cases bytes with
    | nil =>
      have short : NoRun codec (Nat.toDigits 10 first ++ '%' ::
        (([] : List Nat).flatMap spellByte ++ spell pieces)) := by
        intro numbers left other
        rw [found] at other
        cases other
        exact Nat.one_lt_two
      rw [decoded_percent short, decoded_append (ne_percent_of_mem_toDigits reads first), List.flatMap_nil,
        List.nil_append, decoded_percent (noRun_spell reads proper), flush, spellByte]
      simp
    | cons =>
      rw [decoded_run found (by rw [List.length_cons, List.length_cons]; omega) small, flush]

theorem decoded_spell_from (reads : codec.ReadsDigits) {pieces : List Piece} (proper : ∀ piece ∈ pieces, piece.Proper)
    {pending : List Nat} (small : ∀ byte ∈ pending, byte < 256) :
    decoded codec (pending.flatMap spellByte ++ spell pieces) = decodePieces codec pending pieces := by
  induction pieces generalizing pending with
  | nil =>
    rw [@decoded_flatMap_spellByte codec reads pending small [] proper trivial, decodePieces]
    exact List.append_nil _
  | cons piece pieces ih =>
    have later := fun piece member => proper piece (List.mem_cons_of_mem _ member)
    cases piece with
    | plain =>
      have onwards := @ih later [] nofun
      rw [List.flatMap_nil, List.nil_append] at onwards
      rw [decoded_flatMap_spellByte reads small proper trivial, decodePieces, ← onwards]
      exact congrArg _ (decoded_cons (proper _ List.mem_cons_self) _)
    | escape byte =>
      have onwards := @ih later (pending ++ [byte]) (by
        intro other member
        rcases List.mem_append.mp member with known | new
        · exact small other known
        · rw [List.mem_singleton.mp new]
          exact proper _ List.mem_cons_self)
      rw [List.flatMap_append, List.flatMap_singleton, List.append_assoc] at onwards
      exact onwards

/-- Decoding a written text is decoding its pieces. -/
theorem decodeRuns_spell (reads : codec.ReadsDigits) {pieces : List Piece} (proper : ∀ piece ∈ pieces, piece.Proper) :
    decodeRuns codec ((spell pieces).length + 1) (spell pieces) = decodePieces codec [] pieces :=
  @decoded_spell_from codec reads pieces proper [] nofun

end Runs

/-! ### Texts without escapes -/

/-- Somewhere digits stand between percent signs. -/
def HasEscape (codec : Codec) (text : List Char) : Prop :=
  ∃ before digits after, text = before ++ '%' :: (digits ++ '%' :: after) ∧ digits ≠ [] ∧
    ∀ digit ∈ digits, (codec.decimal digit).isSome

theorem decodeRuns_plain {codec : Codec} {fuel : Nat} {text : List Char} (plain : ¬ HasEscape codec text) :
    decodeRuns codec fuel text = text := by
  induction fuel generalizing text with
  | zero => rfl
  | succ fuel ih =>
    cases text with
    | nil => rfl
    | cons character rest =>
      have later : ¬ HasEscape codec rest := by
        rintro ⟨before, digits, after, rfl, some, numeric⟩
        exact plain ⟨character :: before, digits, after, rfl, some, numeric⟩
      rw [decodeRuns]
      split
      · rename_i percent
        split
        · rename_i numbers left found
          refine absurd ?_ plain
          have whole : rest.takeWhile (fun character => (codec.decimal character).isSome) ++
              rest.dropWhile (fun character => (codec.decimal character).isSome) = rest :=
            List.takeWhile_append_dropWhile
          have numeric : ∀ digit ∈ rest.takeWhile fun character => (codec.decimal character).isSome,
              (codec.decimal digit).isSome := fun digit member =>
              @List.mem_takeWhile_imp _ (fun character => (codec.decimal character).isSome) _ digit member
          simp only [encodedRun] at found
          split at found
          · cases found
          · rename_i digits
            have some : rest.takeWhile (fun character => (codec.decimal character).isSome) ≠ [] :=
              fun none => digits (by rw [none]; rfl)
            split at found
            · rename_i more closed
              rw [closed] at whole
              exact ⟨[], _, '%' :: more, by rw [percent, List.nil_append, whole], some, numeric⟩
            · rename_i more _ closed
              rw [closed] at whole
              exact ⟨[], _, more, by rw [percent, List.nil_append, whole], some, numeric⟩
            · cases found
        · rw [ih later]
      · rw [ih later]

end HardwareDatabase.Circuit
