/-
Module: HardwareDatabase.Proofs.SpanReplacement
Purpose: The replacement of a span of a paragraph: the text around it stays, however the text is cut into runs. The
  argument is about a loop on texts, as which the loop on runs reads.
Trusted boundary: none
-/
import HardwareDatabase.Attachments.DocxRevision
import Mathlib.Data.List.Basic

namespace HardwareDatabase.Attachments

open Python

variable {Format : Type}

/-! ### Texts of runs -/

@[simp] theorem toList_clip (limit : Nat) (text : String) : (clip limit text).toList = text.toList.take limit :=
  String.toList_ofList

@[simp] theorem toList_skip (count : Nat) (text : String) : (skip count text).toList = text.toList.drop count :=
  String.toList_ofList

@[simp] theorem toList_paragraphText_cons (run : Run Format) (rest : List (Run Format)) :
    (paragraphText (run :: rest)).toList = run.text.toList ++ (paragraphText rest).toList :=
  String.toList_append

/-- Where the text of a run starts in the text of its paragraph. -/
def runStart (runs : List (Run Format)) (index : Nat) : Nat :=
  (paragraphText (runs.take index)).length

/-- The text of a run lies before the span, after it, or is empty. -/
def Outside (start stop position : Nat) (run : Run Format) : Prop :=
  position + run.text.length ≤ start ∨ stop ≤ position ∨ run.text = ""

private theorem runStart_succ (run : Run Format) (rest : List (Run Format)) (index : Nat) :
    runStart (run :: rest) (index + 1) = run.text.length + runStart rest index := by
  rw [runStart, List.take_succ_cons, ← String.length_toList, toList_paragraphText_cons, List.length_append,
    String.length_toList, String.length_toList, runStart]

/-! ### The loop on texts

The same loop, on runs that hold every text. -/

variable {position : Nat}

section Loop

variable (start stop : Nat) (after : String)

/-- The loop, with a text for the text that is read again. -/
def spliceRuns : Nat → Bool → List (Run Format) → List (Run Format) × Bool
  | _, inserted, [] => ([], inserted)
  | position, inserted, run :: rest =>
    if position + run.text.length ≤ start ∨ stop ≤ position then
      let later := spliceRuns (position + run.text.length) inserted rest
      (run :: later.1, later.2)
    else
      let later := spliceRuns (position + run.text.length) true rest
      ({ run with text := replacedText start stop after position inserted run.text } :: later.1, later.2)

private theorem map_format_spliceRuns (position : Nat) (inserted : Bool) (runs : List (Run Format)) :
    (spliceRuns start stop after position inserted runs).1.map (fun run => run.format) =
      runs.map fun run => run.format := by
  induction runs generalizing position inserted with
  | nil => rfl
  | cons run rest ih =>
    rw [spliceRuns]
    split
    · rw [List.map_cons, ih, List.map_cons]
    · rw [List.map_cons, ih, List.map_cons]

private theorem spliceRuns_inserted (reached : start ≤ position) (runs : List (Run Format)) :
    (paragraphText (spliceRuns start stop after position true runs).1).toList =
        (paragraphText runs).toList.drop (stop - position) ∧
      (spliceRuns start stop after position true runs).2 = true := by
  induction runs generalizing position with
  | nil => exact ⟨by simp [spliceRuns, paragraphText], rfl⟩
  | cons run rest ih =>
    have onwards := @ih (position + run.text.length) (by omega)
    rw [spliceRuns]
    split
    · rename_i outside
      refine ⟨?_, onwards.2⟩
      rw [toList_paragraphText_cons, onwards.1, toList_paragraphText_cons, List.drop_append, String.length_toList]
      rcases outside with before | behind
      · have empty : run.text.toList = [] := by
          rw [← List.length_eq_zero_iff, String.length_toList]
          omega
        have length : run.text.length = 0 := by rw [← String.length_toList, empty, List.length_nil]
        rw [empty, length, List.drop_nil, Nat.add_zero, Nat.sub_zero]
      · have none : stop - position = 0 := by omega
        have noneLeft : stop - (position + run.text.length) = 0 := by omega
        rw [none, noneLeft, Nat.zero_sub, List.drop_zero, List.drop_zero]
    · rename_i inside
      refine ⟨?_, onwards.2⟩
      have localStart : max start position - position = 0 := by omega
      rw [toList_paragraphText_cons, onwards.1, toList_paragraphText_cons, List.drop_append, String.length_toList,
        replacedText, if_pos rfl, String.toList_append, toList_clip, toList_skip, localStart, List.take_zero,
        List.nil_append]
      congr 1
      · rcases Nat.le_total stop (position + run.text.length) with within | beyond
        · rw [Nat.min_eq_left within]
        · rw [Nat.min_eq_right beyond, List.drop_of_length_le (by rw [String.length_toList]; omega),
            List.drop_of_length_le (by rw [String.length_toList]; omega)]
      · rw [Nat.sub_sub]

private theorem spliceRuns_pending (runs : List (Run Format)) (early : position ≤ start)
    (nonempty : start < stop) (within : stop ≤ position + (paragraphText runs).length) :
    (paragraphText (spliceRuns start stop after position false runs).1).toList =
        (paragraphText runs).toList.take (start - position) ++ after.toList ++
          (paragraphText runs).toList.drop (stop - position) ∧
      (spliceRuns start stop after position false runs).2 = true := by
  induction runs generalizing position with
  | nil =>
    have none : (paragraphText ([] : List (Run Format))).length = 0 := rfl
    omega
  | cons run rest ih =>
    rw [← String.length_toList, toList_paragraphText_cons, List.length_append, String.length_toList,
      String.length_toList] at within
    rw [spliceRuns]
    split
    · rename_i outside
      have before : position + run.text.length ≤ start := by omega
      obtain ⟨text, done⟩ := ih before (by omega)
      have kept : run.text.toList.take (start - position) = run.text.toList :=
        List.take_of_length_le (by rw [String.length_toList]; omega)
      have gone : run.text.toList.drop (stop - position) = [] :=
        List.drop_of_length_le (by rw [String.length_toList]; omega)
      refine ⟨?_, done⟩
      rw [toList_paragraphText_cons, text, toList_paragraphText_cons, List.take_append, List.drop_append,
        String.length_toList, kept, gone, List.nil_append, Nat.sub_sub, Nat.sub_sub, List.append_assoc,
        List.append_assoc, List.append_assoc]
    · rename_i inside
      have reached : start ≤ position + run.text.length := by omega
      have later := spliceRuns_inserted start stop after reached rest
      refine ⟨?_, later.2⟩
      have localStart : max start position - position = start - position := by omega
      have noneLater : start - position - run.text.length = 0 := by omega
      rw [toList_paragraphText_cons, later.1, toList_paragraphText_cons, List.take_append, List.drop_append,
        String.length_toList, replacedText, if_neg Bool.false_ne_true, String.toList_append, String.toList_append,
        toList_clip, toList_skip, localStart, noneLater, List.take_zero, List.append_nil, List.append_assoc,
        Nat.sub_sub]
      congr 2
      rcases Nat.le_total stop (position + run.text.length) with short | beyond
      · rw [Nat.min_eq_left short]
      · rw [Nat.min_eq_right beyond, List.drop_of_length_le (by rw [String.length_toList]; omega),
          List.drop_of_length_le (by rw [String.length_toList]; omega)]

/-- The loop leaves the runs outside the span as they are, once `after` is inserted or while it is not due. -/
theorem spliceRuns_outside {inserted : Bool} (due : inserted = false → position ≤ start)
    (nonempty : start < stop) (runs : List (Run Format)) (index : Nat) (run : Run Format)
    (there : runs[index]? = some run) (outside : Outside start stop (position + runStart runs index) run) :
    (spliceRuns start stop after position inserted runs).1[index]? = some run := by
  induction runs generalizing position inserted index with
  | nil => simp at there
  | cons first rest ih =>
    cases index with
    | zero =>
      obtain rfl := Option.some.inj there
      have here : runStart (first :: rest) 0 = 0 := rfl
      rw [here, Nat.add_zero] at outside
      rw [spliceRuns]
      split
      · rfl
      · rename_i inside
        rcases outside with before | behind | empty
        · exact absurd (Or.inl before) inside
        · exact absurd (Or.inr behind) inside
        · -- An empty run strictly within the span comes after `after`.
          have length : first.text.length = 0 := by rw [empty]; rfl
          cases inserted with
          | false => exact absurd (Or.inl (by have := due rfl; omega)) inside
          | true =>
            cases first
            subst empty
            simp [replacedText, clip, skip]
    | succ index =>
      rw [runStart_succ, ← Nat.add_assoc] at outside
      rw [spliceRuns]
      split
      · rename_i apart
        refine ih ?_ index there outside
        intro pending
        have := due pending
        omega
      · exact @ih (position + first.text.length) true nofun index there outside

end Loop

/-! ### The loop on runs

A text that is cut from a run and the new text can be assigned if the new text can, and are read again as
they are if no carriage return is among them. -/

private theorem isRunText_append (left right : String) :
    isRunText (left ++ right) = (isRunText left && isRunText right) := by
  simp [isRunText, List.all_append]

variable {text : String}

private theorem isRunText_of_subset {part : String} (subset : part.toList ⊆ text.toList)
    (holds : isRunText text = true) : isRunText part = true := by
  rw [isRunText, List.all_eq_true] at holds ⊢
  exact fun character member => holds character (subset member)

private theorem lineFeeds_append (left right : String) :
    lineFeeds (left ++ right) = lineFeeds left ++ lineFeeds right := by
  apply String.toList_injective
  simp [lineFeeds]

private theorem lineFeeds_eq_self {part : String} (subset : part.toList ⊆ text.toList)
    (none : '\r' ∉ text.toList) : lineFeeds part = part := by
  apply String.toList_injective
  rw [lineFeeds, String.toList_ofList]
  conv_rhs => rw [← List.map_id part.toList]
  apply List.map_congr_left
  intro character member
  have other : character ≠ '\r' := by
    rintro rfl
    exact none (subset member)
  rw [if_neg other, id]

private theorem clip_subset (limit : Nat) (text : String) : (clip limit text).toList ⊆ text.toList := by
  rw [toList_clip]
  exact List.take_subset ..

private theorem skip_subset (count : Nat) (text : String) : (skip count text).toList ⊆ text.toList := by
  rw [toList_skip]
  exact List.drop_subset ..

section ReplacedText

variable (start stop : Nat) (after : String) (position : Nat) (inserted : Bool) {text : String}

private theorem isRunText_replacedText (plain : isRunText after = true) (readable : isRunText text = true) :
    isRunText (replacedText start stop after position inserted text) = true := by
  have before (limit : Nat) := isRunText_of_subset (clip_subset limit text) readable
  have behind (count : Nat) := isRunText_of_subset (skip_subset count text) readable
  rw [replacedText]
  split <;> simp only [isRunText_append, before, behind, plain, Bool.and_self]

private theorem lineFeeds_replacedText (none : '\r' ∉ text.toList) :
    lineFeeds (replacedText start stop after position inserted text) =
      replacedText start stop (lineFeeds after) position inserted text := by
  have before (limit : Nat) := lineFeeds_eq_self (clip_subset limit text) none
  have behind (count : Nat) := lineFeeds_eq_self (skip_subset count text) none
  rw [replacedText, replacedText]
  split <;> simp only [lineFeeds_append, before, behind]

end ReplacedText

/-- The span takes characters from the run, or lies within it. -/
def Cut (start stop position : Nat) (run : Run Format) : Prop :=
  start < position + run.text.length ∧ position < stop

/-- No run that the span cuts holds a carriage return. -/
def CutsNoReturn (start stop position : Nat) (runs : List (Run Format)) : Prop :=
  ∀ index run, runs[index]? = some run → Cut start stop (position + runStart runs index) run →
    '\r' ∉ run.text.toList

private theorem CutsNoReturn.tail {start stop : Nat} {run : Run Format} {rest : List (Run Format)}
    (held : CutsNoReturn start stop position (run :: rest)) :
    CutsNoReturn start stop (position + run.text.length) rest := by
  intro index other there cut
  refine held (index + 1) other there ?_
  rw [runStart_succ, ← Nat.add_assoc]
  exact cut

section Access

variable {R : Type} {access : RunText R Format} {start stop : Nat} {after : String}

/-- The loop on the runs reads as the loop on their texts, where the new text stands as it is read again. -/
theorem replaceRuns_reads (lawful : access.Lawful) (plain : isRunText after = true)
    (inserted : Bool) {runs : List R} (held : CutsNoReturn start stop position (runs.map access.read)) :
    ∃ result, replaceRuns access start stop after position inserted runs =
        .ok (result, (spliceRuns start stop (lineFeeds after) position inserted (runs.map access.read)).2) ∧
      result.map access.read =
        (spliceRuns start stop (lineFeeds after) position inserted (runs.map access.read)).1 := by
  induction runs generalizing position inserted with
  | nil => exact ⟨[], rfl, rfl⟩
  | cons run rest ih =>
    simp only [replaceRuns, List.map_cons, spliceRuns]
    split
    · obtain ⟨later, done, reads⟩ := ih inserted held.tail
      rw [done]
      exact ⟨run :: later, rfl, by rw [List.map_cons, reads]⟩
    · rename_i inside
      obtain ⟨later, done, reads⟩ := ih true held.tail
      have whole := held 0 _ rfl (by simp [Cut, runStart, paragraphText]; omega)
      obtain ⟨written, assigned, text⟩ := lawful.written run _
        (isRunText_replacedText start stop after position inserted plain (lawful.readable run))
      rw [assigned, done]
      refine ⟨written :: later, rfl, ?_⟩
      rw [List.map_cons, reads, text, lineFeeds_replacedText _ _ _ _ _ whole]

/-- A new text that XML cannot hold is refused by the first run that the span cuts. -/
theorem replaceRuns_refused (lawful : access.Lawful) (strange : isRunText after = false)
    {runs : List R} (early : position ≤ start) (nonempty : start < stop)
    (within : stop ≤ position + (access.textOf runs).length) :
    replaceRuns access start stop after position false runs = .error .notXml := by
  induction runs generalizing position with
  | nil =>
    have none : (access.textOf []).length = 0 := rfl
    omega
  | cons run rest ih =>
    rw [RunText.textOf, List.map_cons, ← String.length_toList, toList_paragraphText_cons, List.length_append,
      String.length_toList, String.length_toList] at within
    rw [replaceRuns]
    split
    · rw [ih (by omega) (by rw [RunText.textOf]; omega)]
      rfl
    · have refused := lawful.refused run
        (replacedText start stop after position false (access.read run).text)
        (by simp [replacedText, isRunText_append, strange])
      simp only [refused]

end Access

/-- The replacement of a non-empty span of the text by a text that runs can hold leaves the text before and
after it, the texts of all runs outside it and all formats; the new text is read with line feeds for its
carriage returns. Any other text is refused. -/
theorem span_is_replaced {R : Type} (access : RunText R Format) (lawful : access.Lawful) (runs : List R)
    (start stop : Nat) (after : String) (nonempty : start < stop) (within : stop ≤ (access.textOf runs).length)
    (held : CutsNoReturn start stop 0 (runs.map access.read)) :
    (isRunText after = true → ∃ result, replaceSpan access runs start stop after = .ok result ∧ access.textOf result =
        clip start (access.textOf runs) ++ lineFeeds after ++ skip stop (access.textOf runs) ∧
      (∀ index run, runs[index]? = some run →
        Outside start stop (runStart (runs.map access.read) index) (access.read run) →
          (result.map access.read)[index]? = some (access.read run)) ∧
      result.map (fun run => (access.read run).format) = runs.map fun run => (access.read run).format) ∧
    (isRunText after = false → replaceSpan access runs start stop after = .error .notXml) := by
  constructor
  · intro plain
    obtain ⟨result, done, reads⟩ := replaceRuns_reads lawful plain false held
    obtain ⟨text, inserted⟩ := spliceRuns_pending start stop (lineFeeds after) (runs.map access.read)
      (Nat.zero_le start) nonempty (by rw [Nat.zero_add]; exact within)
    rw [inserted] at done
    refine ⟨result, ?_, ?_, ?_, ?_⟩
    · rw [replaceSpan, done]
    · apply String.toList_injective
      rw [RunText.textOf, reads, text]
      simp [RunText.textOf]
    · intro index run there outside
      rw [reads]
      refine spliceRuns_outside start stop _ (fun _ => Nat.zero_le _) nonempty _ index _ ?_ ?_
      · rw [List.getElem?_map, there, Option.map_some]
      · rw [Nat.zero_add]
        exact outside
    · have formats := map_format_spliceRuns start stop (lineFeeds after) 0 false (runs.map access.read)
      rw [← reads, List.map_map, List.map_map] at formats
      exact formats
  · intro strange
    rw [replaceSpan, replaceRuns_refused lawful strange (Nat.zero_le start) nonempty
      (by rw [Nat.zero_add]; exact within)]

/-! ### A paragraph -/

/-- A run that holds its text. -/
structure StoredRun where
  run : Run Nat
  storable : isRunText run.text = true

private theorem isRunText_lineFeeds (holds : isRunText text = true) : isRunText (lineFeeds text) = true := by
  simp only [isRunText, lineFeeds, String.toList_ofList, List.all_map, List.all_eq_true] at holds ⊢
  intro character member
  by_cases same : character = '\r'
  · simp [same]
  · simpa [same] using holds character member

/-- Runs that store what is assigned to them. -/
def storedRuns : RunText StoredRun Nat where
  read stored := stored.run
  write stored text :=
    if holds : isRunText text = true then
      some ⟨{ stored.run with text := lineFeeds text }, isRunText_lineFeeds holds⟩
    else none

private theorem storedRuns_lawful : storedRuns.Lawful where
  readable stored := stored.storable
  written stored text holds := ⟨_, dif_pos holds, rfl⟩
  refused stored text strange := dif_neg (by simp [strange])

/-- The text "R12 is 10k ohm." in five runs. -/
def sampleRuns : List StoredRun :=
  [⟨⟨"R12 is ", 1⟩, by decide⟩, ⟨⟨"10", 2⟩, by decide⟩, ⟨⟨"", 3⟩, by decide⟩, ⟨⟨"k ohm", 4⟩, by decide⟩,
    ⟨⟨".", 5⟩, by decide⟩]

/-- A span across three runs. -/
theorem value_across_runs_is_replaced : ∃ result, replaceSpan storedRuns sampleRuns 7 10 "22k" = .ok result ∧
      storedRuns.textOf result = "R12 is 22k ohm." := by
  have held : CutsNoReturn 7 10 0 (sampleRuns.map storedRuns.read) := by
    intro index run there _
    have plain : ∀ run ∈ sampleRuns.map storedRuns.read, '\r' ∉ run.text.toList := by decide +kernel
    exact plain run (List.mem_of_getElem? there)
  obtain ⟨result, done, text, -⟩ := (span_is_replaced storedRuns storedRuns_lawful sampleRuns 7 10 "22k"
    (by decide) (by decide +kernel) held).1 (by decide)
  exact ⟨result, done, text.trans (by decide +kernel)⟩

/-- A vertical tab, which word processors copy for a manual line break, cannot be assigned. -/
theorem vertical_tab_is_refused :
    ¬ ∀ (R Format : Type) (access : RunText R Format), access.Lawful → ∀ (runs : List R) (start stop : Nat)
        (after : String), start < stop → stop ≤ (access.textOf runs).length →
      ∃ result, replaceSpan access runs start stop after = .ok result ∧
        access.textOf result = clip start (access.textOf runs) ++ after ++ skip stop (access.textOf runs) := by
  intro always
  obtain ⟨result, done, -⟩ := always _ _ storedRuns storedRuns_lawful sampleRuns 7 10 "22\x0bk" (by decide)
    (by decide +kernel)
  revert done
  rw [show replaceSpan storedRuns sampleRuns 7 10 "22\x0bk" = .error .notXml by rfl]
  exact nofun

end HardwareDatabase.Attachments
