/-
Module: HardwareDatabase.Proofs.MemoryPages
Purpose: When the pages of a memory listing make up the listing: a page reads the first 500 rows of a scope only.
Trusted boundary: none
-/
import HardwareDatabase.Memory.Listing
import HardwareDatabase.Relational.Paging
import HardwareDatabase.Relational.Table
import Mathlib.Data.List.Flatten

namespace HardwareDatabase.Memory

open Python Relational Relational.Paging

variable {texts : Texts} {tables : Tables} {request : ListRequest} {scopes : List Scope}

/-! ### The listing -/

/-- The visible records that match, in the order of the listing. -/
def matchesOf (texts : Texts) (tables : Tables) (request : ListRequest) (scopes : List Scope) : List Record :=
  scopes.flatMap fun scope =>
    (orderedRecords tables scope request.status.statuses).filter (keeps texts tables request.query)

/-- The matches among the first rows of each scope. -/
def earlyMatches (texts : Texts) (tables : Tables) (request : ListRequest) (scopes : List Scope) (rows : Nat) :
    List Record :=
  scopes.flatMap fun scope =>
    ((orderedRecords tables scope request.status.statuses).take rows).filter (keeps texts tables request.query)

/-- The pages for the cursors 0, `size`, twice `size` and so on until an empty one have the listed records, each
once and in their order. -/
def ListsAll (texts : Texts) (tables : Tables) (request : ListRequest) (size : Nat) (listed : List Record) : Prop :=
  let page (number : Nat) := listMemories texts tables
    { request with limit := size, cursor := some ((number * size : Nat) : Int) }
  ∃ pages : List (List Record), pages.flatten = listed ∧ (∀ rows ∈ pages, rows ≠ []) ∧
    (∀ number rows, pages[number]? = some rows → page number = .ok rows) ∧ page pages.length = .ok []

/-- How many rows of a scope a page reads. -/
def readRows (size number : Nat) : Nat :=
  min 500 (number * size + min size 200)

private theorem listMemories_page (allowed : scopesOf request = .ok scopes) (plain : request.offset = 0) {size : Nat}
    (positive : 0 < size) (number : Nat) :
    listMemories texts tables { request with limit := size, cursor := some ((number * size : Nat) : Int) } =
      .ok (pageOf (fun number => earlyMatches texts tables request scopes (readRows size number)) size (min size 200)
        number) := by
  have shown : (max 1 (min (size : Int) 200)).toNat = min size 200 := by omega
  have start : (max 0 ((number * size : Nat) : Int)).toNat = number * size := by omega
  have fetched : (max 1 (min (max (max 1 (min (size : Int) 200))
      (min 500 (max 1 (min (size : Int) 200) + ((number * size : Nat) : Int)))) 500)).toNat = readRows size number := by
    rw [readRows]
    omega
  have same : scopesOf { request with limit := size, cursor := some ((number * size : Nat) : Int) } = .ok scopes :=
    allowed
  rw [listMemories, same]
  simp only [bind, Except.bind, pure, Except.pure, Option.getD_some, shown, start, listRecords, plain, fetched,
    pageOf, earlyMatches]
  rfl

/-! ### The windows -/

private theorem nodup_orderedRecords (keys : (tables.records.map Record.memoryId).Nodup) (scope : Scope)
    (statuses : List RecordStatus) : (orderedRecords tables scope statuses).Nodup :=
  (List.mergeSort_perm _ _).nodup_iff.mpr ((List.Nodup.of_map _ keys).filter _)

private theorem scope_of_mem {scope : Scope} {statuses : List RecordStatus} {record : Record}
    (member : record ∈ orderedRecords tables scope statuses) : record.scope = scope := by
  have kept := List.of_mem_filter ((List.mergeSort_perm _ _).mem_iff.mp member)
  simp only [Bool.and_eq_true, beq_iff_eq] at kept
  exact kept.1

private theorem authorized_eq_ok {asked : Bool} {scope : Option Scope} (allowed : authorized asked scope = .ok scopes) :
    scopes = [] ∨ ∃ named, scope = some named ∧ scopes = [named] := by
  cases scope with
  | some named =>
    cases allowed
    exact Or.inr ⟨named, rfl, rfl⟩
  | none =>
    cases asked with
    | true => cases allowed
    | false =>
      cases allowed
      exact Or.inl rfl

private theorem nodup_scopes (allowed : scopesOf request = .ok scopes) : scopes.Nodup := by
  obtain ⟨own, first, rest⟩ := exists_of_bind_eq_ok allowed
  obtain ⟨shared, second, made⟩ := exists_of_bind_eq_ok rest
  cases made
  have ownCase : own = [] ∨ ∃ userId, own = [.user userId] := by
    rw [userScopes] at first
    split at first
    · exact Or.inl (by cases first; rfl)
    · rcases authorized_eq_ok first with none | ⟨named, given, one⟩
      · exact Or.inl none
      · obtain ⟨userId, -, rfl⟩ := Option.map_eq_some_iff.mp given
        exact Or.inr ⟨userId, one⟩
  have sharedCase : shared = [] ∨ ∃ departmentId kbId, shared = [.project departmentId kbId] := by
    rw [projectScopes] at second
    split at second
    · exact Or.inl (by cases second; rfl)
    · rcases authorized_eq_ok second with none | ⟨named, given, one⟩
      · exact Or.inl none
      · obtain ⟨place, -, rfl⟩ := Option.map_eq_some_iff.mp given
        exact Or.inr ⟨_, _, one⟩
  rcases ownCase with rfl | ⟨userId, rfl⟩ <;> rcases sharedCase with rfl | ⟨departmentId, kbId, rfl⟩ <;> simp

private theorem windows_earlyMatches (keys : (tables.records.map Record.memoryId).Nodup)
    (allowed : scopesOf request = .ok scopes) (size : Nat) : Windows (matchesOf texts tables request scopes)
      (fun number => earlyMatches texts tables request scopes (readRows size number)) where
  nodup := by
    refine List.nodup_flatMap.mpr ⟨fun scope _ => (nodup_orderedRecords keys scope _).filter _, ?_⟩
    refine (nodup_scopes allowed).imp fun different record first second => different ?_
    rw [← scope_of_mem (List.mem_of_mem_filter first), scope_of_mem (List.mem_of_mem_filter second)]
  part number := by
    refine List.Sublist.flatMap_right scopes fun scope _ => ?_
    exact (List.take_sublist _ _).filter _
  grows := by
    intro earlier later before record member
    have more : readRows size earlier ≤ readRows size later := by
      have moves := Nat.mul_le_mul_right size before
      rw [readRows, readRows]
      omega
    obtain ⟨scope, listed, early⟩ := List.mem_flatMap.mp member
    refine List.mem_flatMap.mpr ⟨scope, listed, ?_⟩
    obtain ⟨there, kept⟩ := List.mem_filter.mp early
    exact List.mem_filter.mpr ⟨(List.take_subset_take_left _ more) there, kept⟩

private theorem mem_earlyMatches {record : Record} (listed : record ∈ matchesOf texts tables request scopes)
    {rows : Nat} :
    record ∈ earlyMatches texts tables request scopes rows ↔
      ∃ scope ∈ scopes, record ∈ (orderedRecords tables scope request.status.statuses).take rows := by
  obtain ⟨_, -, there⟩ := List.mem_flatMap.mp listed
  have kept := (List.mem_filter.mp there).2
  rw [earlyMatches, List.mem_flatMap]
  simp only [List.mem_filter, kept, and_true]

/-! ### Complete listings -/

/-- The pages of a listing make up its matches when the step to the next cursor is not larger than a page, or one
page has them all, and the matches of each page and of those before it are among the rows that the page reads. -/
theorem pages_are_complete_iff (keys : (tables.records.map Record.memoryId).Nodup)
    (allowed : scopesOf request = .ok scopes) (plain : request.offset = 0) {size : Nat} (positive : 0 < size) :
    ListsAll texts tables request size (matchesOf texts tables request scopes) ↔
      (size ≤ 200 ∨ (matchesOf texts tables request scopes).length ≤ 200) ∧
        ∀ number, number * size < (matchesOf texts tables request scopes).length →
          ∀ record ∈ (matchesOf texts tables request scopes).take (number * size + min size 200),
            ∃ scope ∈ scopes, record ∈
              (orderedRecords tables scope request.status.statuses).take (min 500 (number * size + min size 200)) := by
  have windows := @windows_earlyMatches texts tables request scopes keys allowed size
  have read := windows.reads_iff (Nat.lt_min.mpr ⟨positive, by decide⟩) (Nat.min_le_left size 200)
  have listing : ListsAll texts tables request size (matchesOf texts tables request scopes) ↔
      ∃ pages, Reads (pageOf (fun number => earlyMatches texts tables request scopes (readRows size number)) size
        (min size 200)) pages ∧ pages.flatten = matchesOf texts tables request scopes := by
    rw [ListsAll]
    simp only [listMemories_page allowed plain positive, Except.ok.injEq]
    exact ⟨fun ⟨pages, all, filled, each, last⟩ => ⟨pages, ⟨each, filled, last⟩, all⟩,
      fun ⟨pages, reads, all⟩ => ⟨pages, all, reads.filled, reads.each, reads.last⟩⟩
  rw [listing, read]
  refine and_congr (by omega) (forall₂_congr fun number _ => forall₂_congr fun record member => ?_)
  exact mem_earlyMatches (List.mem_of_mem_take member)

/-! ### A match that is not listed -/

/-- A project memory with a text. -/
def projectMemory (memoryId : Nat) (text : String) : Record where
  memoryId
  scope := .project "d" "k"
  status := .verified
  currentRevision := 1
  contentHash := ""
  memoryType := "fact"
  title := ""
  subject := none
  content := .semantic { memoryType := "fact", title := "", content := text, subject := none, attributes := "" }
  replacementId := none
  updatedAt := 0
  deletedAt := none

/-- A catalog with two memories of a project. -/
def twoMemories : Tables :=
  { Tables.empty with records := [projectMemory 1 "a", projectMemory 2 "b"] }

/-- A search for the second one. -/
def searchRequest (query : String) : ListRequest where
  userId := none
  project := some ("d", "k")
  query

/-- The text of a content. -/
def contentTexts : Texts where
  lower := id
  dumps
    | .redacted => "{}"
    | .semantic value => value.content

private theorem ordered_twoMemories :
    orderedRecords twoMemories (.project "d" "k") StatusFilter.active.statuses = twoMemories.records :=
  List.mergeSort_of_pairwise (by decide +kernel)

/-- Both memories stand on the first page. -/
theorem one_page_lists_all : ListsAll contentTexts twoMemories (searchRequest "") 2
        (matchesOf contentTexts twoMemories (searchRequest "") [.project "d" "k"]) ↔
      (2 ≤ 200 ∨ (matchesOf contentTexts twoMemories (searchRequest "") [.project "d" "k"]).length ≤ 200) ∧
        ∀ number, number * 2 < (matchesOf contentTexts twoMemories (searchRequest "") [.project "d" "k"]).length →
          ∀ record ∈ (matchesOf contentTexts twoMemories (searchRequest "") [.project "d" "k"]).take
              (number * 2 + min 2 200), ∃ scope ∈ [Scope.project "d" "k"], record ∈
            (orderedRecords twoMemories scope StatusFilter.active.statuses).take (min 500 (number * 2 + min 2 200)) :=
  pages_are_complete_iff (by decide) rfl rfl (by decide)

/-- In pages of one row the first page reads the memory that does not match, and is empty. -/
theorem late_match_is_not_listed : ¬ ListsAll contentTexts twoMemories (searchRequest "b") 1
      (matchesOf contentTexts twoMemories (searchRequest "b") [.project "d" "k"]) := by
  rintro ⟨pages, all, filled, each, -⟩
  have one : matchesOf contentTexts twoMemories (searchRequest "b") [.project "d" "k"] = [projectMemory 2 "b"] := by
    rw [matchesOf, List.flatMap_singleton]
    change ((orderedRecords twoMemories (.project "d" "k") StatusFilter.active.statuses).filter _) = _
    rw [ordered_twoMemories]
    decide +kernel
  rw [one] at all
  cases pages with
  | nil => cases all
  | cons rows =>
    have first := each 0 rows rfl
    have empty := @listMemories_page contentTexts twoMemories (searchRequest "b") [.project "d" "k"] rfl rfl 1
      (by decide) 0
    have same := empty.symm.trans first
    have none : earlyMatches contentTexts twoMemories (searchRequest "b") [.project "d" "k"] 1 = [] := by
      rw [earlyMatches, List.flatMap_singleton]
      change (((orderedRecords twoMemories (.project "d" "k") StatusFilter.active.statuses).take 1).filter _) = _
      rw [ordered_twoMemories]
      decide +kernel
    refine filled rows List.mem_cons_self ?_
    rw [← Except.ok.inj same]
    exact congrArg (fun found => (List.drop (0 * 1) found).take (min 1 200)) none

end HardwareDatabase.Memory
