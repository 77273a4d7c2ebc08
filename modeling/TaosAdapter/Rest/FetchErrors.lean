import TaosAdapter.Async.Exec
import TaosAdapter.Rest.Response

/-!
Owns: what becomes of a fetch that answers with an error, in the two loops that
fetch the result of a query.

Neither loop has a way to report it. The loop over blocks ends as if the result
were complete, and the answer says code 0 and how many rows it holds. The loop
over rows takes the negative count for a fetch without rows and goes on; it
returns an error only if a row is missing later on.
-/

namespace TaosAdapter.Rest

open Lib Driver JsonBuilder Async List

structure RestFetches (query : Query) where
  blocks : List (ReadyBlock query)
  results : List FetchResult
  ending : Ending results

section

variable {query : Query} (fetches : RestFetches query)

def RestFetches.answers : List FetchResult :=
  fetches.blocks.map ReadyBlock.answer ++ fetches.results

/-- If a fetch that was made answers with an error, the response is not the one of a
complete result with code 0. -/
def RestTells : Prop :=
  ∀ state, query.execute fetches.answers = .ok state →
    (∃ k < state.fetches, ∃ result : FetchResult,
      fetches.answers[k]? = some result ∧ result.n < 0) →
        ¬ ∃ rows, JsonDocument (query.response rows) state.builder.out

def NoErrorFetched : Prop :=
  (∀ result ∈ fetches.results.head?, 0 ≤ result.n) ∨
    ¬ query.Room (rowCountOf fetches.blocks)

variable (fetches : RestFetches query)

theorem RestFetches.answers_end :
    fetches.answers[fetches.blocks.length]? = fetches.results.head? := by
  rw [RestFetches.answers, List.getElem?_append_right (by simp), length_map, Nat.sub_self,
    List.head?_eq_getElem?]

theorem RestFetches.positive_of_block {k : Nat} {res : FetchResult}
    (isBlock : k < fetches.blocks.length) (found : fetches.answers[k]? = some res) : 0 < res.n := by
  rw [RestFetches.answers, List.getElem?_append_left (by simpa using isBlock),
    List.getElem?_map] at found
  obtain ⟨ready, _, rfl⟩ := Option.map_eq_some_iff.mp found
  have pos := ready.positive
  show (0 : Int) < ready.n
  omega

theorem restTells_iff : RestTells fetches ↔ NoErrorFetched fetches := by
  obtain ⟨state, executed, out, made⟩ := execute_eq fetches.blocks fetches.ending
  constructor
  · intro tells
    by_contra neither
    obtain ⟨someError, room⟩ := not_or.mp neither
    obtain ⟨res, rest⟩ := not_forall.mp someError
    obtain ⟨isHead, negative⟩ := Classical.not_imp.mp rest
    have isMade : fetches.blocks.length < state.fetches := by
      rw [made, take_length]
      exact ⟨Nat.le_refl _, not_not.mp room⟩
    have found : fetches.answers[fetches.blocks.length]? = some res :=
      fetches.answers_end.trans isHead
    refine tells state executed ⟨_, isMade, res, found, by omega⟩
      ⟨query.firstRows (allRows fetches.blocks), ?_⟩
    rw [out]
    exact element_response (forall₂_firstRows fetches.blocks)
  · rintro fine state' executed' ⟨k, isMade, res, found, negative⟩
    rw [RestFetches.answers, executed] at executed'
    cases executed'
    obtain ⟨isIndex, room⟩ := (made k).mp isMade
    rcases Nat.lt_or_eq_of_le isIndex with isBlock | rfl
    · exact absurd (fetches.positive_of_block isBlock found) (by omega)
    · rw [take_length] at room
      rw [fetches.answers_end] at found
      rcases fine with noError | noRoom
      · exact absurd (noError res found) (by omega)
      · exact absurd room noRoom

end

/-- The caller of either loop is told of an error exactly if there is none, or the
loop over rows meets a missing row, or the loop over blocks the limit, before
the result ends. -/
theorem fetch_error_told_iff {Row Value : Type} (res : TaosResult Row Value) (query : Query)
    (fetches : RestFetches query) :
    (ExecTells res ↔ NoErrorOrMissing res) ∧ (RestTells fetches ↔ NoErrorFetched fetches) :=
  ⟨execTells_iff res, restTells_iff fetches⟩

def flagQuery : Query where
  rowsHeader := [⟨"open", TSDB_DATA_TYPE_BOOL, 1⟩, ⟨"locked", TSDB_DATA_TYPE_BOOL, 1⟩]
  hasColumns := by simp
  precision := 0
  formatting := zeroFormatting
  restfulRowLimit := -1
  returnObj := false
  timing := none

/-- Two rows of two columns; in the first row `locked` is null. -/
def flagBlock : ReadyBlock flagQuery where
  n := 2
  positive := by decide
  block := List.replicate 38 0 ++ [2, 0, 0, 0, 2, 0, 0, 0] ++ [0, 1, 0] ++ [128, 0, 1]
  lengths := by decide
  value row column := if row < column then .null else .bool (row = column)
  text row column := if row < column then ascii "null" else ascii (toString (row == column))
  written row isRow column header found := by
    match row, column with
    | 0, 0 | 1, 1 =>
      cases found
      exact ⟨JsonText.true.element, fun _ _ => rfl⟩
    | 0, 1 =>
      cases found
      exact ⟨JsonText.null.element, fun _ _ => rfl⟩
    | 1, 0 =>
      cases found
      exact ⟨JsonText.false.element, fun _ _ => rfl⟩
    | _, _ + 2 => cases found
    | _ + 2, _ => omega

def flagFetches : RestFetches flagQuery where
  blocks := [flagBlock]
  results := [⟨-1, []⟩]
  ending := by
    rintro result isHead
    cases isHead
    decide

/-- A result whose fetches have these counts, one after the other, and then the last
one for ever, and whose rows are all there. -/
def countsResult (counts : List Int) (last : Int) : TaosResult Unit Unit where
  code := 0
  errStr := ""
  isUpdate := false
  affectedRows := 0
  colTypes := .ok [TSDB_DATA_TYPE_BOOL]
  fetch i := ⟨counts.getD i last, fun _ => some ()⟩
  value _ _ _ := ()

variable {counts : List Int} {last : Int}

theorem goesOn_counts {k : Nat} (notZero : counts.getD k last ≠ 0) (colTypes : List Nat) :
    GoesOn colTypes ((countsResult counts last).fetch k) := by
  refine ⟨notZero, ?_⟩
  rintro ⟨_, _, _, missing⟩
  cases missing

theorem not_execTells_counts {k : Nat} (notZero : ∀ i < k, counts.getD i last ≠ 0)
    (negative : counts.getD k last < 0) : ¬ ExecTells (countsResult counts last) := by
  rw [execTells_iff]
  rintro (noErrors | ⟨_, _, _, _, _, _, _, missing⟩)
  · have made : FetchMade (countsResult counts last) k :=
      ⟨rfl, rfl, _, rfl, fun i before => goesOn_counts (notZero i before) _⟩
    exact absurd (noErrors k made) (Int.not_le.mpr negative)
  · cases missing

/-- An error behind the first block: the response has code 0 and its rows, and the rows come
back without an error if the result then ends, and never if it does not. -/
theorem fetch_error_not_told :
    ¬ RestTells flagFetches ∧
    (∃ result, taosExec 3 (countsResult [1, -1] 0) = some (.ok result)) ∧
    ¬ ExecTells (countsResult [1, -1] 0) ∧
    (∀ fuel, taosExec fuel (countsResult [] (-1)) = none) ∧
    ¬ ExecTells (countsResult [] (-1)) := by
  refine ⟨?_, ⟨_, rfl⟩, ?_, fun fuel => ?_, ?_⟩
  · rw [restTells_iff]
    rintro (noError | noRoom)
    · exact absurd (noError ⟨-1, []⟩ rfl) (by decide)
    · exact noRoom (.inl (by decide))
  · refine not_execTells_counts (k := 1) ?_ (by decide)
    intro i before
    have first : i = 0 := by omega
    subst first
    decide
  · have always : ∀ i, GoesOn [TSDB_DATA_TYPE_BOOL] ((countsResult [] (-1)).fetch i) :=
      fun i => goesOn_counts (by simp) _
    have loops := fetchRowsLoop_eq_none (fun _ _ _ => ()) always fuel 0 []
    simp only [taosExec, countsResult] at loops ⊢
    rw [loops]
    rfl
  · exact not_execTells_counts (k := 0) (by simp) (by decide)

end TaosAdapter.Rest
