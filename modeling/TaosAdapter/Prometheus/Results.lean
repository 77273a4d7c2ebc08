import TaosAdapter.Prometheus.Read
import Mathlib.Data.List.Perm.Basic

/-!
Owns: which remote-read requests are answered with one result per query.

A query that matches nothing adds no result, while the next one still addresses
the results by its own index: the response is too short, or, if a later query
matches something, the list is indexed outside.
-/

namespace TaosAdapter.Prometheus

open Lib List

def Complete (row : Row) : Prop :=
  ∃ ts value labels tbName, row = [some ts, some value, some labels, some tbName]

def SeriesOf (points : List Backend.Point) (name : Bytes) (series : TimeSeries) : Prop :=
  series.samples = (points.filter (·.tbName = name)).map Backend.Point.sample ∧
    ∃ first, (points.filter (·.tbName = name)).head? = some first ∧ series.labels.Perm first.tags

def IsResult (points : List Backend.Point) (result : List TimeSeries) : Prop :=
  ∃ names : List Bytes, names.Nodup ∧
    (∀ name, name ∈ names ↔ name ∈ points.map Backend.Point.tbName) ∧
    List.Forall₂ (SeriesOf points) names result

namespace Backend

variable (backend : Backend)

def pointOf : Row → Option Point
  | [some ts, some value, some labels, some tbName] =>
    (backend.readPoint ts value labels tbName).toOption
  | _ => none

def Readable (rows : List Row) : Prop :=
  ∀ row ∈ rows, Complete row → (backend.pointOf row).isSome

/-- The query ends the request: its statement cannot be written or fails, or a complete row
cannot be read. -/
def Fails (i : Nat) (query : Query) : Prop :=
  ¬ ∃ rows, backend.rows i query = .ok rows ∧ backend.Readable rows

def MatchesNothing (i : Nat) (query : Query) : Prop :=
  ∃ rows, backend.rows i query = .ok rows ∧ ∀ row ∈ rows, ¬ Complete row

def MatchesSomething (i : Nat) (query : Query) : Prop :=
  ∃ rows, backend.rows i query = .ok rows ∧ backend.Readable rows ∧ ∃ row ∈ rows, Complete row

inductive Results : Nat → List Query → List (List TimeSeries) → Prop where
  | nil {i} : Results i [] []
  | cons {i query queries rows result results} (answered : backend.rows i query = .ok rows)
      (isResult : IsResult (rows.filterMap backend.pointOf) result)
      (others : Results (i + 1) queries results) :
      Results i (query :: queries) (result :: results)

def Answers (queries : List Query) : Prop :=
  backend.processRead queries ≠ .error .outOfRange ∧
    ∀ results, backend.processRead queries = .ok results → backend.Results 0 queries results

inductive FailsFirst : Nat → List Query → Prop where
  | fails {i query queries} (fails : backend.Fails i query) : FailsFirst i (query :: queries)
  | nothing {i query queries} (nothing : backend.MatchesNothing i query)
      (others : FailsFirst (i + 1) queries) :
      FailsFirst i (query :: queries)

/-- Every query matches something, up to the end or up to one that fails; or behind the first
query that matches nothing one fails before another one matches something. -/
inductive Served : Nat → List Query → Prop where
  | nil {i} : Served i []
  | fails {i query queries} (fails : backend.Fails i query) : Served i (query :: queries)
  | something {i query queries} (something : backend.MatchesSomething i query)
      (others : Served (i + 1) queries) :
      Served i (query :: queries)
  | nothing {i query queries} (nothing : backend.MatchesNothing i query)
      (others : backend.FailsFirst (i + 1) queries) :
      Served i (query :: queries)

variable {backend}

structure Grouped (points : List Point) (group : List (Bytes × TimeSeries)) : Prop where
  distinct : (group.map Prod.fst).Nodup
  names : ∀ name, name ∈ group.map Prod.fst ↔ name ∈ points.map Point.tbName
  series : ∀ entry ∈ group, SeriesOf points entry.1 entry.2

theorem map_fst_addPoint (labels : List Label) (point : Point) (group : List (Bytes × TimeSeries)) :
    (addPoint labels point group).map Prod.fst =
      if point.tbName ∈ group.map Prod.fst then group.map Prod.fst
      else group.map Prod.fst ++ [point.tbName] := by
  induction group with
  | nil => simp [addPoint]
  | cons entry group ih =>
    obtain ⟨name, series⟩ := entry
    rw [addPoint]
    by_cases same : name = point.tbName
    · simp [same]
    · rw [if_neg same, map_cons, ih]
      have other : ¬ point.tbName = name := fun equal => same equal.symm
      by_cases found : point.tbName ∈ group.map Prod.fst
      · simp [found]
      · simp [found, other]

variable {group : List (Bytes × TimeSeries)} {labels : List Label}

theorem mem_addPoint {point : Point} (distinct : (group.map Prod.fst).Nodup) {name : Bytes}
    {series : TimeSeries} (mem : (name, series) ∈ addPoint labels point group) :
    ((name, series) ∈ group ∧ name ≠ point.tbName) ∨
    (name = point.tbName ∧ ∃ old, (name, old) ∈ group ∧
      series = { old with samples := old.samples ++ [point.sample] }) ∨
    (name = point.tbName ∧ name ∉ group.map Prod.fst ∧ series = ⟨labels, [point.sample]⟩) := by
  induction group with
  | nil =>
    obtain ⟨rfl, rfl⟩ : name = point.tbName ∧ series = _ := by simpa [addPoint] using mem
    exact .inr (.inr ⟨rfl, by simp, rfl⟩)
  | cons entry group ih =>
    obtain ⟨first, old⟩ := entry
    obtain ⟨fresh, distinctOthers⟩ := nodup_cons.mp distinct
    rw [addPoint] at mem
    by_cases same : first = point.tbName
    · rw [if_pos same] at mem
      rcases mem_cons.mp mem with isFirst | behind
      · obtain ⟨rfl, rfl⟩ := Prod.mk.inj isFirst
        exact .inr (.inl ⟨same, old, by simp, rfl⟩)
      · refine .inl ⟨mem_cons_of_mem _ behind, fun isName => fresh ?_⟩
        exact mem_map.mpr ⟨(name, series), behind, isName.trans same.symm⟩
    · rw [if_neg same] at mem
      rcases mem_cons.mp mem with isFirst | behind
      · obtain ⟨rfl, rfl⟩ := Prod.mk.inj isFirst
        exact .inl ⟨by simp, same⟩
      · rcases ih distinctOthers behind with
          ⟨kept, other⟩ | ⟨isName, before, kept, extended⟩ | ⟨isName, isNew, shape⟩
        · exact .inl ⟨mem_cons_of_mem _ kept, other⟩
        · exact .inr (.inl ⟨isName, before, mem_cons_of_mem _ kept, extended⟩)
        · refine .inr (.inr ⟨isName, ?_, shape⟩)
          rw [map_cons, mem_cons, not_or]
          exact ⟨fun equal => same (equal.symm.trans isName), isNew⟩

variable {points : List Point}

theorem Grouped.addPoint (grouped : Grouped points group) (point : Point)
    (perm : labels.Perm point.tags) :
    Grouped (points ++ [point]) (addPoint labels point group) := by
  refine ⟨?_, ?_, ?_⟩
  · rw [map_fst_addPoint]
    split
    · exact grouped.distinct
    · rename_i fresh
      rw [(perm_append_singleton _ _).nodup_iff]
      exact nodup_cons.mpr ⟨fresh, grouped.distinct⟩
  · intro name
    rw [map_fst_addPoint, map_append, mem_append, ← grouped.names]
    split
    · rename_i known
      constructor
      · exact .inl
      · rintro (old | isPoint)
        · exact old
        · obtain rfl : name = point.tbName := by simpa using isPoint
          exact known
    · simp
  · rintro ⟨name, series⟩ mem
    rw [SeriesOf, filter_append]
    rcases mem_addPoint grouped.distinct mem with
      ⟨kept, other⟩ | ⟨rfl, before, kept, rfl⟩ | ⟨rfl, isNew, rfl⟩
    · have elsewhere : [point].filter (·.tbName = name) = [] := by simp [Ne.symm other]
      rw [elsewhere, List.append_nil]
      exact grouped.series _ kept
    · have here : [point].filter (·.tbName = point.tbName) = [point] := by simp
      obtain ⟨samples, first, isFirst, sameLabels⟩ := grouped.series _ kept
      refine ⟨?_, first, ?_, sameLabels⟩
      · rw [here, map_append, ← samples]
        rfl
      · rw [List.head?_append, isFirst]
        rfl
    · have here : [point].filter (·.tbName = point.tbName) = [point] := by simp
      have none : points.filter (·.tbName = point.tbName) = [] := by
        rw [filter_eq_nil_iff]
        intro other isPoint same
        apply isNew
        rw [grouped.names]
        exact mem_map.mpr ⟨other, isPoint, by simpa using same⟩
      rw [here, none]
      exact ⟨rfl, point, rfl, perm⟩

def Inside {Result : Type} (result : Except Stop Result) : Prop := result ≠ .error .outOfRange

theorem Inside.bind {Result Next : Type} {res : Except Stop Result}
    {next : Result → Except Stop Next} (inside : Inside res)
    (goesOn : ∀ value, Inside (next value)) : Inside (res >>= next) := by
  cases res with
  | ok value => exact goesOn value
  | error stop => exact fun same => inside (congrArg _ (Except.error.inj same))

theorem inside_readPoint (ts value labels tbName : Cell) :
    Inside (backend.readPoint ts value labels tbName) := by
  refine Inside.bind (by cases ts <;> exact nofun) fun _ => ?_
  refine Inside.bind (by cases value <;> exact nofun) fun _ => ?_
  refine Inside.bind (by cases labels <;> exact nofun) fun _ => ?_
  refine Inside.bind ?_ fun _ => ?_
  · rw [readTags]
    split <;> exact nofun
  · refine Inside.bind (by cases tbName <;> exact nofun) fun _ => ?_
    exact nofun

variable {j : Nat}

theorem groupRows_skip {i : Nat} {row : Row} (incomplete : ¬ Complete row) (rows : List Row)
    (group : List (Bytes × TimeSeries)) :
    backend.groupRows i j (row :: rows) group = backend.groupRows i (j + 1) rows group := by
  rw [groupRows]
  rintro ts value labels tbName rfl
  exact incomplete ⟨ts, value, labels, tbName, rfl⟩

theorem pointOf_skip {row : Row} (incomplete : ¬ Complete row) : backend.pointOf row = none := by
  rw [pointOf.eq_def]
  split
  · rename_i ts value labels tbName
    exact absurd ⟨ts, value, labels, tbName, rfl⟩ incomplete
  · rfl

variable {rows : List Row}

theorem groupRows_readable {i : Nat} (readable : backend.Readable rows)
    (grouped : Grouped points group) : ∃ after, backend.groupRows i j rows group = .ok after ∧
      Grouped (points ++ rows.filterMap backend.pointOf) after := by
  induction rows generalizing j points group with
  | nil => exact ⟨group, rfl, by simpa using grouped⟩
  | cons row rows ih =>
    have readableRest : backend.Readable rows :=
      fun other mem => readable other (mem_cons_of_mem _ mem)
    by_cases complete : Complete row
    · have isPoint := readable row (mem_cons_self ..) complete
      obtain ⟨ts, value, labels, tbName, rfl⟩ := complete
      obtain ⟨point, found⟩ := Option.isSome_iff_exists.mp isPoint
      have read : backend.readPoint ts value labels tbName = .ok point := by
        rw [pointOf] at found
        cases res : backend.readPoint ts value labels tbName with
        | ok other =>
          rw [res] at found
          exact congrArg _ (Option.some.inj found)
        | error stop =>
          rw [res] at found
          cases found
      have perm := backend.labelOrder_perm i j point.tags
      obtain ⟨after, ends, groupedAfter⟩ :=
        ih readableRest (grouped.addPoint point perm)
      refine ⟨after, ?_, ?_⟩
      · rw [groupRows, read]
        exact ends
      · rw [filterMap_cons_some found]
        simpa using groupedAfter
    · obtain ⟨after, ends, groupedAfter⟩ := ih readableRest grouped
      refine ⟨after, (groupRows_skip complete rows group).trans ends, ?_⟩
      rw [filterMap_cons_none (pointOf_skip complete)]
      exact groupedAfter

theorem inside_groupRows (i j : Nat) (rows : List Row) (group : List (Bytes × TimeSeries)) :
    Inside (backend.groupRows i j rows group) := by
  fun_induction backend.groupRows i j rows group with
  | case1 => exact nofun
  | case2 j rows group ts value labels tbName ih =>
    exact Inside.bind (inside_readPoint ts value labels tbName) ih
  | case3 _ _ _ _ _ ih => exact ih

theorem readable_of_groupRows {i : Nat} {after : List (Bytes × TimeSeries)}
    (ends : backend.groupRows i j rows group = .ok after) : backend.Readable rows := by
  fun_induction backend.groupRows i j rows group with
  | case1 => simp [Readable]
  | case2 j rows group ts value labels tbName ih =>
    cases read : backend.readPoint ts value labels tbName with
    | error stop =>
      rw [read] at ends
      cases ends
    | ok point =>
      rw [read] at ends
      intro other mem isComplete
      rcases mem_cons.mp mem with rfl | behind
      · rw [pointOf, read]
        rfl
      · exact ih point ends other behind isComplete
  | case3 j row rows group incomplete ih =>
    intro other mem isComplete
    rcases mem_cons.mp mem with rfl | behind
    · obtain ⟨ts, value, labels, tbName, same⟩ := isComplete
      exact absurd same (incomplete ts value labels tbName)
    · exact ih ends other behind isComplete

variable {i : Nat} {query : Query} {results : List (List TimeSeries)}

theorem addQuery_of_rows (answered : backend.rows i query = .ok rows) :
    backend.addQuery i query results = (do
      let group ← backend.groupRows i 0 rows []
      (backend.seriesOrder i (group.map Prod.snd)).foldlM (appendSeries i)
        (if 0 < group.length then results ++ [[]] else results)) := by
  rw [addQuery, answered]
  rfl

theorem addQuery_fails (results : List (List TimeSeries)) (fails : backend.Fails i query) :
    ∃ stop, backend.addQuery i query results = .error stop ∧ stop ≠ .outOfRange := by
  cases answered : backend.rows i query with
  | error reason => exact ⟨.error reason, by rw [addQuery, answered]; rfl, nofun⟩
  | ok rows =>
    rw [addQuery_of_rows answered]
    have inside : Inside (backend.groupRows i 0 rows []) := inside_groupRows i 0 rows []
    cases ends : backend.groupRows i 0 rows [] with
    | ok group => exact absurd ⟨rows, answered, readable_of_groupRows ends⟩ fails
    | error stop =>
      rw [ends] at inside
      exact ⟨stop, rfl, fun same => inside (congrArg _ same)⟩

theorem grouped_nil : Grouped [] [] := ⟨by simp, by simp, by simp⟩

theorem Grouped.eq_nil (grouped : Grouped [] group) : group = [] := by
  have noNames : group.map Prod.fst = [] :=
    eq_nil_iff_forall_not_mem.mpr fun name mem => by
      simpa using (grouped.names name).mp mem
  simpa using noNames

theorem addQuery_nothing (nothing : backend.MatchesNothing i query) :
    backend.addQuery i query results = .ok results := by
  obtain ⟨rows, answered, incomplete⟩ := nothing
  have readable : backend.Readable rows :=
    fun row mem complete => absurd complete (incomplete row mem)
  have noPoints : rows.filterMap backend.pointOf = [] :=
    filterMap_eq_nil_iff.mpr fun row mem => pointOf_skip (incomplete row mem)
  obtain ⟨group, ends, grouped⟩ := groupRows_readable readable grouped_nil
  rw [nil_append, noPoints] at grouped
  obtain rfl := grouped.eq_nil
  have noSeries : backend.seriesOrder i [] = [] := (backend.seriesOrder_perm i []).eq_nil
  rw [addQuery_of_rows answered, ends]
  show List.foldlM _ _ (backend.seriesOrder i []) = _
  rw [noSeries]
  rfl

theorem modify_last (results : List (List TimeSeries)) (res : List TimeSeries)
    (change : List TimeSeries → List TimeSeries) :
    (results ++ [res]).modify results.length change = results ++ [change res] := by
  induction results with
  | nil => rfl
  | cons first results ih => simpa using ih

theorem foldlM_appendSeries (res series : List TimeSeries) (same : results.length = i) :
    series.foldlM (appendSeries i) (results ++ [res]) = .ok (results ++ [res ++ series]) := by
  induction series generalizing res with
  | nil =>
    rw [List.append_nil]
    rfl
  | cons first series ih =>
    have appended : appendSeries i (results ++ [res]) first =
        .ok (results ++ [res ++ [first]]) := by
      rw [appendSeries, if_pos (by simp [same]), ← same, modify_last]
    rw [foldlM_cons, appended]
    show List.foldlM _ _ _ = _
    rw [ih, append_assoc, singleton_append]

theorem Grouped.isResult (grouped : Grouped points group) {res : List TimeSeries}
    (perm : res.Perm (group.map Prod.snd)) : IsResult points res := by
  have isMap : Relation.Comp _ _ res group :=
    (congrFun₂ (eq_map_comp_perm Prod.snd) res group).mpr perm
  obtain ⟨entries, rfl, isGroup⟩ := isMap
  refine ⟨entries.map Prod.fst, ?_, ?_, ?_⟩
  · exact (isGroup.map Prod.fst).nodup_iff.mpr grouped.distinct
  · intro name
    rw [(isGroup.map Prod.fst).mem_iff]
    exact grouped.names name
  · rw [forall₂_map_left_iff, forall₂_map_right_iff, forall₂_same]
    exact fun entry mem => grouped.series entry (isGroup.mem_iff.mp mem)

section

variable (something : backend.MatchesSomething i query)

include something

theorem exists_group : ∃ rows group, backend.rows i query = .ok rows ∧ group ≠ [] ∧
      Grouped (rows.filterMap backend.pointOf) group ∧
      backend.addQuery i query results =
        (backend.seriesOrder i (group.map Prod.snd)).foldlM (appendSeries i) (results ++ [[]]) := by
  obtain ⟨rows, answered, readable, row, mem, complete⟩ := something
  obtain ⟨group, ends, grouped⟩ := groupRows_readable readable grouped_nil
  rw [nil_append] at grouped
  obtain ⟨point, isPoint⟩ := Option.isSome_iff_exists.mp (readable row mem complete)
  have named : point.tbName ∈ group.map Prod.fst := by
    rw [grouped.names]
    exact mem_map_of_mem (mem_filterMap.mpr ⟨row, mem, isPoint⟩)
  have some : group ≠ [] := by
    rintro rfl
    simp at named
  refine ⟨rows, group, answered, some, grouped, ?_⟩
  rw [addQuery_of_rows answered, ends]
  show List.foldlM _ (if 0 < group.length then _ else _) _ = _
  rw [if_pos (length_pos_of_ne_nil some)]

theorem addQuery_something (same : results.length = i) :
    ∃ rows res, backend.rows i query = .ok rows ∧
      backend.addQuery i query results = .ok (results ++ [res]) ∧
      IsResult (rows.filterMap backend.pointOf) res := by
  obtain ⟨rows, group, answered, _, grouped, adds⟩ := exists_group something
  refine ⟨rows, backend.seriesOrder i (group.map Prod.snd), answered, ?_, ?_⟩
  · rw [adds, foldlM_appendSeries [] _ same, nil_append]
  · exact grouped.isResult (backend.seriesOrder_perm i _)

theorem addQuery_behind
    (behind : results.length < i) : backend.addQuery i query results = .error .outOfRange := by
  obtain ⟨rows, group, _, some, _, adds⟩ := exists_group something
  have perm := backend.seriesOrder_perm i (group.map Prod.snd)
  obtain ⟨first, series, shape⟩ := exists_cons_of_ne_nil
    (show backend.seriesOrder i (group.map Prod.snd) ≠ [] from
      fun nothing => some (by simpa [nothing] using perm))
  have outside : ¬ i < (results ++ [[]]).length := by
    rw [length_append, length_singleton]
    omega
  rw [adds, shape, foldlM_cons, appendSeries, if_neg outside]
  rfl

end

theorem query_cases (backend : Backend) (i : Nat) (query : Query) :
    backend.Fails i query ∨ backend.MatchesNothing i query ∨ backend.MatchesSomething i query := by
  by_cases works : ∃ rows, backend.rows i query = .ok rows ∧ backend.Readable rows
  · obtain ⟨rows, answered, readable⟩ := works
    by_cases found : ∃ row ∈ rows, Complete row
    · exact .inr (.inr ⟨rows, answered, readable, found⟩)
    · refine .inr (.inl ⟨rows, answered, fun row mem complete => found ⟨row, mem, complete⟩⟩)
  · exact .inl works

variable {queries : List Query}

theorem addQueries_ok {after : List (List TimeSeries)}
    (adds : backend.addQuery i query results = .ok after) :
    backend.addQueries i (query :: queries) results = backend.addQueries (i + 1) queries after := by
  rw [addQueries, adds]
  rfl

theorem addQueries_error {stop : Stop} (stops : backend.addQuery i query results = .error stop) :
    backend.addQueries i (query :: queries) results = .error stop := by
  rw [addQueries, stops]
  rfl

theorem not_fails_of_nothing (nothing : backend.MatchesNothing i query) :
    ¬ backend.Fails i query := by
  obtain ⟨rows, answered, incomplete⟩ := nothing
  exact fun fails => fails ⟨rows, answered,
    fun row mem complete => absurd complete (incomplete row mem)⟩

theorem not_fails_of_something (something : backend.MatchesSomething i query) :
    ¬ backend.Fails i query := by
  obtain ⟨rows, answered, readable, _⟩ := something
  exact fun fails => fails ⟨rows, answered, readable⟩

theorem not_nothing_of_something (something : backend.MatchesSomething i query) :
    ¬ backend.MatchesNothing i query := by
  obtain ⟨rows, answered, _, row, mem, complete⟩ := something
  rintro ⟨others, answeredOthers, incomplete⟩
  rw [answered] at answeredOthers
  exact incomplete row (Except.ok.inj answeredOthers ▸ mem) complete

theorem behind_iff (behind : results.length < i) :
    (Inside (backend.addQueries i queries results) ∧
      ∀ final, backend.addQueries i queries results ≠ .ok final) ↔
      backend.FailsFirst i queries := by
  induction queries generalizing i results with
  | nil =>
    constructor
    · rintro ⟨_, noResponse⟩
      exact absurd rfl (noResponse results)
    · exact nofun
  | cons query queries ih =>
    rcases backend.query_cases i query with fails | nothing | something
    · obtain ⟨stop, stops, inside⟩ := addQuery_fails results fails
      rw [addQueries_error stops]
      exact iff_of_true ⟨fun same => inside (Except.error.inj same), nofun⟩ (.fails fails)
    · rw [addQueries_ok (addQuery_nothing nothing), ih (by omega)]
      constructor
      · exact .nothing nothing
      · intro first
        cases first with
        | fails fails => exact absurd fails (not_fails_of_nothing nothing)
        | nothing _ others => exact others
    · rw [addQueries_error (addQuery_behind something behind)]
      constructor
      · rintro ⟨inside, _⟩
        exact absurd rfl inside
      · intro first
        cases first with
        | fails fails => exact absurd fails (not_fails_of_something something)
        | nothing nothing _ => exact absurd nothing (not_nothing_of_something something)

variable {final : List (List TimeSeries)}

theorem eq_of_behind (behind : results.length < i)
    (ends : backend.addQueries i queries results = .ok final) : final = results := by
  induction queries generalizing i with
  | nil => exact (Except.ok.inj ends).symm
  | cons query queries ih =>
    rcases backend.query_cases i query with fails | nothing | something
    · obtain ⟨stop, stops, _⟩ := addQuery_fails results fails
      rw [addQueries_error stops] at ends
      cases ends
    · rw [addQueries_ok (addQuery_nothing nothing)] at ends
      exact ih (by omega) ends
    · rw [addQueries_error (addQuery_behind something behind)] at ends
      cases ends

theorem addQueries_extends (le : results.length ≤ i)
    (ends : backend.addQueries i queries results = .ok final) : results <+: final := by
  induction queries generalizing i results with
  | nil => exact ⟨[], by simpa using Except.ok.inj ends⟩
  | cons query queries ih =>
    rcases backend.query_cases i query with fails | nothing | something
    · obtain ⟨stop, stops, _⟩ := addQuery_fails results fails
      rw [addQueries_error stops] at ends
      cases ends
    · rw [addQueries_ok (addQuery_nothing nothing)] at ends
      exact ih (by omega) ends
    · rcases Nat.lt_or_eq_of_le le with behind | same
      · rw [addQueries_error (addQuery_behind something behind)] at ends
        cases ends
      · obtain ⟨_, res, _, adds, _⟩ := addQuery_something something same
        rw [addQueries_ok adds] at ends
        have longer := ih (by simp [same]) ends
        exact (prefix_append results [res]).trans longer

def AnswersFrom (backend : Backend) (i : Nat) (queries : List Query)
    (results : List (List TimeSeries)) : Prop :=
  Inside (backend.addQueries i queries results) ∧
    ∀ final, backend.addQueries i queries results = .ok final →
      ∃ new, final = results ++ new ∧ backend.Results i queries new

theorem answersFrom_nothing (nothing : backend.MatchesNothing i query) (same : results.length = i) :
    AnswersFrom backend i (query :: queries) results ↔ backend.FailsFirst (i + 1) queries := by
  rw [AnswersFrom, addQueries_ok (addQuery_nothing nothing),
    ← behind_iff (show results.length < i + 1 by omega)]
  refine and_congr_right fun _ => ⟨fun answers final ends => ?_, fun none final ends => ?_⟩
  · -- the response would be as long as before, with a result more
    obtain ⟨new, isNew, isResults⟩ := answers final ends
    have unchanged := eq_of_behind (show results.length < i + 1 by omega) ends
    cases isResults with
    | cons => simp [isNew] at unchanged
  · exact absurd ends (none final)

theorem answersFrom_something (something : backend.MatchesSomething i query)
    (same : results.length = i) :
    ∃ res, AnswersFrom backend i (query :: queries) results ↔
      AnswersFrom backend (i + 1) queries (results ++ [res]) := by
  obtain ⟨rows, res, answered, adds, isResult⟩ := addQuery_something something same
  refine ⟨res, ?_⟩
  rw [AnswersFrom, AnswersFrom, addQueries_ok adds]
  refine and_congr_right fun _ => forall₂_congr fun final ends => ⟨?_, ?_⟩
  · rintro ⟨new, isNew, isResults⟩
    obtain ⟨others, extended⟩ := addQueries_extends (by simp [same]) ends
    cases isResults with
    | cons _ _ isOthers =>
      refine ⟨others, extended.symm, ?_⟩
      rw [← extended, append_assoc, append_cancel_left_eq, singleton_append,
        List.cons.injEq] at isNew
      rw [isNew.2]
      exact isOthers
  · rintro ⟨new, isNew, isResults⟩
    exact ⟨res :: new, by simp [isNew], .cons answered isResult isResults⟩

theorem answersFrom_iff (same : results.length = i) :
    AnswersFrom backend i queries results ↔ backend.Served i queries := by
  induction queries generalizing i results with
  | nil =>
    exact iff_of_true ⟨nofun, fun final ends => ⟨[], by simp [Except.ok.inj ends], .nil⟩⟩ .nil
  | cons query queries ih =>
    rcases backend.query_cases i query with fails | nothing | something
    · obtain ⟨stop, stops, inside⟩ := addQuery_fails results fails
      rw [AnswersFrom, addQueries_error stops]
      exact iff_of_true ⟨fun same => inside (Except.error.inj same), nofun⟩ (.fails fails)
    · rw [answersFrom_nothing nothing same]
      constructor
      · exact .nothing nothing
      · intro served
        cases served with
        | fails fails => exact absurd fails (not_fails_of_nothing nothing)
        | something something _ => exact absurd nothing (not_nothing_of_something something)
        | nothing _ others => exact others
    · obtain ⟨res, answers⟩ := answersFrom_something something same
      rw [answers, ih (by simp [same])]
      constructor
      · exact .something something
      · intro served
        cases served with
        | fails fails => exact absurd fails (not_fails_of_something something)
        | something _ others => exact others
        | nothing nothing _ => exact absurd nothing (not_nothing_of_something something)

theorem answers_eq (selected : backend.selectDB = 0) :
    backend.Answers queries ↔ AnswersFrom backend 0 queries [] := by
  rw [Answers, AnswersFrom, processRead, if_neg (not_not_intro selected)]
  simp [Inside]

end Backend

/-- A remote-read request is answered with one result for every query, built from its rows, and
the list of results is never indexed outside, exactly if the database cannot be selected or no
query that matches nothing gets in the way. -/
theorem read_answered_iff (backend : Backend) (queries : List Query) :
    backend.Answers queries ↔ backend.selectDB ≠ 0 ∨ backend.Served 0 queries := by
  by_cases selected : backend.selectDB = 0
  · have begins : ([] : List (List TimeSeries)).length = 0 := rfl
    rw [Backend.answers_eq selected, Backend.answersFrom_iff begins]
    simp [selected]
  · refine iff_of_true ?_ (.inl selected)
    rw [Backend.Answers, Backend.processRead, if_pos selected]
    exact ⟨nofun, nofun⟩

def secondOnly : Backend :=
  { Backend.empty with
    taosExec := fun i _ =>
      .ok (if i = 1 then
        [[some (.int64 0), some (.float64 0), some (.rawMessage (ascii "\x7b\x7d")),
          some (.string (ascii "t"))]]
        else []) }

theorem results_indexed_outside : ¬ secondOnly.Answers [⟨0, 0, []⟩, ⟨0, 0, []⟩] := by
  have outside : secondOnly.processRead [⟨0, 0, []⟩, ⟨0, 0, []⟩] = .error .outOfRange := rfl
  exact fun answers => answers.1 outside

end TaosAdapter.Prometheus
