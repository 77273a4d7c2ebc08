import Mathlib.Data.List.Basic

/-!
Contract: `TaosExec` of `db/async/row.go`.

Owns: the loop that fetches rows until there are none left, and when it returns
an error.
-/

namespace TaosAdapter.Async

open List

variable {Row Value : Type}

inductive ExecError where
  | taosError (code : Int) (errStr : String)
  | error (text : String)
deriving DecidableEq

def errFetchRowError : ExecError := .error "fetch row error"

/-- What `TaosFetchRowsA` answers, with the rows that `TaosFetchRow` then gives. -/
structure FetchRows (Row : Type) where
  n : Int
  fetchRow : Nat → Option Row

/-- A result as the client library shows it. -/
structure TaosResult (Row Value : Type) where
  code : Int
  errStr : String
  isUpdate : Bool
  affectedRows : Int
  /-- The types of the columns, by `ReadColumn`. -/
  colTypes : Except ExecError (List Nat)
  fetch : Nat → FetchRows Row
  /-- `wrapper.FetchRow` of a column; bytes become a raw message. -/
  value : Row → Nat → Nat → Value

structure ExecResult (Value : Type) where
  affectedRows : Int
  fieldCount : Nat
  data : List (List Value)

/-- The values of a row; a row that is nil is noticed at its first column. -/
def readRow (value : Row → Nat → Nat → Value) (row : Option Row) (colTypes : List Nat) :
    Except ExecError (List Value) :=
  colTypes.zipIdx.mapM fun column =>
    match row with
    | none => .error errFetchRowError
    | some row => .ok (value row column.2 column.1)

/-- The rows of a fetch from `i` on, `count` of them. -/
def readRows (value : Row → Nat → Nat → Value) (colTypes : List Nat) (result : FetchRows Row) :
    Nat → Nat → List (List Value) → Except ExecError (List (List Value))
  | 0, _, data => .ok data
  | count + 1, i, data => do
      let values ← readRow value (result.fetchRow i) colTypes
      readRows value colTypes result count (i + 1) (data ++ [values])

/-- The loop from a fetch on; a negative count has no rows. -/
def fetchRowsLoop (value : Row → Nat → Nat → Value) (colTypes : List Nat)
    (fetch : Nat → FetchRows Row) :
    Nat → Nat → List (List Value) → Option (Except ExecError (List (List Value)))
  | 0, _, _ => none
  | fuel + 1, i, data =>
    if (fetch i).n = 0 then some (.ok data)
    else
      match readRows value colTypes (fetch i) (fetch i).n.toNat 0 data with
      | .error reason => some (.error reason)
      | .ok data => fetchRowsLoop value colTypes fetch fuel (i + 1) data

def taosExec (fuel : Nat) (res : TaosResult Row Value) :
    Option (Except ExecError (ExecResult Value)) :=
  if res.code ≠ 0 then some (.error (.taosError res.code res.errStr))
  else if res.isUpdate then some (.ok ⟨res.affectedRows, 0, []⟩)
  else
    match res.colTypes with
    | .error reason => some (.error reason)
    | .ok colTypes =>
      (fetchRowsLoop res.value colTypes res.fetch fuel 0 []).map fun outcome =>
        outcome.map fun data => ⟨0, colTypes.length, data⟩

/-- A row that is nil, and a column to notice it. -/
def Missing (colTypes : List Nat) (row : Option Row) : Prop := colTypes ≠ [] ∧ row = none

def MissingRow (colTypes : List Nat) (result : FetchRows Row) : Prop :=
  ∃ i < result.n.toNat, Missing colTypes (result.fetchRow i)

def GoesOn (colTypes : List Nat) (result : FetchRows Row) : Prop :=
  result.n ≠ 0 ∧ ¬ MissingRow colTypes result

section

variable (value : Row → Nat → Nat → Value) {colTypes : List Nat}

theorem mapM_some (row : Row) (columns : List (Nat × Nat)) : ∃ values, columns.mapM (fun col =>
      (.ok (value row col.2 col.1) : Except ExecError Value)) = .ok values := by
  induction columns with
  | nil => exact ⟨[], rfl⟩
  | cons col columns ih =>
    obtain ⟨values, others⟩ := ih
    refine ⟨value row col.2 col.1 :: values, ?_⟩
    rw [mapM_cons, others]
    rfl

variable {row : Option Row}

theorem readRow_of_missing (missing : Missing colTypes row) :
    readRow value row colTypes = .error errFetchRowError := by
  obtain ⟨columns, rfl⟩ := missing
  cases colTypes with
  | nil => exact absurd rfl columns
  | cons colType others =>
    rw [readRow, zipIdx_cons, mapM_cons]
    rfl

theorem readRow_of_not_missing (present : ¬ Missing colTypes row) :
    ∃ values, readRow value row colTypes = .ok values := by
  cases row with
  | some row => exact mapM_some value row colTypes.zipIdx
  | none =>
    have noColumns : colTypes = [] := by
      by_contra columns
      exact present ⟨columns, rfl⟩
    subst noColumns
    exact ⟨[], rfl⟩

variable {i count : Nat} {res : FetchRows Row}

theorem readRows_of_missing {j : Nat} (before : j < count)
    (missing : Missing colTypes (res.fetchRow (i + j))) (data : List (List Value)) :
    ∃ reason, readRows value colTypes res count i data = .error reason := by
  induction count generalizing i j data with
  | zero => omega
  | succ count ih =>
    rw [readRows]
    cases read : readRow value (res.fetchRow i) colTypes with
    | error reason => exact ⟨reason, rfl⟩
    | ok values =>
      cases j with
      | zero =>
        rw [Nat.add_zero] at missing
        rw [readRow_of_missing value missing] at read
        cases read
      | succ j =>
        have shift : i + (j + 1) = i + 1 + j := by omega
        rw [shift] at missing
        exact ih (Nat.lt_of_succ_lt_succ before) missing _

theorem readRows_of_present (present : ∀ j < count, ¬ Missing colTypes (res.fetchRow (i + j)))
    (data : List (List Value)) : ∃ rows, readRows value colTypes res count i data = .ok rows := by
  induction count generalizing i data with
  | zero => exact ⟨data, rfl⟩
  | succ count ih =>
    obtain ⟨values, read⟩ := readRow_of_not_missing value (present 0 (Nat.succ_pos count))
    have others : ∀ j < count, ¬ Missing colTypes (res.fetchRow (i + 1 + j)) := by
      intro j before
      have shift : i + 1 + j = i + (j + 1) := by omega
      rw [shift]
      exact present (j + 1) (Nat.succ_lt_succ before)
    rw [Nat.add_zero] at read
    obtain ⟨rows, readOthers⟩ := ih others (data ++ [values])
    refine ⟨rows, ?_⟩
    rw [readRows, read]
    exact readOthers

variable {fetch : Nat → FetchRows Row}

theorem fetchRowsLoop_goesOn (goesOn : GoesOn colTypes (fetch i)) (data : List (List Value)) :
    ∃ rows, ∀ fuel, fetchRowsLoop value colTypes fetch (fuel + 1) i data =
      fetchRowsLoop value colTypes fetch fuel (i + 1) rows := by
  obtain ⟨notZero, present⟩ := goesOn
  have each : ∀ j < (fetch i).n.toNat, ¬ Missing colTypes ((fetch i).fetchRow (0 + j)) := by
    intro j before missing
    rw [Nat.zero_add] at missing
    exact present ⟨j, before, missing⟩
  obtain ⟨rows, read⟩ := readRows_of_present value each data
  refine ⟨rows, fun fuel => ?_⟩
  rw [fetchRowsLoop, if_neg notZero, read]

theorem fetchRowsLoop_eq_none (always : ∀ i, GoesOn colTypes (fetch i)) (fuel i : Nat)
    (data : List (List Value)) : fetchRowsLoop value colTypes fetch fuel i data = none := by
  induction fuel generalizing i data with
  | zero => rfl
  | succ fuel ih =>
    obtain ⟨rows, step⟩ := fetchRowsLoop_goesOn value (always i) data
    rw [step]
    exact ih (i + 1) rows

theorem fetchRowsLoop_missing (missing : MissingRow colTypes (fetch i)) (data : List (List Value)) :
    ∃ reason, fetchRowsLoop value colTypes fetch 1 i data = some (.error reason) := by
  obtain ⟨j, isRow, isMissing⟩ := missing
  have pos : (fetch i).n ≠ 0 := by
    intro zero
    rw [zero] at isRow
    exact Nat.not_lt_zero j isRow
  rw [← Nat.zero_add j] at isMissing
  obtain ⟨reason, failed⟩ := readRows_of_missing value isRow isMissing data
  refine ⟨reason, ?_⟩
  rw [fetchRowsLoop, if_neg pos, failed]

theorem fetchRowsLoop_error_iff (i : Nat) (data : List (List Value)) :
    (∃ fuel reason, fetchRowsLoop value colTypes fetch fuel i data = some (.error reason)) ↔
      ∃ k, (∀ j < k, GoesOn colTypes (fetch (i + j))) ∧ MissingRow colTypes (fetch (i + k)) := by
  constructor
  · rintro ⟨fuel, reason, failed⟩
    induction fuel generalizing i data with
    | zero => cases failed
    | succ fuel ih =>
      by_cases missing : MissingRow colTypes (fetch i)
      · exact ⟨0, nofun, missing⟩
      by_cases zero : (fetch i).n = 0
      · rw [fetchRowsLoop, if_pos zero] at failed
        cases failed
      have goesOn : GoesOn colTypes (fetch i) := ⟨zero, missing⟩
      obtain ⟨rows, step⟩ := fetchRowsLoop_goesOn value goesOn data
      rw [step] at failed
      obtain ⟨k, before, atEnd⟩ := ih (i + 1) rows failed
      have shift : ∀ j, i + 1 + j = i + (j + 1) := by omega
      refine ⟨k + 1, fun j isBefore => ?_, by rwa [← shift]⟩
      cases j with
      | zero => exact goesOn
      | succ j =>
        rw [← shift]
        exact before j (Nat.lt_of_succ_lt_succ isBefore)
  · rintro ⟨k, before, atEnd⟩
    induction k generalizing i data with
    | zero =>
      obtain ⟨reason, failed⟩ := fetchRowsLoop_missing value atEnd data
      exact ⟨1, reason, failed⟩
    | succ k ih =>
      have shift : ∀ j, i + 1 + j = i + (j + 1) := by omega
      obtain ⟨rows, step⟩ := fetchRowsLoop_goesOn value (before 0 (Nat.succ_pos k)) data
      have later : ∀ j < k, GoesOn colTypes (fetch (i + 1 + j)) := by
        intro j isBefore
        rw [shift]
        exact before (j + 1) (Nat.succ_lt_succ isBefore)
      rw [← shift] at atEnd
      obtain ⟨fuel, reason, failed⟩ := ih (i + 1) rows later atEnd
      exact ⟨fuel + 1, reason, (step fuel).trans failed⟩

end

variable (res : TaosResult Row Value)

def FetchMade (k : Nat) : Prop :=
  res.code = 0 ∧ res.isUpdate = false ∧ ∃ colTypes, res.colTypes = .ok colTypes ∧
    ∀ i < k, GoesOn colTypes (res.fetch i)

/-- A fetch that answers with an error is followed, after finitely many fetches, by
an error for the caller. -/
def ExecTells : Prop :=
  (∃ k, FetchMade res k ∧ (res.fetch k).n < 0) →
    ∃ fuel reason, taosExec fuel res = some (.error reason)

/-- No fetch is answered with an error, or a row is missing in the fetch that ends
the loop. -/
def NoErrorOrMissing : Prop :=
  (∀ k, FetchMade res k → 0 ≤ (res.fetch k).n) ∨
    ∃ colTypes k, res.colTypes = .ok colTypes ∧ FetchMade res k ∧
      MissingRow colTypes (res.fetch k)

theorem taosExec_error_iff {res : TaosResult Row Value} (made : FetchMade res 0)
    {colTypes : List Nat} (read : res.colTypes = .ok colTypes) :
    (∃ fuel reason, taosExec fuel res = some (.error reason)) ↔
      ∃ fuel reason, fetchRowsLoop res.value colTypes res.fetch fuel 0 [] =
        some (.error reason) := by
  obtain ⟨noError, noUpdate, _⟩ := made
  have isLoop : ∀ fuel, taosExec fuel res =
      (fetchRowsLoop res.value colTypes res.fetch fuel 0 []).map fun outcome =>
        outcome.map fun data => ⟨0, colTypes.length, data⟩ := by
    intro fuel
    simp [taosExec, noError, noUpdate, read]
  constructor
  · rintro ⟨fuel, reason, failed⟩
    rw [isLoop] at failed
    obtain ⟨outcome, looped, mapped⟩ := Option.map_eq_some_iff.mp failed
    cases outcome with
    | error other => exact ⟨fuel, other, looped⟩
    | ok data => cases mapped
  · rintro ⟨fuel, reason, failed⟩
    exact ⟨fuel, reason, by rw [isLoop, failed]; rfl⟩

theorem execTells_iff : ExecTells res ↔ NoErrorOrMissing res := by
  constructor
  · intro tells
    by_contra neither
    obtain ⟨someError, noMissing⟩ := not_or.mp neither
    obtain ⟨k, rest⟩ := not_forall.mp someError
    obtain ⟨made, negative⟩ := Classical.not_imp.mp rest
    obtain ⟨noError, noUpdate, colTypes, read, earlier⟩ := made
    have made : FetchMade res k := ⟨noError, noUpdate, colTypes, read, earlier⟩
    have first : FetchMade res 0 := ⟨noError, noUpdate, colTypes, read, nofun⟩
    have failed := tells ⟨k, made, by omega⟩
    rw [taosExec_error_iff first read, fetchRowsLoop_error_iff] at failed
    obtain ⟨last, before, missing⟩ := failed
    simp only [Nat.zero_add] at before missing
    exact noMissing ⟨colTypes, last, read, ⟨noError, noUpdate, colTypes, read, before⟩, missing⟩
  · rintro (noErrors | ⟨colTypes, last, read, made, missing⟩) ⟨k, madeError, negative⟩
    · exact absurd (noErrors k madeError) (by omega)
    · obtain ⟨noError, noUpdate, others, readOthers, before⟩ := made
      rw [read] at readOthers
      cases readOthers
      have first : FetchMade res 0 := ⟨noError, noUpdate, colTypes, read, nofun⟩
      rw [taosExec_error_iff first read, fetchRowsLoop_error_iff]
      refine ⟨last, ?_, ?_⟩
      · simpa only [Nat.zero_add] using before
      · rwa [Nat.zero_add]

end TaosAdapter.Async
