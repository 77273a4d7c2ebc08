import TaosAdapter.Stmt.ParseColumn
import Mathlib.Data.List.Forall2

/-!
Owns: what `StmtParseColumn` gives for a document, and the documents for which
it is a whole table or an error.

A column is compared with the first one only when another column follows, and
the columns of the document are counted against the fields nowhere: the last
column may have any number of rows, missing columns are empty ones, and a
column too many indexes past the fields.
-/

namespace TaosAdapter.Stmt

open Lib Driver List Option Outcome
open RawBlock (Cell)

def columnsOf (document : Json) : List Json := (elements document).getD []

def rowCount (column : Json) : Nat := (elements column).elim 0 List.length

def DecodedCell (iter : Readers) (field : StmtField) (json : Json) (cell : Cell) : Prop :=
  decodeCell iter field json = .ok cell

def DecodedColumn (iter : Readers) (field : StmtField) (column : Option Json)
    (cells : List Cell) : Prop :=
  match column with
  | some column => ∃ rows, elements column = some rows ∧
      List.Forall₂ (DecodedCell iter field) rows cells
  | none => cells = []

/-- As many columns as fields, of the same number of rows, with the cells of the
document. -/
structure Parsed (iter : Readers) (document : Json) (fields : List StmtField)
    (data : List (List Cell)) : Prop where
  width : data.length = fields.length
  height : ∃ rows, ∀ cells ∈ data, cells.length = rows
  decoded : ∀ (j : Nat) (field : StmtField) (cells : List Cell), fields[j]? = some field →
    data[j]? = some cells → DecodedColumn iter field (columnsOf document)[j]? cells

def ErrorOrParsed (iter : Readers) (document : Json) (target : BindTarget) : Prop :=
  (∃ reason, stmtParseColumn iter document target = .error reason) ∨
    ∃ data types, stmtParseColumn iter document target = .ok (data, types) ∧
      Parsed iter document target.fields data

section

variable (iter : Readers) (fields : List StmtField) (columns : List Json)

def Readable (field : StmtField) (column : Json) : Prop :=
  ∃ rows, elements column = some rows ∧ ∀ json ∈ rows, ∃ cell, DecodedCell iter field json cell

def Unreadable (field : StmtField) (column : Json) : Prop :=
  elements column = none ∨
    ∃ before json after reason, elements column = some (before ++ json :: after) ∧
      (∀ earlier ∈ before, ∃ cell, DecodedCell iter field earlier cell) ∧
      decodeCell iter field json = .error reason

def rowsAt (j : Nat) : Nat := columns[j]?.elim 0 rowCount

def Uneven (j : Nat) : Prop := 2 ≤ j ∧ rowsAt columns 0 ≠ rowsAt columns (j - 1)

def ReadUpTo (j : Nat) : Prop :=
  ∀ i < j, ∃ column field, columns[i]? = some column ∧ fields[i]? = some field ∧
    ¬ Uneven columns i ∧ Readable iter field column

def RefusedAt (j : Nat) : Prop :=
  ReadUpTo iter fields columns j ∧ ∃ column field, columns[j]? = some column ∧
    fields[j]? = some field ∧ (Uneven columns j ∨ Unreadable iter field column)

/-- No more columns than fields, all of them readable and of the same rows; if
there are fewer columns than fields they are empty. -/
structure Rectangular : Prop where
  width : columns.length ≤ fields.length
  readable : ∀ (j : Nat) (column : Json) (field : StmtField), columns[j]? = some column →
    fields[j]? = some field → Readable iter field column
  height : ∃ rows, (∀ column ∈ columns, rowCount column = rows) ∧
    (columns.length < fields.length → rows = 0)

end

def RefusedOrRectangular (iter : Readers) (document : Json) (target : BindTarget) : Prop :=
  elements document = none ∨ (∃ j, RefusedAt iter target.fields (columnsOf document) j) ∨
    Rectangular iter target.fields (columnsOf document)

section

variable {iter : Readers} {field : StmtField} {rows : List Json}

theorem foldlM_rowCallback_of_decoded {cells : List Cell}
    (decoded : List.Forall₂ (DecodedCell iter field) rows cells) (state : ParseState) :
    rows.foldlM (rowCallback iter field) state = .ok (cells.foldl ParseState.push state) := by
  induction decoded generalizing state with
  | nil => rfl
  | cons first _ ih =>
    rw [foldlM_cons, rowCallback, first, ok_bind, ok_bind]
    exact ih _

theorem exists_decoded (readable : ∀ json ∈ rows, ∃ cell, DecodedCell iter field json cell) :
    ∃ cells, List.Forall₂ (DecodedCell iter field) rows cells := by
  induction rows with
  | nil => exact ⟨[], .nil⟩
  | cons json rows ih =>
    obtain ⟨cell, decoded⟩ := readable json mem_cons_self
    obtain ⟨cells, others⟩ := ih fun json mem =>
      readable json (mem_cons_of_mem _ mem)
    exact ⟨cell :: cells, .cons decoded others⟩

variable {reason : Reported}

theorem foldlM_rowCallback_of_unreadable {before : List Json} {json : Json}
    (readable : ∀ earlier ∈ before, ∃ cell, DecodedCell iter field earlier cell)
    (refused : decodeCell iter field json = .error reason) (after : List Json) (state : ParseState)
    : (before ++ json :: after).foldlM (rowCallback iter field) state = .error reason := by
  obtain ⟨cells, decoded⟩ := exists_decoded readable
  rw [foldlM_append, foldlM_rowCallback_of_decoded decoded, ok_bind,
    foldlM_cons, rowCallback, refused]
  rfl

variable {state : ParseState}

theorem readable_of_foldlM_ok {next : ParseState}
    (passed : rows.foldlM (rowCallback iter field) state = .ok next) :
    ∀ json ∈ rows, ∃ cell, DecodedCell iter field json cell := by
  induction rows generalizing state with
  | nil => nofun
  | cons json rows ih =>
    rw [foldlM_cons, rowCallback] at passed
    obtain ⟨middle, decoding, rest⟩ := bind_eq_ok.mp passed
    obtain ⟨cell, decoded, _⟩ := bind_eq_ok.mp decoding
    intro other mem
    rcases mem_cons.mp mem with rfl | later
    · exact ⟨cell, decoded⟩
    · exact ih rest other later

theorem unreadable_of_foldlM_error
    (failed : rows.foldlM (rowCallback iter field) state = .error reason) :
    ∃ before json after reason, rows = before ++ json :: after ∧
      (∀ earlier ∈ before, ∃ cell, DecodedCell iter field earlier cell) ∧
      decodeCell iter field json = .error reason := by
  induction rows generalizing state with
  | nil => cases failed
  | cons json rows ih =>
    rw [foldlM_cons, rowCallback] at failed
    cases decoded : decodeCell iter field json with
    | ok cell =>
      rw [decoded, ok_bind, ok_bind] at failed
      obtain ⟨before, bad, after, reason, split, readable, refused⟩ :=
        ih failed
      refine ⟨json :: before, bad, after, reason, by rw [split]; rfl, ?_, refused⟩
      intro earlier mem
      rcases mem_cons.mp mem with rfl | later
      · exact ⟨cell, decoded⟩
      · exact readable earlier later
    | error reason => exact ⟨[], json, rows, reason, rfl, nofun, decoded⟩
    | panic | fault => rw [decoded] at failed; cases failed

theorem foldl_push (cells : List Cell) (state : ParseState) :
    (cells.foldl ParseState.push state).data = state.data.modify state.colIndex (· ++ cells) ∧
      (cells.foldl ParseState.push state).rowIndex = state.rowIndex + cells.length ∧
      (cells.foldl ParseState.push state).colIndex = state.colIndex ∧
      (cells.foldl ParseState.push state).rowNums = state.rowNums := by
  induction cells generalizing state with
  | nil =>
    have unchanged := modify_id state.colIndex state.data
    simp only [foldl_nil, List.append_nil, length_nil, Nat.add_zero, and_self, and_true]
    exact unchanged.symm
  | cons cell cells ih =>
    obtain ⟨data, rowIndex, colIndex, rowNums⟩ := ih (state.push cell)
    rw [foldl_cons, data, rowIndex, colIndex, rowNums]
    refine ⟨?_, ?_, rfl, rfl⟩
    · simp [ParseState.push, modify_modify_eq, Function.comp_def]
    · simp only [ParseState.push, length_cons]
      omega

end

section

variable {iter : Readers} {fields : List StmtField} {columns : List Json}

structure Progress (iter : Readers) (fields : List StmtField) (columns : List Json) (j : Nat)
    (state : ParseState) : Prop where
  colIndex : state.colIndex = j
  width : state.data.length = fields.length
  read : ∀ (i : Nat) (field : StmtField) (column : Json), i < j → fields[i]? = some field →
    columns[i]? = some column → ∃ cells, state.data[i]? = some cells ∧
      DecodedColumn iter field (some column) cells
  unread : ∀ i, j ≤ i → i < fields.length → state.data[i]? = some []
  rowIndex : 1 ≤ j → state.rowIndex = rowsAt columns (j - 1)
  rowNums : 2 ≤ j → state.rowNums = rowsAt columns 0

theorem progress_initial (target : BindTarget) :
    Progress iter target.fields columns 0 (.initial target) where
  colIndex := rfl
  width := length_replicate
  read := by
    intro i field col before
    omega
  unread := by
    intro i _ inside
    exact List.getElem?_replicate_of_lt inside
  rowIndex := by omega
  rowNums := by omega

variable {state : ParseState} {j : Nat}

theorem rowNums_of_progress (progress : Progress iter fields columns j state) (later : 1 ≤ j) :
    (if state.colIndex = 1 then state.rowIndex else state.rowNums) = rowsAt columns 0 := by
  rw [progress.colIndex]
  split
  · rename_i second
    subst second
    exact progress.rowIndex later
  · exact progress.rowNums (by omega)

variable {field : StmtField} {col : Json}

section

variable (progress : Progress iter fields columns j state) (known : fields[j]? = some field)

include progress known

theorem colCallback_of_uneven (uneven : Uneven columns j) :
    ∃ reason, colCallback iter fields state col = .error reason := by
  obtain ⟨third, differs⟩ := uneven
  have want := rowNums_of_progress progress (by omega)
  have got := progress.rowIndex (by omega)
  rw [← want, ← got] at differs
  unfold colCallback
  rw [progress.colIndex] at differs ⊢
  simp only [known]
  rw [if_pos ⟨by omega, differs⟩]
  exact ⟨_, rfl⟩

theorem colCallback_of_even (even : ¬ Uneven columns j) (col : Json) :
    ∃ rowNums, (1 ≤ j → rowNums = rowsAt columns 0) ∧ colCallback iter fields state col = (do
        let state ← readArrayCB col (rowCallback iter field)
          { state with rowNums := rowNums, rowIndex := 0 }
        .ok { state with colIndex := state.colIndex + 1 }) := by
  have want := rowNums_of_progress progress
  refine ⟨if state.colIndex = 1 then state.rowIndex else state.rowNums, want, ?_⟩
  unfold colCallback
  rw [progress.colIndex] at want ⊢
  simp only [known]
  rw [if_neg]
  rintro ⟨third, differs⟩
  have got := progress.rowIndex (by omega)
  rw [want (by omega), got] at differs
  exact even ⟨third, differs⟩

end

variable {last : ParseState} {cells : List Cell}

section

variable (progress : Progress iter fields columns j state) (known : fields[j]? = some field)

include progress known

theorem progress_succ (found : columns[j]? = some col)
    (decoded : DecodedColumn iter field (some col) cells) (colIndex : last.colIndex = j + 1)
    (data : last.data = state.data.modify j (· ++ cells))
    (rowIndex : last.rowIndex = rowsAt columns j)
    (rowNums : 1 ≤ j → last.rowNums = rowsAt columns 0) :
    Progress iter fields columns (j + 1) last where
  colIndex := colIndex
  width := by rw [data, length_modify, progress.width]
  read := by
    intro i other earlier before knownOther foundEarlier
    rw [data]
    rcases Nat.lt_or_eq_of_le (Nat.le_of_lt_succ before) with less | rfl
    · rw [List.getElem?_modify_ne _ _ (by omega)]
      exact progress.read i other earlier less knownOther foundEarlier
    · have inside := lt_of_getElem? known
      rw [known] at knownOther
      rw [found] at foundEarlier
      cases knownOther
      cases foundEarlier
      rw [List.getElem?_modify_eq, progress.unread i (Nat.le_refl i) inside]
      exact ⟨cells, rfl, decoded⟩
  unread := by
    intro i after inside
    rw [data, List.getElem?_modify_ne _ _ (by omega)]
    exact progress.unread i (by omega) inside
  rowIndex := fun _ => rowIndex
  rowNums := fun second => rowNums (by omega)

theorem colCallback_of_readable (found : columns[j]? = some col) (even : ¬ Uneven columns j)
    (readable : Readable iter field col) : ∃ next, colCallback iter fields state col = .ok next ∧
      Progress iter fields columns (j + 1) next := by
  obtain ⟨rowNums, isFirst, unfolded⟩ := colCallback_of_even progress known even col
  obtain ⟨rows, isArray, each⟩ := readable
  obtain ⟨cells, decoded⟩ := exists_decoded each
  have started := foldlM_rowCallback_of_decoded decoded
    { state with rowNums := rowNums, rowIndex := 0 }
  have pushed := foldl_push cells { state with rowNums := rowNums, rowIndex := 0 }
  rw [unfolded, readArrayCB, isArray]
  simp only [started, ok_bind]
  generalize cells.foldl ParseState.push { state with rowNums := rowNums, rowIndex := 0 } = last
    at pushed
  obtain ⟨data, rowIndex, colIndex, keptRowNums⟩ := pushed
  simp only [progress.colIndex, Nat.zero_add] at data rowIndex colIndex keptRowNums
  have height : last.rowIndex = rowsAt columns j := by
    rw [rowIndex, rowsAt, found, elim_some, rowCount, isArray, elim_some]
    exact decoded.length_eq.symm
  refine ⟨_, rfl, progress_succ progress known found ⟨rows, isArray, decoded⟩ ?_ data height ?_⟩
  · rw [colIndex]
  · intro later
    exact keptRowNums.trans (isFirst later)

theorem colCallback_of_unreadable (even : ¬ Uneven columns j)
    (unreadable : Unreadable iter field col) :
    ∃ reason, colCallback iter fields state col = .error reason := by
  obtain ⟨rowNums, _, unfolded⟩ := colCallback_of_even progress known even col
  rw [unfolded, readArrayCB]
  rcases unreadable with noArray | ⟨before, json, after, reason, isArray, readable, refused⟩
  · rw [noArray]
    exact ⟨_, rfl⟩
  · simp only [isArray, foldlM_rowCallback_of_unreadable readable refused]
    exact ⟨_, rfl⟩

end

theorem readUpTo_succ (earlier : ReadUpTo iter fields columns j) (found : columns[j]? = some col)
    (known : fields[j]? = some field) (even : ¬ Uneven columns j)
    (readable : Readable iter field col) : ReadUpTo iter fields columns (j + 1) := by
  intro i before
  rcases Nat.lt_or_eq_of_le (Nat.le_of_lt_succ before) with less | rfl
  · exact earlier i less
  · exact ⟨col, field, found, known, even, readable⟩

variable {start : ParseState}

theorem foldlM_take_of_readUpTo (initially : Progress iter fields columns 0 start)
    (read : ReadUpTo iter fields columns j) :
    ∃ state, (columns.take j).foldlM (colCallback iter fields) start = .ok state ∧
      Progress iter fields columns j state := by
  induction j with
  | zero => exact ⟨start, rfl, initially⟩
  | succ j ih =>
    obtain ⟨state, passed, progress⟩ := ih fun i before => read i (by omega)
    obtain ⟨col, field, found, known, even, readable⟩ := read j (by omega)
    obtain ⟨next, stepped, later⟩ :=
      colCallback_of_readable progress known found even readable
    refine ⟨next, ?_, later⟩
    rw [take_add_one, found, foldlM_append, passed, ok_bind, toList_some, foldlM_cons, stepped]
    rfl

theorem colCallback_cases (progress : Progress iter fields columns j state)
    (found : columns[j]? = some col) (earlier : ReadUpTo iter fields columns j) :
    (∀ reason, colCallback iter fields state col = .error reason →
      RefusedAt iter fields columns j) ∧ ∀ next, colCallback iter fields state col = .ok next →
      ReadUpTo iter fields columns (j + 1) ∧ Progress iter fields columns (j + 1) next := by
  cases known : fields[j]? with
  | none =>
    have outside : colCallback iter fields state col = .panic := by
      simp only [colCallback, progress.colIndex, known]
    rw [outside]
    exact ⟨nofun, nofun⟩
  | some field =>
    by_cases uneven : Uneven columns j
    · obtain ⟨reason, refused⟩ := colCallback_of_uneven progress known uneven
      rw [refused]
      exact ⟨fun _ _ => ⟨earlier, col, field, found, known, .inl uneven⟩, nofun⟩
    · obtain ⟨rowNums, _, unfolded⟩ := colCallback_of_even progress known uneven col
      cases isArray : elements col with
      | none =>
        rw [unfolded, readArrayCB, isArray]
        exact ⟨fun _ _ => ⟨earlier, col, field, found, known, .inr (.inl isArray)⟩, nofun⟩
      | some rows =>
        rw [unfolded, readArrayCB, isArray]
        refine ⟨fun reason failed => ?_, fun next passed => ?_⟩
        · have refused := bind_ok_eq_error.mp failed
          obtain ⟨before, json, after, reason, split, readable, bad⟩ :=
            unreadable_of_foldlM_error refused
          exact ⟨earlier, col, field, found, known,
            .inr (.inr ⟨before, json, after, reason, split ▸ isArray, readable, bad⟩)⟩
        · obtain ⟨last, passedRows, _⟩ := bind_eq_ok.mp passed
          have readable : Readable iter field col :=
            ⟨rows, isArray, readable_of_foldlM_ok passedRows⟩
          obtain ⟨other, stepped, later⟩ :=
            colCallback_of_readable progress known found uneven readable
          rw [unfolded, readArrayCB, isArray] at stepped
          rw [stepped] at passed
          cases passed
          exact ⟨readUpTo_succ earlier found known uneven readable, later⟩

theorem foldlM_drop_cases (done : List Json) {rest : List Json} (split : columns = done ++ rest)
    (progress : Progress iter fields columns done.length state)
    (earlier : ReadUpTo iter fields columns done.length) :
    (∀ reason, rest.foldlM (colCallback iter fields) state = .error reason →
      ∃ j, RefusedAt iter fields columns j) ∧
    ∀ last, rest.foldlM (colCallback iter fields) state = .ok last →
      ReadUpTo iter fields columns columns.length ∧
        Progress iter fields columns columns.length last := by
  induction rest generalizing done state with
  | nil =>
    rw [List.append_nil] at split
    subst split
    refine ⟨nofun, fun last passed => ?_⟩
    cases passed
    exact ⟨earlier, progress⟩
  | cons col rest ih =>
    have found : columns[done.length]? = some col := by
      rw [split, List.getElem?_append_right (Nat.le_refl _), Nat.sub_self]
      rfl
    obtain ⟨refused, passed⟩ := colCallback_cases progress found earlier
    rw [foldlM_cons]
    cases outcome : colCallback iter fields state col with
    | ok next =>
      obtain ⟨readOne, later⟩ := passed next outcome
      have longer : done.length + 1 = (done ++ [col]).length := by simp
      rw [longer] at readOne later
      exact ih (done ++ [col]) (by rw [split]; simp) later readOne
    | error reason => exact ⟨fun _ _ => ⟨_, refused reason outcome⟩, nofun⟩
    | panic | fault => exact ⟨nofun, nofun⟩

theorem foldlM_of_refusedAt (initially : Progress iter fields columns 0 start)
    (refusedAt : RefusedAt iter fields columns j) :
    ∃ reason, columns.foldlM (colCallback iter fields) start = .error reason := by
  obtain ⟨earlier, col, field, found, known, kind⟩ := refusedAt
  obtain ⟨state, passed, progress⟩ := foldlM_take_of_readUpTo initially earlier
  have refused : ∃ reason, colCallback iter fields state col = .error reason := by
    by_cases uneven : Uneven columns j
    · exact colCallback_of_uneven progress known uneven
    · exact colCallback_of_unreadable progress known uneven (kind.resolve_left uneven)
  obtain ⟨reason, failed⟩ := refused
  obtain ⟨inside, isColumn⟩ := List.getElem?_eq_some_iff.mp found
  refine ⟨reason, ?_⟩
  rw [← take_append_drop j columns, foldlM_append, passed, ok_bind,
    drop_eq_getElem_cons inside, foldlM_cons, isColumn, failed]
  rfl

theorem rowCount_of_decoded (decoded : DecodedColumn iter field (some col) cells) :
    rowCount col = cells.length := by
  obtain ⟨rows, isArray, each⟩ := decoded
  rw [rowCount, isArray, elim_some]
  exact each.length_eq

theorem decoded_of_progress (progress : Progress iter fields columns columns.length last)
    (known : fields[j]? = some field) (place : last.data[j]? = some cells) :
    DecodedColumn iter field columns[j]? cells := by
  cases found : columns[j]? with
  | some col =>
    have before := lt_of_getElem? found
    obtain ⟨others, placed, decoded⟩ := progress.read j field col before known found
    rw [place] at placed
    cases placed
    exact decoded
  | none =>
    have after := List.getElem?_eq_none_iff.mp found
    have inside := lt_of_getElem? known
    have empty := progress.unread j after inside
    rw [place] at empty
    cases empty
    rfl

theorem readUpTo_of_rectangular (rectangular : Rectangular iter fields columns) :
    ReadUpTo iter fields columns columns.length := by
  obtain ⟨rows, same, _⟩ := rectangular.height
  have height : ∀ i < columns.length, rowsAt columns i = rows := by
    intro i before
    rw [rowsAt, List.getElem?_eq_getElem before, elim_some]
    exact same _ (getElem_mem before)
  intro i before
  have inside := Nat.lt_of_lt_of_le before rectangular.width
  have found := List.getElem?_eq_getElem before
  have known := List.getElem?_eq_getElem inside
  refine ⟨_, _, found, known, ?_, rectangular.readable i _ _ found known⟩
  rintro ⟨_, differs⟩
  rw [height 0 (by omega), height (i - 1) (by omega)] at differs
  exact differs rfl

theorem height_of_rectangular (rectangular : Rectangular iter fields columns)
    (progress : Progress iter fields columns columns.length last) :
    ∃ rows, ∀ cells ∈ last.data, cells.length = rows := by
  obtain ⟨rows, same, short⟩ := rectangular.height
  refine ⟨rows, fun cells mem => ?_⟩
  obtain ⟨j, place⟩ := mem_iff_getElem?.mp mem
  have inside := lt_of_getElem? place
  rw [progress.width] at inside
  have known := List.getElem?_eq_getElem inside
  have decoded := decoded_of_progress progress known place
  cases found : columns[j]? with
  | some col =>
    rw [found] at decoded
    rw [← rowCount_of_decoded decoded]
    exact same col (mem_of_getElem? found)
  | none =>
    rw [found] at decoded
    have after := List.getElem?_eq_none_iff.mp found
    rw [short (by omega), show cells = [] from decoded]
    rfl

theorem rectangular_of_height (read : ReadUpTo iter fields columns columns.length)
    (progress : Progress iter fields columns columns.length last) {rows : Nat}
    (height : ∀ cells ∈ last.data, cells.length = rows) : Rectangular iter fields columns where
  width := by
    by_contra more
    obtain ⟨_, _, _, known, _⟩ := read fields.length (by omega)
    rw [List.getElem?_eq_none (Nat.le_refl _)] at known
    cases known
  readable := by
    intro j col field found known
    have before := lt_of_getElem? found
    obtain ⟨column', field', found', known', _, readable⟩ := read j before
    rw [found] at found'
    rw [known] at known'
    cases found'
    cases known'
    exact readable
  height := by
    refine ⟨rows, fun col mem => ?_, fun short => ?_⟩
    · obtain ⟨j, found⟩ := mem_iff_getElem?.mp mem
      have before := lt_of_getElem? found
      obtain ⟨_, field, _, known, _⟩ := read j before
      obtain ⟨cells, place, decoded⟩ := progress.read j field col before known found
      rw [rowCount_of_decoded decoded]
      exact height cells (mem_of_getElem? place)
    · have empty := progress.unread columns.length (Nat.le_refl _) short
      exact (height [] (mem_of_getElem? empty)).symm

end

section

variable {iter : Readers} {document : Json} {target : BindTarget}

theorem stmtParseColumn_of_not_array (noArray : elements document = none) :
    stmtParseColumn iter document target = .error (notAnArray document) := by
  rw [stmtParseColumn, readArrayCB, noArray]
  rfl

variable {columns : List Json} (isArray : elements document = some columns)

include isArray

theorem stmtParseColumn_of_array : stmtParseColumn iter document target =
      (columns.foldlM (colCallback iter target.fields) (.initial target) >>= fun state =>
        .ok (state.data, state.fieldTypes)) := by
  rw [stmtParseColumn, readArrayCB, isArray]

theorem columnsOf_of_array : columnsOf document = columns := by
  rw [columnsOf, isArray, getD_some]

theorem parsed_iff_rectangular {last : ParseState}
    (read : ReadUpTo iter target.fields columns columns.length)
    (progress : Progress iter target.fields columns columns.length last) :
    Parsed iter document target.fields last.data ↔ Rectangular iter target.fields columns := by
  constructor
  · intro parsed
    obtain ⟨rows, height⟩ := parsed.height
    exact rectangular_of_height read progress height
  · intro rectangular
    refine ⟨progress.width, height_of_rectangular rectangular progress, ?_⟩
    intro j field cells known place
    rw [columnsOf_of_array isArray]
    exact decoded_of_progress progress known place

end

/-- The parser gives an error or the table of the document exactly if the
document is refused or has the shape of the fields. -/
theorem error_or_parsed_iff (iter : Readers) (document : Json) (target : BindTarget) :
    ErrorOrParsed iter document target ↔ RefusedOrRectangular iter document target := by
  unfold ErrorOrParsed RefusedOrRectangular
  cases isArray : elements document with
  | none => exact ⟨fun _ => .inl rfl, fun _ => .inl ⟨_, stmtParseColumn_of_not_array isArray⟩⟩
  | some columns =>
    have initially : Progress iter target.fields columns 0 (.initial target) :=
      progress_initial target
    obtain ⟨refused, passed⟩ :=
      foldlM_drop_cases [] rfl initially fun i before => absurd before (by simp)
    rw [stmtParseColumn_of_array isArray, columnsOf_of_array isArray]
    simp only [reduceCtorEq, false_or]
    constructor
    · rintro (⟨reason, failed⟩ | ⟨data, types, result, parsed⟩)
      · left
        exact refused reason (bind_ok_eq_error.mp failed)
      · right
        obtain ⟨last, finished, isData⟩ := bind_eq_ok.mp result
        cases isData
        obtain ⟨read, progress⟩ := passed last finished
        exact (parsed_iff_rectangular isArray read progress).mp parsed
    · rintro (⟨j, refusedAt⟩ | rectangular)
      · left
        obtain ⟨reason, failed⟩ := foldlM_of_refusedAt initially refusedAt
        exact ⟨reason, by rw [failed]; rfl⟩
      · right
        have read := readUpTo_of_rectangular rectangular
        obtain ⟨last, finished, progress⟩ := foldlM_take_of_readUpTo initially read
        rw [take_length] at finished
        exact ⟨_, _, by rw [finished]; rfl,
          (parsed_iff_rectangular isArray read progress).mpr rectangular⟩

def boolReaders : Readers where
  readBool
    | .bool value => .ok value
    | json => .error ⟨"ReadBool", ascii "expect t or f, but found " ++ [firstByte json]⟩
  readInt _ json := .error (notAnArray json)
  readUint _ json := .error (notAnArray json)
  readFloat _ json := .error (notAnArray json)
  readString json := .error (notAnArray json)
  parseTime := .error
  quote := id

def boolTarget : BindTarget := ⟨[⟨"a", 1, 0⟩, ⟨"b", 1, 0⟩], none, nofun⟩

/-- A last column of another length and a missing column come through as data
of uneven columns, and a third column indexes past the two fields. -/
theorem uneven_columns_parsed : (¬ ErrorOrParsed boolReaders
      (.array [.array [.bool true], .array [.bool true, .bool false]]) boolTarget) ∧
    (¬ ErrorOrParsed boolReaders (.array [.array [.bool true]]) boolTarget) ∧
    stmtParseColumn boolReaders
      (.array [.array [.bool true], .array [.bool true], .array [.bool true]]) boolTarget =
        .panic := by
  refine ⟨?_, ?_, rfl⟩
  · rintro (⟨reason, failed⟩ | ⟨data, types, result, parsed⟩)
    · cases failed
    · cases result
      obtain ⟨rows, height⟩ := parsed.height
      have first := height [some (.bool true)] (by decide)
      have second := height [some (.bool true), some (.bool false)] (by decide)
      rw [← first] at second
      cases second
  · rintro (⟨reason, failed⟩ | ⟨data, types, result, parsed⟩)
    · cases failed
    · cases result
      obtain ⟨rows, height⟩ := parsed.height
      have first := height [some (.bool true)] (by decide)
      have second := height [] (by decide)
      rw [← first] at second
      cases second

end TaosAdapter.Stmt
