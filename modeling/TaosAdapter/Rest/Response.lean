import TaosAdapter.Rest.CellTexts
import TaosAdapter.Rest.Query
import TaosAdapter.Stmt.Bounds
import Mathlib.Data.List.Forall2

/-!
Owns: the bytes that answer a query, as a JSON document. What was sent and what
is buffered belong together: a write adds to it at the end, and a flush leaves
it as it is.

The cells are taken as they are written: a block comes with the value and the
text of each of its cells.
-/

namespace TaosAdapter.Rest

open Lib Driver JsonBuilder List Outcome
open RawBlock (Read loadInt32 valueStart rawBlockGetColumnLengthOffset
  rawBlockGetColDataOffset)

namespace Query

variable (query : Query)

/-- The entry of a column in the table of lengths. -/
def lengthEntry (col : Nat) : Int :=
  rawBlockGetColumnLengthOffset query.fieldsCount + col * 4

/-- The address of a column: the columns lie one behind the other, each with its
header and as many bytes as the table of lengths says. -/
def columnAddress (block : Bytes) (n : Nat) : Nat → Int
  | 0 => rawBlockGetColDataOffset query.fieldsCount
  | col + 1 =>
    query.rowsHeader[col]?.elim (columnAddress block n col) (fun header =>
      valueStart n header.colType (columnAddress block n col)) +
        int32At block (query.lengthEntry col)

/-- The cell of a row in the column at an index. -/
def writeCellAt (block : Bytes) (n row : Nat) (header : HeaderColumn) (col : Nat)
    (builder : Stream) : Read Stream :=
  jsonWriteRawBlock query.formatting query.precision block builder header.colType
    (query.columnAddress block n col)
    (valueStart n header.colType (query.columnAddress block n col)) row

end Query

/-- A writer that appends the text of a value to every stream without an error. -/
structure WritesValue (value : Json) (text : Bytes) (write : Stream → Read Stream) : Prop where
  element : JsonElement value text
  appends : ∀ stream : Stream, stream.error = none → write stream = .ok (stream.append text)

/-- A block of at least one row, with the table of lengths and with cells that are
each written as one value. -/
structure ReadyBlock (query : Query) where
  n : Nat
  positive : 0 < n
  block : Bytes
  lengths : ∀ col < query.fieldsCount, Within block (query.lengthEntry col) 4
  value : Nat → Nat → Json
  text : Nat → Nat → Bytes
  written : ∀ row < n, ∀ (col : Nat) (header : HeaderColumn),
    query.rowsHeader[col]? = some header →
      WritesValue (value row col) (text row col)
        (query.writeCellAt block n row header col)

section

variable {query : Query} (ready : ReadyBlock query)

def ReadyBlock.answer : FetchResult := ⟨ready.n, ready.block⟩

def key (name : String) : List Nat := utf16Encode name.toList

/-- A row as an array of its cells, or as an object with the names of the columns. -/
def ReadyBlock.rowValue (row : Nat) : Json :=
  if query.returnObj then
    .object (query.rowsHeader.zipIdx.map fun entry =>
      (key entry.1.colName, ready.value row entry.2))
  else .array (query.rowsHeader.zipIdx.map fun entry => ready.value row entry.2)

def ReadyBlock.rows : List Json :=
  (List.range ready.n).map ready.rowValue

/-- The rows of all blocks, in the order they are fetched. -/
def allRows (blocks : List (ReadyBlock query)) : List Json := blocks.flatMap ReadyBlock.rows

def rowCountOf (blocks : List (ReadyBlock query)) : Nat := (blocks.map ReadyBlock.n).sum

end

namespace Query

variable (query : Query)

/-- The first rows, up to the limit if there is one. -/
def firstRows {Row : Type} (rows : List Row) : List Row :=
  if query.restfulRowLimit < 0 then rows else rows.take query.restfulRowLimit.toNat

def Room (total : Nat) : Prop := query.restfulRowLimit < 0 ∨ total < query.restfulRowLimit

end Query

def int64Text (val : BitVec 64) : Bytes := (Stream.empty.writeInt64 val).buf

def countText (count : Nat) : Bytes := int64Text (BitVec.ofNat 64 count)

def HeaderColumn.metaValue (col : HeaderColumn) : Json :=
  .array [.string (key col.colName), .string (key col.typeDatabaseName),
    .number (int64Text col.colLength)]

def Query.response (query : Query) (rows : List Json) : Json :=
  .object ([(key "code", .number (ascii "0")),
    (key "column_meta", .array (query.rowsHeader.map HeaderColumn.metaValue)),
    (key "data", .array rows),
    (key "rows", .number (countText rows.length))] ++
      query.timing.toList.map fun elapsed => (key "timing", .number (int64Text elapsed)))

def written (stream : Stream) : Bytes := stream.out ++ stream.buf

structure Adds (before : Stream) (text : Bytes) (after : Stream) : Prop where
  healthy : after.error = none
  same : written after = written before ++ text

section

variable {first second third : Stream} {text more : Bytes}

theorem Adds.trans (adds : Adds first text second) (then_ : Adds second more third) :
    Adds first (text ++ more) third where
  healthy := then_.healthy
  same := by rw [then_.same, adds.same, append_assoc]

theorem adds_append (healthy : first.error = none) (text : Bytes) :
    Adds first text (first.append text) where
  healthy := healthy
  same := by rw [written, written, Stream.append, append_assoc]

theorem forceFlush_adds (healthy : first.error = none) :
    ∃ after, forceFlush first = .ok after ∧ Adds first [] after ∧ after.buf = [] := by
  refine ⟨{ first with out := first.out ++ first.buf, buf := [] }, ?_, ⟨healthy, ?_⟩, rfl⟩
  · rw [forceFlush, Stream.flush, healthy]
    rfl
  · simp [written]

theorem tryFlush_adds (healthy : first.error = none) :
    ∃ after, tryFlush first = .ok after ∧ Adds first [] after := by
  unfold tryFlush
  split_ifs
  · obtain ⟨after, flushed, adds, _⟩ := forceFlush_adds healthy
    exact ⟨after, flushed, adds⟩
  · exact ⟨first, rfl, healthy, (List.append_nil _).symm⟩

end

theorem writeInt64_eq (val : BitVec 64) : IsNumber (int64Text val) ∧
      ∀ stream : Stream, stream.writeInt64 val = stream.append (int64Text val) := by
  obtain ⟨text, isNumber, appends⟩ := writesUnsigned_writeUint64.signed val
  have isText : int64Text val = text := congrArg Stream.buf (appends Stream.empty)
  rw [isText]
  exact ⟨isNumber, appends⟩

theorem numeral_countText {count : Nat} (small : count < 2 ^ 63) :
    Numeral count (countText count) := by
  obtain ⟨text, numeral, appends⟩ := writeInt_eq small
  have isText : countText count = text := congrArg Stream.buf (appends Stream.empty)
  rw [isText]
  exact numeral

def keyText (name : String) : Bytes := (ascii name).flatMap escaped

theorem stringBody_keyText (name : String) : StringBody (key name) (keyText name) :=
  stringBody_escaped name.toList

def HeaderColumn.metaText (col : HeaderColumn) : Bytes :=
  91 :: (joined [quoted (keyText col.colName), quoted (keyText col.typeDatabaseName),
    int64Text col.colLength] ++ [93])

theorem HeaderColumn.element_metaText (col : HeaderColumn) :
    JsonElement col.metaValue col.metaText := by
  have name := (JsonText.string (stringBody_keyText col.colName)).element
  have type := (JsonText.string (stringBody_keyText col.typeDatabaseName)).element
  have length := (JsonText.number (writeInt64_eq col.colLength).1).element
  exact (jsonText_array (.cons name (.cons type (.cons length .nil)))).element

theorem append_joined (builder : Stream) (text : Bytes) (texts : List Bytes) :
    (if texts.isEmpty then builder.append text else (builder.append text).writeMore).append
      (joined texts) = builder.append (joined (text :: texts)) := by
  cases texts with
  | nil => simp [joined]
  | cons next texts => simp [joined, Stream.writeMore]

theorem writeColumnMeta_eq (columns : List HeaderColumn) (builder : Stream) :
    writeColumnMeta columns builder =
      builder.append (joined (columns.map HeaderColumn.metaText)) := by
  induction columns generalizing builder with
  | nil => exact builder.append_nil.symm
  | cons col columns ih =>
    have one :
        ((((builder.writeArrayStart.writeString (ascii col.colName)).writeMore.writeString
        (ascii col.typeDatabaseName)).writeMore.writeInt64 col.colLength).writeArrayEnd) =
          builder.append col.metaText := by
      simp [Stream.writeArrayStart, Stream.writeArrayEnd, Stream.writeMore, writeString_eq,
        (writeInt64_eq col.colLength).2, HeaderColumn.metaText, keyText, joined]
    rw [writeColumnMeta]
    simp only [one, ih]
    have parts := append_joined builder col.metaText (columns.map HeaderColumn.metaText)
    rwa [isEmpty_map] at parts

section

variable {query : Query}

/-- A cell in its row, with the name of its column in an object. -/
def Query.piece (query : Query) (header : HeaderColumn) (text : Bytes) : Bytes :=
  if query.returnObj then memberText (keyText header.colName) text else text

variable {builder : Stream}

theorem writeCells_eq {Entry : Type} (block : Bytes) (row : Nat) (entries : List Entry)
    (col : Entry → HeaderColumn × Int × Int) (text : Entry → Bytes)
    (each : ∀ entry ∈ entries, ∀ builder : Stream, builder.error = none →
      jsonWriteRawBlock query.formatting query.precision block builder (col entry).1.colType
        (col entry).2.1 (col entry).2.2 row = .ok (builder.append (text entry)))
    (healthy : builder.error = none) : query.writeCells block row (entries.map col) builder =
      .ok (builder.append (joined (entries.map fun entry =>
        query.piece (col entry).1 (text entry)))) := by
  induction entries generalizing builder with
  | nil => exact congrArg Outcome.ok builder.append_nil.symm
  | cons entry entries ih =>
    have cell := each entry mem_cons_self
    have first : jsonWriteRawBlock query.formatting query.precision block
        (if query.returnObj then builder.writeObjectField (ascii (col entry).1.colName)
          else builder) (col entry).1.colType (col entry).2.1 (col entry).2.2 row =
        .ok (builder.append (query.piece (col entry).1 (text entry))) := by
      unfold Query.piece
      split_ifs
      · rw [writeObjectField_eq, cell (builder.append _) healthy, Stream.append_append,
          memberText, append_assoc]
        rfl
      · exact cell builder healthy
    have parts := append_joined builder (query.piece (col entry).1 (text entry))
      (entries.map fun entry => query.piece (col entry).1 (text entry))
    rw [isEmpty_map] at parts
    rw [map_cons, Query.writeCells]
    simp only [first, ok_bind, isEmpty_map]
    rw [ih (fun entry mem => each entry (mem_cons_of_mem _ mem))
      (by split_ifs <;> exact healthy), parts, map_cons]

def Query.opening (query : Query) : UInt8 := if query.returnObj then 123 else 91

def Query.closing (query : Query) : UInt8 := if query.returnObj then 125 else 93

theorem opened_eq (builder : Stream) :
    (if query.returnObj then builder.writeObjectStart else builder.writeArrayStart) =
      builder.append [query.opening] := by
  unfold Query.opening
  split_ifs
  · rfl
  · rfl

theorem closed_eq (builder : Stream) :
    (if query.returnObj then builder.writeObjectEnd else builder.writeArrayEnd) =
      builder.append [query.closing] := by
  unfold Query.closing
  split_ifs
  · rfl
  · rfl

namespace ReadyBlock

variable (ready : ReadyBlock query)

def located (entry : HeaderColumn × Nat) : HeaderColumn × Int × Int :=
  (entry.1, query.columnAddress ready.block ready.n entry.2,
    valueStart ready.n entry.1.colType (query.columnAddress ready.block ready.n entry.2))

def pieces (row : Nat) : List Bytes :=
  query.rowsHeader.zipIdx.map fun entry => query.piece entry.1 (ready.text row entry.2)

def rowText (row : Nat) : Bytes :=
  query.opening :: (joined (ready.pieces row) ++ [query.closing])

def rowTexts : List Bytes := (List.range ready.n).map ready.rowText

theorem element_rowText {row : Nat} (inside : row < ready.n) :
    JsonElement (ready.rowValue row) (ready.rowText row) := by
  have cells : ∀ entry ∈ query.rowsHeader.zipIdx,
      JsonElement (ready.value row entry.2) (ready.text row entry.2) := by
    intro entry mem
    have found := mem_zipIdx_iff_getElem?.mp mem
    exact (ready.written row inside entry.2 entry.1 found).element
  unfold rowValue rowText pieces Query.piece Query.opening Query.closing
  split_ifs
  · refine (jsonText_object ?_).element
    rw [forall₂_map_left_iff, forall₂_map_right_iff, forall₂_same]
    intro entry mem
    exact jsonMember_memberText (stringBody_keyText entry.1.colName) (cells entry mem)
  · refine (jsonText_array ?_).element
    rw [forall₂_map_left_iff, forall₂_map_right_iff, forall₂_same]
    exact cells

theorem writeRow_adds {row : Nat} (inside : row < ready.n) {builder : Stream}
    (healthy : builder.error = none) :
    ∃ after, query.writeRow ready.block (query.rowsHeader.zipIdx.map ready.located) row builder =
      .ok after ∧ Adds builder (ready.rowText row) after := by
  have cells : query.writeCells ready.block row (query.rowsHeader.zipIdx.map ready.located)
      (builder.append [query.opening]) =
        .ok ((builder.append [query.opening]).append (joined (ready.pieces row))) := by
    refine writeCells_eq ready.block row query.rowsHeader.zipIdx ready.located
      (fun entry => ready.text row entry.2) ?_ healthy
    intro entry mem
    have found := mem_zipIdx_iff_getElem?.mp mem
    exact (ready.written row inside entry.2 entry.1 found).appends
  have opened := adds_append healthy [query.opening]
  have filled := adds_append opened.healthy (joined (ready.pieces row))
  obtain ⟨after, flushed, kept⟩ := tryFlush_adds filled.healthy
  have closed := adds_append kept.healthy [query.closing]
  refine ⟨after.append [query.closing], ?_, ?_⟩
  · unfold Query.writeRow
    simp only [opened_eq, closed_eq, cells, Outcome.widen, ok_bind, flushed]
  · have all := ((opened.trans filled).trans kept).trans closed
    rwa [List.append_nil, append_assoc] at all

theorem loadInt32_entry {col : Nat} (inside : col < query.fieldsCount) :
    loadInt32 ready.block (query.lengthEntry col) =
      .ok (int32At ready.block (query.lengthEntry col)) := by
  have within := ready.lengths col inside
  simp [loadInt32, RawBlock.load, peekNat_of_within within, int32At]

theorem columnPointers_eq {columns : List HeaderColumn} {col : Nat}
    (isRest : query.rowsHeader.drop col = columns) :
    columnPointers ready.block ready.n query.fieldsCount columns col
      (query.columnAddress ready.block ready.n col) =
        .ok ((columns.zipIdx col).map fun entry => (ready.located entry).2) := by
  induction columns generalizing col with
  | nil => rfl
  | cons header columns ih =>
    have found : query.rowsHeader[col]? = some header := by
      rw [← List.head?_drop, isRest]
      rfl
    have inside : col < query.fieldsCount := lt_of_getElem? found
    have rest : query.rowsHeader.drop (col + 1) = columns := by
      rw [← tail_drop, isRest]
      rfl
    have next : query.columnAddress ready.block ready.n (col + 1) =
        valueStart ready.n header.colType (query.columnAddress ready.block ready.n col) +
          int32At ready.block (query.lengthEntry col) := by
      rw [Query.columnAddress, found]
      rfl
    have later := ih rest
    rw [next] at later
    have entry := ready.loadInt32_entry inside
    rw [Query.lengthEntry] at entry later
    simp only [columnPointers, entry, ok_bind, later]
    rfl

theorem zip_pointers (columns : List HeaderColumn) (col : Nat) :
    columns.zip ((columns.zipIdx col).map fun entry => (ready.located entry).2) =
      (columns.zipIdx col).map ready.located := by
  induction columns generalizing col with
  | nil => rfl
  | cons header columns ih =>
    rw [zipIdx_cons, map_cons, zip_cons_cons, ih, map_cons]
    rfl

end ReadyBlock

/-- The rows that are still wanted when `total` rows were written. -/
def Query.wanted (query : Query) {Row : Type} (total : Nat) (rows : List Row) : List Row :=
  if query.restfulRowLimit < 0 then rows else rows.take (query.restfulRowLimit.toNat - total)

variable {total : Nat}

theorem room_of_not_reached (inLimit : query.restfulRowLimit < 0 ∨ total ≤ query.restfulRowLimit)
    (notReached : ¬ query.limitReached total) : query.Room total := by
  unfold Query.limitReached at notReached
  unfold Query.Room
  omega

theorem not_room_of_reached (reached : query.limitReached total) : ¬ query.Room total := by
  unfold Query.limitReached at reached
  unfold Query.Room
  omega

theorem room_mono {more : Nat} (room : query.Room (total + more)) : query.Room total := by
  unfold Query.Room at *
  omega

section

variable {Row : Type} {total : Nat}

theorem wanted_eq_nil (reached : query.limitReached total) (rows : List Row) :
    query.wanted total rows = [] := by
  obtain ⟨isLimit, same⟩ := reached
  have none : query.restfulRowLimit.toNat - total = 0 := by omega
  rw [Query.wanted, if_neg (by omega), none, take_zero]

theorem wanted_cons (room : query.Room total) (row : Row) (rows : List Row) :
    query.wanted total (row :: rows) = row :: query.wanted (total + 1) rows := by
  unfold Query.wanted
  unfold Query.Room at room
  split_ifs with noLimit
  · rfl
  · have more : query.restfulRowLimit.toNat - total =
        query.restfulRowLimit.toNat - (total + 1) + 1 := by omega
    rw [more, take_succ_cons]

theorem wanted_append (total : Nat) (first second : List Row) :
    query.wanted total (first ++ second) = query.wanted total first ++
        query.wanted (total + (query.wanted total first).length) second := by
  unfold Query.wanted
  split_ifs with noLimit
  · rfl
  · have rest : query.restfulRowLimit.toNat - (total + (first.take
        (query.restfulRowLimit.toNat - total)).length) =
          query.restfulRowLimit.toNat - total - first.length := by
      rw [length_take]
      omega
    rw [take_append, rest]

theorem inLimit_wanted (inLimit : query.restfulRowLimit < 0 ∨ total ≤ query.restfulRowLimit)
    (rows : List Row) : query.restfulRowLimit < 0 ∨
      (total + (query.wanted total rows).length : Nat) ≤ query.restfulRowLimit := by
  unfold Query.wanted
  split_ifs with noLimit
  · exact .inl noLimit
  · rw [length_take]
    omega

theorem room_wanted_iff (total more : Nat) (rows : List Row) :
    query.Room (total + (query.wanted total rows).length + more) ↔
      query.Room (total + rows.length + more) := by
  unfold Query.Room Query.wanted
  split_ifs with noLimit
  · rfl
  · rw [length_take]
    omega

theorem wanted_zero (rows : List Row) : query.wanted 0 rows = query.firstRows rows := by
  rw [Query.wanted, Query.firstRows, Nat.sub_zero]

theorem wanted_ne_nil (room : query.Room total) {rows : List Row} (some : rows ≠ []) :
    query.wanted total rows ≠ [] := by
  cases rows with
  | nil => exact absurd rfl some
  | cons row rows =>
    rw [wanted_cons room]
    exact cons_ne_nil _ _

end

theorem ReadyBlock.writeRows_adds (ready : ReadyBlock query) {count row : Nat}
    (isRest : row + count = ready.n) (room : query.Room total) (healthy : builder.error = none) :
    ∃ after, query.writeRows ready.block (query.rowsHeader.zipIdx.map ready.located) count row
      total builder = .ok (after, total +
        (query.wanted total ((List.range' row count).map ready.rowText)).length) ∧
      Adds builder (joined (query.wanted total ((List.range' row count).map ready.rowText)))
        after := by
  -- One row is written and counted; what the limit leaves of the others follows.
  induction count generalizing row total builder with
  | zero =>
    refine ⟨builder, ?_, healthy, ?_⟩
    · simp [Query.writeRows, Query.wanted]
    · simp [Query.wanted, joined]
  | succ count ih =>
    obtain ⟨after, wrote, adds⟩ := ready.writeRow_adds (show row < ready.n by omega) healthy
    rw [range'_succ, map_cons, wanted_cons room, Query.writeRows, wrote, ok_bind]
    by_cases reached : query.limitReached (total + 1)
    · rw [if_pos reached, wanted_eq_nil reached]
      exact ⟨after, rfl, adds⟩
    · have inLimit : query.restfulRowLimit < 0 ∨ (total + 1 : Nat) ≤ query.restfulRowLimit := by
        unfold Query.Room at room
        omega
      have roomNext := room_of_not_reached inLimit reached
      rw [if_neg reached]
      cases count with
      | zero =>
        refine ⟨after, ?_, ?_⟩
        · simp [Query.writeRows, Query.wanted]
        · simpa [Query.wanted, joined] using adds
      | succ count =>
        have comma := adds_append adds.healthy [44]
        have isRestNext : row + 1 + (count + 1) = ready.n := by omega
        obtain ⟨last, wroteRest, addsRest⟩ :=
          ih isRestNext roomNext comma.healthy
        have more : query.wanted (total + 1)
            ((List.range' (row + 1) (count + 1)).map ready.rowText) ≠ [] :=
          wanted_ne_nil roomNext (by simp)
        refine ⟨last, ?_, ?_⟩
        · rw [if_neg (Nat.succ_ne_zero count)]
          rw [Stream.writeMore, wroteRest, length_cons]
          congr 2
          omega
        · rw [joined_cons _ more]
          have all := (adds.trans comma).trans addsRest
          rwa [append_assoc, singleton_append] at all

def allTexts (blocks : List (ReadyBlock query)) : List Bytes :=
  blocks.flatMap ReadyBlock.rowTexts

variable (blocks : List (ReadyBlock query))

theorem forall₂_allTexts : List.Forall₂ JsonElement (allRows blocks) (allTexts blocks) := by
  induction blocks with
  | nil => exact .nil
  | cons ready blocks ih =>
    have rows : List.Forall₂ JsonElement ready.rows ready.rowTexts := by
      rw [ReadyBlock.rows, ReadyBlock.rowTexts, forall₂_map_left_iff,
        forall₂_map_right_iff, forall₂_same]
      intro row mem
      exact ready.element_rowText (mem_range.mp mem)
    rw [allRows, allTexts, flatMap_cons, flatMap_cons]
    exact rel_append rows ih

theorem forall₂_firstRows : List.Forall₂ JsonElement (query.firstRows (allRows blocks))
      (query.firstRows (allTexts blocks)) := by
  unfold Query.firstRows
  split_ifs
  · exact forall₂_allTexts blocks
  · exact forall₂_take _ (forall₂_allTexts blocks)

/-- The rows of a loop that goes on after other rows begin with a comma. -/
def continued (fetched : Bool) (texts : List Bytes) : Bytes :=
  if texts = [] then [] else (if fetched then [44] else []) ++ joined texts

variable {fetched : Bool}

theorem continued_append {first second : List Bytes} (some : first ≠ []) :
    continued fetched (first ++ second) =
      ((if fetched then [44] else []) ++ joined first) ++ continued true second := by
  have all : first ++ second ≠ [] := by simp [some]
  rw [continued, if_neg all]
  by_cases none : second = []
  · simp [none, continued]
  · rw [joined_append some none]
    simp [continued, none]

theorem continued_false (texts : List Bytes) : continued false texts = joined texts := by
  cases texts with
  | nil | cons => rfl

/-- What the loop over the blocks did from a state on. -/
structure LoopDone (blocks : List (ReadyBlock query)) (fetched : Bool)
    (state last : Query.Fetched) : Prop where
  adds : Adds state.builder (continued fetched (query.wanted state.total (allTexts blocks)))
    last.builder
  total : last.total = state.total + (query.wanted state.total (allTexts blocks)).length
  fetches : ∃ made, last.fetches = state.fetches + made ∧ ∀ k,
    k < made ↔ k ≤ blocks.length ∧ query.Room (state.total + rowCountOf (blocks.take k))

theorem length_rowTexts (ready : ReadyBlock query) : ready.rowTexts.length = ready.n := by
  rw [ReadyBlock.rowTexts, length_map, length_range]

variable {state : Query.Fetched}

theorem loopDone_of_reached {blocks : List (ReadyBlock query)}
    (healthy : state.builder.error = none) (reached : query.limitReached state.total) :
    LoopDone blocks fetched state state := by
  have none := wanted_eq_nil reached (allTexts blocks)
  refine ⟨⟨healthy, ?_⟩, ?_, 0, rfl, fun k => ⟨nofun, fun wanted => ?_⟩⟩
  · rw [none]
    exact (List.append_nil _).symm
  · rw [none]
    rfl
  · exact absurd (room_mono wanted.2) (not_room_of_reached reached)

/-- Answers that hold no block: there are none, or the first one is zero or an
error. -/
def Ending (results : List FetchResult) : Prop := ∀ res ∈ results.head?, res.n ≤ 0

variable {results : List FetchResult}

theorem fetchLoop_ending (ending : Ending results) (fetched : Bool)
    (notReached : ¬ query.limitReached state.total) :
    query.fetchLoop results fetched state = .ok { state with fetches := state.fetches + 1 } := by
  cases results with
  | nil => rw [Query.fetchLoop, if_neg notReached]
  | cons res results =>
    have stops : res.n ≤ 0 := ending res rfl
    rw [Query.fetchLoop, if_neg notReached]
    by_cases zero : res.n = 0
    · rw [if_pos zero]
    · rw [if_neg zero, if_pos (by omega)]

theorem fetchLoop_done (ending : Ending results) (fetched : Bool)
    (healthy : state.builder.error = none)
    (inLimit : query.restfulRowLimit < 0 ∨ state.total ≤ query.restfulRowLimit) :
    ∃ last, query.fetchLoop (blocks.map ReadyBlock.answer ++ results) fetched state = .ok last ∧
      LoopDone blocks fetched state last := by
  induction blocks generalizing fetched state with
  | nil =>
    by_cases reached : query.limitReached state.total
    · refine ⟨state, ?_, loopDone_of_reached healthy reached⟩
      cases results with
      | nil | cons => rw [map_nil, nil_append, Query.fetchLoop, if_pos reached]
    · refine ⟨_, fetchLoop_ending ending fetched reached, ⟨healthy, ?_⟩, ?_, 1, rfl, fun k => ?_⟩
      · simp [allTexts, Query.wanted, continued]
      · simp [allTexts, Query.wanted]
      · have room := room_of_not_reached inLimit reached
        simpa [rowCountOf, Nat.lt_one_iff] using fun _ => room
  | cons ready blocks ih =>
    by_cases reached : query.limitReached state.total
    · refine ⟨state, ?_, loopDone_of_reached healthy reached⟩
      rw [map_cons, cons_append, Query.fetchLoop, if_pos reached]
    have room := room_of_not_reached inLimit reached
    -- The comma, the rows of the block, and the rest of the loop.
    have comma : Adds state.builder (if fetched then [44] else [])
        (if fetched then state.builder.writeMore else state.builder) := by
      cases fetched with
      | true => exact adds_append healthy [44]
      | false => exact ⟨healthy, (List.append_nil _).symm⟩
    obtain ⟨after, wrote, addsRows⟩ :=
      ready.writeRows_adds (Nat.zero_add ready.n) room comma.healthy
    have isTexts : (List.range' 0 ready.n).map ready.rowText = ready.rowTexts := by
      rw [ReadyBlock.rowTexts, range_eq_range']
    rw [isTexts] at wrote addsRows
    let next : Query.Fetched := ⟨after,
      state.total + (query.wanted state.total ready.rowTexts).length, state.fetches + 1⟩
    have healthyNext : next.builder.error = none := addsRows.healthy
    obtain ⟨last, finished, done⟩ :=
      ih true healthyNext (inLimit_wanted inLimit ready.rowTexts)
    have nonempty : ready.rowTexts ≠ [] := by
      have length := length_rowTexts ready
      have pos := ready.positive
      intro none
      rw [none] at length
      simp at length
      omega
    have split : allTexts (ready :: blocks) = ready.rowTexts ++ allTexts blocks :=
      flatMap_cons
    refine ⟨last, ?_, ?_, ?_, ?_⟩
    · have pos := ready.positive
      have pointers : columnPointers ready.block ready.n query.fieldsCount query.rowsHeader 0
          (rawBlockGetColDataOffset query.fieldsCount) =
            .ok (query.rowsHeader.zipIdx.map fun entry => (ready.located entry).2) :=
        ready.columnPointers_eq (drop_zero)
      rw [map_cons, cons_append, Query.fetchLoop, if_neg reached,
        if_neg (by show ¬ (ready.n : Int) = 0; omega),
        if_neg (by show ¬ (ready.n : Int) < 0; omega)]
      simp only [ReadyBlock.answer, Int.toNat_natCast, pointers, Outcome.widen, ok_bind,
        ready.zip_pointers, wrote]
      exact finished
    · rw [split, wanted_append, continued_append (wanted_ne_nil room nonempty)]
      exact (comma.trans addsRows).trans done.adds
    · rw [split, wanted_append, length_append, ← Nat.add_assoc]
      exact done.total
    · obtain ⟨made, isMade, rooms⟩ := done.fetches
      refine ⟨made + 1, by rw [isMade]; show state.fetches + 1 + made = _; omega, ?_⟩
      intro k
      cases k with
      | zero => simpa [rowCountOf] using room
      | succ k =>
        have later := rooms k
        have sum : rowCountOf ((ready :: blocks).take (k + 1)) =
            ready.n + rowCountOf (blocks.take k) := by
          simp [rowCountOf]
        have same : query.Room (state.total + (query.wanted state.total
            ready.rowTexts).length + rowCountOf (blocks.take k)) ↔
              query.Room (state.total + ready.n + rowCountOf (blocks.take k)) := by
          rw [room_wanted_iff, length_rowTexts]
        rw [sum, ← Nat.add_assoc, ← same, length_cons, Nat.succ_lt_succ_iff, Nat.succ_le_succ_iff]
        exact later

theorem fetchLoop_firstRows (ending : Ending results) {start : Stream}
    (healthy : start.error = none) :
    ∃ last, query.fetchLoop (blocks.map ReadyBlock.answer ++ results) false ⟨start, 0, 0⟩ =
        .ok last ∧ Adds start (joined (query.firstRows (allTexts blocks))) last.builder ∧
      last.total = (query.firstRows (allTexts blocks)).length ∧ ∀ k, k < last.fetches ↔
        k ≤ blocks.length ∧ query.Room (rowCountOf (blocks.take k)) := by
  let state : Query.Fetched := ⟨start, 0, 0⟩
  have healthyState : state.builder.error = none := healthy
  have inLimit : query.restfulRowLimit < 0 ∨ (state.total : Int) ≤ query.restfulRowLimit := by
    show query.restfulRowLimit < 0 ∨ ((0 : Nat) : Int) ≤ query.restfulRowLimit
    omega
  obtain ⟨last, looped, adds, total, made, isMade, rooms⟩ :=
    fetchLoop_done blocks ending false healthyState inLimit
  have isWanted : query.wanted state.total (allTexts blocks) = query.firstRows (allTexts blocks) :=
    wanted_zero _
  rw [isWanted] at adds total
  rw [continued_false] at adds
  refine ⟨last, looped, adds, total.trans (Nat.zero_add _), fun k => ?_⟩
  have made := rooms k
  rw [show state.total = 0 from rfl, Nat.zero_add] at made
  rw [isMade, show state.fetches = 0 from rfl, Nat.zero_add]
  exact made

end

theorem query2_eq : query2 = 123 :: (memberText (keyText "code") (ascii "0") ++
    44 :: (quoted (keyText "column_meta") ++ [58, 91])) := by
  decide +kernel

theorem query3_eq : query3 = 93 :: 44 :: (quoted (keyText "data") ++ [58, 91]) := by
  decide +kernel

theorem query4_eq : query4 = 93 :: 44 :: (quoted (keyText "rows") ++ [58]) := by
  decide +kernel

theorem timingKey_eq : timingKey = 44 :: (quoted (keyText "timing") ++ [58]) := by
  decide +kernel

section

variable {query : Query}

/-- The members of the answer, from the texts of the rows and their number. -/
def Query.memberTexts (query : Query) (texts : List Bytes) : List Bytes :=
  [memberText (keyText "code") (ascii "0"),
    memberText (keyText "column_meta")
      (91 :: (joined (query.rowsHeader.map HeaderColumn.metaText) ++ [93])),
    memberText (keyText "data") (91 :: (joined texts ++ [93])),
    memberText (keyText "rows") (countText texts.length)] ++
      query.timing.toList.map fun elapsed => memberText (keyText "timing") (int64Text elapsed)

theorem element_response {rows : List Json} {texts : List Bytes}
    (elements : List.Forall₂ JsonElement rows texts) :
    JsonElement (query.response rows) (123 :: (joined (query.memberTexts texts) ++ [125])) := by
  have number : ∀ val : BitVec 64, JsonElement (.number (int64Text val)) (int64Text val) :=
    fun val => (JsonText.number (writeInt64_eq val).1).element
  have mem : ∀ (name : String) {value : Json} {text : Bytes}, JsonElement value text →
      JsonMember (key name, value) (memberText (keyText name) text) := by
    intro name value text element
    exact jsonMember_memberText (stringBody_keyText name) element
  have zero : JsonElement (.number (ascii "0")) (ascii "0") :=
    (JsonText.number (.mk (.inl rfl) .zero .none .none)).element
  have columnMeta : List.Forall₂ JsonElement (query.rowsHeader.map HeaderColumn.metaValue)
      (query.rowsHeader.map HeaderColumn.metaText) := by
    rw [forall₂_map_left_iff, forall₂_map_right_iff, forall₂_same]
    intro col _
    exact col.element_metaText
  have timing : List.Forall₂ JsonMember
      (query.timing.toList.map fun elapsed => (key "timing", Json.number (int64Text elapsed)))
      (query.timing.toList.map fun elapsed =>
        memberText (keyText "timing") (int64Text elapsed)) := by
    rw [forall₂_map_left_iff, forall₂_map_right_iff, forall₂_same]
    intro elapsed _
    exact mem "timing" (number elapsed)
  refine (jsonText_object (rel_append ?_ timing)).element
  refine .cons (mem "code" zero)
    (.cons (mem "column_meta" (jsonText_array columnMeta).element)
    (.cons (mem "data" (jsonText_array elements).element) (.cons ?_ .nil)))
  rw [countText, countText, elements.length_eq]
  exact mem "rows" (number _)

theorem writeTiming_eq (builder : Stream) :
    query.writeTiming builder = builder.append ((query.timing.toList.map fun elapsed =>
      44 :: memberText (keyText "timing") (int64Text elapsed)).flatten) := by
  unfold Query.writeTiming
  cases query.timing with
  | none => exact builder.append_nil.symm
  | some elapsed =>
    show (builder.writePure timingKey).writeInt64 elapsed = _
    rw [(writeInt64_eq elapsed).2, Stream.writePure, Stream.append_append, timingKey_eq]
    simp [memberText]

theorem joined_memberTexts (texts : List Bytes) :
    query2 ++ joined (query.rowsHeader.map HeaderColumn.metaText) ++ query3 ++ joined texts ++
      query4 ++ countText texts.length ++ ((query.timing.toList.map fun elapsed =>
        44 :: memberText (keyText "timing") (int64Text elapsed)).flatten) ++ [125] =
      123 :: (joined (query.memberTexts texts) ++ [125]) := by
  rw [query2_eq, query3_eq, query4_eq, Query.memberTexts]
  cases query.timing with
  | none | some => simp [joined, memberText]

theorem execute_eq (blocks : List (ReadyBlock query)) {results : List FetchResult}
    (ending : Ending results) :
    ∃ state, query.execute (blocks.map ReadyBlock.answer ++ results) = .ok state ∧
      state.builder.out =
        123 :: (joined (query.memberTexts (query.firstRows (allTexts blocks))) ++ [125]) ∧
      ∀ k, k < state.fetches ↔ k ≤ blocks.length ∧ query.Room (rowCountOf (blocks.take k)) := by
  have opened := adds_append (show Stream.empty.error = none from rfl) query2
  have columnMeta := adds_append opened.healthy
    (joined (query.rowsHeader.map HeaderColumn.metaText))
  obtain ⟨flushed, tried, kept⟩ := tryFlush_adds columnMeta.healthy
  have data := adds_append kept.healthy query3
  obtain ⟨last, looped, rows, total, rooms⟩ := fetchLoop_firstRows blocks ending data.healthy
  generalize query.firstRows (allTexts blocks) = texts at rows total
  have rowsKey := adds_append rows.healthy query4
  have count := adds_append rowsKey.healthy (countText texts.length)
  have timing := adds_append count.healthy ((query.timing.toList.map fun elapsed =>
    44 :: memberText (keyText "timing") (int64Text elapsed)).flatten)
  have closed := adds_append timing.healthy [125]
  obtain ⟨builder, forced, sent, noBuffer⟩ := forceFlush_adds closed.healthy
  refine ⟨{ last with builder := builder }, ?_, ?_, rooms⟩
  · simp only [Query.execute, Stream.writePure, writeColumnMeta_eq, tried, ok_bind]
    rw [looped, ok_bind]
    simp only [Stream.writeInt, (writeInt64_eq _).2, writeTiming_eq, Stream.writeObjectEnd, total]
    rw [show int64Text (BitVec.ofNat 64 texts.length) = countText texts.length from rfl, forced]
    rfl
  · have all := ((((((((opened.trans columnMeta).trans kept).trans data).trans rows).trans
      rowsKey).trans count).trans timing).trans closed).trans sent
    have isOut : builder.out = written builder := by
      rw [written, noBuffer, List.append_nil]
    show builder.out = _
    rw [isOut, all.same, List.append_nil, List.append_nil, joined_memberTexts]
    rfl

end

/-- A query whose blocks are fetched without an error is answered with one JSON
object that holds the first rows, up to the limit, and their number, and no
block is fetched once the limit is reached. -/
theorem query_answered (query : Query) (blocks : List (ReadyBlock query)) :
    ∃ state, query.execute (blocks.map ReadyBlock.answer) = .ok state ∧
      JsonDocument (query.response (query.firstRows (allRows blocks))) state.builder.out ∧
      ((query.firstRows (allRows blocks)).length < 2 ^ 63 →
        Numeral (query.firstRows (allRows blocks)).length
          (countText (query.firstRows (allRows blocks)).length)) ∧
      ∀ k < state.fetches, query.Room (rowCountOf (blocks.take k)) := by
  have noMore : Ending [] := nofun
  obtain ⟨state, executed, out, rooms⟩ := execute_eq blocks noMore
  have elements := forall₂_firstRows blocks
  refine ⟨state, ?_, ?_, numeral_countText, fun k before => ((rooms k).mp before).2⟩
  · rwa [List.append_nil] at executed
  · rw [out]
    exact element_response elements

end TaosAdapter.Rest
