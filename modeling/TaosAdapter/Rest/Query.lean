import TaosAdapter.Rest.Cells

/-!
Contract: the answer of `execute` of `controller/rest/restful.go` to a query,
from the header of the result to the last flush, with `tryFlush` and
`forceFlush`.

Owns: the column meta, the loop over the fetched blocks with the row limit, the
pointers to the columns of a block, and the loop over the rows.
-/

namespace TaosAdapter.Rest

open Lib Driver JsonBuilder
open RawBlock (Read loadInt32 valueStart rawBlockGetColumnLengthOffset
  rawBlockGetColDataOffset)

/-- A column of `RowsHeader`. -/
structure HeaderColumn where
  colName : String
  colType : Nat
  colLength : BitVec 64
deriving DecidableEq

/-- `common.TypeNameMap`; a type that is not in the map has the empty name. -/
def typeNameMap : Nat → String
  | 0 => "NULL"
  | 1 => "BOOL"
  | 2 => "TINYINT"
  | 3 => "SMALLINT"
  | 4 => "INT"
  | 5 => "BIGINT"
  | 6 => "FLOAT"
  | 7 => "DOUBLE"
  | 8 => "VARCHAR"
  | 9 => "TIMESTAMP"
  | 10 => "NCHAR"
  | 11 => "TINYINT UNSIGNED"
  | 12 => "SMALLINT UNSIGNED"
  | 13 => "INT UNSIGNED"
  | 14 => "BIGINT UNSIGNED"
  | 15 => "JSON"
  | 16 => "VARBINARY"
  | 20 => "GEOMETRY"
  | _ => ""

def HeaderColumn.typeDatabaseName (column : HeaderColumn) : String := typeNameMap column.colType

/-- A query with a result set, and how it is answered. -/
structure Query where
  rowsHeader : List HeaderColumn
  hasColumns : rowsHeader ≠ []
  precision : Int
  formatting : Formatting
  /-- `config.Conf.RestfulRowLimit` -/
  restfulRowLimit : Int
  returnObj : Bool
  /-- The time to report, if `calculateTiming`. -/
  timing : Option (BitVec 64)

def Query.fieldsCount (query : Query) : Nat := query.rowsHeader.length

/-- What `TaosFetchRawBlockA` answers, with the block of the result. -/
structure FetchResult where
  n : Int
  block : Bytes
deriving DecidableEq

def forceFlush (builder : Stream) : Outcome String Stream := .ofExcept builder.flush

def tryFlush (builder : Stream) : Outcome String Stream :=
  if builder.buffered > 16352 then forceFlush builder else .ok builder

def query2 : Bytes := ascii "\x7b\"code\":0,\"column_meta\":["

def query3 : Bytes := ascii "],\"data\":["

def query4 : Bytes := ascii "],\"rows\":"

def timingKey : Bytes := ascii ",\"timing\":"

/-- A comma unless the column was the last one. -/
def writeColumnMeta : List HeaderColumn → Stream → Stream
  | [], builder => builder
  | column :: columns, builder =>
    let builder := builder.writeArrayStart.writeString (ascii column.colName)
    let builder := builder.writeMore.writeString (ascii column.typeDatabaseName)
    let builder := (builder.writeMore.writeInt64 column.colLength).writeArrayEnd
    writeColumnMeta columns (if columns.isEmpty then builder else builder.writeMore)

/-- The entries of `pHeaderList` and `pStartList` from `column` on. -/
def columnPointers (block : Bytes) (blockSize fieldsCount : Nat) :
    List HeaderColumn → Nat → Int → Read (List (Int × Int))
  | [], _, _ => .ok []
  | header :: columns, column, tmpPHeader => do
      let lengthOffset := rawBlockGetColumnLengthOffset fieldsCount
      let colLength ← loadInt32 block (lengthOffset + column * 4)
      let pStart := valueStart blockSize header.colType tmpPHeader
      let others ← columnPointers block blockSize fieldsCount columns (column + 1)
        (pStart + colLength)
      .ok ((tmpPHeader, pStart) :: others)

namespace Query

variable (query : Query)

def writeCells (block : Bytes) (row : Nat) :
    List (HeaderColumn × Int × Int) → Stream → Read Stream
  | [], builder => .ok builder
  | (header, pHeader, pStart) :: columns, builder => do
      let builder :=
        if query.returnObj then builder.writeObjectField (ascii header.colName) else builder
      let builder ← jsonWriteRawBlock query.formatting query.precision block builder
        header.colType pHeader pStart row
      writeCells block row columns (if columns.isEmpty then builder else builder.writeMore)

def writeRow (block : Bytes) (columns : List (HeaderColumn × Int × Int)) (row : Nat)
    (builder : Stream) : Outcome String Stream := do
  let builder := if query.returnObj then builder.writeObjectStart else builder.writeArrayStart
  let builder ← .widen (query.writeCells block row columns builder)
  let builder ← tryFlush builder
  .ok (if query.returnObj then builder.writeObjectEnd else builder.writeArrayEnd)

/-- `config.Conf.RestfulRowLimit > -1 && total == config.Conf.RestfulRowLimit` -/
def limitReached (total : Nat) : Prop :=
  query.restfulRowLimit > -1 ∧ (total : Int) = query.restfulRowLimit

instance (total : Nat) : Decidable (query.limitReached total) :=
  inferInstanceAs (Decidable (_ ∧ _))

/-- The rows of a block from `row` on, `count` of them; a comma unless the row was
the last one of the block or the limit is reached. -/
def writeRows (block : Bytes) (columns : List (HeaderColumn × Int × Int)) :
    Nat → Nat → Nat → Stream → Outcome String (Stream × Nat)
  | 0, _, total, builder => .ok (builder, total)
  | count + 1, row, total, builder => do
      let builder ← query.writeRow block columns row builder
      let total := total + 1
      if query.limitReached total then .ok (builder, total)
      else
        writeRows block columns count (row + 1) total
          (if count = 0 then builder else builder.writeMore)

/-- What the loop over the blocks leaves behind; `fetches` counts the calls of
`TaosFetchRawBlockA`. -/
structure Fetched where
  builder : Stream
  total : Nat
  fetches : Nat
deriving DecidableEq

/-- The loop over the answers still to come; when there are none left the answer
is zero. -/
def fetchLoop : List FetchResult → Bool → Fetched → Outcome String Fetched
  | [], _, state =>
    if query.limitReached state.total then .ok state
    else .ok { state with fetches := state.fetches + 1 }
  | result :: results, fetched, state =>
    if query.limitReached state.total then .ok state
    else if result.n = 0 then .ok { state with fetches := state.fetches + 1 }
    else if result.n < 0 then .ok { state with fetches := state.fetches + 1 }
    else do
      let builder := if fetched then state.builder.writeMore else state.builder
      let blockSize := result.n.toNat
      let pointers ← .widen (columnPointers result.block blockSize query.fieldsCount
        query.rowsHeader 0 (rawBlockGetColDataOffset query.fieldsCount))
      let (builder, total) ← query.writeRows result.block (query.rowsHeader.zip pointers)
        blockSize 0 state.total builder
      fetchLoop results true ⟨builder, total, state.fetches + 1⟩

def writeTiming (builder : Stream) : Stream :=
  match query.timing with
  | some elapsed => (builder.writePure timingKey).writeInt64 elapsed
  | none => builder

/-- The stream after the last flush, with all that was sent, and the number of
fetches. -/
def execute (results : List FetchResult) : Outcome String Fetched := do
  let builder := writeColumnMeta query.rowsHeader (Stream.empty.writePure query2)
  let builder ← tryFlush builder
  let state ← query.fetchLoop results false ⟨builder.writePure query3, 0, 0⟩
  let builder := (state.builder.writePure query4).writeInt state.total
  let builder ← forceFlush (query.writeTiming builder).writeObjectEnd
  .ok { state with builder := builder }

end Query

end TaosAdapter.Rest
