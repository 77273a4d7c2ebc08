import TaosAdapter.Driver.Value
import TaosAdapter.Lib.Utf8

/-!
Contract: `SerializeRawBlock` of `driver/common/serializer/block.go`, with
`ColumnType.GetValue` of `driver/common/param/column.go`.

Owns: the block's header, the null bitmap and the values of a fixed-length
column, the offsets and the values of a variable-length column, and the errors
of the function.

The cases of the source's switch over the column type are two loops with
different parameters. `Encode` is the type assertion of a case followed by the
bytes it writes.
-/

namespace TaosAdapter.RawBlock

open Lib Driver

def bitmapLen (n : Nat) : Nat := (n + ((1 <<< 3) - 1)) >>> 3

def bitPos (n : Nat) : Nat := n &&& ((1 <<< 3) - 1)

def charOffset (n : Nat) : Nat := n >>> 3

def bitMask (n : Nat) : UInt8 := UInt8.ofNat (1 <<< (7 - bitPos n))

def bmSetNull (c : UInt8) (n : Nat) : UInt8 := c + bitMask n

inductive Error where
  | incompleteColumn (size column : Nat)
  | columnNumberNotMatch
  | dataTypeWrong
deriving DecidableEq

def Error.message : Error → String
  | .incompleteColumn size column =>
    s!"incomplete column expect {size} columns set {column} columns"
  | .columnNumberNotMatch => "number of columns does not match"
  | .dataTypeWrong => "wrong data type"

/-- A value of a column; nil is `none`. -/
abbrev Cell := Option TaosValue

/-- `param.ColumnType`: `column` types are set in a slice of `size` pointers. -/
structure ColumnType where
  size : Nat
  value : List (Option TaosType)
  column : Nat
deriving DecidableEq

def ColumnType.getValue (colType : ColumnType) : Outcome Error (List (Option TaosType)) :=
  if colType.size ≠ colType.column then .error (.incompleteColumn colType.size colType.column)
  else .ok colType.value

/-- What a case of the switch appends to the three buffers. -/
structure Column where
  colInfo : Bytes
  length : Bytes
  data : Bytes
deriving DecidableEq

abbrev Encode := TaosValue → Outcome Error Bytes

def fixedRow (bitMapLen size : Nat) (encode : Encode) (rowIndex : Nat) (cell : Cell)
    (dataTmp : Bytes) : Outcome Error Bytes :=
  match cell with
  | none => .ok (dataTmp.modify (charOffset rowIndex) fun c => bmSetNull c rowIndex)
  | some v => do
      let bytes ← encode v
      .ok (poke dataTmp (rowIndex * size + bitMapLen) bytes)

def fixedColumn (rows code size : Nat) (encode : Encode) (rowData : List Cell) :
    Outcome Error Column := do
  let length := typeLengthMap code
  let dataTmp := List.replicate (bitmapLen rows + rows * size) 0
  let dataTmp ← eachItem (fixedRow (bitmapLen rows) size encode) rows 0 rowData dataTmp
  .ok {
    colInfo := UInt8.ofNat code :: leBytes 4 length
    length := leBytes 4 (length * rows)
    data := dataTmp }

/-- One row of a variable-length column: its offset, then its length and bytes. -/
def varRow (encode : Encode) (rowIndex : Nat) (cell : Cell) (acc : Bytes × Nat) :
    Outcome Error (Bytes × Nat) :=
  match cell with
  | none => .ok (poke acc.1 (4 * rowIndex) [255, 255, 255, 255], acc.2)
  | some v => do
      let payload ← encode v
      let dataTmp := poke acc.1 (4 * rowIndex) (leBytes 4 acc.2)
      .ok (dataTmp ++ (leBytes 2 payload.length ++ payload), acc.2 + (payload.length + 2))

def varColumn (rows code : Nat) (encode : Encode) (rowData : List Cell) :
    Outcome Error Column := do
  let (dataTmp, length) ← eachItem (varRow encode) rows 0 rowData (List.replicate (4 * rows) 0, 0)
  .ok {
    colInfo := UInt8.ofNat code :: leBytes 4 0
    length := leBytes 4 length
    data := dataTmp }

/-- Only `true` is written: the buffer starts as zeros. -/
def encodeBool : Encode
  | .bool v => .ok (if v then [1] else [])
  | _ => .error .dataTypeWrong

def encodeTinyint : Encode
  | .tinyint v => .ok (leBytes 1 v.toNat)
  | _ => .error .dataTypeWrong

def encodeSmallint : Encode
  | .smallint v => .ok (leBytes 2 v.toNat)
  | _ => .error .dataTypeWrong

def encodeInt : Encode
  | .int v => .ok (leBytes 4 v.toNat)
  | _ => .error .dataTypeWrong

def encodeBigint : Encode
  | .bigint v => .ok (leBytes 8 v.toNat)
  | _ => .error .dataTypeWrong

def encodeUTinyint : Encode
  | .utinyint v => .ok (leBytes 1 v.toNat)
  | _ => .error .dataTypeWrong

def encodeUSmallint : Encode
  | .usmallint v => .ok (leBytes 2 v.toNat)
  | _ => .error .dataTypeWrong

def encodeUInt : Encode
  | .uint v => .ok (leBytes 4 v.toNat)
  | _ => .error .dataTypeWrong

def encodeUBigint : Encode
  | .ubigint v => .ok (leBytes 8 v.toNat)
  | _ => .error .dataTypeWrong

def encodeFloat : Encode
  | .float bits => .ok (leBytes 4 bits.toNat)
  | _ => .error .dataTypeWrong

def encodeDouble : Encode
  | .double bits => .ok (leBytes 8 bits.toNat)
  | _ => .error .dataTypeWrong

def encodeTimestamp : Encode
  | .timestamp t precision => do
      let timestamp ← timeToTimestamp t precision
      .ok (leBytes 8 timestamp.toNat)
  | _ => .error .dataTypeWrong

def encodeBinary : Encode
  | .binary v => .ok v
  | _ => .error .dataTypeWrong

def encodeVarBinary : Encode
  | .varBinary v => .ok v
  | _ => .error .dataTypeWrong

def encodeGeometry : Encode
  | .geometry v => .ok v
  | _ => .error .dataTypeWrong

def encodeJson : Encode
  | .json v => .ok v
  | _ => .error .dataTypeWrong

def encodeNchar : Encode
  | .nchar v => .ok ((utf8Decode v).flatMap fun rune => leBytes 4 rune.toNat)
  | _ => .error .dataTypeWrong

/-- The switch over the column type. A type without a case appends nothing. -/
def serializeColumn (rows : Nat) (colType : TaosType) (rowData : List Cell) :
    Outcome Error Column :=
  match colType with
  | .bool => fixedColumn rows TSDB_DATA_TYPE_BOOL 1 encodeBool rowData
  | .tinyint => fixedColumn rows TSDB_DATA_TYPE_TINYINT 1 encodeTinyint rowData
  | .smallint => fixedColumn rows TSDB_DATA_TYPE_SMALLINT 2 encodeSmallint rowData
  | .int => fixedColumn rows TSDB_DATA_TYPE_INT 4 encodeInt rowData
  | .bigint => fixedColumn rows TSDB_DATA_TYPE_BIGINT 8 encodeBigint rowData
  | .utinyint => fixedColumn rows TSDB_DATA_TYPE_UTINYINT 1 encodeUTinyint rowData
  | .usmallint => fixedColumn rows TSDB_DATA_TYPE_USMALLINT 2 encodeUSmallint rowData
  | .uint => fixedColumn rows TSDB_DATA_TYPE_UINT 4 encodeUInt rowData
  | .ubigint => fixedColumn rows TSDB_DATA_TYPE_UBIGINT 8 encodeUBigint rowData
  | .float => fixedColumn rows TSDB_DATA_TYPE_FLOAT 4 encodeFloat rowData
  | .double => fixedColumn rows TSDB_DATA_TYPE_DOUBLE 8 encodeDouble rowData
  | .timestamp => fixedColumn rows TSDB_DATA_TYPE_TIMESTAMP 8 encodeTimestamp rowData
  | .binary => varColumn rows TSDB_DATA_TYPE_BINARY encodeBinary rowData
  | .varBinary => varColumn rows TSDB_DATA_TYPE_VARBINARY encodeVarBinary rowData
  | .geometry => varColumn rows TSDB_DATA_TYPE_GEOMETRY encodeGeometry rowData
  | .nchar => varColumn rows TSDB_DATA_TYPE_NCHAR encodeNchar rowData
  | .json => varColumn rows TSDB_DATA_TYPE_JSON encodeJson rowData
  | .other => .ok ⟨[], [], []⟩

def appendColumn (rows : Nat) (column : Option TaosType × List Cell) (acc : Column) :
    Outcome Error Column :=
  match column.1 with
  | none => .panic
  | some colType => do
      let next ← serializeColumn rows colType column.2
      .ok ⟨acc.colInfo ++ next.colInfo, acc.length ++ next.length, acc.data ++ next.data⟩

/-- Version, length, rows, columns, flag segment and group id. -/
def blockHeader (length rows columns : Nat) : Bytes :=
  leBytes 4 1 ++ (leBytes 4 length ++ (leBytes 4 rows ++ (leBytes 4 columns ++
    (leBytes 4 0 ++ leBytes 8 0))))

def serializeRawBlock (params : List (List Cell)) (colType : ColumnType) : Outcome Error Bytes :=
  match params with
  -- `params[0]`
  | [] => .panic
  | first :: _ => do
      let columns := params.length
      let rows := first.length
      let colTypes ← colType.getValue
      if colTypes.length ≠ columns then .error .columnNumberNotMatch
      else
        let parts ← eachItem (fun _ => appendColumn rows) columns 0 (colTypes.zip params)
          ⟨[], [], []⟩
        let block := blockHeader 0 rows columns ++ (parts.colInfo ++ (parts.length ++ parts.data))
        .ok (poke block 4 (leBytes 4 block.length))

end TaosAdapter.RawBlock
