import TaosAdapter.Lib.Store
import TaosAdapter.Stmt.Convert

/-!
Contract: `TaosStmtBindParamBatch` of `driver/wrapper/stmt.go`, up to its call
of `taos_stmt_bind_param_batch`.

Owns: the three lists a column is bound with, their sizes, what is written to
them and the structure that is handed to the client library.

The cases of the source's switch over the column type are one loop with
different parameters: the buffer's type code, the bytes of a row in it, and the
type assertion with the bytes it writes. `malloc` gives as many bytes as its
argument says, with any content.
-/

namespace TaosAdapter.Stmt

open Lib Driver
open RawBlock (Cell Read load loadInt32)

def cUint (value : Nat) : Nat := value % 2 ^ 32

/-- The content of each allocation of a call; the lists of a column are told
apart by its index and their place. -/
structure Malloc where
  content : Nat → Nat → Nat → Bytes
  length_content : ∀ column place size, (content column place size).length = size

/-- The lists of a column: the nulls, the lengths and the buffer. -/
structure Lists where
  nullList : Bytes
  lengthList : Bytes
  p : Bytes
deriving DecidableEq

/-- `TAOS_MULTI_BIND`; a nil buffer is `none`. -/
structure MultiBind where
  bufferType : Nat
  buffer : Option Bytes
  bufferLength : Nat
  length : Bytes
  isNull : Bytes
  num : Int
deriving DecidableEq

/-- The buffer's type code and the bytes of a row. -/
def bufferOf (columnType : ColumnType) : Option (Nat × Nat) :=
  match columnType.type with
  | .bool => some (TSDB_DATA_TYPE_BOOL, 1)
  | .tinyint => some (TSDB_DATA_TYPE_TINYINT, 1)
  | .smallint => some (TSDB_DATA_TYPE_SMALLINT, 2)
  | .int => some (TSDB_DATA_TYPE_INT, 4)
  | .bigint => some (TSDB_DATA_TYPE_BIGINT, 8)
  | .utinyint => some (TSDB_DATA_TYPE_UTINYINT, 1)
  | .usmallint => some (TSDB_DATA_TYPE_USMALLINT, 2)
  | .uint => some (TSDB_DATA_TYPE_UINT, 4)
  | .ubigint => some (TSDB_DATA_TYPE_UBIGINT, 8)
  | .float => some (TSDB_DATA_TYPE_FLOAT, 4)
  | .double => some (TSDB_DATA_TYPE_DOUBLE, 8)
  | .binary => some (TSDB_DATA_TYPE_BINARY, columnType.maxLen)
  | .varBinary => some (TSDB_DATA_TYPE_VARBINARY, columnType.maxLen)
  | .geometry => some (TSDB_DATA_TYPE_GEOMETRY, columnType.maxLen)
  | .nchar => some (TSDB_DATA_TYPE_NCHAR, columnType.maxLen)
  | .timestamp => some (TSDB_DATA_TYPE_TIMESTAMP, 8)
  | .json => none
  | .other => none

/-- The type assertion of a case, and the bytes it writes for the value. -/
def valueBytes : TaosType → TaosValue → Read Bytes
  | .bool, .bool value => .ok [if value then 1 else 0]
  | .tinyint, .tinyint value => .ok (leBytes 1 value.toNat)
  | .smallint, .smallint value => .ok (leBytes 2 value.toNat)
  | .int, .int value => .ok (leBytes 4 value.toNat)
  | .bigint, .bigint value => .ok (leBytes 8 value.toNat)
  | .utinyint, .utinyint value => .ok (leBytes 1 value.toNat)
  | .usmallint, .usmallint value => .ok (leBytes 2 value.toNat)
  | .uint, .uint value => .ok (leBytes 4 value.toNat)
  | .ubigint, .ubigint value => .ok (leBytes 8 value.toNat)
  | .float, .float bits => .ok (leBytes 4 bits.toNat)
  | .double, .double bits => .ok (leBytes 8 bits.toNat)
  | .binary, .binary value => .ok value
  | .varBinary, .varBinary value => .ok value
  | .geometry, .geometry value => .ok value
  | .nchar, .nchar value => .ok value
  | .timestamp, .timestamp t precision => do
      let ts ← timeToTimestamp t precision
      .ok (leBytes 8 ts.toNat)
  | _, _ => .panic

def bindRow (type : TaosType) (width i : Nat) (rowData : Cell) (lists : Lists) : Read Lists :=
  match rowData with
  | none => do
      let nullList ← store lists.nullList i [1]
      .ok { lists with nullList }
  | some value => do
      let nullList ← store lists.nullList i [0]
      let bytes ← valueBytes type value
      let p ← store lists.p (width * i) bytes
      let lengthList ← store lists.lengthList (4 * i) (leBytes 4 bytes.length)
      .ok { nullList, lengthList, p }

def bindColumn (malloc : Malloc) (columnIndex rowLen : Nat) (columnType : ColumnType)
    (columnData : List Cell) : Read MultiBind :=
  let num := (BitVec.ofNat 32 rowLen).toInt
  let nullList := malloc.content columnIndex 0 (cUint rowLen)
  let lengthList := malloc.content columnIndex 1 (cUint (rowLen * 4))
  match bufferOf columnType with
  | some (bufferType, width) => do
      let p := malloc.content columnIndex 2 (cUint (width * rowLen))
      let lists ← eachItem (bindRow columnType.type width) columnData.length 0 columnData
        { nullList, lengthList, p }
      .ok ⟨bufferType, some lists.p, width, lists.lengthList, lists.nullList, num⟩
  | none => .ok ⟨0, none, 0, lengthList, nullList, num⟩

/-- The columns from `columnIndex` on; `bindType` too short panics. -/
def bindColumns (malloc : Malloc) (rowLen : Nat) :
    Nat → List (List Cell) → List ColumnType → Read (List MultiBind)
  | _, [], _ => .ok []
  | _, _ :: _, [] => .panic
  | columnIndex, columnData :: multiBind, columnType :: bindType => do
      let bind ← bindColumn malloc columnIndex rowLen columnType columnData
      .ok (bind :: (← bindColumns malloc rowLen (columnIndex + 1) multiBind bindType))

/-- The binds handed to the client library. Without columns `&binds[0]` panics. -/
def taosStmtBindParamBatch (malloc : Malloc) (multiBind : List (List Cell))
    (bindType : List ColumnType) : Read (List MultiBind) :=
  match multiBind with
  | [] => .panic
  | first :: _ => bindColumns malloc first.length 0 multiBind bindType

/-- Row `i` of a bind: its null flag, else the bytes of its length from
`buffer_length * i` on. -/
def MultiBind.read (bind : MultiBind) (i : Nat) : Read (Option Bytes) := do
  let isNull ← load bind.isNull i 1
  if isNull ≠ 0 then .ok none
  else
    let length ← loadInt32 bind.length (4 * i)
    if length < 0 then .fault
    else if length = 0 then .ok (some [])
    else
      let buffer ← .ofRead bind.buffer
      let bytes ← .ofRead (peek buffer (bind.bufferLength * i) length.toNat)
      .ok (some bytes)

/-- The value of a type that bytes stand for; a timestamp counts the units of its
precision. -/
def decode (type : TaosType) (precision : Int) (bytes : Bytes) : Option TaosValue :=
  match type with
  | .bool => some (.bool (leNat bytes != 0))
  | .tinyint => some (.tinyint (BitVec.ofNat 8 (leNat bytes)))
  | .smallint => some (.smallint (BitVec.ofNat 16 (leNat bytes)))
  | .int => some (.int (BitVec.ofNat 32 (leNat bytes)))
  | .bigint => some (.bigint (BitVec.ofNat 64 (leNat bytes)))
  | .utinyint => some (.utinyint (BitVec.ofNat 8 (leNat bytes)))
  | .usmallint => some (.usmallint (BitVec.ofNat 16 (leNat bytes)))
  | .uint => some (.uint (BitVec.ofNat 32 (leNat bytes)))
  | .ubigint => some (.ubigint (BitVec.ofNat 64 (leNat bytes)))
  | .float => some (.float (BitVec.ofNat 32 (leNat bytes)))
  | .double => some (.double (BitVec.ofNat 64 (leNat bytes)))
  | .binary => some (.binary bytes)
  | .varBinary => some (.varBinary bytes)
  | .geometry => some (.geometry bytes)
  | .nchar => some (.nchar bytes)
  | .timestamp =>
    (precisionUnit precision).map fun unit : Nat =>
      .timestamp ((BitVec.ofNat 64 (leNat bytes)).toInt * unit) precision
  | .json => some (.json bytes)
  | .other => none

end TaosAdapter.Stmt
