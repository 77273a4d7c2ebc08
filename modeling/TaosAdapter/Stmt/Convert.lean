import TaosAdapter.RawBlock.Parser

/-!
Contract: `BlockConvert` of `controller/ws/stmt/convert.go`, with `GetType` of
`driver/common/stmt/field.go` and `parseRowBlockInfo` of
`controller/ws/ws/stmt.go`.

Owns: the walk over the columns of a block inside a message, the conversion of
one cell of each type, and the types of the columns.

The block is a pointer into the message: an address. Nothing is known of the
message but its bytes, and a read outside them is a fault. The conversions have
the names of those of `driver/common/parser/block.go`, but they give Taos
values and the length of a value.
-/

namespace TaosAdapter.Stmt

open Lib Driver
open RawBlock (Cell Read load loadInt32 colInfoOffset colInfoSize isVarDataType
  itemIsNull loadRunes encodeRune valueStart rawBlockGetColumnLengthOffset
  rawBlockGetColDataOffset)

/-- `types.ColumnType`; `MaxLen` starts at zero and grows. -/
structure ColumnType where
  type : TaosType
  maxLen : Nat
deriving DecidableEq

/-- `stmt.StmtField`; the type is the `uint8` of the field type. -/
structure StmtField where
  name : String
  fieldType : Nat
  precision : Nat
deriving DecidableEq

def formatInt8 (code : Nat) : String := toString (BitVec.ofNat 8 code).toInt

def typeOf : Nat → Option TaosType
  | 1 => some .bool
  | 2 => some .tinyint
  | 3 => some .smallint
  | 4 => some .int
  | 5 => some .bigint
  | 6 => some .float
  | 7 => some .double
  | 8 => some .binary
  | 9 => some .timestamp
  | 10 => some .nchar
  | 11 => some .utinyint
  | 12 => some .usmallint
  | 13 => some .uint
  | 14 => some .ubigint
  | 15 => some .json
  | 16 => some .varBinary
  | 20 => some .geometry
  | _ => none

def StmtField.getType (s : StmtField) : Except String ColumnType :=
  match typeOf s.fieldType with
  | some type => .ok ⟨type, 0⟩
  | none => .error ("unsupported type: " ++ formatInt8 s.fieldType ++ ", name " ++ s.name)

abbrev RawConvertFunc := Bytes → Int → Nat → Int → Read TaosValue

def rawConvert (size : Nat) (make : Nat → TaosValue) : RawConvertFunc :=
  fun memory pStart row _ => do
    let bits ← load memory (pStart + row * size) size
    .ok (make bits)

def rawConvertBool : RawConvertFunc := rawConvert 1 fun bits => .bool (bits != 0)

def rawConvertTinyint : RawConvertFunc := rawConvert 1 fun bits => .tinyint (BitVec.ofNat 8 bits)

def rawConvertSmallint : RawConvertFunc :=
  rawConvert 2 fun bits => .smallint (BitVec.ofNat 16 bits)

def rawConvertInt : RawConvertFunc := rawConvert 4 fun bits => .int (BitVec.ofNat 32 bits)

def rawConvertBigint : RawConvertFunc := rawConvert 8 fun bits => .bigint (BitVec.ofNat 64 bits)

def rawConvertUTinyint : RawConvertFunc := rawConvert 1 fun bits => .utinyint (BitVec.ofNat 8 bits)

def rawConvertUSmallint : RawConvertFunc :=
  rawConvert 2 fun bits => .usmallint (BitVec.ofNat 16 bits)

def rawConvertUInt : RawConvertFunc := rawConvert 4 fun bits => .uint (BitVec.ofNat 32 bits)

def rawConvertUBigint : RawConvertFunc := rawConvert 8 fun bits => .ubigint (BitVec.ofNat 64 bits)

def rawConvertFloat : RawConvertFunc := rawConvert 4 fun bits => .float (BitVec.ofNat 32 bits)

def rawConvertDouble : RawConvertFunc := rawConvert 8 fun bits => .double (BitVec.ofNat 64 bits)

def rawConvertTime : RawConvertFunc := fun memory pStart row precision => do
  let bits ← load memory (pStart + row * 8) 8
  let time ← timestampConvertToTime (BitVec.ofNat 64 bits) precision
  .ok (.timestamp time precision)

/-- The value of a cell, and its length. -/
abbrev RawConvertVarDataFunc := Bytes → Int → Int → Nat → Read (Cell × Nat)

def getBytesFromPointer (memory : Bytes) (pHeader pStart : Int) (row : Nat) :
    Read (Option Bytes × Nat) := do
  let offset ← loadInt32 memory (pHeader + row * 4)
  if offset = -1 then .ok (none, 0)
  else
    let currentRow := pStart + offset
    let clen ← load memory currentRow 2
    let binaryVal ← .ofRead (peek memory (currentRow + 2) clen)
    .ok (some binaryVal, clen)

/-- The bytes of a cell as a value of its type. -/
def rawConvertBytes (make : Bytes → TaosValue) : RawConvertVarDataFunc :=
  fun memory pHeader pStart row => do
    let (binaryVal, clen) ← getBytesFromPointer memory pHeader pStart row
    .ok (binaryVal.map make, clen)

def rawConvertBinary : RawConvertVarDataFunc := rawConvertBytes .binary

def rawConvertVarBinary : RawConvertVarDataFunc := rawConvertBytes .varBinary

def rawConvertGeometry : RawConvertVarDataFunc := rawConvertBytes .geometry

def rawConvertJson : RawConvertVarDataFunc := rawConvertBytes .json

/-- The value is the UTF-8 of the runes; the length is four bytes a rune. -/
def rawConvertNchar : RawConvertVarDataFunc := fun memory pHeader pStart row => do
  let offset ← loadInt32 memory (pHeader + row * 4)
  if offset = -1 then .ok (none, 0)
  else
    let currentRow := pStart + offset
    let bytes ← load memory currentRow 2
    let clen := bytes / 4
    let binaryVal ← loadRunes memory (currentRow + 2) clen 0
    .ok (some (.nchar (binaryVal.flatMap encodeRune)), clen * 4)

def rawConvertFuncMap : Nat → Option RawConvertFunc
  | 1 => some rawConvertBool
  | 2 => some rawConvertTinyint
  | 3 => some rawConvertSmallint
  | 4 => some rawConvertInt
  | 5 => some rawConvertBigint
  | 6 => some rawConvertFloat
  | 7 => some rawConvertDouble
  | 9 => some rawConvertTime
  | 11 => some rawConvertUTinyint
  | 12 => some rawConvertUSmallint
  | 13 => some rawConvertUInt
  | 14 => some rawConvertUBigint
  | _ => none

def rawConvertVarDataMap : Nat → Option RawConvertVarDataFunc
  | 8 => some rawConvertBinary
  | 10 => some rawConvertNchar
  | 15 => some rawConvertJson
  | 16 => some rawConvertVarBinary
  | 20 => some rawConvertGeometry
  | _ => none

/-- One cell of a column. A type that is not in the map has a nil function, and
its call panics. -/
def convertCell (memory : Bytes) (blockSize : Nat) (field : StmtField) (pHeader : Int)
    (row : Nat) : Read (Cell × Nat) :=
  let pStart := valueStart blockSize field.fieldType pHeader
  if isVarDataType field.fieldType then
    match rawConvertVarDataMap field.fieldType with
    | some convertF => convertF memory pHeader pStart row
    | none => .panic
  else do
    if ← itemIsNull memory pHeader row then .ok (none, 0)
    else
      match rawConvertFuncMap field.fieldType with
      | some convertF => do
          let value ← convertF memory pStart row field.precision
          .ok (some value, 0)
      | none => .panic

/-- The rows from `row` on; `maxLen` is raised to the length of each value. -/
def convertRows (convert : Nat → Read (Cell × Nat)) : Nat → Nat → Nat → Read (List Cell × Nat)
  | 0, _, maxLen => .ok ([], maxLen)
  | count + 1, row, maxLen => do
      let (value, length) ← convert row
      let (values, maxLen) ←
        convertRows convert count (row + 1) (if length > maxLen then length else maxLen)
      .ok (value :: values, maxLen)

/-- A column of the result, with the length its `MaxLen` is raised to. -/
abbrev Converted := List Cell × Nat

def convertColumns (memory : Bytes) (block : Int) (blockSize colCount : Nat) :
    List StmtField → Nat → Int → Read (List Converted)
  | [], _, _ => .ok []
  | field :: fields, column, pHeader => do
      let lengthOffset := rawBlockGetColumnLengthOffset colCount
      let colLength ← loadInt32 memory (block + lengthOffset + column * 4)
      let values ← convertRows (convertCell memory blockSize field pHeader) blockSize 0 0
      let pStart := valueStart blockSize field.fieldType pHeader
      .ok (values ::
        (← convertColumns memory block blockSize colCount fields (column + 1) (pStart + colLength)))

def blockConvert (memory : Bytes) (block blockSize : Int) (fields : List StmtField) :
    Read (List Converted) :=
  -- `make` with a negative length, in the first column
  if blockSize < 0 ∧ fields ≠ [] then .panic
  else
    let colCount := fields.length
    convertColumns memory block blockSize.toNat colCount fields 0
      (block + rawBlockGetColDataOffset colCount)

/-- The cases of `parseRowBlockInfo`: a timestamp or a geometry is not among
them, and a varbinary column gets the type of a binary one. -/
def rowBlockType : Nat → Option TaosType
  | 9 => none
  | 16 => some .binary
  | 20 => none
  | colType => typeOf colType

def rawBlockGetColInfo (memory : Bytes) (rawBlock : Int) : Nat → Nat → Read (List Nat)
  | 0, _ => .ok []
  | count + 1, index => do
      let offset := colInfoOffset + colInfoSize * index
      let colType ← load memory (rawBlock + offset) 1
      let _ ← loadInt32 memory (rawBlock + (offset + 1))
      .ok (colType :: (← rawBlockGetColInfo memory rawBlock count (index + 1)))

/-- The error names the last type that is not supported. -/
def rowBlockError (colTypes : List Nat) : Option String :=
  (colTypes.filter fun colType => (rowBlockType colType).isNone).getLast?.map fun colType =>
    "unsupported data type " ++ formatInt8 colType

def rowBlockField (colType : Nat) : StmtField := ⟨"", colType, 0⟩

end TaosAdapter.Stmt
