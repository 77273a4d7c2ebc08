import TaosAdapter.RawBlock.Serializer

/-!
Contract: `ReadBlockSimple` and `ReadBlock` of `driver/common/parser/block.go`.

Owns: the accessors of the block's header, the conversion of one cell of each
type, and the walk over the columns with its two pointers.

The block is memory without a length: a read outside its bytes is a fault. A
pointer is an address in the block. The two packages have their own copies of
the bitmap functions; they are the same functions here.
-/

namespace TaosAdapter.RawBlock

open Lib Driver

abbrev Read (α : Type) := Outcome Empty α

variable (memory : Bytes)

def load (address : Int) (width : Nat) : Read Nat :=
  .ofRead (peekNat memory address width)

def loadInt32 (address : Int) : Read Int := do
  let bits ← load memory address 4
  .ok (int32 bits)

def colInfoOffset : Int := 28

def colInfoSize : Int := 5

variable (block : Bytes)

def rawBlockGetLength : Read Int := loadInt32 block 4

def rawBlockGetNumOfRows : Read Int := loadInt32 block 8

def rawBlockGetNumOfCols : Read Int := loadInt32 block 12

/-- `ColType` and `Bytes` of the column infos from `index` on. -/
def rawBlockGetColInfo (block : Bytes) : Nat → Nat → Read (List (Nat × Int))
  | 0, _ => .ok []
  | count + 1, index => do
      let offset := colInfoOffset + colInfoSize * index
      let colType ← load block offset 1
      let bytes ← loadInt32 block (offset + 1)
      .ok ((colType, bytes) :: (← rawBlockGetColInfo block count (index + 1)))

def rawBlockGetColumnLengthOffset (colCount : Nat) : Int :=
  colInfoOffset + colCount * colInfoSize

def rawBlockGetColDataOffset (colCount : Nat) : Int :=
  colInfoOffset + colCount * colInfoSize + colCount * 4

def isVarDataType (colType : Nat) : Bool :=
  colType == TSDB_DATA_TYPE_BINARY || colType == TSDB_DATA_TYPE_NCHAR ||
    colType == TSDB_DATA_TYPE_JSON || colType == TSDB_DATA_TYPE_VARBINARY ||
    colType == TSDB_DATA_TYPE_GEOMETRY

def bmIsNull (c : UInt8) (n : Nat) : Bool := c &&& bitMask n == bitMask n

def itemIsNull (pHeader : Int) (row : Nat) : Read Bool := do
  let c ← load memory (pHeader + charOffset row) 1
  .ok (bmIsNull (UInt8.ofNat c) row)

abbrev RawConvertFunc := Bytes → Int → Nat → Int → Read (Option Value)

def rawConvert (size : Nat) (make : Nat → Value) : RawConvertFunc :=
  fun memory pStart row _ => do
    let bits ← load memory (pStart + row * size) size
    .ok (some (make bits))

def rawConvertBool : RawConvertFunc := rawConvert 1 fun bits => .bool (bits != 0)

def rawConvertTinyint : RawConvertFunc := rawConvert 1 fun bits => .int8 (BitVec.ofNat 8 bits)

def rawConvertSmallint : RawConvertFunc := rawConvert 2 fun bits => .int16 (BitVec.ofNat 16 bits)

def rawConvertInt : RawConvertFunc := rawConvert 4 fun bits => .int32 (BitVec.ofNat 32 bits)

def rawConvertBigint : RawConvertFunc := rawConvert 8 fun bits => .int64 (BitVec.ofNat 64 bits)

def rawConvertUTinyint : RawConvertFunc := rawConvert 1 fun bits => .uint8 (BitVec.ofNat 8 bits)

def rawConvertUSmallint : RawConvertFunc := rawConvert 2 fun bits => .uint16 (BitVec.ofNat 16 bits)

def rawConvertUInt : RawConvertFunc := rawConvert 4 fun bits => .uint32 (BitVec.ofNat 32 bits)

def rawConvertUBigint : RawConvertFunc := rawConvert 8 fun bits => .uint64 (BitVec.ofNat 64 bits)

def rawConvertFloat : RawConvertFunc := rawConvert 4 fun bits => .float32 (BitVec.ofNat 32 bits)

def rawConvertDouble : RawConvertFunc := rawConvert 8 fun bits => .float64 (BitVec.ofNat 64 bits)

def rawConvertTime : RawConvertFunc := fun memory pStart row precision => do
  let bits ← load memory (pStart + row * 8) 8
  let time ← timestampConvertToTime (BitVec.ofNat 64 bits) precision
  .ok (some (.time time))

abbrev RawConvertVarDataFunc := Bytes → Int → Int → Nat → Read (Option Value)

def rawGetBytes (pHeader pStart : Int) (row : Nat) : Read (Option Bytes) := do
  let offset ← loadInt32 memory (pHeader + row * 4)
  if offset = -1 then .ok none
  else
    let currentRow := pStart + offset
    let clen ← load memory currentRow 2
    if clen = 0 then .ok (some [])
    else
      let result ← .ofRead (peek memory (currentRow + 2) clen)
      .ok (some result)

def rawConvertVarBinary : RawConvertVarDataFunc := fun memory pHeader pStart row => do
  let result ← rawGetBytes memory pHeader pStart row
  .ok (result.map .bytes)

def rawConvertGeometry : RawConvertVarDataFunc := rawConvertVarBinary

def rawConvertJson : RawConvertVarDataFunc := rawConvertVarBinary

def rawConvertBinary : RawConvertVarDataFunc := fun memory pHeader pStart row => do
  let result ← rawGetBytes memory pHeader pStart row
  .ok (result.map .string)

/-- A rune in a string: what is not a character is replaced. -/
def encodeRune (rune : Nat) : Bytes :=
  if h : rune.isValidChar then String.utf8EncodeChar (Char.ofNatAux rune h)
  else String.utf8EncodeChar replacement

/-- The runes from `index` on; the product `index * 4` is taken in 16 bits. -/
def loadRunes (memory : Bytes) (currentRow : Int) : Nat → Nat → Read (List Nat)
  | 0, _ => .ok []
  | count + 1, index => do
      let rune ← load memory (currentRow + (index * 4 % 2 ^ 16 : Nat)) 4
      .ok (rune :: (← loadRunes memory currentRow count (index + 1)))

def rawConvertNchar : RawConvertVarDataFunc := fun memory pHeader pStart row => do
  let offset ← loadInt32 memory (pHeader + row * 4)
  if offset = -1 then .ok none
  else
    let currentRow := pStart + offset
    let bytes ← load memory currentRow 2
    let clen := bytes / 4
    if clen = 0 then .ok (some (.string []))
    else
      let runes ← loadRunes memory (currentRow + 2) clen 0
      .ok (some (.string (runes.flatMap encodeRune)))

/-- `rawConvertFuncSlice`, an array of 15 functions, some of them nil: both an
index outside it and a call of nil panic. -/
def rawConvertFuncSlice : Nat → Option RawConvertFunc
  | 1 => some rawConvertBool
  | 2 => some rawConvertTinyint
  | 3 => some rawConvertSmallint
  | 4 => some rawConvertInt
  | 5 => some rawConvertBigint
  | 6 => some rawConvertFloat
  | 7 => some rawConvertDouble
  | 9 => some rawConvertTime
  | 11 => some rawConvertUTinyint
  | 12 => some rawConvertUSmallint
  | 13 => some rawConvertUInt
  | 14 => some rawConvertUBigint
  | _ => none

def rawConvertVarDataSlice : Nat → Option RawConvertVarDataFunc
  | 8 => some rawConvertBinary
  | 10 => some rawConvertNchar
  | 15 => some rawConvertJson
  | 16 => some rawConvertVarBinary
  | 20 => some rawConvertGeometry
  | _ => none

/-- The address of the values of a column, behind its bitmap or its offsets. -/
def valueStart (blockSize : Nat) (colType : Nat) (pHeader : Int) : Int :=
  if isVarDataType colType then pHeader + 4 * blockSize else pHeader + bitmapLen blockSize

def readCell (blockSize colType : Nat) (precision pHeader : Int) (row : Nat) :
    Read (Option Value) :=
  let pStart := valueStart blockSize colType pHeader
  if isVarDataType colType then
    match rawConvertVarDataSlice colType with
    | some convertF => convertF memory pHeader pStart row
    | none => .panic
  else do
    if ← itemIsNull memory pHeader row then .ok none
    else
      match rawConvertFuncSlice colType with
      | some convertF => convertF memory pStart row precision
      | none => .panic

abbrev Table := List (List (Option Value))

/-- `r[row][column] = value`; the first column allocates the row. -/
def storeCell (colCount column row : Nat) (value : Option Value) (r : Table) : Table :=
  r.modify row fun line =>
    (if column = 0 then List.replicate colCount none else line).set column value

def readColumn (blockSize colCount column colType : Nat) (precision pHeader : Int) (r : Table) :
    Read Table :=
  eachItem (fun _ row r => do
    let value ← readCell memory blockSize colType precision pHeader row
    .ok (storeCell colCount column row value r)) blockSize 0 (List.range blockSize) r

/-- One column, and the address of the next one. -/
def readNext (blockSize colCount : Nat) (precision : Int) (column colType : Nat)
    (acc : Table × Int) : Read (Table × Int) := do
  let lengthOffset := rawBlockGetColumnLengthOffset colCount
  let colLength ← loadInt32 memory (lengthOffset + column * 4)
  -- A type outside the array of conversions panics before the first row.
  if isVarDataType colType = false ∧ 15 ≤ colType then .panic
  else
    let r ← readColumn memory blockSize colCount column colType precision acc.2 acc.1
    .ok (r, valueStart blockSize colType acc.2 + colLength)

def readBlock (blockSize : Int) (colTypes : List Nat) (precision : Int) : Read Table :=
  -- `make` with a negative length
  if blockSize < 0 then .panic
  else do
    let rows := blockSize.toNat
    let colCount := colTypes.length
    let (r, _) ← eachItem (readNext block rows colCount precision) colCount 0 colTypes
      (List.replicate rows [], rawBlockGetColDataOffset colCount)
    .ok r

def readBlockSimple (precision : Int) : Read Table := do
  let blockSize ← rawBlockGetNumOfRows block
  let colCount ← rawBlockGetNumOfCols block
  if colCount < 0 then .panic
  else
    let colInfo ← rawBlockGetColInfo block colCount.toNat 0
    readBlock block blockSize (colInfo.map Prod.fst) precision

end TaosAdapter.RawBlock
