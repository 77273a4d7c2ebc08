import TaosAdapter.Lib.Bytes
import TaosAdapter.Lib.Settles

/-!
Contract: `TaosStmt2BindBinary` of `driver/wrapper/stmt2binary.go` with the C
functions `go_stmt2_bind_binary` and `go_generate_stmt2_binds` of the same file.

Owns: the checks of the header and of the three tables of lengths, the pointers
to the table names, the walk over the binds of the tags and of the columns, and
the errors.

The message is memory without a length; pointers are addresses in it. `uint32_t`
and `int32_t` arithmetic is that of 32 bits, pointer arithmetic is exact.
`malloc` does not fail.
-/

namespace TaosAdapter.Stmt2

open Lib

def uint32 (value : Nat) : Nat := value % 2 ^ 32

inductive BindError where
  | dataLengthLess
  | totalLengthNotMatch (expect get : Nat)
  | tableNameLengthsOutOfRange (totalLength tableNamesLengthEnd : Nat)
  | tableNameLengthZero (tableIndex : Int)
  | tableNamesOutOfRange (totalLength tableNameTotalLength : Nat)
  | tagCountZero
  | tagEndOutOfRange (totalLength tagEnd : Nat)
  | tagLengthZero (tableIndex : Int)
  | tagsOutOfRange (totalLength tagsTotalLength : Nat)
  | colCountZero
  | colEndOutOfRange (totalLength colEnd : Nat)
  | colLengthZero (tableIndex : Int)
  | colsOutOfRange (totalLength colsTotalLength : Nat)
  | bindDataLength (tableIndex fieldIndex : Int)
deriving DecidableEq

/-- The code of the error, if it comes from the C function. -/
def BindError.code : BindError → Option Int
  | .dataLengthLess => none
  | .totalLengthNotMatch _ _ => none
  | _ => some (-1)

/-- The format `%d` of a `uint32_t` shows it as an `int`. -/
def BindError.message : BindError → String
  | .dataLengthLess => "data length is less than 28"
  | .totalLengthNotMatch expect get =>
    s!"total length not match, expect {expect}, but get {get}"
  | .tableNameLengthsOutOfRange total finish =>
    s!"table name lengths out of range, total length: {int32 total}, tableNamesLengthEnd: {int32 finish}"
  | .tableNameLengthZero index => s!"table name length is 0, tableIndex: {index}"
  | .tableNamesOutOfRange total finish =>
    s!"table names out of range, total length: {int32 total}, tableNameTotalLength: {int32 finish}"
  | .tagCountZero => "tag count is 0, but tags offset is not 0"
  | .tagEndOutOfRange total finish =>
    s!"tags out of range, total length: {int32 total}, tagEnd: {int32 finish}"
  | .tagLengthZero index => s!"tag length is 0, tableIndex: {index}"
  | .tagsOutOfRange total finish =>
    s!"tags out of range, total length: {int32 total}, tagsTotalLength: {int32 finish}"
  | .colCountZero => "col count is 0, but cols offset is not 0"
  | .colEndOutOfRange total finish =>
    s!"cols out of range, total length: {int32 total}, colEnd: {int32 finish}"
  | .colLengthZero index => s!"col length is 0, tableIndex: {index}"
  | .colsOutOfRange total finish =>
    s!"cols out of range, total length: {int32 total}, colsTotalLength: {int32 finish}"
  | .bindDataLength table field =>
    s!"bind data length error, tableIndex: {table}, fieldIndex: {field}"

abbrev Bound (Value : Type) := Outcome BindError Value

/-- A table name. Its length stands in the table of lengths; only the pointer is
handed over. -/
structure TableName where
  pointer : Int
  length : Nat
deriving DecidableEq

/-- `TAOS_STMT2_BIND`. The length of the buffer stands in the record; only the
pointer is handed over. -/
structure Bind where
  bufferType : Int
  num : Int
  isNull : Int
  length : Option Int
  buffer : Option Int
  bufferLength : Int
deriving DecidableEq

/-- `TAOS_STMT2_BINDV`: the binds of each table, for the tags and the columns. -/
structure BindV where
  count : Int
  tbnames : Option (List TableName)
  tags : Option (List (List Bind))
  bindCols : Option (List (List Bind))
deriving DecidableEq

/-- The arguments of `taos_stmt2_bind_param`. -/
structure Call where
  bindV : BindV
  colIdx : Int
deriving DecidableEq

variable (data : Bytes)

def load (pointer : Int) (width : Nat) : Bound Nat :=
  .ofRead (peekNat data pointer width)

def loadInt (pointer : Int) : Bound Int := do
  let bits ← load data pointer 4
  .ok (int32 bits)

def loadLength (offset width index : Nat) : Bound Nat :=
  load data (offset + width * int32 index) width

structure Header where
  totalLength : Nat
  count : Nat
  tagCount : Nat
  colCount : Nat
  tableNamesOffset : Nat
  tagsOffset : Nat
  colsOffset : Nat
deriving DecidableEq

def loadHeader : Bound Header := do
  let totalLength ← load data 0 4
  let count ← load data 4 4
  let tagCount ← load data 8 4
  let colCount ← load data 12 4
  let tableNamesOffset ← load data 16 4
  let tagsOffset ← load data 20 4
  let colsOffset ← load data 24 4
  .ok ⟨totalLength, count, tagCount, colCount, tableNamesOffset, tagsOffset, colsOffset⟩

def lengthsEnd (count width offset : Nat) : Nat := uint32 (offset + uint32 (count * width))

/-- `end += length_ptr[i]`, after the check for zero. -/
def addLength (offset width : Nat) (zero : Int → BindError) (index finish : Nat) : Bound Nat := do
  let length ← loadLength data offset width index
  if length = 0 then .error (zero (int32 index)) else .ok (uint32 (finish + length))

/-- The check of a table of lengths and of the end of what they measure. -/
def checkLengths (totalLength count width offset : Nat) (lengthsOut : Nat → Nat → BindError)
    (zero : Int → BindError)
    (out : Nat → Nat → BindError) : Bound Unit :=
  let start := lengthsEnd count width offset
  if totalLength < start then .error (lengthsOut totalLength start)
  else do
    let finish ← counted (addLength data offset width zero) count 0 start
    if totalLength < finish then .error (out totalLength finish) else .ok ()

def checkTableNames (header : Header) : Bound Unit :=
  if 0 < header.tableNamesOffset then
    checkLengths data header.totalLength header.count 2 header.tableNamesOffset
      .tableNameLengthsOutOfRange .tableNameLengthZero .tableNamesOutOfRange
  else .ok ()

def checkFields (totalLength count fieldCount offset : Nat) (countZero : BindError)
    (lengthsOut : Nat → Nat → BindError) (zero : Int → BindError)
    (out : Nat → Nat → BindError) : Bound Unit :=
  if 0 < offset then
    if fieldCount = 0 then .error countZero
    else checkLengths data totalLength count 4 offset lengthsOut zero out
  else .ok ()

def checkTags (header : Header) : Bound Unit :=
  checkFields data header.totalLength header.count header.tagCount header.tagsOffset
    .tagCountZero .tagEndOutOfRange .tagLengthZero .tagsOutOfRange

def checkCols (header : Header) : Bound Unit :=
  checkFields data header.totalLength header.count header.colCount header.colsOffset
    .colCountZero .colEndOutOfRange .colLengthZero .colsOutOfRange

/-- `table_name[i] = table_name_data_ptr`; the array has `count` elements. -/
def addName (count offset index : Nat) (acc : List TableName × Int) :
    Bound (List TableName × Int) :=
  if 0 ≤ int32 index ∧ int32 index < count then do
    let length ← loadLength data offset 2 index
    .ok (acc.1 ++ [⟨acc.2, length⟩], acc.2 + length)
  else .fault

def tableNames (count offset : Nat) : Bound (List TableName) := do
  let acc ← counted (addName data count offset) count 0 ([], offset + uint32 (2 * count))
  .ok acc.1

def loadBind (tableIndex fieldIndex : Nat) (dataPtr : Int) : Bound (Bind × Int) := do
  let totalLength ← load data dataPtr 4
  let bufferType ← loadInt data (dataPtr + 4)
  let num ← loadInt data (dataPtr + 8)
  let isNull := dataPtr + 12
  let haveLength ← load data (isNull + num) 1
  let length := isNull + num + 1
  let lengthEnd := if haveLength = 0 then length else length + int32 (num * 4)
  let bufferLength ← loadInt data lengthEnd
  let buffer := lengthEnd + 4
  let bindDataPtr := if 0 < bufferLength then buffer + bufferLength else buffer
  if bindDataPtr - dataPtr ≠ totalLength then
    .error (.bindDataLength (int32 tableIndex) (int32 fieldIndex))
  else
    .ok (⟨bufferType, num, isNull, if haveLength = 0 then none else some length,
      if 0 < bufferLength then some buffer else none, bufferLength⟩, bindDataPtr)

/-- A part of an array: the first element used, and the size of the array. -/
structure Part where
  start : Nat
  size : Nat
deriving DecidableEq

def addBind (fieldCount : Nat) (bindStruct : Part) (tableIndex fieldIndex : Nat)
    (acc : List Bind × Int) : Bound (List Bind × Int) :=
  if bindStruct.start + uint32 (tableIndex * fieldCount) + fieldIndex < bindStruct.size then do
    let (bind, dataPtr) ← loadBind data tableIndex fieldIndex acc.2
    .ok (acc.1 ++ [bind], dataPtr)
  else .fault

/-- The binds of a table. The element of `bind_ptr` is the list of the binds
that were written through it: an index of a bind that wraps has passed the end
of the array before, so no bind is written twice. -/
def addTable (fieldCount : Nat) (bindStruct bindPtr : Part) (tableIndex : Nat)
    (acc : List (List Bind) × Int) : Bound (List (List Bind) × Int) :=
  if 0 ≤ bindPtr.start + int32 tableIndex ∧ bindPtr.start + int32 tableIndex < bindPtr.size then do
    let (binds, dataPtr) ←
      counted (addBind data fieldCount bindStruct tableIndex) fieldCount 0 ([], acc.2)
    .ok (acc.1 ++ [binds], dataPtr)
  else .fault

def goGenerateStmt2Binds (count fieldCount fieldOffset : Nat) (bindStruct bindPtr : Part) :
    Bound (List (List Bind)) := do
  let acc ← counted (addTable data fieldCount bindStruct bindPtr) count 0
    ([], fieldOffset + 4 * count)
  .ok acc.1

variable (header : Header)

def Header.tagStructs : Nat :=
  if header.tagsOffset = 0 then 0 else uint32 (header.count * header.tagCount)

def Header.colStructs : Nat :=
  if header.colsOffset = 0 then 0 else uint32 (header.count * header.colCount)

def Header.bindStructCount : Nat :=
  uint32 (header.tagStructs + header.colStructs)

def Header.tagPointers : Nat :=
  if header.tagsOffset = 0 then 0 else header.count

def Header.colPointers : Nat :=
  if header.colsOffset = 0 then 0 else header.count

def Header.bindPtrCount : Nat :=
  uint32 (header.tagPointers + header.colPointers)

def bindTbnames (header : Header) : Bound (Option (List TableName)) :=
  if 0 < header.tableNamesOffset then do
    let names ← tableNames data header.count header.tableNamesOffset
    .ok (some names)
  else .ok none

/-- `bind_v.tags`; without a bind in either section, NULL. -/
def bindTags (header : Header) : Bound (Option (List (List Bind))) :=
  if header.bindStructCount ≠ 0 ∧ 0 < header.tagsOffset then do
    let tags ← goGenerateStmt2Binds data header.count header.tagCount header.tagsOffset
      ⟨0, header.bindStructCount⟩ ⟨0, header.bindPtrCount⟩
    .ok (some tags)
  else .ok none

/-- `bind_v.bind_cols`; its binds and pointers stand behind those of the tags. -/
def bindCols (header : Header) : Bound (Option (List (List Bind))) :=
  if header.bindStructCount ≠ 0 ∧ 0 < header.colsOffset then do
    let cols ← goGenerateStmt2Binds data header.count header.colCount header.colsOffset
      ⟨header.tagStructs, header.bindStructCount⟩ ⟨header.tagPointers, header.bindPtrCount⟩
    .ok (some cols)
  else .ok none

def goStmt2BindBinary (colIdx : Int) : Bound Call := do
  let header ← loadHeader data
  checkTableNames data header
  checkTags data header
  checkCols data header
  let tbnames ← bindTbnames data header
  let tags ← bindTags data header
  let cols ← bindCols data header
  .ok ⟨⟨int32 header.count, tbnames, tags, cols⟩, colIdx⟩

def taosStmt2BindBinary (colIdx : Int) : Bound Call := do
  if data.length < 28 then .error .dataLengthLess
  else
    let totalLength ← load data 0 4
    if totalLength ≠ uint32 data.length then
      .error (.totalLengthNotMatch data.length totalLength)
    else goStmt2BindBinary data colIdx

end TaosAdapter.Stmt2
