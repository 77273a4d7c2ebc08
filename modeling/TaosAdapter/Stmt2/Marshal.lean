import TaosAdapter.Driver.Value

/-!
Contract: `MarshalStmt2Binary` of `driver/common/stmt/stmt2.go` with
`generateBindColData` and `generateBindQueryData`.

Owns: the checks of the bind data against the fields, the record of a tag, of a
column and of a query argument, the three sections with their tables of lengths,
and the errors.

A driver value is an `Option Value`: nil is `none`. Neither a bind data nor a
field is a nil pointer. How Go prints a value in an error, and `RFC3339Nano`, are
parameters.
-/

namespace TaosAdapter.Stmt2

open Lib Driver

structure Stmt2AllField where
  fieldType : BitVec 8
  precision : BitVec 8
  bindType : BitVec 8
deriving DecidableEq

structure TaosStmt2BindData where
  tableName : Bytes
  tags : List (Option Value)
  cols : List (List (Option Value))
deriving DecidableEq

def TAOS_FIELD_COL : BitVec 8 := 1

def TAOS_FIELD_TAG : BitVec 8 := 2

inductive MarshalError where
  | emptyData
  | tagCountNotMatch (dataCount typeCount : Nat)
  | colCountNotMatch (dataCount typeCount : Nat)
  | queryNotNeedTagTypes
  | queryNotNeedColTypes
  | queryOnlyNeedOneData
  | queryNotNeedTableName
  | queryNotNeedTag
  | queryNeedCol
  | queryColDataMustBeOneRow (col count : Nat)
  | noData
  | tableNameTooLong (index length : Nat)
  | dataTypeNotMatch (expect : String) (value : Value)
  | unsupportedFieldType (fieldType : Int)
  | unsupportedType (value : Option Value)
deriving DecidableEq

/-- `typeText` is the format `%T`, `valueText` the format `%v`. -/
def MarshalError.message (typeText valueText : Option Value → String) : MarshalError → String
  | .emptyData => "empty data"
  | .tagCountNotMatch dataCount typeCount =>
    s!"tag count not match, data count:{dataCount}, type count:{typeCount}"
  | .colCountNotMatch dataCount typeCount =>
    s!"col count not match, data count:{dataCount}, type count:{typeCount}"
  | .queryNotNeedTagTypes => "query not need tag types"
  | .queryNotNeedColTypes => "query not need col types"
  | .queryOnlyNeedOneData => "query only need one data"
  | .queryNotNeedTableName => "query not need table name"
  | .queryNotNeedTag => "query not need tag"
  | .queryNeedCol => "query need col"
  | .queryColDataMustBeOneRow col count =>
    s!"query col data must be one row, col:{col}, count:{count}"
  | .noData => "no data"
  | .tableNameTooLong index length => s!"table name too long, index:{index}, length:{length}"
  | .dataTypeNotMatch expect value =>
    s!"data type not match, expect {expect}, but get {typeText (some value)}, value:{valueText (some value)}"
  | .unsupportedFieldType fieldType => s!"unsupported type: {fieldType}"
  | .unsupportedType value => s!"unsupported type: {typeText value}"

abbrev Marshaled (Result : Type) := Outcome MarshalError Result

def needLength (fieldType : Nat) : Bool :=
  fieldType == TSDB_DATA_TYPE_BINARY || fieldType == TSDB_DATA_TYPE_NCHAR ||
    fieldType == TSDB_DATA_TYPE_JSON || fieldType == TSDB_DATA_TYPE_VARBINARY ||
    fieldType == TSDB_DATA_TYPE_GEOMETRY

def lengthTable (width : Nat) (lengths : List Nat) : Bytes := (lengths.map (leBytes width)).flatten

/-- The bytes of a record: its total length, type, number of rows, null flags,
lengths, buffer length and buffer. -/
def bindRecord (colType : Nat) (isNull : Bytes) (lengths : Option (List Nat)) (buffer : Bytes) :
    Bytes :=
  let headerLength := 17 + isNull.length + (lengths.map fun rows => rows.length * 4).getD 0
  leBytes 4 (buffer.length + headerLength) ++ (leBytes 4 colType ++ (leBytes 4 isNull.length ++
    (isNull ++ ([if lengths.isSome then 1 else 0] ++
      ((lengths.map (lengthTable 4)).getD [] ++ (leBytes 4 buffer.length ++ buffer))))))

abbrev WriteValue := Value → Marshaled Bytes

/-- A case of the switch over the field type: the type assertion and the bytes
written for the value. -/
def writeBits (size : Nat) (expect : String) (bits : Value → Option Nat) : WriteValue := fun v =>
  match bits v with
  | some value => .ok (leBytes size value)
  | none => .error (.dataTypeNotMatch expect v)

def writeBool : WriteValue := writeBits 1 "bool" fun
  | .bool v => some (if v then 1 else 0)
  | _ => none

def writeTinyint : WriteValue := writeBits 1 "int8" fun
  | .int8 v => some v.toNat
  | _ => none

def writeSmallint : WriteValue := writeBits 2 "int16" fun
  | .int16 v => some v.toNat
  | _ => none

def writeInt : WriteValue := writeBits 4 "int32" fun
  | .int32 v => some v.toNat
  | _ => none

def writeBigint : WriteValue := writeBits 8 "int64" fun
  | .int64 v => some v.toNat
  | _ => none

def writeFloat : WriteValue := writeBits 4 "float32" fun
  | .float32 bits => some bits.toNat
  | _ => none

def writeDouble : WriteValue := writeBits 8 "float64" fun
  | .float64 bits => some bits.toNat
  | _ => none

def writeUTinyint : WriteValue := writeBits 1 "uint8" fun
  | .uint8 v => some v.toNat
  | _ => none

def writeUSmallint : WriteValue := writeBits 2 "uint16" fun
  | .uint16 v => some v.toNat
  | _ => none

def writeUInt : WriteValue := writeBits 4 "uint32" fun
  | .uint32 v => some v.toNat
  | _ => none

def writeUBigint : WriteValue := writeBits 8 "uint64" fun
  | .uint64 v => some v.toNat
  | _ => none

def writeTimestamp (precision : Int) : WriteValue
  | .int64 v => .ok (leBytes 8 v.toNat)
  | .time t => do
      let ts ← timeToTimestamp t precision
      .ok (leBytes 8 ts.toNat)
  | v => .error (.dataTypeNotMatch "int64 or time.Time" v)

def writeVar : WriteValue
  | .string v => .ok v
  | .bytes v => .ok v
  | v => .error (.dataTypeNotMatch "string or []byte" v)

/-- The cases of the switch for values of a fixed size. -/
def fixedCase (precision : Int) : Nat → Option (Nat × WriteValue)
  | 1 => some (1, writeBool)
  | 2 => some (1, writeTinyint)
  | 3 => some (2, writeSmallint)
  | 4 => some (4, writeInt)
  | 5 => some (8, writeBigint)
  | 6 => some (4, writeFloat)
  | 7 => some (8, writeDouble)
  | 9 => some (8, writeTimestamp precision)
  | 11 => some (1, writeUTinyint)
  | 12 => some (2, writeUSmallint)
  | 13 => some (4, writeUInt)
  | 14 => some (8, writeUBigint)
  | _ => none

/-- The null flags and the buffer: a nil row takes as many zero bytes. -/
def fixedRows (size : Nat) (write : WriteValue) : List (Option Value) → Marshaled (Bytes × Bytes)
  | [] => .ok ([], [])
  | none :: rows => do
      let rest ← fixedRows size write rows
      .ok (1 :: rest.1, List.replicate size 0 ++ rest.2)
  | some v :: rows => do
      let value ← write v
      let rest ← fixedRows size write rows
      .ok (0 :: rest.1, value ++ rest.2)

/-- The null flags, the lengths and the buffer: a nil row takes no bytes. -/
def varRows : List (Option Value) → Marshaled (Bytes × List Nat × Bytes)
  | [] => .ok ([], [], [])
  | none :: rows => do
      let rest ← varRows rows
      .ok (1 :: rest.1, 0 :: rest.2.1, rest.2.2)
  | some v :: rows => do
      let value ← writeVar v
      let rest ← varRows rows
      .ok (0 :: rest.1, value.length :: rest.2.1, value ++ rest.2.2)

def checkAllNull (data : List (Option Value)) : Bool := data.all Option.isNone

def Stmt2AllField.typeBits (field : Stmt2AllField) : Nat := (field.fieldType.signExtend 32).toNat

def generateBindColData (data : List (Option Value)) (colType : Stmt2AllField) : Marshaled Bytes :=
  let fieldType := colType.fieldType.toNat
  if checkAllNull data then
    .ok (bindRecord colType.typeBits (List.replicate data.length 1)
      (if needLength fieldType then some (List.replicate data.length 0) else none) [])
  else if needLength fieldType then do
    let rows ← varRows data
    .ok (bindRecord colType.typeBits rows.1 (some rows.2.1) rows.2.2)
  else
    match fixedCase colType.precision.toNat fieldType with
    | some (size, write) => do
        let rows ← fixedRows size write data
        .ok (bindRecord colType.typeBits rows.1 none rows.2)
    | none => .error (.unsupportedFieldType colType.fieldType.toInt)

variable (formatRFC3339Nano : Time → Bytes)

/-- The type and the bytes of a query argument. -/
def queryValue : Value → Option (Nat × Bytes)
  | .string v => some (TSDB_DATA_TYPE_BINARY, v)
  | .bytes v => some (TSDB_DATA_TYPE_BINARY, v)
  | .int8 v => some (TSDB_DATA_TYPE_TINYINT, leBytes 1 v.toNat)
  | .int16 v => some (TSDB_DATA_TYPE_SMALLINT, leBytes 2 v.toNat)
  | .int32 v => some (TSDB_DATA_TYPE_INT, leBytes 4 v.toNat)
  | .int64 v => some (TSDB_DATA_TYPE_BIGINT, leBytes 8 v.toNat)
  | .uint8 v => some (TSDB_DATA_TYPE_UTINYINT, leBytes 1 v.toNat)
  | .uint16 v => some (TSDB_DATA_TYPE_USMALLINT, leBytes 2 v.toNat)
  | .uint32 v => some (TSDB_DATA_TYPE_UINT, leBytes 4 v.toNat)
  | .uint64 v => some (TSDB_DATA_TYPE_UBIGINT, leBytes 8 v.toNat)
  | .float32 bits => some (TSDB_DATA_TYPE_FLOAT, leBytes 4 bits.toNat)
  | .float64 bits => some (TSDB_DATA_TYPE_DOUBLE, leBytes 8 bits.toNat)
  | .bool v => some (TSDB_DATA_TYPE_BOOL, [if v then 1 else 0])
  | .time t => some (TSDB_DATA_TYPE_BINARY, formatRFC3339Nano t)
  | .other => none

/-- The arguments with a length are those of type BINARY. -/
def generateBindQueryData (data : Option Value) : Marshaled Bytes :=
  match data.bind (queryValue formatRFC3339Nano) with
  | some (colType, buf) =>
    .ok (bindRecord colType [0]
      (if colType = TSDB_DATA_TYPE_BINARY then some [buf.length] else none) buf)
  | none => .error (.unsupportedType data)

def checkInsert (tagCount colCount : Nat) : List TaosStmt2BindData → Marshaled Unit
  | [] => .ok ()
  | data :: rest =>
    if data.tags.length ≠ tagCount then
      .error (.tagCountNotMatch data.tags.length tagCount)
    else if data.cols.length ≠ colCount then
      .error (.colCountNotMatch data.cols.length colCount)
    else checkInsert tagCount colCount rest

def checkOneRow : Nat → List (List (Option Value)) → Marshaled Unit
  | _, [] => .ok ()
  | j, col :: cols =>
    if col.length ≠ 1 then .error (.queryColDataMustBeOneRow j col.length)
    else checkOneRow (j + 1) cols

def checkQuery (tagCount colCount : Nat) (bindData : List TaosStmt2BindData) : Marshaled Nat :=
  if tagCount ≠ 0 then .error .queryNotNeedTagTypes
  else if colCount ≠ 0 then .error .queryNotNeedColTypes
  else
    match bindData with
    | [data] =>
      if data.tableName ≠ [] then .error .queryNotNeedTableName
      else if data.tags.length ≠ 0 then .error .queryNotNeedTag
      else if data.cols.length = 0 then .error .queryNeedCol
      else do
        checkOneRow 0 data.cols
        .ok data.cols.length
    | _ => .error .queryOnlyNeedOneData

def checkBindData (bindData : List TaosStmt2BindData) (isInsert : Bool) (tagCount colCount : Nat) :
    Marshaled Nat :=
  if isInsert then do
    checkInsert tagCount colCount bindData
    .ok colCount
  else checkQuery tagCount colCount bindData

/-- What a table adds to the three buffers. -/
structure TableData where
  name : Bytes
  tags : Bytes
  cols : Bytes
deriving DecidableEq

def marshalName (index : Nat) (tableName : Bytes) : Marshaled Bytes :=
  if tableName ≠ [] ∧ 65535 - 1 < tableName.length then
    .error (.tableNameTooLong index tableName.length)
  else .ok (tableName ++ [0])

/-- The records of some columns with their fields, one behind the other. -/
def marshalRecords : List (List (Option Value)) → List Stmt2AllField → Marshaled Bytes
  | [], _ => .ok []
  -- the field's index behind the end
  | _ :: _, [] => .panic
  | col :: cols, field :: fields => do
      let record ← generateBindColData col field
      .ok (record ++ (← marshalRecords cols fields))

def marshalTags (tags : List (Option Value)) (tagType : List Stmt2AllField) : Marshaled Bytes :=
  marshalRecords (tags.map fun tag => [tag]) tagType

def marshalArguments (formatRFC3339Nano : Time → Bytes) :
    List (List (Option Value)) → Marshaled Bytes
  | [] => .ok []
  -- `col[0]` of an empty column
  | [] :: _ => .panic
  | (value :: _) :: cols => do
      let record ← generateBindQueryData formatRFC3339Nano value
      .ok (record ++ (← marshalArguments formatRFC3339Nano cols))

/-- Which sections the message has, and the fields of their records. -/
structure Layout where
  needTableNames : Bool
  needTags : Bool
  needCols : Bool
  isInsert : Bool
  tagType : List Stmt2AllField
  colType : List Stmt2AllField

def marshalCols (layout : Layout) (cols : List (List (Option Value))) : Marshaled Bytes :=
  if layout.isInsert then marshalRecords cols layout.colType
  else marshalArguments formatRFC3339Nano cols

/-- A section that is not needed gets no bytes. -/
def whenNeeded (needed : Bool) (bytes : Marshaled Bytes) : Marshaled Bytes :=
  if needed then bytes else .ok []

def marshalTable (layout : Layout) (index : Nat) (data : TaosStmt2BindData) :
    Marshaled TableData := do
  let name ← whenNeeded layout.needTableNames (marshalName index data.tableName)
  let tags ← whenNeeded layout.needTags (marshalTags data.tags layout.tagType)
  let cols ← whenNeeded layout.needCols (marshalCols formatRFC3339Nano layout data.cols)
  .ok ⟨name, tags, cols⟩

def marshalTables (formatRFC3339Nano : Time → Bytes) (layout : Layout) :
    Nat → List TaosStmt2BindData → Marshaled (List TableData)
  | _, [] => .ok []
  | index, data :: rest => do
      let table ← marshalTable formatRFC3339Nano layout index data
      .ok (table :: (← marshalTables formatRFC3339Nano layout (index + 1) rest))

def sectionBytes (width : Nat) (needed : Bool) (parts : List Bytes) : Bytes :=
  if needed then lengthTable width (parts.map List.length) ++ parts.flatten else []

variable (layout : Layout) (tables : List TableData)

def Layout.names : Bytes :=
  sectionBytes 2 layout.needTableNames (tables.map TableData.name)

def Layout.tags : Bytes :=
  sectionBytes 4 layout.needTags (tables.map TableData.tags)

def Layout.cols : Bytes :=
  sectionBytes 4 layout.needCols (tables.map TableData.cols)

def Layout.tagOffset : Nat :=
  28 + (layout.names tables).length

def Layout.colOffset : Nat :=
  layout.tagOffset tables + (layout.tags tables).length

def messageBytes (count tagCount colCount : Nat) (tables : List TableData) : Bytes :=
  let totalLength := layout.colOffset tables + (layout.cols tables).length
  leBytes 4 totalLength ++ (leBytes 4 count ++ (leBytes 4 tagCount ++ (leBytes 4 colCount ++
    (leBytes 4 (if layout.needTableNames then 28 else 0) ++
      (leBytes 4 (if layout.needTags then layout.tagOffset tables else 0) ++
        (leBytes 4 (if layout.needCols then layout.colOffset tables else 0) ++
          (layout.names tables ++ (layout.tags tables ++ layout.cols tables))))))))

def tagFields (fields : List Stmt2AllField) : List Stmt2AllField :=
  fields.filter fun field => field.bindType = TAOS_FIELD_TAG

def colFields (fields : List Stmt2AllField) : List Stmt2AllField :=
  fields.filter fun field => field.bindType = TAOS_FIELD_COL

def layoutOf (bindData : List TaosStmt2BindData) (isInsert : Bool) (fields : List Stmt2AllField)
    (colCount : Nat) : Layout :=
  ⟨isInsert && bindData.any fun data => data.tableName ≠ [], (tagFields fields).length ≠ 0,
    colCount ≠ 0, isInsert, tagFields fields, colFields fields⟩

def marshalStmt2Binary (bindData : List TaosStmt2BindData) (isInsert : Bool)
    (fields : List Stmt2AllField) : Marshaled Bytes :=
  let tagCount := (tagFields fields).length
  if bindData.length = 0 then .error .emptyData
  else do
    let colCount ← checkBindData bindData isInsert tagCount (colFields fields).length
    let layout := layoutOf bindData isInsert fields colCount
    if ¬ layout.needTableNames ∧ ¬ layout.needTags ∧ ¬ layout.needCols then .error .noData
    else
      let tables ← marshalTables formatRFC3339Nano layout 0 bindData
      .ok (messageBytes layout bindData.length tagCount colCount tables)

end TaosAdapter.Stmt2
