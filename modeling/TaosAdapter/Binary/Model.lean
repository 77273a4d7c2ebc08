import TaosAdapter.Stmt.Convert

/-!
Contract: `handleMessageBinary` of `controller/ws/ws/handler.go` and the
handlers it dispatches to, in `raw.go`, `stmt.go`, `query.go`, `fetch.go` and
`stmt2.go` of the same directory.

Owns: everything the handlers take from the bytes of the message, the checks
and error responses on the way, and the call each of them ends in.
-/

namespace TaosAdapter.Binary

open Lib Driver Stmt
open RawBlock (Cell Read load loadInt32 bitmapLen)

/-- The code and the text of an error response. -/
structure Problem where
  code : Int
  message : String
deriving DecidableEq

/-- A statement, with the answers of the library about its fields. -/
structure Statement where
  isInsert : Bool
  tagFields : Except Problem (List StmtField)
  colFields : Except Problem (List StmtField)

/-- The session: its connection, and its statements. A statement that has been
freed is still in the list. -/
structure Session where
  connected : Bool
  stmts : Nat → Option (Option Statement)

/-- How a handler ends: with a response of its own or with a call. -/
inductive Call where
  | response
  | setTags (stmtID : Nat) (tags : List Cell)
  | bindParamBatch (stmtID : Nat) (data : List (List Cell)) (fieldTypes : List ColumnType)
  | tmqWriteRaw (metaType : Nat) (data : Bytes)
  | writeRawBlock (numOfRows : Int) (rawBlock : Bytes) (tableName : Bytes) (reqID : Nat)
  | writeRawBlockWithFields (numOfRows : Int) (rawBlock : Bytes) (tableName fieldsBlock : Bytes)
      (numOfColumn : Int) (reqID : Nat)
  | query (sql : Bytes) (reqID : Nat)
  | fetchRawBlock (resultID reqID : Nat)
  | stmt2Bind (stmtID : Nat) (bindData : Bytes) (colIndex : Int)
deriving DecidableEq

abbrev Handled (α : Type) := Outcome Problem α

def fail {α : Type} (message : String) : Handled α := .error ⟨0xffff, message⟩

def ofLibrary {α : Type} : Except Problem α → Handled α
  | .ok value => .ok value
  | .error problem => .error problem

variable (message : Bytes)

def loadNat (address : Int) (width : Nat) : Handled Nat :=
  .widen (load message address width)

def loadInt (address : Int) : Handled Int :=
  .widen (loadInt32 message address)

/-- Bytes that are copied, or that the client library reads. -/
def region (address : Int) (width : Nat) : Read Bytes :=
  .ofRead (peek message address width)

variable (rawBlock : Int)

def rawBlockGetLength : Read Int :=
  loadInt32 message (rawBlock + 4)

def rawBlockGetNumOfRows : Read Int :=
  loadInt32 message (rawBlock + 8)

def rawBlockGetNumOfCols : Read Int :=
  loadInt32 message (rawBlock + 12)

/-- The size of a block by its own fields: its length, and at least the header,
the infos and lengths of the columns, and a bitmap for each of them. -/
def blockSize (length rows cols : Int) : Nat :=
  max length.toNat (28 + 9 * cols.toNat + cols.toNat * bitmapLen rows.toNat)

/-- A raw block as the client library reads it. -/
def readRawBlock : Read Bytes := do
  let length ← rawBlockGetLength message rawBlock
  let rows ← rawBlockGetNumOfRows message rawBlock
  let cols ← rawBlockGetNumOfCols message rawBlock
  region message rawBlock (blockSize length rows cols)

def binaryTMQRawMessage : Handled Call := do
  let length ← loadNat message 24 4
  let metaType ← loadNat message 28 2
  let data ← .widen (region message 30 length)
  .ok (.tmqWriteRaw metaType data)

/-- The sum `30+tableNameLength` is a `uint16`. -/
def binaryRawBlockMessage (reqID : Nat) (message : Bytes) : Handled Call := do
  let numOfRows ← loadInt message 24
  let tableNameLength ← loadNat message 28 2
  let tableName ← .widen (region message 30 tableNameLength)
  let rawBlock ← .widen (readRawBlock message ((30 + tableNameLength) % 2 ^ 16 : Nat))
  .ok (.writeRawBlock numOfRows rawBlock tableName reqID)

def taosFieldSize : Nat := 72

/-- A raw block with the fields behind it, as the client library reads them. -/
def readRawBlockWithFields : Read (Bytes × Bytes × Int) := do
  let blockLength ← rawBlockGetLength message rawBlock
  let numOfColumn ← rawBlockGetNumOfCols message rawBlock
  let block ← readRawBlock message rawBlock
  let fieldsBlock ←
    region message (rawBlock + blockLength) (taosFieldSize * numOfColumn.toNat)
  .ok (block, fieldsBlock, numOfColumn)

def binaryRawBlockMessageWithFields (reqID : Nat) (message : Bytes) : Handled Call := do
  let numOfRows ← loadInt message 24
  let tableNameLength ← loadNat message 28 2
  let tableName ← .widen (region message 30 tableNameLength)
  let (rawBlock, fieldsBlock, numOfColumn) ←
    .widen (readRawBlockWithFields message (30 + tableNameLength))
  .ok (.writeRawBlockWithFields numOfRows rawBlock tableName fieldsBlock numOfColumn reqID)

variable (session : Session) (stmtID : Nat)

def stmtValidateAndLock : Handled Statement :=
  match session.stmts stmtID with
  | none => fail "stmt is nil"
  | some none => fail "stmt has been freed"
  | some (some stmt) => .ok stmt

def stmtBinarySetTags (message : Bytes) : Handled Call := do
  let block : Int := 24
  let columns ← .widen (rawBlockGetNumOfCols message block)
  let rows ← .widen (rawBlockGetNumOfRows message block)
  if rows ≠ 1 then fail "rows not equal 1"
  else
    let stmt ← stmtValidateAndLock session stmtID
    let fields ← ofLibrary stmt.tagFields
    if fields = [] then .ok .response
    else if columns ≠ fields.length then fail "stmt tags count not match"
    else
      let tags ← .widen (blockConvert message block rows fields)
      -- `tags[i][0]`: there is one row.
      .ok (.setTags stmtID (tags.map fun tag => tag.1.head?.join))

/-- The types of the fields; the first one without a type ends the loop. -/
def getTypes : List StmtField → Except String (List ColumnType)
  | [] => .ok []
  | field :: fields =>
    match field.getType with
    | .error err => .error err
    | .ok type =>
      match getTypes fields with
      | .error err => .error err
      | .ok types => .ok (type :: types)

/-- `MaxLen` of each column raised to the greatest length in it. -/
def raiseMaxLen (fieldTypes : List ColumnType) (data : List Converted) : List ColumnType :=
  List.zipWith (fun type column => { type with maxLen := max type.maxLen column.2 })
    fieldTypes data

def bindBlock (message : Bytes) (block rows : Int) (fields : List StmtField)
    (fieldTypes : List ColumnType) : Handled Call := do
  let data ← .widen (blockConvert message block rows fields)
  .ok (.bindParamBatch stmtID (data.map Prod.fst) (raiseMaxLen fieldTypes data))

/-- The fields and types of the columns, by the infos of the block. -/
def rowBlockColumns (colTypes : List Nat) : Except String (List StmtField × List ColumnType) :=
  match rowBlockError colTypes with
  | some err => .error err
  | none =>
    .ok (colTypes.map rowBlockField, (colTypes.filterMap rowBlockType).map fun type => ⟨type, 0⟩)

def parseRowBlockInfo (block columns : Int) :
    Read (Except String (List StmtField × List ColumnType)) :=
  -- `make` with a negative length
  if columns < 0 then .panic
  else do
    let colTypes ← rawBlockGetColInfo message block columns.toNat 0
    .ok (rowBlockColumns colTypes)

def stmtBinaryBind (message : Bytes) : Handled Call := do
  let block : Int := 24
  let columns ← .widen (rawBlockGetNumOfCols message block)
  let rows ← .widen (rawBlockGetNumOfRows message block)
  let stmt ← stmtValidateAndLock session stmtID
  if stmt.isInsert then
    let fields ← ofLibrary stmt.colFields
    if fields = [] then .ok .response
    else
      match getTypes fields with
      | .error err => fail ("stmt get column type error, err:" ++ err)
      | .ok fieldTypes =>
        if columns ≠ fields.length then fail "stmt column count not match"
        else bindBlock stmtID message block rows fields fieldTypes
  else
    match ← .widen (parseRowBlockInfo message block columns) with
    | .error err => fail ("parse row block info error, err:" ++ err)
    | .ok (fields, fieldTypes) => bindBlock stmtID message block rows fields fieldTypes

/-- The sum `30+sqlLen` is a `uint32`; a slice that ends before it begins panics. -/
def binaryQuery (reqID : Nat) (message : Bytes) : Handled Call :=
  if message.length < 31 then fail "message length is too short"
  else do
    let v ← loadNat message 24 2
    if v = 1 then
      let sqlLen ← loadNat message 26 4
      let remainMessageLength := message.length - 30
      if remainMessageLength < sqlLen then
        fail ("uncompleted message, sql length:" ++ toString sqlLen ++ ", remainMessageLength:" ++
          toString remainMessageLength)
      else if (30 + sqlLen) % 2 ^ 32 < 30 then .panic
      else .ok (.query ((message.drop 30).take sqlLen) reqID)
    else fail ("unknown binary query version:" ++ toString v)

def fetchRawBlock (reqID resultID : Nat) (message : Bytes) : Handled Call :=
  if message.length < 26 then fail "message length is too short"
  else do
    let v ← loadNat message 24 2
    if v ≠ 1 then fail "unknown fetch raw block version"
    else .ok (.fetchRawBlock resultID reqID)

def stmt2BinaryBind (message : Bytes) : Handled Call :=
  if message.length < 30 then fail "message length is too short"
  else do
    let v ← loadNat message 24 2
    if v ≠ 1 then fail "unknown stmt2 bind version"
    else
      let colIndex ← loadInt message 26
      .ok (.stmt2Bind stmtID (message.drop 30) colIndex)

def dispatch (reqID resourceID action : Nat) (message : Bytes) : Handled Call :=
  match action with
  | 1 => stmtBinarySetTags session resourceID message
  | 2 => stmtBinaryBind session resourceID message
  | 3 => binaryTMQRawMessage message
  | 4 => binaryRawBlockMessage reqID message
  | 5 => binaryRawBlockMessageWithFields reqID message
  | 6 => binaryQuery reqID message
  | 7 => fetchRawBlock reqID resourceID message
  | 9 => stmt2BinaryBind resourceID message
  | action => fail ("unknown binary action " ++ toString action)

/-- `&message[0]` panics for a message without bytes. -/
def handleMessageBinary (message : Bytes) : Handled Call :=
  if message = [] then .panic
  else do
    let reqID ← loadNat message 0 8
    let resourceID ← loadNat message 8 8
    let action ← loadNat message 16 8
    if session.connected = false then fail "server not connected"
    else dispatch session reqID resourceID action message

end TaosAdapter.Binary
