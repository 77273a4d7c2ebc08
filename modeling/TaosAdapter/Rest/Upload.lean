import TaosAdapter.Lib.Json

/-!
Contract: `upload` of `controller/rest/restful.go`, from the described columns
to the answer.

Owns: which columns are quoted, the four rules of `uploadReplacer`, the tuple of
a record, the buffer of the statement being put together, and the loop over the
form parts and their records.
-/

namespace TaosAdapter.Rest

open Lib

def maxSqlLength : Nat := 1024 * 1024 * 1

/-- The type and the note of a row of the answer to `describe`. -/
structure DescribeRow where
  type : String
  note : String
deriving DecidableEq

/-- `isStr`: whether a column is quoted, for the columns in front of the first tag. -/
def isStr : List DescribeRow → List Bool
  | [] => []
  | row :: rows =>
    if row.note = "TAG" then []
    else decide (row.type ∈ ["TIMESTAMP", "VARCHAR", "NCHAR"]) :: isStr rows

def uploadReplacer (byte : UInt8) : Bytes :=
  if byte = 92 then [92, 92]
  else if byte = 39 then [92, 39]
  else if byte = 40 then [92, 40]
  else if byte = 41 then [92, 41]
  else [byte]

/-- `uploadReplacer.Replace`: every rule replaces one byte. -/
def replace (text : Bytes) : Bytes := text.flatMap uploadReplacer

/-- A field of a record is nil or a text. -/
abbrev Record := List (Option Bytes)

def writeCell (quote : Bool) : Option Bytes → Bytes
  | none => ascii "null"
  | some text => if quote then 39 :: (replace text ++ [39]) else text

/-- The loop over the columns; a comma unless the column is the last one. -/
def writeCells : List Bool → Record → Bytes
  | quote :: columns, cell :: record =>
    writeCell quote cell ++ (if columns = [] then [] else [44]) ++ writeCells columns record
  | _, _ => []

def tupleText (columns : List Bool) (record : Record) : Bytes :=
  40 :: (writeCells columns record ++ [41])

/-- The two error responses. -/
inductive Refusal where
  | common (message : String)
  | taos (code : Int) (errStr : String)
deriving DecidableEq

structure Part where
  formName : String
  records : List Record
  /-- What `csvReader.Read` answers behind the records, if it is not the end. -/
  readError : Option String
deriving DecidableEq

structure Upload where
  db : Bytes
  table : Bytes
  describe : List DescribeRow
  parts : List Part
  /-- What `reader.NextPart` answers behind the parts, if it is not the end. -/
  partError : Option String
  /-- `TaosExecWithoutResult`, given the statements handed over before. -/
  taosExec : List Bytes → Bytes → Option Refusal

/-- The statements handed to the server, and the refusal the request ends with. -/
structure Failure where
  executed : List Bytes
  refusal : Refusal
deriving DecidableEq

structure UploadState where
  buffer : Bytes
  colBuffer : Bytes
  rows : Nat
  executed : List Bytes
deriving DecidableEq

/-- What a finished request leaves behind. -/
structure Uploaded where
  executed : List Bytes
  response : Bytes
deriving DecidableEq

def execHeader : Bytes :=
  ascii "\x7b\"code\":0,\"column_meta\":[[\"affected_rows\",\"INT\",4]],\"data\":[["

def execEnd : Bytes := ascii "]],\"rows\":1\x7d"

/-- The response that reports a number of rows. -/
def execResponse (rows : Nat) : Bytes := execHeader ++ ascii (toString rows) ++ execEnd

namespace Upload

variable (upload : Upload)

def tableName : Bytes := 96 :: (upload.db ++ [96, 46, 96] ++ upload.table ++ [96])

def insertInto : Bytes := ascii "insert into " ++ upload.tableName ++ ascii " values"

def columns : List Bool := isStr upload.describe

def columnCount : Nat := upload.columns.length

def start : UploadState :=
  { buffer := upload.insertInto, colBuffer := [], rows := 0, executed := [] }

variable (state : UploadState)

/-- The statement in the buffer is handed to the server. -/
def exec : Except Failure UploadState :=
  let executed := state.executed ++ [state.buffer]
  match upload.taosExec state.executed state.buffer with
  | some refusal => .error ⟨executed, refusal⟩
  | none => .ok { state with executed := executed }

/-- The statement in the buffer is executed if the tuple does not fit behind it. -/
def makeRoom : Except Failure UploadState :=
  if maxSqlLength ≤ state.buffer.length + state.colBuffer.length then do
    let state ← upload.exec state
    .ok { state with buffer := upload.insertInto }
  else .ok state

def writeTo : UploadState :=
  { state with buffer := state.buffer ++ state.colBuffer, colBuffer := [] }

/-- The body of the loop over the records of a part. -/
def addRecord (record : Record) : Except Failure UploadState :=
  if record.length < upload.columnCount then
    .error ⟨state.executed, .common "column count not enough"⟩
  else do
    let state ← upload.makeRoom
      { state with
        colBuffer := state.colBuffer ++ tupleText upload.columns record, rows := state.rows + 1 }
    .ok (writeTo state)

def addPart (part : Part) : Except Failure UploadState :=
  if part.formName ≠ "data" then .ok state
  else do
    let state ← part.records.foldlM upload.addRecord state
    match part.readError with
    | some message => .error ⟨state.executed, .common message⟩
    | none => .ok state

/-- What is left in the buffer is executed, and the rows are reported. -/
def finish : Except Failure Uploaded := do
  let state ←
    if state.buffer.length > upload.insertInto.length then upload.exec state else .ok state
  .ok { executed := state.executed, response := execResponse state.rows }

def run : Except Failure Uploaded := do
  let state ← upload.parts.foldlM upload.addPart upload.start
  match upload.partError with
  | some message => .error ⟨state.executed, .common message⟩
  | none => upload.finish state

def records : List Record :=
  (upload.parts.filter fun part => part.formName = "data").flatMap Part.records

end Upload

end TaosAdapter.Rest
