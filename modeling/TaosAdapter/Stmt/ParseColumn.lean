import TaosAdapter.Lib.Json
import TaosAdapter.Stmt.Convert

/-!
Contract: `StmtParseColumn` and `strToHex` of `controller/ws/stmt/convert.go`.

Owns: the two nested callbacks over the columns and rows of a document, with the
counters they share, and the decoding of one cell.
-/

namespace TaosAdapter.Stmt

open Lib Driver
open RawBlock (Cell)

/-- The arguments of `ReportError`. -/
structure Reported where
  operation : String
  msg : Bytes
deriving DecidableEq

/-- What the iterator reads of a value, `time.Parse` with `time.RFC3339Nano`, and
`strconv.Quote`. -/
structure Readers where
  readBool : Json → Except Reported Bool
  readInt : (width : Nat) → Json → Except Reported (BitVec width)
  readUint : (width : Nat) → Json → Except Reported (BitVec width)
  readFloat : (width : Nat) → Json → Except Reported (BitVec width)
  readString : Json → Except Reported Bytes
  parseTime : Bytes → Except Bytes Time
  quote : Bytes → Bytes

def firstByte : Json → UInt8
  | .null => 110
  | .bool true => 116
  | .bool false => 102
  | .number literal => literal.headD 48
  | .string _ => 34
  | .array _ => 91
  | .object _ => 123

/-- The values `ReadArrayCB` calls back for: null is an empty array. -/
def elements : Json → Option (List Json)
  | .array items => some items
  | .null => some []
  | _ => none

def notAnArray (json : Json) : Reported :=
  ⟨"ReadArrayCB", ascii "expect [ or n, but found " ++ [firstByte json]⟩

/-- A callback that fails reports an error and stops the array. -/
def readArrayCB {State : Type} (json : Json) (callback : State → Json → Outcome Reported State)
    (state : State) : Outcome Reported State :=
  match elements json with
  | some items => items.foldlM callback state
  | none => .error (notAnArray json)

def isNotHex (str : Bytes) : Bytes := ascii "strToHex: " ++ str ++ ascii " is not hex string"

variable (iter : Readers)

/-- `strconv.ParseUint(s, 16, 8)` of two bytes -/
def parseUint (high low : UInt8) : Except Bytes UInt8 :=
  match hexValue high, hexValue low with
  | some a, some b => .ok (UInt8.ofNat (a * 16 + b))
  | _, _ =>
    .error (ascii "strconv.ParseUint: parsing " ++ iter.quote [high, low] ++
      ascii ": invalid syntax")

def hexPairs (iter : Readers) : Bytes → Except Bytes Bytes
  | high :: low :: rest => do
      let value ← parseUint iter high low
      let result ← hexPairs iter rest
      return value :: result
  | _ => .ok []

def strToHex (str : Bytes) : Except Bytes Bytes :=
  if str.length % 2 ≠ 0 then .error (isNotHex str) else hexPairs iter str

def readAs {Value : Type} (result : Except Reported Value) (make : Value → TaosValue) :
    Outcome Reported TaosValue := do
  let value ← .ofExcept result
  .ok (make value)

def readHex (operation : String) (json : Json) (make : Bytes → TaosValue) :
    Outcome Reported TaosValue := do
  let str ← .ofExcept (iter.readString json)
  match strToHex iter str with
  | .ok bytes => .ok (make bytes)
  | .error msg => .error ⟨operation, msg⟩

/-- A number is converted even when it could not be read, as zero, so an unknown
precision panics first. A value that is no number and no string is not read at
all: the array then does not go on where it should. -/
def readTimestamp (precision : Int) (json : Json) : Outcome Reported TaosValue :=
  match json with
  | .number _ =>
    match iter.readInt 64 json with
    | .ok timestamp => do
        let t ← timestampConvertToTime timestamp precision
        .ok (.timestamp t precision)
    | .error reason => do
        let _ ← timestampConvertToTime 0 precision
        .error reason
  | .string _ => do
      let str ← .ofExcept (iter.readString json)
      match iter.parseTime str with
      | .ok t => .ok (.timestamp t precision)
      | .error msg => .error ⟨"parse time", msg⟩
  | _ => .error ⟨"ReadArrayCB", ascii "expect ] in the end, but found " ++ [firstByte json]⟩

def readValue (field : StmtField) (json : Json) : Outcome Reported TaosValue :=
  match field.fieldType with
  | 1 => readAs (iter.readBool json) .bool
  | 2 => readAs (iter.readInt 8 json) .tinyint
  | 3 => readAs (iter.readInt 16 json) .smallint
  | 4 => readAs (iter.readInt 32 json) .int
  | 5 => readAs (iter.readInt 64 json) .bigint
  | 6 => readAs (iter.readFloat 32 json) .float
  | 7 => readAs (iter.readFloat 64 json) .double
  | 8 => readAs (iter.readString json) .binary
  | 16 => readHex iter "parse varbinary" json .varBinary
  | 20 => readHex iter "parse geometry" json .geometry
  | 9 => readTimestamp iter field.precision json
  | 10 => readAs (iter.readString json) .nchar
  | 11 => readAs (iter.readUint 8 json) .utinyint
  | 12 => readAs (iter.readUint 16 json) .usmallint
  | 13 => readAs (iter.readUint 32 json) .uint
  | 14 => readAs (iter.readUint 64 json) .ubigint
  | colType => .error ⟨"unknown column types", ascii (formatInt8 colType)⟩

def decodeCell (field : StmtField) (json : Json) : Outcome Reported Cell :=
  match json with
  | .null => .ok none
  | json => do
      let value ← readValue iter field json
      .ok (some value)

/-- The fields of a statement with the types of the columns, which are nil or as
many as the fields. -/
structure BindTarget where
  fields : List StmtField
  fieldTypes : Option (List ColumnType)
  sameLength : ∀ types ∈ fieldTypes, types.length = fields.length

/-- The variables the callbacks share. -/
structure ParseState where
  data : List (List Cell)
  rowNums : Nat
  rowIndex : Nat
  colIndex : Nat
  fieldTypes : Option (List ColumnType)

/-- The length a value of a type with `MaxLen` has. -/
def raisedLength : TaosValue → Nat
  | .binary v => v.length
  | .varBinary v => v.length
  | .geometry v => v.length
  | .nchar v => v.length
  | _ => 0

def ColumnType.raise (type : ColumnType) (cell : Cell) : ColumnType :=
  { type with maxLen := max type.maxLen (cell.elim 0 raisedLength) }

def ParseState.push (state : ParseState) (cell : Cell) : ParseState :=
  { state with
    data := state.data.modify state.colIndex (· ++ [cell])
    rowIndex := state.rowIndex + 1
    fieldTypes := state.fieldTypes.map fun types =>
      types.modify state.colIndex fun type => type.raise cell }

def rowCallback (field : StmtField) (state : ParseState) (json : Json) :
    Outcome Reported ParseState := do
  let cell ← decodeCell iter field json
  .ok (state.push cell)

def wrongRowLength (rowNums rowIndex : Nat) : Reported :=
  ⟨"wrong row length",
    ascii ("want " ++ toString rowNums ++ " rows got " ++ toString rowIndex)⟩

/-- The rows of a column are compared with those of the first one when the next
column begins. -/
def colCallback (fields : List StmtField) (state : ParseState) (json : Json) :
    Outcome Reported ParseState :=
  match fields[state.colIndex]? with
  | none => .panic
  | some field =>
    let rowNums := if state.colIndex = 1 then state.rowIndex else state.rowNums
    if state.colIndex > 1 ∧ rowNums ≠ state.rowIndex then
      .error (wrongRowLength rowNums state.rowIndex)
    else do
      let state ← readArrayCB json (rowCallback iter field)
        { state with rowNums := rowNums, rowIndex := 0 }
      .ok { state with colIndex := state.colIndex + 1 }

def ParseState.initial (target : BindTarget) : ParseState :=
  ⟨List.replicate target.fields.length [], 0, 0, 0, target.fieldTypes⟩

/-- The data, and the types of the columns as they are left behind. -/
def stmtParseColumn (columns : Json) (target : BindTarget) :
    Outcome Reported (List (List Cell) × Option (List ColumnType)) := do
  let state ← readArrayCB columns (colCallback iter target.fields) (.initial target)
  .ok (state.data, state.fieldTypes)

end TaosAdapter.Stmt
