import TaosAdapter.Lib.Bufio

/-!
Contract: the CSV reader of `tools/csv/reader.go` with its default settings:
`readLine`, `lengthNL` and `readRecord`.

Owns: lines longer than the buffer, the byte order mark, the loop over the
fields and the loop inside a quoted field, `recordBuffer` and `fieldIndexes`
with -1 for a nil field, the errors with their positions, and the number of
fields per record.
-/

namespace TaosAdapter.Csv

open Lib Lib.Bufio

structure State where
  r : Reader
  numLine : Nat
  isFirstLine : Bool
  fieldsPerRecord : Nat
deriving DecidableEq

def newReader (source : Source) : State where
  r := source.reader
  numLine := 0
  isFirstLine := true
  fieldsPerRecord := 0

def bom : Bytes := [239, 187, 191]

def lengthNL (b : Bytes) : Nat :=
  if [13, 10] <:+ b then 2 else if [10] <:+ b then 1 else 0

section

variable (size : Nat) (withLast : Bool)

/-- The body of the loop that goes on while the buffer is full; nothing if the slice was
not read. -/
def rawLineBody : Bytes × Reader → Iteration (Bytes × Reader) (Option (Bytes × Bool × Reader))
  | (rawBuffer, r) =>
    match readSlice size withLast r with
    | none => .stop none
    | some (line, .full, r) => .again (rawBuffer ++ line, r)
    | some (line, .eof, r) => .stop (some (rawBuffer ++ line, true, r))
    | some (line, .line, r) => .stop (some (rawBuffer ++ line, false, r))

/-- The next line, and whether the end of the input came with it. -/
def rawLine (r : Reader) : Option (Bytes × Bool × Reader) :=
  (loop (rawLineBody size withLast) (r.remaining.length + 2) ([], r)).join

/-- A line that is cut off by the end of the input loses a CR. -/
def dropLastCR (line : Bytes) : Bytes := if [13] <:+ line then line.dropLast else line

def stripBom (isFirstLine : Bool) (line : Bytes) : Bytes :=
  if isFirstLine = true ∧ bom <+: line then line.drop 3 else line

variable (state : State)

/-- The line, and whether the error is `io.EOF`, which it is not if bytes were read. -/
def readLine : Option (Bytes × Bool × State) := do
  let (line, eof, r) ← rawLine size withLast state.r
  let cut := if line ≠ [] ∧ eof = true then dropLastCR line else line
  some (stripBom state.isFirstLine cut, decide (line = []) && eof,
    { state with r := r, numLine := state.numLine + 1, isFirstLine := false })

inductive ErrKind where
  | bareQuote
  | quote
  | fieldCount
deriving DecidableEq

structure ParseError where
  startLine : Nat
  line : Nat
  column : Nat
  err : ErrKind
deriving DecidableEq

/-- The variables of the loop over the fields. -/
structure Parse where
  state : State
  line : Bytes
  posLine : Nat
  posCol : Nat
  recordBuffer : Bytes
  fieldIndexes : List Int
  /-- Inside the loop of a quoted field. -/
  quoted : Bool
deriving DecidableEq

abbrev Parsed := Option (Parse × Option ParseError)

variable (recLine : Nat)

def parsePlain (p : Parse) : Iteration Parse Parsed :=
  let i := p.line.idxOf? 44
  let field :=
    match i with
    | some i => p.line.take i
    | none => p.line.take (p.line.length - lengthNL p.line)
  match field.idxOf? 34 with
  | some j => .stop (some (p, some ⟨recLine, p.state.numLine, p.posCol + j, .bareQuote⟩))
  | none =>
    let recordBuffer := p.recordBuffer ++ field
    let index : Int := if field = [] then -1 else recordBuffer.length
    let p := { p with recordBuffer := recordBuffer, fieldIndexes := p.fieldIndexes ++ [index] }
    match i with
    | some i => .again { p with line := p.line.drop (i + 1), posCol := p.posCol + i + 1 }
    | none => .stop (some (p, none))

def Parse.endField (p : Parse) : Parse :=
  { p with fieldIndexes := p.fieldIndexes ++ [(p.recordBuffer.length : Int)] }

def parseAfterQuote (p : Parse) : Iteration Parse Parsed :=
  if p.line.head? = some 34 then
    .again { p with
      recordBuffer := p.recordBuffer ++ [34], line := p.line.drop 1, posCol := p.posCol + 1 }
  else if p.line.head? = some 44 then
    .again { p.endField with line := p.line.drop 1, posCol := p.posCol + 1, quoted := false }
  else if lengthNL p.line = p.line.length then .stop (some (p.endField, none))
  else .stop (some (p, some ⟨recLine, p.state.numLine, p.posCol - 1, .quote⟩))

/-- A quoted field goes on with the next line. -/
def parseNextLine (p : Parse) : Iteration Parse Parsed :=
  match readLine size withLast p.state with
  | none => .stop none
  | some (line, _, state) =>
    .again { p with
      state := state
      line := line
      recordBuffer := p.recordBuffer ++ p.line
      posLine := if line ≠ [] then p.posLine + 1 else p.posLine
      posCol := if line ≠ [] then 1 else p.posCol + p.line.length }

def parseQuoted (p : Parse) : Iteration Parse Parsed :=
  match p.line.idxOf? 34 with
  | some i =>
    parseAfterQuote recLine
      { p with
        recordBuffer := p.recordBuffer ++ p.line.take i
        line := p.line.drop (i + 1), posCol := p.posCol + i + 1 }
  | none =>
    if p.line ≠ [] then parseNextLine size withLast p
    else .stop (some (p, some ⟨recLine, p.posLine, p.posCol, .quote⟩))

def parseBody (p : Parse) : Iteration Parse Parsed :=
  if p.quoted then parseQuoted size withLast recLine p
  else if p.line.head? = some 34 then
    .again { p with line := p.line.drop 1, posCol := p.posCol + 1, quoted := true }
  else parsePlain recLine p

/-- The fields cut out of the text of the record; -1 is a nil field. -/
def cutFields (str : Bytes) : Nat → List Int → List (Option Bytes)
  | _, [] => []
  | preIdx, idx :: indexes =>
    if idx = -1 then none :: cutFields str preIdx indexes
    else some ((str.take idx.toNat).drop preIdx) :: cutFields str idx.toNat indexes

inductive ReadResult where
  | eof
  | record (fields : List (Option Bytes)) (err : Option ParseError)
deriving DecidableEq

def skipBody : Iteration State (Option (Bytes × Bool × State)) :=
  match readLine size withLast state with
  | none => .stop none
  | some (line, eof, state) =>
    if eof = false ∧ line.length = lengthNL line then .again state
    else .stop (some (line, eof, state))

/-- `FieldsPerRecord` is set by the first record and compared with every other one. -/
def checkCount (recLine : Nat) (fields : List (Option Bytes))
    (err : Option ParseError) : ReadResult × State :=
  if 0 < state.fieldsPerRecord then
    let wrong := fields.length ≠ state.fieldsPerRecord ∧ err = none
    (.record fields (if wrong then some ⟨recLine, recLine, 1, .fieldCount⟩ else err), state)
  else (.record fields err, { state with fieldsPerRecord := fields.length })

def readRecord : Option (ReadResult × State) := do
  let (line, eof, state) ←
    (loop (skipBody size withLast) (state.r.remaining.length + 2) state).join
  if eof then some (.eof, state)
  else
    let start : Parse :=
      { state := state, line := line, posLine := state.numLine, posCol := 1
        recordBuffer := [], fieldIndexes := [], quoted := false }
    let fuel := line.length + state.r.remaining.length + 1
    let (p, err) ← (loop (parseBody size withLast state.numLine) fuel start).join
    some (checkCount p.state state.numLine (cutFields p.recordBuffer 0 p.fieldIndexes) err)

/-- The results of so many calls of `Read`, one after the other. -/
def reads : Nat → State → Option (List ReadResult)
  | 0, _ => some []
  | count + 1, state => do
      let (result, state) ← readRecord size withLast state
      let results ← reads count state
      some (result :: results)

end

end TaosAdapter.Csv
