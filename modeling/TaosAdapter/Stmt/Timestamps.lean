import TaosAdapter.Driver.GoTime
import TaosAdapter.JsonBuilder.Texts
import TaosAdapter.Stmt.Bounds
import TaosAdapter.Stmt.BindMemory
import TaosAdapter.Stmt.ParsedColumns

/-!
Owns: what a statement binds for a timestamp that is sent to a column of
timestamps, as a number of a JSON document or as eight bytes of a raw block.

Either message becomes the same cell, a time, and the bind divides its
nanoseconds again. The row of the bind therefore holds the timestamp exactly if
its nanoseconds fit 64 bits.
-/

namespace TaosAdapter.Stmt

open Lib Driver List Outcome
open RawBlock (Cell Read load loadInt32 isVarDataType itemIsNull valueStart
  rawBlockGetColumnLengthOffset rawBlockGetColDataOffset)

def columnHeader (memory : Bytes) (block : Int) (blockSize colCount : Nat) :
    List StmtField → Nat → Int → Nat → Int
  | field :: fields, col, pHeader, k + 1 =>
    columnHeader memory block blockSize colCount fields (col + 1)
      (valueStart blockSize field.fieldType pHeader +
        int32At memory (block + rawBlockGetColumnLengthOffset colCount + col * 4)) k
  | _, _, pHeader, _ => pHeader

inductive Message where
  | document
  | rawBlock

structure StmtField.IsTimestamp (field : StmtField) (precision : Nat) : Prop where
  fieldType : field.fieldType = TSDB_DATA_TYPE_TIMESTAMP
  precision : field.precision = precision

inductive Received (ts : BitVec 64) (precision col row : Nat) :
    Message → List (List Cell) → Prop
  | document {iter : Readers} {document : Json} {target : BindTarget} {data : List (List Cell)}
      {types : Option (List ColumnType)} {field : StmtField} {rows : List Json} {literal : Bytes}
      (parsed : stmtParseColumn iter document target = .ok (data, types))
      (known : target.fields[col]? = some field) (timestamps : field.IsTimestamp precision)
      (values : (columnsOf document)[col]? = some (.array rows))
      (number : rows[row]? = some (.number literal))
      (read : iter.readInt 64 (.number literal) = .ok ts) :
      Received ts precision col row .document data
  | rawBlock {memory : Bytes} {block : Int} {blockSize : Nat} {fields : List StmtField}
      {converted : List Converted} {field : StmtField} {pHeader : Int}
      (finished : blockConvert memory block blockSize fields = .ok converted)
      (known : fields[col]? = some field) (timestamps : field.IsTimestamp precision)
      (begins : columnHeader memory block blockSize fields.length fields 0
        (block + rawBlockGetColDataOffset fields.length) col = pHeader)
      (inside : row < blockSize) (value : nullAt memory pHeader row = false)
      (bits : word memory (valueStart blockSize field.fieldType pHeader + row * 8) 8 = ts.toNat) :
      Received ts precision col row .rawBlock (converted.map Prod.fst)

structure Sent (message : Message) (ts : BitVec 64) (precision : Nat) where
  column : Nat
  row : Nat
  data : List (List Cell)
  received : Received ts precision column row message data
  malloc : Malloc
  bindType : List ColumnType
  columnType : ColumnType
  typed : bindType[column]? = some columnType
  timestamps : columnType.type = .timestamp
  binds : List MultiBind
  bound : taosStmtBindParamBatch malloc data bindType = .ok binds
  bind : MultiBind
  here : binds[column]? = some bind

def Sent.Exactly {message : Message} {ts : BitVec 64} {precision : Nat}
    (sent : Sent message ts precision) : Prop :=
  sent.bind.read sent.row = .ok (some (leBytes 8 ts.toNat))

section

variable {ts : BitVec 64} {precision col row unit : Nat}

def timestampCell (ts : BitVec 64) (precision unit : Nat) : Cell :=
  some (.timestamp (ts * BitVec.ofNat 64 unit).toInt precision)

variable {field : StmtField} {iter : Readers}

theorem decodeCell_number {literal : Bytes} (timestamps : field.IsTimestamp precision)
    (known : precisionUnit precision = some unit)
    (read : iter.readInt 64 (.number literal) = .ok ts) :
    decodeCell iter field (.number literal) = .ok (timestampCell ts precision unit) := by
  obtain ⟨isTimestamp, rfl⟩ := timestamps
  have converted : (timestampConvertToTime ts field.precision : Outcome Reported Time) =
      .ok (ts * BitVec.ofNat 64 unit).toInt := by
    rw [timestampConvertToTime, known]
  simp only [decodeCell, readValue, isTimestamp, TSDB_DATA_TYPE_TIMESTAMP, readTimestamp, read,
    converted, ok_bind, timestampCell]

theorem getElem?_of_forall₂ {α β : Type} {relation : α → β → Prop} {left : List α}
    {right : List β} (each : List.Forall₂ relation left right) {i : Nat} {item : α}
    (here : left[i]? = some item) : ∃ other, right[i]? = some other ∧ relation item other := by
  induction each generalizing i with
  | nil => cases here
  | cons first _ ih =>
    cases i with
    | zero =>
      cases here
      exact ⟨_, rfl, first⟩
    | succ i => exact ih here

variable {data : List (List Cell)}

theorem decoded_of_parsed {document : Json} {target : BindTarget} {types : Option (List ColumnType)}
    (parsed : stmtParseColumn iter document target = .ok (data, types))
    (known : target.fields[col]? = some field) : ∃ cells, data[col]? = some cells ∧
      DecodedColumn iter field (columnsOf document)[col]? cells := by
  cases isArray : elements document with
  | none =>
    rw [stmtParseColumn_of_not_array isArray] at parsed
    cases parsed
  | some columns =>
    rw [stmtParseColumn_of_array isArray] at parsed
    obtain ⟨last, finished, isData⟩ := bind_eq_ok.mp parsed
    cases isData
    have initially : Progress iter target.fields columns 0 (.initial target) :=
      progress_initial target
    obtain ⟨_, passed⟩ :=
      foldlM_drop_cases [] rfl initially fun i before => absurd before (by simp)
    obtain ⟨_, progress⟩ := passed last finished
    have inside : col < last.data.length := by
      rw [progress.width]
      exact lt_of_getElem? known
    refine ⟨last.data[col], List.getElem?_eq_getElem inside, ?_⟩
    rw [columnsOf_of_array isArray]
    exact decoded_of_progress progress known (List.getElem?_eq_getElem inside)

variable {blockSize : Nat} {memory : Bytes} {pHeader : Int}

theorem convertCell_timestamp {cell : Cell} {length : Nat}
    (timestamps : field.IsTimestamp precision) (known : precisionUnit precision = some unit)
    (value : nullAt memory pHeader row = false)
    (bits : word memory (valueStart blockSize field.fieldType pHeader + row * 8) 8 = ts.toNat)
    (converted : convertCell memory blockSize field pHeader row = .ok (cell, length)) :
    cell = timestampCell ts precision unit := by
  obtain ⟨isTimestamp, rfl⟩ := timestamps
  rw [isTimestamp] at bits
  simp only [convertCell, isTimestamp, rawConvertFuncMap, TSDB_DATA_TYPE_TIMESTAMP] at converted
  rw [if_neg (by decide)] at converted
  obtain ⟨isNull, flag, converted⟩ := bind_eq_ok.mp converted
  obtain ⟨byte, loaded, flag⟩ := bind_eq_ok.mp flag
  have notNull : isNull = false := by
    rw [← Outcome.ok.inj flag, eq_word_of_load loaded, ← value, nullAt]
  rw [notNull, if_neg (by decide)] at converted
  obtain ⟨time, made, converted⟩ := bind_eq_ok.mp converted
  obtain ⟨number, loaded, made⟩ := bind_eq_ok.mp made
  have isBits : number = ts.toNat := (eq_word_of_load loaded).trans bits
  rw [isBits, BitVec.ofNat_toNat, BitVec.setWidth_eq, timestampConvertToTime, known] at made
  cases made
  cases converted
  rfl

theorem convertRows_get {convert : Nat → Read (Cell × Nat)} {count first maxLen : Nat}
    {values : Converted} (converted : convertRows convert count first maxLen = .ok values)
    {i : Nat} (inside : i < count) :
    ∃ cell length, values.1[i]? = some cell ∧ convert (first + i) = .ok (cell, length) := by
  induction count generalizing first maxLen values i with
  | zero => cases inside
  | succ count ih =>
    obtain ⟨⟨cell, length⟩, head, rest⟩ := bind_eq_ok.mp converted
    obtain ⟨later, tail, finish⟩ := bind_eq_ok.mp rest
    cases finish
    cases i with
    | zero => exact ⟨cell, length, rfl, head⟩
    | succ i =>
      obtain ⟨cell, length, found, made⟩ :=
        ih tail (Nat.lt_of_succ_lt_succ inside)
      refine ⟨cell, length, found, ?_⟩
      rw [← made, Nat.add_right_comm, Nat.add_assoc]

theorem convertColumns_get {block : Int} {colCount idx : Nat} {fields : List StmtField}
    {converted : List Converted}
    (finished : convertColumns memory block blockSize colCount fields idx pHeader = .ok converted)
    (known : fields[col]? = some field) : ∃ values, converted[col]? = some values ∧
      convertRows (convertCell memory blockSize field
        (columnHeader memory block blockSize colCount fields idx pHeader col))
          blockSize 0 0 = .ok values := by
  induction fields generalizing idx pHeader converted col with
  | nil => cases known
  | cons first fields ih =>
    obtain ⟨colLength, loaded, finished⟩ := bind_eq_ok.mp finished
    obtain ⟨values, rows, finished⟩ := bind_eq_ok.mp finished
    obtain ⟨others, tail, finish⟩ := bind_eq_ok.mp finished
    cases finish
    cases col with
    | zero =>
      cases known
      exact ⟨values, rfl, rows⟩
    | succ col =>
      obtain ⟨bits, entry, isLength⟩ := bind_eq_ok.mp loaded
      have length : colLength = int32At memory
          (block + rawBlockGetColumnLengthOffset colCount + idx * 4) := by
        rw [← Outcome.ok.inj isLength, eq_word_of_load entry, int32At]
      obtain ⟨found, placed, made⟩ := ih tail known
      rw [length] at made
      exact ⟨found, placed, made⟩

theorem Received.cell {message : Message} (known : precisionUnit precision = some unit)
    (received : Received ts precision col row message data) : ∃ cells, data[col]? = some cells ∧
      cells[row]? = some (timestampCell ts precision unit) := by
  cases received with
  | document parsed isField timestamps values number read =>
    obtain ⟨cells, placed, decoded⟩ := decoded_of_parsed parsed isField
    rw [values] at decoded
    obtain ⟨rows, isArray, each⟩ := decoded
    cases isArray
    obtain ⟨cell, found, isCell⟩ := getElem?_of_forall₂ each number
    have made := decodeCell_number timestamps known read
    obtain rfl := Outcome.ok.inj (isCell.symm.trans made)
    exact ⟨cells, placed, found⟩
  | rawBlock finished isField timestamps begins inside value bits =>
    unfold blockConvert at finished
    rw [if_neg (by omega), Int.toNat_natCast] at finished
    obtain ⟨values, placed, rows⟩ := convertColumns_get finished isField
    rw [begins] at rows
    obtain ⟨cell, length, found, made⟩ := convertRows_get rows inside
    rw [Nat.zero_add] at made
    obtain rfl := convertCell_timestamp timestamps known value bits made
    exact ⟨values.1, by rw [List.getElem?_map, placed]; rfl, found⟩

end

section

variable {malloc : Malloc} {ts : BitVec 64} {precision unit row : Nat} {type : TaosType}

theorem valueType_of_valueBytes {value : TaosValue} {bytes : Bytes}
    (written : valueBytes type value = .ok bytes) : valueType value = type := by
  unfold valueBytes at written
  split at written <;> first | rfl | cases written

variable {columnData : List Cell} {columnType : ColumnType} {bind : MultiBind} {rowLen : Nat}

theorem bindColumns_get {idx : Nat} {multiBind : List (List Cell)} {bindType : List ColumnType}
    {binds : List MultiBind} (bound : bindColumns malloc rowLen idx multiBind bindType = .ok binds)
    {k : Nat} (data : multiBind[k]? = some columnData) (typed : bindType[k]? = some columnType) :
    ∃ bind, binds[k]? = some bind ∧
      bindColumn malloc (idx + k) rowLen columnType columnData = .ok bind := by
  induction multiBind generalizing idx bindType binds k with
  | nil => cases data
  | cons first multiBind ih =>
    cases bindType with
    | nil => cases typed
    | cons firstType bindType =>
      obtain ⟨head, made, rest⟩ := bind_eq_ok.mp bound
      obtain ⟨others, tail, finish⟩ := bind_eq_ok.mp rest
      cases finish
      cases k with
      | zero =>
        cases data
        cases typed
        exact ⟨head, rfl, made⟩
      | succ k =>
        have later := ih tail data typed
        rwa [Nat.add_right_comm, Nat.add_assoc] at later

theorem valueType_of_bindRows {lists last : Lists} {width : Nat}
    (bound : eachItem (bindRow type width) columnData.length 0 columnData lists = .ok last)
    (value : TaosValue) (mem : some value ∈ columnData) : valueType value = type := by
  obtain ⟨i, here⟩ := List.getElem?_of_mem mem
  have typed := forall_of_eachItem_ok (bindRow type width) (fun _ => True)
    (fun _ cell => ∀ value, cell = some value → valueType value = type) trivial
    (fun i cell current next _ bound => ⟨fun value isValue => by
      obtain ⟨bytes, written, _⟩ := (hasPlace_of_bindRow bound).value value isValue
      exact valueType_of_valueBytes written, trivial⟩) bound
  exact typed i (some value) here value rfl

theorem read_of_timestampCell {idx : Nat} (known : precisionUnit precision = some unit)
    (timestamps : columnType.type = .timestamp)
    (bound : bindColumn malloc idx rowLen columnType columnData = .ok bind)
    (here : columnData[row]? = some (timestampCell ts precision unit)) :
    bind.read row = .ok (some (leBytes 8 (boundTimestamp ts unit).toNat)) := by
  have found : bufferOf columnType = some (TSDB_DATA_TYPE_TIMESTAMP, 8) := by
    rw [bufferOf, timestamps]
  have unfolded := bound
  rw [bindColumn, found] at unfolded
  obtain ⟨lists, stored, _⟩ := bind_eq_ok.mp unfolded
  have nothingLong : IsText columnType.type → ∀ value, some value ∈ columnData →
      byteLength value ≤ columnType.maxLen := by
    rw [timestamps]
    exact False.elim
  obtain ⟨col, rfl, rfl⟩ : ∃ col : Column, col.columnType = columnType ∧ col.data = columnData :=
    ⟨⟨columnType, columnData, valueType_of_bindRows stored, nothingLong⟩, rfl, rfl⟩
  obtain ⟨lists, stored, rfl⟩ := (bindColumn_eq_ok_iff found).mp bound
  obtain ⟨last, again, stores⟩ := bindRows_of_hasPlace _ found (hasPlace_of_bindRows stored)
  obtain rfl : last = lists := Outcome.ok.inj (again.symm.trans stored)
  obtain ⟨bytes, written, flag, content, lengths⟩ := stores row _ here
  have isBytes : bytes = leBytes 8 (boundTimestamp ts unit).toNat := by
    rw [timestamps, valueBytes, timeToTimestamp, known, unixNano_toInt] at written
    exact (Outcome.ok.inj written).symm
  subst isBytes
  rw [read_of_value _ rfl flag content lengths (by rw [length_leBytes]; decide),
    length_leBytes, if_pos (by decide)]

theorem leBytes_toNat_inj {left right : BitVec 64} :
    leBytes 8 left.toNat = leBytes 8 right.toNat ↔ left = right := by
  refine ⟨fun same => ?_, fun same => by rw [same]⟩
  rw [← ofNat_leBytes left (show 2 ^ 64 = 256 ^ 8 from rfl), same, ofNat_leBytes right rfl]

end

section

variable {message : Message} {ts : BitVec 64} {precision unit : Nat}
  (sent : Sent message ts precision) (known : precisionUnit precision = some unit)

include sent known

theorem Sent.read_eq :
    sent.bind.read sent.row = .ok (some (leBytes 8 (boundTimestamp ts unit).toNat)) := by
  obtain ⟨cells, placed, cell⟩ := sent.received.cell known
  have bound := sent.bound
  unfold taosStmtBindParamBatch at bound
  split at bound
  · cases bound
  · obtain ⟨bind, here, made⟩ := bindColumns_get bound placed sent.typed
    obtain rfl := Option.some.inj (here.symm.trans sent.here)
    exact read_of_timestampCell known sent.timestamps made cell

theorem Sent.exactly_iff : sent.Exactly ↔ NanosecondsFit ts precision := by
  rw [Sent.Exactly, sent.read_eq known, ← boundTimestamp_eq_iff known, ← leBytes_toNat_inj]
  simp

end

section

variable (ts : BitVec 64)

theorem exists_precisionUnit (precision : Fin 3) :
    ∃ unit, precisionUnit (precision : Nat) = some unit := by
  match precision with
  | 0 => exact ⟨_, rfl⟩
  | 1 => exact ⟨_, rfl⟩
  | 2 => exact ⟨_, rfl⟩

def integerValue : Bytes → Int
  | 45 :: digits => -decimalValue digits
  | digits => decimalValue digits

/-- The iterator for literals of integers that fit the width. -/
def numberReaders : Readers where
  readBool json := .error (notAnArray json)
  readInt width
    | .number literal => .ok (BitVec.ofInt width (integerValue literal))
    | json => .error (notAnArray json)
  readUint _ json := .error (notAnArray json)
  readFloat _ json := .error (notAnArray json)
  readString json := .error (notAnArray json)
  parseTime := .error
  quote := id

/-- The literal the stream writes of a timestamp is read as the timestamp. -/
theorem exists_literal : ∃ literal, numberReaders.readInt 64 (.number literal) = .ok ts := by
  obtain ⟨text, ⟨whole, value⟩, _⟩ := JsonBuilder.writesUnsigned_writeUint64.writesSigned ts
  have unsigned : integerValue text = decimalValue text := by
    cases whole with
    | zero => rfl
    | positive isFirst _ =>
      unfold integerValue
      split
      · rename_i same
        rw [(List.cons.inj same).1] at isFirst
        exact absurd isFirst.1 (by decide)
      · rfl
  refine ⟨if ts.toInt < 0 then 45 :: text else text, ?_⟩
  have read : integerValue (if ts.toInt < 0 then 45 :: text else text) = ts.toInt := by
    split
    · rw [integerValue, value]
      omega
    · rw [unsigned, value]
      omega
  show Except.ok (BitVec.ofInt 64 (integerValue _)) = _
  rw [read, BitVec.ofInt_toInt]

def timestampField (precision : Nat) : StmtField := ⟨"ts", TSDB_DATA_TYPE_TIMESTAMP, precision⟩

def timestampBlock : Bytes := List.replicate 38 0 ++ leBytes 8 ts.toNat

theorem peekNat_timestampBlock :
    peekNat (timestampBlock ts) 33 4 = some 0 ∧ peekNat (timestampBlock ts) 37 1 = some 0 ∧
      peekNat (timestampBlock ts) 38 8 = some ts.toNat := by
  have front : Holds (timestampBlock ts) 0 (List.replicate 33 0 ++ (List.replicate 4 0 ++ [0])) :=
    (holds_self (timestampBlock ts)).left
  have back : Holds (timestampBlock ts) 38 (leBytes 8 ts.toNat) :=
    (holds_self (timestampBlock ts)).right
  exact ⟨front.right.left.peekNat rfl rfl, front.right.right.peekNat rfl rfl,
    back.peekNat_leBytes rfl ts.isLt⟩

variable {precision unit : Nat} (known : precisionUnit precision = some unit)

include known

theorem exists_sent {message : Message}
    (received : Received ts precision 0 0 message [[timestampCell ts precision unit]]) :
    Nonempty (Sent message ts precision) := by
  obtain ⟨bytes, written⟩ : ∃ bytes, valueBytes .timestamp
      (.timestamp (ts * BitVec.ofNat 64 unit).toInt precision) = .ok bytes := by
    rw [valueBytes, timeToTimestamp, known]
    exact ⟨_, rfl⟩
  have typed : valueType (.timestamp (ts * BitVec.ofNat 64 unit).toInt precision) =
      .timestamp := rfl
  have place : (allocated (filled 0) 0 1 8).HasPlace .timestamp 8 0
      (timestampCell ts precision unit) :=
    (hasPlace_allocated_iff typed written 1 Nat.zero_lt_one (by decide)).mpr
      ⟨.inr (show 8 * 0 + 8 ≤ cUint (8 * 1) by decide), by decide⟩
  obtain ⟨lists, bound, _⟩ := bindRow_of_hasPlace place
  have stored : eachItem (bindRow .timestamp 8) 1 0 [timestampCell ts precision unit]
      (allocated (filled 0) 0 1 8) = .ok lists := by
    rw [eachItem, bound]
    rfl
  obtain ⟨bind, col⟩ : ∃ bind, bindColumn (filled 0) 0 1 ⟨.timestamp, 0⟩
      [timestampCell ts precision unit] = .ok bind :=
    ⟨_, bind_eq_ok.mpr ⟨lists, stored, rfl⟩⟩
  have passed : taosStmtBindParamBatch (filled 0) [[timestampCell ts precision unit]]
      [⟨.timestamp, 0⟩] = .ok [bind] := by
    rw [taosStmtBindParamBatch, bindColumns, length_singleton, col]
    rfl
  exact ⟨⟨0, 0, _, received, filled 0, _, ⟨.timestamp, 0⟩, rfl, rfl, _, passed, bind, rfl⟩⟩

theorem received_document :
    Received ts precision 0 0 .document [[timestampCell ts precision unit]] := by
  obtain ⟨literal, read⟩ := exists_literal ts
  have parsed : stmtParseColumn numberReaders (.array [.array [.number literal]])
      ⟨[timestampField precision], none, (by simp)⟩ =
        .ok ([[timestampCell ts precision unit]], none) := by
    have decoded : decodeCell numberReaders (timestampField precision) (.number literal) =
        .ok (timestampCell ts precision unit) := decodeCell_number ⟨rfl, rfl⟩ known read
    have row : ∀ state, rowCallback numberReaders (timestampField precision) state
        (.number literal) = .ok (state.push (timestampCell ts precision unit)) := by
      intro state
      rw [rowCallback, decoded, ok_bind]
    simp only [stmtParseColumn, readArrayCB, elements, foldlM_cons, foldlM_nil,
      colCallback, ParseState.initial, List.getElem?_cons_zero, row, ok_bind]
    rfl
  exact .document parsed rfl ⟨rfl, rfl⟩ rfl rfl read

theorem received_rawBlock :
    Received ts precision 0 0 .rawBlock [[timestampCell ts precision unit]] := by
  obtain ⟨lengths, bitmap, value⟩ := peekNat_timestampBlock ts
  have notNull : nullAt (timestampBlock ts) 37 0 = false := by
    rw [nullAt, show (37 + RawBlock.charOffset 0 : Int) = 37 from rfl, word, bitmap]
    decide
  have bits : word (timestampBlock ts) 38 8 = ts.toNat := by rw [word, value, Option.getD_some]
  have finished : blockConvert (timestampBlock ts) 0 (1 : Nat) [timestampField precision] =
      .ok [([timestampCell ts precision unit], 0)] := by
    have cell : convertCell (timestampBlock ts) 1 (timestampField precision) 37 0 =
        .ok (timestampCell ts precision unit, 0) := by
      have flag : itemIsNull (timestampBlock ts) 37 0 = .ok false := by
        rw [itemIsNull, load, show (37 + RawBlock.charOffset 0 : Int) = 37 from rfl, bitmap]
        rfl
      have time : rawConvertTime (timestampBlock ts) 38 0 precision =
          .ok (.timestamp (ts * BitVec.ofNat 64 unit).toInt precision) := by
        rw [rawConvertTime, load, show (38 + (0 : Nat) * 8 : Int) = 38 from rfl, value, ofRead_some,
          ok_bind, BitVec.ofNat_toNat, BitVec.setWidth_eq, timestampConvertToTime, known, ok_bind]
      have fixed : isVarDataType (timestampField precision).fieldType = false := rfl
      rw [convertCell, if_neg (ne_true_of_eq_false fixed), flag, ok_bind, if_neg (by decide)]
      exact bind_eq_ok.mpr ⟨_, time, rfl⟩
    have entry : loadInt32 (timestampBlock ts) 33 = .ok 0 := by
      rw [loadInt32, load, lengths]
      rfl
    have col : convertRows (convertCell (timestampBlock ts) 1 (timestampField precision) 37)
        1 0 0 = .ok ([timestampCell ts precision unit], 0) := by
      rw [convertRows, cell]
      rfl
    rw [blockConvert, if_neg (by omega)]
    exact bind_eq_ok.mpr ⟨0, entry, bind_eq_ok.mpr ⟨_, col, rfl⟩⟩
  have begins : columnHeader (timestampBlock ts) 0 1 1 [timestampField precision] 0
      (0 + rawBlockGetColDataOffset 1) 0 = 37 := rfl
  exact .rawBlock finished rfl ⟨rfl, rfl⟩ begins Nat.zero_lt_one notNull bits

end

theorem sent_in (message : Message) (ts : BitVec 64) {precision unit : Nat}
    (known : precisionUnit precision = some unit) : Nonempty (Sent message ts precision) := by
  cases message with
  | document => exact exists_sent ts known (received_document ts known)
  | rawBlock => exact exists_sent ts known (received_rawBlock ts known)

/-- A timestamp comes back from the two conversions, and is bound as it was
sent, in either message, exactly if its nanoseconds fit 64 bits. -/
theorem timestamp_bound_iff (ts : BitVec 64) (precision : Fin 3) :
    (((do let t ← GoTime.timestampConvertToTime ts (precision : Nat)
          t.timeToTimestamp (precision : Nat)) : Read (BitVec 64)) = .ok ts ↔
        NanosecondsFit ts (precision : Nat)) ∧
      ∀ message, Nonempty (Sent message ts precision) ∧
        ∀ sent : Sent message ts precision, sent.Exactly ↔ NanosecondsFit ts (precision : Nat) := by
  obtain ⟨unit, known⟩ := exists_precisionUnit precision
  refine ⟨?_, fun message => ⟨sent_in message ts known, fun sent => sent.exactly_iff known⟩⟩
  rw [GoTime.timeToTimestamp_timestampConvertToTime ts known, ← boundTimestamp_eq_iff known,
    Outcome.ok.injEq]

/-- Milliseconds of the year 2262 are bound as other ones. -/
theorem milliseconds_overflow : (∀ message, ∃ sent : Sent message 9223372036855 0, ¬ sent.Exactly) ∧
      boundTimestamp 9223372036855 1000000 = -9223372036854 := by
  refine ⟨fun message => ?_, by decide⟩
  have known : precisionUnit (0 : Nat) = some 1000000 := rfl
  obtain ⟨sent⟩ := sent_in message 9223372036855 known
  refine ⟨sent, fun exactly => ?_⟩
  obtain ⟨unit, isUnit, _, high⟩ := (sent.exactly_iff known).mp exactly
  cases isUnit
  exact absurd high (by decide)

end TaosAdapter.Stmt
