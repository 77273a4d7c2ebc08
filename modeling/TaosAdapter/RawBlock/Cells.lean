import TaosAdapter.RawBlock.Columns

/-!
Owns: reading a cell from the bytes of its column. For each column type, the
conversion of the parser undoes the encoding of the serializer on the values
the type admits (`WellTyped`).
-/

namespace TaosAdapter.RawBlock

open Lib Driver Outcome
open List hiding utf8Encode

def plain : TaosValue → Value
  | .bool v => .bool v
  | .tinyint v => .int8 v
  | .smallint v => .int16 v
  | .int v => .int32 v
  | .bigint v => .int64 v
  | .utinyint v => .uint8 v
  | .usmallint v => .uint16 v
  | .uint v => .uint32 v
  | .ubigint v => .uint64 v
  | .float bits => .float32 bits
  | .double bits => .float64 bits
  | .binary v => .string v
  | .varBinary v => .bytes v
  | .nchar v => .string v
  | .timestamp t _ => .time t
  | .json v => .bytes v
  | .geometry v => .bytes v
  | .other => .other

/-- The value has the Go type of the column type and can be represented. -/
def WellTyped (prec : Int) : TaosType → TaosValue → Prop
  | .bool, .bool _ | .tinyint, .tinyint _ | .smallint, .smallint _ | .int, .int _
  | .bigint, .bigint _ | .utinyint, .utinyint _ | .usmallint, .usmallint _ | .uint, .uint _
  | .ubigint, .ubigint _ | .float, .float _ | .double, .double _ => True
  | .binary, .binary v | .varBinary, .varBinary v | .geometry, .geometry v | .json, .json v =>
    v.length ≤ 65535
  | .nchar, .nchar v => ∃ runes, v = utf8Encode runes ∧ runes.length ≤ 16383
  | .timestamp, .timestamp t own => own = prec ∧ WholeUnits t prec
  | _, _ => False

def typeCode : TaosType → Nat
  | .bool => TSDB_DATA_TYPE_BOOL
  | .tinyint => TSDB_DATA_TYPE_TINYINT
  | .smallint => TSDB_DATA_TYPE_SMALLINT
  | .int => TSDB_DATA_TYPE_INT
  | .bigint => TSDB_DATA_TYPE_BIGINT
  | .utinyint => TSDB_DATA_TYPE_UTINYINT
  | .usmallint => TSDB_DATA_TYPE_USMALLINT
  | .uint => TSDB_DATA_TYPE_UINT
  | .ubigint => TSDB_DATA_TYPE_UBIGINT
  | .float => TSDB_DATA_TYPE_FLOAT
  | .double => TSDB_DATA_TYPE_DOUBLE
  | .timestamp => TSDB_DATA_TYPE_TIMESTAMP
  | .binary => TSDB_DATA_TYPE_BINARY
  | .varBinary => TSDB_DATA_TYPE_VARBINARY
  | .geometry => TSDB_DATA_TYPE_GEOMETRY
  | .nchar => TSDB_DATA_TYPE_NCHAR
  | .json => TSDB_DATA_TYPE_JSON
  | .other => 0

variable {memory : Bytes} {address : Int} {off width : Nat}

theorem load_of_holds {bytes : Bytes} (holds : Holds memory off bytes) (here : address = off)
    (length : bytes.length = width) : load memory address width = .ok (leNat bytes) := by
  rw [load, holds.peekNat here length, ofRead_some]

variable {value : Nat}

theorem load_number (holds : Holds memory off (leBytes width value)) (here : address = off)
    (small : value < 256 ^ width) : load memory address width = .ok value := by
  rw [load, holds.peekNat_leBytes here small, ofRead_some]

theorem loadInt32_number (holds : Holds memory off (leBytes 4 value)) (here : address = off)
    (small : value < 2 ^ 31) : loadInt32 memory address = .ok value := by
  rw [loadInt32, load_number holds here (by omega), ok_bind]
  rw [int32_of_lt (by omega) (by omega)]

theorem loadInt32_minus_one (holds : Holds memory off [255, 255, 255, 255]) (here : address = off) :
    loadInt32 memory address = .ok (-1) := by
  have loaded : load memory address 4 = .ok (leNat [255, 255, 255, 255]) :=
    load_of_holds holds here rfl
  rw [loadInt32, loaded]
  rfl

section

variable {encode : Encode} {prec : Int} {v : TaosValue}

/-- The conversion of a row gives back the value that was encoded for it. -/
def ReadsFixed (size : Nat) (encode : Encode) (convertF : RawConvertFunc) (prec : Int)
    (v : TaosValue) : Prop :=
  ∃ bytes, encode v = .ok bytes ∧ bytes.length ≤ size ∧
    ∀ (memory : Bytes) (pStart row : Nat),
      Holds memory (pStart + row * size) (bytes ++ List.replicate (size - bytes.length) 0) →
        convertF memory pStart row prec = .ok (some (plain v))

variable {make : Nat → Value} {size : Nat}

theorem readsFixed_number {value : Nat} (encoded : encode v = .ok (leBytes size value))
    (small : value < 256 ^ size) (made : make value = plain v) :
    ReadsFixed size encode (rawConvert size make) prec v := by
  refine ⟨leBytes size value, encoded, (length_leBytes size value).le, ?_⟩
  intro memory pStart row holds
  rw [length_leBytes, Nat.sub_self, replicate_zero, List.append_nil] at holds
  rw [rawConvert, load_number holds (by push_cast; ring) small, ok_bind, made]

theorem readsFixed_bits {width : Nat} {bits : BitVec width}
    (encoded : encode v = .ok (leBytes size bits.toNat)) (wide : 2 ^ width = 256 ^ size)
    (made : make bits.toNat = plain v) : ReadsFixed size encode (rawConvert size make) prec v :=
  readsFixed_number encoded (wide ▸ bits.isLt) made

theorem readsFixed_bool (b : Bool) : ReadsFixed 1 encodeBool rawConvertBool prec (.bool b) := by
  refine ⟨if b then [1] else [], rfl, by cases b <;> decide, ?_⟩
  intro memory pStart row holds
  replace holds : Holds memory (pStart + row * 1) [if b then 1 else 0] := by
    cases b <;> exact holds
  have loaded : load memory (pStart + row * (1 : Nat)) 1 = .ok (leNat [if b then 1 else 0]) :=
    load_of_holds holds (by push_cast; ring) rfl
  rw [rawConvertBool, rawConvert, loaded]
  cases b <;> rfl

theorem readsFixed_timestamp {t : Time} (whole : WholeUnits t prec) :
    ReadsFixed 8 encodeTimestamp rawConvertTime prec (.timestamp t prec) := by
  obtain ⟨timestamp, converted, back⟩ := timestampConvertToTime_timeToTimestamp whole
  refine ⟨leBytes 8 timestamp.toNat, ?_, (length_leBytes 8 _).le, ?_⟩
  · rw [encodeTimestamp, converted, ok_bind]
  · intro memory pStart row holds
    rw [length_leBytes, Nat.sub_self, replicate_zero, List.append_nil] at holds
    have loaded : load memory (pStart + row * 8) 8 = .ok timestamp.toNat :=
      load_number holds (by push_cast; ring) timestamp.isLt
    rw [rawConvertTime, loaded, ok_bind, BitVec.ofNat_toNat, BitVec.setWidth_eq, back, ok_bind]
    rfl

end

section

variable {encode : Encode} {v : TaosValue}

/-- The conversion gives back the value whose length and bytes stand at the
offset of the row. -/
def ReadsVar (encode : Encode) (convertF : RawConvertVarDataFunc) (v : TaosValue) : Prop :=
  ∃ payload, encode v = .ok payload ∧
    ∀ (memory : Bytes) (pHeader pStart row offset : Nat),
      Holds memory (pHeader + row * 4) (leBytes 4 offset) → offset < 2 ^ 31 →
      Holds memory (pStart + offset) (leBytes 2 payload.length ++ payload) →
        convertF memory pHeader pStart row = .ok (some (plain v))

/-- The conversion of a row whose offset is -1 gives nil. -/
def ReadsNull (convertF : RawConvertVarDataFunc) : Prop :=
  ∀ (memory : Bytes) (pHeader pStart row : Nat),
    Holds memory (pHeader + row * 4) [255, 255, 255, 255] →
      convertF memory pHeader pStart row = .ok none

variable {payload : Bytes} {pHeader pStart : Nat}

theorem rawGetBytes_payload {memory : Bytes} {row off : Nat}
    (header : Holds memory (pHeader + row * 4) (leBytes 4 off)) (small : off < 2 ^ 31)
    (value : Holds memory (pStart + off) (leBytes 2 payload.length ++ payload))
    (short : payload.length ≤ 65535) :
    rawGetBytes memory pHeader pStart row = .ok (some payload) := by
  have offsetRead : loadInt32 memory (pHeader + row * 4) = .ok off :=
    loadInt32_number header (by push_cast; ring) small
  have notNull : (off : Int) ≠ -1 := by omega
  have lengthRead : load memory (pStart + off : Int) 2 = .ok payload.length :=
    load_number value.left (by push_cast; ring) (by omega)
  simp only [rawGetBytes, offsetRead, ok_bind, if_neg notNull, lengthRead]
  by_cases empty : payload.length = 0
  · rw [if_pos empty, length_eq_zero_iff.mp empty]
  · have content := value.right
    rw [length_leBytes] at content
    have bytesRead : peek memory (pStart + off + 2 : Int) payload.length = some payload :=
      content.peek (by push_cast; ring) rfl
    rw [if_neg empty, bytesRead]
    rfl

theorem rawGetBytes_null {memory : Bytes} {row : Nat}
    (header : Holds memory (pHeader + row * 4) [255, 255, 255, 255]) :
    rawGetBytes memory pHeader pStart row = .ok none := by
  have offsetRead : loadInt32 memory (pHeader + row * 4) = .ok (-1) :=
    loadInt32_minus_one header (by push_cast; ring)
  rw [rawGetBytes, offsetRead]
  rfl

theorem readsVar_bytes (encoded : encode v = .ok payload) (short : payload.length ≤ 65535)
    (made : plain v = .bytes payload) : ReadsVar encode rawConvertVarBinary v := by
  refine ⟨payload, encoded, fun memory pHeader pStart row off header small value => ?_⟩
  rw [rawConvertVarBinary, rawGetBytes_payload header small value short, made]
  rfl

theorem readsVar_string (encoded : encode v = .ok payload) (short : payload.length ≤ 65535)
    (made : plain v = .string payload) : ReadsVar encode rawConvertBinary v := by
  refine ⟨payload, encoded, fun memory pHeader pStart row off header small value => ?_⟩
  rw [rawConvertBinary, rawGetBytes_payload header small value short, made]
  rfl

theorem readsNull_bytes : ReadsNull rawConvertVarBinary := by
  intro memory pHeader pStart row header
  rw [rawConvertVarBinary, rawGetBytes_null header]
  rfl

theorem readsNull_string : ReadsNull rawConvertBinary := by
  intro memory pHeader pStart row header
  rw [rawConvertBinary, rawGetBytes_null header]
  rfl

def runeBytes (runes : List Char) : Bytes :=
  runes.flatMap fun rune => leBytes 4 rune.toNat

theorem length_runeBytes (runes : List Char) : (runeBytes runes).length = 4 * runes.length := by
  induction runes with
  | nil => rfl
  | cons rune runes ih =>
    rw [runeBytes, flatMap_cons, length_append, length_leBytes]
    rw [runeBytes] at ih
    rw [ih, length_cons]
    omega

theorem rune_small (rune : Char) : rune.toNat < 256 ^ 4 :=
  rune.val.toNat_lt

theorem encodeRune_toNat (rune : Char) : encodeRune rune.toNat = String.utf8EncodeChar rune := by
  have valid : rune.toNat.isValidChar := rune.valid
  rw [encodeRune, dif_pos valid]
  rfl

variable {runes : List Char}

theorem loadRunes_ok {memory : Bytes} (base idx : Nat)
    (holds : Holds memory (base + idx * 4) (runeBytes runes)) (few : idx + runes.length ≤ 16384) :
    loadRunes memory base runes.length idx = .ok (runes.map Char.toNat) := by
  induction runes generalizing idx with
  | nil => rfl
  | cons rune runes ih =>
    rw [runeBytes, flatMap_cons] at holds
    rw [length_cons] at few
    have unwrapped : idx * 4 % 2 ^ 16 = idx * 4 := by omega
    have runeRead : load memory (base + (idx * 4 : Nat)) 4 = .ok rune.toNat :=
      load_number holds.left (by push_cast; ring) (rune_small rune)
    have rest := holds.right
    rw [length_leBytes] at rest
    have place : base + idx * 4 + 4 = base + (idx + 1) * 4 := by ring
    rw [place] at rest
    rw [length_cons, loadRunes, unwrapped, runeRead, ok_bind, ih (idx + 1) rest (by omega)]
    rfl

theorem readsVar_nchar (few : runes.length ≤ 16383) :
    ReadsVar encodeNchar rawConvertNchar (.nchar (utf8Encode runes)) := by
  refine ⟨runeBytes runes, by rw [encodeNchar, utf8Decode_encode]; rfl, ?_⟩
  intro memory pHeader pStart row off header small value
  have length := length_runeBytes runes
  have offsetRead : loadInt32 memory (pHeader + row * 4) = .ok off :=
    loadInt32_number header (by push_cast; ring) small
  have notNull : (off : Int) ≠ -1 := by omega
  have lengthRead : load memory (pStart + off : Int) 2 = .ok (runeBytes runes).length :=
    load_number value.left (by push_cast; ring) (by omega)
  have quarter : (runeBytes runes).length / 4 = runes.length := by omega
  simp only [rawConvertNchar, offsetRead, ok_bind, if_neg notNull, lengthRead, quarter]
  by_cases empty : runes.length = 0
  · rw [if_pos empty, length_eq_zero_iff.mp empty]
    rfl
  · have content := value.right
    rw [length_leBytes] at content
    have runesRead : loadRunes memory (pStart + off + 2 : Int) runes.length 0 =
        .ok (runes.map Char.toNat) := by
      have loaded := loadRunes_ok (pStart + off + 2) 0
        (by rw [Nat.zero_mul, Nat.add_zero]; exact content) (by omega)
      push_cast at loaded
      exact loaded
    rw [if_neg empty, runesRead, ok_bind]
    simp only [flatMap_map, encodeRune_toNat]
    rfl

theorem readsNull_nchar : ReadsNull rawConvertNchar := by
  intro memory pHeader pStart row header
  have offsetRead : loadInt32 memory (pHeader + row * 4) = .ok (-1) :=
    loadInt32_minus_one header (by push_cast; ring)
  rw [rawConvertNchar, offsetRead]
  rfl

end

section

variable {prec : Int} {code size : Nat} {encode : Encode} {rowData : List Cell}

/-- The data of a column are its bitmap or offsets and `length` bytes of values,
at least one byte a row, and every cell is read back from them. -/
structure ReadsBack (prec : Int) (code : Nat) (rowData : List Cell) (length : Nat)
    (data : Bytes) : Prop where
  size : (valueStart rowData.length code 0 + length : Int) = data.length
  tall : rowData.length ≤ data.length
  reads : ∀ (memory : Bytes) (pHeader : Nat), Holds memory pHeader data → data.length < 2 ^ 31 →
    ∀ row cell, rowData[row]? = some cell →
      readCell memory rowData.length code prec pHeader row = .ok (cell.map plain)

theorem itemIsNull_ok {memory bitmap : Bytes} {pHeader row : Nat} {cell : Cell}
    (holds : Holds memory pHeader bitmap) (length : bitmap.length = bitmapLen rowData.length)
    (marks : Marks rowData rowData.length bitmap) (found : rowData[row]? = some cell) :
    itemIsNull memory pHeader row = .ok cell.isNone := by
  have inside := lt_of_getElem? found
  have charInside : row / 8 < bitmap.length := by
    rw [length, bitmapLen_eq]
    omega
  have byteFound := List.getElem?_eq_getElem charInside
  have loaded : load memory (pHeader + charOffset row) 1 = .ok (leNat [bitmap[row / 8]]) :=
    load_of_holds (holds.byte byteFound) (by rw [charOffset_eq]; push_cast; ring) rfl
  have single : leNat [bitmap[row / 8]] = bitmap[row / 8].toNat := by simp [leNat]
  have marked := marks row cell found
  rw [List.getD_eq_getElem?_getD, byteFound, Option.getD_some] at marked
  rw [itemIsNull, loaded, ok_bind, single, UInt8.ofNat_toNat, marked]
  simp [inside]

theorem fixedColumn_readsBack {convertF : RawConvertFunc} (notVar : isVarDataType code = false)
    (table : rawConvertFuncSlice code = some convertF) (width : typeLengthMap code = size)
    (wide : 0 < size) (reads : ∀ v, some v ∈ rowData → ReadsFixed size encode convertF prec v) :
    ∃ info length data, ReadsBack prec code rowData length data ∧
      fixedColumn rowData.length code size encode rowData =
        .ok ⟨UInt8.ofNat code :: leBytes 4 info, leBytes 4 length, data⟩ := by
  have fits : FitsIn size encode rowData := by
    intro v mem
    obtain ⟨bytes, encoded, short, _⟩ := reads v mem
    exact ⟨bytes, encoded, short⟩
  obtain ⟨data, ⟨bitmap, length, marks, rfl⟩, serialized⟩ := fixedColumn_ok code fits
  have body := length_bodyBytes_take fits (Nat.le_refl rowData.length)
  rw [take_length] at body
  refine ⟨_, _, _, ⟨?_, ?_, ?_⟩, serialized⟩
  · rw [valueStart, notVar, length_append, length, body, width]
    push_cast
    simp
    ring
  · rw [length_append, body]
    have stretched := Nat.le_mul_of_pos_right rowData.length wide
    omega
  · intro memory pHeader holds _ row cell found
    have null := itemIsNull_ok holds.left length marks found
    simp only [readCell, notVar, Bool.false_eq_true, if_false, null, ok_bind]
    cases cell with
    | none => rfl
    | some v =>
      -- The value stands behind the bitmap, at its row.
      obtain ⟨bytes, encoded, _, convert⟩ := reads v (mem_of_getElem? found)
      have body := holds.right
      rw [bodyBytes] at body
      have cellFound : (rowData.map (cellBytes size encode))[row]? =
          some (bytes ++ List.replicate (size - bytes.length) 0) := by
        rw [List.getElem?_map, found, Option.map_some, cellBytes_of_encode encoded]
      have value := body.piece_uniform size (fun piece mem => by
        obtain ⟨cell, cellMember, rfl⟩ := mem_map.mp mem
        exact length_cellBytes fits cellMember) cellFound
      rw [length, Nat.mul_comm] at value
      have start : valueStart rowData.length code pHeader =
          ((pHeader + bitmapLen rowData.length : Nat) : Int) := by
        simp [valueStart, notVar]
      simp only [Option.isNone_some, Bool.false_eq_true, if_false, table]
      rw [start]
      exact convert memory _ row value

theorem varColumn_readsBack {convertF : RawConvertVarDataFunc} (isVar : isVarDataType code = true)
    (table : rawConvertVarDataSlice code = some convertF) (nulls : ReadsNull convertF)
    (reads : ∀ v, some v ∈ rowData → ReadsVar encode convertF v) :
    ∃ info length data, ReadsBack prec code rowData length data ∧
      varColumn rowData.length code encode rowData =
        .ok ⟨UInt8.ofNat code :: leBytes 4 info, leBytes 4 length, data⟩ := by
  have encodes : Encodes encode rowData := by
    intro v mem
    obtain ⟨payload, encoded, _⟩ := reads v mem
    exact ⟨payload, encoded⟩
  have offsetsLength : (varOffsets encode rowData).flatten.length = 4 * rowData.length := by
    rw [length_flatten_uniform 4 fun piece mem => length_of_mem_varOffsets mem]
    simp [varOffsets]
  refine ⟨_, _, _, ⟨?_, ?_, ?_⟩, varColumn_ok code encodes⟩
  · rw [valueStart, isVar, length_append, offsetsLength]
    push_cast
    simp
  · rw [length_append, offsetsLength]
    omega
  · intro memory pHeader holds small row cell found
    have header := holds.left.piece_uniform 4
      (fun piece mem => length_of_mem_varOffsets mem) (varOffsets_found found)
    rw [Nat.mul_comm] at header
    have start : valueStart rowData.length code pHeader =
        ((pHeader + 4 * rowData.length : Nat) : Int) := by
      simp [valueStart, isVar]
    simp only [readCell, isVar, if_true, table]
    rw [start]
    cases cell with
    | none => exact nulls memory pHeader _ row header
    | some v =>
      obtain ⟨payload, encoded, convert⟩ := reads v (mem_of_getElem? found)
      have values := holds.right
      rw [offsetsLength, varBytes] at values
      have pieceFound : (rowData.map (varPiece encode))[row]? =
          some (leBytes 2 payload.length ++ payload) := by
        rw [List.getElem?_map, found, Option.map_some, varPiece_of_encode encoded]
      have value := values.piece pieceFound
      rw [← map_take] at value
      refine convert memory pHeader _ row _ header ?_ value
      have shorter := length_varBytes_take_le encode rowData row
      rw [length_append] at small
      omega

theorem serializeColumn_readsBack {colType : TaosType} (declared : colType ≠ .other)
    (typed : ∀ v, some v ∈ rowData → WellTyped prec colType v) :
    ∃ info length data, ReadsBack prec (typeCode colType) rowData length data ∧
      serializeColumn rowData.length colType rowData =
        .ok ⟨UInt8.ofNat (typeCode colType) :: leBytes 4 info, leBytes 4 length, data⟩ := by
  cases colType with
  | bool =>
    refine fixedColumn_readsBack rfl rfl rfl (by decide) fun v mem => ?_
    cases v with
    | bool b => exact readsFixed_bool b
    | _ => exact (typed _ mem).elim
  | tinyint | smallint | int | bigint | utinyint | usmallint | uint | ubigint | float | double =>
    refine fixedColumn_readsBack rfl rfl rfl (by decide) fun v mem => ?_
    have same := typed v mem
    cases v <;> first | exact same.elim | exact readsFixed_bits rfl rfl (by simp [plain])
  | timestamp =>
    refine fixedColumn_readsBack rfl rfl rfl (by decide) fun v mem => ?_
    cases v with
    | timestamp t own =>
      obtain ⟨rfl, whole⟩ := typed _ mem
      exact readsFixed_timestamp whole
    | _ => exact (typed _ mem).elim
  | binary =>
    refine varColumn_readsBack rfl rfl readsNull_string fun v mem => ?_
    cases v with
    | binary bytes => exact readsVar_string rfl (typed _ mem) rfl
    | _ => exact (typed _ mem).elim
  | varBinary | geometry | json =>
    refine varColumn_readsBack rfl rfl readsNull_bytes fun v mem => ?_
    have same := typed v mem
    cases v <;> first | exact same.elim | exact readsVar_bytes rfl same rfl
  | nchar =>
    refine varColumn_readsBack rfl rfl readsNull_nchar fun v mem => ?_
    cases v with
    | nchar text =>
      obtain ⟨runes, rfl, few⟩ := typed _ mem
      exact readsVar_nchar few
    | _ => exact (typed _ mem).elim
  | other => exact absurd rfl declared

end

end TaosAdapter.RawBlock
