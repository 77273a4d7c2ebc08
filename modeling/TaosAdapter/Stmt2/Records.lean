import TaosAdapter.Stmt2.Bounds
import TaosAdapter.Stmt2.Marshal

/-!
Owns: a tag, a column or an argument as it is bound. `FieldData` is what is
bound: a type and the bytes of each row. `Describes` says that a bind handed over
gives these rows, `Encodes` that a record holds them; a record that stands in the
message is read as a bind that describes what it encodes.
-/

namespace TaosAdapter.Stmt2

open Lib Driver List

structure FieldData where
  type : Int
  sized : Bool
  rows : List (Option Bytes)
deriving DecidableEq

def valueBytes (precision : Int) : Value → Bytes
  | .bool v => [if v then 1 else 0]
  | .int8 v => leBytes 1 v.toNat
  | .int16 v => leBytes 2 v.toNat
  | .int32 v => leBytes 4 v.toNat
  | .int64 v => leBytes 8 v.toNat
  | .uint8 v => leBytes 1 v.toNat
  | .uint16 v => leBytes 2 v.toNat
  | .uint32 v => leBytes 4 v.toNat
  | .uint64 v => leBytes 8 v.toNat
  | .float32 bits => leBytes 4 bits.toNat
  | .float64 bits => leBytes 8 bits.toNat
  | .string v => v
  | .bytes v => v
  | .time t =>
    match (timeToTimestamp t precision : Outcome Empty (BitVec 64)) with
    | .ok timestamp => leBytes 8 timestamp.toNat
    | _ => []
  | .other => []

def columnData (field : Stmt2AllField) (col : List (Option Value)) : FieldData :=
  ⟨field.fieldType.toInt, needLength field.fieldType.toNat,
    col.map (Option.map (valueBytes field.precision.toNat))⟩

def argumentData (formatRFC3339Nano : Time → Bytes) (col : List (Option Value)) : FieldData :=
  match col.head?.join.bind (queryValue formatRFC3339Nano) with
  | some (colType, bytes) => ⟨colType, colType == TSDB_DATA_TYPE_BINARY, [some bytes]⟩
  | none => ⟨0, false, []⟩

def nullFlag (row : Option Bytes) : UInt8 := if row.isNone then 1 else 0

def rowLength (row : Option Bytes) : Nat := (row.map List.length).getD 0

/-- The bind gives the type, the number of rows, the null flags, and for each row
that is not null its bytes: at a multiple of the size of the type, or behind the
rows before it, by their lengths. -/
structure Describes (message : Bytes) (bind : Bind) (field : FieldData) : Prop where
  type : bind.bufferType = field.type
  num : bind.num = field.rows.length
  flags : ∀ (index : Nat) row, field.rows[index]? = some row →
    peek message (bind.isNull + index) 1 = some [nullFlag row]
  fixed : field.sized = false → bind.length = none ∧
    ∀ (index : Nat) bytes, field.rows[index]? = some (some bytes) →
      bytes.length = typeLengthMap field.type.toNat ∧
        ∃ buffer, bind.buffer = some buffer ∧
          peek message (buffer + index * typeLengthMap field.type.toNat) bytes.length = some bytes
  sized : field.sized = true → ∃ lengths, bind.length = some lengths ∧
    ∀ (index : Nat) row, field.rows[index]? = some row →
      peekNat message (lengths + 4 * index) 4 = some (rowLength row) ∧
        ∀ bytes, row = some bytes → bytes ≠ [] → ∃ buffer, bind.buffer = some buffer ∧
          peek message (buffer + ((field.rows.take index).map rowLength).sum) bytes.length =
            some bytes

structure Record where
  colType : Nat
  isNull : Bytes
  lengths : Option (List Nat)
  buffer : Bytes

variable (record : Record)

def Record.bytes : Bytes :=
  bindRecord record.colType record.isNull record.lengths record.buffer

/-- The record holds the rows. A column of nulls has an empty buffer, whatever
its type. -/
structure Encodes (record : Record) (field : FieldData) : Prop where
  small : record.colType < 2 ^ 32
  type : int32 record.colType = field.type
  flags : record.isNull = field.rows.map nullFlag
  lengths : record.lengths = if field.sized then some (field.rows.map rowLength) else none
  sized : field.sized = true → record.buffer = (field.rows.map fun row => row.getD []).flatten
  fixed : field.sized = false →
    (∀ row ∈ field.rows, row = none) ∨ 0 < typeLengthMap field.type.toNat ∧
      (∀ bytes, some bytes ∈ field.rows → bytes.length = typeLengthMap field.type.toNat) ∧
        record.buffer = (field.rows.map fun row =>
          row.getD (List.replicate (typeLengthMap field.type.toNat) 0)).flatten

def Record.lengthBytes : Bytes := (record.lengths.map (lengthTable 4)).getD []

theorem length_lengthTable (width : Nat) (lengths : List Nat) :
    (lengthTable width lengths).length = width * lengths.length := by
  rw [lengthTable, length_flatten_uniform width, length_map]
  intro piece mem
  obtain ⟨length, _, rfl⟩ := mem_map.mp mem
  exact length_leBytes width length

theorem length_lengthBytes :
    record.lengthBytes.length = (record.lengths.map fun rows => rows.length * 4).getD 0 := by
  unfold Record.lengthBytes
  cases record.lengths with
  | none => rfl
  | some rows =>
    rw [Option.map_some, Option.getD_some, Option.map_some, Option.getD_some, length_lengthTable,
      Nat.mul_comm]

theorem length_record : record.bytes.length =
      17 + record.isNull.length + record.lengthBytes.length + record.buffer.length := by
  have lengths :
      ((record.lengths.map (lengthTable 4)).getD []).length = record.lengthBytes.length := rfl
  simp only [Record.bytes, bindRecord, length_append, length_leBytes, length_singleton, lengths]
  omega

section

variable {message : Bytes} {pointer width : Nat} {record : Record} {field : FieldData}
  {address : Int}

theorem word_of_holds {value : Nat} (holds : Holds message pointer (leBytes width value))
    (small : value < 256 ^ width) (here : address = pointer) :
    word message address width = value := by
  rw [word, holds.peekNat_leBytes here small, Option.getD_some]

variable {bytes : Bytes}

theorem inside_of_holds (holds : Holds message pointer bytes) (here : address = pointer)
    (length : width ≤ bytes.length) : Within message address width := by
  have inside := holds.1
  constructor <;> omega

structure RecordParts (message : Bytes) (pointer : Nat) (record : Record) : Prop where
  total : Holds message pointer (leBytes 4 record.bytes.length)
  type : Holds message (pointer + 4) (leBytes 4 record.colType)
  num : Holds message (pointer + 8) (leBytes 4 record.isNull.length)
  isNull : Holds message (pointer + 12) record.isNull
  haveLength : Holds message (pointer + 12 + record.isNull.length)
    [if record.lengths.isSome then 1 else 0]
  lengths : Holds message (pointer + 13 + record.isNull.length) record.lengthBytes
  bufferLength : Holds message (pointer + 13 + record.isNull.length + record.lengthBytes.length)
    (leBytes 4 record.buffer.length)
  buffer : Holds message (pointer + 17 + record.isNull.length + record.lengthBytes.length)
    record.buffer

theorem recordParts (holds : Holds message pointer record.bytes) :
    RecordParts message pointer record := by
  have total : record.buffer.length + (17 + record.isNull.length +
      (record.lengths.map fun rows => rows.length * 4).getD 0) = record.bytes.length := by
    rw [length_record, length_lengthBytes]
    omega
  have fields := holds
  rw [Record.bytes, bindRecord, total] at fields
  have type := fields.right
  have num := type.right
  have isNull := num.right
  have haveLength := isNull.right
  have lengths := haveLength.right
  have bufferLength := lengths.right
  have lengthBytes : ((record.lengths.map (lengthTable 4)).getD []).length =
      record.lengthBytes.length := rfl
  simp only [length_leBytes] at type num isNull haveLength
  simp only [length_leBytes, length_singleton, lengthBytes] at lengths bufferLength
  have buf := bufferLength.right
  rw [length_leBytes] at buf
  exact ⟨fields.left, type.left, num.left.shift (by omega), isNull.left.shift (by omega),
    haveLength.left.shift (by omega), lengths.left.shift (by omega),
    bufferLength.left.shift (by omega), buf.shift (by omega)⟩

structure RecordRead (message : Bytes) (pointer : Nat) (record : Record) : Prop where
  total : word message pointer 4 = record.bytes.length
  num : numAt message pointer = record.isNull.length
  haveLength : haveLengthAt message pointer = 0 ↔ record.lengths = none
  lengthEnd : lengthEndAt message pointer =
    (pointer + 13 + record.isNull.length + record.lengthBytes.length : Nat)
  bufferLength : bufferLengthAt message pointer = record.buffer.length
  recordEnd : recordEndAt message pointer = (pointer + record.bytes.length : Nat)

theorem recordRead (below : message.length < 2 ^ 31) (holds : Holds message pointer record.bytes)
    (uniform : ∀ lengths, record.lengths = some lengths → lengths.length = record.isNull.length) :
    RecordRead message pointer record := by
  have parts := recordParts holds
  have inside := holds.1
  have size := length_record record
  have total : word message pointer 4 = record.bytes.length :=
    word_of_holds parts.total (by omega) rfl
  have num : numAt message pointer = record.isNull.length := by
    have number : word message (pointer + 8) 4 = record.isNull.length :=
      word_of_holds parts.num (by omega) (by push_cast; ring)
    rw [numAt, int32At, number]
    exact int32_of_lt (by omega) (by omega)
  have flag : haveLengthAt message pointer = if record.lengths.isSome then 1 else 0 := by
    have read : peekNat message (pointer + 12 + record.isNull.length) 1 =
        some (leNat [if record.lengths.isSome then 1 else 0]) :=
      parts.haveLength.peekNat (by push_cast; ring) rfl
    rw [haveLengthAt, num, word, read]
    cases record.lengths <;> rfl
  have lengthEnd : lengthEndAt message pointer =
      (pointer + 13 + record.isNull.length + record.lengthBytes.length : Nat) := by
    have lengthBytes := length_lengthBytes record
    rw [lengthEndAt, flag, num]
    cases lengths : record.lengths with
    | none =>
      rw [lengths, Option.map_none, Option.getD_none] at lengthBytes
      rw [if_pos (by simp), lengthBytes]
      push_cast
      ring
    | some rows =>
      rw [lengths, Option.map_some, Option.getD_some, uniform rows lengths] at lengthBytes
      rw [if_neg (by simp), int32_of_lt (by omega) (by omega), lengthBytes]
      push_cast
      ring
  have bufferLength : bufferLengthAt message pointer = record.buffer.length := by
    rw [bufferLengthAt, int32At, word_of_holds parts.bufferLength (by omega) lengthEnd]
    exact int32_of_lt (by omega) (by omega)
  refine ⟨total, num, ?_, lengthEnd, bufferLength, ?_⟩
  · rw [flag]
    cases record.lengths <;> simp
  · rw [recordEndAt, bufferLength, lengthEnd]
    split <;> omega

theorem Encodes.uniform (encodes : Encodes record field) :
    ∀ lengths, record.lengths = some lengths → lengths.length = record.isNull.length := by
  intro lengths found
  rw [encodes.lengths] at found
  obtain ⟨_, ⟨⟩⟩ := Option.ite_none_right_eq_some.mp found
  rw [encodes.flags, length_map, length_map]

theorem readable_of_holds (below : message.length < 2 ^ 31)
    (holds : Holds message pointer record.bytes) (encodes : Encodes record field) :
    Readable message pointer ∧ Sound message pointer := by
  have read := recordRead below holds encodes.uniform
  have inside := holds.1
  have size := length_record record
  refine ⟨⟨⟨by omega, by omega⟩, ?_, ?_⟩, ?_⟩
  · rw [read.num]
    constructor <;> omega
  · rw [read.lengthEnd]
    constructor <;> omega
  · rw [Sound, read.recordEnd, read.total]
    push_cast
    ring

theorem buffer_of_recordRead (read : RecordRead message pointer record)
    (nonempty : 0 < record.buffer.length) : (bindAt message pointer).buffer =
      some ((pointer + 17 + record.isNull.length + record.lengthBytes.length : Nat) : Int) := by
  have pos : 0 < bufferLengthAt message pointer := by
    rw [read.bufferLength]
    omega
  refine (if_pos pos).trans (congrArg some ?_)
  rw [read.lengthEnd]
  push_cast
  ring

theorem rowLength_eq (row : Option Bytes) : rowLength row = (row.getD []).length := by
  cases row with
  | none | some => rfl

theorem length_le_flatten {pieces : List Bytes} {piece : Bytes} (mem : piece ∈ pieces) :
    piece.length ≤ pieces.flatten.length :=
  (sublist_flatten_of_mem mem).length_le

theorem fixed_of_holds (read : RecordRead message pointer record)
    (parts : RecordParts message pointer record) (encodes : Encodes record field)
    (notSized : field.sized = false) {idx : Nat} (found : field.rows[idx]? = some (some bytes)) :
    bytes.length = typeLengthMap field.type.toNat ∧
      ∃ buf, (bindAt message pointer).buffer = some buf ∧
        peek message (buf + idx * typeLengthMap field.type.toNat) bytes.length = some bytes := by
  have mem := mem_of_getElem? found
  rcases encodes.fixed notSized with allNull | ⟨wide, uniform, buf⟩
  · cases allNull _ mem
  · have pieceFound : (field.rows.map fun row =>
        row.getD (List.replicate (typeLengthMap field.type.toNat) 0))[idx]? = some bytes := by
      rw [List.getElem?_map, found, Option.map_some, Option.getD_some]
    have value := (buf ▸ parts.buffer).piece_uniform (typeLengthMap field.type.toNat)
      (fun piece pieceMember => by
        obtain ⟨row, rowMember, rfl⟩ := mem_map.mp pieceMember
        cases row with
        | none => exact length_replicate
        | some bytes => exact uniform bytes rowMember) pieceFound
    have length := uniform bytes mem
    have short := length_le_flatten (mem_of_getElem? pieceFound)
    rw [← buf] at short
    exact ⟨length, _, buffer_of_recordRead read (by omega), value.peek (by push_cast; ring) rfl⟩

theorem sized_of_holds (below : message.length < 2 ^ 31) (read : RecordRead message pointer record)
    (parts : RecordParts message pointer record) (encodes : Encodes record field)
    (isSized : field.sized = true) {idx : Nat} {row : Option Bytes}
    (found : field.rows[idx]? = some row) :
    peekNat message (pointer + 12 + numAt message pointer + 1 + 4 * idx) 4 = some (rowLength row) ∧
      ∀ bytes, row = some bytes → bytes ≠ [] → ∃ buf, (bindAt message pointer).buffer = some buf ∧
          peek message (buf + ((field.rows.take idx).map rowLength).sum) bytes.length =
            some bytes := by
  have buf := encodes.sized isSized
  have pieceFound : (field.rows.map fun row => row.getD [])[idx]? = some (row.getD []) := by
    rw [List.getElem?_map, found, Option.map_some]
  have short := length_le_flatten (mem_of_getElem? pieceFound)
  have bufferInside := parts.buffer.1
  rw [← buf, ← rowLength_eq] at short
  constructor
  · have lengthBytes : record.lengthBytes = lengthTable 4 (field.rows.map rowLength) := by
      rw [Record.lengthBytes, encodes.lengths, if_pos isSized, Option.map_some, Option.getD_some]
    have entryFound : ((field.rows.map rowLength).map (leBytes 4))[idx]? =
        some (leBytes 4 (rowLength row)) := by
      rw [List.getElem?_map, List.getElem?_map, found, Option.map_some, Option.map_some]
    have entry := (lengthBytes ▸ parts.lengths).piece_uniform 4 (fun piece pieceMember => by
      obtain ⟨length, _, rfl⟩ := mem_map.mp pieceMember
      exact length_leBytes 4 length) entryFound
    refine entry.peekNat_leBytes ?_ (by omega)
    rw [read.num]
    push_cast
    ring
  · rintro bytes rfl nonempty
    have pos : 0 < bytes.length := length_pos_iff.mpr nonempty
    have before : ((field.rows.map fun row => row.getD []).take idx).flatten.length =
        ((field.rows.take idx).map rowLength).sum := by
      rw [length_flatten, ← map_take, map_map]
      exact congrArg List.sum (map_congr_left fun row _ => (rowLength_eq row).symm)
    have value := (buf ▸ parts.buffer).piece pieceFound
    rw [before] at value
    exact ⟨_, buffer_of_recordRead read (lt_of_lt_of_le pos short),
      value.peek (by push_cast; ring) rfl⟩

theorem describes_of_holds (below : message.length < 2 ^ 31)
    (holds : Holds message pointer record.bytes) (encodes : Encodes record field) :
    Describes message (bindAt message pointer) field := by
  have read := recordRead below holds encodes.uniform
  have parts := recordParts holds
  have rows : record.isNull.length = field.rows.length := by rw [encodes.flags, length_map]
  refine ⟨?_, ?_, ?_, ?_, ?_⟩
  · have number : word message (pointer + 4) 4 = record.colType :=
      word_of_holds parts.type encodes.small (by push_cast; ring)
    exact (congrArg (fun bits : Nat => int32 bits) number).trans encodes.type
  · rw [← rows, ← read.num]
    rfl
  · intro idx row found
    have flagFound : record.isNull[idx]? = some (nullFlag row) := by
      rw [encodes.flags, List.getElem?_map, found, Option.map_some]
    have here : (bindAt message pointer).isNull + idx = (pointer + 12 + idx : Nat) := by
      push_cast
      rfl
    exact (parts.isNull.byte flagFound).peek here rfl
  · intro notSized
    have noLengths : record.lengths = none := by rw [encodes.lengths, if_neg (by simp [notSized])]
    exact ⟨if_pos (read.haveLength.mpr noLengths), fun idx bytes found =>
      fixed_of_holds read parts encodes notSized found⟩
  · intro isSized
    have present : haveLengthAt message pointer ≠ 0 := by
      rw [Ne, read.haveLength, encodes.lengths, if_pos isSized]
      exact Option.some_ne_none _
    exact ⟨_, if_neg present, fun idx row found =>
      sized_of_holds below read parts encodes isSized found⟩

end

end TaosAdapter.Stmt2
