import TaosAdapter.JsonBuilder.Texts
import TaosAdapter.Rest.Cells

/-!
Owns: the content of a cell of a raw block, what `JsonWriteRawBlock` writes for
it, and the contents for which that is one JSON value.

A number that is not finite writes nothing and leaves an error in the stream, so
that nothing is sent any more; an empty JSON value writes nothing; and the bytes
of a BINARY value are copied even if they are not UTF-8, which a JSON text is.
-/

namespace TaosAdapter.Rest

open Lib Driver JsonBuilder Outcome
open RawBlock (Read load loadInt32 isVarDataType itemIsNull loadRunes)

inductive Content where
  | null
  | bits (value : Nat)
  | bytes (value : Bytes)
  | runes (value : List Nat)

def readVarValue (memory : Bytes) (colType : Nat) (currentRow : Int) (clen : Nat) : Read Content :=
  if colType = TSDB_DATA_TYPE_NCHAR then do
    let runes ← loadRunes memory currentRow (clen / 4) 0
    .ok (.runes runes)
  else do
    let bytes ← .ofRead (peek memory currentRow clen)
    .ok (.bytes bytes)

def readVarContent (memory : Bytes) (colType : Nat) (pHeader pStart : Int) (row : Nat) :
    Read Content := do
  let offset ← loadInt32 memory (pHeader + row * 4)
  if offset = -1 then .ok .null
  else
    let clen ← load memory (pStart + offset) 2
    readVarValue memory colType (pStart + offset + 2) clen

def readContent (memory : Bytes) (colType : Nat) (pHeader pStart : Int) (row : Nat) :
    Read Content :=
  if isVarDataType colType then readVarContent memory colType pHeader pStart row
  else do
    if ← itemIsNull memory pHeader row then .ok .null
    else
      let bits ← load memory (pStart + row * typeLengthMap colType) (typeLengthMap colType)
      .ok (.bits bits)

def supportedTypes : List Nat := [1, 2, 3, 4, 5, 6, 7, 8, 9, 10, 11, 12, 13, 14, 15, 16, 20]

def StoredJson : Content → Prop
  | .bytes [] => True
  | .bytes content => ∃ value, JsonDocument value content
  | _ => True

structure BlockCell where
  memory : Bytes
  colType : Nat
  pHeader : Int
  pStart : Int
  row : Nat
  content : Content
  supported : colType ∈ supportedTypes
  held : readContent memory colType pHeader pStart row = .ok content
  storedJson : colType = TSDB_DATA_TYPE_JSON → StoredJson content

def Presentable (colType : Nat) : Content → Prop
  | .null => True
  | .bits value =>
    (colType = TSDB_DATA_TYPE_FLOAT → Finite32 (BitVec.ofNat 32 value)) ∧
      (colType = TSDB_DATA_TYPE_DOUBLE → Finite64 (BitVec.ofNat 64 value))
  | .bytes value =>
    (colType = TSDB_DATA_TYPE_BINARY → ∃ text, value = utf8Encode text) ∧
      (colType = TSDB_DATA_TYPE_JSON → value ≠ [])
  | .runes _ => True

/-- A writer appends one JSON value, the same to every stream, and a stream that
could be flushed before still can be. -/
def WritesOneValue (write : Stream → Read Stream) : Prop :=
  ∃ value text, JsonElement value text ∧ ∀ stream : Stream, stream.error = none →
    write stream = .ok (stream.append text) ∧
      (stream.append text).flush =
        .ok { stream with out := stream.out ++ (stream.buf ++ text), buf := [] }

theorem flush_append {stream : Stream} (healthy : stream.error = none) (text : Bytes) :
    (stream.append text).flush =
      .ok { stream with out := stream.out ++ (stream.buf ++ text), buf := [] } := by
  rw [Stream.flush, Stream.append, healthy]

variable {text : Bytes}

theorem writesOneValue_of_text {write : Stream → Stream} {value : Json}
    (writes : WritesText value text write) : WritesOneValue fun stream => .ok (write stream) := by
  refine ⟨value, text, writes.1, fun stream healthy => ⟨?_, flush_append healthy text⟩⟩
  exact congrArg Outcome.ok (writes.2 stream)

theorem element_of_writesOneValue {write : Stream → Stream}
    (appends : ∀ stream, write stream = stream.append text)
    (writes : WritesOneValue fun stream => .ok (write stream)) :
    ∃ value, JsonElement value text := by
  obtain ⟨value, other, element, each⟩ := writes
  have written : write Stream.empty = Stream.empty.append other :=
    Outcome.ok.inj (each Stream.empty rfl).1
  rw [appends] at written
  have same : text = other := congrArg Stream.buf written
  exact ⟨value, same ▸ element⟩

def writeContent (formatting : Formatting) (precision : Int) (colType : Nat) (content : Content)
    (builder : Stream) : Stream :=
  match content with
  | .null => builder.writeNil
  | .bits bits =>
    match colType with
    | 1 => if bits ≠ 0 then builder.writeTrue else builder.writeFalse
    | 2 => builder.writeInt8 (.ofNat 8 bits)
    | 3 => builder.writeInt16 (.ofNat 16 bits)
    | 4 => builder.writeInt32 (.ofNat 32 bits)
    | 5 => builder.writeInt64 (.ofNat 64 bits)
    | 6 => builder.writeFloat32 formatting (.ofNat 32 bits)
    | 7 => builder.writeFloat64 formatting (.ofNat 64 bits)
    | 9 => builder.writeString
        (utf8Encode (timeText formatting precision (BitVec.ofNat 64 bits).toInt))
    | 11 => builder.writeUint8 (.ofNat 8 bits)
    | 12 => builder.writeUint16 (.ofNat 16 bits)
    | 13 => builder.writeUint32 (.ofNat 32 bits)
    | 14 => builder.writeUint64 (.ofNat 64 bits)
    | _ => builder
  | .bytes bytes =>
    match colType with
    | 8 => (bytes.foldl Stream.writeStringByte (builder.addByte 34)).addByte 34
    | 15 => bytes.foldl Stream.addByte builder
    | 16 => (bytes.foldl writeHexByte (builder.addByte 34)).addByte 34
    | 20 => (bytes.foldl writeHexByte (builder.addByte 34)).addByte 34
    | _ => builder
  | .runes runes => (runes.foldl Stream.writeRuneString (builder.addByte 34)).addByte 34

section

variable {formatting : Formatting} {precision : Int} {memory : Bytes} {pHeader pStart : Int}
  {row colType : Nat} {builder : Stream}

theorem jsonWriteRawBlock_fixed (isFixed : isVarDataType colType = false)
    (isCase : writeRawJsonFixed formatting precision memory builder colType pStart row =
      writeRawJson (typeLengthMap colType) (fun builder bits =>
        writeContent formatting precision colType (.bits bits) builder) memory builder pStart row) :
    jsonWriteRawBlock formatting precision memory builder colType pHeader pStart row =
      (readContent memory colType pHeader pStart row >>= fun content =>
        .ok (writeContent formatting precision colType content builder)) := by
  rw [jsonWriteRawBlock, readContent, isFixed, if_neg Bool.false_ne_true,
    if_neg Bool.false_ne_true, bind_assoc]
  congr 1
  funext null
  cases null with
  | true => rfl
  | false =>
    simp only [Bool.false_eq_true, if_false, isCase, writeRawJson, bind_assoc, ok_bind]

theorem jsonWriteRawBlock_var (write : Stream → Int → Nat → Read Stream)
    (isVar : isVarDataType colType = true)
    (isCase : writeRawJsonVarData memory builder colType pHeader pStart row =
      writeRawJsonVar write memory builder pHeader pStart row)
    (isValue : ∀ currentRow clen, write builder currentRow clen =
      (readVarValue memory colType currentRow clen >>= fun content =>
        .ok (writeContent formatting precision colType content builder))) :
    jsonWriteRawBlock formatting precision memory builder colType pHeader pStart row =
      (readContent memory colType pHeader pStart row >>= fun content =>
        .ok (writeContent formatting precision colType content builder)) := by
  rw [jsonWriteRawBlock, readContent, isVar, if_pos rfl, if_pos rfl, isCase, writeRawJsonVar,
    readVarContent, bind_assoc]
  congr 1
  funext off
  split_ifs with minusOne
  · rfl
  · simp only [isValue, bind_assoc]

variable {Result : Type}

theorem readVarValue_bytes_bind (notNchar : colType ≠ TSDB_DATA_TYPE_NCHAR)
    (next : Content → Read Result) (currentRow : Int) (clen : Nat) :
    (readVarValue memory colType currentRow clen >>= next) =
      (.ofRead (peek memory currentRow clen) >>= fun bytes => next (.bytes bytes)) := by
  rw [readVarValue, if_neg notNchar, bind_assoc]
  rfl

theorem readVarValue_runes_bind (isNchar : colType = TSDB_DATA_TYPE_NCHAR)
    (next : Content → Read Result) (currentRow : Int) (clen : Nat) :
    (readVarValue memory colType currentRow clen >>= next) =
      (loadRunes memory currentRow (clen / 4) 0 >>= fun runes => next (.runes runes)) := by
  rw [readVarValue, if_pos isNchar, bind_assoc]
  rfl

theorem jsonWriteRawBlock_eq (supported : colType ∈ supportedTypes) :
    jsonWriteRawBlock formatting precision memory builder colType pHeader pStart row =
      (readContent memory colType pHeader pStart row >>= fun content =>
        .ok (writeContent formatting precision colType content builder)) := by
  simp only [supportedTypes, List.mem_cons, List.not_mem_nil, or_false] at supported
  rcases supported with rfl | rfl | rfl | rfl | rfl | rfl | rfl | rfl | rfl | rfl | rfl | rfl |
    rfl | rfl | rfl | rfl | rfl
  all_goals first
    | exact jsonWriteRawBlock_fixed rfl rfl
    | exact jsonWriteRawBlock_var _ rfl rfl fun _ _ => by
        rw [readVarValue_bytes_bind (by decide)]
        rfl
    | exact jsonWriteRawBlock_var _ rfl rfl fun _ _ => by
        rw [readVarValue_runes_bind (by decide)]
        rfl

end

section

variable {formatting : Formatting} {precision : Int}

theorem writesText_writeNil : WritesText .null (ascii "null") Stream.writeNil :=
  ⟨JsonText.null.element, fun _ => rfl⟩

theorem writesText_writeTrue : WritesText (.bool true) (ascii "true") Stream.writeTrue :=
  ⟨JsonText.true.element, fun _ => rfl⟩

theorem writesText_writeFalse : WritesText (.bool false) (ascii "false") Stream.writeFalse :=
  ⟨JsonText.false.element, fun _ => rfl⟩

variable {write : Stream → Stream}

theorem writesOneValue_number (writes : WritesNumber write) :
    WritesOneValue fun stream => .ok (write stream) := by
  obtain ⟨text, isNumber, appends⟩ := writes
  exact writesOneValue_of_text ⟨(JsonText.number isNumber).element, appends⟩

theorem writesText_quoted {body : Bytes} (text : List Char)
    (isBody : body = (utf8Encode text).flatMap escaped)
    (appends : ∀ stream, write stream = stream.append (quoted body)) :
    WritesText (.string (utf16Encode text)) (quoted body) write := by
  refine ⟨?_, appends⟩
  rw [isBody]
  exact (JsonText.string (stringBody_escaped text)).element

variable (bytes : Bytes) (stream : Stream)

theorem writeBytes_eq :
    (bytes.foldl Stream.writeStringByte (stream.addByte 34)).addByte 34 =
      stream.append (quoted (bytes.flatMap escaped)) := by
  rw [foldl_writeStringByte, Stream.addByte, Stream.addByte, Stream.append_append,
    Stream.append_append]
  rfl

theorem writeRunes_eq (runes : List Nat) (stream : Stream) :
    (runes.foldl Stream.writeRuneString (stream.addByte 34)).addByte 34 =
      stream.append (quoted ((utf8Encode (runes.map runeChar)).flatMap escaped)) := by
  rw [foldl_writeRuneString, Stream.addByte, Stream.addByte, Stream.append_append,
    Stream.append_append]
  rfl

def hexDigits (b : UInt8) : Bytes := [hex (b >>> 4), hex (b &&& 15)]

def hexChars (b : UInt8) : List Char := (hexDigits b).map fun digit => runeChar digit.toNat

theorem writeHexByte_eq (b : UInt8) : writeHexByte stream b = stream.append (hexDigits b) := by
  have short : ∀ n < 16, [48, hex (UInt8.ofNat n)] = hexDigits (UInt8.ofNat n) := by
    decide +kernel
  unfold writeHexByte
  split_ifs with small
  · have low : b.toNat < 16 := UInt8.lt_iff_toNat_lt.mp small
    have digits := short b.toNat low
    rw [UInt8.ofNat_toNat] at digits
    rw [Stream.addByte, Stream.writeRaw, Stream.append_append, ← digits]
    rfl
  · rfl

theorem hexDigits_eq (b : UInt8) : hexDigits b = (utf8Encode (hexChars b)).flatMap escaped := by
  revert b
  exact forall_byte (by decide +kernel)

theorem flatMap_hexDigits :
    bytes.flatMap hexDigits = (utf8Encode (bytes.flatMap hexChars)).flatMap escaped := by
  induction bytes with
  | nil => rfl
  | cons b bytes ih =>
    rw [List.flatMap_cons, ih, hexDigits_eq, List.flatMap_cons, utf8Encode, utf8Encode, utf8Encode,
      List.flatMap_append, List.flatMap_append]

theorem foldl_writeHexByte :
    bytes.foldl writeHexByte stream = stream.append (bytes.flatMap hexDigits) := by
  induction bytes generalizing stream with
  | nil => exact stream.append_nil.symm
  | cons b bytes ih =>
    rw [List.foldl_cons, ih, writeHexByte_eq, Stream.append_append, List.flatMap_cons]

theorem writeHex_eq :
    (bytes.foldl writeHexByte (stream.addByte 34)).addByte 34 =
      stream.append (quoted (bytes.flatMap hexDigits)) := by
  rw [foldl_writeHexByte, Stream.addByte, Stream.addByte, Stream.append_append,
    Stream.append_append]
  rfl

theorem foldl_addByte : bytes.foldl Stream.addByte stream = stream.append bytes := by
  induction bytes generalizing stream with
  | nil => exact stream.append_nil.symm
  | cons b bytes ih =>
    rw [List.foldl_cons, ih, Stream.addByte, Stream.append_append]
    rfl

theorem floatFormat_cases (magnitude small large : Nat) :
    floatFormat magnitude small large = 101 ∨ floatFormat magnitude small large = 102 := by
  unfold floatFormat
  split_ifs
  · exact .inl rfl
  · exact .inr rfl

theorem not_writesOneValue_of_error (fails : (write Stream.empty).error ≠ none) :
    ¬ WritesOneValue fun stream => .ok (write stream) := by
  rintro ⟨value, text, _, each⟩
  have written : write Stream.empty = Stream.empty.append text :=
    Outcome.ok.inj (each Stream.empty rfl).1
  rw [written] at fails
  exact fails rfl

theorem writesOneValue_writeFloat32_iff (val : BitVec 32) :
    (WritesOneValue fun stream => .ok (stream.writeFloat32 formatting val)) ↔ Finite32 val := by
  constructor
  · intro writes
    by_contra notFinite
    refine not_writesOneValue_of_error ?_ writes
    simp [Stream.writeFloat32, notFinite]
  · intro finite
    simp only [Stream.writeFloat32, finite, if_true]
    exact writesOneValue_of_text ⟨(JsonText.number
      (formatting.isNumber32 val _ (floatFormat_cases _ _ _) finite)).element, fun _ => rfl⟩

theorem writesOneValue_writeFloat64_iff (val : BitVec 64) :
    (WritesOneValue fun stream => .ok (stream.writeFloat64 formatting val)) ↔ Finite64 val := by
  constructor
  · intro writes
    by_contra notFinite
    refine not_writesOneValue_of_error ?_ writes
    simp [Stream.writeFloat64, notFinite]
  · intro finite
    simp only [Stream.writeFloat64, finite, if_true]
    exact writesOneValue_of_text ⟨(JsonText.number
      (formatting.isNumber64 val _ (floatFormat_cases _ _ _) finite)).element, fun _ => rfl⟩

theorem writesOneValue_binary_iff : (WritesOneValue fun stream =>
      .ok ((bytes.foldl Stream.writeStringByte (stream.addByte 34)).addByte 34)) ↔
      ∃ text, bytes = utf8Encode text := by
  constructor
  · intro writes
    obtain ⟨value, element⟩ := element_of_writesOneValue (writeBytes_eq bytes) writes
    obtain ⟨units, isBody⟩ := stringBody_of_element element
    exact utf8_of_stringBody isBody rfl
  · rintro ⟨text, isText⟩
    exact writesOneValue_of_text
      (writesText_quoted text (by rw [isText]) (writeBytes_eq bytes))

variable {bytes : Bytes}

theorem writesOneValue_json_iff (stored : StoredJson (.bytes bytes)) :
    (WritesOneValue fun stream => .ok (bytes.foldl Stream.addByte stream)) ↔ bytes ≠ [] := by
  constructor
  · intro writes
    obtain ⟨value, element⟩ := element_of_writesOneValue (foldl_addByte bytes) writes
    exact element.ne_nil
  · intro nonempty
    cases bytes with
    | nil => exact absurd rfl nonempty
    | cons byte bytes =>
      obtain ⟨value, element⟩ := stored
      exact writesOneValue_of_text ⟨element, foldl_addByte (byte :: bytes)⟩

variable {colType : Nat}

theorem writesOneValue_bits_iff (supported : colType ∈ supportedTypes)
    (isFixed : isVarDataType colType = false) (bits : Nat) : (WritesOneValue fun stream =>
      .ok (writeContent formatting precision colType (.bits bits) stream)) ↔
      Presentable colType (.bits bits) := by
  have others : colType ≠ TSDB_DATA_TYPE_FLOAT → colType ≠ TSDB_DATA_TYPE_DOUBLE →
      Presentable colType (.bits bits) := fun notFloat notDouble =>
    ⟨fun isFloat => absurd isFloat notFloat, fun isDouble => absurd isDouble notDouble⟩
  simp only [supportedTypes, List.mem_cons, List.not_mem_nil, or_false] at supported
  rcases supported with rfl | rfl | rfl | rfl | rfl | rfl | rfl | rfl | rfl | rfl | rfl | rfl |
    rfl | rfl | rfl | rfl | rfl
  · refine iff_of_true ?_ (others (by decide) (by decide))
    by_cases zero : bits = 0
    · simp only [writeContent, zero, ne_eq, not_true_eq_false, if_false]
      exact writesOneValue_of_text writesText_writeFalse
    · simp only [writeContent, ne_eq, zero, not_false_eq_true, if_true]
      exact writesOneValue_of_text writesText_writeTrue
  · exact iff_of_true (writesOneValue_number (writesUnsigned_writeUint8.signed _))
      (others (by decide) (by decide))
  · exact iff_of_true (writesOneValue_number (writesUnsigned_writeUint16.signed _))
      (others (by decide) (by decide))
  · exact iff_of_true (writesOneValue_number (writesUnsigned_writeUint32.signed _))
      (others (by decide) (by decide))
  · exact iff_of_true (writesOneValue_number (writesUnsigned_writeUint64.signed _))
      (others (by decide) (by decide))
  · refine (writesOneValue_writeFloat32_iff _).trans ⟨fun finite => ?_, fun fine => fine.1 rfl⟩
    exact ⟨fun _ => finite, fun isDouble => absurd isDouble (by decide)⟩
  · refine (writesOneValue_writeFloat64_iff _).trans ⟨fun finite => ?_, fun fine => fine.2 rfl⟩
    exact ⟨fun isFloat => absurd isFloat (by decide), fun _ => finite⟩
  · cases isFixed
  · exact iff_of_true (writesOneValue_of_text (writesText_writeString _))
      (others (by decide) (by decide))
  · cases isFixed
  · exact iff_of_true (writesOneValue_number (writesUnsigned_writeUint8.number _))
      (others (by decide) (by decide))
  · exact iff_of_true (writesOneValue_number (writesUnsigned_writeUint16.number _))
      (others (by decide) (by decide))
  · exact iff_of_true (writesOneValue_number (writesUnsigned_writeUint32.number _))
      (others (by decide) (by decide))
  · exact iff_of_true (writesOneValue_number (writesUnsigned_writeUint64.number _))
      (others (by decide) (by decide))
  · cases isFixed
  · cases isFixed
  · cases isFixed

theorem writesOneValue_bytes_iff (isVar : isVarDataType colType = true)
    (notNchar : colType ≠ TSDB_DATA_TYPE_NCHAR)
    (stored : colType = TSDB_DATA_TYPE_JSON → StoredJson (.bytes bytes)) :
    (WritesOneValue fun stream =>
      .ok (writeContent formatting precision colType (.bytes bytes) stream)) ↔
      Presentable colType (.bytes bytes) := by
  have hexadecimal : WritesOneValue fun stream =>
      .ok ((bytes.foldl writeHexByte (stream.addByte 34)).addByte 34) :=
    writesOneValue_of_text (writesText_quoted (bytes.flatMap hexChars) (flatMap_hexDigits bytes)
      (writeHex_eq bytes))
  simp only [isVarDataType, Bool.or_eq_true, beq_iff_eq] at isVar
  rcases isVar with (((rfl | rfl) | rfl) | rfl) | rfl
  · refine (writesOneValue_binary_iff bytes).trans ⟨fun text => ?_, fun fine => fine.1 rfl⟩
    exact ⟨fun _ => text, fun isJson => absurd isJson (by decide)⟩
  · exact absurd rfl notNchar
  · refine (writesOneValue_json_iff (stored rfl)).trans ⟨fun nonempty => ?_, fun fine => fine.2 rfl⟩
    exact ⟨fun isBinary => absurd isBinary (by decide), fun _ => nonempty⟩
  · exact iff_of_true hexadecimal
      ⟨fun isBinary => absurd isBinary (by decide), fun isJson => absurd isJson (by decide)⟩
  · exact iff_of_true hexadecimal
      ⟨fun isBinary => absurd isBinary (by decide), fun isJson => absurd isJson (by decide)⟩

def OfKind (colType : Nat) : Content → Prop
  | .bits _ => isVarDataType colType = false
  | .bytes _ => isVarDataType colType = true ∧ colType ≠ TSDB_DATA_TYPE_NCHAR
  | _ => True

theorem ofKind_of_readContent {memory : Bytes} {pHeader pStart : Int} {row : Nat}
    {content : Content} (held : readContent memory colType pHeader pStart row = .ok content) :
    OfKind colType content := by
  unfold readContent at held
  split_ifs at held with isVar
  · obtain ⟨off, _, later⟩ := bind_eq_ok.mp held
    split_ifs at later
    · cases later
      trivial
    · obtain ⟨clen, _, value⟩ := bind_eq_ok.mp later
      unfold readVarValue at value
      split_ifs at value with isNchar
      · obtain ⟨runes, _, isRunes⟩ := bind_eq_ok.mp value
        cases isRunes
        trivial
      · obtain ⟨bytes, _, isBytes⟩ := bind_eq_ok.mp value
        cases isBytes
        exact ⟨isVar, isNchar⟩
  · obtain ⟨null, _, later⟩ := bind_eq_ok.mp held
    split_ifs at later
    · cases later
      trivial
    · obtain ⟨bits, _, isBits⟩ := bind_eq_ok.mp later
      cases isBits
      exact Bool.eq_false_iff.mpr isVar

end

def BlockCell.write (cell : BlockCell) (formatting : Formatting) (precision : Int)
    (builder : Stream) : Read Stream :=
  jsonWriteRawBlock formatting precision cell.memory builder cell.colType cell.pHeader cell.pStart
    cell.row

theorem BlockCell.write_eq (cell : BlockCell) (formatting : Formatting) (precision : Int) :
    cell.write formatting precision = fun stream =>
      .ok (writeContent formatting precision cell.colType cell.content stream) := by
  funext stream
  rw [BlockCell.write, jsonWriteRawBlock_eq cell.supported, cell.held, ok_bind]

/-- A cell is written as one JSON value, and the stream can still be flushed,
exactly if its content is presentable. -/
theorem cell_written_iff (cell : BlockCell) (formatting : Formatting) (precision : Int) :
    WritesOneValue (cell.write formatting precision) ↔ Presentable cell.colType cell.content := by
  have kind := ofKind_of_readContent cell.held
  have stored := cell.storedJson
  rw [cell.write_eq]
  cases content : cell.content with
  | null => exact iff_of_true (writesOneValue_of_text writesText_writeNil) trivial
  | bits bits =>
    rw [content] at kind
    exact writesOneValue_bits_iff cell.supported kind bits
  | bytes bytes =>
    rw [content] at kind stored
    exact writesOneValue_bytes_iff kind.1 kind.2 stored
  | runes runes =>
    exact iff_of_true (writesOneValue_of_text (writesText_quoted (runes.map runeChar) rfl
      (writeRunes_eq runes))) trivial

def zeroFormatting : Formatting where
  appendFloat32 _ _ := [48]
  appendFloat64 _ _ := [48]
  appendFormat _ _ := []
  isNumber32 _ _ _ _ := .mk (.inl rfl) .zero .none .none
  isNumber64 _ _ _ _ := .mk (.inl rfl) .zero .none .none

def nanCell : BlockCell where
  memory := [0, 0, 0, 192, 127]
  colType := TSDB_DATA_TYPE_FLOAT
  pHeader := 0
  pStart := 1
  row := 0
  content := .bits 0x7fc00000
  supported := by decide
  held := rfl
  storedJson := nofun

def emptyJsonCell : BlockCell where
  memory := [0, 0, 0, 0, 0, 0]
  colType := TSDB_DATA_TYPE_JSON
  pHeader := 0
  pStart := 4
  row := 0
  content := .bytes []
  supported := by decide
  held := rfl
  storedJson _ := trivial

def highByteCell : BlockCell where
  memory := [0, 0, 0, 0, 1, 0, 255]
  colType := TSDB_DATA_TYPE_BINARY
  pHeader := 0
  pStart := 4
  row := 0
  content := .bytes [255]
  supported := by decide
  held := rfl
  storedJson := nofun

theorem high_byte_not_utf8 : ¬ ∃ text, [255] = utf8Encode text := by
  rintro ⟨text, encoded⟩
  have decoded := utf8Decode_encode text
  rw [← encoded] at decoded
  have isReplacement : text = [replacement] := decoded.symm.trans (by decide +kernel)
  rw [isReplacement] at encoded
  exact absurd encoded (by decide +kernel)

/-- A NaN writes nothing and stops every later flush, an empty JSON value writes
nothing, and the byte 255 is no text. -/
theorem cells_not_written :
    ¬ WritesOneValue (nanCell.write zeroFormatting 0) ∧
    (∃ reason, ((writeContent zeroFormatting 0 nanCell.colType nanCell.content
      Stream.empty).writeMore).flush = .error reason) ∧
    ¬ WritesOneValue (emptyJsonCell.write zeroFormatting 0) ∧
    ¬ WritesOneValue (highByteCell.write zeroFormatting 0) := by
  refine ⟨?_, ⟨_, rfl⟩, ?_, ?_⟩
  · rw [nanCell.write_eq]
    intro writes
    exact absurd ((writesOneValue_writeFloat32_iff _).mp writes) (by decide)
  · rw [emptyJsonCell.write_eq]
    intro writes
    exact (writesOneValue_json_iff (emptyJsonCell.storedJson rfl)).mp writes rfl
  · rw [highByteCell.write_eq]
    intro writes
    exact high_byte_not_utf8 ((writesOneValue_binary_iff _).mp writes)

end TaosAdapter.Rest
