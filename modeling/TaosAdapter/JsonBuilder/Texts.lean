import TaosAdapter.JsonBuilder.Stream

/-!
Owns: what the writers of the stream append, as parts of a JSON text: the
numeral of an integer, and the characters of a string with their escapes.

Each writer appends the same bytes to every stream.
-/

namespace TaosAdapter.JsonBuilder

open Lib
open List hiding utf8Encode utf8Encode_cons

variable {d : Nat}

theorem toNat_ofNat_digit (small : d < 10) : (UInt8.ofNat (d + 48)).toNat = d + 48 := by
  rw [UInt8.toNat_ofNat']
  omega

theorem isDigit_ofNat (small : d < 10) : IsDigit (UInt8.ofNat (d + 48)) := by
  unfold IsDigit
  decide +revert

theorem ofNat_eq_of_mod {a b : Nat} (same : a % 256 = b % 256) : UInt8.ofNat a = UInt8.ofNat b := by
  apply UInt8.toNat_inj.mp
  rw [UInt8.toNat_ofNat', UInt8.toNat_ofNat']
  exact same

theorem bytes_of_word {a b c : Nat} (isB : b < 256) (isC : c < 256) (isD : d < 256) :
    UInt8.ofNat ((b * 2 ^ 16 + c * 2 ^ 8 + d + a * 2 ^ 24) / 2 ^ 16) = UInt8.ofNat b ∧
      UInt8.ofNat ((b * 2 ^ 16 + c * 2 ^ 8 + d + a * 2 ^ 24) / 2 ^ 8) = UInt8.ofNat c ∧
      UInt8.ofNat (b * 2 ^ 16 + c * 2 ^ 8 + d + a * 2 ^ 24) = UInt8.ofNat d ∧
      (b * 2 ^ 16 + c * 2 ^ 8 + d + a * 2 ^ 24) / 2 ^ 24 = a := by
  refine ⟨ofNat_eq_of_mod ?_, ofNat_eq_of_mod ?_, ofNat_eq_of_mod ?_, ?_⟩ <;> omega

def leadingZeros (i : Nat) : Nat := if i < 10 then 2 else if i < 100 then 1 else 0

variable {i : Nat}

theorem bytes_digits (small : i < 1000) :
    UInt8.ofNat (digits i / 2 ^ 16) = UInt8.ofNat (i / 100 + 48) ∧
      UInt8.ofNat (digits i / 2 ^ 8) = UInt8.ofNat (i / 10 % 10 + 48) ∧
      UInt8.ofNat (digits i) = UInt8.ofNat (i % 10 + 48) ∧ digits i / 2 ^ 24 = leadingZeros i := by
  have isWord : digits i = (i / 100 + 48) * 2 ^ 16 + (i / 10 % 10 + 48) * 2 ^ 8 + (i % 10 + 48) +
      leadingZeros i * 2 ^ 24 := by
    unfold digits leadingZeros
    split_ifs <;> omega
  rw [isWord]
  exact bytes_of_word (by omega) (by omega) (by omega)

def firstDigits (i : Nat) : Bytes :=
  if i < 10 then [UInt8.ofNat (i % 10 + 48)]
  else if i < 100 then [UInt8.ofNat (i / 10 % 10 + 48), UInt8.ofNat (i % 10 + 48)]
  else [UInt8.ofNat (i / 100 + 48), UInt8.ofNat (i / 10 % 10 + 48), UInt8.ofNat (i % 10 + 48)]

def threeDigits (i : Nat) : Bytes :=
  [UInt8.ofNat (i / 100 + 48), UInt8.ofNat (i / 10 % 10 + 48), UInt8.ofNat (i % 10 + 48)]

theorem writeFirstBuf_digits (small : i < 1000) (space : Bytes) :
    writeFirstBuf space (digits i) = space ++ firstDigits i := by
  obtain ⟨hundreds, tens, ones, start⟩ := bytes_digits small
  unfold writeFirstBuf firstDigits
  rw [hundreds, tens, ones, start, leadingZeros]
  by_cases one : i < 10
  · simp only [one, if_true, OfNat.ofNat_ne_zero, OfNat.ofNat_ne_one, if_false]
  · by_cases two : i < 100
    · simp only [one, two, if_true, if_false, one_ne_zero, append_assoc, cons_append, nil_append]
    · simp only [one, two, if_true, if_false, append_assoc, cons_append, nil_append]

theorem writeBuf_digits (small : i < 1000) (buf : Bytes) :
    writeBuf buf (digits i) = buf ++ threeDigits i := by
  obtain ⟨hundreds, tens, ones, _⟩ := bytes_digits small
  rw [writeBuf, hundreds, tens, ones]
  rfl

variable {rest : Bytes}

theorem whole_cons (pos : 0 < d) (small : d < 10) (areDigits : ∀ digit ∈ rest, IsDigit digit) :
    Whole (UInt8.ofNat (d + 48) :: rest) := by
  have table : ∀ d < 10, 0 < d → 49 ≤ UInt8.ofNat (d + 48) ∧ UInt8.ofNat (d + 48) ≤ 57 := by
    decide
  exact .positive (table d small pos) areDigits

theorem isDigit_threeDigits (small : i < 1000) : ∀ digit ∈ threeDigits i, IsDigit digit := by
  intro digit mem
  simp only [threeDigits, mem_cons, not_mem_nil, or_false] at mem
  rcases mem with rfl | rfl | rfl
  · exact isDigit_ofNat (by omega)
  · exact isDigit_ofNat (by omega)
  · exact isDigit_ofNat (by omega)

theorem decimalValue_append_threeDigits (small : i < 1000) (literal : Bytes) :
    decimalValue (literal ++ threeDigits i) = decimalValue literal * 1000 + i := by
  have hundreds := toNat_ofNat_digit (d := i / 100) (by omega)
  have tens := toNat_ofNat_digit (d := i / 10 % 10) (by omega)
  have ones := toNat_ofNat_digit (d := i % 10) (by omega)
  rw [decimalValue, decimalValue, foldl_append]
  simp only [threeDigits, foldl_cons, foldl_nil, hundreds, tens, ones]
  omega

theorem numeral_firstDigits (small : i < 1000) : Numeral i (firstDigits i) := by
  have hundreds := toNat_ofNat_digit (d := i / 100) (by omega)
  have tens := toNat_ofNat_digit (d := i / 10 % 10) (by omega)
  have ones := toNat_ofNat_digit (d := i % 10) (by omega)
  have isOnes := isDigit_ofNat (d := i % 10) (by omega)
  have isTens := isDigit_ofNat (d := i / 10 % 10) (by omega)
  unfold firstDigits
  split_ifs with one two
  · refine ⟨?_, by simp only [decimalValue, foldl_cons, foldl_nil, ones]; omega⟩
    cases i with
    | zero => exact .zero
    | succ i => exact whole_cons (by omega) (by omega) nofun
  · refine ⟨whole_cons (by omega) (by omega) ?_, ?_⟩
    · simp only [forall_mem_singleton]
      exact isOnes
    simp only [decimalValue, foldl_cons, foldl_nil, tens, ones]
    omega
  · have others : ∀ digit ∈ [UInt8.ofNat (i / 10 % 10 + 48), UInt8.ofNat (i % 10 + 48)],
        IsDigit digit := by
      simp only [forall_mem_cons]
      exact ⟨isTens, isOnes, nofun⟩
    refine ⟨whole_cons (by omega) (by omega) others, ?_⟩
    simp only [decimalValue, foldl_cons, foldl_nil, hundreds, tens, ones]
    omega

def WritesNumeral (value : Nat) (write : Bytes → Bytes) : Prop :=
  ∃ text, (∀ buf, write buf = buf ++ text) ∧ Numeral value text

theorem writesNumeral_first (small : i < 1000) :
    WritesNumeral i fun buf => writeFirstBuf buf (digits i) :=
  ⟨firstDigits i, writeFirstBuf_digits small, numeral_firstDigits small⟩

variable {value : Nat}

theorem WritesNumeral.more {q : Nat} {write : Bytes → Bytes} (writes : WritesNumeral q write)
    (pos : q ≠ 0) (isQuotient : q = value / 1000) :
    WritesNumeral value fun buf => writeBuf (write buf) (digits (value - q * 1000)) := by
  obtain ⟨text, appended, whole, isValue⟩ := writes
  have small : value - q * 1000 < 1000 := by omega
  refine ⟨text ++ threeDigits (value - q * 1000), fun buf => ?_, ?_, ?_⟩
  · show writeBuf (write buf) _ = _
    rw [writeBuf_digits small, appended, append_assoc]
  · exact whole.append (by rw [isValue]; exact pos) (isDigit_threeDigits small)
  · rw [decimalValue_append_threeDigits small, isValue]
    omega

theorem writesNumeral_digit (pos : i ≠ 0) (small : i < 10) :
    WritesNumeral i fun buf => buf ++ [UInt8.ofNat (i + 48)] := by
  refine ⟨[UInt8.ofNat (i + 48)], fun _ => rfl, whole_cons (by omega) small nofun, ?_⟩
  simp only [decimalValue, foldl_cons, foldl_nil, toNat_ofNat_digit small]
  omega

variable {val : Nat}

theorem writesNumeral_appendUint16 (small : val < 2 ^ 16) :
    WritesNumeral val fun buf => appendUint16 buf val := by
  unfold appendUint16
  dsimp only
  split_ifs with q1
  · exact writesNumeral_first (by omega)
  · exact (writesNumeral_first (by omega)).more q1 rfl

theorem writesNumeral_appendUint32 (small : val < 2 ^ 32) :
    WritesNumeral val fun buf => appendUint32 buf val := by
  unfold appendUint32
  dsimp only
  split_ifs with q1 q2 q3
  · exact writesNumeral_first (by omega)
  · exact (writesNumeral_first (by omega)).more q1 rfl
  · exact ((writesNumeral_first (by omega)).more q2 rfl).more q1 rfl
  · exact (((writesNumeral_digit q3 (by omega)).more q3 rfl).more q2 rfl).more q1 rfl

theorem writesNumeral_appendUint64 (small : val < 2 ^ 64) :
    WritesNumeral val fun buf => appendUint64 buf val := by
  unfold appendUint64
  dsimp only
  split_ifs with q1 q2 q3 q4 q5 q6
  · exact writesNumeral_first (by omega)
  · exact (writesNumeral_first (by omega)).more q1 rfl
  · exact ((writesNumeral_first (by omega)).more q2 rfl).more q1 rfl
  · exact (((writesNumeral_first (by omega)).more q3 rfl).more q2 rfl).more q1 rfl
  · exact ((((writesNumeral_first (by omega)).more q4 rfl).more q3 rfl).more q2 rfl).more q1 rfl
  · exact (((((writesNumeral_first (by omega)).more q5 rfl).more q4 rfl).more q3 rfl).more q2
      rfl).more q1 rfl
  · exact ((((((writesNumeral_first (by omega)).more q6 rfl).more q5 rfl).more q4 rfl).more q3
      rfl).more q2 rfl).more q1 rfl

def WritesText (value : Json) (text : Bytes) (write : Stream → Stream) : Prop :=
  JsonElement value text ∧ ∀ stream, write stream = stream.append text

theorem WritesNumeral.stream {write : Bytes → Bytes} (writes : WritesNumeral value write) :
    ∃ text, Numeral value text ∧
      ∀ stream : Stream, { stream with buf := write stream.buf } = stream.append text := by
  obtain ⟨text, appended, numeral⟩ := writes
  refine ⟨text, numeral, fun stream => ?_⟩
  rw [appended]
  rfl

def WritesUnsigned {width : Nat} (write : Stream → BitVec width → Stream) : Prop :=
  ∀ val, ∃ text, Numeral val.toNat text ∧ ∀ stream, write stream val = stream.append text

theorem writesUnsigned_writeUint8 : WritesUnsigned Stream.writeUint8 := fun val =>
  (writesNumeral_first (by omega)).stream

theorem writesUnsigned_writeUint16 : WritesUnsigned Stream.writeUint16 := fun val =>
  (writesNumeral_appendUint16 val.isLt).stream

theorem writesUnsigned_writeUint32 : WritesUnsigned Stream.writeUint32 := fun val =>
  (writesNumeral_appendUint32 val.isLt).stream

theorem writesUnsigned_writeUint64 : WritesUnsigned Stream.writeUint64 := fun val =>
  (writesNumeral_appendUint64 val.isLt).stream

def WritesNumber (write : Stream → Stream) : Prop :=
  ∃ text, IsNumber text ∧ ∀ stream, write stream = stream.append text

variable {width : Nat} {write : Stream → BitVec width → Stream}

theorem WritesUnsigned.number (writes : WritesUnsigned write) (val : BitVec width) :
    WritesNumber fun stream => write stream val := by
  obtain ⟨text, numeral, appended⟩ := writes val
  exact ⟨text, numeral.isNumber, appended⟩

def WritesSigned {width : Nat} (write : Stream → BitVec width → Stream) : Prop :=
  ∀ nval, ∃ text, Numeral nval.toInt.natAbs text ∧ ∀ stream,
    write stream nval = stream.append (if nval.toInt < 0 then 45 :: text else text)

theorem toNat_neg_of_negative {nval : BitVec width} (negative : nval.toInt < 0) :
    (-nval).toNat = nval.toInt.natAbs := by
  have small := nval.isLt
  rw [BitVec.toInt_eq_toNat_cond] at negative ⊢
  rw [BitVec.toNat_neg]
  split_ifs at negative ⊢ with half
  · omega
  · have whole : ((2 ^ width : Nat) : Int) = 2 ^ width := by push_cast; rfl
    rw [Nat.mod_eq_of_lt (by omega)]
    omega

theorem WritesUnsigned.writesSigned (writes : WritesUnsigned write) :
    WritesSigned (Stream.writeSigned write) := by
  intro nval
  unfold Stream.writeSigned
  split_ifs with negative
  · obtain ⟨text, numeral, appended⟩ := writes (-nval)
    refine ⟨text, toNat_neg_of_negative negative ▸ numeral, fun stream => ?_⟩
    rw [appended, Stream.append_append]
    rfl
  · obtain ⟨text, numeral, appended⟩ := writes nval
    have magnitude : nval.toInt.natAbs = nval.toNat := by
      rw [BitVec.toInt_eq_toNat_cond] at negative ⊢
      split_ifs at negative ⊢ <;> omega
    exact ⟨text, magnitude ▸ numeral, appended⟩

/-- Every integer writer appends the decimal numeral of its value. -/
theorem integers_written :
    (WritesUnsigned Stream.writeUint8 ∧ WritesUnsigned Stream.writeUint16 ∧
      WritesUnsigned Stream.writeUint32 ∧ WritesUnsigned Stream.writeUint64) ∧
    WritesSigned Stream.writeInt8 ∧ WritesSigned Stream.writeInt16 ∧
      WritesSigned Stream.writeInt32 ∧ WritesSigned Stream.writeInt64 :=
  ⟨⟨writesUnsigned_writeUint8, writesUnsigned_writeUint16, writesUnsigned_writeUint32,
      writesUnsigned_writeUint64⟩,
    writesUnsigned_writeUint8.writesSigned, writesUnsigned_writeUint16.writesSigned,
    writesUnsigned_writeUint32.writesSigned, writesUnsigned_writeUint64.writesSigned⟩

theorem WritesUnsigned.signed (writes : WritesUnsigned write) (nval : BitVec width) :
    WritesNumber fun stream => stream.writeSigned write nval := by
  obtain ⟨text, numeral, appended⟩ := writes.writesSigned nval
  split_ifs at appended
  · exact ⟨_, numeral.isNumber_neg, appended⟩
  · exact ⟨_, numeral.isNumber, appended⟩

theorem writeInt_eq (small : val < 2 ^ 63) :
    ∃ text, Numeral val text ∧ ∀ stream : Stream, stream.writeInt val = stream.append text := by
  have value : (BitVec.ofNat 64 val).toNat = val := by
    rw [BitVec.toNat_ofNat]
    omega
  have pos : ¬ (BitVec.ofNat 64 val).toInt < 0 := by
    rw [BitVec.toInt_eq_toNat_cond, value]
    split_ifs <;> omega
  obtain ⟨text, numeral, appended⟩ := writesUnsigned_writeUint64 (BitVec.ofNat 64 val)
  rw [value] at numeral
  refine ⟨text, numeral, fun stream => ?_⟩
  rw [Stream.writeInt, Stream.writeInt64, Stream.writeSigned, if_neg pos]
  exact appended stream

def escape (c : UInt8) : Bytes :=
  if c = 92 ∨ c = 34 then [92, c]
  else if c = 10 then [92, 110]
  else if c = 13 then [92, 114]
  else if c = 9 then [92, 116]
  else [92, 117, 48, 48, hex (c >>> 4), hex (c &&& 15)]

def escaped (c : UInt8) : Bytes := if safeSet c then [c] else escape c

theorem escaped_table : ∀ c : UInt8, (safeSet c = true ↔ c > 31 ∧ c ≠ 34 ∧ c ≠ 92) ∧
    (safeSet c = false → c < 128 ∧ (¬ (c = 92 ∨ c = 34) → c.toNat < 32)) ∧
    (128 ≤ c.toNat → escaped c = [c]) ∧ ∀ byte ∈ escaped c, 32 ≤ byte :=
  forall_byte (by decide +kernel)

variable {c : UInt8}

theorem safeSet_iff : safeSet c = true ↔ c > 31 ∧ c ≠ 34 ∧ c ≠ 92 :=
  (escaped_table c).1

theorem not_safeSet_iff : safeSet c = false ↔ ¬ (c > 31 ∧ c ≠ 34 ∧ c ≠ 92) := by
  rw [← safeSet_iff, Bool.not_eq_true]

theorem lt_of_not_safeSet (escapes : safeSet c = false) : c < 128 :=
  ((escaped_table c).2.1 escapes).1

variable (stream : Stream)

theorem writeEscaped_eq (c : UInt8) : stream.writeEscaped c = stream.append (escape c) := by
  unfold Stream.writeEscaped escape
  split_ifs
  · rfl
  · rfl
  · rfl
  · rfl
  · rw [Stream.writeRaw, Stream.append_append]
    rfl

theorem writeStringByte_eq (c : UInt8) : stream.writeStringByte c = stream.append (escaped c) := by
  unfold Stream.writeStringByte escaped
  cases isSafe : safeSet c with
  | true => rw [if_pos (safeSet_iff.mp isSafe), if_pos rfl]
  | false =>
    rw [if_neg (not_safeSet_iff.mp isSafe), if_pos (lt_of_not_safeSet isSafe),
      if_neg Bool.false_ne_true, if_neg Bool.false_ne_true]
    exact writeEscaped_eq stream c

theorem foldl_writeStringByte (bytes : Bytes) (stream : Stream) :
    bytes.foldl Stream.writeStringByte stream = stream.append (bytes.flatMap escaped) := by
  induction bytes generalizing stream with
  | nil => rw [foldl_nil, flatMap_nil, Stream.append_nil]
  | cons byte bytes ih =>
    rw [foldl_cons, ih, writeStringByte_eq, Stream.append_append, flatMap_cons]

variable (s : Bytes)

theorem writeStringSlowPath_eq (pending : Bytes) (stream : Stream) :
    stream.writeStringSlowPath pending s =
      stream.append (pending ++ (s.flatMap escaped ++ [34])) := by
  induction s generalizing pending stream with
  | nil => simp [Stream.writeStringSlowPath, Stream.writeRaw, Stream.addByte]
  | cons b s ih =>
    have kept : stream.writeStringSlowPath (pending ++ [b]) s =
        stream.append (pending ++ ([b] ++ s.flatMap escaped ++ [34])) := by
      rw [ih]
      simp
    rw [Stream.writeStringSlowPath, flatMap_cons, escaped]
    cases isSafe : safeSet b with
    | true =>
      rw [if_pos rfl, if_pos rfl, ite_self]
      exact kept
    | false =>
      rw [if_neg Bool.false_ne_true, if_neg Bool.false_ne_true,
        if_pos (lt_of_not_safeSet isSafe), ih, writeEscaped_eq]
      simp [Stream.writeRaw]

theorem writeStringFastPath_eq (stream : Stream) :
    stream.writeStringFastPath s = stream.append (s.flatMap escaped ++ [34]) := by
  induction s generalizing stream with
  | nil => rfl
  | cons c s ih =>
    rw [Stream.writeStringFastPath]
    split_ifs with safe
    · rw [ih, Stream.append_append, flatMap_cons, escaped,
        if_pos (safeSet_iff.mpr safe), append_assoc]
    · exact writeStringSlowPath_eq (c :: s) [] stream

theorem writeString_eq : stream.writeString s = stream.append (quoted (s.flatMap escaped)) := by
  rw [Stream.writeString, writeStringFastPath_eq, Stream.append_append]
  rfl

theorem writeObjectField_eq (field : Bytes) :
    stream.writeObjectField field = stream.append (quoted (field.flatMap escaped) ++ [58]) := by
  rw [Stream.writeObjectField, writeString_eq, Stream.addByte, Stream.append_append]

def runeChar (r : Nat) : Char := if h : r.isValidChar then Char.ofNatAux r h else replacement

theorem runeChar_of_valid {r : Nat} (valid : r.isValidChar) : (runeChar r).toNat = r := by
  rw [runeChar, dif_pos valid]
  rfl

theorem escaped_of_high (high : 128 ≤ c.toNat) : escaped c = [c] :=
  (escaped_table c).2.2.1 high

variable {bytes : Bytes}

theorem flatMap_escaped_of_high (high : ∀ c ∈ bytes, 128 ≤ c.toNat) :
    bytes.flatMap escaped = bytes := by
  induction bytes with
  | nil => rfl
  | cons c bytes ih =>
    have first := high c mem_cons_self
    have others := ih fun c mem => high c (mem_cons_of_mem _ mem)
    rw [flatMap_cons, escaped_of_high first, others]
    rfl

theorem utf8EncodeChar_of_ascii {c : Char} (small : c.toNat < 128) :
    String.utf8EncodeChar c = [UInt8.ofNat c.toNat] := by
  unfold String.utf8EncodeChar
  exact if_pos (show c.toNat ≤ 127 by omega)

theorem high_of_utf8EncodeChar {c : Char} (large : 128 ≤ c.toNat) :
    ∀ byte ∈ String.utf8EncodeChar c, 128 ≤ byte.toNat := by
  have notAscii : ¬ c.val.toNat ≤ 127 := by
    show ¬ c.toNat ≤ 127
    omega
  unfold String.utf8EncodeChar
  dsimp only
  rw [if_neg notAscii]
  split_ifs
  all_goals
    intro byte mem
    simp only [mem_cons, not_mem_nil, or_false] at mem
  · rcases mem with rfl | rfl <;> rw [UInt8.toNat_ofNat'] <;> omega
  · rcases mem with rfl | rfl | rfl <;> rw [UInt8.toNat_ofNat'] <;> omega
  · rcases mem with rfl | rfl | rfl | rfl <;> rw [UInt8.toNat_ofNat'] <;> omega

theorem hexQuad_hex : ∀ n < 32,
    hexQuad 48 48 (hex (UInt8.ofNat n >>> 4)) (hex (UInt8.ofNat n &&& 15)) = some n := by
  decide

theorem utf16EncodeChar_of_ascii {c : Char} (small : c.toNat < 128) :
    utf16EncodeChar c = [c.toNat] :=
  if_pos (by omega)

theorem control_of_escape (escapes : safeSet c = false) (quote : ¬ (c = 92 ∨ c = 34)) :
    c.toNat < 32 :=
  ((escaped_table c).2.1 escapes).2 quote

theorem stringItem_escape {n : Nat} (small : n < 128) (escapes : safeSet (UInt8.ofNat n) = false) :
    StringItem [n] (escape (UInt8.ofNat n)) := by
  have value : (UInt8.ofNat n).toNat = n := by
    rw [UInt8.toNat_ofNat']
    omega
  have ofByte : ∀ byte : UInt8, UInt8.ofNat n = byte → n = byte.toNat := by
    intro byte same
    rw [← same, value]
  unfold escape
  split_ifs with quote newline return_ tab
  · rcases quote with isBackslash | isQuote
    · rw [isBackslash, ofByte _ isBackslash]
      exact .short (by decide)
    · rw [isQuote, ofByte _ isQuote]
      exact .short (by decide)
  · rw [ofByte _ newline]
    exact .short (by decide)
  · rw [ofByte _ return_]
    exact .short (by decide)
  · rw [ofByte _ tab]
    exact .short (by decide)
  · exact .unicode (hexQuad_hex n (value ▸ control_of_escape escapes quote))

theorem stringItem_escaped (c : Char) :
    StringItem (utf16EncodeChar c) ((String.utf8EncodeChar c).flatMap escaped) := by
  by_cases small : c.toNat < 128
  · have encoded := utf8EncodeChar_of_ascii small
    have value : (UInt8.ofNat c.toNat).toNat = c.toNat := by
      rw [UInt8.toNat_ofNat']
      omega
    rw [encoded, flatMap_singleton, escaped]
    cases isSafe : safeSet (UInt8.ofNat c.toNat) with
    | true =>
      obtain ⟨visible, notQuote, notBackslash⟩ := safeSet_iff.mp isSafe
      rw [if_pos rfl, ← encoded]
      refine .plain ?_ ?_ ?_
      · have above := UInt8.lt_iff_toNat_lt.mp visible
        rw [value] at above
        exact above
      · rintro rfl
        exact notQuote rfl
      · rintro rfl
        exact notBackslash rfl
    | false =>
      rw [if_neg Bool.false_ne_true, utf16EncodeChar_of_ascii small]
      exact stringItem_escape small isSafe
  · have large : 128 ≤ c.toNat := by omega
    rw [flatMap_escaped_of_high (high_of_utf8EncodeChar large)]
    refine .plain (by omega) ?_ ?_
    · rintro rfl
      exact absurd large (by decide)
    · rintro rfl
      exact absurd large (by decide)

theorem stringBody_escaped (text : List Char) :
    StringBody (utf16Encode text) ((utf8Encode text).flatMap escaped) := by
  induction text with
  | nil => exact .nil
  | cons c text ih =>
    rw [utf8Encode, flatMap_cons, flatMap_append, utf16Encode, flatMap_cons]
    exact .cons (stringItem_escaped c) ih

theorem writesText_writeString (text : List Char) :
    WritesText (.string (utf16Encode text)) (quoted ((utf8Encode text).flatMap escaped))
      fun stream => stream.writeString (utf8Encode text) :=
  ⟨(JsonText.string (stringBody_escaped text)).element, fun stream => writeString_eq stream _⟩

theorem escape_cases (c : UInt8) : (∃ letter, escape c = [92, letter] ∧ letter ≠ 117) ∨
      ∃ high low, escape c = [92, 117, 48, 48, high, low] := by
  unfold escape
  split_ifs with quote
  · refine .inl ⟨c, rfl, ?_⟩
    rintro rfl
    exact absurd quote (by decide)
  · exact .inl ⟨_, rfl, by decide⟩
  · exact .inl ⟨_, rfl, by decide⟩
  · exact .inl ⟨_, rfl, by decide⟩
  · exact .inr ⟨_, _, rfl⟩

theorem unescape_plain {plain : Bytes} (notBackslash : ∀ c ∈ plain, c ≠ 92)
    (split : plain ++ rest = bytes.flatMap escaped) :
    ∃ others, bytes = plain ++ others ∧ rest = others.flatMap escaped := by
  induction plain generalizing bytes with
  | nil => exact ⟨bytes, rfl, split⟩
  | cons c plain ih =>
    cases bytes with
    | nil => cases split
    | cons byte bytes =>
      rw [flatMap_cons, escaped] at split
      cases isSafe : safeSet byte with
      | true =>
        rw [isSafe, if_pos rfl] at split
        obtain ⟨rfl, later⟩ := List.cons.inj split
        obtain ⟨others, isBytes, isRest⟩ := ih
          (fun c mem => notBackslash c (mem_cons_of_mem _ mem)) later
        exact ⟨others, by rw [isBytes]; rfl, isRest⟩
      | false =>
        rw [isSafe, if_neg Bool.false_ne_true] at split
        have first := notBackslash c mem_cons_self
        rcases escape_cases byte with ⟨letter, isEscape, _⟩ | ⟨high, low, isEscape⟩
        · rw [isEscape] at split
          exact absurd (List.cons.inj split).1 first
        · rw [isEscape] at split
          exact absurd (List.cons.inj split).1 first

theorem unescape_backslash (split : 92 :: rest = bytes.flatMap escaped) :
    ∃ byte others, bytes = byte :: others ∧ byte < 128 ∧
      92 :: rest = escape byte ++ others.flatMap escaped := by
  cases bytes with
  | nil => cases split
  | cons byte bytes =>
    rw [flatMap_cons, escaped] at split
    cases isSafe : safeSet byte with
    | true =>
      rw [isSafe, if_pos rfl] at split
      have isBackslash := (List.cons.inj split).1
      exact absurd isBackslash.symm (safeSet_iff.mp isSafe).2.2
    | false =>
      rw [isSafe, if_neg Bool.false_ne_true] at split
      exact ⟨byte, bytes, rfl, lt_of_not_safeSet isSafe, split⟩

theorem not_backslash_of_plain {character : Char} (notBackslash : character ≠ '\\') :
    ∀ c ∈ String.utf8EncodeChar character, c ≠ 92 := by
  by_cases small : character.toNat < 128
  · rw [utf8EncodeChar_of_ascii small]
    intro c mem isBackslash
    rw [mem_singleton] at mem
    have value : c.toNat = character.toNat := by
      rw [mem, UInt8.toNat_ofNat']
      omega
    apply notBackslash
    apply Char.toNat_inj.mp
    rw [← value, isBackslash]
    rfl
  · intro c mem isBackslash
    have high := high_of_utf8EncodeChar (show 128 ≤ character.toNat by omega) c mem
    rw [isBackslash] at high
    exact absurd high (by decide)

theorem utf8Encode_ascii {byte : UInt8} (small : byte < 128) (text : List Char) :
    utf8Encode (runeChar byte.toNat :: text) = byte :: utf8Encode text := by
  have low : byte.toNat < 128 := UInt8.lt_iff_toNat_lt.mp small
  have isChar : (runeChar byte.toNat).toNat = byte.toNat := runeChar_of_valid (.inl (by omega))
  rw [utf8Encode_cons, utf8EncodeChar_of_ascii (by omega), isChar, UInt8.ofNat_toNat]
  rfl

theorem utf8_of_stringBody {units : List Nat} {body : Bytes} (isBody : StringBody units body)
    (isEscaped : body = bytes.flatMap escaped) : ∃ text, bytes = utf8Encode text := by
  -- One item of the body is one character of the text.
  induction isBody generalizing bytes with
  | nil =>
    cases bytes with
    | nil => exact ⟨[], rfl⟩
    | cons byte bytes =>
      obtain ⟨empty, _⟩ := append_eq_nil_iff.mp isEscaped.symm
      rw [escaped] at empty
      rcases escape_cases byte with ⟨letter, isEscape, _⟩ | ⟨high, low, isEscape⟩
      · split_ifs at empty
        rw [isEscape] at empty
        cases empty
      · split_ifs at empty
        rw [isEscape] at empty
        cases empty
  | cons first _ ih =>
    have afterEscape : ∀ byte others, bytes = byte :: others → byte < 128 →
        (∃ text, others = utf8Encode text) → ∃ text, bytes = utf8Encode text := by
      rintro byte others rfl small ⟨text, rfl⟩
      exact ⟨runeChar byte.toNat :: text, (utf8Encode_ascii small text).symm⟩
    cases first with
    | plain _ _ notBackslash =>
      obtain ⟨others, isBytes, isRest⟩ :=
        unescape_plain (not_backslash_of_plain notBackslash) isEscaped
      obtain ⟨text, isText⟩ := ih isRest
      exact ⟨_ :: text, by rw [isBytes, isText, utf8Encode_cons]⟩
    | short known =>
      obtain ⟨byte, others, isBytes, small, split⟩ := unescape_backslash isEscaped
      apply afterEscape byte others isBytes small
      rcases escape_cases byte with ⟨letter, isEscape, _⟩ | ⟨high, low, isEscape⟩
      · rw [isEscape] at split
        exact ih (List.cons.inj (List.cons.inj split).2).2
      · rw [isEscape] at split
        have isU := (List.cons.inj (List.cons.inj split).2).1
        rw [isU] at known
        simp [shortEscapes] at known
    | unicode _ =>
      obtain ⟨byte, others, isBytes, small, split⟩ := unescape_backslash isEscaped
      apply afterEscape byte others isBytes small
      rcases escape_cases byte with ⟨letter, isEscape, notU⟩ | ⟨high, low, isEscape⟩
      · rw [isEscape] at split
        exact absurd (List.cons.inj (List.cons.inj split).2).1.symm notU
      · rw [isEscape] at split
        have whole : [92, 117, _, _, _, _] ++ _ =
            [92, 117, 48, 48, high, low] ++ others.flatMap escaped := split
        exact ih (append_inj_right whole rfl)

theorem lead_two : ∀ n < 32, 0xc0 ||| UInt8.ofNat n = UInt8.ofNat (n % 32 + 192) := by decide

theorem lead_three : ∀ n < 16, 0xe0 ||| UInt8.ofNat n = UInt8.ofNat (n % 16 + 224) := by decide

theorem lead_four : ∀ n < 8, 0xf0 ||| UInt8.ofNat n = UInt8.ofNat (n % 8 + 240) := by decide

theorem continuation_byte (n : Nat) :
    0x80 ||| (UInt8.ofNat n &&& 0x3f) = UInt8.ofNat (n % 64 + 128) := by
  have table : ∀ n < 256, 0x80 ||| (UInt8.ofNat n &&& 0x3f) = UInt8.ofNat (n % 64 + 128) := by
    decide +kernel
  have reduced : UInt8.ofNat n = UInt8.ofNat (n % 256) := ofNat_eq_of_mod (by omega)
  have same : n % 64 = n % 256 % 64 := by omega
  rw [reduced, same]
  exact table _ (by omega)

theorem writeThree_eq {r : Nat} {c : Char} (isChar : c.toNat = r) (low : 0x800 ≤ r)
    (high : r ≤ 0xffff) (stream : Stream) : Stream.writeRuneString.writeThree stream r =
      stream.append ((String.utf8EncodeChar c).flatMap escaped) := by
  have encoded : String.utf8EncodeChar c = [UInt8.ofNat (r / 4096 % 16 + 224),
      UInt8.ofNat (r / 64 % 64 + 128), UInt8.ofNat (r % 64 + 128)] := by
    unfold String.utf8EncodeChar
    dsimp only
    rw [show c.val.toNat = r from isChar, if_neg (by omega), if_neg (by omega), if_pos high]
  rw [Stream.writeRuneString.writeThree, lead_three _ (by omega), continuation_byte,
    continuation_byte, encoded]
  simp [writeStringByte_eq]

theorem writeRuneString_eq (r : Nat) : stream.writeRuneString r =
      stream.append ((String.utf8EncodeChar (runeChar r)).flatMap escaped) := by
  unfold Stream.writeRuneString
  split_ifs with one two invalid three
  · have isChar : (runeChar r).toNat = r := runeChar_of_valid (.inl (by omega))
    rw [utf8EncodeChar_of_ascii (by omega), isChar, flatMap_singleton, writeStringByte_eq]
  · have isChar : (runeChar r).toNat = r := runeChar_of_valid (.inl (by omega))
    have encoded : String.utf8EncodeChar (runeChar r) =
        [UInt8.ofNat (r / 64 % 32 + 192), UInt8.ofNat (r % 64 + 128)] := by
      unfold String.utf8EncodeChar
      dsimp only
      rw [show (runeChar r).val.toNat = r from isChar, if_neg (by omega), if_pos (by omega)]
    rw [lead_two _ (by omega), continuation_byte, encoded]
    simp [writeStringByte_eq]
  · have isReplacement : runeChar r = replacement := by
      rw [runeChar, dif_neg]
      rintro (low | ⟨above, below⟩)
      · omega
      · omega
    have isChar : replacement.toNat = 0xfffd := by decide
    rw [isReplacement]
    exact writeThree_eq isChar (by omega) (by omega) stream
  · have valid : r.isValidChar := by
      by_cases low : r < 0xd800
      · exact .inl low
      · exact .inr ⟨by omega, by omega⟩
    exact writeThree_eq (runeChar_of_valid valid) (by omega) three stream
  · have valid : r.isValidChar := .inr ⟨by omega, by omega⟩
    have isChar : (runeChar r).toNat = r := runeChar_of_valid valid
    have encoded : String.utf8EncodeChar (runeChar r) =
        [UInt8.ofNat (r / 262144 % 8 + 240), UInt8.ofNat (r / 4096 % 64 + 128),
          UInt8.ofNat (r / 64 % 64 + 128), UInt8.ofNat (r % 64 + 128)] := by
      unfold String.utf8EncodeChar
      dsimp only
      rw [show (runeChar r).val.toNat = r from isChar, if_neg (by omega), if_neg (by omega),
        if_neg (by omega)]
    rw [lead_four _ (by omega), continuation_byte, continuation_byte, continuation_byte, encoded]
    simp [writeStringByte_eq]

/-- The bytes a body between quotes stands for; none for a control character, a
quote, or a backslash without its escape. -/
def unescape : Bytes → Option Bytes
  | [] => some []
  | 92 :: 117 :: a :: b :: c :: d :: body => do
    let unit ← hexQuad a b c d
    return String.utf8EncodeChar (runeChar unit) ++ (← unescape body)
  | 92 :: letter :: body => do
    let short ← shortEscapes.find? (·.2 = letter)
    return UInt8.ofNat short.1 :: (← unescape body)
  | c :: body => if 32 ≤ c ∧ c ≠ 34 ∧ c ≠ 92 then (unescape body).map (c :: ·) else none

theorem unescape_short {letter : UInt8} (notU : letter ≠ 117)
    (known : (shortEscapes.find? (·.2 = letter)).map (UInt8.ofNat ·.1) = some c) (body : Bytes) :
    unescape (92 :: letter :: body) = (unescape body).map (c :: ·) := by
  obtain ⟨short, found, rfl⟩ := Option.map_eq_some_iff.mp known
  rw [unescape, found]
  · cases unescape body <;> rfl
  · simp [notU]

theorem unescape_escaped (c : UInt8) (body : Bytes) :
    unescape (escaped c ++ body) = (unescape body).map (c :: ·) := by
  unfold escaped
  cases isSafe : safeSet c with
  | true =>
    obtain ⟨visible, notQuote, notBackslash⟩ := safeSet_iff.mp isSafe
    rw [if_pos rfl, singleton_append, unescape, if_pos ⟨visible, notQuote, notBackslash⟩]
    · simp [notBackslash]
    · simp [notBackslash]
  | false =>
    rw [if_neg Bool.false_ne_true, escape]
    split_ifs with quote newline return_ tab
    · rcases quote with rfl | rfl
      · exact unescape_short (by decide) (by decide) body
      · exact unescape_short (by decide) (by decide) body
    · exact unescape_short (by decide) (by rw [newline]; decide) body
    · exact unescape_short (by decide) (by rw [return_]; decide) body
    · exact unescape_short (by decide) (by rw [tab]; decide) body
    · have control := control_of_escape isSafe quote
      have unit := hexQuad_hex c.toNat control
      have isChar : (runeChar c.toNat).toNat = c.toNat := runeChar_of_valid (.inl (by omega))
      rw [UInt8.ofNat_toNat] at unit
      simp only [cons_append, nil_append, unescape, unit, Option.bind_eq_bind,
        Option.bind_some, utf8EncodeChar_of_ascii (show (runeChar c.toNat).toNat < 128 by omega),
        isChar, UInt8.ofNat_toNat]
      cases unescape body <;> rfl

theorem unescape_flatMap_escaped : unescape (s.flatMap escaped) = some s := by
  induction s with
  | nil => rfl
  | cons c s ih => rw [flatMap_cons, unescape_escaped, ih, Option.map_some]

theorem visible_escaped (c : UInt8) : ∀ byte ∈ escaped c, 32 ≤ byte :=
  (escaped_table c).2.2.2

theorem foldl_writeRuneString (runes : List Nat) (stream : Stream) :
    runes.foldl Stream.writeRuneString stream =
      stream.append ((utf8Encode (runes.map runeChar)).flatMap escaped) := by
  induction runes generalizing stream with
  | nil => exact stream.append_nil.symm
  | cons rune runes ih =>
    rw [foldl_cons, ih, writeRuneString_eq, Stream.append_append,
      map_cons, utf8Encode_cons, flatMap_append]

/-- `WriteString` is a quote, `WriteStringByte` of each byte and a quote, and its
body stands for the bytes; runes are written as their UTF-8 bytes are. -/
theorem string_writers_agree (s : Bytes) (runes : List (BitVec 32)) (stream : Stream) :
    stream.writeString s = (s.foldl Stream.writeStringByte (stream.addByte 34)).addByte 34 ∧
    (∃ body, stream.writeString s = { stream with buf := stream.buf ++ (34 :: body ++ [34]) } ∧
      unescape body = some s ∧ ∀ byte ∈ body, 32 ≤ byte) ∧
    (runes.map BitVec.toNat).foldl Stream.writeRuneString stream =
      (utf8Encode ((runes.map BitVec.toNat).map runeChar)).foldl Stream.writeStringByte stream := by
  refine ⟨?_, ⟨s.flatMap escaped, writeString_eq stream s, unescape_flatMap_escaped s, ?_⟩, ?_⟩
  · rw [writeString_eq, foldl_writeStringByte, Stream.addByte, Stream.addByte,
      Stream.append_append, Stream.append_append]
    rfl
  · intro byte member
    obtain ⟨c, -, inEscape⟩ := mem_flatMap.mp member
    exact visible_escaped c byte inEscape
  · rw [foldl_writeRuneString, foldl_writeStringByte]

end TaosAdapter.JsonBuilder
