import TaosAdapter.Driver.Value
import TaosAdapter.Lib.Json

/-!
Contract: the stream of `tools/jsonbuilder` with the writers of `stream.go`,
`stream_int.go`, `stream_float.go`, `stream_str.go` and `stream_rune.go`.

Owns: the buffer, the error that stays until the stream is returned, and the
bytes the client was sent.
-/

namespace TaosAdapter.JsonBuilder

open Lib Driver

structure Stream where
  /-- What was written to the client. -/
  out : Bytes
  buf : Bytes
  error : Option String
deriving DecidableEq

def Stream.empty : Stream := ⟨[], [], none⟩

namespace Stream

variable (stream : Stream)

def append (bytes : Bytes) : Stream :=
  { stream with buf := stream.buf ++ bytes }

@[simp] theorem append_append (first second : Bytes) :
    (stream.append first).append second = stream.append (first ++ second) := by
  simp [append]

@[simp] theorem append_nil : stream.append [] = stream := by
  simp [append]

def writePure (p : Bytes) : Stream := stream.append p

def writeRaw (s : Bytes) : Stream := stream.append s

def addByte (c : UInt8) : Stream := stream.append [c]

def buffered : Nat := stream.buf.length

/-- The error of an earlier writer keeps everything in the buffer. -/
def flush : Except String Stream :=
  match stream.error with
  | some reason => .error reason
  | none => .ok { stream with out := stream.out ++ stream.buf, buf := [] }

def writeNil : Stream := stream.append [110, 117, 108, 108]

def writeTrue : Stream := stream.append [116, 114, 117, 101]

def writeFalse : Stream := stream.append [102, 97, 108, 115, 101]

def writeObjectStart : Stream := stream.append [123]

def writeObjectEnd : Stream := stream.append [125]

def writeMore : Stream := stream.append [44]

def writeArrayStart : Stream := stream.append [91]

def writeArrayEnd : Stream := stream.append [93]

end Stream

/-- `digits[i]`: three digits, and above them how many leading zeros there are. -/
def digits (i : Nat) : Nat :=
  (i / 100 + 48) * 2 ^ 16 + (i / 10 % 10 + 48) * 2 ^ 8 + (i % 10 + 48) +
    (if i < 10 then 2 * 2 ^ 24 else if i < 100 then 2 ^ 24 else 0)

def writeFirstBuf (space : Bytes) (v : Nat) : Bytes :=
  let start := v / 2 ^ 24
  let space :=
    if start = 0 then space ++ [UInt8.ofNat (v / 2 ^ 16), UInt8.ofNat (v / 2 ^ 8)]
    else if start = 1 then space ++ [UInt8.ofNat (v / 2 ^ 8)]
    else space
  space ++ [UInt8.ofNat v]

def writeBuf (buf : Bytes) (v : Nat) : Bytes :=
  buf ++ [UInt8.ofNat (v / 2 ^ 16), UInt8.ofNat (v / 2 ^ 8), UInt8.ofNat v]

def appendUint16 (buf : Bytes) (val : Nat) : Bytes :=
  let q1 := val / 1000
  if q1 = 0 then writeFirstBuf buf (digits val)
  else
    let r1 := val - q1 * 1000
    writeBuf (writeFirstBuf buf (digits q1)) (digits r1)

def appendUint32 (buf : Bytes) (val : Nat) : Bytes :=
  let q1 := val / 1000
  if q1 = 0 then writeFirstBuf buf (digits val)
  else
    let r1 := val - q1 * 1000
    let q2 := q1 / 1000
    if q2 = 0 then writeBuf (writeFirstBuf buf (digits q1)) (digits r1)
    else
      let r2 := q1 - q2 * 1000
      let q3 := q2 / 1000
      let buf :=
        if q3 = 0 then writeFirstBuf buf (digits q2)
        else
          let r3 := q2 - q3 * 1000
          writeBuf (buf ++ [UInt8.ofNat (q3 + 48)]) (digits r3)
      writeBuf (writeBuf buf (digits r2)) (digits r1)

def appendUint64 (buf : Bytes) (val : Nat) : Bytes :=
  let q1 := val / 1000
  if q1 = 0 then writeFirstBuf buf (digits val)
  else
    let r1 := val - q1 * 1000
    let q2 := q1 / 1000
    if q2 = 0 then writeBuf (writeFirstBuf buf (digits q1)) (digits r1)
    else
      let r2 := q1 - q2 * 1000
      let q3 := q2 / 1000
      if q3 = 0 then
        writeBuf (writeBuf (writeFirstBuf buf (digits q2)) (digits r2)) (digits r1)
      else
        let r3 := q2 - q3 * 1000
        let q4 := q3 / 1000
        if q4 = 0 then
          writeBuf (writeBuf (writeBuf (writeFirstBuf buf (digits q3)) (digits r3)) (digits r2))
            (digits r1)
        else
          let r4 := q3 - q4 * 1000
          let q5 := q4 / 1000
          if q5 = 0 then
            writeBuf (writeBuf (writeBuf (writeBuf (writeFirstBuf buf (digits q4)) (digits r4))
              (digits r3)) (digits r2)) (digits r1)
          else
            let r5 := q4 - q5 * 1000
            let q6 := q5 / 1000
            let buf :=
              if q6 = 0 then writeFirstBuf buf (digits q5)
              else
                let r6 := q5 - q6 * 1000
                writeBuf (writeFirstBuf buf (digits q6)) (digits r6)
            writeBuf (writeBuf (writeBuf (writeBuf (writeBuf buf (digits r5)) (digits r4))
              (digits r3)) (digits r2)) (digits r1)

namespace Stream

variable (stream : Stream)

def writeUint8 (val : BitVec 8) : Stream :=
  { stream with buf := writeFirstBuf stream.buf (digits val.toNat) }

def writeUint16 (val : BitVec 16) : Stream :=
  { stream with buf := appendUint16 stream.buf val.toNat }

def writeUint32 (val : BitVec 32) : Stream :=
  { stream with buf := appendUint32 stream.buf val.toNat }

def writeUint64 (val : BitVec 64) : Stream :=
  { stream with buf := appendUint64 stream.buf val.toNat }

/-- A sign, and the magnitude in the same width. -/
def writeSigned {width : Nat} (write : Stream → BitVec width → Stream) (stream : Stream)
    (nval : BitVec width) : Stream :=
  if nval.toInt < 0 then write (stream.append [45]) (-nval) else write stream nval

def writeInt8 : Stream → BitVec 8 → Stream := writeSigned writeUint8

def writeInt16 : Stream → BitVec 16 → Stream := writeSigned writeUint16

def writeInt32 : Stream → BitVec 32 → Stream := writeSigned writeUint32

def writeInt64 : Stream → BitVec 64 → Stream := writeSigned writeUint64

/-- `WriteInt` of a number that is not negative. -/
def writeInt (val : Nat) : Stream := stream.writeInt64 (BitVec.ofNat 64 val)

end Stream

/-- Neither an infinity nor a NaN: the exponent is not all ones. -/
def Finite32 (bits : BitVec 32) : Prop := bits.toNat / 2 ^ 23 % 2 ^ 8 ≠ 2 ^ 8 - 1

def Finite64 (bits : BitVec 64) : Prop := bits.toNat / 2 ^ 52 % 2 ^ 11 ≠ 2 ^ 11 - 1

instance (bits : BitVec 32) : Decidable (Finite32 bits) :=
  inferInstanceAs (Decidable (_ ≠ _))

instance (bits : BitVec 64) : Decidable (Finite64 bits) :=
  inferInstanceAs (Decidable (_ ≠ _))

/-- `strconv.AppendFloat` with the shortest precision and `AppendFormat` of a
time in the location of the request. The formats `e` and `f` write a finite
number as a number. -/
structure Formatting where
  appendFloat32 : BitVec 32 → UInt8 → Bytes
  appendFloat64 : BitVec 64 → UInt8 → Bytes
  appendFormat : Time → String → List Char
  isNumber32 : ∀ bits fmt, fmt = 101 ∨ fmt = 102 → Finite32 bits →
    IsNumber (appendFloat32 bits fmt)
  isNumber64 : ∀ bits fmt, fmt = 101 ∨ fmt = 102 → Finite64 bits →
    IsNumber (appendFloat64 bits fmt)

def formatNotFinite (negative nan : Bool) : String :=
  if nan then "NaN" else if negative then "-Inf" else "+Inf"

def unsupportedValue (negative nan : Bool) : String :=
  "unsupported value: " ++ formatNotFinite negative nan

/-- The exponent is used for magnitudes, without the sign, below 1e-6 and from
1e21 on; the bounds are given by their bits, which are ordered as the magnitudes
are. -/
def floatFormat (magnitude small large : Nat) : UInt8 :=
  if magnitude ≠ 0 ∧ (magnitude < small ∨ large ≤ magnitude) then 101 else 102

namespace Stream

def writeFloat32 (formatting : Formatting) (stream : Stream) (val : BitVec 32) : Stream :=
  if Finite32 val then
    let fmt := floatFormat (val.toNat % 2 ^ 31) 0x358637bd 0x6258d727
    stream.append (formatting.appendFloat32 val fmt)
  else
    { stream with error := some (unsupportedValue val.msb (val.toNat % 2 ^ 23 != 0)) }

def writeFloat64 (formatting : Formatting) (stream : Stream) (val : BitVec 64) : Stream :=
  if Finite64 val then
    let fmt := floatFormat (val.toNat % 2 ^ 63) 0x3eb0c6f7a0b5ed8d 0x444b1ae4d6e2ef50
    stream.append (formatting.appendFloat64 val fmt)
  else
    { stream with error := some (unsupportedValue val.msb (val.toNat % 2 ^ 52 != 0)) }

end Stream

def safeSet (b : UInt8) : Bool := 32 ≤ b && b != 34 && b != 92

def hex (n : UInt8) : UInt8 := if n < 10 then n + 48 else n + 87

namespace Stream

variable (stream : Stream)

def writeEscaped (c : UInt8) : Stream :=
  if c = 92 ∨ c = 34 then stream.append [92, c]
  else if c = 10 then stream.append [92, 110]
  else if c = 13 then stream.append [92, 114]
  else if c = 9 then stream.append [92, 116]
  else (stream.writeRaw [92, 117, 48, 48]).append [hex (c >>> 4), hex (c &&& 15)]

def writeStringByte (c : UInt8) : Stream :=
  if c > 31 ∧ c ≠ 34 ∧ c ≠ 92 then stream.append [c]
  else if c < 128 then
    if safeSet c then stream.addByte c else stream.writeEscaped c
  else stream

/-- `pending` is what stands between `start` and `i`. -/
def writeStringSlowPath (stream : Stream) (pending : Bytes) : Bytes → Stream
  | [] => (stream.writeRaw pending).addByte 34
  | b :: s =>
    if b < 128 then
      if safeSet b then writeStringSlowPath stream (pending ++ [b]) s
      else writeStringSlowPath ((stream.writeRaw pending).writeEscaped b) [] s
    else writeStringSlowPath stream (pending ++ [b]) s

/-- The fast path, up to the first byte to escape. -/
def writeStringFastPath (stream : Stream) : Bytes → Stream
  | [] => stream.append [34]
  | c :: s =>
    if c > 31 ∧ c ≠ 34 ∧ c ≠ 92 then writeStringFastPath (stream.append [c]) s
    else stream.writeStringSlowPath [] (c :: s)

def writeString (s : Bytes) : Stream :=
  (stream.append [34]).writeStringFastPath s

def writeObjectField (field : Bytes) : Stream :=
  (stream.writeString field).addByte 58

/-- The bytes of a rune are the low ones of its shifts. -/
def writeRuneString (r : Nat) : Stream :=
  if r ≤ 0x7f then stream.writeStringByte (UInt8.ofNat r)
  else if r ≤ 0x7ff then
    (stream.writeStringByte (0xc0 ||| UInt8.ofNat (r / 2 ^ 6))).writeStringByte
      (0x80 ||| (UInt8.ofNat r &&& 0x3f))
  else if r > 0x10ffff ∨ (0xd800 ≤ r ∧ r ≤ 0xdfff) then
    writeThree stream 0xfffd
  else if r ≤ 0xffff then writeThree stream r
  else
    (((stream.writeStringByte (0xf0 ||| UInt8.ofNat (r / 2 ^ 18))).writeStringByte
      (0x80 ||| (UInt8.ofNat (r / 2 ^ 12) &&& 0x3f))).writeStringByte
        (0x80 ||| (UInt8.ofNat (r / 2 ^ 6) &&& 0x3f))).writeStringByte
          (0x80 ||| (UInt8.ofNat r &&& 0x3f))
where
  /-- The case of three bytes, which the replacement falls through to. -/
  writeThree (stream : Stream) (r : Nat) : Stream :=
    ((stream.writeStringByte (0xe0 ||| UInt8.ofNat (r / 2 ^ 12))).writeStringByte
      (0x80 ||| (UInt8.ofNat (r / 2 ^ 6) &&& 0x3f))).writeStringByte
        (0x80 ||| (UInt8.ofNat r &&& 0x3f))

end Stream

end TaosAdapter.JsonBuilder
