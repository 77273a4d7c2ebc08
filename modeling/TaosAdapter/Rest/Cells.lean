import TaosAdapter.JsonBuilder.Stream
import TaosAdapter.RawBlock.Parser

/-!
Contract: `JsonWriteRawBlock` of `tools/ctools/block.go` and the writers of the
types it calls.

Owns: the reading of one cell of a raw block through its two pointers, and what
is written for it.

The block is memory without a length, as for the other readers of a block; a
read outside it is a fault. The bitmap functions of the package are copies of
the other ones.
-/

namespace TaosAdapter.Rest

open Lib Driver JsonBuilder
open RawBlock (Read load loadInt32 isVarDataType itemIsNull loadRunes)

/-- A writer of a value of `size` bytes at its row. -/
def writeRawJson (size : Nat) (write : Stream → Nat → Stream) (memory : Bytes) (builder : Stream)
    (pStart : Int) (row : Nat) : Read Stream := do
  let bits ← load memory (pStart + row * size) size
  .ok (write builder bits)

def writeRawJsonBool :=
  writeRawJson 1 fun builder bits => if bits ≠ 0 then builder.writeTrue else builder.writeFalse

def writeRawJsonTinyint := writeRawJson 1 fun builder bits => builder.writeInt8 (.ofNat 8 bits)

def writeRawJsonSmallint := writeRawJson 2 fun builder bits => builder.writeInt16 (.ofNat 16 bits)

def writeRawJsonInt := writeRawJson 4 fun builder bits => builder.writeInt32 (.ofNat 32 bits)

def writeRawJsonBigint := writeRawJson 8 fun builder bits => builder.writeInt64 (.ofNat 64 bits)

def writeRawJsonUTinyint := writeRawJson 1 fun builder bits => builder.writeUint8 (.ofNat 8 bits)

def writeRawJsonUSmallint := writeRawJson 2 fun builder bits => builder.writeUint16 (.ofNat 16 bits)

def writeRawJsonUInt := writeRawJson 4 fun builder bits => builder.writeUint32 (.ofNat 32 bits)

def writeRawJsonUBigint := writeRawJson 8 fun builder bits => builder.writeUint64 (.ofNat 64 bits)

variable (formatting : Formatting)

def writeRawJsonFloat :=
  writeRawJson 4 fun builder bits => builder.writeFloat32 formatting (.ofNat 32 bits)

def writeRawJsonDouble :=
  writeRawJson 8 fun builder bits => builder.writeFloat64 formatting (.ofNat 64 bits)

def layoutMillSecond : String := "2006-01-02T15:04:05.000Z07:00"

def layoutMicroSecond : String := "2006-01-02T15:04:05.000000Z07:00"

def layoutNanoSecond : String := "2006-01-02T15:04:05.000000000Z07:00"

/-- The text of a timestamp. The seconds and the rest of them make up the instant
again, so that nothing overflows; an unknown precision has no text. -/
def timeText (precision : Int) (ts : Int) : List Char :=
  match precision with
  | 0 => formatting.appendFormat (ts * 1000000) layoutMillSecond
  | 1 => formatting.appendFormat (ts * 1000) layoutMicroSecond
  | 2 => formatting.appendFormat ts layoutNanoSecond
  | _ => []

def writeRawJsonTime (precision : Int) :=
  writeRawJson 8 fun builder bits =>
    builder.writeString (utf8Encode (timeText formatting precision (BitVec.ofNat 64 bits).toInt))

/-- A writer of the value at an offset of the header; the offset -1 is null. -/
def writeRawJsonVar (write : Stream → Int → Nat → Read Stream) (memory : Bytes) (builder : Stream)
    (pHeader pStart : Int) (row : Nat) : Read Stream := do
  let offset ← loadInt32 memory (pHeader + row * 4)
  if offset = -1 then .ok builder.writeNil
  else
    let currentRow := pStart + offset
    let clen ← load memory currentRow 2
    write builder (currentRow + 2) clen

variable (memory : Bytes) (builder : Stream)

/-- The bytes from `currentRow` on, between quotes. -/
def writeBinaryValue (currentRow : Int) (clen : Nat) : Read Stream := do
  let bytes ← .ofRead (peek memory currentRow clen)
  .ok ((bytes.foldl Stream.writeStringByte (builder.addByte 34)).addByte 34)

def writeRawJsonBinary := writeRawJsonVar (writeBinaryValue memory) memory

/-- `strconv.FormatInt` in base 16, with a zero before a single digit. -/
def writeHexByte (b : UInt8) : Stream :=
  if b < 16 then (builder.addByte 48).writeRaw [hex b]
  else builder.writeRaw [hex (b >>> 4), hex (b &&& 15)]

def writeHexValue (currentRow : Int) (clen : Nat) : Read Stream := do
  let bytes ← .ofRead (peek memory currentRow clen)
  .ok ((bytes.foldl writeHexByte (builder.addByte 34)).addByte 34)

def writeRawJsonVarBinary := writeRawJsonVar (writeHexValue memory) memory

def writeRawJsonGeometry := writeRawJsonVarBinary

def writeNcharValue (currentRow : Int) (clen : Nat) : Read Stream := do
  let runes ← loadRunes memory currentRow (clen / 4) 0
  .ok ((runes.foldl Stream.writeRuneString (builder.addByte 34)).addByte 34)

def writeRawJsonNchar := writeRawJsonVar (writeNcharValue memory) memory

def writeJsonValue (currentRow : Int) (clen : Nat) : Read Stream := do
  let bytes ← .ofRead (peek memory currentRow clen)
  .ok (bytes.foldl Stream.addByte builder)

def writeRawJsonJson := writeRawJsonVar (writeJsonValue memory) memory

def writeRawJsonVarData (colType : Nat) (pHeader pStart : Int) (row : Nat) : Read Stream :=
  match colType with
  | 8 => writeRawJsonBinary memory builder pHeader pStart row
  | 10 => writeRawJsonNchar memory builder pHeader pStart row
  | 15 => writeRawJsonJson memory builder pHeader pStart row
  | 16 => writeRawJsonVarBinary memory builder pHeader pStart row
  | 20 => writeRawJsonGeometry memory builder pHeader pStart row
  | _ => .ok builder

/-- A type that is none of the cases writes nothing. -/
def writeRawJsonFixed (precision : Int) (memory : Bytes) (builder : Stream) (colType : Nat)
    (pStart : Int) (row : Nat) : Read Stream :=
  match colType with
  | 1 => writeRawJsonBool memory builder pStart row
  | 2 => writeRawJsonTinyint memory builder pStart row
  | 3 => writeRawJsonSmallint memory builder pStart row
  | 4 => writeRawJsonInt memory builder pStart row
  | 5 => writeRawJsonBigint memory builder pStart row
  | 11 => writeRawJsonUTinyint memory builder pStart row
  | 12 => writeRawJsonUSmallint memory builder pStart row
  | 13 => writeRawJsonUInt memory builder pStart row
  | 14 => writeRawJsonUBigint memory builder pStart row
  | 6 => writeRawJsonFloat formatting memory builder pStart row
  | 7 => writeRawJsonDouble formatting memory builder pStart row
  | 9 => writeRawJsonTime formatting precision memory builder pStart row
  | _ => .ok builder

def jsonWriteRawBlock (precision : Int) (memory : Bytes) (builder : Stream) (colType : Nat)
    (pHeader pStart : Int) (row : Nat) : Read Stream :=
  if isVarDataType colType then
    writeRawJsonVarData memory builder colType pHeader pStart row
  else do
    if ← itemIsNull memory pHeader row then .ok builder.writeNil
    else writeRawJsonFixed formatting precision memory builder colType pStart row

end TaosAdapter.Rest
