import TaosAdapter.Lib.Bytes

/-!
Owns: UTF-8 texts as byte strings and their characters. Decoding takes any
bytes: what is not the start of an encoded character is replaced, one byte at a
time, by U+FFFD. Decoding is the inverse of encoding.
-/

namespace TaosAdapter.Lib

open List

def utf8Encode (characters : List Char) : Bytes :=
  characters.flatMap String.utf8EncodeChar

theorem utf8Encode_cons (character : Char) (characters : List Char) :
    utf8Encode (character :: characters) =
      String.utf8EncodeChar character ++ utf8Encode characters :=
  flatMap_cons

def replacement : Char := Char.ofNat 0xfffd

/-- The characters of a text whose first `skip` bytes belong to a character that
was already read. -/
def utf8DecodeFrom : Nat → Bytes → List Char
  | _, [] => []
  | skip + 1, _ :: rest => utf8DecodeFrom skip rest
  | 0, first :: rest =>
    match (first :: rest).toByteArray.utf8DecodeChar? 0 with
    | some character => character :: utf8DecodeFrom (character.utf8Size - 1) rest
    | none => replacement :: utf8DecodeFrom 0 rest

def utf8Decode (text : Bytes) : List Char :=
  utf8DecodeFrom 0 text

theorem utf8DecodeFrom_skip (skipped rest : Bytes) :
    utf8DecodeFrom skipped.length (skipped ++ rest) = utf8DecodeFrom 0 rest := by
  induction skipped with
  | nil => rfl
  | cons byte skipped ih =>
    rw [length_cons, cons_append, utf8DecodeFrom]
    exact ih

theorem utf8Decode_encode (characters : List Char) :
    utf8Decode (utf8Encode characters) = characters := by
  induction characters with
  | nil => rfl
  | cons character characters ih =>
    have size := String.length_utf8EncodeChar character
    have pos := character.utf8Size_pos
    have decoded : (String.utf8EncodeChar character ++
        utf8Encode characters).toByteArray.utf8DecodeChar? 0 = some character := by
      rw [toByteArray_append]
      exact ByteArray.utf8DecodeChar?_utf8EncodeChar_append
    rw [utf8Decode, utf8Encode, flatMap_cons]
    rw [utf8Encode] at decoded
    -- The first byte of the character leads to the decoding, the others are skipped.
    cases encoded : String.utf8EncodeChar character with
    | nil =>
      rw [encoded] at size
      simp at size
      omega
    | cons first skipped =>
      rw [encoded, cons_append] at decoded
      rw [encoded, length_cons] at size
      have shorter : character.utf8Size - 1 = skipped.length := by omega
      simp only [cons_append, utf8DecodeFrom, decoded]
      rw [shorter, utf8DecodeFrom_skip]
      exact congrArg _ ih

end TaosAdapter.Lib
