import TaosAdapter.Lib.Bytes

/-!
Contract: base64 with the standard alphabet and padding.

Owns: the encoding of bytes in quanta of four characters, the decoder, which
passes over CR and LF, and that a text that was encoded is decoded.
-/

namespace TaosAdapter.Lib

open List Option

/-- The character of six bits. -/
def base64Char (sextet : Nat) : UInt8 :=
  if sextet < 26 then UInt8.ofNat (65 + sextet)
  else if sextet < 52 then UInt8.ofNat (71 + sextet)
  else if sextet < 62 then UInt8.ofNat (sextet - 4)
  else if sextet = 62 then 43
  else 47

/-- The six bits of a character. -/
def base64Value (char : UInt8) : Option Nat :=
  let code := char.toNat
  if 65 ≤ code ∧ code ≤ 90 then some (code - 65)
  else if 97 ≤ code ∧ code ≤ 122 then some (code - 71)
  else if 48 ≤ code ∧ code ≤ 57 then some (code + 4)
  else if code = 43 then some 62
  else if code = 47 then some 63
  else none

/-- The character that fills a last quantum. -/
def base64Pad : UInt8 := 61

/-- A character of the alphabet or the padding. -/
def IsBase64 (char : UInt8) : Prop := (base64Value char).isSome = true ∨ char = base64Pad

variable {sextet : Nat}

theorem base64Value_base64Char (small : sextet < 64) :
    base64Value (base64Char sextet) = some sextet := by
  have all : ∀ sextet : Fin 64, base64Value (base64Char sextet) = some sextet.val := by decide
  exact all ⟨sextet, small⟩

theorem base64Char_ne_pad (small : sextet < 64) : base64Char sextet ≠ base64Pad := by
  intro same
  have value := base64Value_base64Char small
  rw [same] at value
  cases value

theorem isBase64_base64Char (small : sextet < 64) : IsBase64 (base64Char sextet) := by
  left
  rw [base64Value_base64Char small]
  rfl

def base64Encode : Bytes → Bytes
  | a :: b :: c :: rest =>
    base64Char (a.toNat / 4) :: base64Char (a.toNat % 4 * 16 + b.toNat / 16) ::
      base64Char (b.toNat % 16 * 4 + c.toNat / 64) :: base64Char (c.toNat % 64) ::
        base64Encode rest
  | [a, b] =>
    [base64Char (a.toNat / 4), base64Char (a.toNat % 4 * 16 + b.toNat / 16),
      base64Char (b.toNat % 16 * 4), base64Pad]
  | [a] => [base64Char (a.toNat / 4), base64Char (a.toNat % 4 * 16), base64Pad, base64Pad]
  | [] => []

/-- The bits a quantum of two characters has too many are not looked at. -/
def base64Quanta : Bytes → Option Bytes
  | [] => some []
  | a :: b :: c :: d :: rest => do
      let w ← base64Value a
      let x ← base64Value b
      if c = base64Pad then
        if d = base64Pad ∧ rest = [] then some [UInt8.ofNat (w * 4 + x / 16)] else none
      else
        let y ← base64Value c
        if d = base64Pad then
          if rest = [] then
            some [UInt8.ofNat (w * 4 + x / 16), UInt8.ofNat (x % 16 * 16 + y / 4)]
          else none
        else
          let z ← base64Value d
          let tail ← base64Quanta rest
          some (UInt8.ofNat (w * 4 + x / 16) :: UInt8.ofNat (x % 16 * 16 + y / 4) ::
            UInt8.ofNat (y % 4 * 64 + z) :: tail)
  | _ => none

def base64Decode (text : Bytes) : Option Bytes :=
  base64Quanta (text.filter fun char => char ≠ 13 && char ≠ 10)

theorem isBase64_of_mem_base64Encode {bytes : Bytes} {char : UInt8}
    (mem : char ∈ base64Encode bytes) : IsBase64 char := by
  induction bytes using base64Encode.induct with
  | case1 a b c rest ih =>
    have := a.toNat_lt
    have := b.toNat_lt
    have := c.toNat_lt
    simp only [base64Encode, mem_cons] at mem
    rcases mem with rfl | rfl | rfl | rfl | mem
    · exact isBase64_base64Char (by omega)
    · exact isBase64_base64Char (by omega)
    · exact isBase64_base64Char (by omega)
    · exact isBase64_base64Char (by omega)
    · exact ih mem
  | case2 a b =>
    have := a.toNat_lt
    have := b.toNat_lt
    simp only [base64Encode, mem_cons, not_mem_nil, or_false] at mem
    rcases mem with rfl | rfl | rfl | rfl
    · exact isBase64_base64Char (by omega)
    · exact isBase64_base64Char (by omega)
    · exact isBase64_base64Char (by omega)
    · exact .inr rfl
  | case3 a =>
    have := a.toNat_lt
    simp only [base64Encode, mem_cons, not_mem_nil, or_false] at mem
    rcases mem with rfl | rfl | rfl | rfl
    · exact isBase64_base64Char (by omega)
    · exact isBase64_base64Char (by omega)
    · exact .inr rfl
    · exact .inr rfl
  | case4 => cases mem

theorem ofNat_eq_of_toNat_eq (byte : UInt8) {value : Nat} (same : value = byte.toNat) :
    UInt8.ofNat value = byte := by
  rw [same, UInt8.ofNat_toNat]

theorem base64Quanta_base64Encode (bytes : Bytes) :
    base64Quanta (base64Encode bytes) = some bytes := by
  induction bytes using base64Encode.induct with
  | case1 a b c rest ih =>
    have smallA := a.toNat_lt
    have smallB := b.toNat_lt
    have smallC := c.toNat_lt
    rw [base64Encode, base64Quanta, base64Value_base64Char (by omega),
      base64Value_base64Char (by omega), base64Value_base64Char (by omega),
      base64Value_base64Char (by omega), ih]
    simp only [bind_eq_bind, bind_some]
    rw [if_neg (base64Char_ne_pad (by omega)), if_neg (base64Char_ne_pad (by omega)),
      ofNat_eq_of_toNat_eq a (by omega), ofNat_eq_of_toNat_eq b (by omega),
      ofNat_eq_of_toNat_eq c (by omega)]
  | case2 a b =>
    have smallA := a.toNat_lt
    have smallB := b.toNat_lt
    rw [base64Encode, base64Quanta, base64Value_base64Char (by omega),
      base64Value_base64Char (by omega), base64Value_base64Char (by omega)]
    simp only [bind_eq_bind, bind_some]
    rw [if_neg (base64Char_ne_pad (by omega)), if_pos trivial, if_pos trivial,
      ofNat_eq_of_toNat_eq a (by omega), ofNat_eq_of_toNat_eq b (by omega)]
  | case3 a =>
    have smallA := a.toNat_lt
    rw [base64Encode, base64Quanta, base64Value_base64Char (by omega),
      base64Value_base64Char (by omega)]
    simp only [bind_eq_bind, bind_some]
    rw [if_pos trivial, if_pos ⟨trivial, trivial⟩, ofNat_eq_of_toNat_eq a (by omega)]
  | case4 => rfl

theorem base64Decode_base64Encode (bytes : Bytes) :
    base64Decode (base64Encode bytes) = some bytes := by
  have noLineBreak : ∀ char, IsBase64 char → char ≠ 13 ∧ char ≠ 10 := by
    rintro char isChar
    constructor
    · rintro rfl
      exact absurd isChar (by unfold IsBase64; decide)
    · rintro rfl
      exact absurd isChar (by unfold IsBase64; decide)
  rw [base64Decode, filter_eq_self.mpr]
  · exact base64Quanta_base64Encode bytes
  · intro char mem
    have apart := noLineBreak char (isBase64_of_mem_base64Encode mem)
    simp [apart.1, apart.2]

end TaosAdapter.Lib
