import TaosAdapter.Rest.CellTexts
import TaosAdapter.Stmt.ParsedColumns

/-!
Owns: the hexadecimal texts of bytes, as `WriteRawJsonVarBinary` writes them and
`strToHex` reads them.
-/

namespace TaosAdapter.Rest

open Lib JsonBuilder Stmt List Outcome
open RawBlock (load loadInt32)

structure HoldsBytes (memory : Bytes) (pHeader pStart : Int) (row : Nat) (bytes : Bytes) where
  offset : Int
  header : loadInt32 memory (pHeader + row * 4) = .ok offset
  notNull : offset ≠ -1
  clen : load memory (pStart + offset) 2 = .ok bytes.length
  value : peek memory (pStart + offset + 2) bytes.length = some bytes

def lower (c : UInt8) : UInt8 := if 65 ≤ c ∧ c ≤ 90 then c + 32 else c

def IsHexText (str : Bytes) : Prop := str.length % 2 = 0 ∧ ∀ c ∈ str, (hexValue c).isSome

theorem hexValue_hexDigits (b : UInt8) : hexValue (hex (b >>> 4)) = some (b.toNat / 16) ∧
      hexValue (hex (b &&& 15)) = some (b.toNat % 16) := by
  revert b
  exact forall_byte (by decide +kernel)

variable (iter : Readers)

theorem parseUint_digits {high low : UInt8} {a b : Nat} (isHigh : hexValue high = some a)
    (isLow : hexValue low = some b) : parseUint iter high low = .ok (UInt8.ofNat (a * 16 + b)) := by
  rw [parseUint, isHigh, isLow]

theorem parseUint_not_digit {high low : UInt8}
    (other : hexValue high = none ∨ hexValue low = none) :
    ∃ msg, parseUint iter high low = .error msg := by
  unfold parseUint
  split
  next isHigh isLow => simp [isHigh, isLow] at other
  next => exact ⟨_, rfl⟩

theorem hexPairs_hexDigits (bytes : Bytes) :
    hexPairs iter (bytes.flatMap hexDigits) = .ok bytes := by
  induction bytes with
  | nil => rfl
  | cons b bytes ih =>
    obtain ⟨high, low⟩ := hexValue_hexDigits b
    rw [flatMap_cons, hexDigits, cons_append, cons_append, nil_append, hexPairs,
      parseUint_digits iter high low, ih]
    show Except.ok (UInt8.ofNat (b.toNat / 16 * 16 + b.toNat % 16) :: bytes) = _
    rw [Nat.div_add_mod', UInt8.ofNat_toNat]

theorem length_flatMap_hexDigits (bytes : Bytes) :
    (bytes.flatMap hexDigits).length = 2 * bytes.length := by
  induction bytes with
  | nil => rfl
  | cons b bytes ih =>
    rw [flatMap_cons, length_append, ih, length_cons, hexDigits]
    simp only [length_cons, length_nil]
    omega

theorem hex_of_hexValue {c : UInt8} {value : Nat} (found : hexValue c = some value) :
    value < 16 ∧ hex (UInt8.ofNat value) = lower c := by
  have table : ∀ c, ∀ value ∈ hexValue c, value < 16 ∧ hex (UInt8.ofNat value) = lower c :=
    forall_byte (by decide +kernel)
  exact table c value found

theorem hexDigits_pair : ∀ a < 16, ∀ b < 16,
    hexDigits (UInt8.ofNat (a * 16 + b)) = [hex (UInt8.ofNat a), hex (UInt8.ofNat b)] := by
  decide +kernel

variable {str : Bytes}

theorem hexPairs_of_isHexText (isHex : IsHexText str) :
    ∃ bytes, hexPairs iter str = .ok bytes ∧ bytes.flatMap hexDigits = str.map lower := by
  obtain ⟨even, digits⟩ := isHex
  fun_induction hexPairs iter str with
  | case1 high low rest inductionHypothesis =>
    simp only [length_cons] at even
    simp only [forall_mem_cons, Option.isSome_iff_exists] at digits
    obtain ⟨⟨a, isHigh⟩, ⟨b, isLow⟩, others⟩ := digits
    obtain ⟨bytes, read, text⟩ := inductionHypothesis (by omega)
      fun c mem => Option.isSome_iff_exists.mpr (others c mem)
    obtain ⟨smallHigh, hexHigh⟩ := hex_of_hexValue isHigh
    obtain ⟨smallLow, hexLow⟩ := hex_of_hexValue isLow
    refine ⟨_, by rw [parseUint_digits iter isHigh isLow, read]; rfl, ?_⟩
    rw [flatMap_cons, hexDigits_pair a smallHigh b smallLow, hexHigh, hexLow, text]
    rfl
  | case2 str short =>
    match str, short with
    | [], _ => exact ⟨[], rfl, rfl⟩
    | [_], _ => cases even
    | _ :: _ :: _, short => exact absurd rfl (short _ _ _)

theorem hexPairs_of_not_hex {c : UInt8} (mem : c ∈ str) (notDigit : hexValue c = none)
    (even : str.length % 2 = 0) : ∃ msg, hexPairs iter str = .error msg := by
  fun_induction hexPairs iter str with
  | case1 high low rest inductionHypothesis =>
    cases parsed : parseUint iter high low with
    | error msg => exact ⟨msg, rfl⟩
    | ok value =>
      have digits : ¬ (hexValue high = none ∨ hexValue low = none) := by
        intro other
        obtain ⟨msg, failed⟩ := parseUint_not_digit iter other
        rw [failed] at parsed
        cases parsed
      have later : c ∈ rest := by
        simp only [mem_cons] at mem
        rcases mem with rfl | rfl | later
        · exact absurd (.inl notDigit) digits
        · exact absurd (.inr notDigit) digits
        · exact later
      simp only [length_cons] at even
      obtain ⟨msg, failed⟩ := inductionHypothesis later (by omega)
      exact ⟨msg, by rw [failed]; rfl⟩
  | case2 str short =>
    match str, short with
    | [], _ => cases mem
    | [_], _ => cases even
    | _ :: _ :: _, short => exact absurd rfl (short _ _ _)

theorem strToHex_of_not_isHexText (notHex : ¬ IsHexText str) :
    ∃ msg, strToHex iter str = .error msg := by
  unfold strToHex
  split_ifs with odd
  · exact ⟨_, rfl⟩
  · have other : ∃ c ∈ str, hexValue c = none := by
      by_contra all
      refine notHex ⟨by omega, fun c mem => Option.isSome_iff_ne_none.mpr fun none => ?_⟩
      exact all ⟨c, mem, none⟩
    obtain ⟨c, mem, notDigit⟩ := other
    exact hexPairs_of_not_hex iter mem notDigit (by omega)

/-- A cell's text is read back; a text of odd length or with another character is
refused; and any other text is, in lower case, the text of the bytes it gives. -/
theorem hex_texts_read (iter : Readers) :
    (∀ (memory : Bytes) (pHeader pStart : Int) (row : Nat) (bytes : Bytes) (builder : Stream),
      bytes.length ≤ 65535 → HoldsBytes memory pHeader pStart row bytes → ∃ text,
        writeRawJsonVarBinary memory builder pHeader pStart row =
          .ok { builder with buf := builder.buf ++ (34 :: text ++ [34]) } ∧
        strToHex iter text = .ok bytes) ∧
    (∀ str, ¬ IsHexText str → ∃ msg, strToHex iter str = .error msg) ∧
    ∀ str, IsHexText str → ∃ bytes, strToHex iter str = .ok bytes ∧
      2 * bytes.length = str.length ∧ bytes.flatMap hexDigits = str.map lower := by
  refine ⟨?_, fun str => strToHex_of_not_isHexText iter, ?_⟩
  · intro memory pHeader pStart row bytes builder _ ⟨offset, header, notNull, clen, value⟩
    refine ⟨bytes.flatMap hexDigits, ?_, ?_⟩
    · rw [writeRawJsonVarBinary, writeRawJsonVar, header, ok_bind, if_neg notNull]
      dsimp only
      rw [clen, ok_bind, writeHexValue, value, ofRead_some, ok_bind, writeHex_eq]
      rfl
    · rw [strToHex, length_flatMap_hexDigits, if_neg (by omega), hexPairs_hexDigits]
  · intro str isHex
    obtain ⟨bytes, read, text⟩ := hexPairs_of_isHexText iter isHex
    refine ⟨bytes, ?_, ?_, text⟩
    · rw [strToHex, if_neg (by have := isHex.1; omega), read]
    · rw [← length_flatMap_hexDigits, text, length_map]

theorem cell_text_read_back : ∃ text,
    writeRawJsonVarBinary [0, 0, 0, 0, 2, 0, 171, 1] .empty 0 4 0 =
      .ok ⟨[], 34 :: text ++ [34], none⟩ ∧
    strToHex boolReaders text = .ok [171, 1] :=
  (hex_texts_read boolReaders).1 _ 0 4 0 _ _ (by decide) ⟨0, rfl, by decide, rfl, rfl⟩

end TaosAdapter.Rest
