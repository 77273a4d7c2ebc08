import TaosAdapter.RawBlock.Parser

/-!
Owns: the bytes a column is serialized to. The loop over a fixed-length column
leaves `FixedImage`, a null bitmap with the values; the loop over a
variable-length column leaves `varOffsets` with `varBytes`.
-/

namespace TaosAdapter.RawBlock

open Lib Driver List Outcome

variable (n : Nat)

theorem bitPos_eq : bitPos n = n % 8 :=
  Nat.and_two_pow_sub_one_eq_mod n 3

theorem charOffset_eq : charOffset n = n / 8 :=
  Nat.shiftRight_eq_div_pow n 3

theorem bitmapLen_eq : bitmapLen n = (n + 7) / 8 :=
  Nat.shiftRight_eq_div_pow (n + 7) 3

theorem toBitVec_bitMask : (bitMask n).toBitVec = BitVec.twoPow 8 (7 - n % 8) := by
  rw [bitMask, bitPos_eq, Nat.one_shiftLeft]
  apply BitVec.eq_of_toNat_eq
  simp

theorem bmIsNull_eq (c : UInt8) (n : Nat) : bmIsNull c n = c.toBitVec.getLsbD (7 - n % 8) := by
  have inside : 7 - n % 8 < 8 := by omega
  rw [bmIsNull, Bool.eq_iff_iff, beq_iff_eq, ← UInt8.toBitVec_inj, UInt8.toBitVec_and,
    toBitVec_bitMask, BitVec.and_twoPow]
  cases set : c.toBitVec.getLsbD (7 - n % 8) with
  | true => simp
  | false =>
    simp only [Bool.false_eq_true, if_false, iff_false]
    intro equal
    have bits := congrArg (fun word => word.getLsbD (7 - n % 8)) equal
    simp [inside] at bits

theorem bmIsNull_bmSetNull {c : UInt8} {n : Nat} (clear : bmIsNull c n = false) (m : Nat) :
    bmIsNull (bmSetNull c n) m = (decide (m % 8 = n % 8) || bmIsNull c m) := by
  rw [bmIsNull_eq] at clear
  have disjoint : c.toBitVec &&& BitVec.twoPow 8 (7 - n % 8) = 0#8 := by
    rw [BitVec.and_twoPow, clear]
    rfl
  rw [bmIsNull_eq, bmIsNull_eq, bmSetNull, UInt8.toBitVec_add, toBitVec_bitMask,
    BitVec.add_eq_or_of_and_eq_zero _ _ disjoint, BitVec.getLsbD_or, BitVec.getLsbD_twoPow]
  have same : 7 - n % 8 = 7 - m % 8 ↔ m % 8 = n % 8 := by omega
  have inside : 7 - n % 8 < 8 := by omega
  simp [same, inside, Bool.or_comm]

section

variable {size : Nat} {encode : Encode} {rowData : List Cell}

def cellBytes (size : Nat) (encode : Encode) : Cell → Bytes
  | none => List.replicate size 0
  | some v =>
    match encode v with
    | .ok bytes => bytes ++ List.replicate (size - bytes.length) 0
    | _ => List.replicate size 0

def FitsIn (size : Nat) (encode : Encode) (rowData : List Cell) : Prop :=
  ∀ v, some v ∈ rowData → ∃ bytes, encode v = .ok bytes ∧ bytes.length ≤ size

variable {v : TaosValue}

theorem cellBytes_of_encode {bytes : Bytes} (encoded : encode v = .ok bytes) :
    cellBytes size encode (some v) = bytes ++ List.replicate (size - bytes.length) 0 := by
  simp only [cellBytes, encoded]

variable {cell : Cell}

theorem length_cellBytes (fits : FitsIn size encode rowData) (mem : cell ∈ rowData) :
    (cellBytes size encode cell).length = size := by
  cases cell with
  | none => simp [cellBytes]
  | some v =>
    obtain ⟨bytes, encoded, short⟩ := fits v mem
    rw [cellBytes_of_encode encoded, length_append, length_replicate]
    omega

def bodyBytes (size : Nat) (encode : Encode) (rowData : List Cell) : Bytes :=
  (rowData.map (cellBytes size encode)).flatten

def Marks (rowData : List Cell) (done : Nat) (bitmap : Bytes) : Prop :=
  ∀ row cell, rowData[row]? = some cell →
    bmIsNull (bitmap.getD (row / 8) 0) row = (decide (row < done) && cell.isNone)

def FixedProgress (size : Nat) (encode : Encode) (rowData : List Cell) (done : Nat)
    (dataTmp : Bytes) : Prop :=
  ∃ bitmap, bitmap.length = bitmapLen rowData.length ∧ Marks rowData done bitmap ∧
    dataTmp = bitmap ++ (bodyBytes size encode (rowData.take done) ++
      List.replicate ((rowData.length - done) * size) 0)

def FixedImage (size : Nat) (encode : Encode) (rowData : List Cell) (data : Bytes) : Prop :=
  ∃ bitmap, bitmap.length = bitmapLen rowData.length ∧ Marks rowData rowData.length bitmap ∧
    data = bitmap ++ bodyBytes size encode rowData

variable {row : Nat}

theorem bodyBytes_take_succ (found : rowData[row]? = some cell) :
    bodyBytes size encode (rowData.take (row + 1)) =
      bodyBytes size encode (rowData.take row) ++ cellBytes size encode cell := by
  have taken : rowData.take (row + 1) = rowData.take row ++ [cell] := by
    rw [take_add_one, found]
    rfl
  simp [bodyBytes, taken]

theorem length_bodyBytes_take (fits : FitsIn size encode rowData) (inside : row ≤ rowData.length) :
    (bodyBytes size encode (rowData.take row)).length = row * size := by
  rw [bodyBytes, length_flatten_uniform size]
  · rw [length_map, length_take, Nat.min_eq_left inside, Nat.mul_comm]
  · intro piece mem
    obtain ⟨cell, cellMember, rfl⟩ := mem_map.mp mem
    exact length_cellBytes fits (mem_of_mem_take cellMember)

variable {bitmap : Bytes} {done : Nat}

theorem Marks.value (marks : Marks rowData done bitmap) (found : rowData[done]? = some (some v)) :
    Marks rowData (done + 1) bitmap := by
  intro row cell rowFound
  rw [marks row cell rowFound]
  by_cases same : row = done
  · subst same
    obtain rfl : some v = cell := Option.some.inj (found.symm.trans rowFound)
    simp
  · have unchanged : row < done + 1 ↔ row < done := by omega
    simp only [unchanged]

theorem Marks.null (marks : Marks rowData done bitmap)
    (length : bitmap.length = bitmapLen rowData.length) (found : rowData[done]? = some none) :
    Marks rowData (done + 1) (bitmap.modify (charOffset done) fun c => bmSetNull c done) := by
  intro row cell rowFound
  have before := marks row cell rowFound
  rw [charOffset_eq]
  by_cases sameByte : done / 8 = row / 8
  · -- The byte changes: exactly the bit of this row is set, which was clear.
    have clear : bmIsNull (bitmap.getD (done / 8) 0) done = false := by
      rw [marks done none found]
      simp
    have inside : row / 8 < bitmap.length := by
      have rowInside := lt_of_getElem? rowFound
      rw [length, bitmapLen_eq]
      omega
    have content : (bitmap.modify (done / 8) fun c => bmSetNull c done).getD (row / 8) 0 =
        bmSetNull (bitmap.getD (row / 8) 0) done := by
      simp [List.getD_eq_getElem?_getD, sameByte, List.getElem?_eq_getElem inside]
    rw [sameByte] at clear
    rw [content, bmIsNull_bmSetNull clear, before]
    by_cases same : row = done
    · subst same
      obtain rfl : none = cell := Option.some.inj (found.symm.trans rowFound)
      simp
    · have otherBit : row % 8 ≠ done % 8 := by omega
      have unchanged : row < done + 1 ↔ row < done := by omega
      simp [otherBit, unchanged]
  · have content : (bitmap.modify (done / 8) fun c => bmSetNull c done).getD (row / 8) 0 =
        bitmap.getD (row / 8) 0 := by
      simp [List.getD_eq_getElem?_getD, sameByte]
    have unchanged : row < done + 1 ↔ row < done := by
      have ne : row ≠ done := fun same => sameByte (by rw [same])
      omega
    rw [content, before]
    simp only [unchanged]

theorem fixedRow_ok (fits : FitsIn size encode rowData) (found : rowData[row]? = some cell)
    {dataTmp : Bytes} (progress : FixedProgress size encode rowData row dataTmp) :
    ∃ next, fixedRow (bitmapLen rowData.length) size encode row cell dataTmp = .ok next ∧
      FixedProgress size encode rowData (row + 1) next := by
  obtain ⟨bitmap, length, marks, rfl⟩ := progress
  have inside := lt_of_getElem? found
  have zeros : (rowData.length - row) * size = size + (rowData.length - (row + 1)) * size := by
    have rest : rowData.length - row = rowData.length - (row + 1) + 1 := by omega
    rw [rest, Nat.succ_mul, Nat.add_comm]
  cases cell with
  | none =>
    refine ⟨_, rfl, _, ?_, marks.null length found, ?_⟩
    · rw [length_modify, length]
    · have charInside : charOffset row < bitmap.length := by
        rw [charOffset_eq, length, bitmapLen_eq]
        omega
      rw [modify_append_left charInside, bodyBytes_take_succ found, zeros, replicate_add,
        append_assoc]
      rfl
  | some v =>
    obtain ⟨bytes, encoded, short⟩ := fits v (mem_of_getElem? found)
    refine ⟨_, by rw [fixedRow, encoded, ok_bind], bitmap, length, marks.value found, ?_⟩
    have place : row * size + bitmapLen rowData.length =
        (bitmap ++ bodyBytes size encode (rowData.take row)).length := by
      rw [length_append, length, length_bodyBytes_take fits (by omega)]
      omega
    have split : List.replicate ((rowData.length - row) * size) (0 : UInt8) =
        List.replicate bytes.length 0 ++ (List.replicate (size - bytes.length) 0 ++
          List.replicate ((rowData.length - (row + 1)) * size) 0) := by
      rw [replicate_append_replicate, replicate_append_replicate, zeros]
      congr 1
      omega
    rw [place, split, ← append_assoc, poke_append _ _ (length_replicate).symm,
      bodyBytes_take_succ found, cellBytes_of_encode encoded]
    simp only [append_assoc]

theorem fixedColumn_ok (code : Nat) (fits : FitsIn size encode rowData) :
    ∃ data, FixedImage size encode rowData data ∧
      fixedColumn rowData.length code size encode rowData = .ok
        ⟨UInt8.ofNat code :: leBytes 4 (typeLengthMap code),
          leBytes 4 (typeLengthMap code * rowData.length), data⟩ := by
  have initially : FixedProgress size encode rowData 0
      (List.replicate (bitmapLen rowData.length + rowData.length * size) 0) := by
    refine ⟨List.replicate (bitmapLen rowData.length) 0, length_replicate, ?_, ?_⟩
    · intro row cell _
      have clear :
          (List.replicate (bitmapLen rowData.length) (0 : UInt8)).getD (row / 8) 0 = 0 := by
        rw [List.getD_eq_getElem?_getD, List.getElem?_replicate]
        split <;> rfl
      rw [clear, bmIsNull_eq]
      simp
    · rw [replicate_add]
      rfl
  obtain ⟨data, finished, bitmap, length, marks, rfl⟩ :=
    eachItem_ok (fixedRow (bitmapLen rowData.length) size encode)
      (FixedProgress size encode rowData) initially
      (fun off cell dataTmp found progress => by
        rw [Nat.zero_add] at progress ⊢
        exact fixedRow_ok fits found progress)
  rw [Nat.zero_add] at marks
  refine ⟨_, ⟨bitmap, length, marks, rfl⟩, ?_⟩
  rw [fixedColumn, finished]
  simp

end

section

variable {encode : Encode} {rowData : List Cell}

def Encodes (encode : Encode) (rowData : List Cell) : Prop :=
  ∀ v, some v ∈ rowData → ∃ payload, encode v = .ok payload

def varPiece (encode : Encode) : Cell → Bytes
  | none => []
  | some v =>
    match encode v with
    | .ok payload => leBytes 2 payload.length ++ payload
    | _ => []

theorem varPiece_of_encode {v : TaosValue} {payload : Bytes} (encoded : encode v = .ok payload) :
    varPiece encode (some v) = leBytes 2 payload.length ++ payload := by
  simp only [varPiece, encoded]

def varBytes (encode : Encode) (rowData : List Cell) : Bytes :=
  (rowData.map (varPiece encode)).flatten

def varOffset (encode : Encode) (before : List Cell) : Cell → Bytes
  | none => [255, 255, 255, 255]
  | some _ => leBytes 4 (varBytes encode before).length

def varOffsets (encode : Encode) (rowData : List Cell) : List Bytes :=
  rowData.mapIdx fun row cell => varOffset encode (rowData.take row) cell

theorem length_varOffset (before : List Cell) (cell : Cell) :
    (varOffset encode before cell).length = 4 := by
  cases cell with
  | none => rfl
  | some v => simp [varOffset]

variable {cell : Cell} {row : Nat}

theorem varOffsets_found (found : rowData[row]? = some cell) :
    (varOffsets encode rowData)[row]? = some (varOffset encode (rowData.take row) cell) := by
  simp [varOffsets, found]

theorem length_of_mem_varOffsets {piece : Bytes} (mem : piece ∈ varOffsets encode rowData) :
    piece.length = 4 := by
  obtain ⟨row, inside, rfl⟩ := mem_mapIdx.mp mem
  exact length_varOffset _ _

def VarProgress (encode : Encode) (rowData : List Cell) (done : Nat) (acc : Bytes × Nat) : Prop :=
  acc.1 = ((varOffsets encode rowData).take done).flatten ++
      (List.replicate (4 * (rowData.length - done)) 0 ++ varBytes encode (rowData.take done)) ∧
    acc.2 = (varBytes encode (rowData.take done)).length

variable (encode) in
theorem varBytes_take_succ (found : rowData[row]? = some cell) :
    varBytes encode (rowData.take (row + 1)) =
      varBytes encode (rowData.take row) ++ varPiece encode cell := by
  have taken : rowData.take (row + 1) = rowData.take row ++ [cell] := by
    rw [take_add_one, found]
    rfl
  simp [varBytes, taken]

theorem length_varBytes_take_le (encode : Encode) (rowData : List Cell) (row : Nat) :
    (varBytes encode (rowData.take row)).length ≤ (varBytes encode rowData).length := by
  have split : varBytes encode rowData =
      varBytes encode (rowData.take row) ++ varBytes encode (rowData.drop row) := by
    rw [varBytes, varBytes, varBytes, ← flatten_append, ← map_append, take_append_drop]
  rw [split, length_append]
  omega

variable (encode) in
theorem poke_varOffset (found : rowData[row]? = some cell) (values : Bytes) :
    poke (((varOffsets encode rowData).take row).flatten ++
        (List.replicate (4 * (rowData.length - row)) 0 ++ values)) (4 * row)
        (varOffset encode (rowData.take row) cell) =
      ((varOffsets encode rowData).take (row + 1)).flatten ++
        (List.replicate (4 * (rowData.length - (row + 1))) 0 ++ values) := by
  have inside := lt_of_getElem? found
  have place : 4 * row = ((varOffsets encode rowData).take row).flatten.length := by
    rw [length_flatten_uniform 4 fun piece mem =>
      length_of_mem_varOffsets (mem_of_mem_take mem)]
    simp [varOffsets]
    omega
  have split : List.replicate (4 * (rowData.length - row)) (0 : UInt8) =
      List.replicate 4 0 ++ List.replicate (4 * (rowData.length - (row + 1))) 0 := by
    rw [replicate_append_replicate]
    congr 1
    omega
  have taken : (varOffsets encode rowData).take (row + 1) =
      (varOffsets encode rowData).take row ++ [varOffset encode (rowData.take row) cell] := by
    rw [take_add_one, varOffsets_found found]
    rfl
  rw [place, split, append_assoc,
    poke_append _ _ ((length_varOffset _ _).trans length_replicate.symm), taken]
  simp

theorem varRow_ok (encodes : Encodes encode rowData) (found : rowData[row]? = some cell)
    {acc : Bytes × Nat} (progress : VarProgress encode rowData row acc) :
    ∃ next, varRow encode row cell acc = .ok next ∧ VarProgress encode rowData (row + 1) next := by
  obtain ⟨content, length⟩ := progress
  have values := varBytes_take_succ encode found
  cases cell with
  | none =>
    refine ⟨_, rfl, ?_, ?_⟩
    · rw [values, varPiece, List.append_nil]
      exact (congrArg (poke · _ _) content).trans (poke_varOffset encode found _)
    · rw [values, varPiece, List.append_nil]
      exact length
  | some v =>
    obtain ⟨payload, encoded⟩ := encodes v (mem_of_getElem? found)
    refine ⟨_, by rw [varRow, encoded, ok_bind], ?_, ?_⟩
    · have poked := poke_varOffset encode found (varBytes encode (rowData.take row))
      rw [varOffset, ← length] at poked
      rw [content, poked, values, varPiece_of_encode encoded]
      simp only [append_assoc]
    · rw [values, varPiece_of_encode encoded, length]
      simp
      omega

theorem varColumn_ok (code : Nat) (encodes : Encodes encode rowData) :
    varColumn rowData.length code encode rowData = .ok
      ⟨UInt8.ofNat code :: leBytes 4 0, leBytes 4 (varBytes encode rowData).length,
        (varOffsets encode rowData).flatten ++ varBytes encode rowData⟩ := by
  have initially : VarProgress encode rowData 0 (List.replicate (4 * rowData.length) 0, 0) := by
    constructor
    · simp [varBytes]
    · rfl
  obtain ⟨⟨dataTmp, length⟩, finished, content, lengthIs⟩ :=
    eachItem_ok (varRow encode) (VarProgress encode rowData) initially
      (fun off cell acc found progress => by
        rw [Nat.zero_add] at progress ⊢
        exact varRow_ok encodes found progress)
  have all : (varOffsets encode rowData).take rowData.length = varOffsets encode rowData :=
    take_of_length_le (by simp [varOffsets])
  rw [Nat.zero_add, take_length] at content lengthIs
  rw [varColumn, finished, ok_bind]
  simp only at content lengthIs
  rw [content, lengthIs, all, Nat.sub_self]
  rfl

end

end TaosAdapter.RawBlock
