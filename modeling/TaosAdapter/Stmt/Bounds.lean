import TaosAdapter.Stmt.Convert

/-!
Owns: what `BlockConvert` reads, in terms of the bytes of the message. A block
is inside the message when the entries of the table of lengths and every cell
are; a cell is found by the addresses of its column, which follow from the
lengths of the columns before it.

`Answered` says that the conversion comes to its end: it reads nothing outside
the message and does not panic.
-/

namespace TaosAdapter.Stmt

open Lib Driver Outcome
open RawBlock (Cell Read load loadInt32 colInfoOffset colInfoSize isVarDataType
  itemIsNull bmIsNull charOffset loadRunes valueStart rawBlockGetColumnLengthOffset
  rawBlockGetColDataOffset)

section

variable {α : Type} {memory : Bytes} {address : Int} {width : Nat}

theorem answered_load_bind {next : Nat → Read α} : (load memory address width >>= next).Answered ↔
      Within memory address width ∧ (next (word memory address width)).Answered := by
  by_cases within : Within memory address width
  · simp [load, peekNat_of_within within, within]
  · simp [load, peekNat_of_not_within within, within]

theorem eq_word_of_load {value : Nat} (loaded : load memory address width = .ok value) :
    value = word memory address width := by
  by_cases within : Within memory address width
  · rw [load, peekNat_of_within within] at loaded
    cases loaded
    rfl
  · rw [load, peekNat_of_not_within within] at loaded
    cases loaded

theorem answered_loadInt32_bind {next : Int → Read α} :
    (loadInt32 memory address >>= next).Answered ↔
      Within memory address 4 ∧ (next (int32At memory address)).Answered := by
  by_cases within : Within memory address 4
  · simp [loadInt32, load, peekNat_of_within within, within, int32At]
  · simp [loadInt32, load, peekNat_of_not_within within, within]

theorem answered_peek {Error : Type} :
    (Outcome.ofRead (peek memory address width) : Outcome Error Bytes).Answered ↔
      Within memory address width := by
  by_cases within : Within memory address width
  · simp [peek_of_within within, within]
  · simp [peek_of_not_within within, within]

end

section

variable (memory : Bytes)

def textLength (fieldType bytes : Nat) : Nat :=
  if fieldType = TSDB_DATA_TYPE_NCHAR then bytes / 4 * 4 else bytes

def TextInside (fieldType : Nat) (currentRow : Int) : Prop :=
  Within memory currentRow 2 ∧
    Within memory (currentRow + 2) (textLength fieldType (word memory currentRow 2))

def Convertible (field : StmtField) : Prop :=
  (rawConvertFuncMap field.fieldType).isSome = true ∧
    (field.fieldType = TSDB_DATA_TYPE_TIMESTAMP → field.precision ≤ 2)

def nullAt (pHeader : Int) (row : Nat) : Bool :=
  bmIsNull (UInt8.ofNat (word memory (pHeader + charOffset row) 1)) row

def FixedInside (field : StmtField) (pHeader pStart : Int) (row : Nat) : Prop :=
  Within memory (pHeader + charOffset row) 1 ∧ (nullAt memory pHeader row = false →
    Convertible field ∧
      Within memory (pStart + row * typeLengthMap field.fieldType) (typeLengthMap field.fieldType))

def VarInside (field : StmtField) (pHeader pStart : Int) (row : Nat) : Prop :=
  Within memory (pHeader + row * 4) 4 ∧ (int32At memory (pHeader + row * 4) ≠ -1 →
    TextInside memory field.fieldType (pStart + int32At memory (pHeader + row * 4)))

def CellInside (rows : Nat) (field : StmtField) (pHeader : Int) (row : Nat) : Prop :=
  if isVarDataType field.fieldType then
    VarInside memory field pHeader (valueStart rows field.fieldType pHeader) row
  else FixedInside memory field pHeader (valueStart rows field.fieldType pHeader) row

/-- The columns from `column` on: their entries in the table of lengths, and
their cells. A column begins where the length of the one before it ends. -/
def ColumnsInside (block : Int) (rows colCount : Nat) : List StmtField → Nat → Int → Prop
  | [], _, _ => True
  | field :: fields, column, pHeader =>
    let entry := block + rawBlockGetColumnLengthOffset colCount + column * 4
    Within memory entry 4 ∧ (∀ row < rows, CellInside memory rows field pHeader row) ∧
      ColumnsInside block rows colCount fields (column + 1)
        (valueStart rows field.fieldType pHeader + int32At memory entry)

def BlockInside (block rows : Int) (fields : List StmtField) : Prop :=
  (fields ≠ [] → 0 ≤ rows) ∧
    ColumnsInside memory block rows.toNat fields.length fields 0
      (block + rawBlockGetColDataOffset fields.length)

end

section

variable {memory : Bytes}

theorem answered_loadRunes (currentRow : Int) (count idx : Nat)
    (few : idx + count ≤ 2 ^ 14) (start : Within memory (currentRow + 4 * idx) 0) :
    (loadRunes memory currentRow count idx).Answered ↔
      Within memory (currentRow + 4 * idx) (4 * count) := by
  induction count generalizing idx with
  | zero => exact ⟨fun _ => start, fun _ => trivial⟩
  | succ count ih =>
    have off : ((idx * 4 % 2 ^ 16 : Nat) : Int) = 4 * idx := by
      rw [Nat.mod_eq_of_lt (by omega)]
      omega
    have next :
        currentRow + 4 * ((idx + 1 : Nat) : Int) = currentRow + 4 * idx + (4 : Nat) := by
      omega
    have split : 4 * (count + 1) = 4 + 4 * count := by omega
    rw [loadRunes, answered_load_bind, off, split, within_add_iff]
    refine and_congr_right fun first => ?_
    have later := ih (idx + 1) (by omega) (by
      rw [next]
      unfold Within at first ⊢
      omega)
    rw [next] at later
    rw [← later, answered_bind_ok]

variable {field : StmtField} {row : Nat} {pStart pHeader : Int}

theorem answered_rawConvertNchar (nchar : field.fieldType = TSDB_DATA_TYPE_NCHAR) :
    (rawConvertNchar memory pHeader pStart row).Answered ↔
      VarInside memory field pHeader pStart row := by
  rw [rawConvertNchar, answered_loadInt32_bind]
  refine and_congr_right fun _ => ?_
  by_cases absent : int32At memory (pHeader + row * 4) = -1
  · simp [absent]
  · simp only [absent, if_false, not_false_iff, forall_true_left, ne_eq]
    rw [answered_load_bind]
    refine and_congr_right fun lengthInside => ?_
    generalize pStart + int32At memory (pHeader + row * 4) = currentRow at lengthInside ⊢
    have small := word_lt memory currentRow 2
    have runes := answered_loadRunes (currentRow + 2) (word memory currentRow 2 / 4) 0 (by omega)
      (show Within memory (currentRow + 2 + 4 * (0 : Nat)) 0 by
        unfold Within at lengthInside ⊢
        omega)
    rw [answered_bind_ok, runes, textLength, if_pos nchar, Nat.mul_comm _ 4]
    simp

theorem answered_rawConvertBytes {make : Bytes → TaosValue}
    (other : field.fieldType ≠ TSDB_DATA_TYPE_NCHAR) :
    (rawConvertBytes make memory pHeader pStart row).Answered ↔
      VarInside memory field pHeader pStart row := by
  rw [rawConvertBytes, answered_bind_ok, getBytesFromPointer, answered_loadInt32_bind]
  refine and_congr_right fun _ => ?_
  by_cases absent : int32At memory (pHeader + row * 4) = -1
  · simp [absent]
  · simp only [absent, if_false, not_false_iff, forall_true_left, ne_eq]
    rw [answered_load_bind, answered_bind_ok, answered_peek, TextInside, textLength, if_neg other]

theorem answered_varCell {convertF : RawConvertVarDataFunc}
    (found : rawConvertVarDataMap field.fieldType = some convertF) :
    (convertF memory pHeader pStart row).Answered ↔ VarInside memory field pHeader pStart row := by
  unfold rawConvertVarDataMap at found
  split at found
  case h_2 nchar =>
    cases found
    exact answered_rawConvertNchar nchar
  case h_6 => cases found
  all_goals
    rename_i code
    cases found
    exact answered_rawConvertBytes (by rw [code]; decide)

variable {fieldType : Nat}

theorem rawConvertVarDataMap_isSome (isVar : isVarDataType fieldType = true) :
    ∃ convertF, rawConvertVarDataMap fieldType = some convertF := by
  simp only [isVarDataType, Bool.or_eq_true, beq_iff_eq] at isVar
  rcases isVar with (((rfl | rfl) | rfl) | rfl) | rfl <;> exact ⟨_, rfl⟩

theorem answered_rawConvert {size : Nat} {make : Nat → TaosValue}
    (known : (rawConvertFuncMap field.fieldType).isSome = true)
    (other : field.fieldType ≠ TSDB_DATA_TYPE_TIMESTAMP)
    (length : typeLengthMap field.fieldType = size) :
    (rawConvert size make memory pStart row field.precision).Answered ↔
      Convertible field ∧ Within memory (pStart + row * typeLengthMap field.fieldType)
        (typeLengthMap field.fieldType) := by
  rw [rawConvert, answered_load_bind, length]
  simp [Convertible, known, other]

theorem answered_timestampConvertToTime (timestamp : BitVec 64) (prec : Nat) :
    (timestampConvertToTime timestamp prec : Read Time).Answered ↔ prec ≤ 2 := by
  unfold timestampConvertToTime precisionUnit
  split <;> split at * <;> simp_all <;> omega

theorem answered_rawConvertTime (time : field.fieldType = TSDB_DATA_TYPE_TIMESTAMP) :
    (rawConvertTime memory pStart row field.precision).Answered ↔
      Convertible field ∧ Within memory (pStart + row * typeLengthMap field.fieldType)
        (typeLengthMap field.fieldType) := by
  rw [rawConvertTime, answered_load_bind, answered_bind_ok, answered_timestampConvertToTime, time]
  simp only [Convertible, time, forall_true_left, typeLengthMap, TSDB_DATA_TYPE_TIMESTAMP,
    rawConvertFuncMap, Option.isSome_some, true_and]
  exact and_comm

variable {convertF : RawConvertFunc}

theorem rawConvertFuncMap_eq (found : rawConvertFuncMap fieldType = some convertF)
    (other : fieldType ≠ TSDB_DATA_TYPE_TIMESTAMP) :
    ∃ make, convertF = rawConvert (typeLengthMap fieldType) make := by
  unfold rawConvertFuncMap at found
  split at found <;> first
    | exact absurd rfl other
    | exact ⟨_, (Option.some.inj found).symm⟩
    | cases found

theorem answered_fixedCell (found : rawConvertFuncMap field.fieldType = some convertF) :
    (convertF memory pStart row field.precision).Answered ↔
      Convertible field ∧ Within memory (pStart + row * typeLengthMap field.fieldType)
        (typeLengthMap field.fieldType) := by
  have known : (rawConvertFuncMap field.fieldType).isSome = true := by rw [found]; rfl
  by_cases time : field.fieldType = TSDB_DATA_TYPE_TIMESTAMP
  · rw [time] at found
    cases found
    exact answered_rawConvertTime time
  · obtain ⟨make, rfl⟩ := rawConvertFuncMap_eq found time
    exact answered_rawConvert known time rfl

theorem answered_itemIsNull_bind {α : Type} {next : Bool → Read α} :
    (itemIsNull memory pHeader row >>= next).Answered ↔ Within memory (pHeader + charOffset row) 1 ∧
        (next (nullAt memory pHeader row)).Answered := by
  by_cases within : Within memory (pHeader + charOffset row) 1
  · simp [itemIsNull, load, peekNat_of_within within, within, nullAt]
  · simp [itemIsNull, load, peekNat_of_not_within within, within]

theorem answered_convertCell {rows : Nat} : (convertCell memory rows field pHeader row).Answered ↔
      CellInside memory rows field pHeader row := by
  unfold convertCell CellInside
  split
  next isVar =>
    obtain ⟨convertF, found⟩ := rawConvertVarDataMap_isSome isVar
    simp only [found]
    exact answered_varCell found
  next =>
    rw [answered_itemIsNull_bind]
    refine and_congr_right fun _ => ?_
    cases nullAt memory pHeader row with
    | true => simp
    | false =>
      cases found : rawConvertFuncMap field.fieldType with
      | some convertF => simpa using answered_fixedCell found
      | none => simp [Convertible, found]

end

section

variable {memory : Bytes}

theorem answered_convertRows (convert : Nat → Read (Cell × Nat)) (count row maxLen : Nat) :
    (convertRows convert count row maxLen).Answered ↔
      ∀ off < count, (convert (row + off)).Answered := by
  induction count generalizing row maxLen with
  | zero => simp [convertRows]
  | succ count ih =>
    have later : ∀ res : Cell × Nat, (convertRows convert count (row + 1)
            (if res.2 > maxLen then res.2 else maxLen) >>= fun rest =>
          .ok (res.1 :: rest.1, rest.2)).Answered ↔
          ∀ off < count, (convert (row + 1 + off)).Answered := by
      intro res
      rw [answered_bind_ok, ih]
    rw [convertRows, answered_bind_iff_of_forall later]
    exact (forall_pass_succ (fun row => (convert row).Answered) count row).symm

theorem answered_convertColumns (block : Int) (rows colCount : Nat) (fields : List StmtField)
    (col : Nat) (pHeader : Int) :
    (convertColumns memory block rows colCount fields col pHeader).Answered ↔
      ColumnsInside memory block rows colCount fields col pHeader := by
  induction fields generalizing col pHeader with
  | nil => exact Iff.rfl
  | cons field fields ih =>
    rw [convertColumns, answered_loadInt32_bind, ColumnsInside]
    refine and_congr_right fun _ => ?_
    rw [answered_bind_iff_of_forall fun values => answered_bind_ok, ih, answered_convertRows]
    simp only [Nat.zero_add, answered_convertCell]

theorem answered_blockConvert (block rows : Int) (fields : List StmtField) :
    (blockConvert memory block rows fields).Answered ↔ BlockInside memory block rows fields := by
  unfold blockConvert BlockInside
  split
  next negative =>
    simp only [not_answered_panic, false_iff, not_and]
    intro nonnegative
    exact absurd (nonnegative negative.2) (by omega)
  next nonnegative =>
    rw [answered_convertColumns, and_iff_right]
    intro some
    by_contra negative
    exact nonnegative ⟨by omega, some⟩

end

end TaosAdapter.Stmt
