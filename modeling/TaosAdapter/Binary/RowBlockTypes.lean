import TaosAdapter.Binary.Model
import TaosAdapter.Stmt.Timestamps

/-!
Owns: the agreement of three tables of types, for a block bound to a query
statement: the types `parseRowBlockInfo` gives the columns, those of the values
`BlockConvert` makes, and those `TaosStmtBindParamBatch` asserts.
-/

namespace TaosAdapter.Binary

open Lib Driver Stmt List Outcome
open RawBlock (Cell Read)

variable {memory : Bytes} {pHeader pStart block : Int} {code row length count k : Nat}
  {value : TaosValue} {field : StmtField}

theorem typeOf_fixed {convertF : RawConvertFunc} {precision : Int}
    (found : rawConvertFuncMap code = some convertF)
    (converted : convertF memory pStart row precision = .ok value) :
    typeOf code = some (valueType value) := by
  unfold rawConvertFuncMap at found
  split at found <;> cases found
  all_goals obtain ⟨bits, _, finish⟩ := bind_eq_ok.mp converted
  case h_8 =>
    obtain ⟨time, _, finish⟩ := bind_eq_ok.mp finish
    cases finish
    rfl
  all_goals
    cases finish
    rfl

theorem typeOf_text {convertF : RawConvertVarDataFunc}
    (found : rawConvertVarDataMap code = some convertF)
    (converted : convertF memory pHeader pStart row = .ok (some value, length)) :
    typeOf code = some (valueType value) := by
  unfold rawConvertVarDataMap at found
  split at found <;> cases found
  case h_2 =>
    obtain ⟨offset, _, finish⟩ := bind_eq_ok.mp converted
    split at finish
    · cases finish
    · obtain ⟨bytes, _, finish⟩ := bind_eq_ok.mp finish
      obtain ⟨runes, _, finish⟩ := bind_eq_ok.mp finish
      cases finish
      rfl
  all_goals
    obtain ⟨⟨binaryVal, clen⟩, _, finish⟩ := bind_eq_ok.mp converted
    cases binaryVal <;> cases finish
    rfl

theorem typeOf_cell
    (converted : convertCell memory count field pHeader row = .ok (some value, length)) :
    typeOf field.fieldType = some (valueType value) := by
  unfold convertCell at converted
  split at converted
  · split at converted
    next found => exact typeOf_text found converted
    next => cases converted
  · obtain ⟨isNull, _, converted⟩ := bind_eq_ok.mp converted
    split at converted
    · cases converted
    · split at converted
      next found =>
        obtain ⟨made, isMade, finish⟩ := bind_eq_ok.mp converted
        cases finish
        exact typeOf_fixed found isMade
      next => cases converted

theorem convertRows_mem {convert : Nat → Read (Cell × Nat)} {first maxLen : Nat}
    {values : Converted} (converted : convertRows convert count first maxLen = .ok values)
    {cell : Cell} (mem : cell ∈ values.1) : ∃ row length, convert row = .ok (cell, length) := by
  induction count generalizing first maxLen values with
  | zero =>
    cases converted
    cases mem
  | succ count ih =>
    obtain ⟨⟨head, length⟩, made, rest⟩ := bind_eq_ok.mp converted
    obtain ⟨later, tail, finish⟩ := bind_eq_ok.mp rest
    cases finish
    rcases mem_cons.mp mem with rfl | mem
    · exact ⟨first, length, made⟩
    · exact ih tail mem

theorem rowBlock_get {colTypes : List Nat} {fields : List StmtField} {types : List ColumnType}
    (accepted : rowBlockColumns colTypes = .ok (fields, types))
    (isCode : colTypes[k]? = some code) : fields[k]? = some (rowBlockField code) ∧
      ∃ type, rowBlockType code = some type ∧ types[k]? = some ⟨type, 0⟩ := by
  unfold rowBlockColumns at accepted
  split at accepted
  next => cases accepted
  next supported =>
    cases accepted
    have known : ∀ c ∈ colTypes, rowBlockType c = some ((rowBlockType c).getD .other) := by
      intro c mem
      have given : rowBlockType c ≠ none := by
        simp only [rowBlockError, Option.map_eq_none_iff, getLast?_eq_none_iff, filter_eq_nil_iff,
          Option.isNone_iff_eq_none] at supported
        exact supported c mem
      obtain ⟨type, given⟩ := Option.ne_none_iff_exists'.mp given
      rw [given, Option.getD_some]
    rw [filterMap_eq_map_iff_forall_eq_some.mpr known]
    refine ⟨by rw [getElem?_map, isCode]; rfl, _, known code (mem_of_getElem? isCode), ?_⟩
    rw [getElem?_map, getElem?_map, isCode]
    rfl

/-- What `BlockConvert` makes of a column has the type `TaosStmtBindParamBatch` asserts, unless
it is a column of varbinaries: the bind does not succeed with one that is not null. -/
theorem rowBlock_types_agree {rows : Int} {colTypes : List Nat} {fields : List StmtField}
    {types : List ColumnType} {data : List Converted} {column : Converted}
    (accepted : rowBlockColumns colTypes = .ok (fields, types))
    (converted : blockConvert memory block rows fields = .ok data)
    (isCode : colTypes[k]? = some code) (isColumn : data[k]? = some column)
    (mem : some value ∈ column.1) : ∃ type, types[k]? = some type ∧
      (valueType value = type.type ↔ code ≠ TSDB_DATA_TYPE_VARBINARY) ∧
      (code = TSDB_DATA_TYPE_VARBINARY → ∀ malloc binds, taosStmtBindParamBatch malloc
        (data.map Prod.fst) (raiseMaxLen types data) ≠ .ok binds) := by
  obtain ⟨isField, type, given, isType⟩ := rowBlock_get accepted isCode
  unfold blockConvert at converted
  split at converted
  next => cases converted
  next =>
    obtain ⟨values, here, made⟩ := convertColumns_get converted isField
    obtain rfl : values = column := Option.some.inj (here.symm.trans isColumn)
    obtain ⟨row, length, isCell⟩ := convertRows_mem made mem
    have typed : typeOf code = some (valueType value) := typeOf_cell isCell
    refine ⟨_, isType, ?_, ?_⟩
    · unfold rowBlockType at given
      split at given
      · cases given
      · cases given
        rw [← Option.some.inj typed]
        decide
      · cases given
      next _ other _ => exact iff_of_true (Option.some.inj (typed.symm.trans given)) other
    · rintro rfl malloc binds bound
      cases given
      have raised : (raiseMaxLen types data)[k]? = some ⟨.binary, max 0 values.2⟩ := by
        rw [raiseMaxLen, getElem?_zipWith, isType, isColumn]
      have isData : (data.map Prod.fst)[k]? = some values.1 := by rw [getElem?_map, isColumn]; rfl
      unfold taosStmtBindParamBatch at bound
      split at bound
      next => cases bound
      next =>
        obtain ⟨bind, _, made⟩ := bindColumns_get bound isData raised
        obtain ⟨lists, stored, _⟩ := bind_eq_ok.mp made
        have asserted := valueType_of_bindRows stored value mem
        rw [← Option.some.inj typed] at asserted
        cases asserted

/-- A block of one row with a varbinary of one byte. -/
def varbinaryBlock : Bytes :=
  leBytes 8 0 ++ leBytes 4 1 ++ leBytes 4 1 ++ leBytes 12 0 ++ [16] ++ leBytes 4 3 ++ leBytes 4 3 ++
    leBytes 4 0 ++ [1, 0, 7]

theorem rowBlock_types_agree_varbinary :
    parseRowBlockInfo varbinaryBlock 0 1 = .ok (.ok ([rowBlockField 16], [⟨.binary, 0⟩])) ∧
      blockConvert varbinaryBlock 0 1 [rowBlockField 16] = .ok [([some (.varBinary [7])], 1)] ∧
      ∀ malloc binds,
        taosStmtBindParamBatch malloc [[some (.varBinary [7])]] [⟨.binary, 1⟩] ≠ .ok binds := by
  have accepted : rowBlockColumns [16] = .ok ([rowBlockField 16], [⟨.binary, 0⟩]) := by decide
  have converted : blockConvert varbinaryBlock 0 1 [rowBlockField 16] =
      .ok [([some (.varBinary [7])], 1)] := by decide
  have isCode : [16][0]? = some 16 := rfl
  obtain ⟨_, _, _, fails⟩ := rowBlock_types_agree accepted converted isCode rfl mem_cons_self
  exact ⟨by decide, converted, fails rfl⟩

end TaosAdapter.Binary
