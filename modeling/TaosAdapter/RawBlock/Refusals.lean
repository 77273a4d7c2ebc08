import TaosAdapter.RawBlock.Serializer

/-!
Owns: the inputs for which `SerializeRawBlock` returns an error, and those that
a block cannot represent.

The number of rows is that of the first column, so a shorter column panics and a
longer one is cut. A missing type panics, and a length above 16 bits is written
modulo 65536. The only error behind the checks of the column types is that of a
value of another Go type, and only if the walk comes to that value.
-/

namespace TaosAdapter.RawBlock

open Lib Driver List

def payloadLength : TaosValue → Nat
  | .binary v => v.length
  | .varBinary v => v.length
  | .geometry v => v.length
  | .json v => v.length
  | .nchar v => 4 * (utf8Decode v).length
  | _ => 0

/-- Columns of the same length, each with a type that is set, whose values are of
that type and not too long. -/
structure Representable (params : List (List Cell)) (colType : ColumnType) : Prop where
  columns : params ≠ []
  rows : ∃ rows, ∀ cells ∈ params, cells.length = rows
  complete : colType.size = colType.column
  counted : colType.value.length = params.length
  declared : ∀ type ∈ colType.value, ∃ known, type = some known ∧ known ≠ .other
  typed : ∀ column ∈ colType.value.zip params, ∀ value, some value ∈ column.2 →
    column.1 = some (valueType value)
  short : ∀ cells ∈ params, ∀ value, some value ∈ cells → payloadLength value ≤ 65535

def ErrorUnlessRepresentable (params : List (List Cell)) (colType : ColumnType) : Prop :=
  ¬ Representable params colType → ∃ reason, serializeRawBlock params colType = .error reason

def KnownPrecision : TaosValue → Prop
  | .timestamp _ precision => (precisionUnit precision).isSome = true
  | _ => True

def CellPasses (type : TaosType) (cell : Cell) : Prop :=
  ∀ value, cell = some value → valueType value = type ∧ KnownPrecision value

def CellFails (type : TaosType) (cell : Cell) : Prop :=
  ∃ value, cell = some value ∧ valueType value ≠ type

def ColumnPasses (rows : Nat) (column : Option TaosType × List Cell) : Prop :=
  ∃ type, column.1 = some type ∧ (type ≠ .other → AllPass (CellPasses type) rows column.2)

def ColumnFails (rows : Nat) (column : Option TaosType × List Cell) : Prop :=
  ∃ type, column.1 = some type ∧ type ≠ .other ∧
    FirstFailure (CellPasses type) (CellFails type) rows column.2

/-- There is a column, and the types are incomplete, are not as many as the
columns, or the first column not written has a value of another type, behind
cells that are written. -/
def Refused (params : List (List Cell)) (colType : ColumnType) : Prop :=
  ∃ first rest, params = first :: rest ∧ (colType.size ≠ colType.column ∨
    colType.value.length ≠ params.length ∨
      FirstFailure (ColumnPasses first.length) (ColumnFails first.length) params.length
        (colType.value.zip params))

def encoder : TaosType → Encode
  | .bool => encodeBool
  | .tinyint => encodeTinyint
  | .smallint => encodeSmallint
  | .int => encodeInt
  | .bigint => encodeBigint
  | .utinyint => encodeUTinyint
  | .usmallint => encodeUSmallint
  | .uint => encodeUInt
  | .ubigint => encodeUBigint
  | .float => encodeFloat
  | .double => encodeDouble
  | .timestamp => encodeTimestamp
  | .binary => encodeBinary
  | .varBinary => encodeVarBinary
  | .geometry => encodeGeometry
  | .nchar => encodeNchar
  | .json => encodeJson
  | .other => fun _ => .error .dataTypeWrong

variable {value : TaosValue}

theorem encoder_of_ne {type : TaosType} (other : valueType value ≠ type) :
    encoder type value = .error .dataTypeWrong := by
  cases type <;> cases value <;> first | rfl | exact absurd rfl other

theorem encoder_of_type (declared : valueType value ≠ .other) :
    (∃ bytes, encoder (valueType value) value = .ok bytes) ↔ KnownPrecision value := by
  cases value with
  | timestamp t prec =>
    simp only [valueType, encoder, encodeTimestamp, timeToTimestamp, KnownPrecision]
    cases precisionUnit prec with
    | none | some => simp
  | other => exact absurd rfl declared
  | _ => exact iff_of_true ⟨_, rfl⟩ trivial

theorem no_error_of_type (declared : valueType value ≠ .other) (reason : Error) :
    encoder (valueType value) value ≠ .error reason := by
  cases value with
  | timestamp t prec =>
    simp only [valueType, encoder, encodeTimestamp, timeToTimestamp]
    cases precisionUnit prec with
    | none | some => simp
  | other => exact absurd rfl declared
  | _ =>
    intro failed
    cases failed

section

variable {type : TaosType} (declared : type ≠ .other)
include declared

theorem encoder_verdict (value : TaosValue) :
    (encoder type value).Verdict (valueType value = type ∧ KnownPrecision value)
      (valueType value ≠ type) := by
  by_cases typed : valueType value = type
  · subst typed
    rw [and_iff_right rfl]
    exact ⟨encoder_of_type declared, iff_of_false (fun ⟨reason,
      failed⟩ => no_error_of_type declared reason failed) fun other => other rfl⟩
  · rw [encoder_of_ne typed]
    exact ⟨iff_of_false nofun fun both => typed both.1, iff_of_true ⟨_, rfl⟩ typed⟩

theorem row_verdict {Acc : Type} (row : Cell → Outcome Error Acc) {null : Acc}
    {written : TaosValue → Bytes → Acc} (ofNull : row none = .ok null)
    (ofValue : ∀ value, row (some value) =
      encoder type value >>= fun bytes => .ok (written value bytes)) (cell : Cell) :
    (row cell).Verdict (CellPasses type cell) (CellFails type cell) := by
  cases cell with
  | none =>
    rw [ofNull]
    exact ⟨iff_of_true ⟨null, rfl⟩ nofun, iff_of_false nofun nofun⟩
  | some value =>
    rw [ofValue]
    simp only [CellPasses, CellFails, Option.some.injEq, forall_eq', exists_eq_left']
    exact (encoder_verdict declared value).bind_ok _

theorem fixedColumn_verdict (rows code size : Nat) (rowData : List Cell) :
    (fixedColumn rows code size (encoder type) rowData).Verdict
      (AllPass (CellPasses type) rows rowData)
      (FirstFailure (CellPasses type) (CellFails type) rows rowData) :=
  (eachItem_verdict (fun i cell dataTmp => row_verdict declared
    (fixedRow (bitmapLen rows) size (encoder type) i · dataTmp) rfl (fun _ => rfl) cell)
      rows 0 rowData _).bind_ok _

theorem varColumn_verdict (rows code : Nat) (rowData : List Cell) :
    (varColumn rows code (encoder type) rowData).Verdict (AllPass (CellPasses type) rows rowData)
      (FirstFailure (CellPasses type) (CellFails type) rows rowData) :=
  (eachItem_verdict (fun i cell acc => row_verdict declared
    (varRow (encoder type) i · acc) rfl (fun _ => rfl) cell) rows 0 rowData _).bind_ok _

theorem serializeColumn_verdict (rows : Nat) (rowData : List Cell) :
    (serializeColumn rows type rowData).Verdict (AllPass (CellPasses type) rows rowData)
      (FirstFailure (CellPasses type) (CellFails type) rows rowData) := by
  cases type with
  | binary | varBinary | geometry | nchar | json => exact varColumn_verdict declared rows _ rowData
  | other => exact absurd rfl declared
  | _ => exact fixedColumn_verdict declared rows _ _ rowData

end

theorem appendColumn_verdict (rows : Nat) (col : Option TaosType × List Cell) (acc : Column) :
    (appendColumn rows col acc).Verdict (ColumnPasses rows col) (ColumnFails rows col) := by
  obtain ⟨type, rowData⟩ := col
  cases type with
  | none => exact ⟨iff_of_false nofun nofun, iff_of_false nofun nofun⟩
  | some type =>
    simp only [ColumnPasses, ColumnFails, Option.some.injEq, exists_eq_left']
    by_cases declared : type = .other
    · subst declared
      exact ⟨iff_of_true ⟨_, rfl⟩ fun other => absurd rfl other,
        iff_of_false nofun fun fails => fails.1 rfl⟩
    · simp only [ne_eq, declared, not_false_eq_true, true_imp_iff, true_and]
      exact (serializeColumn_verdict declared rows rowData).bind_ok _

theorem serializeRawBlock_error_iff (params : List (List Cell)) (colType : ColumnType) :
    (∃ reason, serializeRawBlock params colType = .error reason) ↔ Refused params colType := by
  cases params with
  | nil => exact iff_of_false nofun nofun
  | cons first rest =>
    have walk := eachItem_verdict (fun _ => appendColumn_verdict first.length)
      (first :: rest).length 0 (colType.value.zip (first :: rest)) ⟨[], [], []⟩
    have refused : Refused (first :: rest) colType ↔ colType.size ≠ colType.column ∨
        colType.value.length ≠ (first :: rest).length ∨
          FirstFailure (ColumnPasses first.length) (ColumnFails first.length)
            (first :: rest).length (colType.value.zip (first :: rest)) := by
      constructor
      · rintro ⟨_, _, same, kind⟩
        cases same
        exact kind
      · exact fun kind => ⟨first, rest, rfl, kind⟩
    rw [refused]
    unfold serializeRawBlock ColumnType.getValue
    by_cases complete : colType.size = colType.column
    · rw [if_neg (not_not.mpr complete)]
      simp only [Outcome.ok_bind, ne_eq, complete, not_true_eq_false, false_or]
      by_cases counted : colType.value.length = (first :: rest).length
      · rw [if_neg (not_not.mpr counted), or_iff_right (not_not.mpr counted)]
        exact (walk.bind_ok _).error
      · rw [if_pos counted]
        exact iff_of_true ⟨_, rfl⟩ (.inl counted)
    · rw [if_pos complete]
      exact iff_of_true ⟨_, rfl⟩ (.inl complete)

/-- An input is an error unless it can be represented exactly if it can be
represented or is refused. -/
theorem error_unless_representable_iff (params : List (List Cell)) (colType : ColumnType) :
    ErrorUnlessRepresentable params colType ↔
      Representable params colType ∨ Refused params colType := by
  rw [ErrorUnlessRepresentable, serializeRawBlock_error_iff, or_iff_not_imp_left]

/-- No columns, a shorter column and a missing type panic; a longer column and a
text of 65536 bytes are put into a block. -/
theorem unrepresentable_not_refused :
    (¬ ErrorUnlessRepresentable [] ⟨0, [], 0⟩) ∧
    (¬ ErrorUnlessRepresentable [[some (.int 1)], []] ⟨2, [some .int, some .int], 2⟩) ∧
    (¬ ErrorUnlessRepresentable [[some (.int 1)]] ⟨1, [none], 1⟩) ∧
    (¬ ErrorUnlessRepresentable [[some (.int 1)], [none, none]] ⟨2, [some .int, some .int], 2⟩) ∧
    ¬ ErrorUnlessRepresentable [[some (.binary (List.replicate 65536 97))]]
      ⟨1, [some .binary], 1⟩ := by
  refine ⟨fun refuses => ?_, fun refuses => ?_, fun refuses => ?_, fun refuses => ?_,
    fun refuses => ?_⟩
  · obtain ⟨reason, failed⟩ := refuses fun representable => representable.columns rfl
    cases failed
  · obtain ⟨reason, failed⟩ := refuses fun representable => by
      obtain ⟨rows, same⟩ := representable.rows
      have first := same [some (.int 1)] (by decide)
      have second := same [] (by decide)
      exact absurd (first.trans second.symm) (by decide)
    cases failed
  · obtain ⟨reason, failed⟩ := refuses fun representable => by
      obtain ⟨known, isKnown, _⟩ := representable.declared none (by decide)
      cases isKnown
    cases failed
  · obtain ⟨reason, failed⟩ := refuses fun representable => by
      obtain ⟨rows, same⟩ := representable.rows
      have first := same [some (.int 1)] (by decide)
      have second := same [none, none] (by decide)
      exact absurd (first.trans second.symm) (by decide)
    cases failed
  · obtain ⟨reason, failed⟩ := refuses fun representable => by
      have short := representable.short _ mem_cons_self _ mem_cons_self
      rw [payloadLength, length_replicate] at short
      omega
    cases failed

end TaosAdapter.RawBlock
