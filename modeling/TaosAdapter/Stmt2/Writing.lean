import TaosAdapter.Stmt2.Records

/-!
Owns: the records that marshaling writes. Every tag, column or argument that is
marshaled gives a record that encodes it.
-/

namespace TaosAdapter.Stmt2

open Lib Driver List Outcome

section

variable {prec : Int}

def Writes (prec : Int) (size : Nat) (write : WriteValue) : Prop :=
  ∀ v bytes, write v = .ok bytes → bytes = valueBytes prec v ∧ bytes.length = size

variable {size : Nat}

theorem writes_bits {expect : String} {bits : Value → Option Nat}
    (agree : ∀ v value, bits v = some value → leBytes size value = valueBytes prec v) :
    Writes prec size (writeBits size expect bits) := by
  intro v bytes written
  unfold writeBits at written
  cases found : bits v with
  | none => rw [found] at written; cases written
  | some value =>
    rw [found] at written
    obtain rfl := Outcome.ok.inj written
    exact ⟨agree v value found, length_leBytes size value⟩

theorem writes_bool : Writes prec 1 writeBool := by
  refine writes_bits fun v value found => ?_
  cases v with
  | bool b => cases b <;> cases found <;> rfl
  | _ => cases found

theorem writes_timestamp : Writes prec 8 (writeTimestamp prec) := by
  intro v bytes written
  cases v with
  | int64 bits =>
    obtain rfl := Outcome.ok.inj written
    exact ⟨rfl, length_leBytes 8 _⟩
  | time t =>
    obtain ⟨timestamp, converted, written⟩ := bind_eq_ok.mp written
    obtain rfl := Outcome.ok.inj written
    refine ⟨?_, length_leBytes 8 _⟩
    unfold timeToTimestamp at converted
    split at converted
    next unit known =>
      obtain rfl := Outcome.ok.inj converted
      simp only [valueBytes, timeToTimestamp, known]
    next => cases converted
  | _ => cases written

theorem fixedCase_writes {code : Nat} {write : WriteValue}
    (found : fixedCase prec code = some (size, write)) :
    code < 128 ∧ size = typeLengthMap code ∧ 0 < size ∧ Writes prec size write := by
  unfold fixedCase at found
  split at found
  all_goals cases found
  case h_1 => exact ⟨by decide, rfl, by decide, writes_bool⟩
  case h_8 => exact ⟨by decide, rfl, by decide, writes_timestamp⟩
  all_goals
    refine ⟨by decide, rfl, by decide, writes_bits fun v value found => ?_⟩
    cases v <;> cases found
    rfl

theorem writeVar_eq (prec : Int) {v : Value} {bytes : Bytes} (written : writeVar v = .ok bytes) :
    bytes = valueBytes prec v := by
  cases v with
  | string | bytes => exact (Outcome.ok.inj written).symm
  | _ => cases written

end

section

variable {prec : Int} {size : Nat} {write : WriteValue}

def rowsOf (prec : Int) (data : List (Option Value)) : List (Option Bytes) :=
  data.map (Option.map (valueBytes prec))

variable {data : List (Option Value)} {isNull buf : Bytes}

theorem fixedRows_eq (writes : Writes prec size write)
    (written : fixedRows size write data = .ok (isNull, buf)) :
    isNull = (rowsOf prec data).map nullFlag ∧
      (∀ bytes, some bytes ∈ rowsOf prec data → bytes.length = size) ∧ buf =
          ((rowsOf prec data).map fun row => row.getD (List.replicate size 0)).flatten := by
  induction data generalizing isNull buf with
  | nil =>
    obtain ⟨rfl, rfl⟩ := Prod.mk.inj (Outcome.ok.inj written)
    exact ⟨rfl, by simp [rowsOf], rfl⟩
  | cons value rows ih =>
    cases value with
    | none =>
      obtain ⟨⟨restNull, restBuffer⟩, restWritten, here⟩ := bind_eq_ok.mp written
      obtain ⟨rfl, rfl⟩ := Prod.mk.inj (Outcome.ok.inj here)
      obtain ⟨flags, sizes, values⟩ := ih restWritten
      refine ⟨congrArg (List.cons 1) flags, fun bytes mem => ?_, ?_⟩
      · rcases mem_cons.mp mem with impossible | later
        · cases impossible
        · exact sizes bytes later
      · exact congrArg (List.replicate size 0 ++ ·) values
    | some v =>
      obtain ⟨bytes, valueWritten, written⟩ := bind_eq_ok.mp written
      obtain ⟨⟨restNull, restBuffer⟩, restWritten, here⟩ := bind_eq_ok.mp written
      obtain ⟨rfl, rfl⟩ := Prod.mk.inj (Outcome.ok.inj here)
      obtain ⟨flags, sizes, values⟩ := ih restWritten
      obtain ⟨rfl, length⟩ := writes v bytes valueWritten
      refine ⟨congrArg (List.cons 0) flags, fun bytes mem => ?_, ?_⟩
      · rcases mem_cons.mp mem with same | later
        · cases same
          exact length
        · exact sizes bytes later
      · exact congrArg (valueBytes prec v ++ ·) values

theorem varRows_eq (prec : Int) {lengths : List Nat}
    (written : varRows data = .ok (isNull, lengths, buf)) :
    isNull = (rowsOf prec data).map nullFlag ∧ lengths = (rowsOf prec data).map rowLength ∧
        buf = ((rowsOf prec data).map fun row => row.getD []).flatten := by
  induction data generalizing isNull lengths buf with
  | nil =>
    obtain ⟨⟩ := written
    exact ⟨rfl, rfl, rfl⟩
  | cons value rows ih =>
    cases value with
    | none =>
      obtain ⟨⟨restNull, restLengths, restBuffer⟩, restWritten, here⟩ :=
        bind_eq_ok.mp written
      obtain ⟨⟩ := here
      obtain ⟨flags, sizes, values⟩ := ih restWritten
      exact ⟨congrArg (List.cons 1) flags, congrArg (List.cons 0) sizes, values⟩
    | some v =>
      obtain ⟨bytes, valueWritten, written⟩ := bind_eq_ok.mp written
      obtain ⟨⟨restNull, restLengths, restBuffer⟩, restWritten, here⟩ :=
        bind_eq_ok.mp written
      obtain ⟨⟩ := here
      obtain ⟨flags, sizes, values⟩ := ih restWritten
      obtain rfl := writeVar_eq prec valueWritten
      exact ⟨congrArg (List.cons 0) flags, congrArg (List.cons (valueBytes prec v).length) sizes,
        congrArg (valueBytes prec v ++ ·) values⟩

theorem typeBits_lt (field : Stmt2AllField) : field.typeBits < 2 ^ 32 :=
  (field.fieldType.signExtend 32).isLt

theorem int32_typeBits (field : Stmt2AllField) : int32 field.typeBits = field.fieldType.toInt := by
  rw [int32, Stmt2AllField.typeBits, BitVec.ofInt_natCast, BitVec.ofNat_toNat, BitVec.setWidth_eq]
  exact BitVec.toInt_signExtend_of_le (by decide)

theorem encodes_allNull (allNull : checkAllNull data = true) (field : Stmt2AllField) :
    Encodes ⟨field.typeBits, List.replicate data.length 1,
        if needLength field.fieldType.toNat then some (List.replicate data.length 0) else none, []⟩
      (columnData field data) := by
  have nulls : ∀ row ∈ data, row = none := by
    simpa [checkAllNull, Option.isNone_iff_eq_none] using allNull
  obtain ⟨count, rfl⟩ : ∃ count, data = List.replicate count none :=
    ⟨data.length, eq_replicate_iff.mpr ⟨rfl, nulls⟩⟩
  refine ⟨typeBits_lt field, int32_typeBits field, ?_, ?_, ?_, ?_⟩
  · simp [columnData, nullFlag]
  · simp [columnData, rowLength]
  · intro _
    simp [columnData]
  · intro _
    exact .inl (by simp [columnData])

theorem generateBindColData_encodes {field : Stmt2AllField} {bytes : Bytes}
    (generated : generateBindColData data field = .ok bytes) :
    ∃ record : Record, record.bytes = bytes ∧ Encodes record (columnData field data) := by
  dsimp only [generateBindColData] at generated
  split at generated
  next allNull =>
    refine ⟨_, ?_, encodes_allNull allNull field⟩
    exact Outcome.ok.inj generated
  next =>
    split at generated
    next sized =>
      obtain ⟨⟨isNull, lengths, buf⟩, written, here⟩ := bind_eq_ok.mp generated
      obtain ⟨flags, sizes, values⟩ := varRows_eq field.precision.toNat written
      refine ⟨⟨field.typeBits, isNull, some lengths, buf⟩, Outcome.ok.inj here,
        typeBits_lt field, int32_typeBits field, flags, ?_, fun _ => values, fun notSized => ?_⟩
      · exact (congrArg some sizes).trans (if_pos sized).symm
      · exact absurd (sized.symm.trans notSized) (by decide)
    next notSized =>
      split at generated
      next size write found =>
        obtain ⟨⟨isNull, buf⟩, written, here⟩ := bind_eq_ok.mp generated
        obtain ⟨small, width, wide, writes⟩ := fixedCase_writes found
        obtain ⟨flags, sizes, values⟩ := fixedRows_eq writes written
        have type : field.fieldType.toInt.toNat = field.fieldType.toNat := by
          rw [BitVec.toInt_eq_toNat_of_lt (by omega), Int.toNat_natCast]
        refine ⟨⟨field.typeBits, isNull, none, buf⟩, Outcome.ok.inj here,
          typeBits_lt field, int32_typeBits field, flags, (if_neg notSized).symm,
          fun sized => absurd sized notSized, fun _ => .inr ?_⟩
        change 0 < typeLengthMap field.fieldType.toInt.toNat ∧ _
        rw [columnData, type, ← width]
        exact ⟨wide, sizes, values⟩
      next => cases generated

end

variable {formatRFC3339Nano : Time → Bytes}

theorem queryValue_size {v : Value} {code : Nat} {buf : Bytes}
    (found : queryValue formatRFC3339Nano v = some (code, buf)) :
    code < 128 ∧ (code ≠ TSDB_DATA_TYPE_BINARY →
      0 < typeLengthMap code ∧ buf.length = typeLengthMap code) := by
  cases v <;> cases found
  all_goals refine ⟨by decide, fun notBinary => ?_⟩
  all_goals first
    | exact absurd rfl notBinary
    | exact ⟨by decide, rfl⟩

variable {bytes : Bytes}

theorem generateBindQueryData_encodes {value : Option Value} {rest : List (Option Value)}
    (generated : generateBindQueryData formatRFC3339Nano value = .ok bytes) :
    ∃ record : Record, record.bytes = bytes ∧
      Encodes record (argumentData formatRFC3339Nano (value :: rest)) := by
  unfold generateBindQueryData at generated
  split at generated
  next code buf found =>
    obtain ⟨v, rfl, queried⟩ := Option.bind_eq_some_iff.mp found
    obtain ⟨small, fixed⟩ := queryValue_size queried
    have argument : argumentData formatRFC3339Nano (some v :: rest) =
        ⟨code, code == TSDB_DATA_TYPE_BINARY, [some buf]⟩ := by
      simp [argumentData, queried]
    have small32 : code < 2 ^ 32 := by omega
    have plain : int32 code = code := int32_of_lt (by omega) (by omega)
    rw [argument]
    refine ⟨⟨code, [0], if code = TSDB_DATA_TYPE_BINARY then some [buf.length] else none, buf⟩,
      Outcome.ok.inj generated, small32, plain, rfl, ?_, fun _ => by simp, fun notBinary => ?_⟩
    · simp [rowLength]
    · obtain ⟨wide, length⟩ := fixed (by simpa using notBinary)
      exact .inr ⟨wide, by simp [length], by simp⟩
  next => cases generated

variable {cols : List (List (Option Value))}

theorem marshalRecords_encodes {fields : List Stmt2AllField}
    (marshaled : marshalRecords cols fields = .ok bytes) :
    ∃ records : List Record, (records.map Record.bytes).flatten = bytes ∧
      List.Forall₂ Encodes records (List.zipWith columnData fields cols) := by
  induction cols generalizing fields bytes with
  | nil =>
    obtain rfl := Outcome.ok.inj marshaled
    exact ⟨[], rfl, by simp⟩
  | cons col cols ih =>
    cases fields with
    | nil => cases marshaled
    | cons field fields =>
      obtain ⟨first, generated, rest⟩ := bind_eq_ok.mp marshaled
      obtain ⟨others, marshaledRest, here⟩ := bind_eq_ok.mp rest
      obtain ⟨record, rfl, encodes⟩ := generateBindColData_encodes generated
      obtain ⟨records, rfl, encodesRest⟩ := ih marshaledRest
      exact ⟨record :: records, Outcome.ok.inj here, .cons encodes encodesRest⟩

theorem marshalArguments_encodes (marshaled : marshalArguments formatRFC3339Nano cols = .ok bytes) :
    ∃ records : List Record, (records.map Record.bytes).flatten = bytes ∧
      List.Forall₂ Encodes records (cols.map (argumentData formatRFC3339Nano)) := by
  induction cols generalizing bytes with
  | nil =>
    obtain rfl := Outcome.ok.inj marshaled
    exact ⟨[], rfl, .nil⟩
  | cons col cols ih =>
    cases col with
    | nil => cases marshaled
    | cons value rest =>
      obtain ⟨first, generated, later⟩ := bind_eq_ok.mp marshaled
      obtain ⟨others, marshaledRest, here⟩ := bind_eq_ok.mp later
      obtain ⟨record, rfl, encodes⟩ := generateBindQueryData_encodes generated
      obtain ⟨records, rfl, encodesRest⟩ := ih marshaledRest
      exact ⟨record :: records, Outcome.ok.inj here, .cons encodes encodesRest⟩

end TaosAdapter.Stmt2
