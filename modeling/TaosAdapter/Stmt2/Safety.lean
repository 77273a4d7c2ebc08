import TaosAdapter.Stmt2.Bounds

/-!
Owns: memory safety of the bind of a message. A run is safe when it ends with an
error, or hands over names and binds whose ranges lie in the message; a read or
a write outside is a fault, and not safe. `WellBounded` says for which messages
the run is safe.
-/

namespace TaosAdapter.Stmt2

open Lib List Option

structure Bind.RangesInside (data : Bytes) (bind : Bind) : Prop where
  isNull : Within data bind.isNull bind.num.toNat
  length : ∀ pointer, bind.length = some pointer → Within data pointer (4 * bind.num).toNat
  buffer : ∀ pointer, bind.buffer = some pointer → Within data pointer bind.bufferLength.toNat

structure Call.RangesInside (data : Bytes) (call : Call) : Prop where
  names : ∀ names, call.bindV.tbnames = some names → ∀ name ∈ names,
    Within data name.pointer name.length
  tags : ∀ tables, call.bindV.tags = some tables → ∀ binds ∈ tables, ∀ bind ∈ binds,
    bind.RangesInside data
  cols : ∀ tables, call.bindV.bindCols = some tables → ∀ binds ∈ tables, ∀ bind ∈ binds,
    bind.RangesInside data

def Safe (data : Bytes) : Bound Call → Prop
  | .ok call => call.RangesInside data
  | .error _ => True
  | .panic => False
  | .fault => False

def RecordInside (data : Bytes) (pointer : Int) : Prop :=
  (haveLengthAt data pointer ≠ 0 → pointer + 13 + 5 * numAt data pointer ≤ data.length) ∧
    recordEndAt data pointer ≤ data.length

structure HandedInside (data : Bytes) (header : Header) : Prop where
  names : 0 < header.tableNamesOffset →
    header.tableNamesOffset + uint32 (2 * header.count) +
      lengthSum data header.tableNamesOffset 2 header.count ≤ data.length
  tags : header.HasTags → ∀ index < header.count * header.tagCount,
    RecordInside data (recordAt data header.tagsStart index)
  cols : header.HasCols → ∀ index < header.count * header.colCount,
    RecordInside data (recordAt data header.colsStart index)

def WellBounded (data : Bytes) : Prop :=
  Accepted data → Bounded data (headerOf data) ∧
    (Passes data (headerOf data) → HandedInside data (headerOf data))

section

variable {data : Bytes} {header : Header}

theorem rangesInside_bindAt_iff {ptr : Int} (readable : Readable data ptr) :
    (bindAt data ptr).RangesInside data ↔ RecordInside data ptr := by
  obtain ⟨⟨low, high⟩, ⟨flagLow, flagHigh⟩, ⟨endLow, endHigh⟩⟩ := readable
  constructor
  · rintro ⟨_, length, buf⟩
    constructor
    · intro present
      have inside := (length _ (if_neg present)).2
      change
        ptr + 12 + numAt data ptr + 1 + ((4 * numAt data ptr).toNat : Int) ≤ _ at inside
      omega
    · rw [recordEndAt]
      split
      next pos =>
        have inside := (buf _ (if_pos pos)).2
        change
          lengthEndAt data ptr + 4 + ((bufferLengthAt data ptr).toNat : Int) ≤ _ at inside
        omega
      next => omega
  · rintro ⟨lengths, finish⟩
    refine ⟨?_, ?_, ?_⟩
    · change 0 ≤ ptr + 12 ∧ ptr + 12 + ((numAt data ptr).toNat : Int) ≤ _
      omega
    · intro here found
      change (if haveLengthAt data ptr = 0 then none else some _) = some here at found
      split at found
      next => cases found
      next present =>
        cases found
        have inside := lengths present
        change 0 ≤ ptr + 12 + numAt data ptr + 1 ∧
          ptr + 12 + numAt data ptr + 1 + ((4 * numAt data ptr).toNat : Int) ≤ _
        omega
    · intro here found
      change (if 0 < bufferLengthAt data ptr then some _ else none) = some here at found
      split at found
      next pos =>
        cases found
        rw [recordEndAt, if_pos pos] at finish
        change 0 ≤ lengthEndAt data ptr + 4 ∧
          lengthEndAt data ptr + 4 + ((bufferLengthAt data ptr).toNat : Int) ≤ _
        omega
      next => cases found

theorem forall_mem_bindsAt_iff (data : Bytes) (count fieldCount : Nat) (start : Int)
    (Property : Bind → Prop) :
    (∀ binds ∈ bindsAt data count fieldCount start, ∀ bind ∈ binds, Property bind) ↔
      ∀ idx < count * fieldCount, Property (bindAt data (recordAt data start idx)) := by
  rw [← forall_nested_iff fun idx => Property (bindAt data (recordAt data start idx))]
  simp [bindsAt, tableAt]

theorem records_rangesInside_iff {start : Int} {count fieldCount : Nat} {bindStruct : Part}
    (readable : RecordsReadable data start (count * fieldCount) bindStruct)
    (sound : RecordsSound data start (count * fieldCount)) :
    (∀ binds ∈ bindsAt data count fieldCount start, ∀ bind ∈ binds, bind.RangesInside data) ↔
      ∀ idx < count * fieldCount, RecordInside data (recordAt data start idx) := by
  rw [forall_mem_bindsAt_iff data count fieldCount start (Bind.RangesInside data)]
  refine forall_congr' fun idx => forall_congr' fun high => rangesInside_bindAt_iff ?_
  exact (readable idx high fun earlier before => sound earlier (before.trans high)).2

theorem lengthSum_mono (data : Bytes) (off width : Nat) {few many : Nat} (le : few ≤ many) :
    lengthSum data off width few ≤ lengthSum data off width many :=
  Finset.sum_le_sum_of_subset (Finset.range_subset_range.mpr le)

theorem names_rangesInside_iff {totalLength count off : Nat} (low : off < 2 ^ 32)
    (declared : totalLength ≤ data.length) (fits : Fits data totalLength count 2 off) :
    (∀ name ∈ (List.range count).map (nameAt data count off),
        Within data name.pointer name.length) ↔
      off + uint32 (2 * count) + lengthSum data off 2 count ≤ data.length := by
  constructor
  · intro all
    cases count with
    | zero =>
      have start : uint32 off ≤ totalLength := by simpa [lengthsEnd, uint32] using fits.1
      rw [uint32_of_lt low] at start
      have nothing : uint32 (2 * 0) = 0 := rfl
      rw [nothing, lengthSum_zero]
      omega
    | succ last =>
      have inside := (all _ (mem_map_of_mem (mem_range.mpr (Nat.lt_succ_self last)))).2
      rw [lengthSum_succ]
      simp only [nameAt] at inside
      omega
  · intro finish name mem
    obtain ⟨idx, inRange, rfl⟩ := mem_map.mp mem
    have within := lengthSum_mono data off 2 (Nat.succ_le_of_lt (mem_range.mp inRange))
    rw [Nat.succ_eq_add_one, lengthSum_succ] at within
    constructor
    · simp only [nameAt]
      omega
    · simp only [nameAt]
      omega

theorem rangesInside_callOf_iff (colIdx : Int) (accepted : Accepted data)
    (bounded : Bounded data (headerOf data)) (passes : Passes data (headerOf data)) :
    (callOf data (headerOf data) colIdx).RangesInside data ↔ HandedInside data (headerOf data) := by
  have declared : (headerOf data).totalLength ≤ data.length :=
    accepted.2.le.trans (Nat.mod_le _ _)
  have readable := ((bounded.2 passes.names).2 passes.tags).2 passes.cols
  have names := fun given => names_rangesInside_iff (small_headerOf data).tableNamesOffset declared
    (passes.names given)
  have tags := fun has => records_rangesInside_iff (readable.1 has).2 (passes.tagsSound has)
  have cols := fun has => records_rangesInside_iff (readable.2 passes.tagsSound has)
    (passes.colsSound has)
  constructor
  · rintro ⟨namesInside, tagsInside, colsInside⟩
    exact ⟨fun given => (names given).mp (namesInside _ (if_pos given)),
      fun has => (tags has).mp (tagsInside _ (if_pos has)),
      fun has => (cols has).mp (colsInside _ (if_pos has))⟩
  · rintro ⟨namesInside, tagsInside, colsInside⟩
    refine ⟨fun handed found => ?_, fun handed found => ?_, fun handed found => ?_⟩
    · obtain ⟨given, ⟨⟩⟩ := ite_none_right_eq_some.mp found
      exact (names given).mpr (namesInside given)
    · obtain ⟨has, ⟨⟩⟩ := ite_none_right_eq_some.mp found
      exact (tags has).mpr (tagsInside has)
    · obtain ⟨has, ⟨⟩⟩ := ite_none_right_eq_some.mp found
      exact (cols has).mpr (colsInside has)

end

/-- The bind of a message is safe exactly for the messages that are well
bounded. -/
theorem taosStmt2BindBinary_safe_iff (data : Bytes) (colIdx : Int) :
    Safe data (taosStmt2BindBinary data colIdx) ↔ WellBounded data := by
  cases settles_taosStmt2BindBinary data colIdx with
  | fault undefined here =>
    rw [here]
    exact ⟨False.elim, fun wellBounded => undefined fun accepted => (wellBounded accepted).1⟩
  | error bounded rejected reason here =>
    rw [here]
    exact ⟨fun _ accepted => ⟨bounded accepted, fun passes =>
      absurd ⟨accepted, passes⟩ rejected⟩, fun _ => trivial⟩
  | ok bounded passes here =>
    obtain ⟨accepted, passes⟩ := passes
    rw [here]
    refine (rangesInside_callOf_iff colIdx accepted (bounded accepted) passes).trans ⟨?_, ?_⟩
    · exact fun inside _ => ⟨bounded accepted, fun _ => inside⟩
    · exact fun wellBounded => (wellBounded accepted).2 passes

/-- A header of one table and one column, the length of the column, and a record
of one row: type, number of rows, one flag, no lengths, and a buffer that is
declared and not there. -/
def overlongBuffer : Bytes :=
  leBytes 4 50 ++ leBytes 4 1 ++ leBytes 4 0 ++ leBytes 4 1 ++ leBytes 4 0 ++ leBytes 4 0 ++
    leBytes 4 28 ++ leBytes 4 1 ++
      (leBytes 4 1018 ++ leBytes 4 4 ++ leBytes 4 1 ++ [0] ++ [0] ++ leBytes 4 1000)

def overlongNum : Bytes :=
  leBytes 4 44 ++ leBytes 4 1 ++ leBytes 4 0 ++ leBytes 4 1 ++ leBytes 4 0 ++ leBytes 4 0 ++
    leBytes 4 28 ++ leBytes 4 1 ++ (leBytes 4 16 ++ leBytes 4 4 ++ leBytes 4 (2 ^ 30))

/-- Every check passes and a buffer of 1000 bytes behind the message is handed
over; or the flag behind 2 ^ 30 rows is read. -/
theorem taosStmt2BindBinary_leaves_message :
    (overlongBuffer.length = 50 ∧
      taosStmt2BindBinary overlongBuffer 0 =
        .ok ⟨⟨1, none, none, some [[⟨4, 1, 44, none, some 50, 1000⟩]]⟩, 0⟩ ∧
      ¬ Safe overlongBuffer (taosStmt2BindBinary overlongBuffer 0)) ∧
    taosStmt2BindBinary overlongNum 0 = .fault := by
  have handed : taosStmt2BindBinary overlongBuffer 0 =
      .ok ⟨⟨1, none, none, some [[⟨4, 1, 44, none, some 50, 1000⟩]]⟩, 0⟩ := by decide
  refine ⟨⟨by decide, handed, ?_⟩, by decide⟩
  rw [handed]
  intro safe
  have inside := (safe.cols _ rfl _ mem_cons_self _ mem_cons_self).buffer 50 rfl
  exact absurd inside.2 (by decide)

end TaosAdapter.Stmt2
