import TaosAdapter.Stmt2.Bind
import Mathlib.Algebra.BigOperators.Group.Finset.Basic
import Mathlib.Algebra.Order.BigOperators.Group.Finset

/-!
Owns: what the bind of a message reads and hands over, in terms of the bytes of
the message. The tables of lengths and the records are described by their
positions; `Bounded` says when everything that is looked at lies in the message,
`Passes` when every check passes.
-/

namespace TaosAdapter.Stmt2

open Lib List Option Outcome

section

variable (data : Bytes)

def headerOf : Header :=
  ⟨word data 0 4, word data 4 4, word data 8 4, word data 12 4, word data 16 4,
    word data 20 4, word data 24 4⟩

def lengthAt (off width index : Nat) : Nat := word data (off + width * index) width

def lengthSum (off width count : Nat) : Nat :=
  ∑ index ∈ Finset.range count, lengthAt data off width index

def nameAt (count off index : Nat) : TableName :=
  ⟨off + uint32 (2 * count) + lengthSum data off 2 index, lengthAt data off 2 index⟩

variable (pointer : Int)

def numAt : Int := int32At data (pointer + 8)

def haveLengthAt : Nat := word data (pointer + 12 + numAt data pointer) 1

def lengthEndAt : Int :=
  if haveLengthAt data pointer = 0 then pointer + 12 + numAt data pointer + 1
  else pointer + 12 + numAt data pointer + 1 + int32 (numAt data pointer * 4)

def bufferLengthAt : Int := int32At data (lengthEndAt data pointer)

def recordEndAt : Int :=
  if 0 < bufferLengthAt data pointer then
    lengthEndAt data pointer + 4 + bufferLengthAt data pointer
  else lengthEndAt data pointer + 4

def bindAt : Bind :=
  ⟨int32At data (pointer + 4), numAt data pointer, pointer + 12,
    if haveLengthAt data pointer = 0 then none
    else some (pointer + 12 + numAt data pointer + 1),
    if 0 < bufferLengthAt data pointer then some (lengthEndAt data pointer + 4) else none,
    bufferLengthAt data pointer⟩

def Readable : Prop :=
  Within data pointer 12 ∧ Within data (pointer + 12 + numAt data pointer) 1 ∧
    Within data (lengthEndAt data pointer) 4

def Sound : Prop :=
  recordEndAt data pointer - pointer = word data pointer 4

def recordAt (start : Int) : Nat → Int
  | 0 => start
  | index + 1 => recordAt start index + word data (recordAt start index) 4

def tableAt (fieldCount : Nat) (start : Int) (table : Nat) : List Bind :=
  (List.range fieldCount).map fun field =>
    bindAt data (recordAt data start (table * fieldCount + field))

def bindsAt (count fieldCount : Nat) (start : Int) : List (List Bind) :=
  (List.range count).map (tableAt data fieldCount start)

end

section

variable {data : Bytes}

theorem settles_load (ptr : Int) (width : Nat) :
    Settles (load data ptr width) (Within data ptr width) True (word data ptr width) := by
  refine (settles_read (peekNat data ptr width) 0).of_iff ?_ (fun _ => Iff.rfl) (fun _ _ => rfl)
  rw [peekNat, isSome_map, ← not_iff_not, Bool.not_eq_true, isSome_eq_false_iff,
    isNone_iff_eq_none, peek_eq_none, Within]

theorem settles_loadInt (ptr : Int) : Settles (loadInt data ptr) (Within data ptr 4) True
      (int32At data ptr) := by
  rw [loadInt]
  exact Settles.of_iff (.after (settles_load ptr 4) fun _ => settles_ok _) (by simp)
    (fun _ => Iff.rfl) (fun _ _ => rfl)

theorem uint32_of_lt {value : Nat} (small : value < 2 ^ 32) : uint32 value = value :=
  Nat.mod_eq_of_lt small

theorem settles_loadHeader (long : 28 ≤ data.length) :
    Settles (loadHeader data) True True (headerOf data) := by
  have loaded : ∀ ptr : Int, 0 ≤ ptr → ptr ≤ 24 →
      load data ptr 4 = .ok (word data ptr 4) := fun ptr low high =>
    (settles_load ptr 4).eq_ok ⟨low, by omega⟩ trivial
  refine .ok trivial trivial ?_
  simp only [loadHeader, loaded 0 (by decide) (by decide), loaded 4 (by decide) (by decide),
    loaded 8 (by decide) (by decide), loaded 12 (by decide) (by decide),
    loaded 16 (by decide) (by decide), loaded 20 (by decide) (by decide),
    loaded 24 (by decide) (by decide), ok_bind]
  rfl

end

section

variable {data : Bytes} {totalLength count width off : Nat}

def Measured (data : Bytes) (totalLength count width off : Nat) : Prop :=
  lengthsEnd count width off ≤ totalLength → ∀ index < count,
    (∀ earlier < index, lengthAt data off width earlier ≠ 0) →
      index < 2 ^ 31 ∧ Within data (off + width * index) width

def Fits (data : Bytes) (totalLength count width off : Nat) : Prop :=
  lengthsEnd count width off ≤ totalLength ∧
    (∀ index < count, lengthAt data off width index ≠ 0) ∧
      uint32 (lengthsEnd count width off + lengthSum data off width count) ≤ totalLength

theorem lengthSum_zero (data : Bytes) (off width : Nat) : lengthSum data off width 0 = 0 := rfl

theorem lengthSum_succ (data : Bytes) (off width count : Nat) :
    lengthSum data off width (count + 1) =
      lengthSum data off width count + lengthAt data off width count :=
  Finset.sum_range_succ _ _

theorem uint32_add (left right : Nat) : uint32 (uint32 left + right) = uint32 (left + right) :=
  Nat.mod_add_mod left (2 ^ 32) right

theorem settles_addLength (zero : Int → BindError) (finish : Nat) {idx : Nat}
    (small : idx < 2 ^ 31) : Settles (addLength data off width zero idx finish)
      (Within data (off + width * idx) width) (lengthAt data off width idx ≠ 0)
      (uint32 (finish + lengthAt data off width idx)) := by
  have plain : int32 idx = idx := int32_of_lt (by omega) (by omega)
  rw [addLength, loadLength, plain]
  refine Settles.of_iff (.after (settles_load _ width) fun _ => .guard _ fun _ => settles_ok _)
    ?_ (fun _ => ?_) (fun _ _ => rfl)
  · simp
  · simp [lengthAt]

theorem addLength_negative (zero : Int → BindError) (finish : Nat) (wide : 2 ≤ width)
    (low : off < 2 ^ 32) : addLength data off width zero (2 ^ 31) finish = .fault := by
  have negative : int32 ((2 ^ 31 : Nat) : Int) = -2 ^ 31 := by decide
  have before : ¬ Within data (off + width * -2 ^ 31) width := by
    intro inside
    have := inside.1
    omega
  rw [addLength, loadLength, negative]
  cases settles_load (off + width * -2 ^ 31) width with
  | fault undefined here => rw [here, fault_bind]
  | error defined | ok defined => exact absurd defined before

/-- A table of lengths is summed up in 32 bits; a count above 2 ^ 31 reads in front
of the message. -/
theorem settles_checkLengths (lengthsOut : Nat → Nat → BindError) (zero : Int → BindError)
    (out : Nat → Nat → BindError) (wide : 2 ≤ width) (low : off < 2 ^ 32) :
    Settles (checkLengths data totalLength count width off lengthsOut zero out)
      (Measured data totalLength count width off) (Fits data totalLength count width off) () := by
  have loop := settles_counted (addLength data off width zero)
    (fun idx => uint32 (lengthsEnd count width off + lengthSum data off width idx))
    (fun idx => idx < 2 ^ 31 ∧ Within data (off + width * idx) width)
    (fun idx => lengthAt data off width idx ≠ 0) count
    (fun idx high before => by
      rcases Nat.lt_trichotomy idx (2 ^ 31) with small | rfl | large
      · refine (settles_addLength zero _ small).of_iff ?_ (fun _ => Iff.rfl) (fun _ _ => ?_)
        · exact ⟨fun inside => ⟨small, inside⟩, fun both => both.2⟩
        · rw [uint32_add, Nat.add_assoc, ← lengthSum_succ]
      · exact .fault (fun defined => Nat.lt_irrefl _ defined.1)
          (addLength_negative zero _ wide low)
      · exact absurd (before (2 ^ 31) large).1.1 (Nat.lt_irrefl _))
  have start : uint32 (lengthsEnd count width off + lengthSum data off width 0) =
      lengthsEnd count width off := by
    rw [lengthSum_zero, Nat.add_zero, lengthsEnd, uint32, uint32, Nat.mod_mod]
  rw [start] at loop
  rw [checkLengths]
  refine Settles.of_iff (.guard _ fun _ => .bind loop fun _ _ => .guard _ fun _ => settles_ok ())
    ⟨?_, ?_⟩ (fun _ => ?_) (fun _ _ => rfl)
  · intro defined fits
    exact (defined (Nat.not_lt.mpr fits)).1
  · intro measured fits
    exact ⟨measured (Nat.not_lt.mp fits), fun _ _ => trivial⟩
  · simp [Fits]

end

section

variable {data : Bytes} {count off : Nat}

def TableInside (data : Bytes) (count width off : Nat) : Prop :=
  ∀ index < count, index < 2 ^ 31 ∧ Within data (off + width * index) width

theorem tableInside_of_fits {totalLength width : Nat}
    (measured : Measured data totalLength count width off)
    (fits : Fits data totalLength count width off) : TableInside data count width off :=
  fun idx high => measured fits.1 idx high fun earlier before =>
    fits.2.1 earlier (before.trans high)

theorem tableNames_ok (inside : TableInside data count 2 off) :
    tableNames data count off = .ok ((List.range count).map (nameAt data count off)) := by
  have loop := settles_counted (addName data count off)
    (fun idx => ((List.range idx).map (nameAt data count off),
      (off + uint32 (2 * count) + lengthSum data off 2 idx : Int)))
    (fun _ => True) (fun _ => True) count
    (fun idx high _ => by
      obtain ⟨small, entryInside⟩ := inside idx high
      have plain : int32 idx = idx := int32_of_lt (by omega) (by omega)
      have loaded := (settles_load _ 2).eq_ok entryInside trivial
      refine .ok trivial trivial ?_
      simp only [addName, loadLength, plain]
      rw [if_pos (by omega), loaded, ok_bind, range_succ, map_append, lengthSum_succ]
      simp [nameAt, lengthAt, Int.add_assoc])
  have finished := loop.eq_ok (fun _ _ _ => trivial) fun _ _ => trivial
  rw [range_zero, map_nil, lengthSum_zero, Nat.cast_zero, Int.add_zero] at finished
  rw [tableNames, finished, ok_bind]

end

section

variable {data : Bytes}

theorem settles_loadBind (table field : Nat) (ptr : Int) :
    Settles (loadBind data table field ptr) (Readable data ptr) (Sound data ptr)
      (bindAt data ptr, recordEndAt data ptr) := by
  rw [loadBind]
  refine Settles.of_iff (.after (settles_load _ 4) fun _ => .after (settles_loadInt _) fun _ =>
    .after (settles_loadInt _) fun _ => .after (settles_load _ 1) fun _ =>
      .after (settles_loadInt _) fun _ => .guard _ fun _ => settles_ok _) ?_ (fun _ => ?_)
        (fun _ _ => rfl)
  · constructor
    · rintro ⟨total, _, num, flag, buf, _⟩
      have high := num.2
      exact ⟨⟨total.1, by omega⟩, flag, buf⟩
    · rintro ⟨⟨low, high⟩, flag, buf⟩
      exact ⟨⟨low, by omega⟩, ⟨by omega, by omega⟩, ⟨by omega, by omega⟩, flag, buf,
        fun _ => trivial⟩
  · exact ⟨fun both => not_not.mp both.1, fun sound => ⟨not_not.mpr sound, trivial⟩⟩

variable {fieldCount : Nat}

theorem settles_fields (start : Int) {table : Nat} (bindStruct : Part)
    (unwrapped : table * fieldCount < 2 ^ 32) :
    Settles (counted (addBind data fieldCount bindStruct table) fieldCount 0
        ([], recordAt data start (table * fieldCount))) (∀ field < fieldCount,
        (∀ earlier < field, Sound data (recordAt data start (table * fieldCount + earlier))) →
          bindStruct.start + (table * fieldCount + field) < bindStruct.size ∧
            Readable data (recordAt data start (table * fieldCount + field)))
      (∀ field < fieldCount, Sound data (recordAt data start (table * fieldCount + field)))
      (tableAt data fieldCount start table,
        recordAt data start (table * fieldCount + fieldCount)) := by
  refine settles_counted (addBind data fieldCount bindStruct table)
    (fun field => ((List.range field).map fun field =>
      bindAt data (recordAt data start (table * fieldCount + field)),
      recordAt data start (table * fieldCount + field))) _ _ fieldCount (fun field high _ => ?_)
  rw [addBind, uint32_of_lt unwrapped, Nat.add_assoc]
  refine Settles.of_iff (.access fun _ => .bind (settles_loadBind table field _) fun _ _ =>
    settles_ok _) ?_ (fun _ => ?_) (fun _ passes => ?_)
  · exact ⟨fun both => ⟨both.1, both.2.1⟩, fun both => ⟨both.1, both.2, fun _ => trivial⟩⟩
  · exact ⟨And.left, fun sound => ⟨sound, trivial⟩⟩
  · have sound : recordEndAt data _ - _ = _ := passes.1
    have next : recordEndAt data (recordAt data start (table * fieldCount + field)) =
        recordAt data start (table * fieldCount + (field + 1)) := by
      rw [← Nat.add_assoc, recordAt, ← sound]
      ring
    rw [range_succ, map_append, next]
    rfl

/-- Up to the first record that has not the length it declares, the records lie
in the message and have a place in the array. -/
def RecordsReadable (data : Bytes) (start : Int) (count : Nat) (bindStruct : Part) : Prop :=
  ∀ index < count, (∀ earlier < index, Sound data (recordAt data start earlier)) →
    bindStruct.start + index < bindStruct.size ∧ Readable data (recordAt data start index)

def RecordsSound (data : Bytes) (start : Int) (count : Nat) : Prop :=
  ∀ index < count, Sound data (recordAt data start index)

def recordsStart (count fieldOffset : Nat) : Int := fieldOffset + 4 * count

variable {fieldOffset count : Nat} {bindStruct : Part}

/-- The records of all tables one behind the other, whatever table they belong to. -/
theorem settles_goGenerateStmt2Binds {bindPtr : Part} (few : count ≤ 2 ^ 31)
    (room : bindPtr.start + count ≤ bindPtr.size) (bounded : bindStruct.size < 2 ^ 32) :
    Settles (goGenerateStmt2Binds data count fieldCount fieldOffset bindStruct bindPtr)
      (RecordsReadable data (recordsStart count fieldOffset) (count * fieldCount) bindStruct)
      (RecordsSound data (recordsStart count fieldOffset) (count * fieldCount))
      (bindsAt data count fieldCount (recordsStart count fieldOffset)) := by
  have loop := settles_counted (addTable data fieldCount bindStruct bindPtr)
    (fun table =>
      ((List.range table).map (tableAt data fieldCount (recordsStart count fieldOffset)),
        recordAt data (recordsStart count fieldOffset) (table * fieldCount)))
    (fun table => ∀ field < fieldCount, (∀ earlier < field, Sound data
        (recordAt data (recordsStart count fieldOffset) (table * fieldCount + earlier))) →
          bindStruct.start + (table * fieldCount + field) < bindStruct.size ∧ Readable data
            (recordAt data (recordsStart count fieldOffset) (table * fieldCount + field)))
    (fun table => ∀ field < fieldCount, Sound data
      (recordAt data (recordsStart count fieldOffset) (table * fieldCount + field))) count
    (fun table high before => by
      have plain : int32 table = table := int32_of_lt (by omega) (by omega)
      -- The index of a bind has not wrapped: the last bind before is inside.
      have unwrapped : table * fieldCount < 2 ^ 32 := by
        cases table with
        | zero => omega
        | succ last =>
          cases fieldCount with
          | zero => omega
          | succ fields =>
            obtain ⟨defined, sound⟩ := before last (Nat.lt_succ_self last)
            have inside := (defined fields (Nat.lt_succ_self fields) fun earlier below =>
              sound earlier (by omega)).1
            rw [Nat.add_mul]
            omega
      rw [addTable, plain, if_pos (by omega)]
      refine Settles.of_iff (.bind (settles_fields _ bindStruct unwrapped) fun _ _ => settles_ok _)
        ?_ (fun _ => ?_) (fun _ _ => ?_)
      · exact ⟨And.left, fun defined => ⟨defined, fun _ => trivial⟩⟩
      · exact ⟨And.left, fun sound => ⟨sound, trivial⟩⟩
      · rw [range_succ, map_append, Nat.add_mul, Nat.one_mul]
        rfl)
  rw [Nat.zero_mul] at loop
  rw [goGenerateStmt2Binds]
  refine Settles.of_iff (.bind loop fun _ _ => settles_ok _) ?_ (fun _ => ?_) (fun _ _ => rfl)
  · refine Iff.trans ⟨And.left, fun defined => ⟨defined, fun _ => trivial⟩⟩ ?_
    exact forall_nested_before_iff
      (fun idx => Sound data (recordAt data (recordsStart count fieldOffset) idx))
      (fun idx => bindStruct.start + idx < bindStruct.size ∧
        Readable data (recordAt data (recordsStart count fieldOffset) idx))
  · refine Iff.trans ⟨And.left, fun sound => ⟨sound, trivial⟩⟩ ?_
    exact forall_nested_iff fun idx =>
      Sound data (recordAt data (recordsStart count fieldOffset) idx)

theorem goGenerateStmt2Binds_no_room (tables : count ≠ 0) :
    goGenerateStmt2Binds data count fieldCount fieldOffset bindStruct ⟨0, 0⟩ = .fault := by
  obtain ⟨others, rfl⟩ := Nat.exists_eq_succ_of_ne_zero tables
  have outside : addTable data fieldCount bindStruct ⟨0, 0⟩ 0
      ([], (fieldOffset + 4 * (others + 1 : Nat) : Int)) = .fault := by
    rw [addTable, if_neg (by simp [int32])]
  rw [goGenerateStmt2Binds, counted, outside]
  rfl

end

section

variable {data : Bytes} {totalLength count fieldCount off : Nat}

def NamesMeasured (data : Bytes) (totalLength count off : Nat) : Prop :=
  0 < off → Measured data totalLength count 2 off

def NamesFit (data : Bytes) (totalLength count off : Nat) : Prop :=
  0 < off → Fits data totalLength count 2 off

def FieldsMeasured (data : Bytes) (totalLength count fieldCount off : Nat) : Prop :=
  0 < off → fieldCount ≠ 0 → Measured data totalLength count 4 off

def FieldsFit (data : Bytes) (totalLength count fieldCount off : Nat) : Prop :=
  0 < off → fieldCount ≠ 0 ∧ Fits data totalLength count 4 off

theorem settles_checkFields (countZero : BindError) (lengthsOut : Nat → Nat → BindError)
    (zero : Int → BindError) (out : Nat → Nat → BindError) (low : off < 2 ^ 32) :
    Settles (checkFields data totalLength count fieldCount off countZero lengthsOut zero out)
      (FieldsMeasured data totalLength count fieldCount off)
      (FieldsFit data totalLength count fieldCount off) () :=
  .when fun _ => .guard countZero fun _ =>
    settles_checkLengths lengthsOut zero out (by decide) low

theorem FieldsFit.tableInside (fits : FieldsFit data totalLength count fieldCount off)
    (measured : FieldsMeasured data totalLength count fieldCount off) (given : 0 < off) :
    TableInside data count 4 off :=
  tableInside_of_fits (measured given (fits given).1) (fits given).2

theorem TableInside.count_le {width : Nat} (inside : TableInside data count width off) :
    count ≤ 2 ^ 31 := by
  by_contra many
  exact absurd (inside (2 ^ 31) (by omega)).1 (Nat.lt_irrefl _)

end

section

variable {data : Bytes} {header : Header}

structure Header.Small (header : Header) : Prop where
  tableNamesOffset : header.tableNamesOffset < 2 ^ 32
  tagsOffset : header.tagsOffset < 2 ^ 32
  colsOffset : header.colsOffset < 2 ^ 32

theorem small_headerOf (data : Bytes) : (headerOf data).Small :=
  ⟨word_lt data 16 4, word_lt data 20 4, word_lt data 24 4⟩

abbrev Header.HasTags (header : Header) : Prop :=
  header.bindStructCount ≠ 0 ∧ 0 < header.tagsOffset

abbrev Header.HasCols (header : Header) : Prop :=
  header.bindStructCount ≠ 0 ∧ 0 < header.colsOffset

def Header.tagsStart (header : Header) : Int := recordsStart header.count header.tagsOffset

def Header.colsStart (header : Header) : Int := recordsStart header.count header.colsOffset

def TagsReadable (data : Bytes) (header : Header) : Prop :=
  header.HasTags → (0 < header.colsOffset → header.count < 2 ^ 31) ∧
    RecordsReadable data header.tagsStart (header.count * header.tagCount)
      ⟨0, header.bindStructCount⟩

def TagsSound (data : Bytes) (header : Header) : Prop :=
  header.HasTags → RecordsSound data header.tagsStart (header.count * header.tagCount)

def ColsReadable (data : Bytes) (header : Header) : Prop :=
  header.HasCols → RecordsReadable data header.colsStart (header.count * header.colCount)
    ⟨header.tagStructs, header.bindStructCount⟩

def ColsSound (data : Bytes) (header : Header) : Prop :=
  header.HasCols → RecordsSound data header.colsStart (header.count * header.colCount)

/-- Everything that is looked at lies in the message: a section is looked at
when the checks before it have passed. -/
def Bounded (data : Bytes) (header : Header) : Prop :=
  NamesMeasured data header.totalLength header.count header.tableNamesOffset ∧
    (NamesFit data header.totalLength header.count header.tableNamesOffset →
      FieldsMeasured data header.totalLength header.count header.tagCount header.tagsOffset ∧
        (FieldsFit data header.totalLength header.count header.tagCount header.tagsOffset →
          FieldsMeasured data header.totalLength header.count header.colCount header.colsOffset ∧
            (FieldsFit data header.totalLength header.count header.colCount header.colsOffset →
              TagsReadable data header ∧ (TagsSound data header → ColsReadable data header))))

structure Passes (data : Bytes) (header : Header) : Prop where
  names : NamesFit data header.totalLength header.count header.tableNamesOffset
  tags : FieldsFit data header.totalLength header.count header.tagCount header.tagsOffset
  cols : FieldsFit data header.totalLength header.count header.colCount header.colsOffset
  tagsSound : TagsSound data header
  colsSound : ColsSound data header

def callOf (data : Bytes) (header : Header) (colIdx : Int) : Call :=
  ⟨⟨int32 header.count,
    if 0 < header.tableNamesOffset then
      some ((List.range header.count).map (nameAt data header.count header.tableNamesOffset))
    else none,
    if header.HasTags then
      some (bindsAt data header.count header.tagCount header.tagsStart)
    else none,
    if header.HasCols then
      some (bindsAt data header.count header.colCount header.colsStart)
    else none⟩, colIdx⟩

theorem bindStructCount_lt (header : Header) : header.bindStructCount < 2 ^ 32 :=
  Nat.mod_lt _ (by decide)

theorem settles_tags (has : header.HasTags)
    (inside : TableInside data header.count 4 header.tagsOffset) :
    Settles (goGenerateStmt2Binds data header.count header.tagCount header.tagsOffset
        ⟨0, header.bindStructCount⟩ ⟨0, header.bindPtrCount⟩)
      ((0 < header.colsOffset → header.count < 2 ^ 31) ∧
        RecordsReadable data header.tagsStart (header.count * header.tagCount)
          ⟨0, header.bindStructCount⟩)
      (RecordsSound data header.tagsStart (header.count * header.tagCount))
      (bindsAt data header.count header.tagCount header.tagsStart) := by
  have few := inside.count_le
  have tagPointers : header.tagPointers = header.count := if_neg has.2.ne'
  by_cases room : 0 < header.colsOffset → header.count < 2 ^ 31
  · have pointers : header.count ≤ header.bindPtrCount := by
      rw [Header.bindPtrCount, tagPointers, Header.colPointers]
      split
      next =>
        rw [uint32_of_lt (by omega)]
        omega
      next given =>
        rw [uint32_of_lt (by omega)]
        omega
    exact (settles_goGenerateStmt2Binds few (by simpa using pointers)
      (bindStructCount_lt header)).of_iff ⟨fun defined => ⟨room, defined⟩, And.right⟩
        (fun _ => Iff.rfl) (fun _ _ => rfl)
  · obtain ⟨given, many⟩ := Classical.not_imp.mp room
    have colPointers : header.colPointers = header.count := if_neg given.ne'
    have all : header.count = 2 ^ 31 := by omega
    have noPointers : header.bindPtrCount = 0 := by
      rw [Header.bindPtrCount, tagPointers, colPointers, all]
      rfl
    rw [noPointers]
    exact .fault (fun both => room both.1) (goGenerateStmt2Binds_no_room (by omega))

theorem settles_cols (tags : TagsReadable data header) (has : header.HasCols)
    (inside : TableInside data header.count 4 header.colsOffset) :
    Settles (goGenerateStmt2Binds data header.count header.colCount header.colsOffset
        ⟨header.tagStructs, header.bindStructCount⟩ ⟨header.tagPointers, header.bindPtrCount⟩)
      (RecordsReadable data header.colsStart (header.count * header.colCount)
        ⟨header.tagStructs, header.bindStructCount⟩)
      (RecordsSound data header.colsStart (header.count * header.colCount))
      (bindsAt data header.count header.colCount header.colsStart) := by
  have few := inside.count_le
  have colPointers : header.colPointers = header.count := if_neg has.2.ne'
  refine settles_goGenerateStmt2Binds few ?_ (bindStructCount_lt header)
  show header.tagPointers + header.count ≤ header.bindPtrCount
  rw [Header.bindPtrCount, colPointers, Header.tagPointers]
  split
  next =>
    rw [uint32_of_lt (by omega)]
  next given =>
    have less := (tags ⟨has.1, Nat.pos_of_ne_zero given⟩).1 has.2
    rw [uint32_of_lt (by omega)]

theorem settles_bindTbnames
    (measured : NamesMeasured data header.totalLength header.count header.tableNamesOffset)
    (fits : NamesFit data header.totalLength header.count header.tableNamesOffset) :
    Settles (bindTbnames data header) True True (if 0 < header.tableNamesOffset then
        some ((List.range header.count).map (nameAt data header.count header.tableNamesOffset))
      else none) :=
  Settles.of_iff (.optional fun given => .ok trivial trivial
    (tableNames_ok (tableInside_of_fits (measured given) (fits given))))
      (by simp) (by simp) (fun _ _ => rfl)

theorem settles_goStmt2BindBinary (colIdx : Int) (long : 28 ≤ data.length) :
    Settles (goStmt2BindBinary data colIdx) (Bounded data (headerOf data))
      (Passes data (headerOf data)) (callOf data (headerOf data) colIdx) := by
  have small := small_headerOf data
  rw [goStmt2BindBinary]
  refine Settles.of_iff (.after (settles_loadHeader long) fun _ =>
    .bind (.when fun _ => settles_checkLengths _ _ _ (by decide) small.tableNamesOffset)
      fun namesMeasured namesFit =>
    .bind (settles_checkFields _ _ _ _ small.tagsOffset) fun tagsMeasured tagsFit =>
    .bind (settles_checkFields _ _ _ _ small.colsOffset) fun colsMeasured colsFit =>
    .after (settles_bindTbnames namesMeasured namesFit) fun _ =>
    .bind (.optional fun has => settles_tags has (tagsFit.tableInside tagsMeasured has.2))
      fun tagsReadable _ =>
    .bind (.optional fun has => settles_cols tagsReadable has
      (colsFit.tableInside colsMeasured has.2)) fun _ _ => settles_ok _) ?_ (fun _ => ?_)
        (fun _ _ => rfl)
  · simp only [true_and, implies_true, and_true]
    exact Iff.rfl
  · exact ⟨fun ⟨names, tags, cols, tagsSound, colsSound, _⟩ =>
        ⟨names, tags, cols, tagsSound, colsSound⟩,
      fun passes => ⟨passes.names, passes.tags, passes.cols, passes.tagsSound, passes.colsSound,
        trivial⟩⟩

def Accepted (data : Bytes) : Prop :=
  28 ≤ data.length ∧ word data 0 4 = uint32 data.length

/-- The whole bind: when it stays inside the message, when it passes its checks,
and what it then hands over. -/
theorem settles_taosStmt2BindBinary (data : Bytes) (colIdx : Int) :
    Settles (taosStmt2BindBinary data colIdx) (Accepted data → Bounded data (headerOf data))
      (Accepted data ∧ Passes data (headerOf data)) (callOf data (headerOf data) colIdx) := by
  rw [taosStmt2BindBinary]
  refine Settles.of_iff (.guard _ fun long => .after (settles_load 0 4) fun _ => .guard _ fun _ =>
    settles_goStmt2BindBinary colIdx (Nat.not_lt.mp long)) ⟨?_, ?_⟩ (fun _ => ⟨?_, ?_⟩)
      (fun _ _ => rfl)
  · rintro defined ⟨long, declared⟩
    exact (defined (Nat.not_lt.mpr long)).2 (not_not.mpr declared)
  · intro bounded long
    have enough := Nat.not_lt.mp long
    exact ⟨⟨by decide, by omega⟩, fun declared => bounded ⟨enough, not_not.mp declared⟩⟩
  · rintro ⟨long, declared, passes⟩
    exact ⟨⟨Nat.not_lt.mp long, not_not.mp declared⟩, passes⟩
  · rintro ⟨⟨long, declared⟩, passes⟩
    exact ⟨Nat.not_lt.mpr long, not_not.mpr declared, passes⟩

end

end TaosAdapter.Stmt2
