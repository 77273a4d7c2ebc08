import TaosAdapter.Stmt2.Writing

/-!
Owns: a section of the message, as the decoder sees it. A table of lengths and
the parts it measures give back the lengths; records one behind the other are
found by the lengths they declare.
-/

namespace TaosAdapter.Stmt2

open Lib List Option

section

variable {message : Bytes} {off width : Nat} {parts : List Bytes}

structure SectionAt (message : Bytes) (off width : Nat) (parts : List Bytes) : Prop where
  below : message.length < 2 ^ 31
  wide : 0 < width
  holds : Holds message off (lengthTable width (parts.map List.length) ++ parts.flatten)
  small : ∀ part ∈ parts, part.length < 256 ^ width
  nonempty : ∀ part ∈ parts, part ≠ []

namespace SectionAt

variable (sectionAt : SectionAt message off width parts)
include sectionAt

theorem size : off + width * parts.length + parts.flatten.length ≤ message.length := by
  have inside := sectionAt.holds.1
  rw [length_append, length_lengthTable, length_map] at inside
  omega

variable {part : Bytes}

theorem entry {idx : Nat} (found : parts[idx]? = some part) :
    Holds message (off + width * idx) (leBytes width part.length) := by
  have entryFound : ((parts.map List.length).map (leBytes width))[idx]? =
      some (leBytes width part.length) := by
    rw [List.getElem?_map, List.getElem?_map, found, map_some, map_some]
  refine sectionAt.holds.left.piece_uniform width (fun piece mem => ?_) entryFound
  obtain ⟨length, _, rfl⟩ := mem_map.mp mem
  exact length_leBytes width length

theorem lengthAt_eq {idx : Nat} (found : parts[idx]? = some part) :
    lengthAt message off width idx = part.length :=
  word_of_holds (sectionAt.entry found) (sectionAt.small part (mem_of_getElem? found))
    (by push_cast; ring)

theorem lengthSum_eq {count : Nat} (few : count ≤ parts.length) :
    lengthSum message off width count = (parts.take count).flatten.length := by
  induction count with
  | zero => rfl
  | succ count ih =>
    have found := List.getElem?_eq_getElem (show count < parts.length by omega)
    rw [lengthSum_succ, ih (by omega), sectionAt.lengthAt_eq found,
      take_add_one, found, toList_some, flatten_append, length_append]
    simp

theorem tableInside : TableInside message parts.length width off := by
  intro idx high
  have found := List.getElem?_eq_getElem high
  have size := sectionAt.size
  have below := sectionAt.below
  refine ⟨?_, inside_of_holds (sectionAt.entry found) (by push_cast; ring)
    (length_leBytes width _).ge⟩
  have stretched := Nat.le_mul_of_pos_left parts.length sectionAt.wide
  omega

theorem lengthsEnd_eq : lengthsEnd parts.length width off = off + width * parts.length := by
  have size := sectionAt.size
  have below := sectionAt.below
  have table : uint32 (parts.length * width) = width * parts.length := by
    rw [Nat.mul_comm]
    exact uint32_of_lt (by omega)
  rw [lengthsEnd, table, uint32_of_lt (by omega)]

theorem measured : Measured message message.length parts.length width off :=
  fun _ idx high _ => sectionAt.tableInside idx high

theorem fits : Fits message message.length parts.length width off := by
  have size := sectionAt.size
  have below := sectionAt.below
  have sum := sectionAt.lengthSum_eq (Nat.le_refl parts.length)
  rw [take_length] at sum
  refine ⟨?_, fun idx high => ?_, ?_⟩
  · rw [sectionAt.lengthsEnd_eq]
    omega
  · have found := List.getElem?_eq_getElem high
    rw [sectionAt.lengthAt_eq found]
    exact (length_pos_iff.mpr (sectionAt.nonempty _ (mem_of_getElem? found))).ne'
  · rw [sectionAt.lengthsEnd_eq, sum, uint32_of_lt (by omega)]
    omega

end SectionAt

end

section

variable {message : Bytes} {start : Nat} {records : List Record} {fields : List FieldData}

structure RecordsAt (message : Bytes) (start : Nat) (records : List Record)
    (fields : List FieldData) : Prop where
  below : message.length < 2 ^ 31
  holds : Holds message start (records.map Record.bytes).flatten
  encodes : List.Forall₂ Encodes records fields

def bytesBefore (records : List Record) (index : Nat) : Nat :=
  ((records.take index).map Record.bytes).flatten.length

namespace RecordsAt

variable (recordsAt : RecordsAt message start records fields)
include recordsAt

variable {idx : Nat} {field : FieldData}

theorem found (there : fields[idx]? = some field) :
    ∃ record, records[idx]? = some record ∧ Encodes record field := by
  obtain ⟨inside, rfl⟩ := List.getElem?_eq_some_iff.mp there
  have same := recordsAt.encodes.length_eq
  exact ⟨records[idx], List.getElem?_eq_getElem _, recordsAt.encodes.get _ _⟩

theorem recordHolds {record : Record} (there : records[idx]? = some record) :
    Holds message (start + bytesBefore records idx) record.bytes := by
  have pieceFound : (records.map Record.bytes)[idx]? = some record.bytes := by
    rw [List.getElem?_map, there, map_some]
  have piece := recordsAt.holds.piece pieceFound
  rw [← map_take] at piece
  exact piece

theorem recordAt_eq (few : idx ≤ fields.length) :
    recordAt message start idx = (start + bytesBefore records idx : Nat) := by
  induction idx with
  | zero => rfl
  | succ idx ih =>
    obtain ⟨record, there, encodes⟩ :=
      recordsAt.found (List.getElem?_eq_getElem (show idx < fields.length by omega))
    have total := (recordRead recordsAt.below (recordsAt.recordHolds there) encodes.uniform).total
    have next :
        bytesBefore records (idx + 1) = bytesBefore records idx + record.bytes.length := by
      rw [bytesBefore, bytesBefore, take_add_one, there]
      simp
    rw [recordAt, ih (by omega), total, next]
    push_cast
    ring

theorem readable (inside : idx < fields.length) : Readable message (recordAt message start idx) ∧
      Sound message (recordAt message start idx) := by
  obtain ⟨record, there, encodes⟩ := recordsAt.found (List.getElem?_eq_getElem inside)
  rw [recordsAt.recordAt_eq inside.le]
  exact readable_of_holds recordsAt.below (recordsAt.recordHolds there) encodes

theorem describes (there : fields[idx]? = some field) :
    Describes message (bindAt message (recordAt message start idx)) field := by
  obtain ⟨record, recordThere, encodes⟩ := recordsAt.found there
  have inside := lt_of_getElem? there
  rw [recordsAt.recordAt_eq inside.le]
  exact describes_of_holds recordsAt.below (recordsAt.recordHolds recordThere) encodes

theorem few : fields.length < 2 ^ 31 := by
  have inside := recordsAt.holds.1
  have below := recordsAt.below
  have each : ∀ length ∈ (records.map Record.bytes).map List.length, 1 ≤ length := by
    intro length mem
    obtain ⟨bytes, bytesMember, rfl⟩ := mem_map.mp mem
    obtain ⟨record, _, rfl⟩ := mem_map.mp bytesMember
    rw [length_record]
    omega
  have enough := length_le_sum_of_one_le _ each
  rw [← length_flatten, length_map, length_map, recordsAt.encodes.length_eq] at enough
  omega

end RecordsAt

end

theorem forall₂_range_of_getElem? {α : Type} {relation : Nat → α → Prop} {items : List α}
    (related : ∀ idx item, items[idx]? = some item → relation idx item) :
    List.Forall₂ relation (List.range items.length) items := by
  refine forall₂_iff_get.mpr ⟨length_range, fun idx inRange inside => ?_⟩
  rw [get_eq_getElem, getElem_range]
  exact related idx _ (List.getElem?_eq_getElem inside)

section

variable {message : Bytes} {off fieldCount : Nat} {recordTables : List (List Record)}
  {fieldTables : List (List FieldData)}

def tableBytes (records : List Record) : Bytes := (records.map Record.bytes).flatten

structure FieldsRead (message : Bytes) (off fieldCount : Nat)
    (fieldTables : List (List FieldData)) : Prop where
  measured : Measured message message.length fieldTables.length 4 off
  fits : Fits message message.length fieldTables.length 4 off
  few : fieldTables.length * fieldCount < 2 ^ 31
  readable : ∀ index < fieldTables.length * fieldCount,
    Readable message (recordAt message (recordsStart fieldTables.length off) index) ∧
      Sound message (recordAt message (recordsStart fieldTables.length off) index)
  describes : List.Forall₂ (List.Forall₂ (Describes message))
    (bindsAt message fieldTables.length fieldCount (recordsStart fieldTables.length off))
    fieldTables

theorem flatten_tableBytes (recordTables : List (List Record)) :
    (recordTables.map tableBytes).flatten = (recordTables.flatten.map Record.bytes).flatten := by
  induction recordTables with
  | nil => rfl
  | cons records rest ih =>
    simp only [map_cons, flatten_cons, ih, tableBytes, map_append, flatten_append]

theorem tableBytes_ne_nil {records : List Record} {fields : List FieldData}
    (encodes : List.Forall₂ Encodes records fields) (nonempty : 0 < fields.length) :
    tableBytes records ≠ [] := by
  cases encodes with
  | nil => cases nonempty
  | @cons record _ records _ _ _ =>
    intro empty
    have length := congrArg List.length empty
    rw [tableBytes, map_cons, flatten_cons, length_append, length_record] at length
    simp at length

variable (below : message.length < 2 ^ 31)
  (holds : Holds message off (sectionBytes 4 true (recordTables.map tableBytes)))
  (encodes : List.Forall₂ (List.Forall₂ Encodes) recordTables fieldTables)

include below holds encodes

theorem sectionAt_of_holds (uniform : ∀ fields ∈ fieldTables, fields.length = fieldCount)
    (pos : 0 < fieldCount) : SectionAt message off 4 (recordTables.map tableBytes) := by
  refine ⟨below, by decide, holds, fun part mem => ?_, fun part mem => ?_⟩
  · have short := length_le_flatten mem
    have inside := holds.1
    rw [sectionBytes, if_pos rfl, length_append] at inside
    omega
  · obtain ⟨records, recordsMember, rfl⟩ := mem_map.mp mem
    obtain ⟨idx, inside, rfl⟩ := getElem_of_mem recordsMember
    have there : idx < fieldTables.length := encodes.length_eq ▸ inside
    refine tableBytes_ne_nil (encodes.get inside there) ?_
    rw [uniform _ (get_mem _ _)]
    exact pos

theorem recordsAt_of_holds : RecordsAt message (off + 4 * recordTables.length) recordTables.flatten
      fieldTables.flatten := by
  have records := Holds.right holds
  rw [length_lengthTable, length_map, length_map, flatten_tableBytes] at records
  exact ⟨below, records, rel_flatten encodes⟩

theorem fieldsRead (uniform : ∀ fields ∈ fieldTables, fields.length = fieldCount)
    (pos : 0 < fieldCount) : FieldsRead message off fieldCount fieldTables := by
  have count := encodes.length_eq
  have sectionAt := sectionAt_of_holds below holds encodes uniform pos
  have recordsAt := recordsAt_of_holds below holds encodes
  have total : fieldTables.flatten.length = fieldTables.length * fieldCount := by
    rw [length_flatten_uniform fieldCount uniform, Nat.mul_comm]
  have start : recordsStart fieldTables.length off =
      ((off + 4 * recordTables.length : Nat) : Int) := by
    rw [recordsStart, count]
    push_cast
    rfl
  have measured := sectionAt.measured
  have fits := sectionAt.fits
  rw [length_map, count] at measured fits
  refine ⟨measured, fits, ?_, fun idx inside => ?_, ?_⟩
  · rw [← total]
    exact recordsAt.few
  · rw [start]
    exact recordsAt.readable (by omega)
  · rw [start, bindsAt, forall₂_map_left_iff]
    refine forall₂_range_of_getElem? fun table fields found => ?_
    rw [tableAt, forall₂_map_left_iff, ← uniform fields (mem_of_getElem? found)]
    refine forall₂_range_of_getElem? fun field data there => recordsAt.describes ?_
    exact getElem?_flatten_uniform (fun fields' mem =>
      (uniform fields' mem).trans (uniform fields (mem_of_getElem? found)).symm) found there

end

section

variable {message : Bytes} {header : Header} {names : List Bytes}
  {tags cols : List (List FieldData)}

def FieldsGiven (message : Bytes) (count fieldCount off : Nat)
    (fieldTables : List (List FieldData)) : Prop :=
  0 < off → fieldTables.length = count ∧ 0 < fieldCount ∧
    FieldsRead message off fieldCount fieldTables

structure WellFormed (message : Bytes) (header : Header) (names : List Bytes)
    (tags cols : List (List FieldData)) : Prop where
  below : message.length < 2 ^ 31
  total : header.totalLength = message.length
  positive : 0 < header.count
  names : 0 < header.tableNamesOffset →
    names.length = header.count ∧ SectionAt message header.tableNamesOffset 2 names
  tags : FieldsGiven message header.count header.tagCount header.tagsOffset tags
  cols : FieldsGiven message header.count header.colCount header.colsOffset cols

section

variable {count fieldCount off : Nat} {fieldTables : List (List FieldData)}
  (given : FieldsGiven message count fieldCount off fieldTables)

include given

theorem FieldsGiven.measured : FieldsMeasured message message.length count fieldCount off := by
  intro pos _
  obtain ⟨rfl, _, read⟩ := given pos
  exact read.measured

theorem FieldsGiven.fit : FieldsFit message message.length count fieldCount off := by
  intro pos
  obtain ⟨rfl, fields, read⟩ := given pos
  exact ⟨fields.ne', read.fits⟩

theorem FieldsGiven.few (pos : 0 < off) : 0 < fieldCount ∧ count * fieldCount < 2 ^ 31 := by
  obtain ⟨rfl, fields, read⟩ := given pos
  exact ⟨fields, read.few⟩

theorem FieldsGiven.recordsReadable (pos : 0 < off) {bindStruct : Part}
    (room : bindStruct.start + count * fieldCount ≤ bindStruct.size) :
    RecordsReadable message (recordsStart count off) (count * fieldCount) bindStruct := by
  obtain ⟨rfl, _, read⟩ := given pos
  exact fun idx inside _ => ⟨by omega, (read.readable idx inside).1⟩

theorem FieldsGiven.recordsSound (pos : 0 < off) :
    RecordsSound message (recordsStart count off) (count * fieldCount) := by
  obtain ⟨rfl, _, read⟩ := given pos
  exact fun idx inside => (read.readable idx inside).2

end

namespace WellFormed

variable (wellFormed : WellFormed message header names tags cols)
include wellFormed

theorem tagStructs_eq (given : 0 < header.tagsOffset) :
    header.tagStructs = header.count * header.tagCount := by
  have few := (wellFormed.tags.few given).2
  rw [Header.tagStructs, if_neg given.ne', uint32_of_lt (by omega)]

theorem colStructs_eq (given : 0 < header.colsOffset) :
    header.colStructs = header.count * header.colCount := by
  have few := (wellFormed.cols.few given).2
  rw [Header.colStructs, if_neg given.ne', uint32_of_lt (by omega)]

theorem tagStructs_lt : header.tagStructs < 2 ^ 31 := by
  rcases Nat.eq_zero_or_pos header.tagsOffset with zero | given
  · rw [Header.tagStructs, if_pos zero]
    decide
  · rw [wellFormed.tagStructs_eq given]
    exact (wellFormed.tags.few given).2

theorem colStructs_lt : header.colStructs < 2 ^ 31 := by
  rcases Nat.eq_zero_or_pos header.colsOffset with zero | given
  · rw [Header.colStructs, if_pos zero]
    decide
  · rw [wellFormed.colStructs_eq given]
    exact (wellFormed.cols.few given).2

theorem bindStructCount_eq : header.bindStructCount = header.tagStructs + header.colStructs := by
  have tags := wellFormed.tagStructs_lt
  have cols := wellFormed.colStructs_lt
  rw [Header.bindStructCount, uint32_of_lt (by omega)]

theorem hasTags_iff : header.HasTags ↔ 0 < header.tagsOffset := by
  refine ⟨And.right, fun given => ⟨?_, given⟩⟩
  have pos := Nat.mul_pos wellFormed.positive (wellFormed.tags.few given).1
  rw [wellFormed.bindStructCount_eq, wellFormed.tagStructs_eq given]
  omega

theorem hasCols_iff : header.HasCols ↔ 0 < header.colsOffset := by
  refine ⟨And.right, fun given => ⟨?_, given⟩⟩
  have pos := Nat.mul_pos wellFormed.positive (wellFormed.cols.few given).1
  rw [wellFormed.bindStructCount_eq, wellFormed.colStructs_eq given]
  omega

theorem tagsReadable : TagsReadable message header := by
  intro has
  have given := has.2
  obtain ⟨pos, few⟩ := wellFormed.tags.few given
  refine ⟨fun _ => ?_, wellFormed.tags.recordsReadable given ?_⟩
  · exact lt_of_le_of_lt (Nat.le_mul_of_pos_right header.count pos) few
  · show 0 + header.count * header.tagCount ≤ header.bindStructCount
    rw [wellFormed.bindStructCount_eq, wellFormed.tagStructs_eq given]
    omega

theorem colsReadable : ColsReadable message header := by
  intro has
  have given := has.2
  refine wellFormed.cols.recordsReadable given ?_
  rw [wellFormed.bindStructCount_eq, wellFormed.colStructs_eq given]

theorem bounded : Bounded message header := by
  rw [Bounded, wellFormed.total]
  refine ⟨fun given => ?_, fun _ => ⟨wellFormed.tags.measured, fun _ =>
    ⟨wellFormed.cols.measured, fun _ => ⟨wellFormed.tagsReadable, fun _ =>
      wellFormed.colsReadable⟩⟩⟩⟩
  obtain ⟨count, sectionAt⟩ := wellFormed.names given
  exact count ▸ sectionAt.measured

theorem passes : Passes message header := by
  refine ⟨fun given => ?_, ?_, ?_, fun has => wellFormed.tags.recordsSound has.2,
    fun has => wellFormed.cols.recordsSound has.2⟩
  · obtain ⟨count, sectionAt⟩ := wellFormed.names given
    rw [wellFormed.total, ← count]
    exact sectionAt.fits
  · rw [wellFormed.total]
    exact wellFormed.tags.fit
  · rw [wellFormed.total]
    exact wellFormed.cols.fit

theorem taosStmt2BindBinary_eq (here : headerOf message = header) (long : 28 ≤ message.length)
    (colIdx : Int) : taosStmt2BindBinary message colIdx = .ok (callOf message header colIdx) := by
  have below := wellFormed.below
  have accepted : Accepted message := by
    refine ⟨long, ?_⟩
    rw [uint32_of_lt (by omega), ← wellFormed.total, ← here]
    rfl
  have settled := settles_taosStmt2BindBinary message colIdx
  rw [here] at settled
  exact settled.eq_ok (fun _ => wellFormed.bounded) ⟨accepted, wellFormed.passes⟩

theorem tags_described (colIdx : Int) (given : 0 < header.tagsOffset) :
    ∃ binds, (callOf message header colIdx).bindV.tags = some binds ∧
      List.Forall₂ (List.Forall₂ (Describes message)) binds tags := by
  obtain ⟨count, _, read⟩ := wellFormed.tags given
  have described := read.describes
  rw [count] at described
  exact ⟨_, if_pos (wellFormed.hasTags_iff.mpr given), described⟩

theorem cols_described (colIdx : Int) (given : 0 < header.colsOffset) :
    ∃ binds, (callOf message header colIdx).bindV.bindCols = some binds ∧
      List.Forall₂ (List.Forall₂ (Describes message)) binds cols := by
  obtain ⟨count, _, read⟩ := wellFormed.cols given
  have described := read.describes
  rw [count] at described
  exact ⟨_, if_pos (wellFormed.hasCols_iff.mpr given), described⟩

end WellFormed

end

end TaosAdapter.Stmt2
