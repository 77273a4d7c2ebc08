import TaosAdapter.Stmt2.Sections
import Mathlib.Data.List.TakeWhile

/-!
Owns: the agreement of the two ends of a bind. What marshaling writes is accepted
by the decoder, and the structure it hands over describes the bind data: for each
table its tags and columns, and its name, if that has no zero byte. The name is
handed over as a C string, and neither end looks for a zero inside of it.
-/

namespace TaosAdapter.Stmt2

open Lib Driver List Outcome

def tagData (tagType : List Stmt2AllField) (data : TaosStmt2BindData) : List FieldData :=
  List.zipWith columnData tagType (data.tags.map fun tag => [tag])

def colData (formatRFC3339Nano : Time → Bytes) (isInsert : Bool) (colType : List Stmt2AllField)
    (data : TaosStmt2BindData) : List FieldData :=
  if isInsert then List.zipWith columnData colType data.cols
  else data.cols.map (argumentData formatRFC3339Nano)

structure LogicalTable where
  name : Bytes
  tags : List FieldData
  cols : List FieldData

def logicalTable (formatRFC3339Nano : Time → Bytes) (isInsert : Bool)
    (fields : List Stmt2AllField) (data : TaosStmt2BindData) : LogicalTable :=
  ⟨data.tableName, tagData (tagFields fields) data,
    colData formatRFC3339Nano isInsert (colFields fields) data⟩

/-- An array that is handed over for some tables: NULL when no table has anything
in it, and otherwise one element a table that agrees with it. -/
def Handed {Element : Type} (agrees : Element → LogicalTable → Prop)
    (absent : LogicalTable → Prop) (handed : Option (List Element)) (tables : List LogicalTable) :
    Prop :=
  ((∀ table ∈ tables, absent table) ∧ handed = none) ∨
    ((∃ table ∈ tables, ¬ absent table) ∧
      ∃ elements, handed = some elements ∧ List.Forall₂ agrees elements tables)

/-- What `taos_stmt2_bind_param` reads at the pointer is the name. -/
def NameAgrees (message : Bytes) (name : TableName) (table : LogicalTable) : Prop :=
  cString message name.pointer = some table.name

structure Agrees (message : Bytes) (bindV : BindV) (tables : List LogicalTable) : Prop where
  count : bindV.count = tables.length
  names : Handed (NameAgrees message) (fun table => table.name = []) bindV.tbnames tables
  tags : Handed (fun binds table => List.Forall₂ (Describes message) binds table.tags)
    (fun table => table.tags = []) bindV.tags tables
  cols : Handed (fun binds table => List.Forall₂ (Describes message) binds table.cols)
    (fun table => table.cols = []) bindV.bindCols tables

section

variable {formatRFC3339Nano : Time → Bytes} {layout : Layout}

structure TableOf (formatRFC3339Nano : Time → Bytes) (layout : Layout) (table : TableData)
    (data : TaosStmt2BindData) : Prop where
  name : layout.needTableNames = true →
    table.name = data.tableName ++ [0] ∧ data.tableName.length ≤ 65534
  tags : layout.needTags = true → ∃ records, tableBytes records = table.tags ∧
    List.Forall₂ Encodes records (tagData layout.tagType data)
  cols : layout.needCols = true → ∃ records, tableBytes records = table.cols ∧
    List.Forall₂ Encodes records (colData formatRFC3339Nano layout.isInsert layout.colType data)

variable {bytes : Bytes} {idx : Nat}

theorem marshalName_ok {tableName : Bytes} (marshaled : marshalName idx tableName = .ok bytes) :
    bytes = tableName ++ [0] ∧ tableName.length ≤ 65534 := by
  unfold marshalName at marshaled
  split at marshaled
  next => cases marshaled
  next short =>
    refine ⟨(Outcome.ok.inj marshaled).symm, ?_⟩
    by_contra long
    exact short ⟨by rintro rfl; simp at long, by omega⟩

theorem whenNeeded_ok {needed : Bool} {marshaled : Marshaled Bytes}
    (ok : whenNeeded needed marshaled = .ok bytes) (isNeeded : needed = true) :
    marshaled = .ok bytes := by
  rwa [whenNeeded, if_pos isNeeded] at ok

variable {data : TaosStmt2BindData}

theorem marshalCols_encodes {cols : List (List (Option Value))} (here : data.cols = cols)
    (marshaled : marshalCols formatRFC3339Nano layout cols = .ok bytes) :
    ∃ records, tableBytes records = bytes ∧ List.Forall₂ Encodes records
      (colData formatRFC3339Nano layout.isInsert layout.colType data) := by
  subst here
  unfold marshalCols at marshaled
  unfold colData
  split at marshaled
  next isInsert =>
    rw [if_pos isInsert]
    exact marshalRecords_encodes marshaled
  next isQuery =>
    rw [if_neg isQuery]
    exact marshalArguments_encodes marshaled

theorem marshalTable_ok {table : TableData}
    (marshaled : marshalTable formatRFC3339Nano layout idx data = .ok table) :
    TableOf formatRFC3339Nano layout table data := by
  obtain ⟨name, named, marshaled⟩ := bind_eq_ok.mp marshaled
  obtain ⟨tags, tagged, marshaled⟩ := bind_eq_ok.mp marshaled
  obtain ⟨cols, filled, here⟩ := bind_eq_ok.mp marshaled
  obtain rfl := Outcome.ok.inj here
  exact ⟨fun needed => marshalName_ok (whenNeeded_ok named needed),
    fun needed => marshalRecords_encodes (whenNeeded_ok tagged needed),
    fun needed => marshalCols_encodes rfl (whenNeeded_ok filled needed)⟩

variable {tables : List TableData}

theorem marshalTables_ok {bindData : List TaosStmt2BindData}
    (marshaled : marshalTables formatRFC3339Nano layout idx bindData = .ok tables) :
    List.Forall₂ (TableOf formatRFC3339Nano layout) tables bindData := by
  induction bindData generalizing idx tables with
  | nil =>
    obtain rfl := Outcome.ok.inj marshaled
    exact .nil
  | cons data rest ih =>
    obtain ⟨table, first, marshaled⟩ := bind_eq_ok.mp marshaled
    obtain ⟨others, later, here⟩ := bind_eq_ok.mp marshaled
    obtain rfl := Outcome.ok.inj here
    exact .cons (marshalTable_ok first) (ih later)

theorem exists_recordTables {Data : Type} {bindData : List Data} (part : TableData → Bytes)
    (fieldsOf : Data → List FieldData)
    (each : List.Forall₂ (fun table data => ∃ records, tableBytes records = part table ∧
      List.Forall₂ Encodes records (fieldsOf data)) tables bindData) :
    ∃ recordTables, recordTables.map tableBytes = tables.map part ∧
      List.Forall₂ (List.Forall₂ Encodes) recordTables (bindData.map fieldsOf) := by
  induction each with
  | nil => exact ⟨[], rfl, .nil⟩
  | cons first _ ih =>
    obtain ⟨records, bytes, encodes⟩ := first
    obtain ⟨others, otherBytes, otherEncodes⟩ := ih
    exact ⟨records :: others, by rw [map_cons, map_cons, bytes, otherBytes],
      .cons encodes otherEncodes⟩

end

section

variable {formatRFC3339Nano : Time → Bytes} {tagType colType : List Stmt2AllField}
  {bindData : List TaosStmt2BindData} {colCount : Nat}

theorem checkInsert_ok {tagCount : Nat} (checked : checkInsert tagCount colCount bindData = .ok ())
    : ∀ data ∈ bindData, data.tags.length = tagCount ∧ data.cols.length = colCount := by
  induction bindData with
  | nil => simp
  | cons data rest ih =>
    unfold checkInsert at checked
    split at checked
    next => cases checked
    next tags =>
      split at checked
      next => cases checked
      next cols =>
        intro other mem
        rcases mem_cons.mp mem with rfl | later
        · exact ⟨not_not.mp tags, not_not.mp cols⟩
        · exact ih checked other later

structure Counted (formatRFC3339Nano : Time → Bytes) (isInsert : Bool)
    (tagType colType : List Stmt2AllField) (colCount : Nat) (data : TaosStmt2BindData) : Prop where
  tags : (tagData tagType data).length = tagType.length
  cols : (colData formatRFC3339Nano isInsert colType data).length = colCount
  name : isInsert = false → data.tableName = []

theorem checkQuery_ok (checked : checkQuery tagType.length colType.length bindData = .ok colCount) :
    ∀ data ∈ bindData, Counted formatRFC3339Nano false tagType colType colCount data := by
  unfold checkQuery at checked
  split at checked
  next => cases checked
  next noTags =>
    split at checked
    next => cases checked
    next =>
      split at checked
      next data =>
        split at checked
        next => cases checked
        next noName =>
          split at checked
          next => cases checked
          next =>
            split at checked
            next => cases checked
            next =>
              obtain ⟨_, _, here⟩ := bind_eq_ok.mp checked
              intro other mem
              obtain rfl := mem_singleton.mp mem
              refine ⟨?_, ?_, fun _ => not_not.mp noName⟩
              · rw [tagData, length_zipWith]
                omega
              · rw [colData, if_neg (by decide), length_map]
                exact Outcome.ok.inj here
      next => cases checked

theorem checkBindData_ok {isInsert : Bool}
    (checked : checkBindData bindData isInsert tagType.length colType.length = .ok colCount) :
    ∀ data ∈ bindData, Counted formatRFC3339Nano isInsert tagType colType colCount data := by
  cases isInsert with
  | false => exact checkQuery_ok checked
  | true =>
    obtain ⟨_, inserted, here⟩ := bind_eq_ok.mp checked
    obtain rfl := Outcome.ok.inj here
    intro data mem
    obtain ⟨tags, cols⟩ := checkInsert_ok inserted data mem
    refine ⟨?_, ?_, fun isQuery => by cases isQuery⟩
    · rw [tagData, length_zipWith, length_map, tags, Nat.min_self]
    · rw [colData, if_pos rfl, length_zipWith, cols, Nat.min_self]

end

section

variable {formatRFC3339Nano : Time → Bytes} {bindData : List TaosStmt2BindData} {isInsert : Bool}
  {fields : List Stmt2AllField} {message : Bytes} {layout : Layout} {tables : List TableData}
  {count tagCount colCount : Nat}

structure MessageParts (message : Bytes) (layout : Layout) (count tagCount colCount : Nat)
    (tables : List TableData) : Prop where
  total : Holds message 0 (leBytes 4 message.length)
  count : Holds message 4 (leBytes 4 count)
  tagCount : Holds message 8 (leBytes 4 tagCount)
  colCount : Holds message 12 (leBytes 4 colCount)
  tableNamesOffset : Holds message 16 (leBytes 4 (if layout.needTableNames then 28 else 0))
  tagsOffset : Holds message 20
    (leBytes 4 (if layout.needTags then layout.tagOffset tables else 0))
  colsOffset : Holds message 24
    (leBytes 4 (if layout.needCols then layout.colOffset tables else 0))
  names : Holds message 28 (layout.names tables)
  tags : Holds message (layout.tagOffset tables) (layout.tags tables)
  cols : Holds message (layout.colOffset tables) (layout.cols tables)

theorem length_messageBytes (layout : Layout) (count tagCount colCount : Nat)
    (tables : List TableData) : (messageBytes layout count tagCount colCount tables).length =
      layout.colOffset tables + (layout.cols tables).length := by
  simp only [messageBytes, length_append, length_leBytes, Layout.colOffset, Layout.tagOffset]
  omega

theorem messageParts (layout : Layout) (count tagCount colCount : Nat) (tables : List TableData) :
    MessageParts (messageBytes layout count tagCount colCount tables) layout count tagCount colCount
      tables := by
  have whole := holds_self (messageBytes layout count tagCount colCount tables)
  have total := whole.left
  rw [← length_messageBytes layout count tagCount colCount tables] at total
  have rest := whole.right
  have sections := rest.right.right.right.right.right.right
  have tags := sections.right
  have cols := tags.right
  simp only [length_leBytes] at rest sections tags cols
  exact ⟨total, rest.left, rest.right.left, rest.right.right.left, rest.right.right.right.left,
    rest.right.right.right.right.left, rest.right.right.right.right.right.left, sections.left,
    tags.left, cols⟩

def Layout.header (layout : Layout) (totalLength count tagCount colCount : Nat)
    (tables : List TableData) : Header :=
  ⟨totalLength, count, tagCount, colCount, if layout.needTableNames then 28 else 0,
    if layout.needTags then layout.tagOffset tables else 0,
    if layout.needCols then layout.colOffset tables else 0⟩

structure Sent (formatRFC3339Nano : Time → Bytes) (bindData : List TaosStmt2BindData)
    (isInsert : Bool) (fields : List Stmt2AllField) (message : Bytes) (colCount : Nat)
    (tables : List TableData) : Prop where
  nonempty : bindData ≠ []
  counted : ∀ data ∈ bindData,
    Counted formatRFC3339Nano isInsert (tagFields fields) (colFields fields) colCount data
  each : List.Forall₂ (TableOf formatRFC3339Nano (layoutOf bindData isInsert fields colCount))
    tables bindData
  parts : MessageParts message (layoutOf bindData isInsert fields colCount) bindData.length
    (tagFields fields).length colCount tables
  needed : (layoutOf bindData isInsert fields colCount).needTableNames = true ∨
    (layoutOf bindData isInsert fields colCount).needTags = true ∨
      (layoutOf bindData isInsert fields colCount).needCols = true

theorem marshalStmt2Binary_sent
    (marshaled : marshalStmt2Binary formatRFC3339Nano bindData isInsert fields = .ok message) :
    ∃ colCount tables, Sent formatRFC3339Nano bindData isInsert fields message colCount tables := by
  dsimp only [marshalStmt2Binary] at marshaled
  split at marshaled
  next => cases marshaled
  next nonempty =>
    obtain ⟨colCount, checked, marshaled⟩ := bind_eq_ok.mp marshaled
    split at marshaled
    next => cases marshaled
    next needed =>
      obtain ⟨tables, tablesMarshaled, here⟩ := bind_eq_ok.mp marshaled
      obtain rfl := Outcome.ok.inj here
      refine ⟨colCount, tables, fun empty => nonempty (by rw [empty]; rfl),
        checkBindData_ok checked, marshalTables_ok tablesMarshaled, messageParts _ _ _ _ _, ?_⟩
      by_contra nothing
      exact needed ⟨fun names => nothing (.inl names), fun tags => nothing (.inr (.inl tags)),
        fun cols => nothing (.inr (.inr cols))⟩

theorem names_agree_iff {names : List TableName} (read : List.Forall₂ (fun name data =>
      cString message name.pointer = some (data.tableName.takeWhile (· ≠ 0))) names bindData) :
    List.Forall₂ (NameAgrees message) names
        (bindData.map (logicalTable formatRFC3339Nano isInsert fields)) ↔
      ∀ data ∈ bindData, 0 ∉ data.tableName := by
  rw [forall₂_map_right_iff]
  induction read with
  | nil => simp
  | @cons _ data _ _ here _ inductionHypothesis =>
    have own : data.tableName.takeWhile (· ≠ 0) = data.tableName ↔ 0 ∉ data.tableName := by
      simp [takeWhile_eq_self_iff, forall_mem_ne']
    rw [forall₂_cons, inductionHypothesis, forall_mem_cons, NameAgrees, here, Option.some_inj]
    exact and_congr_left fun _ => own

namespace Sent

variable (sent : Sent formatRFC3339Nano bindData isInsert fields message colCount tables)
  (below : message.length < 2 ^ 31)
include sent

theorem tables_length : tables.length = bindData.length := sent.each.length_eq

include below

theorem namesAt (needed : (layoutOf bindData isInsert fields colCount).needTableNames = true) :
    SectionAt message 28 2 (tables.map TableData.name) := by
  have holds := sent.parts.names
  rw [Layout.names, needed, sectionBytes, if_pos rfl] at holds
  have named : ∀ name ∈ tables.map TableData.name, name.length < 256 ^ 2 ∧ name ≠ [] := by
    intro name mem
    obtain ⟨table, tableMember, rfl⟩ := mem_map.mp mem
    obtain ⟨idx, inside, rfl⟩ := getElem_of_mem tableMember
    obtain ⟨isName, short⟩ :=
      (sent.each.get inside (sent.tables_length ▸ inside)).name needed
    change tables[idx].name = _ at isName
    rw [isName]
    constructor
    · rw [length_append, length_singleton]
      omega
    · simp
  exact ⟨below, by decide, holds, fun part mem => (named part mem).1,
    fun part mem => (named part mem).2⟩

theorem tagsRead (needed : (layoutOf bindData isInsert fields colCount).needTags = true) :
    FieldsRead message ((layoutOf bindData isInsert fields colCount).tagOffset tables)
      (tagFields fields).length (bindData.map (tagData (tagFields fields))) := by
  obtain ⟨recordTables, bytes, encodes⟩ := exists_recordTables TableData.tags
    (tagData (tagFields fields)) (sent.each.imp fun _ _ tableOf => tableOf.tags needed)
  have holds := sent.parts.tags
  rw [Layout.tags, needed, ← bytes] at holds
  refine fieldsRead below holds encodes (fun tableFields mem => ?_)
    (Nat.pos_of_ne_zero (of_decide_eq_true needed))
  obtain ⟨data, dataMember, rfl⟩ := mem_map.mp mem
  exact (sent.counted data dataMember).tags

theorem colsRead (needed : (layoutOf bindData isInsert fields colCount).needCols = true) :
    FieldsRead message ((layoutOf bindData isInsert fields colCount).colOffset tables) colCount
      (bindData.map (colData formatRFC3339Nano isInsert (colFields fields))) := by
  obtain ⟨recordTables, bytes, encodes⟩ := exists_recordTables TableData.cols
    (colData formatRFC3339Nano isInsert (colFields fields))
    (sent.each.imp fun _ _ tableOf => tableOf.cols needed)
  have holds := sent.parts.cols
  rw [Layout.cols, needed, ← bytes] at holds
  refine fieldsRead below holds encodes (fun tableFields mem => ?_)
    (Nat.pos_of_ne_zero (of_decide_eq_true needed))
  obtain ⟨data, dataMember, rfl⟩ := mem_map.mp mem
  exact (sent.counted data dataMember).cols

theorem fewTables : bindData.length < 2 ^ 31 := by
  rcases sent.needed with names | tags | cols
  · have size := (sent.namesAt below names).size
    rw [length_map, sent.tables_length] at size
    omega
  · have few := (sent.tagsRead below tags).few
    have pos := Nat.pos_of_ne_zero (of_decide_eq_true tags)
    rw [length_map] at few
    exact lt_of_le_of_lt (Nat.le_mul_of_pos_right _ pos) few
  · have few := (sent.colsRead below cols).few
    have pos := Nat.pos_of_ne_zero (of_decide_eq_true cols)
    rw [length_map] at few
    exact lt_of_le_of_lt (Nat.le_mul_of_pos_right _ pos) few

theorem fewTags : (tagFields fields).length < 2 ^ 31 := by
  rcases Nat.eq_zero_or_pos (tagFields fields).length with zero | positive
  · omega
  · have few := (sent.tagsRead below (decide_eq_true positive.ne')).few
    have one := length_pos_iff.mpr sent.nonempty
    rw [length_map] at few
    exact lt_of_le_of_lt (Nat.le_mul_of_pos_left _ one) few

theorem fewCols : colCount < 2 ^ 31 := by
  rcases Nat.eq_zero_or_pos colCount with zero | positive
  · omega
  · have few := (sent.colsRead below (decide_eq_true positive.ne')).few
    have one := length_pos_iff.mpr sent.nonempty
    rw [length_map] at few
    exact lt_of_le_of_lt (Nat.le_mul_of_pos_left _ one) few

theorem headerOf_eq : headerOf message =
    (layoutOf bindData isInsert fields colCount).header message.length bindData.length
      (tagFields fields).length colCount tables := by
  have fewTables := sent.fewTables below
  have fewTags := sent.fewTags below
  have fewCols := sent.fewCols below
  have tagsInside := sent.parts.tags.1
  have colsInside := sent.parts.cols.1
  simp only [headerOf, Layout.header, Header.mk.injEq]
  refine ⟨word_of_holds sent.parts.total (by omega) rfl,
    word_of_holds sent.parts.count (by omega) rfl,
    word_of_holds sent.parts.tagCount (by omega) rfl,
    word_of_holds sent.parts.colCount (by omega) rfl,
    word_of_holds sent.parts.tableNamesOffset ?_ rfl,
    word_of_holds sent.parts.tagsOffset ?_ rfl, word_of_holds sent.parts.colsOffset ?_ rfl⟩
  · split <;> decide
  · split <;> omega
  · split <;> omega

theorem wellFormed : WellFormed message
    ((layoutOf bindData isInsert fields colCount).header message.length bindData.length
      (tagFields fields).length colCount tables)
    (tables.map TableData.name) (bindData.map (tagData (tagFields fields)))
    (bindData.map (colData formatRFC3339Nano isInsert (colFields fields))) := by
  refine ⟨below, rfl, length_pos_iff.mpr sent.nonempty, fun given => ?_, fun given => ?_,
    fun given => ?_⟩
  · simp only [Layout.header] at given ⊢
    split at given
    next needed =>
      rw [if_pos needed, length_map]
      exact ⟨sent.tables_length, sent.namesAt below needed⟩
    next => cases given
  · simp only [Layout.header] at given ⊢
    split at given
    next needed =>
      rw [if_pos needed, length_map]
      exact ⟨rfl, Nat.pos_of_ne_zero (of_decide_eq_true needed), sent.tagsRead below needed⟩
    next => cases given
  · simp only [Layout.header] at given ⊢
    split at given
    next needed =>
      rw [if_pos needed, length_map]
      exact ⟨rfl, Nat.pos_of_ne_zero (of_decide_eq_true needed), sent.colsRead below needed⟩
    next => cases given

theorem names_read (needed : (layoutOf bindData isInsert fields colCount).needTableNames = true) :
    List.Forall₂ (fun name data => cString message name.pointer =
        some (data.tableName.takeWhile (· ≠ 0)))
      ((List.range bindData.length).map (nameAt message bindData.length 28)) bindData := by
  have sectionAt := sent.namesAt below needed
  have size := sectionAt.size
  have names := sectionAt.holds.right
  rw [length_lengthTable, length_map, length_map] at names
  rw [length_map] at size
  rw [forall₂_map_left_iff]
  refine forall₂_range_of_getElem? fun idx data found => ?_
  obtain ⟨inside, rfl⟩ := List.getElem?_eq_some_iff.mp found
  have tableInside : idx < tables.length := sent.tables_length ▸ inside
  have isName := ((sent.each.get tableInside inside).name needed).1
  have pieceFound : (tables.map TableData.name)[idx]? = some (bindData[idx].tableName ++ [0]) := by
    rw [List.getElem?_map, List.getElem?_eq_getElem tableInside]
    exact congrArg some isName
  have before := sectionAt.lengthSum_eq (show idx ≤ (tables.map TableData.name).length by
    rw [length_map]
    exact tableInside.le)
  have table : uint32 (2 * bindData.length) = 2 * tables.length := by
    rw [← sent.tables_length]
    exact uint32_of_lt (by omega)
  refine (names.piece pieceFound).cString ?_
  rw [nameAt, table, before]
  push_cast
  ring

theorem names_handed_iff (colIdx : Int) :
    Handed (NameAgrees message) (fun table => table.name = [])
        (callOf message ((layoutOf bindData isInsert fields colCount).header message.length
          bindData.length (tagFields fields).length colCount tables) colIdx).bindV.tbnames
        (bindData.map (logicalTable formatRFC3339Nano isInsert fields)) ↔
      ∀ data ∈ bindData, 0 ∉ data.tableName := by
  cases needed : (layoutOf bindData isInsert fields colCount).needTableNames with
  | false =>
    have unnamed (data) (dataMember : data ∈ bindData) : data.tableName = [] := by
      rcases Bool.and_eq_false_iff.mp needed with isQuery | noNames
      · exact (sent.counted data dataMember).name isQuery
      · by_contra named
        exact any_eq_false.mp noNames data dataMember (decide_eq_true named)
    refine iff_of_true (.inl ⟨fun table mem => ?_, ?_⟩) fun data dataMember => ?_
    · obtain ⟨data, dataMember, rfl⟩ := mem_map.mp mem
      exact unnamed data dataMember
    · simp [callOf, Layout.header, needed]
    · rw [unnamed data dataMember]
      exact not_mem_nil
  | true =>
    obtain ⟨data, dataMember, named⟩ := any_eq_true.mp (Bool.and_eq_true_iff.mp needed).2
    have handed : (callOf message ((layoutOf bindData isInsert fields colCount).header
        message.length bindData.length (tagFields fields).length colCount tables)
        colIdx).bindV.tbnames =
          some ((List.range bindData.length).map (nameAt message bindData.length 28)) := by
      simp [callOf, Layout.header, needed]
    rw [← names_agree_iff (sent.names_read below needed), handed]
    constructor
    · rintro (⟨_, isNone⟩ | ⟨_, elements, given, agree⟩)
      · cases isNone
      · exact Option.some.inj given ▸ agree
    · exact fun agree => .inr ⟨⟨_, mem_map_of_mem dataMember, of_decide_eq_true named⟩, _, rfl,
        agree⟩

end Sent

theorem fields_handed {Data : Type} {data : List Data} {logical : Data → LogicalTable}
    (part : LogicalTable → List FieldData) {fieldCount : Nat}
    {handed : Option (List (List Bind))} (nonempty : data ≠ [])
    (counted : ∀ item ∈ data, (part (logical item)).length = fieldCount)
    (absent : fieldCount = 0 → handed = none)
    (present : fieldCount ≠ 0 → ∃ binds, handed = some binds ∧
      List.Forall₂ (List.Forall₂ (Describes message)) binds
        (data.map fun item => part (logical item))) :
    Handed (fun binds table => List.Forall₂ (Describes message) binds (part table))
      (fun table => part table = []) handed (data.map logical) := by
  by_cases zero : fieldCount = 0
  · refine .inl ⟨fun table mem => ?_, absent zero⟩
    obtain ⟨item, itemMember, rfl⟩ := mem_map.mp mem
    exact length_eq_zero_iff.mp ((counted item itemMember).trans zero)
  · obtain ⟨first, rest, rfl⟩ := exists_cons_of_ne_nil nonempty
    obtain ⟨binds, here, describes⟩ := present zero
    refine .inr ⟨⟨logical first, mem_map_of_mem mem_cons_self, fun empty => ?_⟩, binds, here, ?_⟩
    · exact zero ((counted first mem_cons_self).symm.trans (congrArg List.length empty))
    · rw [forall₂_map_right_iff] at describes ⊢
      exact describes

end

def twoTablesFields : List Stmt2AllField := [⟨4, 0, 2⟩, ⟨4, 0, 1⟩, ⟨8, 0, 1⟩, ⟨5, 0, 1⟩]

def twoTables : List TaosStmt2BindData :=
  [⟨[116, 49], [some (.int32 7)],
    [[some (.int32 1), none], [some (.string [97, 98]), some (.string [])], [none, none]]⟩,
    ⟨[], [none], [[], [], []]⟩]

end TaosAdapter.Stmt2
