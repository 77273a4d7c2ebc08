import TaosAdapter.Lib.Batches
import TaosAdapter.Rest.Upload

/-!
Owns: which statements an upload executes. The buffer and the statements handed
over are batches of tuples behind the words of the insert, so every tuple is in
one statement, in order.

The first tuple is compared with the limit like every other one, while the
buffer holds no tuple yet: if it does not fit, a statement without tuples is
executed in front of it.
-/

namespace TaosAdapter.Rest

open Lib List

/-- A request whose parts can be read, whose records are wide enough and whose inserts
all succeed. -/
structure CleanUpload extends Upload where
  readable : ∀ part ∈ parts, part.formName = "data" → part.readError = none
  partsEnd : partError = none
  wide : ∀ record ∈ toUpload.records, toUpload.columnCount ≤ record.length
  succeeds : ∀ executed sql, taosExec executed sql = none

namespace Upload

variable (upload : Upload)

def tuples : List Bytes := upload.records.map (tupleText upload.columns)

def statement (group : List Bytes) : Bytes := upload.insertInto ++ group.flatten

/-- Every tuple is in one of the executed statements, in order; no statement is without
tuples, and one with several is shorter than the limit; the rows are counted. -/
def Stores : Prop :=
  ∃ uploaded, upload.run = .ok uploaded ∧
    uploaded.response = execResponse upload.records.length ∧
    ∃ groups : List (List Bytes),
      groups.flatten = upload.tuples ∧
      uploaded.executed = groups.map upload.statement ∧
      ∀ group ∈ groups, group ≠ [] ∧
        (1 < group.length → (upload.statement group).length < maxSqlLength)

/-- There are no records, or the tuple of the first one is below the limit together with
the words of the insert. -/
def FirstFits : Prop :=
  ∀ record ∈ upload.records.head?,
    upload.insertInto.length + (tupleText upload.columns record).length < maxSqlLength

theorem length_statement (group : List Bytes) : (upload.statement group).length =
      Batches.total List.length upload.insertInto.length group := by
  rw [statement, length_append, length_flatten, Batches.total]

theorem tuple_ne_nil {tuple : Bytes} (mem : tuple ∈ upload.tuples) : tuple ≠ [] := by
  obtain ⟨record, _, rfl⟩ := mem_map.mp mem
  exact cons_ne_nil _ _

theorem length_statement_le_iff {group : List Bytes} (areTuples : ∀ tuple ∈ group, tuple ≠ []) :
    (upload.statement group).length ≤ upload.insertInto.length ↔ group = [] := by
  rw [statement, length_append]
  constructor
  · intro short
    cases group with
    | nil => rfl
    | cons tuple group =>
      have pos := length_pos_of_ne_nil (areTuples tuple (by simp))
      rw [flatten_cons, length_append] at short
      omega
  · rintro rfl
    simp

variable (batches : Batches Bytes)

def holding (rows : Nat) : UploadState where
  buffer := upload.statement batches.current
  colBuffer := []
  rows := rows
  executed := batches.closed.map upload.statement

def addTuple (tuple : Bytes) : Batches Bytes :=
  Batches.add List.length upload.insertInto.length maxSqlLength batches tuple

def addTuples (tuples : List Bytes) : Batches Bytes :=
  Batches.fill List.length upload.insertInto.length maxSqlLength batches tuples

end Upload

namespace CleanUpload

variable (upload : CleanUpload)

theorem exec_eq (state : UploadState) :
    upload.exec state = .ok { state with executed := state.executed ++ [state.buffer] } := by
  rw [Upload.exec, upload.succeeds]

variable (batches : Batches Bytes)

theorem addRecord_holding (rows : Nat) {record : Record} (wide : upload.columnCount ≤ record.length)
    : upload.addRecord (upload.holding batches rows) record =
      .ok (upload.holding (upload.addTuple batches (tupleText upload.columns record))
        (rows + 1)) := by
  have notShort : ¬ record.length < upload.columnCount := by omega
  rw [Upload.addRecord, if_neg notShort, Upload.makeRoom, Upload.addTuple, Batches.add]
  simp only [Upload.holding, nil_append, Upload.length_statement]
  split
  · rw [exec_eq]
    simp [Upload.writeTo, bind, Except.bind, Upload.statement]
  · simp [Upload.writeTo, bind, Except.bind, Upload.statement]

theorem addRecords_holding (rows : Nat) {records : List Record}
    (wide : ∀ record ∈ records, upload.columnCount ≤ record.length) :
    records.foldlM upload.addRecord (upload.holding batches rows) = .ok (upload.holding
        (upload.addTuples batches (records.map (tupleText upload.columns)))
        (rows + records.length)) := by
  induction records generalizing batches rows with
  | nil => rfl
  | cons record records ih =>
    have others := ih
      (upload.addTuple batches (tupleText upload.columns record)) (rows + 1)
      fun other mem => wide other (by simp [mem])
    rw [foldlM_cons, addRecord_holding upload batches rows (wide record (by simp))]
    show records.foldlM upload.addRecord _ = _
    rw [others, length_cons, Nat.add_assoc, Nat.add_comm 1]
    rfl

theorem addParts_holding (rows : Nat) {parts : List Part}
    (readable : ∀ part ∈ parts, part.formName = "data" → part.readError = none)
    (wide : ∀ part ∈ parts, part.formName = "data" →
      ∀ record ∈ part.records, upload.columnCount ≤ record.length) :
    let records := (parts.filter fun part => part.formName = "data").flatMap Part.records
    parts.foldlM upload.addPart (upload.holding batches rows) = .ok (upload.holding
        (upload.addTuples batches (records.map (tupleText upload.columns)))
        (rows + records.length)) := by
  induction parts generalizing batches rows with
  | nil => rfl
  | cons part parts ih =>
    have others := fun batches rows => ih batches rows
      (fun other mem => readable other (by simp [mem]))
      (fun other mem => wide other (by simp [mem]))
    intro records
    by_cases isData : part.formName = "data"
    · have here := addRecords_holding upload batches rows (wide part (by simp) isData)
      have done : upload.addPart (upload.holding batches rows) part = .ok (upload.holding
            (upload.addTuples batches (part.records.map (tupleText upload.columns)))
            (rows + part.records.length)) := by
        simp only [Upload.addPart, if_neg (not_not_intro isData), here, bind, Except.bind,
          readable part (by simp) isData]
      rw [foldlM_cons, done]
      show parts.foldlM upload.addPart _ = _
      rw [others]
      simp [records, isData, Upload.addTuples, Batches.fill, Nat.add_assoc]
    · have skipped : upload.addPart (upload.holding batches rows) part =
          .ok (upload.holding batches rows) := by
        rw [Upload.addPart, if_pos isData]
      rw [foldlM_cons, skipped]
      show parts.foldlM upload.addPart _ = _
      rw [others]
      simp [records, isData]

def groups : List (List Bytes) :=
  Batches.of List.length upload.insertInto.length maxSqlLength upload.tuples

theorem finish_holding {batches : Batches Bytes} (rows : Nat)
    (areTuples : ∀ tuple ∈ batches.current, tuple ≠ []) :
    upload.finish (upload.holding batches rows) =
      .ok ⟨batches.finish.map upload.statement, execResponse rows⟩ := by
  have short := upload.length_statement_le_iff areTuples
  rw [Upload.finish, Batches.finish]
  by_cases nothing : batches.current = []
  · have le : ¬ (upload.holding batches rows).buffer.length > upload.insertInto.length := by
      have le := short.mpr nothing
      show ¬ (upload.statement batches.current).length > _
      omega
    rw [if_neg le, if_pos nothing]
    rfl
  · have longer : (upload.holding batches rows).buffer.length > upload.insertInto.length := by
      have notLe : ¬ (upload.statement batches.current).length ≤ _ :=
        fun le => nothing (short.mp le)
      show (upload.statement batches.current).length > _
      omega
    rw [if_pos longer, if_neg nothing, exec_eq, map_append]
    rfl

theorem run_eq :
    upload.run = .ok ⟨upload.groups.map upload.statement, execResponse upload.records.length⟩ := by
  have begins : upload.start = upload.holding Batches.empty 0 := by
    simp [Upload.start, Upload.holding, Upload.statement, Batches.empty]
  have loop := upload.addParts_holding Batches.empty 0 upload.readable
    fun part mem isData record isRecord => upload.wide record
      (mem_flatMap.mpr ⟨part, mem_filter.mpr ⟨mem, by simpa using isData⟩, isRecord⟩)
  have areTuples :
      ∀ tuple ∈ (upload.addTuples Batches.empty upload.tuples).current, tuple ≠ [] := by
    intro tuple mem
    have everything : (upload.addTuples Batches.empty upload.tuples).all.flatten = upload.tuples :=
      Batches.flatten_fill _ _
    apply upload.tuple_ne_nil
    rw [← everything]
    exact mem_flatten.mpr ⟨_, by simp [Batches.all], mem⟩
  rw [Upload.run, begins, loop, upload.partsEnd, Nat.zero_add]
  exact upload.finish_holding upload.records.length areTuples

theorem groups_fit {group : List Bytes} (mem : group ∈ upload.groups)
    (several : 1 < group.length) : (upload.statement group).length < maxSqlLength := by
  rw [upload.length_statement]
  exact Batches.below_of _ _ _ _ group mem several

theorem flatten_groups : upload.groups.flatten = upload.tuples := Batches.flatten_of _ _ _ _

theorem groups_filled_iff : (∀ group ∈ upload.groups, group ≠ []) ↔ upload.FirstFits := by
  rw [groups, Batches.filled_of_iff, Upload.tuples, List.head?_map, Upload.FirstFits]
  simp

theorem groups_filled_of_same {others : List (List Bytes)}
    (tuples : others.flatten = upload.tuples) (filled : ∀ group ∈ others, group ≠ [])
    (same : upload.groups.map upload.statement = others.map upload.statement) :
    ∀ group ∈ upload.groups, group ≠ [] := by
  rintro group mem rfl
  have found : upload.statement [] ∈ others.map upload.statement := by
    rw [← same]
    exact mem_map_of_mem mem
  obtain ⟨other, isOther, equal⟩ := mem_map.mp found
  have areTuples : ∀ tuple ∈ other, tuple ≠ [] := by
    intro tuple isTuple
    apply upload.tuple_ne_nil
    rw [← tuples]
    exact mem_flatten.mpr ⟨other, isOther, isTuple⟩
  have short : (upload.statement other).length ≤ upload.insertInto.length := by
    rw [equal, Upload.statement]
    simp
  exact filled other isOther ((upload.length_statement_le_iff areTuples).mp short)

theorem firstFits_of_stores (stores : upload.Stores) : upload.FirstFits := by
  obtain ⟨uploaded, ran, _, others, tuples, executed, good⟩ := stores
  rw [run_eq] at ran
  obtain rfl := Except.ok.inj ran
  rw [← groups_filled_iff]
  exact upload.groups_filled_of_same tuples (fun group mem => (good group mem).1) executed

end CleanUpload

/-- Every tuple of an upload is in one of the executed statements, in order, with no statement
without tuples, exactly if the tuple of the first record is below the limit together with the
words of the insert. -/
theorem records_stored_iff (upload : CleanUpload) : upload.Stores ↔ upload.FirstFits := by
  constructor
  · exact upload.firstFits_of_stores
  · intro fits
    have filled := upload.groups_filled_iff.mpr fits
    exact ⟨_, upload.run_eq, rfl, upload.groups, upload.flatten_groups, rfl,
      fun group member => ⟨filled group member, upload.groups_fit member⟩⟩

def oneFieldUpload (text : Bytes) : CleanUpload where
  db := ascii "d"
  table := ascii "t"
  describe := [⟨"INT", ""⟩]
  parts := [⟨"data", [[some text]], none⟩]
  partError := none
  taosExec := fun _ _ => none
  readable := by simp
  partsEnd := rfl
  wide := by
    intro record member
    obtain rfl : record = [some text] := by simpa [Upload.records] using member
    exact Nat.le_refl 1
  succeeds := fun _ _ => rfl

theorem not_stores_long {text : Bytes} (long : maxSqlLength ≤ text.length) :
    ¬ (oneFieldUpload text).Stores := by
  intro stores
  have first := CleanUpload.firstFits_of_stores _ stores [some text]
    (by simp [Upload.records, oneFieldUpload])
  have tuple : text.length ≤ (tupleText (oneFieldUpload text).columns [some text]).length := by
    have onlyColumn : (oneFieldUpload text).columns = [false] := rfl
    simp only [tupleText, onlyColumn, writeCells, writeCell, length_cons, length_append]
    simp
    omega
  omega

/-- A field as long as a statement may be. -/
theorem statement_without_tuples : ¬ (oneFieldUpload (List.replicate maxSqlLength 49)).Stores :=
  not_stores_long (length_replicate ▸ Nat.le_refl _)

end TaosAdapter.Rest
