import TaosAdapter.Stmt.BindBatch

/-!
Owns: what a bind of a table holds.

`Column.Fits` says for which columns this is so. Sizes are computed with the
arithmetic of the source and cut to 32 bits; where the cut takes nothing away,
every row has its place. A column type without a case of its own binds nothing.
-/

namespace TaosAdapter.Stmt

open Lib Driver List Outcome
open RawBlock (Cell Read load loadInt32)

def byteLength : TaosValue → Nat
  | .bool _ => 1
  | .tinyint _ => 1
  | .smallint _ => 2
  | .int _ => 4
  | .bigint _ => 8
  | .utinyint _ => 1
  | .usmallint _ => 2
  | .uint _ => 4
  | .ubigint _ => 8
  | .float _ => 4
  | .double _ => 8
  | .binary v => v.length
  | .varBinary v => v.length
  | .nchar v => v.length
  | .timestamp _ _ => 8
  | .json v => v.length
  | .geometry v => v.length
  | .other => 0

def IsText : TaosType → Prop
  | .binary => True
  | .varBinary => True
  | .nchar => True
  | .json => True
  | .geometry => True
  | _ => False

structure Column where
  columnType : ColumnType
  data : List Cell
  typed : ∀ value, some value ∈ data → valueType value = columnType.type
  maxLen : IsText columnType.type → ∀ value, some value ∈ data →
    byteLength value ≤ columnType.maxLen

structure Table where
  columns : List Column
  rows : Nat
  length_data : ∀ col ∈ columns, col.data.length = rows

def Table.bind (table : Table) (malloc : Malloc) : Read (List MultiBind) :=
  taosStmtBindParamBatch malloc (table.columns.map Column.data)
    (table.columns.map Column.columnType)

def precisionOf : TaosValue → Int
  | .timestamp _ precision => precision
  | _ => 0

def GivesBack (type : TaosType) (bind : MultiBind) (i : Nat) : Cell → Prop
  | none => bind.read i = .ok none
  | some value =>
    ∃ bytes, bind.read i = .ok (some bytes) ∧ decode type (precisionOf value) bytes = some value

structure Column.GivenBack (col : Column) (bind : MultiBind) : Prop where
  rows : ∀ i cell, col.data[i]? = some cell → GivesBack col.columnType.type bind i cell
  apart : ∀ i j value later, i < j → col.data[i]? = some (some value) →
    col.data[j]? = some (some later) →
      Apart (bind.bufferLength * i) (byteLength value) (bind.bufferLength * j) (byteLength later)

def Table.GivenBack (table : Table) : Prop :=
  ∀ malloc, ∃ binds, table.bind malloc = .ok binds ∧
    List.Forall₂ Column.GivenBack table.columns binds

def Exact : TaosValue → Prop
  | .timestamp t precision => WholeUnits t precision
  | _ => True

structure PlaceFits (rows width i : Nat) (value : TaosValue) : Prop where
  buffer : byteLength value = 0 ∨ width * i + byteLength value ≤ cUint (width * rows)
  lengths : 4 * i + 4 ≤ cUint (rows * 4)

structure ValueFits (rows width i : Nat) (value : TaosValue) : Prop where
  place : PlaceFits rows width i value
  length : byteLength value < 2 ^ 31
  exact : Exact value

def Column.Fits (col : Column) : Prop :=
  col.data ≠ [] → ∃ bufferType width, bufferOf col.columnType = some (bufferType, width) ∧
    col.data.length < 2 ^ 32 ∧
      ∀ i value, col.data[i]? = some (some value) →
        ValueFits col.data.length width i value

def Table.Fits (table : Table) : Prop :=
  table.columns ≠ [] ∧ ∀ col ∈ table.columns, col.Fits

variable {width : Nat}

theorem ofNat_leBytes {bits : Nat} (value : BitVec bits) (fits : 2 ^ bits = 256 ^ width) :
    BitVec.ofNat bits (leNat (leBytes width value.toNat)) = value := by
  rw [leNat_leBytes_of_lt (fits ▸ value.isLt), BitVec.ofNat_toNat, BitVec.setWidth_eq]

variable {value : TaosValue}

theorem valueBytes_of_type {type : TaosType} (typed : valueType value = type) {bytes : Bytes}
    (written : valueBytes type value = .ok bytes) : bytes.length = byteLength value ∧
      (decode type (precisionOf value) bytes = some value ↔ Exact value) := by
  rw [← typed] at written ⊢
  cases value with
  | bool v =>
    cases written
    refine ⟨rfl, iff_of_true ?_ trivial⟩
    cases v <;> rfl
  | tinyint v | smallint v | int v | bigint v | utinyint v | usmallint v | uint v | ubigint v
  | float v | double v =>
    cases written
    exact ⟨rfl, iff_of_true (congrArg (some ∘ _) (ofNat_leBytes v rfl)) trivial⟩
  | binary v | varBinary v | nchar v | geometry v =>
    cases written
    exact ⟨rfl, iff_of_true rfl trivial⟩
  | timestamp t prec =>
    obtain ⟨ts, converted, finish⟩ := bind_eq_ok.mp written
    cases finish
    refine ⟨length_leBytes 8 _, ?_⟩
    unfold timeToTimestamp at converted
    split at converted
    next unit known =>
      cases converted
      have bits := ofNat_leBytes ((unixNano t).sdiv (BitVec.ofNat 64 unit))
        (show 2 ^ 64 = 256 ^ 8 from rfl)
      rw [Exact, ← timestamp_mul_unit_iff known]
      simp only [decode, valueType, precisionOf, known, Option.map_some, bits, Option.some.injEq,
        TaosValue.timestamp.injEq, and_true]
    next => cases converted
  | json | other => cases written

variable {bufferType : Nat}

theorem exists_valueBytes {columnType : ColumnType}
    (found : bufferOf columnType = some (bufferType, width))
    (typed : valueType value = columnType.type) (exactly : Exact value) :
    ∃ bytes, valueBytes columnType.type value = .ok bytes := by
  rw [← typed]
  cases value with
  | timestamp t prec =>
    obtain ⟨unit, known, _⟩ := exactly
    exact ⟨_, by rw [valueType, valueBytes, timeToTimestamp, known]; rfl⟩
  | json | other =>
    rw [bufferOf, ← typed] at found
    cases found
  | _ => exact ⟨_, rfl⟩

theorem Column.byteLength_le (col : Column)
    (found : bufferOf col.columnType = some (bufferType, width)) (mem : some value ∈ col.data) :
    byteLength value ≤ width := by
  have typed := col.typed value mem
  have short := fun isText => col.maxLen isText value mem
  rw [← typed] at short
  rw [bufferOf, ← typed] at found
  cases value with
  | binary v | varBinary v | nchar v | geometry v =>
    cases found
    exact short trivial
  | json v | other => cases found
  | _ =>
    cases found
    exact Nat.le_refl _

def Lists.Stores (type : TaosType) (width : Nat) (lists : Lists) (i : Nat) : Cell → Prop
  | none => Holds lists.nullList i [1]
  | some value =>
    ∃ bytes, valueBytes type value = .ok bytes ∧ Holds lists.nullList i [0] ∧
      (bytes = [] ∨ Holds lists.p (width * i) bytes) ∧
        Holds lists.lengthList (4 * i) (leBytes 4 bytes.length)

structure Lists.SameSizes (lists other : Lists) : Prop where
  nullList : lists.nullList.length = other.nullList.length
  lengthList : lists.lengthList.length = other.lengthList.length
  p : lists.p.length = other.p.length

structure Lists.Keeps (next lists : Lists) (width i : Nat) : Prop where
  nullList : ∀ j < i, ∀ byte, Holds lists.nullList j [byte] → Holds next.nullList j [byte]
  lengthList : ∀ j < i, ∀ length, Holds lists.lengthList (4 * j) (leBytes 4 length) →
    Holds next.lengthList (4 * j) (leBytes 4 length)
  p : ∀ j < i, ∀ bytes : Bytes, bytes.length ≤ width → Holds lists.p (width * j) bytes →
    Holds next.p (width * j) bytes

structure Lists.HasPlace (lists : Lists) (type : TaosType) (width i : Nat) (cell : Cell) :
    Prop where
  flag : i + 1 ≤ lists.nullList.length
  value : ∀ value, cell = some value → ∃ bytes, valueBytes type value = .ok bytes ∧
    (bytes = [] ∨ width * i + bytes.length ≤ lists.p.length) ∧
      4 * i + 4 ≤ lists.lengthList.length

section

variable {type : TaosType} {width j : Nat} {lists next : Lists} {i : Nat} {cell : Cell}

theorem keeps_flag (byte : UInt8) (before : j < i) {kept : UInt8}
    (holds : Holds lists.nullList j [kept]) : Holds (poke lists.nullList i [byte]) j [kept] :=
  holds.poke (.inr before)

theorem keeps_length (length : Nat) (before : j < i) {kept : Nat}
    (holds : Holds lists.lengthList (4 * j) (leBytes 4 kept)) :
    Holds (poke lists.lengthList (4 * i) (leBytes 4 length)) (4 * j) (leBytes 4 kept) :=
  holds.poke (.inr (by rw [length_leBytes]; omega))

theorem place_le (before : j < i) {length : Nat} (short : length ≤ width) :
    width * j + length ≤ width * i :=
  calc
    width * j + length ≤ width * (j + 1) := by rw [Nat.mul_succ]; omega
    _ ≤ width * i := Nat.mul_le_mul_left width before

theorem bindRow_of_hasPlace (place : lists.HasPlace type width i cell) :
    ∃ next, bindRow type width i cell lists = .ok next ∧ next.Stores type width i cell ∧
      next.Keeps lists width i ∧ next.SameSizes lists := by
  have flag : ∀ byte : UInt8, (store lists.nullList i [byte] : Read Bytes) =
      .ok (poke lists.nullList i [byte]) := fun byte => store_of_inside (.inr place.flag)
  cases cell with
  | none =>
    refine ⟨{ lists with nullList := poke lists.nullList i [1] }, ?_, ?_, ⟨?_, ?_, ?_⟩, ?_⟩
    · rw [bindRow, flag, ok_bind]
    · exact holds_poke place.flag
    · exact fun j before _ => keeps_flag 1 before
    · exact fun _ _ _ => id
    · exact fun _ _ _ _ => id
    · exact ⟨length_poke _ _ _, rfl, rfl⟩
  | some value =>
    obtain ⟨bytes, written, buf, lengths⟩ := place.value value rfl
    have length : (leBytes 4 bytes.length).length = 4 := length_leBytes 4 _
    refine ⟨⟨poke lists.nullList i [0], poke lists.lengthList (4 * i) (leBytes 4 bytes.length),
      poke lists.p (width * i) bytes⟩, ?_, ⟨bytes, written, ?_, ?_, ?_⟩, ⟨?_, ?_, ?_⟩, ?_⟩
    · rw [bindRow, flag, ok_bind, written, ok_bind, store_of_inside buf,
        ok_bind, store_of_inside (.inr (by rw [length]; exact lengths)), ok_bind]
    · exact holds_poke place.flag
    · exact buf.imp id holds_poke
    · exact holds_poke (by rw [length]; exact lengths)
    · exact fun j before _ => keeps_flag 0 before
    · exact fun j before _ => keeps_length bytes.length before
    · exact fun j before _ short holds => holds.poke (.inr (place_le before short))
    · exact ⟨length_poke _ _ _, length_poke _ _ _, length_poke _ _ _⟩

theorem hasPlace_of_bindRow (bound : bindRow type width i cell lists = .ok next) :
    lists.HasPlace type width i cell := by
  cases cell with
  | none =>
    obtain ⟨nullList, stored, _⟩ := bind_eq_ok.mp bound
    exact ⟨(inside_of_store stored).resolve_left nofun, nofun⟩
  | some value =>
    obtain ⟨nullList, stored, bound⟩ := bind_eq_ok.mp bound
    obtain ⟨bytes, written, bound⟩ := bind_eq_ok.mp bound
    obtain ⟨p, buf, bound⟩ := bind_eq_ok.mp bound
    obtain ⟨lengthList, lengths, _⟩ := bind_eq_ok.mp bound
    refine ⟨(inside_of_store stored).resolve_left nofun, fun value same => ?_⟩
    cases same
    refine ⟨bytes, written, inside_of_store buf, ?_⟩
    have inside := (inside_of_store lengths).resolve_left nofun
    rwa [length_leBytes] at inside

variable {other : Lists}

theorem Lists.HasPlace.of_sameSizes (place : other.HasPlace type width i cell)
    (same : lists.SameSizes other) : lists.HasPlace type width i cell := by
  refine ⟨same.nullList ▸ place.flag, fun value isValue => ?_⟩
  rw [same.p, same.lengthList]
  exact place.value value isValue

theorem Lists.SameSizes.trans {middle : Lists} (first : lists.SameSizes middle)
    (second : middle.SameSizes other) : lists.SameSizes other :=
  ⟨first.nullList.trans second.nullList, first.lengthList.trans second.lengthList,
    first.p.trans second.p⟩

theorem Lists.Stores.keep (stores : lists.Stores type width j cell)
    (keeps : next.Keeps lists width i) (before : j < i)
    (short : ∀ value bytes, cell = some value → valueBytes type value = .ok bytes →
      bytes.length ≤ width) : next.Stores type width j cell := by
  cases cell with
  | none => exact keeps.nullList j before 1 stores
  | some value =>
    obtain ⟨bytes, written, flag, buf, length⟩ := stores
    exact ⟨bytes, written, keeps.nullList j before 0 flag,
      buf.imp id (keeps.p j before bytes (short value bytes rfl written)),
      keeps.lengthList j before bytes.length length⟩

end

structure Lists.StoresFirst (lists : Lists) (col : Column) (width : Nat) (allocated : Lists)
    (k : Nat) : Prop where
  rows : ∀ i < k, ∀ cell, col.data[i]? = some cell →
    lists.Stores col.columnType.type width i cell
  sizes : lists.SameSizes allocated

section

variable {col : Column} {bufferType width : Nat} {lists : Lists}

variable (lists) in
theorem bindRows_of_hasPlace (found : bufferOf col.columnType = some (bufferType, width))
    (place : ∀ (i : Nat) (cell : Cell), col.data[i]? = some cell →
      lists.HasPlace col.columnType.type width i cell) :
    ∃ last, eachItem (bindRow col.columnType.type width) col.data.length 0 col.data lists =
        .ok last ∧ ∀ (i : Nat) (cell : Cell), col.data[i]? = some cell →
        last.Stores col.columnType.type width i cell := by
  have short : ∀ (i : Nat) (cell : Cell), col.data[i]? = some cell →
      ∀ value bytes, cell = some value →
      valueBytes col.columnType.type value = .ok bytes → bytes.length ≤ width := by
    intro i cell here value bytes isValue written
    have mem : some value ∈ col.data := isValue ▸ mem_of_getElem? here
    rw [(valueBytes_of_type (col.typed value mem) written).1]
    exact col.byteLength_le found mem
  have initially : lists.StoresFirst col width lists 0 :=
    ⟨fun i before => absurd before (Nat.not_lt_zero i), rfl, rfl, rfl⟩
  obtain ⟨last, finished, stores, _⟩ := eachItem_ok (bindRow col.columnType.type width)
    (fun k current => current.StoresFirst col width lists k) initially (by
      intro k cell current here stored
      rw [Nat.zero_add] at stored ⊢
      obtain ⟨next, bound, newest, keeps, sizes⟩ :=
        bindRow_of_hasPlace ((place k cell here).of_sameSizes stored.sizes)
      refine ⟨next, bound, fun i before earlier found => ?_, sizes.trans stored.sizes⟩
      rcases Nat.lt_succ_iff_lt_or_eq.mp before with before | rfl
      · exact (stored.rows i before earlier found).keep keeps before (short i earlier found)
      · cases found.symm.trans here
        exact newest)
  refine ⟨last, finished, fun i cell here => stores i ?_ cell here⟩
  rw [Nat.zero_add]
  exact lt_of_getElem? here

theorem hasPlace_of_bindRows {last : Lists}
    (bound : eachItem (bindRow col.columnType.type width) col.data.length 0 col.data
      lists = .ok last) (i : Nat) (cell : Cell) (here : col.data[i]? = some cell) :
    lists.HasPlace col.columnType.type width i cell := by
  have needed := forall_of_eachItem_ok (bindRow col.columnType.type width)
    (fun current => current.SameSizes lists)
    (fun i cell => lists.HasPlace col.columnType.type width i cell) ⟨rfl, rfl, rfl⟩
    (by
      intro i cell current next same bound
      have place := hasPlace_of_bindRow bound
      obtain ⟨next', bound', _, _, sizes⟩ := bindRow_of_hasPlace place
      obtain rfl : next' = next := Outcome.ok.inj (bound'.symm.trans bound)
      exact ⟨place.of_sameSizes ⟨same.nullList.symm, same.lengthList.symm, same.p.symm⟩,
        sizes.trans same⟩) bound i cell here
  rwa [Nat.zero_add] at needed

end

section

variable {bind : MultiBind} {i : Nat}

theorem load_flag {byte : UInt8} (flag : Holds bind.isNull i [byte]) :
    load bind.isNull i 1 = .ok byte.toNat := by
  have loaded : peekNat bind.isNull i 1 = some (leNat [byte]) := flag.peekNat rfl rfl
  rw [load, loaded, ofRead_some, leNat, leNat, Nat.mul_zero, Nat.add_zero]

theorem read_of_null (flag : Holds bind.isNull i [1]) : bind.read i = .ok none := by
  rw [MultiBind.read, load_flag flag, ok_bind]
  rfl

variable (bind) in
theorem read_of_value {p bytes : Bytes} (buf : bind.buffer = some p)
    (flag : Holds bind.isNull i [0]) (content : bytes = [] ∨ Holds p (bind.bufferLength * i) bytes)
    (lengths : Holds bind.length (4 * i) (leBytes 4 bytes.length)) (small : bytes.length < 2 ^ 32) :
    bind.read i = if bytes.length < 2 ^ 31 then .ok (some bytes) else .fault := by
  have length : loadInt32 bind.length (4 * i) = .ok (int32 bytes.length) := by
    rw [loadInt32, load, lengths.peekNat_leBytes (by omega) small, ofRead_some, ok_bind]
  rw [MultiBind.read, load_flag flag, ok_bind, if_neg (by decide), length,
    ok_bind, int32, BitVec.ofInt_natCast, BitVec.toInt_ofNat']
  by_cases pos : bytes.length < 2 ^ 31
  · rw [if_pos pos, Int.bmod_eq_of_le (by omega) (by omega), if_neg (by omega)]
    rcases content with rfl | content
    · rfl
    · split
      next empty => rw [length_eq_zero_iff.mp (Int.natCast_eq_zero.mp empty)]
      next =>
        rw [buf, ofRead_some, ok_bind, Int.toNat_natCast,
          content.peek (by push_cast; rfl) rfl, ofRead_some, ok_bind]
  · have wrapped : (bytes.length : Int).bmod (2 ^ 32) < 0 := by
      rw [Int.bmod_def]
      omega
    rw [if_neg pos, if_pos wrapped]

theorem flag_of_read {cell : Option Bytes} (read : bind.read i = .ok cell) :
    ∃ flag, load bind.isNull i 1 = .ok flag ∧ (cell = none ↔ flag ≠ 0) := by
  obtain ⟨flag, loaded, rest⟩ := bind_eq_ok.mp read
  refine ⟨flag, loaded, ?_⟩
  split at rest
  next isNull =>
    cases rest
    exact iff_of_true rfl isNull
  next value =>
    refine iff_of_false ?_ value
    rintro rfl
    obtain ⟨length, _, rest⟩ := bind_eq_ok.mp rest
    split at rest
    · cases rest
    · split at rest
      · cases rest
      · obtain ⟨buf, _, rest⟩ := bind_eq_ok.mp rest
        obtain ⟨bytes, _, rest⟩ := bind_eq_ok.mp rest
        cases rest

end

section

variable {col : Column} {bufferType width : Nat}

def allocated (malloc : Malloc) (columnIndex rowLen width : Nat) : Lists :=
  ⟨malloc.content columnIndex 0 (cUint rowLen), malloc.content columnIndex 1 (cUint (rowLen * 4)),
    malloc.content columnIndex 2 (cUint (width * rowLen))⟩

variable {columnIndex : Nat} {malloc : Malloc}

theorem bindColumn_eq_ok_iff {rowLen : Nat} {bind : MultiBind}
    (found : bufferOf col.columnType = some (bufferType, width)) :
    bindColumn malloc columnIndex rowLen col.columnType col.data = .ok bind ↔
      ∃ lists, eachItem (bindRow col.columnType.type width) col.data.length 0 col.data
          (allocated malloc columnIndex rowLen width) = .ok lists ∧
        bind = ⟨bufferType, some lists.p, width, lists.lengthList, lists.nullList,
          (BitVec.ofNat 32 rowLen).toInt⟩ := by
  rw [bindColumn, found]
  constructor
  · intro bound
    obtain ⟨lists, stored, finish⟩ := bind_eq_ok.mp bound
    exact ⟨lists, stored, (Outcome.ok.inj finish).symm⟩
  · rintro ⟨lists, stored, rfl⟩
    exact bind_eq_ok.mpr ⟨lists, stored, rfl⟩

variable {value : TaosValue} {i : Nat}

theorem hasPlace_allocated_iff {type : TaosType} {bytes : Bytes} (typed : valueType value = type)
    (written : valueBytes type value = .ok bytes) (rows : Nat) (inRange : i < rows)
    (few : rows < 2 ^ 32) :
    (allocated malloc columnIndex rows width).HasPlace type width i (some value) ↔
      PlaceFits rows width i value := by
  have length := (valueBytes_of_type typed written).1
  have empty : bytes = [] ↔ byteLength value = 0 := by rw [← length, length_eq_zero_iff]
  simp only [allocated]
  constructor
  · rintro ⟨_, place⟩
    obtain ⟨bytes', written', buf, lengths⟩ := place value rfl
    obtain rfl : bytes' = bytes := Outcome.ok.inj (written'.symm.trans written)
    rw [malloc.length_content, empty, length] at buf
    rw [malloc.length_content] at lengths
    exact ⟨buf, lengths⟩
  · rintro ⟨buf, lengths⟩
    refine ⟨?_, fun _ same => ?_⟩
    · rw [malloc.length_content, cUint, Nat.mod_eq_of_lt few]
      exact inRange
    · cases same
      rw [malloc.length_content, malloc.length_content]
      exact ⟨bytes, written, by rwa [empty, length], lengths⟩

theorem rows_apart (found : bufferOf col.columnType = some (bufferType, width)) {j : Nat}
    {later : TaosValue} (before : i < j) (here : col.data[i]? = some (some value)) :
    Apart (width * i) (byteLength value) (width * j) (byteLength later) :=
  .inl (place_le before (col.byteLength_le found (mem_of_getElem? here)))

variable {rows : Nat}

theorem byteLength_lt_of_placeFits (place : PlaceFits rows width i value) :
    byteLength value < 2 ^ 32 := by
  have cut : cUint (width * rows) < 2 ^ 32 := Nat.mod_lt _ (by decide)
  rcases place.buffer with empty | inside
  · rw [empty]
    decide
  · exact lt_of_le_of_lt (le_trans (Nat.le_add_left _ _) inside) cut

theorem givesBack_iff {lists : Lists} {num : Int}
    (stores : lists.Stores col.columnType.type width i (some value))
    (typed : valueType value = col.columnType.type) (place : PlaceFits rows width i value) :
    GivesBack col.columnType.type
        ⟨bufferType, some lists.p, width, lists.lengthList, lists.nullList, num⟩ i (some value) ↔
      byteLength value < 2 ^ 31 ∧ Exact value := by
  obtain ⟨bytes, written, flag, content, lengths⟩ := stores
  obtain ⟨length, decoded⟩ := valueBytes_of_type typed written
  have small := byteLength_lt_of_placeFits place
  rw [← length] at small ⊢
  simp only [GivesBack]
  rw [read_of_value ⟨bufferType, some lists.p, width, lists.lengthList, lists.nullList, num⟩ rfl
    flag content lengths small]
  by_cases short : bytes.length < 2 ^ 31
  · rw [if_pos short, and_iff_right short, ← decoded]
    constructor
    · rintro ⟨other, same, decodes⟩
      cases same
      exact decodes
    · exact fun decodes => ⟨bytes, rfl, decodes⟩
  · rw [if_neg short]
    exact iff_of_false (fun ⟨_, read, _⟩ => nomatch read) fun both => short both.1

theorem Column.givenBack_of_fits (fits : col.Fits) (malloc : Malloc) (columnIndex : Nat) :
    ∃ bind, bindColumn malloc columnIndex col.data.length col.columnType col.data =
        .ok bind ∧ col.GivenBack bind := by
  by_cases rows : col.data = []
  · have nothing : ∀ bind : MultiBind, col.GivenBack bind := by
      intro bind
      constructor
      · intro i cell here
        rw [rows] at here
        cases here
      · intro i j value later _ here
        rw [rows] at here
        cases here
    rw [rows]
    cases found : bufferOf col.columnType with
    | none => exact ⟨_, by rw [bindColumn, found], nothing _⟩
    | some buf => exact ⟨_, by rw [bindColumn, found]; rfl, nothing _⟩
  · obtain ⟨bufferType, width, found, few, values⟩ := fits rows
    have typed : ∀ (i : Nat) (value : TaosValue), col.data[i]? = some (some value) →
        valueType value = col.columnType.type := fun i value here =>
      col.typed value (mem_of_getElem? here)
    have places : ∀ (i : Nat) (cell : Cell), col.data[i]? = some cell →
        (allocated malloc columnIndex col.data.length width).HasPlace col.columnType.type
          width i cell := by
      intro i cell here
      have inRange := lt_of_getElem? here
      cases cell with
      | none =>
        refine ⟨?_, nofun⟩
        rw [allocated, malloc.length_content, cUint, Nat.mod_eq_of_lt few]
        exact inRange
      | some value =>
        have fits := values i value here
        obtain ⟨bytes, written⟩ := exists_valueBytes found (typed i value here) fits.exact
        exact (hasPlace_allocated_iff (typed i value here) written _ inRange few).mpr fits.place
    obtain ⟨lists, bound, stores⟩ := bindRows_of_hasPlace _ found places
    refine ⟨_, (bindColumn_eq_ok_iff found).mpr ⟨lists, bound, rfl⟩, ?_, ?_⟩
    · intro i cell here
      cases cell with
      | none => exact read_of_null (stores i none here)
      | some value =>
        have fits := values i value here
        exact (givesBack_iff (stores i _ here) (typed i value here) fits.place).mpr
          ⟨fits.length, fits.exact⟩
    · exact fun i j value later before here _ => rows_apart found before here

def filled (byte : UInt8) : Malloc where
  content := fun _ _ size => List.replicate size byte
  length_content := fun _ _ _ => length_replicate

theorem eq_of_load_replicate {byte : UInt8} {size flag : Nat}
    (loaded : load (List.replicate size byte) i 1 = .ok flag) : flag = byte.toNat := by
  unfold load peekNat peek at loaded
  split at loaded
  next inside =>
    rw [length_replicate] at inside
    have one : min 1 (size - i) = 1 := by omega
    rw [Int.toNat_natCast, drop_replicate, take_replicate, one] at loaded
    cases loaded
    simp [leNat]
  next => cases loaded

theorem not_givenBack_of_none (columnIndex : Nat) (found : bufferOf col.columnType = none)
    (rows : col.data ≠ []) : ∃ malloc, ∀ bind,
      bindColumn malloc columnIndex col.data.length col.columnType col.data = .ok bind →
        ¬ col.GivenBack bind := by
  obtain ⟨cell, rest, data⟩ := exists_cons_of_ne_nil rows
  have first : col.data[0]? = some cell := by rw [data]; rfl
  -- The flag of the first row is the wrong one.
  refine ⟨filled (if cell = none then 0 else 1), fun bind bound given => ?_⟩
  rw [bindColumn, found] at bound
  obtain rfl := Outcome.ok.inj bound
  have read := given.rows 0 cell first
  cases cell with
  | none =>
    obtain ⟨flag, loaded, isNull⟩ := flag_of_read read
    exact absurd (eq_of_load_replicate loaded) (isNull.mp rfl)
  | some value =>
    obtain ⟨bytes, read, _⟩ := read
    obtain ⟨flag, loaded, isNull⟩ := flag_of_read read
    have one : flag = 1 := eq_of_load_replicate loaded
    exact absurd (isNull.mpr (by omega)) nofun

theorem Column.fits_of_givenBack (given : ∀ malloc, ∃ bind,
      bindColumn malloc columnIndex col.data.length col.columnType col.data = .ok bind ∧
        col.GivenBack bind) : col.Fits := by
  intro rows
  cases found : bufferOf col.columnType with
  | none =>
    obtain ⟨malloc, wrong⟩ := not_givenBack_of_none columnIndex found rows
    obtain ⟨bind, bound, back⟩ := given malloc
    exact absurd back (wrong bind bound)
  | some buf =>
    obtain ⟨bufferType, width⟩ := buf
    obtain ⟨bind, bound, back⟩ := given (filled 0)
    obtain ⟨lists, stored, rfl⟩ := (bindColumn_eq_ok_iff found).mp bound
    have places := hasPlace_of_bindRows stored
    obtain ⟨last, again, stores⟩ := bindRows_of_hasPlace _ found places
    obtain rfl : last = lists := Outcome.ok.inj (again.symm.trans stored)
    have few : col.data.length < 2 ^ 32 := by
      have pos := length_pos_iff.mpr rows
      obtain ⟨cell, here⟩ : ∃ cell, col.data[col.data.length - 1]? = some cell :=
        ⟨_, List.getElem?_eq_getElem (by omega)⟩
      have flag := (places _ cell here).flag
      have cut : cUint col.data.length < 2 ^ 32 := Nat.mod_lt _ (by decide)
      rw [allocated, Malloc.length_content] at flag
      omega
    refine ⟨bufferType, width, rfl, few, fun i value here => ?_⟩
    have inRange := lt_of_getElem? here
    have typed := col.typed value (mem_of_getElem? here)
    obtain ⟨bytes, written, _⟩ := (places i _ here).value value rfl
    have place := (hasPlace_allocated_iff typed written _ inRange few).mp (places i _ here)
    obtain ⟨short, exactly⟩ :=
      (givesBack_iff (stores i _ here) typed place).mp (back.rows i _ here)
    exact ⟨place, short, exactly⟩

end

theorem bindColumns_givenBack_iff (malloc : Malloc) (rowLen columnIndex : Nat)
    (columns : List Column) :
    (∃ binds, bindColumns malloc rowLen columnIndex (columns.map Column.data)
        (columns.map Column.columnType) = .ok binds ∧ List.Forall₂ Column.GivenBack columns binds) ↔
    ∀ (k : Nat) (col : Column), columns[k]? = some col →
      ∃ bind, bindColumn malloc (columnIndex + k) rowLen col.columnType col.data = .ok bind ∧
        col.GivenBack bind := by
  induction columns generalizing columnIndex with
  | nil => exact iff_of_true ⟨[], rfl, .nil⟩ nofun
  | cons col columns ih =>
    constructor
    · rintro ⟨binds, bound, given⟩ k found here
      obtain ⟨bind, first, rest⟩ := bind_eq_ok.mp bound
      obtain ⟨others, later, finish⟩ := bind_eq_ok.mp rest
      cases finish
      cases given with
      | cons head tail =>
        cases k with
        | zero =>
          cases here
          exact ⟨bind, first, head⟩
        | succ k =>
          have next := (ih (columnIndex + 1)).mp ⟨others, later, tail⟩
            k found here
          rwa [Nat.add_right_comm, Nat.add_assoc] at next
    · intro all
      obtain ⟨bind, first, head⟩ := all 0 col rfl
      obtain ⟨others, later, tail⟩ :=
          (ih (columnIndex + 1)).mpr fun k found here => by
        rw [Nat.add_right_comm, Nat.add_assoc]
        exact all (k + 1) found here
      refine ⟨bind :: others, ?_, .cons head tail⟩
      exact bind_eq_ok.mpr ⟨bind, first, bind_eq_ok.mpr ⟨others, later, rfl⟩⟩

theorem Table.bind_givenBack_iff (table : Table) (malloc : Malloc) :
    (∃ binds, table.bind malloc = .ok binds ∧ List.Forall₂ Column.GivenBack table.columns binds) ↔
      table.columns ≠ [] ∧ ∀ (k : Nat) (col : Column), table.columns[k]? = some col →
        ∃ bind, bindColumn malloc k col.data.length col.columnType col.data = .ok bind ∧
          col.GivenBack bind := by
  obtain ⟨columns, rows, same⟩ := table
  unfold Table.bind
  cases columns with
  | nil => exact iff_of_false (fun ⟨_, bound, _⟩ => nomatch bound) fun both => both.1 rfl
  | cons first columns =>
    rw [and_iff_right (cons_ne_nil first columns)]
    refine (bindColumns_givenBack_iff malloc first.data.length 0 (first :: columns)).trans ?_
    refine forall_congr' fun k => forall_congr' fun col => forall_congr' fun here => ?_
    rw [Nat.zero_add, same first mem_cons_self, same col (mem_of_getElem? here)]

theorem Table.fits_of_givenBack {table : Table} (given : table.GivenBack) : table.Fits := by
  refine ⟨((table.bind_givenBack_iff (filled 0)).mp (given _)).1, fun col mem => ?_⟩
  obtain ⟨k, here⟩ := List.getElem?_of_mem mem
  exact Column.fits_of_givenBack fun malloc =>
    ((table.bind_givenBack_iff malloc).mp (given malloc)).2 k col here

/-- A table is given back, for any content of the allocated memory, exactly when
it has columns and every one of them fits. -/
theorem table_given_back_iff (table : Table) : table.GivenBack ↔ table.Fits := by
  refine ⟨Table.fits_of_givenBack, fun fits malloc => ?_⟩
  refine (table.bind_givenBack_iff malloc).mpr ⟨fits.1, fun k col here => ?_⟩
  exact Column.givenBack_of_fits (fits.2 col (mem_of_getElem? here)) malloc k

def Table.ofColumn (col : Column) : Table where
  columns := [col]
  rows := col.data.length
  length_data := fun _ member => by rw [mem_singleton.mp member]

/-- A value of 65535 bytes in the last of 65538 rows: the size of the buffer is
computed as 4295032830 and cut to 65534. -/
def longColumn : Column where
  columnType := ⟨.binary, 65535⟩
  data := List.replicate 65537 none ++ [some (.binary (List.replicate 65535 97))]
  typed := by
    intro value member
    rcases mem_append.mp member with nulls | last
    · exact absurd (eq_of_mem_replicate nulls) nofun
    · cases mem_singleton.mp last
      rfl
  maxLen := by
    intro _ value member
    rcases mem_append.mp member with nulls | last
    · exact absurd (eq_of_mem_replicate nulls) nofun
    · cases mem_singleton.mp last
      exact length_replicate.le

def jsonColumn : Column where
  columnType := ⟨.json, 2⟩
  data := [some (.json [123, 125])]
  typed := by
    intro value member
    cases mem_singleton.mp member
    rfl
  maxLen := by
    intro _ value member
    cases mem_singleton.mp member
    exact Nat.le_refl 2

def fineColumn : Column where
  columnType := ⟨.timestamp, 0⟩
  data := [some (.timestamp 1000 0)]
  typed := by
    intro value member
    cases mem_singleton.mp member
    rfl
  maxLen := nofun

theorem Table.ofColumn_fits {col : Column} (given : (Table.ofColumn col).GivenBack)
    (rows : col.data ≠ []) :
    ∃ bufferType width, bufferOf col.columnType = some (bufferType, width) ∧
      ∀ i value, col.data[i]? = some (some value) → ValueFits col.data.length width i value := by
  obtain ⟨bufferType, width, found, _, values⟩ :=
    (Table.fits_of_givenBack given).2 col mem_cons_self rows
  exact ⟨bufferType, width, found, values⟩

theorem tables_not_given_back :
    ¬ (Table.ofColumn longColumn).GivenBack ∧ ¬ (Table.ofColumn jsonColumn).GivenBack ∧
      ¬ (Table.ofColumn fineColumn).GivenBack := by
  refine ⟨fun given => ?_, fun given => ?_, fun given => ?_⟩
  · obtain ⟨_, width, found, values⟩ := Table.ofColumn_fits given
      (append_ne_nil_of_right_ne_nil _ (cons_ne_nil _ _))
    obtain rfl : width = 65535 := (Prod.ext_iff.mp (Option.some.inj found)).2.symm
    have last : longColumn.data[65537]? = some (some (.binary (List.replicate 65535 97))) := by
      rw [longColumn, List.getElem?_append_right length_replicate.le, length_replicate]
      rfl
    have length : longColumn.data.length = 65538 := by
      rw [longColumn, length_append, length_replicate]
      rfl
    have place := (values 65537 _ last).place.buffer
    rw [byteLength, length_replicate, length, cUint] at place
    omega
  · obtain ⟨_, _, found, _⟩ := Table.ofColumn_fits given (cons_ne_nil _ _)
    cases found
  · obtain ⟨_, _, _, values⟩ := Table.ofColumn_fits given (cons_ne_nil _ _)
    obtain ⟨unit, known, whole, _⟩ := (values 0 (.timestamp 1000 0) rfl).exact
    cases known
    exact absurd whole (by decide)

end TaosAdapter.Stmt
