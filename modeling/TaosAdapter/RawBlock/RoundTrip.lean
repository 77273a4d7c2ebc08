import TaosAdapter.RawBlock.Cells

/-!
Owns: the round trip of a raw block. The serializer lays the columns out one
behind the other; the parser walks over them by the lengths it reads, and
stores each cell in its row.
-/

namespace TaosAdapter.RawBlock

open Lib Driver List Option Outcome

structure Image where
  code : Nat
  info : Nat
  length : Nat
  data : Bytes

def Image.colInfo (image : Image) : Bytes := UInt8.ofNat image.code :: leBytes 4 image.info

def Image.lengthBytes (image : Image) : Bytes := leBytes 4 image.length

variable (images : List Image)

def infoPart : Bytes := (images.map Image.colInfo).flatten

def lengthPart : Bytes := (images.map Image.lengthBytes).flatten

def dataPart : Bytes := (images.map Image.data).flatten

def blockBytes (length rows : Nat) (images : List Image) : Bytes :=
  blockHeader length rows images.length ++
    (infoPart images ++ (lengthPart images ++ dataPart images))

theorem length_infoPart : (infoPart images).length = 5 * images.length := by
  rw [infoPart, length_flatten_uniform 5, length_map]
  intro piece mem
  obtain ⟨image, _, rfl⟩ := mem_map.mp mem
  simp [Image.colInfo]

theorem length_lengthPart : (lengthPart images).length = 4 * images.length := by
  rw [lengthPart, length_flatten_uniform 4, length_map]
  intro piece mem
  obtain ⟨image, _, rfl⟩ := mem_map.mp mem
  simp [Image.lengthBytes]

theorem length_blockHeader (length rows columns : Nat) :
    (blockHeader length rows columns).length = 28 := by
  simp [blockHeader]

theorem length_blockBytes (length rows : Nat) (images : List Image) :
    (blockBytes length rows images).length = 28 + 9 * images.length + (dataPart images).length := by
  rw [blockBytes, length_append, length_append, length_append, length_blockHeader,
    length_infoPart, length_lengthPart]
  ring

theorem poke_length (length rows columns new : Nat) (rest : Bytes) :
    poke (blockHeader length rows columns ++ rest) 4 (leBytes 4 new) =
      blockHeader new rows columns ++ rest := by
  simp only [blockHeader, append_assoc]
  exact poke_append (leBytes 4 1) _ (by simp)

section

variable {precision : Int} {rows : Nat} {types : List TaosType} {params : List (List Cell)}

structure Admissible (precision : Int) (rows : Nat) (types : List TaosType)
    (params : List (List Cell)) : Prop where
  same : types.length = params.length
  uniform : ∀ cells ∈ params, cells.length = rows
  declared : ∀ colType ∈ types, colType ≠ .other
  typed : ∀ (column : Nat) (colType : TaosType) (cells : List Cell),
    types[column]? = some colType → params[column]? = some cells →
      ∀ v, some v ∈ cells → WellTyped precision colType v

def KnownCode (code : Nat) : Prop :=
  code < 256 ∧ ¬ (isVarDataType code = false ∧ 15 ≤ code)

theorem knownCode_typeCode (colType : TaosType) : KnownCode (typeCode colType) := by
  cases colType <;> exact ⟨by decide, by decide⟩

structure Images (precision : Int) (params : List (List Cell)) (images : List Image) : Prop where
  few : images.length ≤ params.length
  reads : ∀ (column : Nat) (image : Image) (cells : List Cell), images[column]? = some image →
    params[column]? = some cells →
      KnownCode image.code ∧ ReadsBack precision image.code cells image.length image.data

def ColumnProgress (precision : Int) (params : List (List Cell)) (done : Nat) (acc : Column) :
    Prop :=
  ∃ images, images.length = done ∧ Images precision params images ∧
    acc = ⟨infoPart images, lengthPart images, dataPart images⟩

theorem appendColumn_ok (admissible : Admissible precision rows types params) {col : Nat}
    {item : Option TaosType × List Cell}
    (found : ((types.map some).zip params)[col]? = some item) {acc : Column}
    (progress : ColumnProgress precision params col acc) :
    ∃ next, appendColumn rows item acc = .ok next ∧
      ColumnProgress precision params (col + 1) next := by
  obtain ⟨images, length, ⟨few, reads⟩, rfl⟩ := progress
  obtain ⟨typeFound, cellsFound⟩ := List.getElem?_zip_eq_some.mp found
  rw [List.getElem?_map] at typeFound
  obtain ⟨colType, plainFound, isSome⟩ := map_eq_some_iff.mp typeFound
  obtain ⟨info, dataLength, data, readsBack, serialized⟩ := serializeColumn_readsBack
    (admissible.declared colType (mem_of_getElem? plainFound))
    (admissible.typed col colType item.2 plainFound cellsFound)
  rw [admissible.uniform item.2 (mem_of_getElem? cellsFound)] at serialized
  let image : Image := ⟨typeCode colType, info, dataLength, data⟩
  refine ⟨⟨infoPart images ++ image.colInfo, lengthPart images ++ image.lengthBytes,
    dataPart images ++ image.data⟩, ?_, images ++ [image], by simp [length], ⟨?_, ?_⟩, ?_⟩
  · simp only [appendColumn, ← isSome, serialized, ok_bind]
    rfl
  · have inside := lt_of_getElem? cellsFound
    simp
    omega
  · intro position there cells imageFound positionFound
    rw [List.getElem?_append] at imageFound
    split at imageFound
    · exact reads position there cells imageFound positionFound
    · rename_i beyond
      have inside := lt_of_getElem? imageFound
      simp at inside
      obtain rfl : position = col := by omega
      rw [← length, Nat.sub_self] at imageFound
      obtain rfl : image = there := Option.some.inj imageFound
      cases cellsFound.symm.trans positionFound
      exact ⟨knownCode_typeCode colType, readsBack⟩
  · simp [infoPart, lengthPart, dataPart]

theorem serializeRawBlock_ok {colType : ColumnType}
    (admissible : Admissible precision rows types params) (nonempty : params ≠ [])
    (complete : colType.size = colType.column) (value : colType.value = types.map some) :
    ∃ images, images.length = params.length ∧ Images precision params images ∧
      serializeRawBlock params colType =
        .ok (blockBytes (28 + 9 * images.length + (dataPart images).length) rows images) := by
  obtain ⟨first, others, rfl⟩ := exists_cons_of_ne_nil nonempty
  have firstRows : first.length = rows := admissible.uniform first mem_cons_self
  have initially : ColumnProgress precision (first :: others) 0 ⟨[], [], []⟩ :=
    ⟨[], rfl, ⟨by simp, by simp⟩, rfl⟩
  have pairs : ((types.map some).zip (first :: others)).length = (first :: others).length := by
    rw [length_zip, length_map, admissible.same, Nat.min_self]
  obtain ⟨parts, finished, images, length, areImages, rfl⟩ :=
    eachItem_ok (fun _ => appendColumn rows) (ColumnProgress precision (first :: others)) initially
      (fun off item acc found progress => by
        rw [Nat.zero_add] at progress ⊢
        exact appendColumn_ok admissible found progress)
  rw [Nat.zero_add, pairs] at length
  rw [pairs] at finished
  refine ⟨images, length, areImages, ?_⟩
  have getValue : colType.getValue = .ok (types.map some) := by
    rw [ColumnType.getValue, if_neg (by simp [complete]), value]
  have counts : ¬ (types.map some).length ≠ (first :: others).length := by
    rw [length_map, admissible.same]
    simp
  simp only [serializeRawBlock, getValue, ok_bind, if_neg counts, firstRows, finished]
  have size := length_blockBytes 0 rows images
  rw [blockBytes, length] at size
  rw [size, blockBytes, length, poke_length]

end

section

variable {memory : Bytes} {length rows : Nat} {images : List Image}

structure Parts (memory : Bytes) (length rows : Nat) (images : List Image) : Prop where
  length : Holds memory 4 (leBytes 4 length)
  rows : Holds memory 8 (leBytes 4 rows)
  columns : Holds memory 12 (leBytes 4 images.length)
  infos : Holds memory 28 (infoPart images)
  lengths : Holds memory (28 + 5 * images.length) (lengthPart images)
  data : Holds memory (28 + 9 * images.length) (dataPart images)

theorem parts_blockBytes (length rows : Nat) (images : List Image) :
    Parts (blockBytes length rows images) length rows images := by
  have whole := holds_self (blockBytes length rows images)
  have header := whole.left
  have body := whole.right
  rw [length_blockHeader, Nat.zero_add] at body
  have lengths := body.right.left
  have data := body.right.right
  rw [length_lengthPart] at data
  rw [length_infoPart] at lengths data
  have start : 28 + 5 * images.length + 4 * images.length = 28 + 9 * images.length := by omega
  exact ⟨header.right.left, header.right.right.left, header.right.right.right.left, body.left,
    lengths, start ▸ data⟩

variable {image : Image}

theorem Parts.colLength (parts : Parts memory length rows images) {col : Nat}
    (found : images[col]? = some image) :
    Holds memory (28 + 5 * images.length + 4 * col) (leBytes 4 image.length) := by
  have pieceFound : (images.map Image.lengthBytes)[col]? = some image.lengthBytes := by
    rw [List.getElem?_map, found, map_some]
  refine parts.lengths.piece_uniform 4 (fun piece mem => ?_) pieceFound
  obtain ⟨image, _, rfl⟩ := mem_map.mp mem
  exact length_leBytes 4 image.length

theorem Parts.colData (parts : Parts memory length rows images) {col : Nat}
    (found : images[col]? = some image) :
    Holds memory (28 + 9 * images.length + (dataPart (images.take col)).length) image.data := by
  have pieceFound : (images.map Image.data)[col]? = some image.data := by
    rw [List.getElem?_map, found, map_some]
  have piece := parts.data.piece pieceFound
  rw [← map_take] at piece
  exact piece

theorem rawBlockGetColInfo_ok (idx : Nat) {rest : List Image}
    (holds : Holds memory (28 + 5 * idx) (infoPart rest))
    (small : ∀ image ∈ rest, image.code < 256) :
    ∃ infos, rawBlockGetColInfo memory rest.length idx = .ok infos ∧
      infos.map Prod.fst = rest.map Image.code := by
  induction rest generalizing idx with
  | nil => exact ⟨[], rfl, rfl⟩
  | cons image rest ih =>
    have info : Holds memory (28 + 5 * idx)
        ([UInt8.ofNat image.code] ++ leBytes 4 image.info) := holds.left
    have typeLoaded : load memory (colInfoOffset + colInfoSize * idx) 1 =
        .ok (leNat [UInt8.ofNat image.code]) :=
      load_of_holds info.left (by simp [colInfoOffset, colInfoSize]) rfl
    have code : leNat [UInt8.ofNat image.code] = image.code := by
      have below := small image mem_cons_self
      simp only [leNat, UInt8.toNat_ofNat']
      omega
    have bytesLoaded : load memory (colInfoOffset + colInfoSize * idx + 1) 4 =
        .ok (leNat (leBytes 4 image.info)) :=
      load_of_holds info.right (by simp [colInfoOffset, colInfoSize]) (length_leBytes 4 _)
    have later : Holds memory (28 + 5 * (idx + 1)) (infoPart rest) := by
      have size : 28 + 5 * idx + image.colInfo.length = 28 + 5 * (idx + 1) := by
        simp [Image.colInfo]
        omega
      exact size ▸ holds.right
    obtain ⟨infos, loaded, codes⟩ := ih (idx + 1) later fun image mem =>
      small image (mem_cons_of_mem _ mem)
    refine ⟨(image.code, int32 (leNat (leBytes 4 image.info))) :: infos, ?_, ?_⟩
    · simp only [length_cons, rawBlockGetColInfo, typeLoaded, loadInt32, bytesLoaded, loaded,
        ok_bind, code]
    · rw [map_cons, map_cons, codes]

end

section

variable {memory : Bytes} {precision : Int} {length rows : Nat} {params : List (List Cell)}
  {images : List Image}

def cellOf (row : Nat) (cells : List Cell) : Option Value := cells[row]?.join.map plain

def tableOf (rows : Nat) (params : List (List Cell)) : Table :=
  (List.range rows).map fun row => params.map (cellOf row)

def lineAt (params : List (List Cell)) (row : Nat) : Nat → List (Option Value)
  | 0 => []
  | column + 1 => (params.take (column + 1)).map (cellOf row) ++
      List.replicate (params.length - (column + 1)) none

variable {col : Nat} {cells : List Cell}

theorem lineAt_set (found : params[col]? = some cells) (row : Nat) :
    (if col = 0 then List.replicate params.length none else lineAt params row col).set col
      (cellOf row cells) = lineAt params row (col + 1) := by
  have inside := lt_of_getElem? found
  have before : (if col = 0 then List.replicate params.length none
      else lineAt params row col) =
        (params.take col).map (cellOf row) ++ List.replicate (params.length - col) none := by
    cases col with
    | zero | succ => rfl
  have room : params.length - col = params.length - (col + 1) + 1 := by omega
  have front : ((params.take col).map (cellOf row)).length = col := by
    rw [length_map, length_take, Nat.min_eq_left (Nat.le_of_lt inside)]
  rw [before, room, replicate_succ, set_append_right _ _ (by omega), front, Nat.sub_self,
    set_cons_zero, lineAt, take_add_one, found, map_append, append_assoc]
  rfl

def TableAt (params : List (List Cell)) (rows column rowsDone : Nat) (r : Table) : Prop :=
  r.length = rows ∧ ∀ row < rows,
    r[row]? = some (lineAt params row (if row < rowsDone then column + 1 else column))

theorem tableAt_start (params : List (List Cell)) (rows : Nat) :
    TableAt params rows 0 0 (List.replicate rows []) := by
  refine ⟨length_replicate, fun row inside => ?_⟩
  rw [List.getElem?_replicate, if_pos inside, if_neg (Nat.not_lt_zero row), lineAt]

variable {r : Table}

theorem TableAt.next (table : TableAt params rows col rows r) :
    TableAt params rows (col + 1) 0 r := by
  refine ⟨table.1, fun row inside => ?_⟩
  rw [table.2 row inside, if_pos inside, if_neg (Nat.not_lt_zero row)]

theorem TableAt.finished (nonempty : params ≠ []) (table : TableAt params rows params.length 0 r) :
    r = tableOf rows params := by
  obtain ⟨columns, count⟩ := Nat.exists_eq_succ_of_ne_zero
    (fun zero => nonempty (length_eq_zero_iff.mp zero))
  refine ext_getElem? fun row => ?_
  by_cases inside : row < rows
  · rw [table.2 row inside, if_neg (Nat.not_lt_zero row), tableOf, List.getElem?_map,
      List.getElem?_range inside, count, lineAt, ← Nat.succ_eq_add_one, ← count]
    simp
  · rw [List.getElem?_eq_none (by rw [table.1]; omega),
      List.getElem?_eq_none (by simp [tableOf]; omega)]

theorem TableAt.storeCell {row : Nat} (found : params[col]? = some cells)
    (table : TableAt params rows col row r) : TableAt params rows col (row + 1)
      (storeCell params.length col row (cellOf row cells) r) := by
  refine ⟨by rw [RawBlock.storeCell, length_modify, table.1], fun other inside => ?_⟩
  rw [RawBlock.storeCell, List.getElem?_modify, table.2 other inside]
  by_cases same : row = other
  · subst same
    rw [if_neg (Nat.lt_irrefl row), if_pos (Nat.lt_succ_self row)]
    simp [lineAt_set found]
  · have unmoved : other < row ↔ other < row + 1 := by omega
    simp [same, unmoved]

variable {code : Nat}

theorem readColumn_ok {pHeader dataLength : Nat} {data : Bytes} (found : params[col]? = some cells)
    (tall : cells.length = rows) (readsBack : ReadsBack precision code cells dataLength data)
    (holds : Holds memory pHeader data) (small : data.length < 2 ^ 31)
    (table : TableAt params rows col 0 r) :
    ∃ next, readColumn memory rows params.length col code precision pHeader r = .ok next ∧
      TableAt params rows (col + 1) 0 next := by
  subst tall
  obtain ⟨last, finished, final⟩ := eachItem_ok
    (fun _ row r => do
      let value ← readCell memory cells.length code precision pHeader row
      Outcome.ok (RawBlock.storeCell params.length col row value r))
    (fun row r => TableAt params cells.length col row r) table
    (fun off row acc (rowFound : (List.range cells.length)[off]? = some row) progress => by
      rw [Nat.zero_add] at progress ⊢
      obtain ⟨inside, here⟩ := List.getElem?_eq_some_iff.mp rowFound
      rw [getElem_range] at here
      rw [length_range] at inside
      subst here
      have cellFound := List.getElem?_eq_getElem inside
      have cellRead := readsBack.reads memory pHeader holds small off _ cellFound
      refine ⟨RawBlock.storeCell params.length col off (cellOf off cells) acc, ?_,
        progress.storeCell found⟩
      simp only [cellRead, ok_bind, cellOf, cellFound, join_some])
  rw [Nat.zero_add, length_range] at final
  rw [length_range] at finished
  exact ⟨last, finished, final.next⟩

def dataEnd (images : List Image) (column : Nat) : Nat :=
  28 + 9 * images.length + (dataPart (images.take column)).length

theorem dataEnd_succ {image : Image} (found : images[col]? = some image) :
    dataEnd images (col + 1) = dataEnd images col + image.data.length := by
  rw [dataEnd, dataEnd, take_add_one, found, dataPart, map_append, flatten_append, length_append]
  simp [dataPart, Nat.add_assoc]

theorem valueStart_shift (rows code : Nat) (pHeader : Int) :
    valueStart rows code pHeader = valueStart rows code 0 + pHeader := by
  unfold valueStart
  split
  · ring
  · ring

def ReadProgress (params : List (List Cell)) (rows : Nat) (images : List Image) (column : Nat)
    (acc : Table × Int) : Prop :=
  TableAt params rows column 0 acc.1 ∧ acc.2 = dataEnd images column

theorem readNext_ok (parts : Parts memory length rows images) (below : memory.length < 2 ^ 31)
    (uniform : ∀ cells ∈ params, cells.length = rows) (count : images.length = params.length)
    (areImages : Images precision params images) {acc : Table × Int}
    (codeFound : (images.map Image.code)[col]? = some code)
    (progress : ReadProgress params rows images col acc) :
    ∃ next, readNext memory rows params.length precision col code acc = .ok next ∧
      ReadProgress params rows images (col + 1) next := by
  obtain ⟨r, address⟩ := acc
  obtain ⟨table, here⟩ := progress
  rw [List.getElem?_map] at codeFound
  obtain ⟨image, imageFound, rfl⟩ := map_eq_some_iff.mp codeFound
  have columnInside := lt_of_getElem? imageFound
  have cellsFound := List.getElem?_eq_getElem (count ▸ columnInside : col < params.length)
  obtain ⟨known, readsBack⟩ := areImages.reads col image _ imageFound cellsFound
  have tall := uniform _ (mem_of_getElem? cellsFound)
  have data := parts.colData imageFound
  have dataInside := data.1
  have size := readsBack.size
  rw [tall] at size
  have start : 0 ≤ valueStart rows image.code 0 := by
    unfold valueStart
    split <;> omega
  have lengthRead : loadInt32 memory (rawBlockGetColumnLengthOffset params.length + col * 4) =
      .ok image.length := by
    refine loadInt32_number (parts.colLength imageFound) ?_ (by omega)
    simp only [rawBlockGetColumnLengthOffset, colInfoOffset, colInfoSize, count]
    push_cast
    ring
  obtain ⟨next, columnRead, nextTable⟩ :=
    readColumn_ok cellsFound tall readsBack data (by omega) table
  change address = _ at here
  subst here
  refine ⟨(next, valueStart rows image.code (dataEnd images col) + image.length), ?_, nextTable, ?_⟩
  · simp only [readNext, lengthRead, ok_bind, if_neg known.2]
    rw [dataEnd, columnRead]
    rfl
  · rw [valueStart_shift, dataEnd_succ imageFound]
    push_cast
    omega

variable (parts : Parts memory length rows images) (below : memory.length < 2 ^ 31)
  (nonempty : params ≠ []) (uniform : ∀ cells ∈ params, cells.length = rows)
  (count : images.length = params.length) (areImages : Images precision params images)

include parts below nonempty uniform count areImages

theorem readBlock_ok :
    readBlock memory rows (images.map Image.code) precision = .ok (tableOf rows params) := by
  have initially : ReadProgress params rows images 0
      (List.replicate rows [], rawBlockGetColDataOffset params.length) := by
    refine ⟨tableAt_start params rows, ?_⟩
    simp only [rawBlockGetColDataOffset, colInfoOffset, colInfoSize, dataEnd, count, take_zero,
      dataPart, map_nil, flatten_nil, length_nil]
    push_cast
    ring
  obtain ⟨⟨table, address⟩, finished, final, _⟩ :=
    eachItem_ok (readNext memory rows params.length precision) (ReadProgress params rows images)
      initially (fun col code acc (codeFound : (images.map Image.code)[col]? = some code)
        progress => by
          rw [Nat.zero_add] at progress ⊢
          exact readNext_ok parts below uniform count areImages codeFound progress)
  rw [Nat.zero_add, length_map, count] at final
  rw [length_map, count] at finished
  have natural : ¬ (rows : Int) < 0 := by omega
  simp only [readBlock, if_neg natural, Int.toNat_natCast, length_map, count, finished, ok_bind]
  exact congrArg Outcome.ok (final.finished nonempty)

theorem rows_small : rows < 2 ^ 31 := by
  have columnInside : 0 < params.length := length_pos_iff.mpr nonempty
  have cellsFound := List.getElem?_eq_getElem columnInside
  have imageFound := List.getElem?_eq_getElem (count.symm ▸ columnInside : 0 < images.length)
  have tall := (areImages.reads 0 _ _ imageFound cellsFound).2.tall
  have dataInside := (parts.colData imageFound).1
  rw [uniform _ (mem_of_getElem? cellsFound)] at tall
  omega

end

/-- Serializing and reading back. -/
theorem readBlockSimple_serializeRawBlock {precision : Int} {rows : Nat} {types : List TaosType}
    {params : List (List Cell)} (colType : ColumnType) (nonempty : params ≠ [])
    (complete : colType.size = colType.column) (value : colType.value = types.map some)
    (admissible : Admissible precision rows types params) :
    ∃ block, serializeRawBlock params colType = .ok block ∧
      (block.length < 2 ^ 31 →
        readBlockSimple block precision = .ok (tableOf rows params) ∧
          rawBlockGetLength block = .ok block.length ∧
          rawBlockGetNumOfRows block = .ok rows ∧
          rawBlockGetNumOfCols block = .ok params.length) := by
  obtain ⟨images, count, areImages, serialized⟩ :=
    serializeRawBlock_ok admissible nonempty complete value
  refine ⟨_, serialized, fun below => ?_⟩
  have size := length_blockBytes (28 + 9 * images.length + (dataPart images).length) rows images
  have parts := parts_blockBytes (28 + 9 * images.length + (dataPart images).length) rows images
  generalize blockBytes _ rows images = block at size parts below
  rw [← size] at parts
  have small := rows_small parts below nonempty admissible.uniform count areImages
  have lengthRead : rawBlockGetLength block = .ok block.length :=
    loadInt32_number parts.length rfl below
  have rowsRead : rawBlockGetNumOfRows block = .ok rows := loadInt32_number parts.rows rfl small
  have colsRead : rawBlockGetNumOfCols block = .ok params.length := by
    rw [← count]
    exact loadInt32_number parts.columns rfl (by omega)
  obtain ⟨infos, infosRead, codes⟩ := rawBlockGetColInfo_ok 0 parts.infos fun image member => by
    obtain ⟨column, inside, rfl⟩ := getElem_of_mem member
    exact (areImages.reads column _ _ (List.getElem?_eq_getElem inside) (List.getElem?_eq_getElem
      (count ▸ inside))).1.1
  have natural : ¬ (params.length : Int) < 0 := by omega
  refine ⟨?_, lengthRead, rowsRead, colsRead⟩
  rw [count] at infosRead
  simp only [readBlockSimple, rowsRead, colsRead, ok_bind, if_neg natural,
    Int.toNat_natCast, infosRead, codes]
  exact readBlock_ok parts below nonempty admissible.uniform count areImages

/-- An empty string and a nil in one column, a null and a number in the other. -/
theorem readBlockSimple_serializeRawBlock_empty_string :
    ∃ block, serializeRawBlock [[some (.binary []), none], [none, some (.smallint 7)]]
        ⟨2, [some .binary, some .smallint], 2⟩ = .ok block ∧
      readBlockSimple block 0 = .ok [[some (.string []), none], [none, some (.int16 7)]] := by
  have admissible : Admissible 0 2 [.binary, .smallint]
      [[some (.binary []), none], [none, some (.smallint 7)]] := by
    refine ⟨rfl, by decide, by decide, ?_⟩
    rintro (_ | _ | column) colType cells typeFound cellsFound v member
    · cases typeFound
      cases cellsFound
      obtain rfl : v = .binary [] := by simpa using member
      exact Nat.zero_le _
    · cases typeFound
      cases cellsFound
      obtain rfl : v = .smallint 7 := by simpa using member
      trivial
    · cases typeFound
  obtain ⟨bytes, evaluated, short⟩ : ∃ bytes,
      serializeRawBlock [[some (.binary []), none], [none, some (.smallint 7)]]
        ⟨2, [some .binary, some .smallint], 2⟩ = .ok bytes ∧ bytes.length < 2 ^ 31 :=
    ⟨_, rfl, by decide⟩
  obtain ⟨block, serialized, reads⟩ :=
    readBlockSimple_serializeRawBlock ⟨2, [some .binary, some .smallint], 2⟩ (by decide) rfl rfl
      admissible
  obtain rfl : bytes = block := Outcome.ok.inj (evaluated.symm.trans serialized)
  exact ⟨bytes, serialized, (reads short).1⟩

end TaosAdapter.RawBlock
