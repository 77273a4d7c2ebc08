import TaosAdapter.Lib.ValueList
import TaosAdapter.Rest.Upload

/-!
Owns: what a lexer makes of the tuple of a record. A cell of a quoted column is
one literal that reads as the text of the cell, whatever its bytes. A cell of a
column that is not quoted is copied as it is, so it is one value exactly if its
own text is.
-/

namespace TaosAdapter.Rest

open Lib
open List hiding utf8Encode

def cellTexts (columns : List Bool) (record : Record) : List Bytes :=
  List.zipWith writeCell columns record

def ReadsBack (quote : Bool) (cell : Option Bytes) (value : SqlValue) : Prop :=
  quote = true → ∀ text ∈ cell, value.lexeme = .literal text

/-- The tuple of a record that is wide enough splits into one value for every column. Each
value comes from the text of its cell and no other, and that of a quoted column reads as
the text of the cell. -/
def Confined (columns : List Bool) (record : Record) : Prop :=
  columns.length ≤ record.length →
    ∃ values : List SqlValue,
      splitTuple (tupleText columns record) = some values ∧
      values.length = columns.length ∧
      values.map SqlValue.source = cellTexts columns record ∧
      ∀ (i : Nat) (quote : Bool) (cell : Option Bytes) (value : SqlValue),
        columns[i]? = some quote → record[i]? = some cell → values[i]? = some value →
          ReadsBack quote cell value

def PlainCellsAreValues (columns : List Bool) (record : Record) : Prop :=
  ∀ (i : Nat) (text : Bytes),
    columns[i]? = some false → record[i]? = some (some text) → OneValue text

variable {columns : List Bool} {record : Record}

theorem tupleText_eq (wide : columns.length ≤ record.length) :
    tupleText columns record = 40 :: (joined (cellTexts columns record) ++ [41]) := by
  have cells : writeCells columns record = joined (cellTexts columns record) := by
    induction columns generalizing record with
    | nil => simp [writeCells, cellTexts, joined]
    | cons quote columns ih =>
      obtain ⟨cell, others, rfl⟩ :=
        exists_cons_of_length_pos (Nat.lt_of_lt_of_le (Nat.succ_pos _) wide)
      have wideOthers : columns.length ≤ others.length := by simpa using wide
      have rest := ih wideOthers
      rw [writeCells, rest]
      cases columns with
      | nil => simp [cellTexts, joined]
      | cons next columns =>
        obtain ⟨second, others, rfl⟩ :=
          exists_cons_of_length_pos (Nat.lt_of_lt_of_le (Nat.succ_pos _) wideOthers)
        simp [cellTexts, joined]
  rw [tupleText, cells]

theorem lexLiteral_uploadReplacer (byte : UInt8) (rest : Bytes) :
    lexLiteral (uploadReplacer byte ++ rest) = (lexLiteral rest).map fun (source, text, rest) =>
        (uploadReplacer byte ++ source, byte :: text, rest) := by
  rw [uploadReplacer]
  split
  · rename_i same
    subst same
    exact lexLiteral_escape 92 rest
  · split
    · rename_i same
      subst same
      exact lexLiteral_escape 39 rest
    · split
      · rename_i same
        subst same
        exact lexLiteral_escape 40 rest
      · split
        · rename_i same
          subst same
          exact lexLiteral_escape 41 rest
        · rename_i notBackslash notQuote _ _
          exact lexLiteral_plain notQuote notBackslash rest

theorem lexLiteral_replace (text behind : Bytes) :
    lexLiteral (replace text ++ 39 :: behind) = some (replace text ++ [39], text, behind) := by
  induction text with
  | nil => rw [lexLiteral.eq_def]; rfl
  | cons byte text ih =>
    have split : replace (byte :: text) = uploadReplacer byte ++ replace text := rfl
    rw [split, append_assoc, lexLiteral_uploadReplacer, ih]
    simp

theorem lexValue_quoted (text : Bytes) : lexValue (writeCell true (some text)) =
      some (⟨writeCell true (some text), .literal text⟩, []) := by
  show lexValue (39 :: (replace text ++ [39])) = _
  rw [lexValue_quote, lexLiteral_replace]
  rfl

theorem lexValue_null :
    lexValue (ascii "null") = some (⟨ascii "null", .word (ascii "null")⟩, []) := by
  decide

theorem oneValue_writeCell_iff (quote : Bool) (cell : Option Bytes) :
    OneValue (writeCell quote cell) ↔ quote = false → ∀ text ∈ cell, OneValue text := by
  cases cell with
  | none => exact ⟨fun _ _ => by simp, fun _ => ⟨_, lexValue_null⟩⟩
  | some text =>
    cases quote with
    | false => simp [writeCell]
    | true => exact ⟨fun _ => by simp, fun _ => ⟨_, lexValue_quoted text⟩⟩

variable {cell : Option Bytes} {quote : Bool}

theorem readsBack_of_alone {value : SqlValue} (alone : value.Alone)
    (source : value.source = writeCell quote cell) : ReadsBack quote cell value := by
  rintro rfl text rfl
  have lexed := lexValue_quoted text
  rw [SqlValue.Alone, source, lexed] at alone
  have same : _ = value := congrArg Prod.fst (Option.some.inj alone)
  rw [← same]

theorem getElem?_cellTexts {i : Nat} (col : columns[i]? = some quote)
    (found : record[i]? = some cell) :
    (cellTexts columns record)[i]? = some (writeCell quote cell) := by
  rw [cellTexts, List.getElem?_zipWith, col, found]

theorem plainCellsAreValues_iff :
    PlainCellsAreValues columns record ↔ ∀ text ∈ cellTexts columns record, OneValue text := by
  constructor
  · intro plain text mem
    obtain ⟨i, found⟩ := mem_iff_getElem?.mp mem
    rw [cellTexts, List.getElem?_zipWith] at found
    split at found
    · rename_i quote cell col isCell
      cases found
      rw [oneValue_writeCell_iff]
      rintro rfl text rfl
      exact plain i text col isCell
    · simp at found
  · intro values i text col isCell
    have found := getElem?_cellTexts col isCell
    exact values text (mem_of_getElem? found)

theorem exists_values {texts : List Bytes} (values : ∀ text ∈ texts, OneValue text) :
    ∃ found : List SqlValue, found.map SqlValue.source = texts ∧ ∀ value ∈ found, value.Alone := by
  induction texts with
  | nil => exact ⟨[], rfl, by simp⟩
  | cons text texts ih =>
    obtain ⟨found, sources, alone⟩ :=
      ih fun other mem => values other (by simp [mem])
    obtain ⟨value, source, isAlone⟩ := oneValue_iff.mp (values text (by simp))
    exact ⟨value :: found, by simp [source, sources], by simpa using ⟨isAlone, alone⟩⟩

theorem confined_of_plain (plain : PlainCellsAreValues columns record) :
    Confined columns record := by
  intro wide
  obtain ⟨values, sources, alone⟩ := exists_values (plainCellsAreValues_iff.mp plain)
  have length := congrArg List.length sources
  rw [length_map, cellTexts, length_zipWith, Nat.min_eq_left wide] at length
  refine ⟨values, ?_, length, sources, ?_⟩
  · rw [splitTuple_eq_some_iff, tupleText_eq wide, sources]
    exact ⟨rfl, alone⟩
  · intro i quote cell value col isCell isValue
    have text := getElem?_cellTexts col isCell
    rw [← sources, List.getElem?_map, isValue] at text
    exact readsBack_of_alone (alone value (mem_of_getElem? isValue)) (Option.some.inj text)

theorem plain_of_confined (wide : columns.length ≤ record.length)
    (confined : Confined columns record) : PlainCellsAreValues columns record := by
  obtain ⟨values, split, _, sources, _⟩ := confined wide
  rw [plainCellsAreValues_iff, ← sources]
  intro text mem
  obtain ⟨value, isValue, rfl⟩ := mem_map.mp mem
  exact oneValue_iff.mpr ⟨value, rfl, (splitTuple_eq_some_iff.mp split).2 value isValue⟩

/-- The cells of a record stay in their values exactly if the record is too short to be
written, or each of its cells that is written without quotes is one value. -/
theorem cells_confined_iff (describe : List DescribeRow) (record : Record) :
    Confined (isStr describe) record ↔
      record.length < (isStr describe).length ∨ PlainCellsAreValues (isStr describe) record := by
  constructor
  · intro confined
    rcases Nat.lt_or_ge record.length (isStr describe).length with short | wide
    · exact .inl short
    · exact .inr (plain_of_confined wide confined)
  · rintro (short | plain)
    · intro wide
      omega
    · exact confined_of_plain plain

/-- A cell of an integer column that closes the tuple and begins another one. -/
theorem cell_adds_tuple :
    ¬ Confined (isStr [⟨"TIMESTAMP", ""⟩, ⟨"INT", ""⟩])
      [some (ascii "now"), some (ascii "1),(now,2")] := by
  intro confined
  have plain := plain_of_confined (by decide) confined
  obtain ⟨value, lexed⟩ := plain 1 (ascii "1),(now,2") (by decide) (by decide)
  have cut : (lexValue (ascii "1),(now,2")).map Prod.snd = some (ascii "),(now,2") := by decide
  rw [lexed] at cut
  simp [ascii, utf8Encode] at cut

end TaosAdapter.Rest
