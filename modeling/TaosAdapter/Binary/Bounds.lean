import TaosAdapter.Binary.Model
import TaosAdapter.Stmt.Bounds

/-!
Owns: which binary messages are handled without a read outside the message. A
handler is safe when it answers with an error or comes to its call; a read
outside the message is a fault, and an index outside it or a slice of negative
length panics, which ends the process.

`MessageInside` describes these messages by the numbers at fixed places of the
message and by the fields of the statement it names.
-/

namespace TaosAdapter.Binary

open Lib Driver Stmt List Outcome
open RawBlock (load loadInt32 colInfoOffset colInfoSize)

section

variable {α : Type} {message : Bytes} {address : Int}

theorem answered_loadNat_bind {width : Nat} {next : Nat → Handled α} :
    (loadNat message address width >>= next).Answered ↔
      Within message address width ∧ (next (word message address width)).Answered := by
  by_cases within : Within message address width
  · simp [loadNat, load, peekNat_of_within within, within, Outcome.widen]
  · simp [loadNat, load, peekNat_of_not_within within, within, Outcome.widen]

theorem answered_widen_loadInt32_bind {next : Int → Handled α} :
    (.widen (loadInt32 message address) >>= next).Answered ↔
      Within message address 4 ∧ (next (int32At message address)).Answered := by
  by_cases within : Within message address 4
  · simp [loadInt32, load, peekNat_of_within within, within, Outcome.widen, int32At]
  · simp [loadInt32, load, peekNat_of_not_within within, within, Outcome.widen]

end

section

variable (message : Bytes)

def declaredSize (rawBlock : Int) : Nat :=
  blockSize (int32At message (rawBlock + 4)) (int32At message (rawBlock + 8))
    (int32At message (rawBlock + 12))

theorem declaredSize_ge (rawBlock : Int) : 28 ≤ declaredSize message rawBlock := by
  unfold declaredSize blockSize
  omega

def tableNameLengthOf : Nat := word message 28 2

def TMQRawInside : Prop := 30 + word message 24 4 ≤ message.length

def RawBlockInside : Prop :=
  30 + tableNameLengthOf message ≤ message.length ∧
    Within message ((30 + tableNameLengthOf message) % 2 ^ 16 : Nat)
      (declaredSize message ((30 + tableNameLengthOf message) % 2 ^ 16 : Nat))

def RawBlockWithFieldsInside : Prop :=
  let rawBlock : Int := 30 + tableNameLengthOf message
  Within message rawBlock (declaredSize message rawBlock) ∧
    Within message (rawBlock + int32At message (rawBlock + 4))
      (taosFieldSize * (int32At message (rawBlock + 12)).toNat)

def rowsOf : Int := int32At message 32

def columnsOf : Int := int32At message 36

variable (session : Session)

def SetTagsInside (stmtID : Nat) : Prop :=
  40 ≤ message.length ∧ (rowsOf message = 1 →
    ∀ stmt, session.stmts stmtID = some (some stmt) →
      ∀ fields, stmt.tagFields = .ok fields → fields ≠ [] →
        columnsOf message = fields.length → BlockInside message 24 (rowsOf message) fields)

def BindInsertInside (stmt : Statement) : Prop :=
  ∀ fields, stmt.colFields = .ok fields → fields ≠ [] →
    (∀ field ∈ fields, (typeOf field.fieldType).isSome = true) →
      columnsOf message = fields.length → BlockInside message 24 (rowsOf message) fields

def colTypesAt (count index : Nat) : List Nat :=
  (List.range' index count).map fun i : Nat =>
    word message (24 + (colInfoOffset + colInfoSize * i)) 1

def BindQueryInside : Prop :=
  0 ≤ columnsOf message ∧
    (∀ i < (columnsOf message).toNat,
      Within message (24 + (colInfoOffset + colInfoSize * (i : Nat))) 5) ∧
    (rowBlockError (colTypesAt message (columnsOf message).toNat 0) = none →
      BlockInside message 24 (rowsOf message)
        ((colTypesAt message (columnsOf message).toNat 0).map rowBlockField))

def BindInside (stmtID : Nat) : Prop :=
  40 ≤ message.length ∧ ∀ stmt, session.stmts stmtID = some (some stmt) →
    if stmt.isInsert then BindInsertInside message stmt else BindQueryInside message

def QueryInside : Prop :=
  word message 24 2 = 1 → 30 + word message 26 4 ≤ message.length →
    30 + word message 26 4 < 2 ^ 32

def HandlerInside (stmtID : Nat) : Nat → Prop
  | 1 => SetTagsInside message session stmtID
  | 2 => BindInside message session stmtID
  | 3 => TMQRawInside message
  | 4 => RawBlockInside message
  | 5 => RawBlockWithFieldsInside message
  | 6 => QueryInside message
  | _ => True

def MessageInside : Prop :=
  24 ≤ message.length ∧
    (session.connected = true →
      HandlerInside message session (word message 8 8) (word message 16 8))

end

section

variable {message : Bytes} {rawBlock : Int}

theorem answered_readRawBlock : (readRawBlock message rawBlock).Answered ↔
      Within message rawBlock (declaredSize message rawBlock) := by
  rw [readRawBlock, rawBlockGetLength, answered_loadInt32_bind, rawBlockGetNumOfRows,
    answered_loadInt32_bind, rawBlockGetNumOfCols, answered_loadInt32_bind, region, answered_peek]
  change _ ∧ _ ∧ _ ∧ Within message rawBlock (declaredSize message rawBlock) ↔ _
  have least := declaredSize_ge message rawBlock
  constructor
  · rintro ⟨_, _, _, block⟩
    exact block
  · intro block
    refine ⟨?_, ?_, ?_, block⟩ <;> unfold Within at block ⊢ <;> omega

theorem answered_binaryTMQRawMessage :
    (binaryTMQRawMessage message).Answered ↔ TMQRawInside message := by
  rw [binaryTMQRawMessage, answered_loadNat_bind, answered_loadNat_bind, answered_bind_ok,
    answered_widen, region, answered_peek]
  unfold Within TMQRawInside
  omega

variable {reqID : Nat}

theorem answered_binaryRawBlockMessage :
    (binaryRawBlockMessage reqID message).Answered ↔ RawBlockInside message := by
  rw [binaryRawBlockMessage, loadInt, answered_widen_loadInt32_bind, answered_loadNat_bind,
    answered_widen_bind_iff_of_forall fun _ => answered_bind_ok,
    answered_widen, answered_readRawBlock, region, answered_peek]
  change _ ∧ _ ∧ Within message 30 (tableNameLengthOf message) ∧ _ ↔ _
  constructor
  · rintro ⟨_, _, name, block⟩
    refine ⟨?_, block⟩
    unfold Within at name
    omega
  · rintro ⟨name, block⟩
    refine ⟨?_, ?_, ?_, block⟩ <;> unfold Within <;> omega

theorem answered_readRawBlockWithFields : (readRawBlockWithFields message rawBlock).Answered ↔
      Within message rawBlock (declaredSize message rawBlock) ∧
        Within message (rawBlock + int32At message (rawBlock + 4))
          (taosFieldSize * (int32At message (rawBlock + 12)).toNat) := by
  rw [readRawBlockWithFields, rawBlockGetLength, answered_loadInt32_bind, rawBlockGetNumOfCols,
    answered_loadInt32_bind, answered_bind_iff_of_forall fun _ => answered_bind_ok,
    answered_readRawBlock, region, answered_peek]
  have least := declaredSize_ge message rawBlock
  constructor
  · rintro ⟨_, _, block, fields⟩
    exact ⟨block, fields⟩
  · rintro ⟨block, fields⟩
    refine ⟨?_, ?_, block, fields⟩ <;> unfold Within at block ⊢ <;> omega

theorem answered_binaryRawBlockMessageWithFields :
    (binaryRawBlockMessageWithFields reqID message).Answered ↔
      RawBlockWithFieldsInside message := by
  rw [binaryRawBlockMessageWithFields, loadInt, answered_widen_loadInt32_bind,
    answered_loadNat_bind, answered_widen_bind_iff_of_forall fun _ => answered_bind_ok,
    answered_widen, answered_readRawBlockWithFields, region, answered_peek]
  change _ ∧ _ ∧ Within message 30 (tableNameLengthOf message) ∧
    RawBlockWithFieldsInside message ↔ _
  constructor
  · rintro ⟨_, _, _, inside⟩
    exact inside
  · intro inside
    have block : Within message (30 + tableNameLengthOf message) _ := inside.1
    refine ⟨?_, ?_, ?_, inside⟩ <;> unfold Within at block ⊢ <;> omega

theorem exists_getTypes_iff (fields : List StmtField) : (∃ types, getTypes fields = .ok types) ↔
      ∀ field ∈ fields, (typeOf field.fieldType).isSome = true := by
  induction fields with
  | nil => simp [getTypes]
  | cons field fields ih =>
    rw [forall_mem_cons, ← ih, getTypes, StmtField.getType]
    cases typeOf field.fieldType with
    | none => simp
    | some type =>
      cases getTypes fields with
      | error | ok => simp

variable {stmtID : Nat}

theorem answered_bindBlock {block rows : Int} {fields : List StmtField}
    {fieldTypes : List ColumnType} :
    (bindBlock stmtID message block rows fields fieldTypes).Answered ↔
      BlockInside message block rows fields := by
  rw [bindBlock, answered_bind_ok, answered_widen, answered_blockConvert]

theorem statement_inside_iff :
    Within message (24 + 12) 4 ∧ Within message (24 + 8) 4 ↔ 40 ≤ message.length := by
  unfold Within
  omega

variable {session : Session} {α : Type}

theorem answered_stmtValidateAndLock_bind {next : Statement → Handled α} :
    (stmtValidateAndLock session stmtID >>= next).Answered ↔
      ∀ stmt, session.stmts stmtID = some (some stmt) → (next stmt).Answered := by
  unfold stmtValidateAndLock
  match session.stmts stmtID with
  | none => simp [fail]
  | some none => simp [fail]
  | some (some stmt) => simp

theorem answered_ofLibrary_bind {β : Type} {answer : Except Problem α} {next : α → Handled β} :
    (ofLibrary answer >>= next).Answered ↔ ∀ value, answer = .ok value → (next value).Answered := by
  cases answer with
  | error | ok => simp [ofLibrary]

theorem answered_fail_iff {rejects : Prop} [Decidable rejects] {reason : String}
    {otherwise : Handled α} :
    (if rejects then fail reason else otherwise).Answered ↔ (¬ rejects → otherwise.Answered) := by
  by_cases rejected : rejects
  · simp [rejected, fail]
  · simp [rejected]

theorem answered_response_iff {empty : Prop} [Decidable empty] {otherwise : Handled Call} :
    (if empty then .ok .response else otherwise).Answered ↔ (¬ empty → otherwise.Answered) := by
  by_cases nothing : empty
  · simp [nothing]
  · simp [nothing]

theorem answered_stmtBinarySetTags : (stmtBinarySetTags session stmtID message).Answered ↔
      SetTagsInside message session stmtID := by
  rw [stmtBinarySetTags, rawBlockGetNumOfCols, answered_widen_loadInt32_bind,
    rawBlockGetNumOfRows, answered_widen_loadInt32_bind, ← and_assoc, statement_inside_iff]
  simp only [answered_fail_iff, answered_stmtValidateAndLock_bind, answered_ofLibrary_bind,
    answered_response_iff, answered_bind_ok, answered_widen, answered_blockConvert, not_not, ne_eq]
  exact Iff.rfl

theorem answered_bindInsert {stmt : Statement} : (ofLibrary stmt.colFields >>= fun fields =>
      if fields = [] then .ok .response else match getTypes fields with
        | .error err => fail ("stmt get column type error, err:" ++ err)
        | .ok fieldTypes =>
          if columnsOf message ≠ fields.length then fail "stmt column count not match"
          else bindBlock stmtID message 24 (rowsOf message) fields fieldTypes).Answered ↔
      BindInsertInside message stmt := by
  rw [answered_ofLibrary_bind]
  refine forall_congr' fun fields => forall_congr' fun _ => ?_
  rw [answered_response_iff]
  refine forall_congr' fun _ => ?_
  rw [← exists_getTypes_iff]
  cases getTypes fields with
  | error err => simp [fail]
  | ok types =>
    change (if columnsOf message ≠ fields.length then _ else _ : Handled Call).Answered ↔ _
    rw [answered_fail_iff, answered_bindBlock, not_not]
    simp

theorem answered_rawBlockGetColInfo (message : Bytes) (count idx : Nat) :
    (rawBlockGetColInfo message 24 count idx).Answered ↔ ∀ off < count,
        Within message (24 + (colInfoOffset + colInfoSize * ((idx + off : Nat) : Int))) 5 := by
  induction count generalizing idx with
  | zero => simp [rawBlockGetColInfo]
  | succ count ih =>
    have info : Within message (24 + (colInfoOffset + colInfoSize * (idx : Int))) 5 ↔
        Within message (24 + (colInfoOffset + colInfoSize * (idx : Int))) 1 ∧
          Within message (24 + (colInfoOffset + colInfoSize * (idx : Int) + 1)) 4 := by
      unfold Within
      omega
    rw [rawBlockGetColInfo, answered_load_bind, answered_loadInt32_bind,
      answered_bind_ok, ih, ← and_assoc, ← info]
    exact (forall_pass_succ (fun idx =>
      Within message (24 + (colInfoOffset + colInfoSize * (idx : Int))) 5) count idx).symm

theorem rawBlockGetColInfo_eq {count idx : Nat} {colTypes : List Nat}
    (read : rawBlockGetColInfo message 24 count idx = .ok colTypes) :
    colTypes = colTypesAt message count idx := by
  induction count generalizing idx colTypes with
  | zero =>
    cases read
    rfl
  | succ count ih =>
    rw [rawBlockGetColInfo] at read
    obtain ⟨colType, loaded, read⟩ := bind_eq_ok.mp read
    obtain ⟨_, _, read⟩ := bind_eq_ok.mp read
    obtain ⟨rest, later, finish⟩ := bind_eq_ok.mp read
    cases finish
    rw [ih later, colTypesAt, colTypesAt, range'_succ, map_cons, eq_word_of_load loaded]

theorem answered_bindQuery :
    (.widen (parseRowBlockInfo message 24 (columnsOf message)) >>= fun columns => match columns with
      | .error err => fail ("parse row block info error, err:" ++ err)
      | .ok (fields, fieldTypes) =>
        bindBlock stmtID message 24 (rowsOf message) fields fieldTypes : Handled Call).Answered ↔
      BindQueryInside message := by
  unfold parseRowBlockInfo BindQueryInside
  by_cases negative : columnsOf message < 0
  · have excluded : ¬ 0 ≤ columnsOf message := by omega
    simp [negative, excluded, Outcome.widen]
  · rw [if_neg negative, and_iff_right (by omega : 0 ≤ columnsOf message)]
    have infos := answered_rawBlockGetColInfo message (columnsOf message).toNat 0
    simp only [Nat.zero_add] at infos
    rw [← infos]
    cases read : rawBlockGetColInfo message 24 (columnsOf message).toNat 0 with
    | error reason => cases reason
    | panic | fault => simp [Outcome.widen]
    | ok colTypes =>
      obtain rfl := rawBlockGetColInfo_eq read
      rw [and_iff_right (answered_ok _), ok_bind, Outcome.widen, ok_bind, rowBlockColumns]
      cases rowBlockError (colTypesAt message (columnsOf message).toNat 0) with
      | some err => simp [fail]
      | none => simp [answered_bindBlock]

theorem answered_stmtBinaryBind :
    (stmtBinaryBind session stmtID message).Answered ↔ BindInside message session stmtID := by
  rw [stmtBinaryBind, rawBlockGetNumOfCols, answered_widen_loadInt32_bind,
    rawBlockGetNumOfRows, answered_widen_loadInt32_bind, ← and_assoc, statement_inside_iff]
  refine and_congr_right fun _ => ?_
  rw [answered_stmtValidateAndLock_bind]
  refine forall_congr' fun stmt => forall_congr' fun _ => ?_
  cases stmt.isInsert with
  | true => exact answered_bindInsert
  | false => exact answered_bindQuery

theorem answered_binaryQuery : (binaryQuery reqID message).Answered ↔ QueryInside message := by
  unfold binaryQuery QueryInside
  rw [answered_fail_iff]
  by_cases short : message.length < 31
  · exact iff_of_true (fun long => absurd short long) (fun _ inside => by omega)
  · have small := word_lt message 26 4
    rw [forall_prop_of_true short, answered_loadNat_bind, and_iff_right ⟨by omega, by omega⟩]
    by_cases version : word message 24 2 = 1
    · rw [if_pos version, forall_prop_of_true version, answered_loadNat_bind,
        and_iff_right ⟨by omega, by omega⟩, answered_fail_iff]
      by_cases inside : 30 + word message 26 4 ≤ message.length
      · rw [forall_prop_of_true (by omega), forall_prop_of_true inside]
        by_cases fits : 30 + word message 26 4 < 2 ^ 32
        · rw [if_neg (by omega)]
          exact iff_of_true trivial fits
        · rw [if_pos (by omega)]
          exact iff_of_false id fits
      · exact iff_of_true (fun complete => by omega) (fun complete => absurd complete inside)
    · rw [if_neg version]
      exact iff_of_true trivial fun isVersion => absurd isVersion version

theorem answered_fetchRawBlock {resultID : Nat} :
    (fetchRawBlock reqID resultID message).Answered := by
  unfold fetchRawBlock
  rw [answered_fail_iff]
  intro long
  rw [answered_loadNat_bind, answered_fail_iff]
  exact ⟨⟨by omega, by omega⟩, fun _ => trivial⟩

theorem answered_stmt2BinaryBind : (stmt2BinaryBind stmtID message).Answered := by
  unfold stmt2BinaryBind
  rw [answered_fail_iff]
  intro long
  rw [answered_loadNat_bind, answered_fail_iff, loadInt]
  refine ⟨⟨by omega, by omega⟩, fun _ => ?_⟩
  rw [answered_widen_loadInt32_bind]
  exact ⟨⟨by omega, by omega⟩, trivial⟩

theorem answered_dispatch {resourceID action : Nat} :
    (dispatch session reqID resourceID action message).Answered ↔
      HandlerInside message session resourceID action := by
  unfold dispatch HandlerInside
  split
  next => exact answered_stmtBinarySetTags
  next => exact answered_stmtBinaryBind
  next => exact answered_binaryTMQRawMessage
  next => exact answered_binaryRawBlockMessage
  next => exact answered_binaryRawBlockMessageWithFields
  next => exact answered_binaryQuery
  next => exact iff_of_true answered_fetchRawBlock trivial
  next => exact iff_of_true answered_stmt2BinaryBind trivial
  next =>
    refine iff_of_true trivial ?_
    split <;> trivial

/-- A binary message is answered, without a read outside it, exactly when the
header and what its handler looks at are in the message. -/
theorem binary_message_answered_iff (session : Session) (message : Bytes) :
    (handleMessageBinary session message).Answered ↔ MessageInside message session := by
  unfold handleMessageBinary MessageInside
  by_cases empty : message = []
  · rw [if_pos empty, empty]
    exact iff_of_false id fun inside => by simp at inside
  · rw [if_neg empty, answered_loadNat_bind, answered_loadNat_bind, answered_loadNat_bind,
      answered_fail_iff, answered_dispatch, ← and_assoc, ← and_assoc, Bool.not_eq_false]
    refine and_congr_left fun _ => ?_
    unfold Within
    omega

end

def openSession : Session where
  connected := true
  stmts := fun _ => some (some ⟨false, .ok [⟨"t", TSDB_DATA_TYPE_INT, 0⟩], .ok []⟩)

def messageHeader (action : Nat) : Bytes := leBytes 8 7 ++ leBytes 8 1 ++ leBytes 8 action

def blockHeader (length rows cols : Nat) : Bytes :=
  leBytes 4 1 ++ leBytes 4 length ++ leBytes 4 rows ++ leBytes 4 cols ++ leBytes 4 0 ++ leBytes 8 0

/-- A message without bytes, a header cut short, and one message of each kind
that declares more than it brings. -/
theorem binary_message_read_outside :
    handleMessageBinary openSession [] = .panic ∧
    handleMessageBinary openSession (leBytes 8 7) = .fault ∧
    handleMessageBinary openSession (messageHeader 1 ++ blockHeader 28 1 1) = .fault ∧
    handleMessageBinary openSession (messageHeader 2 ++ blockHeader 28 1 1) = .fault ∧
    handleMessageBinary openSession (messageHeader 3 ++ leBytes 4 1000 ++ leBytes 2 1) = .fault ∧
    handleMessageBinary openSession (messageHeader 4 ++ leBytes 4 1 ++ leBytes 2 5) = .fault ∧
    handleMessageBinary openSession
      (messageHeader 5 ++ leBytes 4 1 ++ leBytes 2 0 ++ blockHeader 37 0 1 ++ leBytes 9 4) =
      .fault := by
  decide +kernel

end TaosAdapter.Binary
