import TaosAdapter.Binary.Bounds

/-!
Owns: where the two raw block messages of `controller/ws/ws/raw.go` find the
block, one by a sum of 16 bits and one by a sum of `int`s.
-/

namespace TaosAdapter.Binary

open Lib Stmt List Outcome
open RawBlock (load loadInt32)

section

variable {message : Bytes} {address : Int} {width : Nat}

theorem loadNat_of_within (within : Within message address width) :
    loadNat message address width = .ok (word message address width) := by
  simp [loadNat, load, peekNat_of_within within, Outcome.widen]

theorem loadInt32_of_within (within : Within message address 4) :
    loadInt32 message address = .ok (int32At message address) := by
  simp [loadInt32, load, peekNat_of_within within, int32At]

theorem region_of_within (within : Within message address width) :
    region message address width = .ok ((message.drop address.toNat).take width) := by
  rw [region, peek_of_within within, ofRead_some]

def blockAt (message : Bytes) (rawBlock : Int) : Bytes :=
  (message.drop rawBlock.toNat).take (declaredSize message rawBlock)

theorem getElem?_blockAt_zero (rawBlock : Int) :
    (blockAt message rawBlock)[0]? = message[rawBlock.toNat]? := by
  have least := declaredSize_ge message rawBlock
  rw [blockAt, List.getElem?_take_of_lt (by omega), List.getElem?_drop, Nat.add_zero]

theorem readRawBlock_of_within {rawBlock : Int}
    (within : Within message rawBlock (declaredSize message rawBlock)) :
    readRawBlock message rawBlock = .ok (blockAt message rawBlock) := by
  have least := declaredSize_ge message rawBlock
  have field (off : Int) (inside : 0 ≤ off ∧ off ≤ 12) :
      Within message (rawBlock + off) 4 := by
    unfold Within at within ⊢
    omega
  simp only [readRawBlock, rawBlockGetLength, rawBlockGetNumOfRows, rawBlockGetNumOfCols,
    loadInt32_of_within (field 4 (by decide)), loadInt32_of_within (field 8 (by decide)),
    loadInt32_of_within (field 12 (by decide)), ok_bind]
  exact region_of_within within

end

structure NameAndBlock (message : Bytes) (length : Nat) : Prop where
  declared : tableNameLengthOf message = length
  block : Within message (30 + length) (declaredSize message (30 + length))

def LocatesBlock (length : Nat) : Prop :=
  ∀ (reqID : Nat) (message : Bytes), NameAndBlock message length →
    binaryRawBlockMessage reqID message =
      .ok (.writeRawBlock (int32At message 24) (blockAt message (30 + length))
        ((message.drop 30).take length) reqID) ∧
    (RawBlockWithFieldsInside message → ∃ fieldsBlock,
      binaryRawBlockMessageWithFields reqID message =
        .ok (.writeRawBlockWithFields (int32At message 24) (blockAt message (30 + length))
          ((message.drop 30).take length) fieldsBlock (int32At message (30 + length + 12))
          reqID))

section

variable {message : Bytes} {length : Nat}

section

variable (placed : NameAndBlock message length)

include placed

theorem NameAndBlock.front :
    loadInt message 24 = .ok (int32At message 24) ∧ loadNat message 28 2 = .ok length ∧
      region message 30 length = .ok ((message.drop 30).take length) := by
  have inside := placed.block
  have least := declaredSize_ge message (30 + length)
  unfold Within at inside
  refine ⟨?_, ?_, ?_⟩
  · rw [loadInt, loadInt32_of_within ⟨by decide, by omega⟩]
    rfl
  · rw [loadNat_of_within ⟨by decide, by omega⟩, ← placed.declared]
    rfl
  · exact region_of_within ⟨by decide, by omega⟩

theorem NameAndBlock.binaryRawBlockMessage (reqID : Nat) :
    binaryRawBlockMessage reqID message =
      .widen (readRawBlock message ((30 + length) % 2 ^ 16 : Nat)) >>= fun rawBlock =>
        .ok (.writeRawBlock (int32At message 24) rawBlock ((message.drop 30).take length)
          reqID) := by
  obtain ⟨rows, declared, name⟩ := placed.front
  rw [Binary.binaryRawBlockMessage, rows, ok_bind, declared, ok_bind, name]
  rfl

theorem NameAndBlock.binaryRawBlockMessageWithFields
    (reqID : Nat) (fields : RawBlockWithFieldsInside message) :
    ∃ fieldsBlock, binaryRawBlockMessageWithFields reqID message =
      .ok (.writeRawBlockWithFields (int32At message 24) (blockAt message (30 + length))
        ((message.drop 30).take length) fieldsBlock (int32At message (30 + length + 12))
        reqID) := by
  obtain ⟨rows, declared, name⟩ := placed.front
  have behind := fields.2
  rw [placed.declared] at behind
  have inside := placed.block
  have least := declaredSize_ge message (30 + length)
  unfold Within at inside
  have blockLength : loadInt32 message (30 + length + 4) = _ :=
    loadInt32_of_within ⟨by omega, by omega⟩
  have numOfColumn : loadInt32 message (30 + length + 12) = _ :=
    loadInt32_of_within ⟨by omega, by omega⟩
  have block : readRawBlock message (30 + length) = .ok (blockAt message (30 + length)) :=
    readRawBlock_of_within placed.block
  rw [Binary.binaryRawBlockMessageWithFields, rows, ok_bind, declared, ok_bind, name]
  simp only [Outcome.widen, ok_bind, readRawBlockWithFields, rawBlockGetLength,
    rawBlockGetNumOfCols, blockLength, numOfColumn, block, region_of_within behind]
  exact ⟨_, rfl⟩

end

theorem locatesBlock_of_lt (small : 30 + length < 2 ^ 16) : LocatesBlock length := by
  intro reqID message placed
  refine ⟨?_, placed.binaryRawBlockMessageWithFields reqID⟩
  rw [placed.binaryRawBlockMessage, Nat.mod_eq_of_lt small, Nat.cast_add, Nat.cast_ofNat,
    readRawBlock_of_within placed.block]
  rfl

end

def longNameMessage (length : Nat) : Bytes :=
  List.replicate 28 0 ++ (leBytes 2 length ++ (List.replicate length 0 ++ 1 :: List.replicate 27 0))

theorem holds_block (length : Nat) :
    Holds (longNameMessage length) (30 + length) (1 :: List.replicate 27 0) := by
  have here := (holds_self (longNameMessage length)).right.right.right
  simpa [Nat.add_assoc] using here

variable {length : Nat}

theorem int32At_longName {off : Nat} (later : 1 ≤ off) (inside : off + 4 ≤ 28) :
    int32At (longNameMessage length) (30 + length + off) = 0 := by
  have zeros : Holds (longNameMessage length) (30 + length + off) (List.replicate 4 0) := by
    have whole := holds_block length
    have split : (1 :: List.replicate 27 0 : Bytes) = (1 :: List.replicate (off - 1) 0) ++
          (List.replicate 4 0 ++ List.replicate (24 - off) 0) := by
      simp only [replicate_append_replicate, cons_append]
      rw [show off - 1 + (4 + (24 - off)) = 27 by omega]
    rw [split] at whole
    exact whole.right.left.shift (by simp; omega)
  rw [int32At, word, zeros.peekNat (by push_cast; rfl) (by simp)]
  rfl

theorem declaredSize_longName (length : Nat) :
    declaredSize (longNameMessage length) (30 + length) = 28 := by
  have field (off : Nat) (later : 1 ≤ off) (inside : off + 4 ≤ 28) :
      int32At (longNameMessage length) (30 + length + off) = 0 :=
    int32At_longName later inside
  have rawLength := field 4 (by decide) (by decide)
  have rows := field 8 (by decide) (by decide)
  have columns := field 12 (by decide) (by decide)
  push_cast at rawLength rows columns
  rw [declaredSize, rawLength, rows, columns]
  rfl

theorem nameAndBlock_longName (small : length < 2 ^ 16) :
    NameAndBlock (longNameMessage length) length := by
  refine ⟨?_, ?_⟩
  · have declared := (holds_self (longNameMessage length)).right.left
    rw [tableNameLengthOf, word, declared.peekNat_leBytes (by simp) small]
    rfl
  · rw [declaredSize_longName]
    exact ⟨by omega, by simp [longNameMessage]; omega⟩

theorem getElem?_front_ne_one (small : length < 2 ^ 16) (wraps : 2 ^ 16 ≤ 30 + length) :
    (longNameMessage length)[(30 + length) % 2 ^ 16]? ≠ some 1 := by
  obtain ⟨excess, rfl⟩ : ∃ excess, length = 65506 + excess := ⟨length - 65506, by omega⟩
  rw [show (30 + (65506 + excess)) % 2 ^ 16 = excess by omega, longNameMessage,
    ← append_assoc, List.getElem?_append_left (by simp; omega)]
  have every : ∀ excess < 30,
      (List.replicate 28 0 ++ leBytes 2 (65506 + excess))[excess]? ≠ some 1 := by
    decide
  exact every excess (by omega)

theorem not_locatesBlock (small : length < 2 ^ 16) (wraps : 2 ^ 16 ≤ 30 + length) :
    ¬ LocatesBlock length := by
  intro locates
  have placed := nameAndBlock_longName small
  have called := (locates 0 _ placed).1
  rw [placed.binaryRawBlockMessage] at called
  obtain ⟨rawBlock, read, same⟩ := bind_eq_ok.mp called
  have answered := congrArg Outcome.Answered read
  have within := answered_readRawBlock.mp (answered_widen.mp (answered.mpr trivial))
  rw [readRawBlock_of_within within] at read
  injection same with same
  injection same with _ same
  have first := congrArg (·[0]?) ((Outcome.ok.inj read).trans same)
  simp only [getElem?_blockAt_zero] at first
  have one : (longNameMessage length)[30 + length]? = some 1 := by
    rw [longNameMessage, List.getElem?_append_right (by simp; omega),
      List.getElem?_append_right (by simp; omega), List.getElem?_append_right (by simp; omega)]
    simp [show 30 + length - 28 - 2 - length = 0 by omega]
  exact getElem?_front_ne_one small wraps (first.trans one)

/-- Both handlers write the block behind the table name exactly for the lengths
whose sum with 30 fits 16 bits. -/
theorem locatesBlock_iff (length : Nat) (small : length < 2 ^ 16) :
    LocatesBlock length ↔ 30 + length < 2 ^ 16 :=
  ⟨fun locates => Nat.lt_of_not_le fun wraps => not_locatesBlock small wraps locates,
    locatesBlock_of_lt⟩

theorem short_name_located : LocatesBlock 5 :=
  (locatesBlock_iff 5 (by decide)).mpr (by decide)

theorem long_name_not_located : ¬ LocatesBlock 65535 :=
  not_locatesBlock (by decide) (by decide)

end TaosAdapter.Binary
