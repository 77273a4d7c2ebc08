import Mathlib.Data.List.Basic
import Mathlib.Tactic.Ring

/-!
Owns: byte strings as memory. Little-endian numbers, reading at an address,
overwriting at an offset, and `Holds`, which says which bytes stand at an
offset and is taken apart along the way the bytes were put together.
-/

namespace TaosAdapter.Lib

open List Option

abbrev Bytes := List UInt8

theorem forall_byte {P : UInt8 → Prop} (table : ∀ n < 256, P (UInt8.ofNat n)) (byte : UInt8) :
    P byte := by
  have entry := table byte.toNat byte.toNat_lt
  rwa [UInt8.ofNat_toNat] at entry

theorem lt_of_getElem? {α : Type*} {xs : List α} {i : Nat} {x : α} (found : xs[i]? = some x) :
    i < xs.length :=
  (List.getElem?_eq_some_iff.mp found).1

/-- The low `width` bytes of a number, the lowest first. -/
def leBytes : Nat → Nat → Bytes
  | 0, _ => []
  | width + 1, value => UInt8.ofNat value :: leBytes width (value / 256)

def leNat : Bytes → Nat
  | [] => 0
  | byte :: rest => byte.toNat + 256 * leNat rest

@[simp] theorem length_leBytes (width value : Nat) : (leBytes width value).length = width := by
  induction width generalizing value with
  | zero => rfl
  | succ width ih => simp [leBytes, ih]

theorem leNat_lt (bytes : Bytes) : leNat bytes < 256 ^ bytes.length := by
  induction bytes with
  | nil => simp [leNat]
  | cons byte rest ih =>
    have small := byte.toNat_lt
    simp only [leNat, length_cons, pow_succ]
    omega

/-- Reading back what was written keeps the low bytes. -/
theorem leNat_leBytes (width value : Nat) : leNat (leBytes width value) = value % 256 ^ width := by
  induction width generalizing value with
  | zero => simp [leBytes, leNat, Nat.mod_one]
  | succ width ih =>
    have lowest : (UInt8.ofNat value).toNat = value % 256 := UInt8.toNat_ofNat'
    rw [leBytes, leNat, ih, lowest, pow_succ', Nat.mod_mul]

variable {width value : Nat}

theorem leNat_leBytes_of_lt (small : value < 256 ^ width) :
    leNat (leBytes width value) = value := by
  rw [leNat_leBytes, Nat.mod_eq_of_lt small]

variable (memory : Bytes) (address : Int)

/-- The `width` bytes from an address on, if all of them are in the memory. -/
def peek (width : Nat) : Option Bytes :=
  if 0 ≤ address ∧ address + width ≤ memory.length then
    some ((memory.drop address.toNat).take width)
  else none

def peekNat (width : Nat) : Option Nat :=
  (peek memory address width).map leNat

/-- The `width` bytes from an address on are in the memory. -/
def Within (width : Nat) : Prop :=
  0 ≤ address ∧ address + width ≤ memory.length

instance (memory : Bytes) (address : Int) (width : Nat) : Decidable (Within memory address width) :=
  inferInstanceAs (Decidable (_ ∧ _))

/-- The number at an address; zero outside the memory. -/
def word (width : Nat) : Nat :=
  (peekNat memory address width).getD 0

/-- A number as a value of type `int32_t`. -/
def int32 (value : Int) : Int := (BitVec.ofInt 32 value).toInt

theorem int32_of_lt {value : Int} (low : -2 ^ 31 ≤ value) (high : value < 2 ^ 31) :
    int32 value = value := by
  rw [int32, BitVec.toInt_ofInt]
  exact Int.bmod_eq_of_le (by omega) (by omega)

def int32At : Int := int32 (word memory address 4)

/-- The C string at an address: the bytes before the first zero, if the memory has one. -/
def cString : Option Bytes :=
  let rest := memory.drop address.toNat
  if 0 ≤ address ∧ 0 ∈ rest then some (rest.takeWhile (· ≠ 0)) else none

variable {memory : Bytes} {address : Int}

theorem peek_of_within (within : Within memory address width) :
    peek memory address width = some ((memory.drop address.toNat).take width) :=
  if_pos within

theorem peek_of_not_within (outside : ¬ Within memory address width) :
    peek memory address width = none :=
  if_neg outside

theorem peekNat_of_within (within : Within memory address width) :
    peekNat memory address width = some (word memory address width) := by
  rw [word, peekNat, peek_of_within within, map_some, getD_some]

theorem peekNat_of_not_within (outside : ¬ Within memory address width) :
    peekNat memory address width = none := by
  rw [peekNat, peek_of_not_within outside, map_none]

theorem within_add_iff {front back : Nat} : Within memory address (front + back) ↔
      Within memory address front ∧ Within memory (address + front) back := by
  unfold Within
  omega

theorem word_lt (memory : Bytes) (address : Int) (width : Nat) :
    word memory address width < 256 ^ width := by
  unfold word peekNat peek
  split
  next =>
    have small := leNat_lt ((memory.drop address.toNat).take width)
    have length : ((memory.drop address.toNat).take width).length ≤ width := length_take_le _ _
    exact lt_of_lt_of_le small (Nat.pow_le_pow_right (by omega) length)
  next => exact Nat.pow_pos (by omega)

theorem peek_eq_none :
    peek memory address width = none ↔ ¬ (0 ≤ address ∧ address + width ≤ memory.length) := by
  unfold peek
  split <;> simp_all

/-- The bytes stand in the memory from the offset on. -/
def Holds (memory : Bytes) (offset : Nat) (bytes : Bytes) : Prop :=
  offset + bytes.length ≤ memory.length ∧ (memory.drop offset).take bytes.length = bytes

theorem holds_self (bytes : Bytes) : Holds bytes 0 bytes :=
  ⟨(Nat.zero_add _).le, by rw [drop_zero, take_length]⟩

variable {bytes : Bytes} {off : Nat}

theorem Holds.peek (holds : Holds memory off bytes) (here : address = off)
    (length : bytes.length = width) : peek memory address width = some bytes := by
  obtain ⟨inside, content⟩ := holds
  subst here length
  have bounds : (0 : Int) ≤ off ∧ (off : Int) + bytes.length ≤ memory.length := by omega
  rw [Lib.peek, if_pos bounds, Int.toNat_natCast, content]

theorem takeWhile_append_zero (text rest : Bytes) :
    (text ++ 0 :: rest).takeWhile (· ≠ 0) = text.takeWhile (· ≠ 0) := by
  induction text with
  | nil => simp
  | cons byte text inductionHypothesis =>
    rw [cons_append, takeWhile_cons, takeWhile_cons, inductionHypothesis]

/-- A text with a zero after it is read up to the first zero of its own. -/
theorem Holds.cString {text : Bytes} (holds : Holds memory off (text ++ [0]))
    (here : address = off) : cString memory address = some (text.takeWhile (· ≠ 0)) := by
  subst here
  have rest := take_append_drop (text ++ [0]).length (memory.drop off)
  rw [holds.2, append_assoc, singleton_append] at rest
  rw [Lib.cString, Int.toNat_natCast, ← rest, if_pos ⟨Int.natCast_nonneg off, by simp⟩,
    takeWhile_append_zero]

theorem Holds.peekNat (holds : Holds memory off bytes) (here : address = off)
    (length : bytes.length = width) : peekNat memory address width = some (leNat bytes) := by
  rw [Lib.peekNat, holds.peek here length, map_some]

/-- A number written in enough bytes is read back. -/
theorem Holds.peekNat_leBytes (holds : Holds memory off (leBytes width value))
    (here : address = off) (small : value < 256 ^ width) :
    Lib.peekNat memory address width = some value := by
  rw [holds.peekNat here (length_leBytes width value), leNat_leBytes_of_lt small]

theorem Holds.shift {other : Nat} (holds : Holds memory off bytes) (here : off = other) :
    Holds memory other bytes :=
  here ▸ holds

variable {front back : Bytes}

theorem Holds.left (holds : Holds memory off (front ++ back)) : Holds memory off front := by
  obtain ⟨inside, content⟩ := holds
  rw [length_append] at inside content
  refine ⟨by omega, ?_⟩
  have shorter := congrArg (List.take front.length) content
  rw [take_take, take_left, Nat.min_eq_left (by omega)] at shorter
  exact shorter

theorem Holds.right (holds : Holds memory off (front ++ back)) :
    Holds memory (off + front.length) back := by
  obtain ⟨inside, content⟩ := holds
  rw [length_append] at inside content
  refine ⟨by omega, ?_⟩
  have later := congrArg (List.drop front.length) content
  rw [drop_left, drop_take, drop_drop, Nat.add_sub_cancel_left] at later
  exact later

variable {idx : Nat}

theorem Holds.byte (holds : Holds memory off bytes) {byte : UInt8} (found : bytes[idx]? = some byte)
    : Holds memory (off + idx) [byte] := by
  obtain ⟨inside, rfl⟩ := List.getElem?_eq_some_iff.mp found
  have split : bytes = bytes.take idx ++ ([bytes[idx]] ++ bytes.drop (idx + 1)) := by
    rw [singleton_append, ← drop_eq_getElem_cons inside, take_append_drop]
  rw [split] at holds
  have here := holds.right.left
  rw [length_take, Nat.min_eq_left (by omega)] at here
  exact here

/-- A piece of a concatenation stands behind the pieces before it. -/
theorem Holds.piece {pieces : List Bytes} (holds : Holds memory off pieces.flatten)
    (found : pieces[idx]? = some bytes) :
    Holds memory (off + (pieces.take idx).flatten.length) bytes := by
  induction pieces generalizing off idx with
  | nil => cases found
  | cons head tail ih =>
    rw [flatten_cons] at holds
    cases idx with
    | zero =>
      obtain rfl : head = bytes := Option.some.inj found
      exact holds.left
    | succ idx =>
      have later := ih holds.right found
      rw [take_succ_cons, flatten_cons, length_append, ← Nat.add_assoc]
      exact later

variable {α : Type} {pieces : List (List α)}

theorem length_flatten_uniform (width : Nat) (uniform : ∀ piece ∈ pieces, piece.length = width) :
    pieces.flatten.length = width * pieces.length := by
  induction pieces with
  | nil => rfl
  | cons head tail ih =>
    have rest := ih fun piece mem =>
      uniform piece (mem_cons_of_mem head mem)
    rw [flatten_cons, length_append, rest, uniform head mem_cons_self, length_cons]
    ring

/-- Pieces of one width stand at multiples of it. -/
theorem Holds.piece_uniform {pieces : List Bytes} (holds : Holds memory off pieces.flatten)
    (width : Nat) (uniform : ∀ piece ∈ pieces, piece.length = width)
    (found : pieces[idx]? = some bytes) : Holds memory (off + width * idx) bytes := by
  have here := holds.piece found
  have inside := lt_of_getElem? found
  rw [length_flatten_uniform width fun piece mem => uniform piece (mem_of_mem_take mem),
    length_take, Nat.min_eq_left (by omega)] at here
  exact here

/-- An element of a piece, counted over pieces of one width. -/
theorem getElem?_flatten_uniform (uniform : ∀ piece ∈ pieces, piece.length = width) {inner : Nat}
    {piece : List α} {element : α} (found : pieces[idx]? = some piece)
    (here : piece[inner]? = some element) :
    pieces.flatten[idx * width + inner]? = some element := by
  have inside := lt_of_getElem? here
  induction pieces generalizing idx with
  | nil => cases found
  | cons head tail ih =>
    have headWidth := uniform head mem_cons_self
    rw [flatten_cons]
    cases idx with
    | zero =>
      obtain rfl : head = piece := Option.some.inj found
      rw [Nat.zero_mul, Nat.zero_add, List.getElem?_append_left inside, here]
    | succ idx =>
      have shift : (idx + 1) * width + inner - head.length = idx * width + inner := by
        rw [headWidth, Nat.add_mul]
        omega
      have beyond : head.length ≤ (idx + 1) * width + inner := by
        rw [headWidth, Nat.add_mul]
        omega
      rw [List.getElem?_append_right beyond, shift]
      exact ih (fun piece mem =>
        uniform piece (mem_cons_of_mem head mem)) found

theorem modify_append_left {front back : List α} (inside : idx < front.length) (change : α → α) :
    (front ++ back).modify idx change = front.modify idx change ++ back := by
  induction front generalizing idx with
  | nil => cases inside
  | cons head tail ih =>
    cases idx with
    | zero => rfl
    | succ idx =>
      rw [cons_append, modify_succ_cons, modify_succ_cons, cons_append, ih (by simpa using inside)]

/-- The memory with some bytes replaced, from an offset on. -/
def poke (memory : Bytes) (offset : Nat) : Bytes → Bytes
  | [] => memory
  | byte :: rest => poke (memory.set offset byte) (offset + 1) rest

@[simp] theorem length_poke (memory : Bytes) (off : Nat) (bytes : Bytes) :
    (poke memory off bytes).length = memory.length := by
  induction bytes generalizing memory off with
  | nil => rfl
  | cons byte rest ih => rw [poke, ih, length_set]

theorem poke_append (before after : Bytes) {old : Bytes} (length : bytes.length = old.length) :
    poke (before ++ (old ++ after)) before.length bytes = before ++ (bytes ++ after) := by
  induction bytes generalizing before old with
  | nil =>
    obtain rfl : old = [] := length_eq_zero_iff.mp length.symm
    rfl
  | cons byte rest ih =>
    obtain ⟨first, others, rfl⟩ : ∃ first others, old = first :: others := by
      cases old with
      | nil => cases length
      | cons first others => exact ⟨first, others, rfl⟩
    have shorter : rest.length = others.length := by simpa using length
    have next := ih (before ++ [byte]) shorter
    simp only [append_assoc, length_append, length_singleton, singleton_append] at next
    rw [poke, set_append_right _ _ (Nat.le_refl _), Nat.sub_self, cons_append, set_cons_zero]
    exact next

theorem poke_eq (inside : off + bytes.length ≤ memory.length) : poke memory off bytes =
      memory.take off ++ (bytes ++ memory.drop (off + bytes.length)) := by
  have parts : memory.take off ++ ((memory.drop off).take bytes.length ++
      memory.drop (off + bytes.length)) = memory := by
    rw [← drop_drop, take_append_drop, take_append_drop]
  have written := poke_append (memory.take off) (memory.drop (off + bytes.length))
    (show bytes.length = ((memory.drop off).take bytes.length).length by
      rw [length_take, length_drop]
      omega)
  rwa [parts, length_take, Nat.min_eq_left (by omega)] at written

end TaosAdapter.Lib
