import TaosAdapter.Lib.Bytes
import TaosAdapter.Lib.Outcome

/-!
Owns: writing into a region of its own size. A write outside the region is a
fault; inside it, the region holds the written bytes and still holds what lay
beside them.
-/

namespace TaosAdapter.Lib

open List

/-- Bytes are written one after the other, so that nothing is written of an
empty string, wherever it is written to. -/
def store {Error : Type} (region : Bytes) (offset : Nat) : Bytes → Outcome Error Bytes
  | [] => .ok region
  | byte :: rest =>
    if offset < region.length then store (region.set offset byte) (offset + 1) rest else .fault

variable {region bytes : Bytes} {off : Nat} {Error : Type}

theorem store_of_inside (inside : bytes = [] ∨ off + bytes.length ≤ region.length) :
    (store region off bytes : Outcome Error Bytes) = .ok (poke region off bytes) := by
  induction bytes generalizing region off with
  | nil => rfl
  | cons byte rest ih =>
    have fits : off + (rest.length + 1) ≤ region.length :=
      inside.resolve_left (cons_ne_nil byte rest)
    rw [store, if_pos (by omega), poke]
    exact ih (.inr (by rw [length_set]; omega))

theorem inside_of_store {written : Bytes}
    (stored : (store region off bytes : Outcome Error Bytes) = .ok written) :
    bytes = [] ∨ off + bytes.length ≤ region.length := by
  induction bytes generalizing region off with
  | nil => exact .inl rfl
  | cons byte rest ih =>
    right
    rw [store] at stored
    split at stored
    next here =>
      rw [length_cons]
      rcases ih stored with rfl | later
      · rw [length_nil]
        omega
      · rw [length_set] at later
        omega
    next => cases stored

theorem holds_poke (inside : off + bytes.length ≤ region.length) :
    Holds (poke region off bytes) off bytes := by
  refine ⟨by rw [length_poke]; exact inside, ?_⟩
  have before : (region.take off).length = off := by
    rw [length_take]
    omega
  have passed : (region.take off).drop off = [] := drop_eq_nil_of_le before.le
  rw [poke_eq inside, drop_append_of_le_length before.ge, passed, nil_append, take_left]

/-- The ranges of two writes have no byte in common. -/
def Apart (offset width other otherWidth : Nat) : Prop :=
  offset + width ≤ other ∨ other + otherWidth ≤ offset

theorem Holds.poke {kept : Bytes} {other : Nat} (holds : Holds region other kept)
    (apart : Apart off bytes.length other kept.length) :
    Holds (poke region off bytes) other kept := by
  induction bytes generalizing region off with
  | nil => exact holds
  | cons byte rest ih =>
    rw [Lib.poke]
    rw [Apart, length_cons] at apart
    refine ih ?_ (by unfold Apart; omega)
    obtain ⟨inside, content⟩ := holds
    refine ⟨by rw [length_set]; exact inside, ?_⟩
    rcases apart with before | behind
    · rw [drop_set_of_lt (by omega), content]
    · rw [drop_set, if_neg (by omega), take_set_of_le (by omega), content]

end TaosAdapter.Lib
