import TaosAdapter.Lib.Bytes
import Mathlib.Algebra.BigOperators.Group.List.Basic
import Mathlib.Algebra.GroupWithZero.Nat

/-!
Owns: sums of a natural weight over a list of threads, and how such a sum
moves when one thread changes or a new thread is appended.
-/

namespace TaosAdapter.Lib

open List

variable {α : Type}

/-- The total weight of a list. -/
def tally (weight : α → Nat) (items : List α) : Nat :=
  (items.map weight).sum

variable (weight : α → Nat)

@[simp] theorem tally_nil : tally weight [] = 0 := rfl

@[simp] theorem tally_cons (head : α) (tail : List α) :
    tally weight (head :: tail) = weight head + tally weight tail := by
  simp [tally]

@[simp] theorem tally_append (left right : List α) :
    tally weight (left ++ right) = tally weight left + tally weight right := by
  simp [tally]

/-- A list with one item more. -/
theorem getElem?_append_singleton (items : List α) (item : α) (idx : Nat) :
    (items ++ [item])[idx]? = if idx = items.length then some item else items[idx]? := by
  rw [List.getElem?_append]
  split
  · rename_i inside
    rw [if_neg (Nat.ne_of_lt inside)]
  · rename_i outside
    by_cases last : idx = items.length
    · simp [last]
    · have beyond : [item].length ≤ idx - items.length := by
        rw [length_singleton]
        omega
      rw [if_neg last, List.getElem?_eq_none beyond, List.getElem?_eq_none (by omega)]

variable {items : List α}

/-- Replacing one entry exchanges its weight. -/
theorem tally_set {idx : Nat} {old : α} (found : items[idx]? = some old) (new : α) :
    tally weight (items.set idx new) + weight old = tally weight items + weight new := by
  induction items generalizing idx with
  | nil => simp at found
  | cons head tail ih =>
    cases idx with
    | zero =>
      obtain rfl : head = old := by simpa using found
      simp only [set_cons_zero, tally_cons]
      omega
    | succ idx =>
      have tailFound : tail[idx]? = some old := by simpa using found
      have moved := ih tailFound
      simp only [set_cons_succ, tally_cons]
      omega

/-- Entry by entry equal weights give equal totals. -/
theorem tally_congr {left right : List α}
    (same : ∀ idx : Nat, (left[idx]?).map weight = (right[idx]?).map weight) :
    tally weight left = tally weight right := by
  have mapped : left.map weight = right.map weight := by
    apply ext_getElem?
    intro idx
    simpa using same idx
  rw [tally, tally, mapped]

/-- One entry weighs at most the whole. -/
theorem weight_le_tally {idx : Nat} {item : α} (found : items[idx]? = some item) :
    weight item ≤ tally weight items := by
  induction items generalizing idx with
  | nil => simp at found
  | cons head tail ih =>
    rw [tally_cons]
    cases idx with
    | zero =>
      obtain rfl : head = item := by simpa using found
      omega
    | succ idx =>
      have tailFound : tail[idx]? = some item := by simpa using found
      have bounded := ih tailFound
      omega

/-- Two entries weigh at most the whole. -/
theorem weight_add_weight_le_tally {first second : Nat} {item other : α} (ne : first ≠ second)
    (found : items[first]? = some item) (found2 : items[second]? = some other) :
    weight item + weight other ≤ tally weight items := by
  induction items generalizing first second with
  | nil => simp at found
  | cons head tail ih =>
    rw [tally_cons]
    cases first with
    | zero =>
      cases second with
      | zero => exact absurd rfl ne
      | succ second =>
        obtain rfl : head = item := by simpa using found
        have bounded := weight_le_tally weight (by simpa using found2)
        omega
    | succ first =>
      cases second with
      | zero =>
        obtain rfl : head = other := by simpa using found2
        have bounded := weight_le_tally weight (by simpa using found)
        omega
      | succ second =>
        have apart : first ≠ second := fun same => ne (congrArg Nat.succ same)
        have bounded := ih apart (by simpa using found)
          (by simpa using found2)
        omega

/-- A list of weightless entries weighs nothing. -/
theorem tally_eq_zero (weightless : ∀ item ∈ items, weight item = 0) : tally weight items = 0 := by
  induction items with
  | nil => rfl
  | cons head tail ih =>
    rw [tally_cons, weightless head (by simp), ih fun item mem => weightless item (by simp [mem])]

/-- A positive total has an entry that weighs something. -/
theorem exists_of_tally_pos (pos : 0 < tally weight items) :
    ∃ (idx : Nat) (item : α), items[idx]? = some item ∧ 0 < weight item := by
  induction items with
  | nil => simp at pos
  | cons head tail ih =>
    by_cases weighs : 0 < weight head
    · exact ⟨0, head, rfl, weighs⟩
    · rw [tally_cons] at pos
      obtain ⟨idx, item, found, itemWeighs⟩ := ih (by omega)
      exact ⟨idx + 1, item, by simpa using found, itemWeighs⟩

end TaosAdapter.Lib
