import Mathlib.Algebra.GroupWithZero.Nat
import Mathlib.Data.List.Basic

/-!
Owns: items put into batches as they come, a batch being closed when the next
item would bring it to a limit. No item is lost or repeated, whatever the sizes;
a batch of several items stays below the limit; and a batch is empty exactly if
the first item does not fit on its own.
-/

namespace TaosAdapter.Lib

open List

/-- The closed batches and the one being filled. -/
structure Batches (Item : Type) where
  closed : List (List Item)
  current : List Item

namespace Batches

variable {Item : Type} (size : Item → Nat) (base limit : Nat)

/-- A batch takes `base` and the sizes of its items. -/
def total (batch : List Item) : Nat := base + (batch.map size).sum

variable (batches : Batches Item)

def add (item : Item) : Batches Item :=
  if limit ≤ total size base batches.current + size item then
    ⟨batches.closed ++ [batches.current], [item]⟩
  else ⟨batches.closed, batches.current ++ [item]⟩

def fill (items : List Item) : Batches Item :=
  items.foldl (add size base limit) batches

/-- The batch being filled is closed if there is something in it. -/
def finish : List (List Item) :=
  if batches.current = [] then batches.closed else batches.closed ++ [batches.current]

def empty : Batches Item := ⟨[], []⟩

/-- All batches, in order. -/
def all : List (List Item) := batches.closed ++ [batches.current]

/-- A batch of several items is below the limit. -/
def Below (batch : List Item) : Prop := 1 < batch.length → total size base batch < limit

variable {size base limit} {batches : Batches Item}

theorem flatten_finish (batches : Batches Item) : batches.finish.flatten = batches.all.flatten := by
  rw [finish, all]
  split
  · rename_i nothing
    simp [nothing]
  · rfl

theorem mem_all_of_finish {batch : List Item} (mem : batch ∈ batches.finish) :
    batch ∈ batches.all := by
  rw [finish] at mem
  split at mem
  · exact mem_append_left _ mem
  · exact mem

theorem flatten_add (batches : Batches Item) (item : Item) :
    (add size base limit batches item).all.flatten = batches.all.flatten ++ [item] := by
  rw [add]
  split
  · simp [all]
  · simp [all]

theorem below_add (below : ∀ batch ∈ batches.all, Below size base limit batch) (item : Item) :
    ∀ batch ∈ (add size base limit batches item).all, Below size base limit batch := by
  intro batch mem
  rw [add] at mem
  split at mem
  · rcases mem_append.mp mem with old | last
    · exact below batch old
    · obtain rfl := mem_singleton.mp last
      intro several
      simp at several
  · rename_i fits
    rcases mem_append.mp mem with old | last
    · exact below batch (mem_append_left _ old)
    · obtain rfl := mem_singleton.mp last
      intro _
      simp only [total, map_append, map_cons, map_nil, sum_append, sum_cons, sum_nil] at fits ⊢
      omega

theorem filled_add (filled : ∀ batch ∈ batches.all, batch ≠ []) (item : Item) :
    ∀ batch ∈ (add size base limit batches item).all, batch ≠ [] := by
  intro batch mem
  rw [add] at mem
  split at mem
  · rcases mem_append.mp mem with old | last
    · exact filled batch old
    · obtain rfl := mem_singleton.mp last
      exact cons_ne_nil _ _
  · rcases mem_append.mp mem with old | last
    · exact filled batch (mem_append_left _ old)
    · obtain rfl := mem_singleton.mp last
      exact append_ne_nil_of_right_ne_nil _ (cons_ne_nil _ _)

theorem closed_add (batches : Batches Item) (item : Item) :
    batches.closed <+: (add size base limit batches item).closed := by
  rw [add]
  split
  · exact prefix_append _ _
  · exact prefix_refl _

theorem flatten_fill (batches : Batches Item) (items : List Item) :
    (fill size base limit batches items).all.flatten = batches.all.flatten ++ items := by
  induction items generalizing batches with
  | nil => simp [fill]
  | cons item items ih =>
    show (fill size base limit (add size base limit batches item) items).all.flatten = _
    rw [ih, flatten_add, append_assoc, singleton_append]

theorem below_fill (below : ∀ batch ∈ batches.all, Below size base limit batch)
    (items : List Item) :
    ∀ batch ∈ (fill size base limit batches items).all, Below size base limit batch := by
  induction items generalizing batches with
  | nil => exact below
  | cons item items ih => exact ih (below_add below item)

theorem filled_fill (filled : ∀ batch ∈ batches.all, batch ≠ []) (items : List Item) :
    ∀ batch ∈ (fill size base limit batches items).all, batch ≠ [] := by
  induction items generalizing batches with
  | nil => exact filled
  | cons item items ih => exact ih (filled_add filled item)

theorem closed_fill (batches : Batches Item) (items : List Item) :
    batches.closed <+: (fill size base limit batches items).closed := by
  induction items generalizing batches with
  | nil => exact prefix_refl _
  | cons item items ih =>
    exact (closed_add batches item).trans (ih _)

variable (size base limit)

/-- The batches the items end up in. -/
def of (items : List Item) : List (List Item) := (fill size base limit empty items).finish

variable (items : List Item)

theorem flatten_of : (of size base limit items).flatten = items := by
  rw [of, flatten_finish, flatten_fill]
  rfl

theorem below_of : ∀ batch ∈ of size base limit items, Below size base limit batch := by
  intro batch mem
  have start : ∀ batch ∈ (empty : Batches Item).all, Below size base limit batch := by
    intro batch mem several
    obtain rfl : batch = [] := mem_singleton.mp mem
    simp at several
  exact below_fill start items batch (mem_all_of_finish mem)

/-- Only the first item can close a batch without items. -/
theorem filled_of_iff : (∀ batch ∈ of size base limit items, batch ≠ []) ↔
      ∀ first ∈ items.head?, base + size first < limit := by
  cases items with
  | nil => simp [of, fill, empty, finish]
  | cons first items =>
    have begins : fill size base limit empty (first :: items) =
        fill size base limit (add size base limit empty first) items := rfl
    simp only [List.head?_cons, Option.mem_def, Option.some.injEq, forall_eq']
    constructor
    · intro filled
      by_contra tooLong
      have closes : add size base limit empty first = ⟨[[]], [first]⟩ := by
        rw [add, if_pos]
        · rfl
        · simpa [total, empty] using tooLong
      have mem : [] ∈ (fill size base limit (add size base limit empty first) items).closed :=
        (closed_fill _ items).subset (by simp [closes])
      refine filled [] ?_ rfl
      rw [of, begins, finish]
      split
      · exact mem
      · exact mem_append_left _ mem
    · intro fits batch mem
      have opens : add size base limit empty first = ⟨[], [first]⟩ := by
        rw [add, if_neg]
        · rfl
        · simpa [total, empty] using fits
      rw [of, begins, opens] at mem
      exact filled_fill (by simp [all]) items batch (mem_all_of_finish mem)

end Batches

end TaosAdapter.Lib
