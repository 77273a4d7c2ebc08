import TaosAdapter.Holders.Step
import Mathlib.Data.List.Nodup

/-!
Owns: the invariant of the two holders. The lists, the items and the history of
a session say the same: an item is in its list until it is freed, it points to
something until then, and what is released is released by then.

The argument needs both locks. What a request knows about a list it has locked,
and about an item it has locked, is changed by no other request; a request that
got an item before it was freed finds out under the item's lock.
-/

namespace TaosAdapter.Holders

open Lib List

structure Core where
  kind : Kind
  index : Nat
  pointer : Bool
deriving DecidableEq

variable (entry : Entry)

def Entry.core : Core :=
  ⟨entry.kind, entry.index, entry.pointer⟩

@[simp] theorem Entry.core_kind : entry.core.kind = entry.kind := rfl

@[simp] theorem Entry.core_index : entry.core.index = entry.index := rfl

@[simp] theorem Entry.core_pointer : entry.core.pointer = entry.pointer := rfl

namespace Shared

variable (sh : Shared)

def core (item : Item) : Option Core :=
  (sh.items[item]?).map Entry.core

theorem core_of_here {item : Item} {entry : Entry} (here : sh.items[item]? = some entry) :
    sh.core item = some entry.core := by
  rw [core, here, Option.map_some]

@[simp] theorem core_log (event : Event) (item : Item) :
    (sh.log event).core item = sh.core item := rfl

@[simp] theorem nodes_log (event : Event) (side : Side) :
    (sh.log event).nodes side = sh.nodes side := rfl

@[simp] theorem history_log (event : Event) : (sh.log event).history = sh.history ++ [event] := rfl

@[simp] theorem nodes_lockItem (locked : Item) (owner : Option Nat) (side : Side) :
    (sh.lockItem locked owner).nodes side = sh.nodes side := rfl

@[simp] theorem nodes_setResult (stmt : Item) (res : Option Bool) (side : Side) :
    (sh.setResult stmt res).nodes side = sh.nodes side := rfl

@[simp] theorem core_lockItem (locked : Item) (owner : Option Nat) (item : Item) :
    (sh.lockItem locked owner).core item = sh.core item := by
  simp only [core, lockItem, List.getElem?_modify]
  cases sh.items[item]? with
  | none => rfl
  | some entry =>
    simp only [Option.map_eq_map, Option.map_some]
    split <;> rfl

@[simp] theorem core_setResult (stmt : Item) (res : Option Bool) (item : Item) :
    (sh.setResult stmt res).core item = sh.core item := by
  simp only [core, setResult, List.getElem?_modify]
  cases sh.items[item]? with
  | none => rfl
  | some entry =>
    simp only [Option.map_eq_map, Option.map_some]
    split <;> rfl

@[simp] theorem core_lockList (side : Side) (owner : Option Nat) (item : Item) :
    (sh.lockList side owner).core item = sh.core item := rfl

@[simp] theorem nodes_lockList (locked : Side) (owner : Option Nat) (side : Side) :
    (sh.lockList locked owner).nodes side = sh.nodes side := by
  by_cases same : side = locked
  · subst same
    simp [nodes, lockList]
  · simp [nodes, lockList, same]

def nextIndex (side : Side) : Nat :=
  ((sh.holders side).index + 1) % 2 ^ 64

theorem core_add (kind : Kind) (ptr : Bool) (item : Item) : (sh.add kind ptr).core item =
      if item = sh.items.length then some ⟨kind, sh.nextIndex kind.side, ptr⟩
      else sh.core item := by
  simp only [core, add, getElem?_append_singleton]
  by_cases last : item = sh.items.length
  · simp [last, Entry.core, nextIndex]
  · simp [last]

theorem core_length : sh.core sh.items.length = none := by
  simp [core]

theorem nodes_add (kind : Kind) (ptr : Bool) (side : Side) : (sh.add kind ptr).nodes side =
      if side = kind.side then sh.nodes side ++ [sh.items.length] else sh.nodes side := by
  by_cases same : side = kind.side
  · subst same
    simp [nodes, add]
  · simp [nodes, add, same]

@[simp] theorem core_remove (side : Side) (removed item : Item) :
    (sh.remove side removed).core item = sh.core item := rfl

theorem nodes_remove (removedSide : Side) (removed : Item) (side : Side) :
    (sh.remove removedSide removed).nodes side =
      if side = removedSide then (sh.nodes side).erase removed else sh.nodes side := by
  by_cases same : side = removedSide
  · subst same
    simp [nodes, remove]
  · simp [nodes, remove, same]

theorem core_free {freed : Item} {entry : Entry} (here : sh.items[freed]? = some entry)
    (item : Item) : (sh.free freed entry).core item =
      if item = freed then some { entry.core with pointer := false } else sh.core item := by
  have inside := lt_of_getElem? here
  rw [free]
  cases ptr : entry.pointer with
  | true =>
    simp only [if_true, core]
    by_cases same : item = freed
    · subst same
      simp [inside, Entry.core]
    · rw [List.getElem?_set_ne (Ne.symm same), if_neg same]
  | false =>
    simp only [Bool.false_eq_true, if_false, core_lockItem]
    split
    · rename_i same
      rw [same, core_of_here sh here, Entry.core, ptr]
    · rfl

@[simp] theorem nodes_free (freed : Item) (entry : Entry) (side : Side) :
    (sh.free freed entry).nodes side = sh.nodes side := by
  rw [free]
  split <;> rfl

theorem history_free (freed : Item) (entry : Entry) : (sh.free freed entry).history =
      sh.history ++ if entry.pointer then freeEvents freed entry.kind else [] := by
  rw [free]
  split <;> simp [lockItem]

end Shared

open Shared

def Event.marks : Event → Bool
  | .added _ _ _ | .released _ | .handlerPut _ | .freed _ => true
  | _ => false

def Recorded (sh : Shared) : Event → Prop
  | .added kind item id =>
    ∃ core, sh.core item = some core ∧ core.kind = kind ∧ core.index = id
  | .freed item => ∃ core, sh.core item = some core ∧ item ∉ sh.nodes core.kind.side
  | .released item =>
    ∃ core, sh.core item = some core ∧ core.kind.owned = true ∧ core.pointer = false
  | .handlerPut item =>
    ∃ core, sh.core item = some core ∧ core.kind = .stmt2 ∧ core.pointer = false
  | _ => True

structure Consistent (sh : Shared) : Prop where
  nodup : ∀ side, (sh.nodes side).Nodup
  listed : ∀ side, ∀ item ∈ sh.nodes side,
    ∃ core, sh.core item = some core ∧ core.kind.side = side
  unlisted : ∀ item core, sh.core item = some core → item ∉ sh.nodes core.kind.side →
    core.pointer = false
  recorded : ∀ event, event.marks = true → (event ∈ sh.history ↔ Recorded sh event)

variable {before after : Shared}

theorem recorded_congr (core : ∀ item, after.core item = before.core item)
    (nodes : ∀ side, after.nodes side = before.nodes side) (event : Event) :
    Recorded after event ↔ Recorded before event := by
  cases event <;> simp only [Recorded, core, nodes]

theorem Consistent.quiet (consistent : Consistent before)
    (core : ∀ item, after.core item = before.core item)
    (nodes : ∀ side, after.nodes side = before.nodes side)
    (history : ∀ event, event.marks = true → (event ∈ after.history ↔ event ∈ before.history)) :
    Consistent after := by
  refine ⟨?_, ?_, ?_, ?_⟩
  · intro side
    rw [nodes]
    exact consistent.nodup side
  · intro side item mem
    rw [nodes] at mem
    rw [core]
    exact consistent.listed side item mem
  · intro item known here unlisted
    rw [core] at here
    rw [nodes] at unlisted
    exact consistent.unlisted item known here unlisted
  · intro event marks
    rw [history event marks, recorded_congr core nodes]
    exact consistent.recorded event marks

variable {sh : Shared} {event : Event}

theorem mem_log_iff {other : Event} (marks : event.marks = true) (unmarked : other.marks = false) :
    event ∈ (sh.log other).history ↔ event ∈ sh.history := by
  have ne : event ≠ other := by
    rintro rfl
    rw [marks] at unmarked
    cases unmarked
  simp [ne]

theorem Consistent.fresh (consistent : Consistent sh) (side : Side) :
    sh.items.length ∉ sh.nodes side := by
  intro mem
  obtain ⟨core, here, _⟩ := consistent.listed _ _ mem
  rw [core_length] at here
  cases here

variable {item : Item} {core : Core}

theorem lt_of_core (here : sh.core item = some core) : item < sh.items.length := by
  obtain ⟨entry, found, _⟩ := Option.map_eq_some_iff.mp here
  exact lt_of_getElem? found

theorem ne_length_of_core (here : sh.core item = some core) : item ≠ sh.items.length :=
  (lt_of_core here).ne

theorem recorded_add (sh : Shared) (kind : Kind) (ptr : Bool)
    (points : kind.owned = true → ptr = true) (marks : event.marks = true) :
    Recorded (sh.add kind ptr) event ↔
      event = .added kind sh.items.length (sh.nextIndex kind.side) ∨ Recorded sh event := by
  have unpointed : kind = .stmt2 → ptr = true := by
    rintro rfl
    exact points rfl
  cases event with
  | added other item id =>
    simp only [Recorded, core_add, Event.added.injEq]
    split
    · rename_i last
      subst last
      simp only [Option.some.injEq, exists_eq_left', core_length, reduceCtorEq, false_and,
        exists_false, or_false, true_and]
      exact ⟨fun same => ⟨same.1.symm, same.2.symm⟩, fun same => ⟨same.1.symm, same.2.symm⟩⟩
    · rename_i ne
      simp [ne]
  | freed item =>
    simp only [Recorded, core_add, nodes_add, reduceCtorEq, false_or]
    split
    · rename_i last
      subst last
      simp [core_length]
    · rename_i ne
      refine exists_congr fun core => and_congr_right fun here => ?_
      split
      · simp [ne]
      · rfl
  | released item =>
    simp only [Recorded, core_add, reduceCtorEq, false_or]
    split
    · rename_i last
      subst last
      simp only [Option.some.injEq, exists_eq_left', core_length, reduceCtorEq, false_and,
        exists_false, iff_false, not_and]
      intro owned
      simp [points owned]
    · rfl
  | handlerPut item =>
    simp only [Recorded, core_add, reduceCtorEq, false_or]
    split
    · rename_i last
      subst last
      simp only [Option.some.injEq, exists_eq_left', core_length, reduceCtorEq, false_and,
        exists_false, iff_false, not_and]
      intro isStmt2
      simp [unpointed isStmt2]
    · rfl
  | _ => cases marks

theorem Consistent.add (consistent : Consistent sh) (kind : Kind) (ptr : Bool)
    (points : kind.owned = true → ptr = true) : Consistent (sh.add kind ptr) := by
  refine ⟨?_, ?_, ?_, ?_⟩
  · intro side
    rw [nodes_add]
    split
    · refine nodup_append.mpr ⟨consistent.nodup side, nodup_singleton _, ?_⟩
      intro item mem other single same
      rw [mem_singleton.mp single] at same
      exact consistent.fresh side (same ▸ mem)
    · exact consistent.nodup side
  · intro side item mem
    have old (listed : item ∈ sh.nodes side) :
        ∃ core, (sh.add kind ptr).core item = some core ∧ core.kind.side = side := by
      obtain ⟨core, here, sides⟩ := consistent.listed side item listed
      exact ⟨core, by rw [core_add, if_neg (ne_length_of_core here), here], sides⟩
    rw [nodes_add] at mem
    split at mem
    · rename_i own
      rcases mem_append.mp mem with listed | new
      · exact old listed
      · exact ⟨_, by rw [core_add, if_pos (mem_singleton.mp new)], own.symm⟩
    · exact old mem
  · intro item core here unlisted
    rw [core_add] at here
    rw [nodes_add] at unlisted
    split at here
    · rename_i last
      cases here
      simp [last] at unlisted
    · refine consistent.unlisted item core here fun mem => unlisted ?_
      split
      · exact mem_append_left _ mem
      · exact mem
  · intro event marks
    rw [recorded_add sh kind ptr points marks, ← consistent.recorded event marks]
    simp only [Shared.add, mem_append, mem_singleton, nextIndex]
    exact or_comm

theorem mem_freeEvents {kind : Kind} : event ∈ freeEvents item kind ↔
      (event = .released item ∧ kind.owned = true) ∨
        (event = .handlerPut item ∧ kind = .stmt2) := by
  cases kind <;> simp [freeEvents, Kind.owned]

variable {entry : Entry} {freed : Item}

theorem recorded_free (here : sh.items[freed]? = some entry) (ptr : entry.pointer = true)
    (marks : event.marks = true) : Recorded (sh.free freed entry) event ↔
      event ∈ freeEvents freed entry.kind ∨ Recorded sh event := by
  have known := core_of_here sh here
  rw [mem_freeEvents]
  cases event with
  | added kind item id =>
    simp only [Recorded, core_free sh here, reduceCtorEq, false_and, false_or]
    split
    · rename_i same
      subst same
      simp [known]
    · rfl
  | freed item =>
    simp only [Recorded, core_free sh here, nodes_free, reduceCtorEq, false_and, false_or]
    split
    · rename_i same
      subst same
      simp [known]
    · rfl
  | released item =>
    simp only [Recorded, core_free sh here, Event.released.injEq, reduceCtorEq, false_and, or_false]
    split
    · rename_i same
      subst same
      simp [known, Entry.core, ptr]
    · rename_i ne
      simp [ne]
  | handlerPut item =>
    simp only [Recorded, core_free sh here, Event.handlerPut.injEq, reduceCtorEq, false_and,
      false_or]
    split
    · rename_i same
      subst same
      simp [known, Entry.core, ptr]
    · rename_i ne
      simp [ne]
  | _ => cases marks

theorem free_quiet (here : sh.items[freed]? = some entry) (ptr : entry.pointer = false)
    (item : Item) : (sh.free freed entry).core item = sh.core item := by
  rw [core_free sh here]
  split
  · rename_i same
    rw [same, core_of_here sh here, Entry.core, ptr]
  · rfl

theorem Consistent.free (consistent : Consistent sh) (here : sh.items[freed]? = some entry) :
    Consistent (sh.free freed entry) := by
  have known := core_of_here sh here
  cases ptr : entry.pointer with
  | false =>
    refine consistent.quiet (free_quiet here ptr) (nodes_free sh freed entry) ?_
    intro event _
    simp [history_free, ptr]
  | true =>
    refine ⟨?_, ?_, ?_, ?_⟩
    · intro side
      rw [nodes_free]
      exact consistent.nodup side
    · intro side item mem
      rw [nodes_free] at mem
      obtain ⟨core, itemHere, sides⟩ := consistent.listed side item mem
      rw [core_free sh here]
      split
      · rename_i same
        rw [same, known] at itemHere
        cases itemHere
        exact ⟨_, rfl, sides⟩
      · exact ⟨core, itemHere, sides⟩
    · intro item core itemHere unlisted
      rw [core_free sh here] at itemHere
      rw [nodes_free] at unlisted
      split at itemHere
      · cases itemHere
        rfl
      · exact consistent.unlisted item core itemHere unlisted
    · intro event marks
      rw [recorded_free here ptr marks, ← consistent.recorded event marks, history_free,
        if_pos ptr, mem_append]
      exact or_comm

variable {removed : Item} {side : Side}

theorem recorded_remove (consistent : Consistent sh) (mem : removed ∈ sh.nodes side)
    (marks : event.marks = true) : Recorded ((sh.remove side removed).log (.freed removed)) event ↔
      event = .freed removed ∨ Recorded sh event := by
  cases event with
  | freed item =>
    obtain ⟨own, ownHere, ownSide⟩ := consistent.listed side removed mem
    simp only [Recorded, core_log, core_remove, nodes_log, nodes_remove, Event.freed.injEq]
    constructor
    · rintro ⟨core, here, unlisted⟩
      by_cases same : item = removed
      · exact .inl same
      · right
        refine ⟨core, here, fun listed => unlisted ?_⟩
        split
        · exact (mem_erase_of_ne same).mpr listed
        · exact listed
    · rintro (rfl | ⟨core, here, unlisted⟩)
      · refine ⟨own, ownHere, ?_⟩
        rw [if_pos ownSide, ownSide]
        exact (consistent.nodup side).not_mem_erase
      · refine ⟨core, here, fun listed => unlisted ?_⟩
        split at listed
        · exact mem_of_mem_erase listed
        · exact listed
  | _ => simp [Recorded]

theorem Consistent.remove (consistent : Consistent sh) (mem : removed ∈ sh.nodes side)
    (here : sh.core removed = some core) (ptr : core.pointer = false) :
    Consistent ((sh.remove side removed).log (.freed removed)) := by
  refine ⟨?_, ?_, ?_, ?_⟩
  · intro other
    rw [nodes_log, nodes_remove]
    split
    · exact (consistent.nodup other).erase _
    · exact consistent.nodup other
  · intro other item listed
    rw [nodes_log, nodes_remove] at listed
    rw [core_log, core_remove]
    split at listed
    · exact consistent.listed other item (mem_of_mem_erase listed)
    · exact consistent.listed other item listed
  · intro item known itemHere unlisted
    rw [core_log, core_remove] at itemHere
    rw [nodes_log, nodes_remove] at unlisted
    by_cases same : item = removed
    · rw [same, here] at itemHere
      cases itemHere
      exact ptr
    · refine consistent.unlisted item known itemHere fun listed => unlisted ?_
      split
      · exact (mem_erase_of_ne same).mpr listed
      · exact listed
  · intro event marks
    rw [recorded_remove consistent mem marks, ← consistent.recorded event marks, history_log]
    simp only [Shared.remove, mem_append, mem_singleton]
    exact or_comm

end TaosAdapter.Holders
