import TaosAdapter.Holders.Lists

/-!
Owns: the locks of the holders, and what a request knows while it has one. Every
reachable state is `Held`: whoever is inside a section has its lock, the lists,
the items and the history agree, and an item of a list that points to nothing is
about to be removed by the request that freed it.
-/

namespace TaosAdapter.Holders

open Lib List Snapshot
open Shared

inductive LockKey where
  | list (side : Side)
  | item (item : Item)
deriving DecidableEq

def Pc.locks : Pc → List LockKey
  | .check item _ | .work item _ | .register item _ => [.item item]
  | .search lookup => [.list lookup.side]
  | .walk side _ | .freeItem side _ _ | .remove side _ _ | .unlockList side => [.list side]
  | .freeing side item _ => [.list side, .item item]
  | _ => []

def Pc.holds (pc : Pc) (key : LockKey) : Bool :=
  pc.locks.contains key

def Shared.lockAt (sh : Shared) : LockKey → Option Nat
  | .list side => (sh.holders side).lock
  | .item item => (sh.items[item]?).bind Entry.lock

namespace Shared

variable (sh : Shared)

@[simp] theorem lockAt_log (event : Event) (key : LockKey) :
    (sh.log event).lockAt key = sh.lockAt key := by
  cases key <;> rfl

theorem lockAt_lockList (side : Side) (owner : Option Nat) (key : LockKey) :
    (sh.lockList side owner).lockAt key = if key = .list side then owner else sh.lockAt key := by
  cases key with
  | list other =>
    by_cases same : other = side
    · subst same
      simp [lockAt, lockList]
    · simp [lockAt, lockList, same]
  | item item => simp [lockAt, lockList]

variable {entry : Entry}

theorem lockAt_lockItem_eq (item : Item) (owner : Option Nat) (key : LockKey) :
    (sh.lockItem item owner).lockAt key =
      if key = .item item then (sh.items[item]?).bind fun _ => owner else sh.lockAt key := by
  cases key with
  | list side => simp [lockAt, lockItem]
  | item other =>
    simp only [lockAt, lockItem, List.getElem?_modify, LockKey.item.injEq]
    by_cases same : other = item
    · subst same
      cases sh.items[other]? <;> simp
    · cases sh.items[other]? <;> simp [same, Ne.symm same]

theorem lockAt_lockItem {item : Item} (here : sh.items[item]? = some entry) (owner : Option Nat)
    (key : LockKey) : (sh.lockItem item owner).lockAt key =
      if key = .item item then owner else sh.lockAt key := by
  rw [lockAt_lockItem_eq, here, Option.bind_some]

theorem lockAt_unlockItem (item : Item) (key : LockKey) : (sh.lockItem item none).lockAt key =
      if key = .item item then none else sh.lockAt key := by
  rw [lockAt_lockItem_eq, Option.bind_fun_none]

@[simp] theorem lockAt_setResult (item : Item) (res : Option Bool) (key : LockKey) :
    (sh.setResult item res).lockAt key = sh.lockAt key := by
  cases key with
  | list side => rfl
  | item other =>
    simp only [lockAt, setResult, List.getElem?_modify]
    cases sh.items[other]? with
    | none => rfl
    | some entry =>
      simp only [Option.map_eq_map, Option.map_some, Option.bind_some]
      split <;> rfl

@[simp] theorem lockAt_add (kind : Kind) (ptr : Bool) (key : LockKey) :
    (sh.add kind ptr).lockAt key = sh.lockAt key := by
  cases key with
  | list side =>
    by_cases same : side = kind.side
    · subst same
      simp [lockAt, add]
    · simp [lockAt, add, same]
  | item item =>
    simp only [lockAt, add, getElem?_append_singleton]
    by_cases last : item = sh.items.length <;> simp [last]

@[simp] theorem lockAt_remove (side : Side) (item : Item) (key : LockKey) :
    (sh.remove side item).lockAt key = sh.lockAt key := by
  cases key with
  | list other =>
    by_cases same : other = side
    · subst same
      simp [lockAt, remove]
    · simp [lockAt, remove, same]
  | item other => rfl

theorem lockAt_free {freed : Item} (here : sh.items[freed]? = some entry) (key : LockKey) :
    (sh.free freed entry).lockAt key = if key = .item freed then none else sh.lockAt key := by
  have inside := lt_of_getElem? here
  rw [free]
  split
  · cases key with
    | list side => simp [lockAt]
    | item item =>
      by_cases same : item = freed
      · subst same
        simp [lockAt, inside]
      · simp [lockAt, same, List.getElem?_set_ne (Ne.symm same)]
  · exact lockAt_unlockItem sh freed key

end Shared

section

variable {sh : Shared} {t : Nat} {pc : Pc} {move : Move Shared Pc}

theorem Advanced.spawned (advanced : Advanced sh t pc move) (new : Pc)
    (mem : new ∈ move.spawned) : ∃ req : Request, new = req.start := by
  cases advanced with
  | requested req => exact ⟨req, mem_singleton.mp mem⟩
  | _ => exact absurd mem not_mem_nil

theorem locks_start (req : Request) : req.start.locks = [] := by
  cases req <;> rfl

variable (key : LockKey)

theorem respects_take {taken : LockKey}
    (lock : ∀ key, move.shared.lockAt key = if key = taken then some t else sh.lockAt key)
    (free : sh.lockAt taken = none)
    (locks : move.thread.locks = taken :: pc.locks ∨ move.thread.locks = pc.locks ++ [taken]) :
    Respects Pc.holds lockAt t pc sh move key := by
  by_cases same : key = taken
  · subst same
    exact .take free (by rw [lock, if_pos rfl])
  · refine .keep (by rw [lock, if_neg same]) fun inside => ?_
    rcases locks with front | back
    · simpa [Pc.holds, front, same] using inside
    · simpa [Pc.holds, back, same] using inside

theorem respects_leave {left : LockKey}
    (lock : ∀ key, move.shared.lockAt key = if key = left then none else sh.lockAt key)
    (inside : left ∈ pc.locks) (outside : left ∉ move.thread.locks)
    (fewer : ∀ key ∈ move.thread.locks, key ∈ pc.locks) :
    Respects Pc.holds lockAt t pc sh move key := by
  by_cases same : key = left
  · subst same
    exact .leave (by simpa [Pc.holds] using inside) (by rw [lock, if_pos rfl])
      (by simpa [Pc.holds] using outside)
  · refine .keep (by rw [lock, if_neg same]) fun held => ?_
    simpa [Pc.holds] using fewer key (by simpa [Pc.holds] using held)

theorem respects_keep (lock : move.shared.lockAt key = sh.lockAt key)
    (fewer : ∀ key ∈ move.thread.locks, key ∈ pc.locks) :
    Respects Pc.holds lockAt t pc sh move key := by
  refine .keep lock fun held => ?_
  simpa [Pc.holds] using fewer key (by simpa [Pc.holds] using held)

theorem Advanced.respects (advanced : Advanced sh t pc move) (key : LockKey) :
    Respects Pc.holds lockAt t pc sh move key := by
  cases advanced with
  | itemLocked item task entry here free =>
    refine respects_take key (lockAt_lockItem sh here (some t)) ?_ (.inl rfl)
    simp [lockAt, here, free]
  | freeLocked side item after entry here free =>
    refine respects_take key (lockAt_lockItem sh here (some t)) ?_ (.inr rfl)
    simp [lockAt, here, free]
  | searching lookup free =>
    exact respects_take key (lockAt_lockList sh lookup.side (some t)) free (.inl rfl)
  | walking side free =>
    exact respects_take key (lockAt_lockList sh side (some t)) free (.inl rfl)
  | refused item | left item | completed item | fetchFailed item =>
    exact respects_leave key (lockAt_unlockItem sh item) (by simp [Pc.locks])
      (by simp [Pc.locks]) (by simp [Pc.locks])
  | freed side item after entry here =>
    exact respects_leave key (lockAt_free sh here) (by simp [Pc.locks])
      (by simp [Pc.locks]) (by simp [Pc.locks])
  | unlocked side =>
    exact respects_leave key (lockAt_lockList sh side none) (by simp [Pc.locks])
      (by simp [Pc.locks]) (by simp [Pc.locks])
  | _ => exact respects_keep key (by simp) (by simp [Pc.locks])

end

def Shared.Matches (sh : Shared) (lookup : Lookup) (item : Item) : Prop :=
  ∃ core, sh.core item = some core ∧ core.index = lookup.id ∧ lookup.accepts core.kind = true

theorem get_some {sh : Shared} {lookup : Lookup} {item : Item} (found : sh.get lookup = some item) :
    item ∈ sh.nodes lookup.side ∧ sh.Matches lookup item := by
  obtain ⟨search, accepted⟩ := Option.filter_eq_some_iff.mp found
  have mem := List.mem_of_find?_eq_some search
  have named := List.find?_some search
  cases here : sh.items[item]? with
  | none => simp [here] at named
  | some entry =>
    rw [here] at named accepted
    exact ⟨mem, entry.core, core_of_here sh here, by simpa using named, by simpa using accepted⟩

def Leads (sh : Shared) (side : Side) (item : Item) : After → Prop
  | .byID lookup => lookup.side = side ∧ sh.Matches lookup item
  | .walk node => (sh.nodes side).head? = some item ∧ (sh.nodes side).tail.head? = node

def Knows (sh : Shared) : Pc → Prop
  | .add kind => kind.owned = true
  | .work item _ | .register item _ => ∃ core, sh.core item = some core ∧ core.pointer = true
  | .walk side node => (sh.nodes side).head? = node
  | .freeItem side item after | .freeing side item after =>
    item ∈ sh.nodes side ∧ Leads sh side item after
  | .remove side item after =>
    item ∈ sh.nodes side ∧ Leads sh side item after ∧
      ∃ core, sh.core item = some core ∧ core.pointer = false
  | _ => True

structure Held (s : State) : Prop where
  exclusive : Exclusive Pc.holds lockAt s
  consistent : Consistent s.shared
  knows : ∀ (t : Nat) pc, s.threads[t]? = some pc → Knows s.shared pc
  removing : ∀ side item core, item ∈ s.shared.nodes side → s.shared.core item = some core →
    core.kind.owned = true → core.pointer = false →
      ∃ (t : Nat) (after : After), s.threads[t]? = some (.remove side item after)

section

variable {s : State} {t : Nat} {pc : Pc} {move : Move Shared Pc}

section

variable {sh : Shared} (advanced : Advanced sh t pc move)

include advanced

variable {item : Item}

theorem Advanced.core_eq {core : Core} (here : sh.core item = some core) :
    move.shared.core item = some core ∨ (∃ side after, pc = .freeing side item after) ∧
        move.shared.core item = some { core with pointer := false } := by
  have ne := ne_length_of_core here
  cases advanced with
  | added | registered => exact .inl (by rw [core_add, if_neg ne, here])
  | freed side freed after entry found =>
    rw [core_free sh found]
    split
    · rename_i same
      subst same
      rw [core_of_here sh found] at here
      cases here
      exact .inr ⟨⟨side, after, rfl⟩, rfl⟩
    · exact .inl here
  | _ => exact .inl (by simpa using here)

theorem Advanced.nodes_eq (side : Side) :
    move.shared.nodes side = sh.nodes side ∨ sh.lockAt (.list side) = none ∨
      .list side ∈ pc.locks := by
  cases advanced with
  | added _ free | registered _ _ free =>
    rw [nodes_add]
    split
    · rename_i same
      exact .inr (.inl (same ▸ free))
    · exact .inl rfl
  | removed | removedNext =>
    simp only [nodes_log, nodes_remove]
    split
    · rename_i same
      exact .inr (.inr (by simp [Pc.locks, same]))
    · exact .inl rfl
  | _ => exact .inl (by simp)

theorem Shared.Matches.step {lookup : Lookup} (matched : sh.Matches lookup item) :
    move.shared.Matches lookup item := by
  obtain ⟨core, here, named, accepted⟩ := matched
  rcases advanced.core_eq here with same | ⟨_, freed⟩
  · exact ⟨core, same, named, accepted⟩
  · exact ⟨_, freed, named, accepted⟩

theorem Leads.step {side : Side} {after : After} (nodes : move.shared.nodes side = sh.nodes side)
    (leads : Leads sh side item after) : Leads move.shared side item after := by
  cases after with
  | byID lookup => exact ⟨leads.1, Shared.Matches.step advanced leads.2⟩
  | walk next => simpa only [Leads, nodes] using leads

end

section

variable (held : Held s) (found : s.threads[t]? = some pc) (advanced : Advanced s.shared t pc move)

include held found advanced

theorem Held.others {u : Nat} {other : Pc} (ne : u ≠ t) (here : s.threads[u]? = some other) :
    Knows move.shared other := by
  have knows := held.knows u other here
  -- The list is locked by the other request, so this step leaves it alone.
  have nodes (side : Side) (locked : .list side ∈ other.locks) :
      move.shared.nodes side = s.shared.nodes side := by
    have owner := held.exclusive u other (.list side) here (by simpa [Pc.holds] using locked)
    rcases advanced.nodes_eq side with same | free | own
    · exact same
    · rw [free] at owner
      cases owner
    · have clash := held.exclusive t pc (.list side) found (by simpa [Pc.holds] using own)
      rw [owner] at clash
      exact absurd (Option.some.inj clash) ne
  -- The item is locked by the other request, so this step does not free it.
  have ptr {item : Item} (locked : .item item ∈ other.locks)
      (points : ∃ core, s.shared.core item = some core ∧ core.pointer = true) :
      ∃ core, move.shared.core item = some core ∧ core.pointer = true := by
    obtain ⟨core, coreHere, points⟩ := points
    rcases advanced.core_eq coreHere with same | ⟨⟨side, after, rfl⟩, _⟩
    · exact ⟨core, same, points⟩
    · have owner := held.exclusive u other (.item item) here (by simpa [Pc.holds] using locked)
      have clash := held.exclusive t _ (.item item) found (by simp [Pc.holds, Pc.locks])
      rw [owner] at clash
      exact absurd (Option.some.inj clash) ne
  cases other with
  | work | register => exact ptr (by simp [Pc.locks]) knows
  | walk side node => exact (congrArg List.head? (nodes side (by simp [Pc.locks]))).trans knows
  | freeItem side | freeing side =>
    have same := nodes side (by simp [Pc.locks])
    exact ⟨same ▸ knows.1, knows.2.step advanced same⟩
  | remove side item after =>
    have same := nodes side (by simp [Pc.locks])
    obtain ⟨core, coreHere, freed⟩ := knows.2.2
    refine ⟨same ▸ knows.1, knows.2.1.step advanced same, ?_⟩
    rcases advanced.core_eq coreHere with kept | ⟨_, again⟩
    · exact ⟨core, kept, freed⟩
    · exact ⟨_, again, rfl⟩
  | _ => trivial

theorem Held.own : Knows move.shared move.thread := by
  have knows := held.knows t pc found
  have kept {item : Item} (points : ∃ core, s.shared.core item = some core ∧ core.pointer = true)
      (notFreeing : ∀ side after, pc ≠ .freeing side item after) :
      ∃ core, move.shared.core item = some core ∧ core.pointer = true := by
    obtain ⟨core, here, ptr⟩ := points
    rcases advanced.core_eq here with same | ⟨⟨side, after, isFreeing⟩, _⟩
    · exact ⟨core, same, ptr⟩
    · exact absurd isFreeing (notFreeing side after)
  cases advanced with
  | checked item task entry here ptr => exact ⟨_, core_of_here _ here, ptr⟩
  | used | executed | registered => exact kept knows (by simp)
  | registering | unavailable => exact knows
  | walking side free => exact congrArg List.head? (nodes_lockList s.shared side (some t) side)
  | searched lookup item hit =>
    obtain ⟨mem, matched⟩ := get_some hit
    exact ⟨mem, rfl, matched⟩
  | walked side item =>
    have first : (s.shared.nodes side).head? = some item := knows
    refine ⟨mem_of_mem_head? first, first, ?_⟩
    obtain ⟨rest, nodes⟩ : ∃ rest, s.shared.nodes side = item :: rest := by
      cases nodes : s.shared.nodes side with
      | nil => simp [nodes] at first
      | cons head rest =>
        rw [nodes] at first
        exact ⟨rest, by rw [Option.some.inj first]⟩
    simp [Shared.next, nodes]
  | freeLocked side item after entry here free =>
    exact ⟨knows.1, knows.2.step (.freeLocked side item after entry here free) rfl⟩
  | freed side item after entry here =>
    have advanced := Advanced.freed (t := t) side item after entry here
    have same := nodes_free s.shared item entry side
    refine ⟨same ▸ knows.1, knows.2.step advanced same, ?_⟩
    exact ⟨_, by rw [core_free s.shared here, if_pos rfl], rfl⟩
  | removedNext side item next =>
    obtain ⟨mem, ⟨first, second⟩, _⟩ := knows
    cases nodes : s.shared.nodes side with
    | nil => simp [nodes] at first
    | cons head rest =>
      rw [nodes] at first second
      obtain rfl : head = item := Option.some.inj first
      show (((s.shared.remove side head).log (.freed head)).nodes side).head? = next
      rw [nodes_log, nodes_remove, if_pos rfl, nodes, erase_cons_head]
      exact second
  | _ => trivial

theorem Held.consistent_step : Consistent move.shared := by
  have knows := held.knows t pc found
  have consistent := held.consistent
  cases advanced with
  | added kind free => exact consistent.add kind true fun _ => rfl
  | registered stmt ptr free =>
    exact consistent.add (.stmtResult stmt) ptr fun owned => by cases owned
  | freed side item after entry here => exact consistent.free here
  | removed side item lookup =>
    obtain ⟨mem, _, core, here, freed⟩ := knows
    exact (consistent.remove mem here freed).quiet (fun _ => rfl) (fun _ => rfl)
      fun _ marks => mem_log_iff marks rfl
  | removedNext side item next =>
    obtain ⟨mem, _, core, here, freed⟩ := knows
    exact consistent.remove mem here freed
  | found | missing | used | errorRead | notFound | walkedAll =>
    exact consistent.quiet (fun _ => rfl) (fun _ => rfl) fun _ marks => mem_log_iff marks rfl
  | executed item res =>
    exact consistent.quiet (by simp) (fun _ => rfl) fun _ marks => mem_log_iff marks rfl
  | _ => exact consistent.quiet (by simp) (by simp) fun _ _ => .rfl

end

variable {core : Core} {item : Item} {side : Side} {sh : Shared}

theorem Advanced.mem_nodes (advanced : Advanced sh t pc move) (here : sh.core item = some core)
    (mem : item ∈ move.shared.nodes side) : item ∈ sh.nodes side := by
  have old (last : item ∈ sh.nodes side ++ [sh.items.length]) :
      item ∈ sh.nodes side := by
    simpa [ne_length_of_core here] using last
  cases advanced with
  | added kind free | registered stmt ptr free =>
    rw [nodes_add] at mem
    split at mem
    · exact old mem
    · exact mem
  | removed removedSide removed lookup | removedNext removedSide removed next =>
    simp only [nodes_log, nodes_remove] at mem
    split at mem
    · exact mem_of_mem_erase mem
    · exact mem
  | _ => simpa using mem

theorem Advanced.core_new (advanced : Advanced sh t pc move) (missing : sh.core item = none)
    (here : move.shared.core item = some core) : core.pointer = true ∨ core.kind.owned = false := by
  cases advanced with
  | added kind free =>
    rw [core_add] at here
    split at here
    · cases here
      exact .inl rfl
    · rw [missing] at here
      cases here
  | registered stmt ptr free =>
    rw [core_add] at here
    split at here
    · cases here
      exact .inr rfl
    · rw [missing] at here
      cases here
  | freed side freed after entry found =>
    rw [core_free sh found] at here
    split at here
    · rename_i same
      rw [same, core_of_here sh found] at missing
      cases missing
    · rw [missing] at here
      cases here
  | _ =>
    simp only [core_log, core_lockItem, core_setResult, core_lockList, core_remove] at here
    rw [missing] at here
    cases here

theorem Held.removing_step (held : Held s) (found : s.threads[t]? = some pc)
    (advanced : Advanced s.shared t pc move) (mem : item ∈ move.shared.nodes side)
    (here : move.shared.core item = some core) (owned : core.kind.owned = true)
    (freed : core.pointer = false) : ∃ (u : Nat) (after : After),
      (s.apply t move).threads[u]? = some (.remove side item after) := by
  cases before : s.shared.core item with
  | none =>
    rcases advanced.core_new before here with points | unowned
    · rw [freed] at points
      cases points
    · rw [owned] at unowned
      cases unowned
  | some old =>
    have wasMember := advanced.mem_nodes before mem
    rcases advanced.core_eq before with same | ⟨⟨freeSide, after, rfl⟩, _⟩
    · -- It was freed before, and the request that freed it is still to remove it.
      rw [here] at same
      cases same
      obtain ⟨u, after, remover⟩ := held.removing side item core wasMember before owned freed
      by_cases mine : u = t
      · subst mine
        rw [found] at remover
        cases remover
        have gone := (held.consistent.nodup side).not_mem_erase (a := item)
        cases advanced with
        | removed _ _ lookup =>
          rw [nodes_log, nodes_log, nodes_remove, if_pos rfl] at mem
          exact absurd mem gone
        | removedNext _ _ next =>
          rw [nodes_log, nodes_remove, if_pos rfl] at mem
          exact absurd mem gone
      · exact ⟨u, after, apply_other move mine remover⟩
    · -- This step frees it.
      have sameSide : freeSide = side := by
        obtain ⟨first, firstHere, firstSide⟩ :=
          held.consistent.listed freeSide item (held.knows t _ found).1
        obtain ⟨second, secondHere, secondSide⟩ := held.consistent.listed side item wasMember
        rw [firstHere] at secondHere
        cases secondHere
        exact firstSide.symm.trans secondSide
      subst sameSide
      cases advanced with
      | freed _ _ _ entry _ => exact ⟨t, after, apply_self _ found⟩

theorem knows_start (sh : Shared) (req : Request) : Knows sh req.start := by
  cases req with
  | query => rfl
  | stmtInit isStmt2 => cases isStmt2 <;> rfl
  | _ => trivial

/-- A freed entry that is still in its list has a request about to take it out. -/
theorem Held.step (held : Held s) (found : s.threads[t]? = some pc)
    (advanced : Advanced s.shared t pc move) : Held (s.apply t move) where
  exclusive := by
    refine held.exclusive.apply found advanced.respects fun new mem key => ?_
    obtain ⟨req, rfl⟩ := advanced.spawned new mem
    simp [Pc.holds, locks_start]
  consistent := held.consistent_step found advanced
  knows := by
    intro u other here
    rcases apply_inv here with ⟨ne, before⟩ | ⟨rfl, rfl⟩ | ⟨_, mem⟩
    · exact held.others found advanced ne before
    · exact held.own found advanced
    · obtain ⟨req, rfl⟩ := advanced.spawned other mem
      exact knows_start move.shared req
  removing := fun _ _ _ => held.removing_step found advanced

end

theorem held_opened : Held opened where
  exclusive := by
    intro t pc key found holds
    have mem := mem_of_getElem? found
    simp only [opened, mem_singleton] at mem
    subst mem
    cases holds
  consistent := by
    refine ⟨fun side => by simp [nodes, opened], fun side => by simp [nodes, opened],
      fun item => by simp [core, opened], fun event marks => ?_⟩
    cases event <;> simp_all [Event.marks, Recorded, opened, core]
  knows := by
    intro t pc found
    have mem := mem_of_getElem? found
    simp only [opened, mem_singleton] at mem
    subst mem
    trivial
  removing := fun side item core mem => by simp [nodes, opened] at mem

end TaosAdapter.Holders
