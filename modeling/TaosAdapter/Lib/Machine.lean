import TaosAdapter.Lib.Transition
import TaosAdapter.Lib.Tally

/-!
Owns: systems of threads over a shared record. A machine says what one thread
does next, given what it sees; a step replaces that thread, replaces the shared
record and may append new threads. The frame lemmas say what a step leaves
alone, `Exclusive` is mutual exclusion for any family of locks, and `Live` is
the absence of wait cycles.
-/

namespace TaosAdapter.Lib

open List

/-- The shared record and the threads. -/
structure Snapshot (Shared Thread : Type) where
  shared : Shared
  threads : List Thread
deriving DecidableEq

/-- What one step of one thread produces. -/
structure Move (Shared Thread : Type) where
  shared : Shared
  thread : Thread
  spawned : List Thread := []

/-- Initial snapshots, and the next move of a thread under a scheduler choice. -/
structure Machine (Shared Thread Choice : Type) where
  initial : Snapshot Shared Thread → Prop
  advance : Snapshot Shared Thread → Nat → Thread → Choice → Option (Move Shared Thread)

variable {Shared Thread Choice : Type}

namespace Snapshot

/-- Thread `t` makes a move. -/
def apply (s : Snapshot Shared Thread) (t : Nat) (move : Move Shared Thread) :
    Snapshot Shared Thread where
  shared := move.shared
  threads := s.threads.set t move.thread ++ move.spawned

variable {s : Snapshot Shared Thread} {t : Nat} {old : Thread} (move : Move Shared Thread)

@[simp] theorem apply_shared : (s.apply t move).shared = move.shared :=
  rfl

theorem tally_apply (weight : Thread → Nat) (found : s.threads[t]? = some old)
    (move : Move Shared Thread) : tally weight (s.apply t move).threads + weight old =
      tally weight s.threads + weight move.thread + tally weight move.spawned := by
  have moved := tally_set weight found move.thread
  simp only [apply, tally_append]
  omega

/-- A step leaves the other threads where they are. -/
theorem apply_other {u : Nat} {other : Thread} (ne : u ≠ t)
    (found : s.threads[u]? = some other) : (s.apply t move).threads[u]? = some other := by
  have inside := lt_of_getElem? found
  have insideSet : u < (s.threads.set t move.thread).length := by simpa using inside
  simp only [apply]
  rw [List.getElem?_append_left insideSet, List.getElem?_set_ne ne.symm]
  exact found

theorem apply_self (found : s.threads[t]? = some old) :
    (s.apply t move).threads[t]? = some move.thread := by
  have inside := lt_of_getElem? found
  have insideSet : t < (s.threads.set t move.thread).length := by simpa using inside
  simp only [apply]
  rw [List.getElem?_append_left insideSet, List.getElem?_set_self inside]

variable {move : Move Shared Thread} {th : Thread}

/-- The threads after a step: the others, the one that moved, the new ones. -/
theorem apply_inv {u : Nat} (found : (s.apply t move).threads[u]? = some th) :
    (u ≠ t ∧ s.threads[u]? = some th) ∨ (u = t ∧ th = move.thread) ∨
      (s.threads.length ≤ u ∧ th ∈ move.spawned) := by
  simp only [apply] at found
  rw [List.getElem?_append] at found
  split at found
  · rw [List.getElem?_set] at found
    split at found
    · rename_i same
      split at found
      · exact .inr (.inl ⟨same.symm, (Option.some.inj found).symm⟩)
      · cases found
    · rename_i ne
      exact .inl ⟨Ne.symm ne, found⟩
  · rename_i beyond
    exact .inr (.inr ⟨by simpa using beyond, mem_of_getElem? found⟩)

theorem mem_apply (mem : th ∈ (s.apply t move).threads) :
    th ∈ s.threads ∨ th = move.thread ∨ th ∈ move.spawned := by
  rcases mem_append.mp mem with old | new
  · rcases mem_or_eq_of_mem_set old with same | moved
    · exact .inl same
    · exact .inr (.inl moved)
  · exact .inr (.inr new)

/-- A property of every thread, indexed by its name, is kept by a step that
keeps it for the others and gives it to the moved and the new threads. -/
theorem forall_apply {Before After : Nat → Thread → Prop}
    (before : ∀ u th, s.threads[u]? = some th → Before u th)
    (others : ∀ u th, u ≠ t → Before u th → After u th) (own : After t move.thread)
    (fresh : ∀ u th, s.threads.length ≤ u → th ∈ move.spawned → After u th) :
    ∀ u th, (s.apply t move).threads[u]? = some th → After u th := by
  intro u th found
  rcases apply_inv found with ⟨ne, same⟩ | ⟨rfl, rfl⟩ | ⟨beyond, mem⟩
  · exact others u th ne (before u th same)
  · exact own
  · exact fresh u th beyond mem

/-- The same snapshot with something else known of its threads. -/
def map {Other : Type} (view : Thread → Other) (s : Snapshot Shared Thread) :
    Snapshot Shared Other where
  shared := s.shared
  threads := s.threads.map view

theorem map_apply {Other : Type} (view : Thread → Other) (move : Move Shared Thread) :
    (s.apply t move).map view =
      (s.map view).apply t ⟨move.shared, view move.thread, move.spawned.map view⟩ := by
  simp [map, apply, map_set]

end Snapshot

namespace Machine

variable (machine : Machine Shared Thread Choice)

/-- The transition system of a machine: the label names the thread that moves
and the scheduler's choice. -/
def system : System (Snapshot Shared Thread) (Nat × Choice) where
  initial := machine.initial
  next s label :=
    match s.threads[label.1]? with
    | some thread => (machine.advance s label.1 thread label.2).map (s.apply label.1)
    | none => none

variable {machine} {s : Snapshot Shared Thread}

/-- The inversion of a step. -/
theorem next_inv {s' : Snapshot Shared Thread} {label : Nat × Choice}
    (stepped : machine.system.next s label = some s') : ∃ th move, s.threads[label.1]? = some th ∧
      machine.advance s label.1 th label.2 = some move ∧ s' = s.apply label.1 move := by
  simp only [system] at stepped
  split at stepped
  · rename_i th found
    obtain ⟨move, advanced, rfl⟩ := Option.map_eq_some_iff.mp stepped
    exact ⟨th, move, found, advanced, rfl⟩
  · cases stepped

variable (machine) in
theorem next_of_advance {t : Nat} {th : Thread} (choice : Choice) (move : Move Shared Thread)
    (found : s.threads[t]? = some th) (advanced : machine.advance s t th choice = some move) :
    machine.system.next s (t, choice) = some (s.apply t move) := by
  simp [system, found, advanced]

end Machine

section

variable {Key : Type} (holds : Thread → Key → Bool) (lock : Shared → Key → Option Nat)

/-- Whoever is inside a critical section holds its lock. -/
def Exclusive (s : Snapshot Shared Thread) : Prop :=
  ∀ t thread key, s.threads[t]? = some thread → holds thread key = true →
    lock s.shared key = some t

/-- A move of thread `t` respects one lock: it leaves the lock alone and enters
no section, takes the free lock, or leaves its section and frees the lock. -/
inductive Respects (t : Nat) (old : Thread) (before : Shared) (move : Move Shared Thread)
    (key : Key) : Prop where
  | keep (lock : lock move.shared key = lock before key)
      (inside : holds move.thread key = true → holds old key = true)
  | take (free : lock before key = none) (taken : lock move.shared key = some t)
  | leave (inside : holds old key = true) (freed : lock move.shared key = none)
      (outside : holds move.thread key = false)

variable {holds lock} {s : Snapshot Shared Thread} {move : Move Shared Thread} {old : Thread}

theorem Exclusive.apply (exclusive : Exclusive holds lock s) {t : Nat}
    (found : s.threads[t]? = some old)
    (respects : ∀ key, Respects holds lock t old s.shared move key)
    (fresh : ∀ th ∈ move.spawned, ∀ key, holds th key = false) :
    Exclusive holds lock (s.apply t move) := by
  intro u th key threadFound inside
  rcases Snapshot.apply_inv threadFound with ⟨ne, same⟩ | ⟨rfl, rfl⟩ | ⟨_, mem⟩
  · have before := exclusive u th key same inside
    cases respects key with
    | keep lockSame _ => exact lockSame.trans before
    | take free _ => rw [free] at before; cases before
    | leave ownInside _ _ =>
      have own := exclusive t old key found ownInside
      rw [before] at own
      exact absurd (Option.some.inj own) ne
  · cases respects key with
    | keep lockSame insideBefore =>
      exact lockSame.trans (exclusive u old key found (insideBefore inside))
    | take _ taken => exact taken
    | leave _ _ outside => rw [outside] at inside; cases inside
  · rw [fresh th mem key] at inside
    cases inside

variable (holds lock)

/-- A lock that is taken is held by a thread inside its critical section. -/
def Guarded (s : Snapshot Shared Thread) : Prop :=
  ∀ key t, lock s.shared key = some t →
    ∃ thread, s.threads[t]? = some thread ∧ holds thread key = true

variable {holds lock}

theorem Guarded.apply (guarded : Guarded holds lock s) {t : Nat} (found : s.threads[t]? = some old)
    (keeps : ∀ key u, lock move.shared key = some u →
      (lock s.shared key = some u ∧ (holds old key = true → holds move.thread key = true)) ∨
        (u = t ∧ holds move.thread key = true)) : Guarded holds lock (s.apply t move) := by
  intro key u locked
  rcases keeps key u locked with ⟨before, stays⟩ | ⟨rfl, inside⟩
  · obtain ⟨th, here, held⟩ := guarded key u before
    by_cases own : u = t
    · subst own
      rw [found] at here
      cases here
      exact ⟨move.thread, Snapshot.apply_self move found, stays held⟩
    · exact ⟨th, Snapshot.apply_other move own here, held⟩
  · exact ⟨move.thread, Snapshot.apply_self move found, inside⟩

end

section

variable (machine : Machine Shared Thread Choice)
  (waits : Snapshot Shared Thread → Nat → Nat → Prop)

/-- The thread can move, or waits for a thread that is live in turn: its chain
of waits ends, and it ends at a thread that can move. -/
inductive Live (s : Snapshot Shared Thread) : Nat → Prop where
  | moves {t choice after} (stepped : machine.system.next s (t, choice) = some after) : Live s t
  | waiting {t u} (waited : waits s t u) (live : Live s u) : Live s t

variable {machine waits}

/-- Threads that cannot move and wait only for each other are not live. -/
theorem not_live_of_closed {s : Snapshot Shared Thread} (stuck : Nat → Prop)
    (still : ∀ t choice, stuck t → machine.system.next s (t, choice) = none)
    (closed : ∀ t u, stuck t → waits s t u → stuck u) {t : Nat} (mem : stuck t) :
    ¬ Live machine waits s t := by
  intro live
  induction live with
  | moves stepped =>
    rw [still _ _ mem] at stepped
    cases stepped
  | waiting waited _ ih => exact ih (closed _ _ mem waited)

end

end TaosAdapter.Lib
