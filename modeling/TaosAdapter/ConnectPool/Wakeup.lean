import TaosAdapter.ConnectPool.Counter

/-!
Owns: lost wakeups. A queued caller of an unreleased pool has nothing to wait
for but a connection in use, as long as two schedules do not occur: a caller
that found no idle connection queues itself after a `Put` made one idle, and
`Close` frees capacity while callers are queued.
-/

namespace TaosAdapter.ConnectPool

open Lib

def Pc.counting : Pc → Bool
  | .closeCount _ _ => true
  | _ => false

/-- The schedules without a lost wakeup: a caller that finds the pool exhausted
queues itself only while no connection is idle, and `Close` takes a connection
off the counter of an unreleased pool only while nobody is queued. -/
def KeepsWakeups (s : State) : Label → Prop
  | .run t _ => ∀ thread ∈ s.threads[t]?,
      (thread.pc = .enroll → s.maxActive ≤ s.openingConns → s.conns = []) ∧
      (thread.pc.counting = true → s.released = false → s.connReqs = [])
  | _ => True

instance (s : State) : (label : Label) → Decidable (KeepsWakeups s label)
  | .run _ _ => by
    dsimp only [KeepsWakeups]
    infer_instance
  | .get | .put _ | .close _ | .release => isTrue trivial

def NoneOverlooked (s : State) : Prop :=
  s.released = false → s.connReqs ≠ [] → s.conns = [] ∧ s.maxActive ≤ s.openingConns

variable {s s' : State}

theorem NoneOverlooked.ofSame (before : NoneOverlooked s)
    (queue : s'.connReqs ≠ [] → s.connReqs ≠ []) (released : s'.released = s.released := by rfl)
    (conns : s'.conns = s.conns := by rfl) (maxActive : s'.maxActive = s.maxActive := by rfl)
    (opening : s'.openingConns = s.openingConns := by rfl) : NoneOverlooked s' := by
  intro unreleased waiting
  rw [conns, maxActive, opening]
  exact before (released ▸ unreleased) (queue waiting)

theorem NoneOverlooked.ofEmpty (queue : s.released = false → s.connReqs = []) : NoneOverlooked s :=
  fun unreleased waiting => absurd (queue unreleased) waiting

/-- Whoever is queued had nothing to take, and what becomes free goes to the queue. -/
theorem NoneOverlooked.step {label : Label} (before : NoneOverlooked s) (control : Control s)
    (met : KeepsWakeups s label) (stepped : Stepped s label s') : NoneOverlooked s' := by
  cases stepped with
  | receiveIdle _ _ _ conns =>
    refine .ofEmpty fun unreleased => ?_
    by_contra waiting
    have idle := (before unreleased waiting).1
    rw [conns] at idle
    cases idle
  | enqueue found _ _ exhausted _ =>
    exact fun _ _ => ⟨(met _ found).1 rfl exhausted, exhausted⟩
  | create _ _ unreleased capacity =>
    refine .ofEmpty fun _ => ?_
    by_contra waiting
    have full := (before unreleased waiting).2
    omega
  | dequeue =>
    refine before.ofSame fun waiting empty => waiting ?_
    simp [State.finish, State.move, State.setThread, empty]
  | handOff _ _ _ _ _ _ queue =>
    exact before.ofSame fun _ => by simp [queue]
  | putIdle _ _ _ _ queue => exact .ofEmpty fun _ => queue
  | closeCount _ _ found => exact .ofEmpty ((met _ found).2 rfl)
  | closeSkip _ after | closeDone _ after => cases after <;> exact before.ofSame id
  | release => exact .ofEmpty fun _ => rfl
  | drainPanic _ _ found | drainOne _ _ found =>
    intro unreleased
    cases unreleased.symm.trans ((control.thread _ _ found).drained rfl)
  | _ => exact before.ofSame id

structure Attentive (s : State) : Prop where
  control : Control s
  none : NoneOverlooked s

theorem attentive_of_reachable {config : Config}
    (reached : (system config).ReachableUnder KeepsWakeups s) : Attentive s := by
  refine System.ReachableUnder.invariant (fun first initial => ?_)
    (fun _ _ _ attentive met stepped => ?_) reached
  · obtain ⟨count, rfl, _⟩ := initial_filled initial
    exact ⟨.filled config count, .ofEmpty fun _ => rfl⟩
  · have step := stepped_of_next stepped
    exact ⟨attentive.control.step step, attentive.none.step attentive.control met step⟩

/-- In an unreleased pool, outside the critical sections, a caller is queued
only while no connection is idle and the whole capacity is open. -/
theorem waiters_have_nothing_to_take {config : Config} {s : State}
    (reached : (system config).ReachableUnder KeepsWakeups s) (unreleased : s.released = false)
    (free : s.mu = none) (waiting : s.connReqs ≠ []) :
    s.conns = [] ∧ s.openingConns = config.maxCap := by
  have counted := counted_of_reachable reached.reachable
  obtain ⟨idle, full⟩ := (attentive_of_reachable reached).none unreleased waiting
  have balance := counted.exact_ (counted.control.uncleared unreleased)
  have mid := counted.control.midClose_free free
  have live := outstanding_eq counted.placed
  have capacity := counted.capacity
  rw [counted.maxActive] at full
  simp only [State.balance] at balance
  exact ⟨idle, by omega⟩

/-- A caller queues itself while the only connection is in use. -/
theorem waiters_have_nothing_to_take_queued :
    ∃ s, (system ⟨0, 1, 0⟩).ReachableUnder KeepsWakeups s ∧ s.released = false ∧ s.mu = none ∧
      s.connReqs ≠ [] ∧ s.conns = [] ∧ s.openingConns = 1 := by
  have reached := (system ⟨0, 1, 0⟩).reachableUnder_of_exec KeepsWakeups
    (.flatten [.get :: goes 0 3, .get :: goes 1 3])
    ⟨fun _ => true, rfl⟩ rfl
  exact ⟨_, reached, rfl, rfl, by decide, waiters_have_nothing_to_take reached rfl rfl (by decide)⟩

/-- Both lost wakeups. In the first a caller finds no idle connection, `Put`
finds no queued caller, and the caller then queues itself next to the idle
connection. In the second `Close` frees capacity behind a queued caller. -/
theorem waiter_overlooked :
    (∃ s, (system ⟨0, 1, 0⟩).Reachable s ∧ s.released = false ∧ s.mu = none ∧
      s.connReqs = [1] ∧ s.conns = [0]) ∧
    (∃ s, (system ⟨0, 1, 0⟩).Reachable s ∧ s.released = false ∧ s.mu = none ∧
      s.connReqs = [1] ∧ s.openingConns = 0) := by
  constructor
  · have reached := (system ⟨0, 1, 0⟩).reachable_of_exec
      (.flatten [.get :: goes 0 3, .get :: goes 1 2, [.put (some 0), .run 2 .go, .run 1 .go]])
      ⟨fun _ => true, rfl⟩ rfl
    exact ⟨_, reached, rfl, rfl, rfl, rfl⟩
  · have reached := (system ⟨0, 1, 0⟩).reachable_of_exec
      (.flatten [.get :: goes 0 3, .get :: goes 1 3, .close (some 0) :: goes 2 4])
      ⟨fun _ => true, rfl⟩ rfl
    exact ⟨_, reached, rfl, rfl, rfl, rfl⟩

end TaosAdapter.ConnectPool
