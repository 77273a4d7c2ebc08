import TaosAdapter.ConnectPool.Counter

/-!
Owns: the ownership of connections over whole runs.

A connection is lost when a waiter whose context expired finds the pool released
although `Put` already sent it a connection, and when `close = nil` is stored
while another `Close` runs.
-/

namespace TaosAdapter.ConnectPool

open Lib List

def Slot.isFull : Slot → Bool
  | .full _ => true
  | _ => false

def Thread.stranded (thread : Thread) : Bool :=
  thread.pc = .cancelled && thread.slot.isFull

/-- The connection is in the channel of a waiter that will return it: a
cancelled waiter does so only while the pool is not released. -/
def Thread.willReturn (released : Bool) (conn : Conn) (thread : Thread) : Nat :=
  if (thread.pc = .waiting ∨ thread.pc = .takeReq ∨ (thread.pc = .cancelled ∧ released = false)) ∧
      thread.slot = .full conn then 1 else 0

def State.awaited (s : State) (conn : Conn) : Nat :=
  tally (Thread.willReturn s.released conn) s.threads

theorem mem_of_stranded_set {threads : List Thread} {t : Tid} {new th : Thread}
    (mem : th ∈ threads.set t new) (stranded : th.stranded = true)
    (calm : new.pc ≠ .cancelled) : th ∈ threads := by
  rcases mem_or_eq_of_mem_set mem with old | rfl
  · exact old
  · simp [Thread.stranded, calm] at stranded

variable {s s' : State} {label : Label}

theorem stranded_step (stepped : Stepped s label s') (released : s'.released = true) {th : Thread}
    (mem : th ∈ s'.threads) (stranded : th.stranded = true) :
    th ∈ s.threads ∨ ∃ t old, label = .run t .ctxDone ∧ s.threads[t]? = some old ∧
      old.pc = .waiting ∧ old.slot.isFull = true := by
  have spawned (pc : Pc) (notCancelled : pc ≠ .cancelled)
      (appended : th ∈ s.threads ++ [⟨pc, .empty⟩]) : th ∈ s.threads := by
    rcases mem_append.mp appended with old | new
    · exact old
    · rw [mem_singleton.mp new] at stranded
      simp [Thread.stranded, notCancelled] at stranded
  cases stepped with
  | spawn pc _ deaf _ _ =>
    exact .inl (spawned pc (by rintro rfl; simp [Pc.awaits] at deaf) mem)
  | giveBack conn pc _ carried =>
    exact .inl (spawned pc (by rcases carried with rfl | rfl <;> simp) mem)
  | @quiet t old _ pc found keeps =>
    rcases mem_or_eq_of_mem_set mem with same | rfl
    · exact .inl same
    · simp only [Thread.stranded, Bool.and_eq_true, decide_eq_true_eq] at stranded
      obtain ⟨waiting, rfl⟩ := keeps.timeout stranded.1
      exact .inr ⟨t, old, rfl, found, waiting, stranded.2⟩
  | handOff _ _ _ _ _ unreleased _ =>
    have same : s.released = true := released
    rw [unreleased] at same
    cases same
  | release =>
    have old := mem_of_stranded_set mem stranded (by simp)
    simp only [State.closeSlots, mem_mapIdx] at old
    obtain ⟨idx, inside, rfl⟩ := old
    split at stranded
    · simp [Thread.stranded, Slot.isFull] at stranded
    · rename_i unqueued
      rw [if_neg unqueued]
      exact .inl (getElem_mem inside)
  | closeSkip _ after | closeDone _ after =>
    cases after <;> exact .inl (mem_of_stranded_set mem stranded (by simp))
  | drainOne => exact .inl mem
  | _ => exact .inl (mem_of_stranded_set mem stranded (by simp))

theorem released_step (stepped : Stepped s label s') : s'.released = s.released ∨
      ∃ t th, label = .run t .go ∧ s.threads[t]? = some th ∧ th.pc = .releaseLock := by
  cases stepped with
  | release found => exact .inr ⟨_, _, rfl, found, rfl⟩
  | closeSkip _ after | closeDone _ after => exact .inl (by cases after <;> rfl)
  | _ => exact .inl rfl

/-- The schedules without a lost hand-off: `Release` does not overtake a
cancelled waiter that was sent a connection, a waiter that was sent one does
not give up on a released pool, and `close = nil` is stored while the lock is
free. -/
def KeepsConns (s : State) : Label → Prop
  | .run t choice => ∀ thread ∈ s.threads[t]?,
      (thread.pc = .releaseLock → ∀ other ∈ s.threads, other.stranded = false) ∧
      (thread.pc = .waiting → choice = .ctxDone → s.released = true →
        thread.slot.isFull = false) ∧
      (thread.pc = .clearClose → s.mu = none)
  | _ => True

instance (s : State) : (label : Label) → Decidable (KeepsConns s label)
  | .run _ _ => by
    dsimp only [KeepsConns]
    infer_instance
  | .get | .put _ | .close _ | .release => isTrue trivial

theorem KeepsConns.clearsUnlocked (met : KeepsConns s label) : ClearsUnlocked s label := by
  cases label with
  | run t choice => exact fun th found => (met th found).2.2
  | _ => trivial

structure Owned (config : Config) (s : State) : Prop where
  settled : Settled config s
  calm : s.released = true → ∀ thread ∈ s.threads, thread.stranded = false
  owned : ∀ conn : Nat, s.places conn = if conn < s.created then 1 else 0

variable {config : Config}

theorem Owned.lossless (owned : Owned config s) (label : Label) : Lossless s label := by
  cases label with
  | run t choice =>
    intro th found
    have placed := owned.settled.counted.placed
    refine ⟨fun cancelled released conn full => ?_, fun _ => ?_⟩
    · have calm := owned.calm released th (mem_of_getElem? found)
      simp [Thread.stranded, cancelled, full, Slot.isFull] at calm
    · by_cases cleared : s.closeCleared = true
      · have noneLive := (owned.settled.cleared cleared).1
        refine .inr ⟨?_, ?_⟩
        · cases inHand : th.pc.conn? with
          | none => rfl
          | some conn =>
            have live := live_pos_of_hand placed found inHand
            omega
        · cases conns : s.conns with
          | nil => rfl
          | cons conn rest =>
            have live := live_pos_of_idle placed conns
            omega
      · exact .inl (by simpa using cleared)
  | _ => trivial

/-- Under the condition no step loses a connection. -/
theorem Owned.step (owned : Owned config s) (met : KeepsConns s label)
    (stepped : Stepped s label s') : Owned config s' := by
  refine ⟨owned.settled.step met.clearsUnlocked stepped, ?_, ?_⟩
  · intro released th mem
    by_contra notCalm
    have stranded : th.stranded = true := by simpa using notCalm
    rcases stranded_step stepped released mem stranded with
      before | ⟨t, old, rfl, found, waiting, full⟩
    · rcases released_step stepped with same | ⟨t, releaser, rfl, found, pcIs⟩
      · have calm := owned.calm (same ▸ released) th before
        exact notCalm calm
      · exact notCalm ((met releaser found).1 pcIs th before)
    · rcases released_step stepped with same | ⟨_, _, clash, _, _⟩
      · have empty := (met old found).2.1 waiting rfl (same ▸ released)
        rw [full] at empty
        cases empty
      · cases clash
  · intro conn
    obtain ⟨lost, moved, kept⟩ :=
      accounted_step owned.settled.counted.control stepped conn
    have grows := created_step stepped
    have before := owned.owned conn
    rw [kept (owned.lossless label), newlyCreated] at moved
    split at moved <;> split at before <;> split <;> omega

theorem owned_of_reachable (reached : (system config).ReachableUnder KeepsConns s) :
    Owned config s := by
  refine System.ReachableUnder.invariant (fun first initial => ?_)
    (fun _ _ _ owned met stepped => owned.step met (stepped_of_next stepped)) reached
  have counted := Counted.initial initial
  obtain ⟨count, rfl, _⟩ := initial_filled initial
  exact ⟨⟨counted, by simp [filled, emptyPool]⟩, by simp [filled, emptyPool],
    places_filled config count⟩

theorem Owned.awaited_eq (owned : Owned config s) (conn : Conn) :
    s.awaited conn = s.inChannels conn := by
  have pointwise : ∀ th ∈ s.threads, th.willReturn s.released conn = th.inChannel conn := by
    intro th mem
    simp only [Thread.willReturn, Thread.inChannel]
    by_cases full : th.slot = .full conn
    · have calm := fun released => owned.calm released th mem
      cases pcIs : th.pc <;> cases released : s.released <;>
        simp_all [Pc.awaits, Thread.stranded, Slot.isFull]
    · simp [full]
  exact congrArg List.sum (map_congr_left pointwise)

/-- Every created connection is in exactly one place, closed at most once: idle,
with a caller, in the channel of a waiter that will return it, or closed. -/
theorem conn_in_one_place {config : Config} {s : State}
    (reached : (system config).ReachableUnder KeepsConns s) (conn : Nat)
    (created : conn < s.created) :
    s.idle conn + s.inHands conn + s.awaited conn + s.closings conn = 1 := by
  have owned := owned_of_reachable reached
  rw [owned.awaited_eq conn]
  have places := owned.owned conn
  rw [if_pos created] at places
  exact places

/-- A waiter's context expires after `Put` has sent it a connection; it returns
the connection all the same, and the next release closes it. -/
theorem conn_in_one_place_handed_over :
    ∃ s, (system ⟨0, 1, 0⟩).ReachableUnder KeepsConns s ∧ s.released = true ∧ 0 < s.created ∧
      s.idle 0 + s.inHands 0 + s.awaited 0 + s.closings 0 = 1 := by
  have reached := (system ⟨0, 1, 0⟩).reachableUnder_of_exec KeepsConns
    (.flatten [.get :: goes 0 3, .get :: goes 1 3, [.put (some 0), .run 2 .go, .run 1 .ctxDone],
      goes 1 2, .release :: goes 3 2, .put (some 0) :: goes 4 7]) ⟨fun _ => true, rfl⟩ rfl
  exact ⟨_, reached, rfl, by decide, conn_in_one_place reached 0 (by decide)⟩

/-- The context of a waiter expires after `Put` has sent it the only connection,
and `Release` takes the lock first: the waiter returns `ErrClosed`, and the
connection stays in its channel, neither closed nor obtainable. -/
theorem conn_lost_in_channel :
    ∃ s, (system ⟨0, 1, 0⟩).Reachable s ∧ 0 < s.created ∧
      s.idle 0 + s.inHands 0 + s.awaited 0 + s.closings 0 = 0 ∧
      s.threads[1]? = some ⟨.finished .errClosed, .full 0⟩ := by
  have reached := (system ⟨0, 1, 0⟩).reachable_of_exec
    (.flatten [.get :: goes 0 3, .get :: goes 1 3,
      [.put (some 0), .run 2 .go, .run 1 .ctxDone, .release], goes 3 2, [.run 1 .go]])
    ⟨fun _ => true, rfl⟩ rfl
  exact ⟨_, reached, by decide, by decide, rfl⟩

end TaosAdapter.ConnectPool
