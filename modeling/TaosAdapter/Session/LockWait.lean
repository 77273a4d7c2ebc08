import TaosAdapter.Session.Step

/-!
Owns: the wait cycle between `Close` and the requests that take the session
lock. `Close` waits for the wait group with the lock held. A request that takes
the lock checks the closed flag before it waits for the lock, so a `Close` in
between leaves both waiting for each other, for ever.
-/

namespace TaosAdapter.Session

open Lib List Snapshot

variable {Action : Type}

/-- `Close` holds the session lock and waits for the request goroutines while
one of them waits for that lock. -/
def Deadlocked (s : State Action) : Prop :=
  ∃ (closer request : Nat) (back : Return Action) (action : Action),
    s.threads[closer]? = some (.closeWait back) ∧ s.shared.lock = some closer ∧
      s.threads[request]? = some (.lockWait action)

variable {s : State Action}

theorem waiting_pos {t : Nat} {pc : Pc Action} (found : s.threads[t]? = some pc)
    (isRequest : pc.isRequest = true) : 0 < waiting s := by
  have part := weight_le_tally (fun pc : Pc Action => if pc.isRequest then 1 else 0) found
  simp only [isRequest, if_true] at part
  exact part

variable {protocol : Protocol Action} {capacity : Nat} {s' : State Action}

/-- A deadlock is for good. -/
theorem Deadlocked.step {label : Nat × Choice Action} (locked : Locked s)
    (deadlocked : Deadlocked s)
    (stepped : (machine protocol capacity).system.next s label = some s') : Deadlocked s' := by
  obtain ⟨closer, req, back, action, closing, holder, asking⟩ := deadlocked
  obtain ⟨t, choice⟩ := label
  obtain ⟨pc, move, found, moved, rfl⟩ := Machine.next_inv stepped
  have advanced := advanced_of_advance moved
  have notCloser : closer ≠ t := by
    intro same
    rw [same, found] at closing
    cases closing
    cases advanced with
    | waited _ nobody =>
      have alive := waiting_pos asking rfl
      omega
  have notRequest : req ≠ t := by
    intro same
    rw [same, found] at asking
    cases asking
    cases advanced with
    | locked _ free => rw [holder] at free; cases free
  have lockedAfter := locked.step found advanced
  have stillClosing := apply_other move notCloser closing
  exact ⟨closer, req, back, action, stillClosing, lockedAfter.owner stillClosing rfl,
    apply_other move notRequest asking⟩

theorem locked_of_reachable (reached : (machine protocol capacity).system.Reachable s) :
    Locked s := by
  refine System.Reachable.invariant (fun _ initial => ?_) (fun _ _ _ locked stepped => ?_) reached
  · obtain rfl := initial
    exact .opened
  · obtain ⟨pc, move, found, moved, rfl⟩ := Machine.next_inv stepped
    exact locked.step found (advanced_of_advance moved)

structure Wedge (s : State Action) : Prop where
  locked : Locked s
  deadlocked : Deadlocked s

theorem deadlocked_forever (reached : (machine protocol capacity).system.Reachable s)
    (deadlocked : Deadlocked s) (continues : (machine protocol capacity).system.Continues s s') :
    Deadlocked s' := by
  have wedge : Wedge s' := by
    refine System.Continues.invariant (fun before label after wedge stepped => ?_) continues
      ⟨locked_of_reachable reached, deadlocked⟩
    refine ⟨?_, wedge.deadlocked.step wedge.locked stepped⟩
    obtain ⟨pc, move, found, moved, rfl⟩ := Machine.next_inv stepped
    exact wedge.locked.step found (advanced_of_advance moved)
  exact wedge.deadlocked

def Pc.asksLock : Pc Action → Bool
  | .lockWait _ => true
  | _ => false

def Pc.aboutToClose : Pc Action → Bool
  | .closeCheck _ => true
  | _ => false

def Pc.takesCloseLock : Pc Action → Bool
  | .closeLock _ => true
  | _ => false

def Pc.checksForLock (protocol : Protocol Action) : Pc Action → Bool
  | .check action => protocol.takesLock action
  | _ => false

/-- `Close` takes the lock of an open session only while no request waits for
it, and no request that takes the lock passes its closed check while a `Close`
has the lock and has not yet set the flag. -/
def ClosesInOrder (protocol : Protocol Action) (s : State Action)
    (label : Nat × Choice Action) : Prop :=
  ∀ pc ∈ s.threads[label.1]?, s.shared.closed = false →
    (pc.takesCloseLock = true → ∀ other ∈ s.threads, other.asksLock = false) ∧
    (pc.checksForLock protocol = true → ∀ other ∈ s.threads, other.aboutToClose = false)

instance (protocol : Protocol Action) (s : State Action) (label : Nat × Choice Action) :
    Decidable (ClosesInOrder protocol s label) := by
  unfold ClosesInOrder
  infer_instance

def Pc.awaitsGroup : Pc Action → Bool
  | .closeWait _ => true
  | _ => false

/-- Once `Close` has the lock of an open session, or the session is closed,
nobody waits for the lock. -/
structure Orderly (s : State Action) : Prop where
  closing : ∀ pc ∈ s.threads, pc.awaitsGroup = true → s.shared.closed = true
  unasked : s.shared.closed = true ∨ (∃ other ∈ s.threads, other.aboutToClose = true) →
    ∀ other ∈ s.threads, other.asksLock = false

section

variable {protocol : Protocol Action} {capacity : Nat} {s : State Action} {t : Nat}
  {pc : Pc Action} {choice : Choice Action} {move : Move Shared (Pc Action)}

theorem resume_idle (back : Return Action) :
    (resume protocol back).asksLock = false ∧ (resume protocol back).aboutToClose = false ∧
      (resume protocol back).awaitsGroup = false := by
  cases back <;> simp only [resume] <;>
    first
    | exact ⟨rfl, rfl, rfl⟩
    | (split <;> exact ⟨rfl, rfl, rfl⟩)

section

variable (advanced : Advanced protocol capacity s t pc choice move)

include advanced

theorem Advanced.asksLock (asks : move.thread.asksLock = true) :
    pc.checksForLock protocol = true ∧ s.shared.closed = false ∧
      move.shared.closed = s.shared.closed := by
  cases advanced with
  | locking action open_ takes => exact ⟨takes, open_, rfl⟩
  | _ =>
    first
    | cases asks
    | cases (resume_idle _).1.symm.trans asks

theorem Advanced.aboutToClose (about : move.thread.aboutToClose = true) :
    pc.takesCloseLock = true := by
  cases advanced with
  | closeLocked => rfl
  | _ =>
    first
    | cases about
    | cases (resume_idle _).2.1.symm.trans about

theorem Advanced.closed :
    (move.shared.closed = true → s.shared.closed = true ∨ pc.aboutToClose = true) ∧
      (s.shared.closed = true → move.shared.closed = true) := by
  cases advanced with
  | closeFirst => exact ⟨fun _ => .inr rfl, fun _ => rfl⟩
  | _ => exact ⟨.inl, id⟩

theorem Advanced.awaitsGroup (awaits : move.thread.awaitsGroup = true) :
    move.shared.closed = true := by
  cases advanced with
  | closeFirst => rfl
  | _ =>
    first
    | cases awaits
    | cases (resume_idle _).2.2.symm.trans awaits

end

/-- `Close` gets the lock only while nobody waits for it, and nobody asks a closed
session for it again. -/
theorem Orderly.step (orderly : Orderly s) (found : s.threads[t]? = some pc)
    (met : ClosesInOrder protocol s (t, choice))
    (advanced : Advanced protocol capacity s t pc choice move) : Orderly (s.apply t move) where
  closing := by
    intro new mem awaits
    rcases mem_apply mem with old | rfl | fresh
    · exact advanced.closed.2 (orderly.closing new old awaits)
    · exact advanced.awaitsGroup awaits
    · rcases advanced.spawned new fresh with ⟨action, rfl⟩ | rfl <;> cases awaits
  unasked := by
    intro premise asking askingMember
    by_contra notIdle
    have asks : asking.asksLock = true := by simpa using notIdle
    have pcMember := mem_of_getElem? found
    rcases mem_apply askingMember with old | rfl | fresh
    · -- The request already waited: the step would close the session under it.
      have idle (before : s.shared.closed = true ∨
          ∃ other ∈ s.threads, other.aboutToClose = true) : False := by
        rw [orderly.unasked before asking old] at asks
        cases asks
      rcases premise with closed | ⟨about, aboutMember, isAbout⟩
      · rcases advanced.closed.1 closed with before | pcAbout
        · exact idle (.inl before)
        · exact idle (.inr ⟨pc, pcMember, pcAbout⟩)
      · rcases mem_apply aboutMember with before | rfl | fresh
        · exact idle (.inr ⟨about, before, isAbout⟩)
        · by_cases closed : s.shared.closed = true
          · exact idle (.inl closed)
          · have none := (met pc found (by simpa using closed)).1 (advanced.aboutToClose isAbout)
            rw [none asking old] at asks
            cases asks
        · rcases advanced.spawned about fresh with ⟨action, rfl⟩ | rfl <;> cases isAbout
    · -- The request starts to wait: no `Close` has passed its lock.
      obtain ⟨checks, open_, same⟩ := advanced.asksLock asks
      rcases premise with closed | ⟨about, aboutMember, isAbout⟩
      · rw [apply_shared, same, open_] at closed
        cases closed
      · rcases mem_apply aboutMember with before | rfl | fresh
        · have none := (met pc found open_).2 checks
          rw [none about before] at isAbout
          cases isAbout
        · cases movedTo : move.thread <;> simp_all [Pc.asksLock, Pc.aboutToClose]
        · rcases advanced.spawned about fresh with ⟨action, rfl⟩ | rfl <;> cases isAbout
    · rcases advanced.spawned asking fresh with ⟨action, rfl⟩ | rfl <;> cases asks

end

theorem orderly_of_reachable
    (reached : (machine protocol capacity).system.ReachableUnder (ClosesInOrder protocol) s) :
    Orderly s := by
  refine System.ReachableUnder.invariant (fun _ initial => ?_)
    (fun _ _ _ orderly met stepped => ?_) reached
  · obtain rfl := initial
    exact ⟨by simp [opened, Pc.awaitsGroup], by simp [opened, Pc.asksLock]⟩
  · obtain ⟨pc, move, found, moved, rfl⟩ := Machine.next_inv stepped
    exact orderly.step found met (advanced_of_advance moved)

theorem Orderly.not_deadlocked (orderly : Orderly s) : ¬ Deadlocked s := by
  rintro ⟨closer, req, back, action, closing, _, asking⟩
  have closed := orderly.closing _ (mem_of_getElem? closing) rfl
  have idle := orderly.unasked (.inl closed) _ (mem_of_getElem? asking)
  cases idle

/-- In a `/ws` session and in a `/rest/tmq` session, `Close` never waits for a
request that waits for the session lock, in every run whose steps close in
order. -/
theorem close_waits_for_no_lock_waiter (capacity : Nat) :
    (∀ s, (machine ws capacity).system.ReachableUnder (ClosesInOrder ws) s → ¬ Deadlocked s) ∧
      (∀ s, (machine tmq capacity).system.ReachableUnder (ClosesInOrder tmq) s →
        ¬ Deadlocked s) :=
  ⟨fun _ reached => (orderly_of_reachable reached).not_deadlocked,
    fun _ reached => (orderly_of_reachable reached).not_deadlocked⟩

/-- In both sessions `Close` waits for a request that has passed its closed
check and has the lock or needs none. -/
theorem close_waits_for_working_request :
    (∃ s, (machine ws 1).system.ReachableUnder (ClosesInOrder ws) s ∧
      s.threads[0]? = some (.closeLock .readEnd) ∧ s.threads[2]? = some (.work .connect true) ∧
      ¬ Deadlocked s) ∧
    (∃ s, (machine tmq 1).system.ReachableUnder (ClosesInOrder tmq) s ∧
      s.threads[0]? = some (.closeWait .readEnd) ∧ s.threads[2]? = some (.work .poll false) ∧
      ¬ Deadlocked s) := by
  constructor
  · have reached := (machine ws 1).system.reachableUnder_of_exec (ClosesInOrder ws)
      (.flatten [[(0, .message .connect), (0, .go)], goes 2 3, [(0, .readError), (0, .go)]])
      rfl rfl
    exact ⟨_, reached, rfl, rfl, (close_waits_for_no_lock_waiter 1).1 _ reached⟩
  · have reached := (machine tmq 1).system.reachableUnder_of_exec (ClosesInOrder tmq)
      (.flatten [[(0, .message .poll), (0, .go), (2, .go), (0, .readError)], goes 0 3])
      rfl rfl
    exact ⟨_, reached, rfl, rfl, (close_waits_for_no_lock_waiter 1).2 _ reached⟩

/-- A request passes its closed check, `Close` takes the lock and waits for it,
and the request waits for the lock: `connect` in a `/ws` session, `subscribe`
in a `/rest/tmq` session. No continuation ends it. -/
theorem close_deadlocks_with_request :
    (∃ s, (machine ws 1).system.Reachable s ∧
      ∀ s', (machine ws 1).system.Continues s s' → Deadlocked s') ∧
    (∃ s, (machine tmq 1).system.Reachable s ∧
      ∀ s', (machine tmq 1).system.Continues s s' → Deadlocked s') := by
  constructor
  · have reached := (machine ws 1).system.reachable_of_exec
      (.flatten [[(0, .message .connect), (0, .go), (2, .go), (0, .readError)], goes 0 3])
      rfl rfl
    exact ⟨_, reached, fun _ continues => deadlocked_forever reached
      ⟨0, 2, .readEnd, .connect, rfl, rfl, rfl⟩ continues⟩
  · have reached := (machine tmq 1).system.reachable_of_exec
      (.flatten [[(0, .message .subscribe), (0, .go), (2, .go), (0, .readError)], goes 0 3])
      rfl rfl
    exact ⟨_, reached, fun _ continues => deadlocked_forever reached
      ⟨0, 2, .readEnd, .subscribe, rfl, rfl, rfl⟩ continues⟩

end TaosAdapter.Session
