import TaosAdapter.ConnectPool.Step

/-!
Owns: the control invariant of the pool, which says who may be queued, who may
hold the lock and who may run the tail of `Put`, and its step lemma.
-/

namespace TaosAdapter.ConnectPool

open Lib List

structure ThreadOk (s : State) (t : Tid) (th : Thread) : Prop where
  queued : t ∈ s.connReqs →
    (th.pc = .waiting ∨ th.pc = .cancelled) ∧ th.slot = .empty
  locked : th.pc.inSection = true → s.mu = some t
  drained : th.pc.afterRelease = true → s.released = true

structure Control (s : State) : Prop where
  thread : ∀ t thread, s.threads[t]? = some thread → ThreadOk s t thread
  queueInside : ∀ t ∈ s.connReqs, t < s.threads.length
  queueNodup : s.connReqs.Nodup
  releasedQueue : s.released = true → s.connReqs = []
  clearedReleased : s.closeCleared = true → s.released = true

variable {s s' : State} {t : Tid} {th : Thread}

theorem Control.uncleared (control : Control s) (unreleased : s.released = false) :
    s.closeCleared = false := by
  by_contra cleared
  have released := control.clearedReleased (by simpa using cleared)
  rw [unreleased] at released
  cases released

theorem ThreadOk.frame (ok : ThreadOk s t th) (queue : t ∈ s'.connReqs → t ∈ s.connReqs)
    (mu : th.pc.inSection = true → s.mu = some t → s'.mu = some t)
    (released : s.released = true → s'.released = true) : ThreadOk s' t th where
  queued mem := ok.queued (queue mem)
  locked inSection := mu inSection (ok.locked inSection)
  drained after := released (ok.drained after)

theorem ThreadOk.atRest (outside : t ∉ s.connReqs) (unlocked : th.pc.inSection = false)
    (early : th.pc.afterRelease = false) : ThreadOk s t th where
  queued mem := absurd mem outside
  locked inSection := by rw [unlocked] at inSection; cases inSection
  drained after := by rw [early] at after; cases after

theorem threads_set {new : Thread} (old : ∀ u th, s.threads[u]? = some th → ThreadOk s u th)
    (threads : s'.threads = s.threads.set t new)
    (others : ∀ u th, u ≠ t → ThreadOk s u th → ThreadOk s' u th) (own : ThreadOk s' t new) :
    ∀ u th, s'.threads[u]? = some th → ThreadOk s' u th := by
  intro u th found
  rw [threads, List.getElem?_set] at found
  split at found
  · rename_i same
    subst same
    split at found
    · obtain rfl : new = th := Option.some.inj found
      exact own
    · cases found
  · rename_i ne
    exact others u th (Ne.symm ne) (old u th found)

section

variable {s : State} {t : Tid} {th : Thread}

section

variable (control : Control s)

include control

theorem Control.not_queued (found : s.threads[t]? = some th)
    (neither : th.pc ≠ .waiting ∧ th.pc ≠ .cancelled) : t ∉ s.connReqs := by
  intro mem
  rcases ((control.thread t th found).queued mem).1 with waiting | cancelled
  · exact neither.1 waiting
  · exact neither.2 cancelled

theorem Control.outside (found : s.threads[t]? = some th) (free : s.mu = none) :
    th.pc.inSection = false := by
  by_contra inSection
  have owner := (control.thread t th found).locked (by simpa using inSection)
  rw [free] at owner
  cases owner

variable {s' : State}

theorem Control.congr (threads : s'.threads = s.threads := by rfl)
    (queue : s'.connReqs = s.connReqs := by rfl) (mu : s'.mu = s.mu := by rfl)
    (released : s'.released = s.released := by rfl)
    (cleared : s'.closeCleared = s.closeCleared := by rfl) : Control s' := by
  obtain ⟨th, queueInside, queueNodup, releasedQueue, clearedReleased⟩ := control
  refine ⟨fun u other found => (th u other (threads ▸ found)).frame ?_ ?_ ?_, ?_, ?_, ?_, ?_⟩
  all_goals simp_all

theorem Control.step_thread (new : Thread) (threads : s'.threads = s.threads.set t new)
    (queue : s'.connReqs = s.connReqs) (releasedSame : s'.released = s.released)
    (cleared : s'.closeCleared = true → s'.released = true)
    (lock : s'.mu = s.mu ∨ (s.mu = none ∧ s'.mu = some t) ∨ (s.mu = some t ∧ s'.mu = none))
    (own : ThreadOk s' t new) : Control s' where
  thread := by
    apply threads_set control.thread threads _ own
    intro u other ne ok
    apply ok.frame
    · rw [queue]; exact id
    · intro _ holder
      rcases lock with same | ⟨free, _⟩ | ⟨mine, _⟩
      · rw [same]; exact holder
      · rw [free] at holder; cases holder
      · rw [mine] at holder
        exact absurd (Option.some.inj holder).symm ne
    · rw [releasedSame]; exact id
  queueInside := by
    intro u mem
    rw [queue] at mem
    rw [threads, length_set]
    exact control.queueInside u mem
  queueNodup := by rw [queue]; exact control.queueNodup
  releasedQueue := by rw [queue, releasedSame]; exact control.releasedQueue
  clearedReleased := cleared

theorem Control.move (outside : t ∉ s.connReqs) {pc : Pc}
    (section_ : pc.inSection = true → s.mu = some t)
    (after : pc.afterRelease = true → s.released = true) : Control (s.move t th pc) :=
  control.step_thread { th with pc := pc } rfl rfl rfl control.clearedReleased
    (.inl rfl) ⟨fun mem => absurd mem outside, section_, after⟩

theorem Control.finish (outside : t ∉ s.connReqs) (outcome : Outcome) :
    Control (s.finish t th outcome) :=
  control.move outside (by simp [Pc.inSection]) (by simp [Pc.afterRelease])

theorem Control.unlock (outside : t ∉ s.connReqs) (holder : s.mu = some t) (pc : Pc)
    (unlocked : pc.inSection = false) (after : pc.afterRelease = true → s.released = true)
    (threads : s'.threads = s.threads.set t { th with pc := pc }) (queue : s'.connReqs = s.connReqs)
    (released : s'.released = s.released) (cleared : s'.closeCleared = s.closeCleared)
    (mu : s'.mu = none) : Control s' := by
  apply control.step_thread _ threads queue released
  · rw [cleared, released]
    exact control.clearedReleased
  · exact .inr (.inr ⟨holder, mu⟩)
  · refine ⟨fun mem => absurd (queue ▸ mem) outside, ?_, ?_⟩
    · intro inSection
      rw [unlocked] at inSection
      cases inSection
    · intro isAfter
      rw [released]
      exact after isAfter

theorem Control.closeReturn (found : s.threads[t]? = some th)
    (neither : th.pc ≠ .waiting ∧ th.pc ≠ .cancelled)
    (inSection : th.pc.inSection = true) {after : After}
    (drained : after = .put → th.pc.afterRelease = true) {base : State}
    (threads : base.threads = s.threads) (queue : base.connReqs = s.connReqs)
    (released : base.released = s.released) (cleared : base.closeCleared = s.closeCleared)
    (mu : base.mu = none) : Control (base.closeReturn t th after) := by
  have ok := control.thread t th found
  have outside := control.not_queued found neither
  have moved (pc : Pc) : (base.move t th pc).threads = s.threads.set t { th with pc := pc } := by
    simp [State.move, State.setThread, threads]
  cases after with
  | caller =>
    exact control.unlock outside (ok.locked inSection) (.finished .ok) rfl
      (by simp [Pc.afterRelease]) (moved _) queue released cleared mu
  | put =>
    exact control.unlock outside (ok.locked inSection) .readOpening rfl
      (fun _ => ok.drained (drained rfl)) (moved _) queue released cleared mu

theorem Control.give (outside : t ∉ s.connReqs) (conn : Conn) : Control (s.give t conn) :=
  control.step_thread ⟨.finished (.conn conn), .empty⟩ rfl rfl rfl
    control.clearedReleased (.inl rfl)
    ⟨fun mem => absurd mem outside, by simp [Pc.inSection], by simp [Pc.afterRelease]⟩

theorem Control.spawn {pc : Pc} (unlocked : pc.inSection = false)
    (early : pc.afterRelease = false) : Control (s.spawn pc) where
  thread := by
    intro u other found
    simp only [State.spawn] at found
    rw [List.getElem?_append] at found
    split at found
    · exact (control.thread u other found).frame id (fun _ => id) id
    · rename_i beyond
      have fresh : u ∉ s.connReqs := fun mem => beyond (control.queueInside u mem)
      obtain ⟨_, rfl⟩ : u - s.threads.length = 0 ∧ ⟨pc, .empty⟩ = other := by
        rw [List.getElem?_singleton] at found
        split at found
        · exact ⟨by assumption, Option.some.inj found⟩
        · cases found
      exact ThreadOk.atRest fresh unlocked early
  queueInside := by
    intro u mem
    have inside := control.queueInside u mem
    simp only [State.spawn, length_append, length_singleton]
    exact Nat.lt_succ_of_lt inside
  queueNodup := control.queueNodup
  releasedQueue := control.releasedQueue
  clearedReleased := control.clearedReleased

end

theorem Control.enqueue (control : Control s) (found : s.threads[t]? = some th)
    (outside : t ∉ s.connReqs) (open_ : s.released = false) : Control (s.enqueue t) where
  thread := by
    apply threads_set control.thread rfl
    · intro u other ne ok
      apply ok.frame
      · intro mem
        rcases mem_append.mp mem with old | new
        · exact old
        · exact absurd (mem_singleton.mp new) ne
      · exact fun _ => id
      · exact id
    · exact ⟨fun _ => ⟨.inl rfl, rfl⟩, by simp [Pc.inSection], by simp [Pc.afterRelease]⟩
  queueInside := by
    intro u mem
    simp only [State.enqueue, State.setThread, length_set] at mem ⊢
    rcases mem_append.mp mem with old | new
    · exact control.queueInside u old
    · rw [mem_singleton.mp new]
      exact lt_of_getElem? found
  queueNodup := by
    simp only [State.enqueue, State.setThread]
    exact nodup_append.mpr ⟨control.queueNodup, by simp, fun u mem v last => by
      rw [mem_singleton.mp last]
      exact fun same => outside (same ▸ mem)⟩
  releasedQueue := by
    intro isReleased
    simp only [State.enqueue, State.setThread, open_] at isReleased
    cases isReleased
  clearedReleased := control.clearedReleased

theorem Control.dequeue (control : Control s) (outcome : Outcome) :
    Control ({ s with connReqs := s.connReqs.erase t }.finish t th outcome) where
  thread := by
    apply threads_set control.thread rfl
    · intro u other _ ok
      exact ok.frame (fun mem => mem_of_mem_erase mem) (fun _ => id) id
    · exact ThreadOk.atRest (fun mem => List.Nodup.not_mem_erase control.queueNodup mem)
        rfl rfl
  queueInside := by
    intro u mem
    simp only [State.finish, State.move, State.setThread, length_set]
    exact control.queueInside u (mem_of_mem_erase mem)
  queueNodup := control.queueNodup.erase t
  releasedQueue := by
    intro isReleased
    simp only [State.finish, State.move, State.setThread]
    rw [control.releasedQueue isReleased]
    rfl
  clearedReleased := control.clearedReleased

theorem Control.handOff (control : Control s) (conn : Conn) {waiter : Tid} {rest : List Tid}
    (queue : s.connReqs = waiter :: rest) (outside : t ∉ s.connReqs) :
    Control (s.handOff t th conn waiter rest) where
  thread := by
    have nodup := control.queueNodup
    rw [queue, nodup_cons] at nodup
    rw [queue, mem_cons] at outside
    apply threads_set (s := { s with
      connReqs := rest
      threads := s.threads.modify waiter fun queued => { queued with slot := .full conn } })
    · intro u other found
      rw [List.getElem?_modify] at found
      split at found
      · rename_i same
        subst same
        obtain ⟨old, oldFound, rfl⟩ := Option.map_eq_some_iff.mp found
        have ok := control.thread waiter old oldFound
        exact ⟨fun mem => absurd mem nodup.1, ok.locked, ok.drained⟩
      · have oldFound : s.threads[u]? = some other := by simpa using found
        exact (control.thread u other oldFound).frame
          (fun mem => queue ▸ mem_cons_of_mem waiter mem) (fun _ => id) id
    · rfl
    · intro u other _ ok
      exact ok.frame id (fun _ => id) id
    · exact ThreadOk.atRest (fun mem => outside (.inr mem)) rfl rfl
  queueInside := by
    intro u mem
    simp only [State.handOff, State.finish, State.move, State.setThread, length_set, length_modify]
    exact control.queueInside u (queue ▸ mem_cons_of_mem waiter mem)
  queueNodup := by
    have nodup := control.queueNodup
    rw [queue, nodup_cons] at nodup
    exact nodup.2
  releasedQueue := by
    intro isReleased
    have empty := control.releasedQueue isReleased
    rw [queue] at empty
    cases empty
  clearedReleased := control.clearedReleased

theorem Control.releaseStart (control : Control s) (free : s.mu = none) :
    Control (s.releaseStart t th) where
  thread := by
    apply threads_set (s := { s with
      released := true
      connReqs := []
      mu := some t
      threads := State.closeSlots s.connReqs s.threads })
    · intro u other found2
      simp only [State.closeSlots, List.getElem?_mapIdx, Option.map_eq_some_iff] at found2
      obtain ⟨old, oldFound, rfl⟩ := found2
      have unlocked := control.outside oldFound free
      refine ⟨fun mem => absurd mem (by simp), ?_, fun _ => rfl⟩
      intro inSection
      split at inSection <;> simp [unlocked] at inSection
    · rfl
    · intro u other _ ok
      exact ok.frame id (fun _ => id) id
    · exact ⟨by simp [State.releaseStart, State.move, State.setThread], fun _ => rfl, fun _ => rfl⟩
  queueInside := by simp [State.releaseStart, State.move, State.setThread]
  queueNodup := by simp [State.releaseStart, State.move, State.setThread]
  releasedQueue := fun _ => rfl
  clearedReleased := fun _ => rfl

end

theorem Control.step {label : Label} (control : Control s) (stepped : Stepped s label s') :
    Control s' := by
  cases stepped with
  | spawn pc _ _ outside early => exact control.spawn outside early
  | giveBack conn pc _ carried =>
    have returned : Control { s with held := s.held.erase conn } :=
      control.congr
    rcases carried with rfl | rfl <;> exact returned.spawn rfl rfl
  | @quiet t th _ pc found keeps =>
    have ok := control.thread t th found
    refine control.step_thread { th with pc := pc } rfl rfl rfl
      control.clearedReleased (.inl rfl) ⟨fun mem => ?_, ?_, ?_⟩
    · obtain ⟨waits, empty⟩ := ok.queued mem
      rcases waits with waiting | cancelled
      · exact ⟨.inr (keeps.waits waiting empty), empty⟩
      · exact absurd mem (keeps.dequeued cancelled)
    · simp [keeps.stillOutside]
    · exact fun after => ok.drained (keeps.after after)
  | abandon _ _ released =>
    refine control.finish ?_ .errClosed
    rw [control.releasedQueue released]
    exact not_mem_nil
  | receiveIdle conn rest found _ =>
    have shrunk : Control { s with conns := rest } := control.congr
    exact shrunk.give (control.not_queued found (by simp)) conn
  | @receiveSlot t _ conn found _ =>
    refine control.give (fun mem => ?_) conn
    cases ((control.thread t _ found).queued mem).2
  | enqueue found _ unreleased =>
    exact control.enqueue found (control.not_queued found (by simp)) unreleased
  | create found =>
    have counted : Control { s with
        openingConns := s.openingConns + 1, created := s.created + 1 } :=
      control.congr
    exact counted.give (control.not_queued found (by simp)) s.created
  | dequeue => exact control.dequeue .errTimeout
  | handOff conn waiter rest found _ _ queue =>
    exact control.handOff conn queue (control.not_queued found (by simp))
  | putIdle conn found =>
    exact control.step_thread ⟨.finished .ok, _⟩ rfl rfl rfl control.clearedReleased (.inl rfl)
      (ThreadOk.atRest (control.not_queued found (by simp)) rfl rfl)
  | putRefused conn after found _ released =>
    refine control.move (control.not_queued found (by simp)) (by simp [Pc.inSection]) ?_
    intro isAfter
    cases after with
    | caller => cases isAfter
    | put => exact released rfl
  | @closeLock t slot conn after found free =>
    refine control.step_thread ⟨.closeCheck conn after, slot⟩ rfl rfl rfl
      control.clearedReleased (.inr (.inl ⟨free, rfl⟩)) ⟨fun mem => ?_, fun _ => rfl, ?_⟩
    · exact absurd mem (control.not_queued found (by simp))
    · cases after <;> exact (control.thread t _ found).drained
  | closeSkip conn after found | closeDone conn after found =>
    exact control.closeReturn found (by simp) rfl (by cases after <;> simp [Pc.afterRelease])
      rfl rfl rfl rfl rfl
  | @closeProceed t slot conn after found =>
    have ok := control.thread t _ found
    refine control.move (control.not_queued found (by simp)) (fun _ => ok.locked rfl) ?_
    cases after <;> exact ok.drained
  | @closeCount t slot conn after found =>
    have ok := control.thread t _ found
    refine control.step_thread ⟨.closeCall conn after, slot⟩ rfl rfl rfl
      control.clearedReleased (.inl rfl) ⟨fun mem => ?_, fun _ => ok.locked rfl, ?_⟩
    · exact absurd mem (control.not_queued found (by simp))
    · cases after <;> exact ok.drained
  | @closePanic t _ _ _ found | @drainPanic t _ _ _ found =>
    exact control.unlock (control.not_queued found (by simp))
      ((control.thread t _ found).locked rfl)
      .panicked rfl (by simp [Pc.afterRelease]) rfl rfl rfl rfl rfl
  | @clearClose t _ found =>
    exact control.step_thread ⟨.finished .ok, _⟩ rfl rfl rfl
      (fun _ => (control.thread t _ found).drained rfl) (.inl rfl)
      (ThreadOk.atRest (control.not_queued found (by simp)) rfl rfl)
  | release _ free => exact control.releaseStart free
  | drainOne => exact control.congr
  | @drainDone t _ found =>
    exact control.unlock (control.not_queued found (by simp))
      ((control.thread t _ found).locked rfl)
      (.finished .ok) rfl (by simp [Pc.afterRelease]) rfl rfl rfl rfl rfl

def filled (config : Config) (count : Nat) : State :=
  { emptyPool config with
    conns := List.range count
    openingConns := count
    created := count }

/-- The ends of the creation of `total` connections: a filled pool within its
capacity, everything created so far closed again, or a send without room. -/
def NewResult.Meets (config : Config) (total : Nat) : NewResult → Prop
  | .pool s => s = filled config total ∧ (total : Int) ≤ config.maxCap
  | .failed s => s.conns = [] ∧ s.openingConns = 0 ∧ s.closed = (List.range s.created).reverse
  | .blocked => config.maxCap < total
  | .refused => False

variable (config : Config)

theorem fillPool_meets (factory : Nat → Bool) (remaining count : Nat)
    (fits : (count : Int) ≤ config.maxCap) :
    (fillPool factory remaining (filled config count)).Meets config (count + remaining) := by
  induction remaining generalizing count with
  | zero => exact ⟨rfl, fits⟩
  | succ remaining ih =>
    have grown : (filled config count).addIdle = filled config (count + 1) := by
      simp [State.addIdle, filled, range_succ]
    have length : (filled config count).conns.length = count := length_range
    have capacity : (filled config count).maxActive = config.maxCap := rfl
    rw [fillPool, length, capacity, grown,
      show count + (remaining + 1) = count + 1 + remaining by omega]
    split
    · split
      · exact ih (count + 1) (by omega)
      · show config.maxCap < (count + 1 + remaining : Nat)
        omega
    · simp [NewResult.Meets, State.releaseIdle, filled, emptyPool]

theorem newConnectPool_meets (factory : Nat → Bool)
    (accepted : newConnectPool config factory ≠ .refused) :
    (newConnectPool config factory).Meets config config.initialCap.toNat := by
  rw [newConnectPool] at accepted ⊢
  split at accepted
  · exact absurd rfl accepted
  · rename_i pos
    have met := fillPool_meets config factory config.initialCap.toNat 0 (by omega)
    rw [Nat.zero_add] at met
    rw [if_neg pos]
    exact met

theorem initial_filled {config : Config} (initial : (system config).initial s) :
    ∃ count : Nat, s = filled config count ∧ (count : Int) ≤ config.maxCap := by
  obtain ⟨factory, returned⟩ := initial
  have met := newConnectPool_meets config factory (by simp [returned])
  rw [returned] at met
  exact ⟨_, met⟩

theorem Control.filled (count : Nat) : Control (filled config count) where
  thread := by simp [ConnectPool.filled, emptyPool]
  queueInside := by simp [ConnectPool.filled, emptyPool]
  queueNodup := by simp [ConnectPool.filled, emptyPool]
  releasedQueue := fun _ => rfl
  clearedReleased := by simp [ConnectPool.filled, emptyPool]

end TaosAdapter.ConnectPool
