import Mathlib.Data.Finset.Card
import Mathlib.Data.Finset.SDiff
import Mathlib.Data.Finset.Range
import TaosAdapter.ConnectPool.Places

/-!
Owns: the counter `openingConns` against the number of live connections, the
bound of that number by `MaxCap`, and the bound of the queue by `MaxWait`.

`openingConns` is decremented before `close` is called, so the equation counts
the threads between the two: `openingConns + midClose = live`. It holds as long
as `close` is set: the store `close = nil` at the end of `Put` is made without the
lock.
-/

namespace TaosAdapter.ConnectPool

open Lib List

def State.live (s : State) : Nat :=
  (Finset.range s.created \ s.closed.toFinset).card

variable {s : State}

theorem live_eq (placed : Placed s) : (s.live : Int) = s.created - s.closed.length := by
  have inside : s.closed.toFinset ⊆ Finset.range s.created := by
    intro conn mem
    exact Finset.mem_range.mpr (lt_created_of_closed placed (mem_toFinset.mp mem))
  have bound := Finset.card_le_card inside
  rw [Finset.card_range, toFinset_card_of_nodup (closed_nodup placed)] at bound
  rw [State.live, Finset.card_sdiff_of_subset inside, Finset.card_range,
    toFinset_card_of_nodup (closed_nodup placed)]
  omega

theorem live_pos (placed : Placed s) (conn : Nat) (elsewhere : s.closings conn < s.places conn) :
    0 < s.live := by
  obtain ⟨inside, unclosed⟩ := placed.unclosed elsewhere
  exact Finset.card_pos.mpr ⟨conn, by simp [inside, unclosed]⟩

variable {conn : Conn}

theorem live_pos_of_idle (placed : Placed s) {rest : List Conn} (conns : s.conns = conn :: rest) :
    0 < s.live := by
  apply live_pos placed conn
  have idle : 0 < s.idle conn := by simp [State.idle, conns]
  simp only [State.places]
  omega

theorem live_pos_of_hand (placed : Placed s) {t : Tid} {th : Thread}
    (found : s.threads[t]? = some th) (inHand : th.pc.conn? = some conn) : 0 < s.live := by
  apply live_pos placed conn
  have weight : 0 < tally (Thread.inHand conn) s.threads := by
    have part := weight_le_tally (Thread.inHand conn) found
    simp only [Thread.inHand, inHand, if_true] at part
    omega
  simp only [State.places, State.inHands]
  omega

def Pc.midClose : Pc → Nat
  | .closeCall _ _ => 1
  | _ => 0

theorem Pc.midClose_outside {pc : Pc} (outside : pc.inSection = false) : pc.midClose = 0 := by
  cases pc <;> simp_all [midClose, inSection]

namespace State

def pcs (s : State) : List Pc :=
  s.threads.map Thread.pc

def midClose (s : State) : Nat :=
  tally Pc.midClose s.pcs

def outstanding (s : State) : Int :=
  s.created - s.closed.length

def balance (s : State) : Int :=
  s.openingConns + s.midClose - s.outstanding

end State

section

variable {s : State} {t : Tid} {th : Thread}

theorem pcs_found (found : s.threads[t]? = some th) : s.pcs[t]? = some th.pc := by
  simp [State.pcs, found]

theorem pcs_setThread (new : Thread) : (s.setThread t new).pcs = s.pcs.set t new.pc := by
  simp [State.pcs, State.setThread]

theorem pcs_handOff (conn : Conn) (waiter : Tid) (rest : List Tid) :
    (s.handOff t th conn waiter rest).pcs = s.pcs.set t (.finished .ok) := by
  have sent : (s.threads.modify waiter fun queued => { queued with slot := .full conn }).map
      Thread.pc = s.pcs := by
    apply ext_getElem?
    intro idx
    rw [List.getElem?_map, List.getElem?_modify, State.pcs, List.getElem?_map]
    cases s.threads[idx]? with
    | none => rfl
    | some queued =>
      by_cases same : waiter = idx <;> simp [same]
  rw [← sent, State.handOff, State.finish, State.move, pcs_setThread]
  rfl

theorem pcs_releaseStart : (s.releaseStart t th).pcs = s.pcs.set t .draining := by
  have closed : (State.closeSlots s.connReqs s.threads).map Thread.pc = s.pcs := by
    apply ext_getElem?
    intro idx
    rw [List.getElem?_map, State.closeSlots, List.getElem?_mapIdx, State.pcs, List.getElem?_map]
    cases s.threads[idx]? with
    | none => rfl
    | some queued =>
      by_cases mem : idx ∈ s.connReqs <;> simp [mem]
  rw [← closed, State.releaseStart, State.move, pcs_setThread]
  rfl

theorem clears_of_set {s' : State} {pc : Pc} (moved : s'.pcs = s.pcs.set t pc)
    (notClears : pc ≠ .clearClose) (mem : .clearClose ∈ s'.pcs) : .clearClose ∈ s.pcs := by
  rw [moved] at mem
  rcases mem_or_eq_of_mem_set mem with old | new
  · exact old
  · exact absurd new.symm notClears

theorem midClose_set {s' : State} {pc : Pc} (found : s.threads[t]? = some th)
    (moved : s'.pcs = s.pcs.set t pc) :
    s'.midClose + th.pc.midClose = s.midClose + pc.midClose := by
  rw [State.midClose, State.midClose, moved]
  exact tally_set Pc.midClose (pcs_found found) pc

theorem Control.midClose_eq_zero (control : Control s)
    (holder : ∀ u other, s.threads[u]? = some other → s.mu = some u → other.pc.midClose = 0) :
    s.midClose = 0 := by
  apply tally_eq_zero
  intro pc mem
  obtain ⟨other, otherMember, rfl⟩ := mem_map.mp mem
  obtain ⟨u, found⟩ := mem_iff_getElem?.mp otherMember
  by_cases inSection : other.pc.inSection = true
  · exact holder u other found ((control.thread u other found).locked inSection)
  · cases pcIs : other.pc <;> simp_all [Pc.midClose, Pc.inSection]

theorem Control.midClose_free (control : Control s) (free : s.mu = none) : s.midClose = 0 :=
  control.midClose_eq_zero fun _ _ _ holder => by
    rw [free] at holder
    cases holder

theorem Control.midClose_owner (control : Control s) (found : s.threads[t]? = some th)
    (inSection : th.pc.inSection = true) (elsewhere : th.pc.midClose = 0) : s.midClose = 0 := by
  apply control.midClose_eq_zero
  intro u other found2 holder
  have owner := (control.thread t th found).locked inSection
  rw [holder] at owner
  cases owner
  rw [found] at found2
  cases found2
  exact elsewhere

end

theorem closeReturn_pcs (s : State) (t : Tid) (th : Thread) (after : After) :
    ∃ pc : Pc, pc.midClose = 0 ∧ pc ≠ .clearClose ∧
      (s.closeReturn t th after).pcs = s.pcs.set t pc := by
  cases after with
  | caller => exact ⟨.finished .ok, rfl, by simp, pcs_setThread _⟩
  | put => exact ⟨.readOpening, rfl, by simp, pcs_setThread _⟩

/-- One step as the ledger sees it: how the counter, the middle of `Close` and
the two ghost lists move, and which program counter changes. -/
structure Ledger (s s' : State) : Prop where
  balanced : s.closeCleared = false → s'.balance = s.balance
  outstanding : s'.outstanding ≤ s.outstanding ∨
    (s.mu = none ∧ s.released = false ∧ s.openingConns < s.maxActive ∧
      s'.outstanding = s.outstanding + 1)
  maxActive : s'.maxActive = s.maxActive
  maxWait : s'.maxWait = s.maxWait
  queue : s'.connReqs.length ≤ s.connReqs.length ∨
    ((0 < s.maxWait → (s.connReqs.length : Int) < s.maxWait) ∧
      s'.connReqs.length = s.connReqs.length + 1)
  opening : s'.openingConns = s.openingConns ∨ s.released = false ∨
    (s.midClose = 0 ∧ 0 < s.live)
  clears : .clearClose ∈ s'.pcs → .clearClose ∈ s.pcs ∨ s'.openingConns = 0

section

variable {s s' : State} {t : Tid} {th : Thread}

theorem Ledger.ofMove (found : s.threads[t]? = some th) (pc : Pc)
    (moved : s'.pcs = s.pcs.set t pc) (same : th.pc.midClose = pc.midClose)
    (clears : pc = .clearClose → s.openingConns = 0 := by simp)
    (queue : s'.connReqs.length ≤ s.connReqs.length ∨
      ((0 < s.maxWait → (s.connReqs.length : Int) < s.maxWait) ∧
        s'.connReqs.length = s.connReqs.length + 1) := by exact .inl (Nat.le_refl _))
    (opening : s'.openingConns = s.openingConns := by rfl)
    (outstanding : s'.outstanding = s.outstanding := by rfl)
    (maxActive : s'.maxActive = s.maxActive := by rfl)
    (maxWait : s'.maxWait = s.maxWait := by rfl) : Ledger s s' where
  balanced _ := by
    have mid := midClose_set found moved
    simp only [State.balance, opening, outstanding]
    omega
  outstanding := .inl (Int.le_of_eq outstanding)
  maxActive := maxActive
  maxWait := maxWait
  queue := queue
  opening := .inl opening
  clears mem := by
    rw [moved] at mem
    rcases mem_or_eq_of_mem_set mem with old | new
    · exact .inl old
    · exact .inr (opening.trans (clears new.symm))

theorem Ledger.ofSpawn (pc : Pc) (moved : s'.pcs = s.pcs ++ [pc])
    (outside : pc.inSection = false) (early : pc.afterRelease = false)
    (opening : s'.openingConns = s.openingConns) (outstanding : s'.outstanding = s.outstanding)
    (maxActive : s'.maxActive = s.maxActive) (maxWait : s'.maxWait = s.maxWait)
    (queue : s'.connReqs = s.connReqs) : Ledger s s' where
  balanced _ := by
    have mid : s'.midClose = s.midClose := by
      rw [State.midClose, moved, tally_append, tally_cons, Pc.midClose_outside outside]
      rfl
    simp only [State.balance, opening, outstanding, mid]
  outstanding := .inl (Int.le_of_eq outstanding)
  maxActive := maxActive
  maxWait := maxWait
  queue := .inl (by rw [queue])
  opening := .inl opening
  clears mem := by
    rw [moved] at mem
    rcases mem_append.mp mem with old | new
    · exact .inl old
    · rw [← mem_singleton.mp new] at early
      cases early

theorem Ledger.ofDecrement (found : s.threads[t]? = some th)
    (kept : .clearClose ∈ s'.pcs → .clearClose ∈ s.pcs)
    (balanced : s.closeCleared = false → s'.balance = s.balance)
    (outstanding : s'.outstanding ≤ s.outstanding)
    (maxActive : s'.maxActive = s.maxActive) (maxWait : s'.maxWait = s.maxWait)
    (queue : s'.connReqs = s.connReqs) (control : Control s)
    (inSection : th.pc.inSection = true) (elsewhere : th.pc.midClose = 0)
    (live : 0 < s.live) : Ledger s s' where
  balanced := balanced
  outstanding := .inl outstanding
  maxActive := maxActive
  maxWait := maxWait
  queue := .inl (by rw [queue])
  opening := .inr (.inr ⟨control.midClose_owner found inSection elsewhere, live⟩)
  clears mem := .inl (kept mem)

end

variable {label : Label} {s' : State}

/-- Every step in the terms of the ledger; the invariants below read only this. -/
theorem ledger_step (control : Control s) (placed : Placed s) (stepped : Stepped s label s') :
    Ledger s s' := by
  cases stepped with
  | spawn pc _ _ outside early =>
    exact .ofSpawn pc (by simp [State.pcs, State.spawn]) outside early rfl rfl rfl rfl rfl
  | giveBack conn pc _ carried =>
    refine .ofSpawn pc (by simp [State.pcs, State.spawn]) ?_ ?_ rfl rfl rfl rfl rfl
    · rcases carried with rfl | rfl <;> rfl
    · rcases carried with rfl | rfl <;> rfl
  | quiet pc found keeps =>
    refine .ofMove found pc (pcs_setThread _) ?_ keeps.zero
    rw [Pc.midClose_outside keeps.outside, Pc.midClose_outside keeps.stillOutside]
  | abandon found =>
    exact .ofMove found (.finished .errClosed) (pcs_setThread _) rfl
  | receiveIdle conn _ found =>
    exact .ofMove found (.finished (.conn conn)) (pcs_setThread _) rfl
  | receiveSlot conn found pcIs =>
    refine .ofMove found (.finished (.conn conn)) (pcs_setThread _) ?_
    rcases pcIs with rfl | rfl <;> rfl
  | enqueue found _ _ _ room =>
    exact .ofMove found .waiting (pcs_setThread _) rfl (by simp)
      (.inr ⟨room, by simp [State.enqueue, State.setThread]⟩)
  | @create t _ found free unreleased capacity =>
    have moved : (s.create t).pcs = s.pcs.set t (.finished (.conn s.created)) :=
      pcs_setThread _
    have mid := midClose_set found moved
    simp only [Pc.midClose, Nat.add_zero] at mid
    have more : (s.create t).outstanding = s.outstanding + 1 := by
      simp only [State.outstanding, State.create, State.give, State.setThread]
      omega
    have opening : (s.create t).openingConns = s.openingConns + 1 := rfl
    refine ⟨fun _ => ?_, .inr ⟨free, unreleased, capacity, more⟩, rfl, rfl, .inl (Nat.le_refl _),
      .inr (.inl unreleased), fun mem => .inl (clears_of_set moved (by simp) mem)⟩
    simp only [State.balance, opening, more, mid]
    omega
  | dequeue found =>
    exact .ofMove found (.finished .errTimeout) (pcs_setThread _) rfl (by simp)
      (.inl length_erase_le)
  | handOff conn waiter rest found _ _ queue =>
    exact .ofMove found (.finished .ok) (pcs_handOff conn waiter rest) rfl (by simp)
      (.inl (by rw [queue]; exact Nat.le_succ _))
  | putIdle _ found | clearClose found | drainDone found =>
    exact .ofMove found (.finished .ok) (pcs_setThread _) rfl
  | putRefused conn after found =>
    exact .ofMove found (.closeLock conn after) (pcs_setThread _) rfl
  | closeLock conn after found =>
    exact .ofMove found (.closeCheck conn after) (pcs_setThread _) rfl
  | @closeSkip t slot conn after found =>
    obtain ⟨pc, mid, notClears, moved⟩ :=
      closeReturn_pcs { s with mu := none } t ⟨.closeCheck conn after, slot⟩ after
    refine .ofMove found pc moved mid.symm (fun is => absurd is notClears) (.inl ?_) ?_ ?_ ?_ ?_
    all_goals cases after <;> rfl
  | closeProceed conn after found =>
    exact .ofMove found (.closeCount conn after) (pcs_setThread _) rfl
  | @closeCount t slot conn after found =>
    let counted := s.closeCount t ⟨.closeCount conn after, slot⟩ conn after
    have moved : counted.pcs = s.pcs.set t (.closeCall conn after) := pcs_setThread _
    have mid := midClose_set found moved
    simp only [Pc.midClose, Nat.add_zero] at mid
    have opening : counted.openingConns = s.openingConns - 1 := rfl
    have same : counted.outstanding = s.outstanding := rfl
    refine .ofDecrement found (clears_of_set moved (by simp)) (fun _ => ?_)
      (Int.le_refl _) rfl rfl rfl control rfl rfl (live_pos_of_hand placed found rfl)
    show counted.balance = s.balance
    simp only [State.balance, opening, same, mid]
    omega
  | @closePanic t slot conn after found cleared =>
    have moved : (State.move { s with mu := none } t ⟨.closeCall conn after, slot⟩ .panicked).pcs =
        s.pcs.set t .panicked := pcs_setThread _
    refine ⟨fun uncleared => ?_, .inl (Int.le_refl _), rfl, rfl, .inl (Nat.le_refl _),
      .inl rfl, fun mem => .inl (clears_of_set moved (by simp) mem)⟩
    rw [cleared] at uncleared
    cases uncleared
  | @closeDone t slot conn after found _ =>
    let base : State := { s with mu := none, closed := conn :: s.closed }
    obtain ⟨pc, pcMid, notClears, moved⟩ :=
      closeReturn_pcs base t ⟨.closeCall conn after, slot⟩ after
    have mid := midClose_set found moved
    rw [pcMid] at mid
    simp only [Pc.midClose] at mid
    have fewer : (base.closeReturn t ⟨.closeCall conn after, slot⟩ after).outstanding =
        s.outstanding - 1 := by
      cases after <;>
        simp only [base, State.outstanding, State.closeReturn, State.finish, State.move,
          State.setThread, length_cons] <;> omega
    have opening : (base.closeReturn t ⟨.closeCall conn after, slot⟩ after).openingConns =
        s.openingConns := by
      cases after <;> rfl
    refine ⟨fun _ => ?_, .inl (fewer.trans_le (by omega)), by cases after <;> rfl,
      by cases after <;> rfl, .inl (by cases after <;> exact Nat.le_refl _), .inl opening,
      fun mem => .inl (clears_of_set moved notClears mem)⟩
    show (base.closeReturn t ⟨.closeCall conn after, slot⟩ after).balance = s.balance
    simp only [State.balance, opening, fewer]
    omega
  | release found =>
    exact .ofMove found .draining pcs_releaseStart rfl (by simp) (.inl (Nat.zero_le _))
  | drainPanic conn rest found conns cleared =>
    refine .ofDecrement found (clears_of_set (pcs_setThread _) (by simp)) (fun uncleared => ?_)
      (Int.le_refl _) rfl rfl rfl control rfl rfl (live_pos_of_idle placed conns)
    rw [cleared] at uncleared
    cases uncleared
  | drainOne conn rest found conns _ =>
    refine .ofDecrement found id (fun _ => ?_) ?_ rfl rfl rfl control rfl rfl
      (live_pos_of_idle placed conns)
    · simp only [State.balance, State.outstanding, State.midClose, State.pcs, length_cons]
      omega
    · simp only [State.outstanding, length_cons]
      omega

theorem closeCleared_step (stepped : Stepped s label s') : s'.closeCleared = s.closeCleared ∨
      ∃ t th, label = .run t .go ∧ s.threads[t]? = some th ∧ th.pc = .clearClose := by
  cases stepped with
  | clearClose found => exact .inr ⟨_, _, rfl, found, rfl⟩
  | closeSkip _ after | closeDone _ after => exact .inl (by cases after <;> rfl)
  | _ => exact .inl rfl

theorem closeCleared_mono (stepped : Stepped s label s') (uncleared : s'.closeCleared = false) :
    s.closeCleared = false := by
  cases stepped with
  | clearClose => cases uncleared
  | closeSkip _ after | closeDone _ after => cases after <;> exact uncleared
  | _ => exact uncleared

/-- The counter is exact while `close` is set; the capacity and the queue are
bounded in any case. -/
structure Counted (config : Config) (s : State) : Prop where
  control : Control s
  placed : Placed s
  exact_ : s.closeCleared = false → s.balance = 0
  reading : s.closeCleared = false → .clearClose ∈ s.pcs → s.openingConns = 0
  maxActive : s.maxActive = config.maxCap
  maxWait : s.maxWait = config.maxWait
  capacity : (s.live : Int) ≤ config.maxCap
  waiters : 0 < config.maxWait → (s.connReqs.length : Int) ≤ config.maxWait

theorem outstanding_eq (placed : Placed s) : s.outstanding = s.live :=
  (live_eq placed).symm

variable {config : Config}

theorem Counted.initial (initial : (system config).initial s) : Counted config s := by
  obtain ⟨count, rfl, fits⟩ := initial_filled initial
  have placed : Placed (filled config count) := fun conn =>
    Nat.le_of_eq (places_filled config count conn)
  refine ⟨.filled config count, placed, fun _ => ?_, fun _ mem => ?_, rfl, rfl, ?_, ?_⟩
  · simp [State.balance, State.outstanding, State.midClose, State.pcs, filled, emptyPool]
  · simp [State.pcs, filled, emptyPool] at mem
  · rw [live_eq placed]
    simpa [filled, emptyPool] using fits
  · intro pos
    simpa [filled, emptyPool] using Int.le_of_lt pos

/-- The counter stays exact until `close` is cleared, the bounds for good. -/
theorem Counted.step (counted : Counted config s) (stepped : Stepped s label s') :
    Counted config s' := by
  have placed := counted.placed.step counted.control stepped
  have ledger := ledger_step counted.control counted.placed stepped
  have before := outstanding_eq counted.placed
  have after := outstanding_eq placed
  refine ⟨counted.control.step stepped, placed, ?_, ?_, ?_, ?_, ?_, ?_⟩
  · intro uncleared
    have unclearedBefore := closeCleared_mono stepped uncleared
    rw [ledger.balanced unclearedBefore, counted.exact_ unclearedBefore]
  · intro uncleared mem
    have unclearedBefore := closeCleared_mono stepped uncleared
    rcases ledger.clears mem with old | zero
    · have zero := counted.reading unclearedBefore old
      rcases ledger.opening with same | unreleased | ⟨mid, live⟩
      · rw [same, zero]
      · obtain ⟨th, threadMember, pcIs⟩ := mem_map.mp old
        obtain ⟨t, found⟩ := mem_iff_getElem?.mp threadMember
        have released := (counted.control.thread t th found).drained
          (by simp [pcIs, Pc.afterRelease])
        rw [unreleased] at released
        cases released
      · -- A zero counter with nobody inside `Close` means that nothing is live.
        have balance := counted.exact_ unclearedBefore
        simp only [State.balance] at balance
        omega
    · exact zero
  · rw [ledger.maxActive, counted.maxActive]
  · rw [ledger.maxWait, counted.maxWait]
  · have capacity := counted.capacity
    rcases ledger.outstanding with fewer | ⟨free, unreleased, room, more⟩
    · omega
    · have balance := counted.exact_ (counted.control.uncleared unreleased)
      have mid := counted.control.midClose_free free
      rw [counted.maxActive] at room
      simp only [State.balance] at balance
      omega
  · intro pos
    have bound := counted.waiters pos
    rcases ledger.queue with fewer | ⟨room, more⟩
    · omega
    · rw [counted.maxWait] at room
      have room := room pos
      omega

theorem counted_of_reachable (reached : (system config).Reachable s) : Counted config s :=
  System.Reachable.invariant (fun _ initial => Counted.initial initial)
    (fun _ _ _ counted stepped => counted.step (stepped_of_next stepped)) reached

def ClearsUnlocked (s : State) : Label → Prop
  | .run t _ => ∀ th ∈ s.threads[t]?, th.pc = .clearClose → s.mu = none
  | _ => True

instance (s : State) : (label : Label) → Decidable (ClearsUnlocked s label)
  | .run _ _ => by
    dsimp only [ClearsUnlocked]
    infer_instance
  | .get | .put _ | .close _ | .release => isTrue trivial

structure Settled (config : Config) (s : State) : Prop where
  counted : Counted config s
  cleared : s.closeCleared = true → s.live = 0 ∧ s.openingConns = 0

/-- Cleared with the lock free, `close` leaves nothing live behind. -/
theorem Settled.step (settled : Settled config s) (met : ClearsUnlocked s label)
    (stepped : Stepped s label s') : Settled config s' := by
  have counted := settled.counted
  have countedAfter := counted.step stepped
  have ledger := ledger_step counted.control counted.placed stepped
  have before := outstanding_eq counted.placed
  have after := outstanding_eq countedAfter.placed
  refine ⟨countedAfter, fun cleared => ?_⟩
  have empty : s.live = 0 ∧ s.openingConns = 0 ∧ s.released = true := by
    by_cases clearedBefore : s.closeCleared = true
    · obtain ⟨noneLive, zero⟩ := settled.cleared clearedBefore
      exact ⟨noneLive, zero, counted.control.clearedReleased clearedBefore⟩
    · have uncleared : s.closeCleared = false := by simpa using clearedBefore
      rcases closeCleared_step stepped with same | ⟨t, th, rfl, found, pcIs⟩
      · rw [same, uncleared] at cleared
        cases cleared
      · have mem : .clearClose ∈ s.pcs :=
          mem_map.mpr ⟨th, mem_of_getElem? found, pcIs⟩
        have zero := counted.reading uncleared mem
        have mid := counted.control.midClose_free (met th found pcIs)
        have balance := counted.exact_ uncleared
        simp only [State.balance] at balance
        have released := (counted.control.thread t th found).drained
          (by simp [pcIs, Pc.afterRelease])
        exact ⟨by omega, zero, released⟩
  obtain ⟨noneLive, zero, released⟩ := empty
  refine ⟨?_, ?_⟩
  · rcases ledger.outstanding with fewer | ⟨_, unreleased, _, _⟩
    · omega
    · rw [released] at unreleased
      cases unreleased
  · rcases ledger.opening with same | unreleased | ⟨_, live⟩
    · rw [same, zero]
    · rw [released] at unreleased
      cases unreleased
    · omega

theorem settled_of_reachable (reached : (system config).ReachableUnder ClearsUnlocked s) :
    Settled config s := by
  refine System.ReachableUnder.invariant (fun first initial => ?_)
    (fun _ _ _ settled met stepped => settled.step met (stepped_of_next stepped)) reached
  have counted := Counted.initial initial
  obtain ⟨count, rfl, _⟩ := initial_filled initial
  exact ⟨counted, by simp [filled, emptyPool]⟩

/-- Outside the critical sections `openingConns` is the number of live
connections, which stays within `MaxCap`, and the queue stays within `MaxWait`,
as long as `close = nil` is stored only while the lock is free. -/
theorem openingConns_eq_live {config : Config} {s : State}
    (reached : (system config).ReachableUnder ClearsUnlocked s) :
    (s.mu = none → s.openingConns = s.live) ∧ (s.live : Int) ≤ config.maxCap ∧
      (0 < config.maxWait → (s.connReqs.length : Int) ≤ config.maxWait) := by
  have settled := settled_of_reachable reached
  have counted := settled.counted
  refine ⟨fun free => ?_, counted.capacity, counted.waiters⟩
  by_cases cleared : s.closeCleared = true
  · obtain ⟨noneLive, zero⟩ := settled.cleared cleared
    rw [zero, noneLive]
    rfl
  · have balance := counted.exact_ (by simpa using cleared)
    have mid := counted.control.midClose_free free
    have same := outstanding_eq counted.placed
    simp only [State.balance] at balance
    omega

/-- A caller returns its connection to a released pool and clears `close`. -/
theorem openingConns_eq_live_cleared :
    ∃ s, (system ⟨1, 1, 1⟩).ReachableUnder ClearsUnlocked s ∧ s.closeCleared = true ∧
      (s.mu = none → s.openingConns = s.live) ∧ (s.live : Int) ≤ 1 ∧
      ((0 : Int) < 1 → (s.connReqs.length : Int) ≤ 1) := by
  have reached := (system ⟨1, 1, 1⟩).reachableUnder_of_exec ClearsUnlocked
    (.flatten [.get :: goes 0 2, .release :: goes 1 2, .put (some 0) :: goes 2 7])
    ⟨fun _ => true, rfl⟩ rfl
  exact ⟨_, reached, rfl, openingConns_eq_live reached⟩

/-- Two callers return their connections to a released pool. The first clears
`close` after it read the counter in the middle of the second's `Close`, whose
call then panics: one connection is live and the counter is zero. -/
theorem openingConns_misses_connection :
    ∃ s, (system ⟨2, 2, 0⟩).Reachable s ∧ s.mu = none ∧ s.openingConns = 0 ∧ s.live = 1 := by
  have reached := (system ⟨2, 2, 0⟩).reachable_of_exec
    (.flatten [.get :: goes 0 2, .get :: goes 1 2, .release :: goes 2 2, .put (some 0) :: goes 3 5,
      .put (some 1) :: goes 4 4, goes 3 2, [.run 4 .go]]) ⟨fun _ => true, rfl⟩ rfl
  exact ⟨_, reached, rfl, rfl, by decide⟩

end TaosAdapter.ConnectPool
