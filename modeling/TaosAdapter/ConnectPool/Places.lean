import Mathlib.Data.List.Nodup
import TaosAdapter.ConnectPool.Control

/-!
Owns: the exact accounting of where a connection is. A connection is idle, in
the hands of a caller, in the channel of a waiter, or closed; `places` counts
how often. Every step moves a connection from one place to another, adds the
one it creates, or loses one in a step that is not `Lossless`.
-/

namespace TaosAdapter.ConnectPool

open Lib List

namespace State

variable (s : State)

def idle (conn : Conn) : Nat :=
  s.conns.count conn

def inHands (conn : Conn) : Nat :=
  s.held.count conn + tally (Thread.inHand conn) s.threads

def inChannels (conn : Conn) : Nat :=
  tally (Thread.inChannel conn) s.threads

def closings (conn : Conn) : Nat :=
  s.closed.count conn

def places (conn : Conn) : Nat :=
  s.idle conn + s.inHands conn + s.inChannels conn + s.closings conn

end State

theorem State.places_eq (s : State) (conn : Conn) : s.places conn = s.conns.count conn +
      (s.held.count conn + tally (Thread.inHand conn) s.threads) +
      tally (Thread.inChannel conn) s.threads + s.closed.count conn := rfl

def Thread.carries (conn : Conn) (th : Thread) : Nat :=
  th.inHand conn + th.inChannel conn

variable {s : State}

theorem places_setThread {t : Tid} {th : Thread} (found : s.threads[t]? = some th) (new : Thread)
    (conn : Conn) : (s.setThread t new).places conn + th.carries conn =
      s.places conn + new.carries conn := by
  have hands := tally_set (Thread.inHand conn) found new
  have channels := tally_set (Thread.inChannel conn) found new
  simp only [State.places_eq, State.setThread, Thread.carries]
  omega

variable (th : Thread)

theorem carries_eq_zero (conn : Conn) (handless : th.pc.conn? = none)
    (deaf : th.pc.awaits = false ∨ ∀ content, th.slot ≠ .full content) : th.carries conn = 0 := by
  simp only [Thread.carries, Thread.inHand, Thread.inChannel, handless]
  rcases deaf with pcDeaf | slotEmpty
  · simp [pcDeaf]
  · simp [slotEmpty conn]

theorem carries_of_conn (owned conn : Conn) (inHand : th.pc.conn? = some owned) :
    th.carries conn = if owned = conn then 1 else 0 := by
  have deaf : th.pc.awaits = false := by
    cases pcIs : th.pc <;> simp_all [Pc.conn?, Pc.awaits]
  simp [Thread.carries, Thread.inHand, Thread.inChannel, inHand, deaf]

theorem carries_of_slot {owned : Conn} (conn : Conn) (awaits : th.pc.awaits = true)
    (full : th.slot = .full owned) : th.carries conn = if owned = conn then 1 else 0 := by
  have handless : th.pc.conn? = none := by
    cases pcIs : th.pc <;> simp_all [Pc.conn?, Pc.awaits]
  simp [Thread.carries, Thread.inHand, Thread.inChannel, handless, awaits, full]

/-- The step does not drop a connection: a cancelled waiter that finds the pool
released has no connection in its channel, and `close` is still set where it is
called. -/
def Lossless (s : State) : Label → Prop
  | .run t _ => ∀ th, s.threads[t]? = some th →
      (th.pc = .cancelled → s.released = true → ∀ conn, th.slot ≠ .full conn) ∧
      (th.pc.inSection = true → s.closeCleared = false ∨
        (th.pc.conn? = none ∧ s.conns = []))
  | _ => True

def newlyCreated (before after conn : Nat) : Nat :=
  if before ≤ conn ∧ conn < after then 1 else 0

/-- What happens to a connection in one step: it keeps its number of places, it
is created, or it is lost in a step that is not `Lossless`. -/
def Accounted (s s' : State) (label : Label) (conn : Conn) : Prop :=
  ∃ lost, s'.places conn + lost = s.places conn + newlyCreated s.created s'.created conn ∧
    (Lossless s label → lost = 0)

section

variable {s s' : State} {label : Label} {t : Tid} {th : Thread}

theorem newlyCreated_self (count conn : Nat) : newlyCreated count count conn = 0 :=
  if_neg fun between => absurd between.2 (Nat.not_lt.mpr between.1)

theorem newlyCreated_succ (count conn : Nat) :
    newlyCreated count (count + 1) conn = if count = conn then 1 else 0 := by
  rw [newlyCreated]
  by_cases same : count = conn
  · subst same
    simp
  · rw [if_neg same, if_neg]
    rintro ⟨lower, upper⟩
    exact same (Nat.le_antisymm lower (Nat.le_of_lt_succ upper))

variable {conn : Conn}

theorem Accounted.ofLost (created : s'.created = s.created) {lost : Nat}
    (moved : s'.places conn + lost = s.places conn) (kept : Lossless s label → lost = 0) :
    Accounted s s' label conn :=
  ⟨lost, by rw [created, newlyCreated_self, moved, Nat.add_zero], kept⟩

theorem Accounted.ofEq (created : s'.created = s.created) (same : s'.places conn = s.places conn) :
    Accounted s s' label conn :=
  .ofLost created same fun _ => rfl

theorem places_congr (conn : Conn) (conns : s'.conns = s.conns) (held : s'.held = s.held)
    (closed : s'.closed = s.closed) (threads : s'.threads = s.threads) :
    s'.places conn = s.places conn := by
  simp only [State.places_eq, conns, held, closed, threads]

theorem places_spawn (pc : Pc) (conn : Conn) :
    (s.spawn pc).places conn = s.places conn + Thread.carries conn ⟨pc, .empty⟩ := by
  simp only [State.places_eq, State.spawn, tally_append, tally_cons, tally_nil, Thread.carries]
  omega

theorem places_move (found : s.threads[t]? = some th) (pc : Pc) (conn : Conn) :
    (s.move t th pc).places conn + th.carries conn =
      s.places conn + Thread.carries conn { th with pc := pc } :=
  places_setThread found _ conn

theorem carries_bare (th : Thread) (conn : Conn) (isBare : th.pc.bare = true) :
    th.carries conn = 0 := by
  obtain ⟨handless, deaf, _⟩ := Pc.bare_spec isBare
  exact carries_eq_zero th conn handless (.inl deaf)

section

variable (found : s.threads[t]? = some th)

include found

theorem places_move_bare (pc : Pc) (isBare : pc.bare = true) (conn : Conn) :
    (s.move t th pc).places conn + th.carries conn = s.places conn := by
  rw [places_move found pc conn, carries_bare { th with pc := pc } conn isBare, Nat.add_zero]

theorem places_move_hand {pc : Pc} (owned : Conn)
    (before : th.pc.conn? = some owned) (after : pc.conn? = some owned) (conn : Conn) :
    (s.move t th pc).places conn = s.places conn := by
  have moved := places_move found pc conn
  rw [carries_of_conn th owned conn before,
    carries_of_conn { th with pc := pc } owned conn after] at moved
  exact Nat.add_right_cancel moved

theorem places_give (given conn : Conn) :
    (s.give t given).places conn + th.carries conn =
      s.places conn + if given = conn then 1 else 0 := by
  have moved := places_setThread (s := { s with held := given :: s.held }) found
    ⟨.finished (.conn given), .empty⟩ conn
  rw [carries_eq_zero ⟨.finished (.conn given), .empty⟩ conn rfl (.inl rfl)] at moved
  rw [State.give, moved]
  simp only [State.places_eq, count_cons, beq_iff_eq]
  omega

theorem places_closeReturn (after : After) (conn : Conn) :
    (s.closeReturn t th after).places conn + th.carries conn = s.places conn := by
  cases after with
  | caller => exact places_move_bare found (.finished .ok) rfl conn
  | put => exact places_move_bare found .readOpening rfl conn

end

variable {waiter : Tid}

theorem Control.queued_carries (control : Control s) {queued : Thread}
    (found : s.threads[waiter]? = some queued) (mem : waiter ∈ s.connReqs) (conn : Conn) :
    queued.pc.awaits = true ∧ queued.carries conn = 0 := by
  obtain ⟨waits, empty⟩ := (control.thread waiter queued found).queued mem
  have channelless : ∀ content, queued.slot ≠ .full content := by simp [empty]
  rcases waits with waiting | cancelled
  · exact ⟨by simp [waiting, Pc.awaits],
      carries_eq_zero queued conn (by simp [waiting, Pc.conn?]) (.inr channelless)⟩
  · exact ⟨by simp [cancelled, Pc.awaits],
      carries_eq_zero queued conn (by simp [cancelled, Pc.conn?]) (.inr channelless)⟩

variable {slot : Slot}

theorem places_handOff (control : Control s) {given : Conn}
    (found : s.threads[t]? = some ⟨.putLock given, slot⟩) {rest : List Tid}
    (queue : s.connReqs = waiter :: rest) (conn : Conn) :
    (s.handOff t ⟨.putLock given, slot⟩ given waiter rest).places conn = s.places conn := by
  have mem : waiter ∈ s.connReqs := by simp [queue]
  obtain ⟨queued, queuedFound⟩ : ∃ queued, s.threads[waiter]? = some queued :=
    ⟨_, List.getElem?_eq_getElem (control.queueInside waiter mem)⟩
  obtain ⟨awaits, before⟩ := control.queued_carries queuedFound mem conn
  have ne : waiter ≠ t := by
    rintro rfl
    exact control.not_queued found (by simp) mem
  -- First the send into the waiter's channel, then the return of `Put`.
  let sent := s.setThread waiter { queued with slot := .full given }
  have sentFound : sent.threads[t]? = some ⟨.putLock given, slot⟩ := by
    simp only [sent, State.setThread]
    rw [List.getElem?_set_ne ne]
    exact found
  have sentThreads : (s.threads.modify waiter fun queued => { queued with slot := .full given }) =
      sent.threads := by
    simp only [sent, State.setThread]
    apply ext_getElem?
    intro idx
    rw [List.getElem?_modify, List.getElem?_set]
    by_cases same : waiter = idx
    · subst same
      rw [queuedFound, if_pos rfl, if_pos (control.queueInside waiter mem)]
      simp
    · simp [same]
  have first := places_setThread queuedFound { queued with slot := .full given } conn
  have second := places_move_bare sentFound (.finished .ok) rfl conn
  rw [before, carries_of_slot { queued with slot := .full given } conn awaits rfl]
    at first
  rw [carries_of_conn _ given conn rfl] at second
  have same : (s.handOff t ⟨.putLock given, slot⟩ given waiter rest).places conn =
      (sent.move t ⟨.putLock given, slot⟩ (.finished .ok)).places conn :=
    places_congr conn rfl rfl rfl
      (congrArg (fun threads => threads.set t ⟨.finished .ok, slot⟩) sentThreads)
  rw [same]
  exact Nat.add_right_cancel (second.trans first)

theorem places_releaseStart (control : Control s)
    (found : s.threads[t]? = some ⟨.releaseLock, slot⟩) (conn : Conn) :
    (s.releaseStart t ⟨.releaseLock, slot⟩).places conn = s.places conn := by
  have outside : t ∉ s.connReqs := control.not_queued found (by simp)
  let closedSlots := { s with threads := State.closeSlots s.connReqs s.threads }
  have stillFound : closedSlots.threads[t]? = some ⟨.releaseLock, slot⟩ := by
    simp [closedSlots, State.closeSlots, found, outside]
  have moved := places_move stillFound .draining conn
  rw [carries_bare _ conn rfl, carries_eq_zero ⟨.draining, slot⟩ conn rfl (.inl rfl)] at moved
  -- A queued channel is empty, so closing it loses no connection.
  have emptied (weight : Thread → Nat)
      (blind : ∀ queued : Thread, queued.slot = .empty →
        weight { queued with slot := .closed } = weight queued) :
      tally weight closedSlots.threads = tally weight s.threads := by
    apply tally_congr
    intro idx
    simp only [closedSlots, State.closeSlots, List.getElem?_mapIdx]
    cases queuedFound : s.threads[idx]? with
    | none => rfl
    | some queued =>
      simp only [Option.map_some]
      split
      · rename_i mem
        rw [blind queued ((control.thread idx queued queuedFound).queued mem).2]
      · rfl
  have hands := emptied (Thread.inHand conn) (fun _ _ => rfl)
  have channels := emptied (Thread.inChannel conn) (fun queued empty => by
    simp [Thread.inChannel, empty])
  have same : closedSlots.places conn = s.places conn := by
    simp only [State.places_eq, hands, channels]
    rfl
  have moves : (s.releaseStart t ⟨.releaseLock, slot⟩).places conn =
      (closedSlots.move t ⟨.releaseLock, slot⟩ .draining).places conn :=
    places_congr conn rfl rfl rfl rfl
  rw [moves, ← same]
  exact moved

end

variable {label : Label} {s' : State}

/-- One case per kind of step: where the connection was and where it is. -/
theorem accounted_step (control : Control s) (stepped : Stepped s label s') (conn : Conn) :
    Accounted s s' label conn := by
  cases stepped with
  | spawn pc handless deaf _ _ =>
    refine .ofEq rfl ?_
    rw [places_spawn, carries_eq_zero ⟨pc, .empty⟩ conn handless (.inl deaf), Nat.add_zero]
  | giveBack given pc held carried =>
    refine .ofEq rfl ?_
    have inHand : Thread.carries conn ⟨pc, .empty⟩ = if given = conn then 1 else 0 := by
      apply carries_of_conn
      rcases carried with rfl | rfl <;> rfl
    have erased : (s.held.erase given).count conn + (if given = conn then 1 else 0) =
        s.held.count conn := by
      have pos := count_pos_iff.mpr held
      rw [count_erase]
      by_cases same : given = conn
      · subst same
        simp
        omega
      · simp [same]
    rw [places_spawn, inHand]
    simp only [State.places_eq]
    omega
  | @quiet t th _ pc found keeps =>
    refine .ofEq rfl ?_
    have moved := places_move found pc conn
    have same : Thread.carries conn { th with pc := pc } = th.carries conn := by
      simp only [Thread.carries, keeps.channel conn, Thread.inHand, keeps.handless,
        keeps.stillHandless]
    rw [same] at moved
    exact Nat.add_right_cancel moved
  | abandon found _ released =>
    refine .ofLost rfl (places_move_bare found _ rfl conn) fun lossless => ?_
    exact carries_eq_zero _ conn rfl (.inr ((lossless _ found).1 rfl released))
  | receiveIdle given rest found conns =>
    refine .ofEq rfl ?_
    have moved := places_give (s := { s with conns := rest }) found given conn
    rw [carries_bare _ conn rfl] at moved
    have taken : State.places { s with conns := rest } conn + (if given = conn then 1 else 0) =
        s.places conn := by
      simp only [State.places_eq, conns, count_cons, beq_iff_eq]
      omega
    exact moved.trans taken
  | receiveSlot given found pcIs =>
    refine .ofEq rfl ?_
    have moved := places_give found given conn
    rw [carries_of_slot _ conn (by rcases pcIs with rfl | rfl <;> rfl) rfl] at moved
    exact Nat.add_right_cancel moved
  | enqueue found =>
    refine .ofEq rfl ?_
    have moved := places_setThread found ⟨.waiting, .empty⟩ conn
    rw [carries_bare _ conn rfl,
      carries_eq_zero ⟨.waiting, .empty⟩ conn rfl (.inr (by simp))] at moved
    exact moved
  | create found =>
    have moved := places_give
      (s := { s with openingConns := s.openingConns + 1, created := s.created + 1 })
      found s.created conn
    rw [carries_bare _ conn rfl] at moved
    refine ⟨0, moved.trans ?_, fun _ => rfl⟩
    exact congrArg (s.places conn + ·) (newlyCreated_succ s.created conn).symm
  | dequeue found _ _ queued =>
    refine .ofEq rfl ?_
    have moved := places_move_bare found (.finished .errTimeout) rfl conn
    rw [(control.queued_carries found queued conn).2] at moved
    exact moved
  | handOff given waiter rest found _ _ queue =>
    exact .ofEq rfl (places_handOff control found queue conn)
  | putIdle given found =>
    refine .ofEq rfl ?_
    have moved := places_move_bare (s := { s with conns := s.conns ++ [given] })
      found (.finished .ok) rfl conn
    rw [carries_of_conn _ given conn rfl] at moved
    have idle : State.places { s with conns := s.conns ++ [given] } conn =
        s.places conn + if given = conn then 1 else 0 := by
      simp only [State.places_eq, count_append, count_singleton, beq_iff_eq]
      omega
    exact Nat.add_right_cancel (moved.trans idle)
  | putRefused given _ found | closeLock given _ found | closeProceed given _ found
  | closeCount given _ found =>
    exact .ofEq rfl (places_move_hand found given rfl rfl conn)
  | closeSkip given after found cleared =>
    refine .ofLost (by cases after <;> rfl)
      (places_closeReturn (s := { s with mu := none }) found after conn) fun lossless => ?_
    have kept := (lossless _ found).2 rfl
    simp [cleared, Pc.conn?] at kept
  | closePanic given after found cleared =>
    refine .ofLost rfl (places_move_bare (s := { s with mu := none }) found _ rfl conn)
      fun lossless => ?_
    have kept := (lossless _ found).2 rfl
    simp [cleared, Pc.conn?] at kept
  | closeDone given after found =>
    refine .ofEq (by cases after <;> rfl) ?_
    have moved := places_closeReturn
      (s := { s with mu := none, closed := given :: s.closed }) found after conn
    rw [carries_of_conn _ given conn rfl] at moved
    have closed : State.places { s with mu := none, closed := given :: s.closed } conn =
        s.places conn + if given = conn then 1 else 0 := by
      simp only [State.places_eq, count_cons, beq_iff_eq]
      omega
    exact Nat.add_right_cancel (moved.trans closed)
  | clearClose found =>
    refine .ofEq rfl ?_
    have moved := places_move_bare found (.finished .ok) rfl conn
    rw [carries_bare _ conn rfl] at moved
    exact moved
  | release found => exact .ofEq rfl (places_releaseStart control found conn)
  | @drainPanic t slot given rest found conns cleared =>
    have moved := places_move_bare (s := { s with
      conns := rest, openingConns := s.openingConns - 1, mu := none })
      found .panicked rfl conn
    refine .ofLost rfl
      (?_ : _ + (Thread.carries conn ⟨.draining, slot⟩ + if given = conn then 1 else 0) = _)
      fun lossless => ?_
    · rw [← Nat.add_assoc, moved]
      simp only [State.places_eq, conns, count_cons, beq_iff_eq]
      omega
    · have kept := (lossless _ found).2 rfl
      simp [cleared, conns] at kept
  | drainOne given rest found conns =>
    refine .ofEq rfl ?_
    simp only [State.places_eq, conns, count_cons, beq_iff_eq]
    omega
  | drainDone found =>
    refine .ofEq rfl ?_
    have moved := places_move_bare (s := { s with mu := none }) found (.finished .ok)
      rfl conn
    rw [carries_eq_zero _ conn rfl (.inl rfl)] at moved
    exact moved

theorem places_filled (config : Config) (count conn : Nat) :
    (filled config count).places conn = if conn < count then 1 else 0 := by
  simp only [State.places_eq, filled, emptyPool, count_nil, tally_nil, Nat.add_zero]
  by_cases inside : conn < count
  · rw [if_pos inside]
    exact count_eq_one_of_mem nodup_range (mem_range.mpr inside)
  · rw [if_neg inside]
    exact count_eq_zero_of_not_mem fun mem => inside (mem_range.mp mem)

def Placed (s : State) : Prop :=
  ∀ conn : Nat, s.places conn ≤ if conn < s.created then 1 else 0

theorem created_step (stepped : Stepped s label s') : s.created ≤ s'.created := by
  cases stepped with
  | create => exact Nat.le_succ _
  | closeSkip _ after | closeDone _ after => cases after <;> exact Nat.le_refl _
  | _ => exact Nat.le_refl _

theorem Placed.step (placed : Placed s) (control : Control s) (stepped : Stepped s label s') :
    Placed s' := by
  intro conn
  obtain ⟨lost, moved, _⟩ := accounted_step control stepped conn
  have before := placed conn
  have grows := created_step stepped
  rw [newlyCreated] at moved
  split at moved <;> split at before <;> split <;> omega

theorem Placed.unclosed (placed : Placed s) {conn : Nat}
    (elsewhere : s.closings conn < s.places conn) : conn < s.created ∧ conn ∉ s.closed := by
  have bound := placed conn
  split at bound
  · rename_i inside
    refine ⟨inside, fun mem => ?_⟩
    have closed : 0 < s.closings conn := count_pos_iff.mpr mem
    omega
  · omega

theorem closed_nodup (placed : Placed s) : s.closed.Nodup := by
  rw [nodup_iff_count_le_one]
  intro conn
  have bound := placed conn
  have part : s.closed.count conn ≤ s.places conn := Nat.le_add_left _ _
  split at bound <;> omega

theorem lt_created_of_closed (placed : Placed s) {conn : Nat} (mem : conn ∈ s.closed) :
    conn < s.created := by
  have bound := placed conn
  have part : s.closed.count conn ≤ s.places conn := Nat.le_add_left _ _
  have pos := count_pos_iff.mpr mem
  split at bound
  · assumption
  · omega

end TaosAdapter.ConnectPool
