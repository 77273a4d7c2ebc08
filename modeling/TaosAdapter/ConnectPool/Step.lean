import TaosAdapter.ConnectPool.Model

/-!
Owns: the inversion of the pool's step function. `Stepped` says once what a
step can do, guards included, and `stepped_of_next` reads it off the model;
every invariant of the pool is then one case analysis over `Stepped`.

The moves that touch no connection, no counter and no lock are one
constructor, `quiet`, with what they keep as its fields.
-/

namespace TaosAdapter.ConnectPool

open Lib

namespace Pc

def conn? : Pc → Option Conn
  | .putLock conn | .closeLock conn _ | .closeCheck conn _ | .closeCount conn _
  | .closeCall conn _ => some conn
  | _ => none

def awaits : Pc → Bool
  | .waiting | .cancelled | .takeReq => true
  | _ => false

def inSection : Pc → Bool
  | .closeCheck _ _ | .closeCount _ _ | .closeCall _ _ | .draining => true
  | _ => false

def afterRelease : Pc → Bool
  | .closeLock _ .put | .closeCheck _ .put | .closeCount _ .put | .closeCall _ .put
  | .readOpening | .clearClose | .draining => true
  | _ => false

def bare : Pc → Bool
  | .getConns | .poll | .enroll | .readOpening | .clearClose | .releaseLock
  | .finished _ | .panicked => true
  | _ => false

theorem bare_spec {pc : Pc} (isBare : pc.bare = true) :
    pc.conn? = none ∧ pc.awaits = false ∧ pc.inSection = false := by
  cases pc <;> simp_all [bare, conn?, awaits, inSection]

end Pc

def Thread.inHand (conn : Conn) (thread : Thread) : Nat :=
  if thread.pc.conn? = some conn then 1 else 0

def Thread.inChannel (conn : Conn) (thread : Thread) : Nat :=
  if thread.pc.awaits = true ∧ thread.slot = .full conn then 1 else 0

structure Quiet (s : State) (t : Tid) (thread : Thread) (choice : Choice) (pc : Pc) : Prop where
  handless : thread.pc.conn? = none
  stillHandless : pc.conn? = none
  channel : ∀ conn, Thread.inChannel conn { thread with pc := pc } = thread.inChannel conn
  outside : thread.pc.inSection = false
  stillOutside : pc.inSection = false
  after : pc.afterRelease = true → thread.pc.afterRelease = true
  waits : thread.pc = .waiting → thread.slot = .empty → pc = .cancelled
  dequeued : thread.pc = .cancelled → t ∉ s.connReqs
  zero : pc = .clearClose → s.openingConns = 0
  timeout : pc = .cancelled → thread.pc = .waiting ∧ choice = .ctxDone

inductive Stepped (s : State) : Label → State → Prop where
  | spawn {label} pc (handless : pc.conn? = none) (deaf : pc.awaits = false)
      (outside : pc.inSection = false) (early : pc.afterRelease = false) :
      Stepped s label (s.spawn pc)
  | giveBack {label : Label} (conn : Conn) (pc : Pc) (held : conn ∈ s.held)
      (carried : pc = .putLock conn ∨ pc = .closeLock conn .caller) :
      Stepped s label ({ s with held := s.held.erase conn }.spawn pc)
  | quiet {t thread choice} pc (found : s.threads[t]? = some thread)
      (keeps : Quiet s t thread choice pc) :
      Stepped s (.run t choice) (s.move t thread pc)
  | abandon {t slot} (found : s.threads[t]? = some ⟨.cancelled, slot⟩) (free : s.mu = none)
      (released : s.released = true) :
      Stepped s (.run t .go) (s.finish t ⟨.cancelled, slot⟩ .errClosed)
  | receiveIdle {t : Tid} {slot : Slot} (conn : Conn) (rest : List Conn)
      (found : s.threads[t]? = some ⟨.poll, slot⟩) (conns : s.conns = conn :: rest) :
      Stepped s (.run t .go) ({ s with conns := rest }.give t conn)
  | receiveSlot {t pc} conn (found : s.threads[t]? = some ⟨pc, .full conn⟩)
      (pcIs : pc = .waiting ∨ pc = .takeReq) :
      Stepped s (.run t .go) (s.give t conn)
  | enqueue {t slot} (found : s.threads[t]? = some ⟨.enroll, slot⟩) (free : s.mu = none)
      (unreleased : s.released = false) (exhausted : s.maxActive ≤ s.openingConns)
      (room : 0 < s.maxWait → (s.connReqs.length : Int) < s.maxWait) :
      Stepped s (.run t .go) (s.enqueue t)
  | create {t slot} (found : s.threads[t]? = some ⟨.enroll, slot⟩) (free : s.mu = none)
      (unreleased : s.released = false) (capacity : s.openingConns < s.maxActive) :
      Stepped s (.run t .go) (s.create t)
  | dequeue {t : Tid} {slot : Slot} (found : s.threads[t]? = some ⟨.cancelled, slot⟩)
      (free : s.mu = none) (unreleased : s.released = false) (queued : t ∈ s.connReqs) :
      Stepped s (.run t .go)
        ({ s with connReqs := s.connReqs.erase t }.finish t ⟨.cancelled, slot⟩ .errTimeout)
  | handOff {t slot} conn waiter rest (found : s.threads[t]? = some ⟨.putLock conn, slot⟩)
      (free : s.mu = none) (unreleased : s.released = false) (queue : s.connReqs = waiter :: rest) :
      Stepped s (.run t .go) (s.handOff t ⟨.putLock conn, slot⟩ conn waiter rest)
  | putIdle {t : Tid} {slot : Slot} (conn : Conn)
      (found : s.threads[t]? = some ⟨.putLock conn, slot⟩) (free : s.mu = none)
      (unreleased : s.released = false) (queue : s.connReqs = []) :
      Stepped s (.run t .go)
        ({ s with conns := s.conns ++ [conn] }.finish t ⟨.putLock conn, slot⟩ .ok)
  | putRefused {t slot} conn after (found : s.threads[t]? = some ⟨.putLock conn, slot⟩)
      (free : s.mu = none) (released : after = .put → s.released = true) :
      Stepped s (.run t .go) (s.move t ⟨.putLock conn, slot⟩ (.closeLock conn after))
  | closeLock {t slot} conn after (found : s.threads[t]? = some ⟨.closeLock conn after, slot⟩)
      (free : s.mu = none) :
      Stepped s (.run t .go) (s.closeLock t ⟨.closeLock conn after, slot⟩ conn after)
  | closeSkip {t : Tid} {slot : Slot} (conn : Conn) (after : After)
      (found : s.threads[t]? = some ⟨.closeCheck conn after, slot⟩)
      (cleared : s.closeCleared = true) :
      Stepped s (.run t .go)
        ({ s with mu := none }.closeReturn t ⟨.closeCheck conn after, slot⟩ after)
  | closeProceed {t slot} conn after (found : s.threads[t]? = some ⟨.closeCheck conn after, slot⟩) :
      Stepped s (.run t .go) (s.move t ⟨.closeCheck conn after, slot⟩ (.closeCount conn after))
  | closeCount {t slot} conn after (found : s.threads[t]? = some ⟨.closeCount conn after, slot⟩) :
      Stepped s (.run t .go) (s.closeCount t ⟨.closeCount conn after, slot⟩ conn after)
  | closePanic {t : Tid} {slot : Slot} (conn : Conn) (after : After)
      (found : s.threads[t]? = some ⟨.closeCall conn after, slot⟩)
      (cleared : s.closeCleared = true) :
      Stepped s (.run t .go) ({ s with mu := none }.move t ⟨.closeCall conn after, slot⟩ .panicked)
  | closeDone {t : Tid} {slot : Slot} (conn : Conn) (after : After)
      (found : s.threads[t]? = some ⟨.closeCall conn after, slot⟩)
      (uncleared : s.closeCleared = false) :
      Stepped s (.run t .go) ({ s with mu := none, closed := conn :: s.closed }.closeReturn
        t ⟨.closeCall conn after, slot⟩ after)
  | clearClose {t slot} (found : s.threads[t]? = some ⟨.clearClose, slot⟩) :
      Stepped s (.run t .go) (s.clearClose t ⟨.clearClose, slot⟩)
  | release {t slot} (found : s.threads[t]? = some ⟨.releaseLock, slot⟩) (free : s.mu = none)
      (unreleased : s.released = false) :
      Stepped s (.run t .go) (s.releaseStart t ⟨.releaseLock, slot⟩)
  | drainPanic {t : Tid} {slot : Slot} (conn : Conn) (rest : List Conn)
      (found : s.threads[t]? = some ⟨.draining, slot⟩) (conns : s.conns = conn :: rest)
      (cleared : s.closeCleared = true) :
      Stepped s (.run t .go)
        ({ s with conns := rest, openingConns := s.openingConns - 1, mu := none }.move
          t ⟨.draining, slot⟩ .panicked)
  | drainOne {t : Tid} {slot : Slot} (conn : Conn) (rest : List Conn)
      (found : s.threads[t]? = some ⟨.draining, slot⟩) (conns : s.conns = conn :: rest)
      (uncleared : s.closeCleared = false) :
      Stepped s (.run t .go)
        { s with
          conns := rest, openingConns := s.openingConns - 1, closed := conn :: s.closed }
  | drainDone {t : Tid} {slot : Slot} (found : s.threads[t]? = some ⟨.draining, slot⟩)
      (conns : s.conns = []) :
      Stepped s (.run t .go) ({ s with mu := none }.finish t ⟨.draining, slot⟩ .ok)

section

variable {s s' : State} {t : Tid} {slot : Slot} {choice : Choice} {th : Thread}

theorem Stepped.ofBare (found : s.threads[t]? = some th) {pc : Pc} (old : th.pc.bare = true)
    (new : pc.bare = true) (after : pc.afterRelease = true → th.pc.afterRelease = true)
    (zero : pc = .clearClose → s.openingConns = 0) :
    Stepped s (.run t choice) (s.move t th pc) := by
  obtain ⟨handless, deaf, outside⟩ := Pc.bare_spec old
  obtain ⟨stillHandless, stillDeaf, stillOutside⟩ := Pc.bare_spec new
  refine .quiet pc found
    ⟨handless, stillHandless, ?_, outside, stillOutside, after, ?_, ?_, zero, ?_⟩
  · simp [Thread.inChannel, deaf, stillDeaf]
  · intro waiting
    simp [waiting, Pc.awaits] at deaf
  · intro cancelled
    simp [cancelled, Pc.awaits] at deaf
  · rintro rfl
    simp [Pc.awaits] at stillDeaf

theorem Stepped.ofReturn (found : s.threads[t]? = some th) (old : th.pc.bare = true)
    (outcome : Outcome) : Stepped s (.run t choice) (s.finish t th outcome) :=
  .ofBare found old rfl (by simp [Pc.afterRelease]) (by simp)

theorem stepped_locking {before after res : State} (entered : before.locking after = some res) :
    before.mu = none ∧ after = res := by
  rw [State.locking] at entered
  split at entered
  · exact ⟨by assumption, Option.some.inj entered⟩
  · cases entered

theorem stepped_receive {pc : Pc} (found : s.threads[t]? = some ⟨pc, slot⟩)
    (pcIs : pc = .waiting ∨ pc = .takeReq) (received : s.receive t ⟨pc, slot⟩ = some s') :
    Stepped s (.run t .go) s' := by
  cases slot with
  | full conn =>
    cases received
    exact .receiveSlot conn found pcIs
  | closed =>
    cases received
    rcases pcIs with rfl | rfl
    all_goals
      exact .quiet (.finished .errClosed) found ⟨rfl, rfl, by simp [Thread.inChannel], rfl, rfl,
        by simp [Pc.afterRelease], by simp, by simp, by simp, by simp⟩
  | empty => cases received

theorem stepped_enroll (found : s.threads[t]? = some ⟨.enroll, slot⟩) (free : s.mu = none)
    (stepped : s.enroll t ⟨.enroll, slot⟩ choice = some s') : Stepped s (.run t choice) s' := by
  unfold State.enroll at stepped
  repeat' split at stepped
  all_goals cases stepped
  case h_1.isFalse.isTrue.isFalse.refl unreleased exhausted room =>
    refine .enqueue found free (by simpa using unreleased) exhausted fun pos => ?_
    by_contra full
    exact room ⟨pos, by omega⟩
  case h_1.isFalse.isFalse.isFalse.refl unreleased capacity _ =>
    exact .create found free (by simpa using unreleased) (by omega)
  all_goals exact .ofReturn found rfl _

theorem stepped_cancel (found : s.threads[t]? = some ⟨.cancelled, slot⟩) (free : s.mu = none) :
    Stepped s (.run t .go) (s.cancel t ⟨.cancelled, slot⟩) := by
  rw [State.cancel]
  split
  · rename_i released
    exact .abandon found free released
  · rename_i unreleased
    split
    · rename_i queued
      exact .dequeue found free (by simpa using unreleased) queued
    · rename_i notQueued
      exact .quiet .takeReq found ⟨rfl, rfl, fun _ => rfl, rfl, rfl, by simp [Pc.afterRelease],
        by simp, fun _ => notQueued, by simp, by simp⟩

theorem stepped_put {conn : Conn} (found : s.threads[t]? = some ⟨.putLock conn, slot⟩)
    (free : s.mu = none) : Stepped s (.run t .go) (s.put t ⟨.putLock conn, slot⟩ conn) := by
  rw [State.put]
  split
  · rename_i released
    exact .putRefused conn .put found free fun _ => released
  · rename_i unreleased
    have open_ : s.released = false := by simpa using unreleased
    split
    · rename_i waiter rest queue
      exact .handOff conn waiter rest found free open_ queue
    · rename_i queue
      split
      · exact .putIdle conn found free open_ queue
      · exact .putRefused conn .caller found free (by simp)

theorem stepped_runThread (found : s.threads[t]? = some th)
    (stepped : s.runThread t th choice = some s') : Stepped s (.run t choice) s' := by
  obtain ⟨pc, slot⟩ := th
  simp only [State.runThread] at stepped
  split at stepped
  case h_3 =>
    split at stepped
    · rename_i free
      exact stepped_enroll found free stepped
    · cases stepped
  case h_4 => exact stepped_receive found (.inl rfl) stepped
  case h_7 => exact stepped_receive found (.inr rfl) stepped
  case' h_1 | h_6 | h_8 | h_9 | h_15 => obtain ⟨free, rfl⟩ := stepped_locking stepped
  case h_6 => exact stepped_cancel found free
  case h_8 => exact stepped_put found free
  case h_9 => exact .closeLock _ _ found free
  case h_1 =>
    rw [State.getConns]
    split
    · exact .ofReturn found rfl .errClosed
    · exact .ofBare found rfl rfl (by simp [Pc.afterRelease]) (by simp)
  case h_15 =>
    rw [State.releaseLock]
    split
    · exact .ofReturn found rfl .ok
    · rename_i unreleased
      exact .release found free (by simpa using unreleased)
  all_goals cases stepped
  case h_2 =>
    rw [State.poll]
    repeat' split
    · rename_i conn rest conns
      exact .receiveIdle conn rest found conns
    · exact .ofReturn found rfl .errClosed
    · exact .ofBare found rfl rfl (by simp [Pc.afterRelease]) (by simp)
  case h_5 =>
    exact .quiet .cancelled found ⟨rfl, rfl, fun _ => rfl, rfl, rfl, by simp [Pc.afterRelease],
      fun _ _ => rfl, by simp, by simp, fun _ => ⟨rfl, rfl⟩⟩
  case h_10 =>
    rw [State.closeCheck]
    split
    · rename_i cleared
      exact .closeSkip _ _ found cleared
    · exact .closeProceed _ _ found
  case h_11 => exact .closeCount _ _ found
  case h_12 =>
    rw [State.closeCall]
    split
    · rename_i cleared
      exact .closePanic _ _ found cleared
    · rename_i uncleared
      exact .closeDone _ _ found (by simpa using uncleared)
  case h_13 =>
    rw [State.readOpening]
    split
    · rename_i zero
      exact .ofBare found rfl rfl (fun _ => rfl) fun _ => zero
    · exact .ofReturn found rfl .ok
  case h_14 => exact .clearClose found
  case h_16 =>
    rw [State.drain]
    repeat' split
    · rename_i conn rest conns cleared
      exact .drainPanic conn rest found conns cleared
    · rename_i conn rest conns uncleared
      exact .drainOne conn rest found conns (by simpa using uncleared)
    · rename_i conns
      exact .drainDone found conns

theorem stepped_of_next {label : Label} (stepped : s.next label = some s') :
    Stepped s label s' := by
  cases label with
  | get | release =>
    cases stepped
    exact .spawn _ rfl rfl rfl rfl
  | put conn =>
    cases conn with
    | none =>
      cases stepped
      exact .spawn _ rfl rfl rfl rfl
    | some conn =>
      simp only [State.next, State.giveBack] at stepped
      split at stepped
      · rename_i held
        cases stepped
        exact .giveBack conn _ held (.inl rfl)
      · cases stepped
  | close conn =>
    cases conn with
    | none =>
      cases stepped
      exact .spawn _ rfl rfl rfl rfl
    | some conn =>
      simp only [State.next, State.giveBack] at stepped
      split at stepped
      · rename_i held
        cases stepped
        exact .giveBack conn _ held (.inr rfl)
      · cases stepped
  | run t choice =>
    simp only [State.next] at stepped
    split at stepped
    · rename_i th found
      exact stepped_runThread found stepped
    · cases stepped

end

end TaosAdapter.ConnectPool
