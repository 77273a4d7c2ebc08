import TaosAdapter.Session.Model

/-!
Owns: the inversion of a session's step function. `Advanced` lists every step
of every goroutine with its guards; the invariants of the session are case
analyses over it.
-/

namespace TaosAdapter.Session

open Lib List

variable {Action : Type}

section

variable (protocol : Protocol Action) (capacity : Nat) (s : State Action) (t : Nat)

inductive Advanced : Pc Action → Choice Action → Move Shared (Pc Action) → Prop where
  -- the read pump
  | keyless action (unset : s.shared.keyed = false) :
      Advanced .reading (.message action) ⟨s.shared, .panicked, []⟩
  | ignored action (closed : s.shared.closed = true) :
      Advanced .reading (.message action) ⟨s.shared, .reading, []⟩
  | accepted action (open_ : s.shared.closed = false) :
      Advanced .reading (.message action) ⟨s.shared, .dispatch action, []⟩
  | closeFrame : Advanced .reading .closeFrame ⟨s.shared, .closeKey .closeFrame, []⟩
  | readError : Advanced .reading .readError ⟨s.shared, .closeKey .readEnd, []⟩
  | dispatched action : Advanced (.dispatch action) .go ⟨s.shared, .reading, [.check action]⟩
  | stopStatus :
      Advanced .stopStatus .go
        ⟨{ s.shared with stopped := true }, .closeOutput, []⟩
  | closeOutput :
      Advanced .closeOutput .go
        ⟨{ s.shared with outputClosed := true }, .closeKey .disconnected, []⟩
  -- the write pump
  | take (frame : Frame) (rest : List Frame) (output : s.shared.output = frame :: rest) :
      Advanced .taking .go
        ⟨{ s.shared with output := rest }, .writing frame, []⟩
  | drained (closed : s.shared.outputClosed = true) : Advanced .taking .go ⟨s.shared, .finished, []⟩
  | writeStopped frame (stopped : s.shared.stopped = true) :
      Advanced (.writing frame) .go ⟨s.shared, .closeKey .pumpEnd, []⟩
  | wroteClose : Advanced (.writing .close) .go ⟨s.shared, .finished, []⟩
  | wrote frame (running : s.shared.stopped = false) (data : frame ≠ .close) :
      Advanced (.writing frame) .go ⟨s.shared, .taking, []⟩
  | writeError frame : Advanced (.writing frame) .writeError ⟨s.shared, .closeKey .pumpEnd, []⟩
  -- a request goroutine
  | late action (closed : s.shared.closed = true) :
      Advanced (.check action) .go ⟨s.shared, .done, []⟩
  | locking action (open_ : s.shared.closed = false) (takes : protocol.takesLock action = true) :
      Advanced (.check action) .go ⟨s.shared, .lockWait action, []⟩
  | started action (open_ : s.shared.closed = false) :
      Advanced (.check action) .go ⟨s.shared, .work action false, []⟩
  | locked (action : Action) (free : s.shared.lock = none) :
      Advanced (.lockWait action) .go
        ⟨{ s.shared with lock := some t }, .lockedCheck action, []⟩
  | lockedLate (action : Action) :
      Advanced (.lockedCheck action) .go
        ⟨{ s.shared with lock := none }, .done, []⟩
  | lockedStarted action : Advanced (.lockedCheck action) .go ⟨s.shared, .work action true, []⟩
  | respond action locked frame :
      Advanced (.work action locked) (.respond frame)
        ⟨s.shared, .write frame (.request action locked), []⟩
  | connect (action : Action) :
      Advanced (.work action true) .connect
        ⟨{ s.shared with connected := true }, .work action true, [.signals]⟩
  | unlocked (action : Action) :
      Advanced (.work action true) .go
        ⟨{ s.shared with lock := none }, .done, []⟩
  | returned action : Advanced (.work action false) .go ⟨s.shared, .done, []⟩
  | done : Advanced .done .go ⟨s.shared, .finished, []⟩
  -- the signal goroutine
  | signalled dropped choice : Advanced .signals choice ⟨s.shared, .signalLock dropped, []⟩
  | exit : Advanced .signals .exit ⟨s.shared, .finished, []⟩
  | signalLock (dropped : Bool) (free : s.shared.lock = none) :
      Advanced (.signalLock dropped) .go
        ⟨{ s.shared with lock := some t }, .signalCheck dropped, []⟩
  | signalLate (dropped : Bool) :
      Advanced (.signalCheck dropped) .go
        ⟨{ s.shared with lock := none }, .finished, []⟩
  | signalKept (dropped : Bool) :
      Advanced (.signalCheck dropped) .go
        ⟨{ s.shared with lock := none }, .signals, []⟩
  | signalExit dropped choice :
      Advanced (.signalCheck dropped) choice ⟨s.shared, .write .close .signalSent, []⟩
  | signalUnlock :
      Advanced .signalUnlock .go
        ⟨{ s.shared with lock := none }, .closeLock .signalEnd, []⟩
  -- a write to the session
  | writeRefused frame back (stopped : s.shared.stopped = true) :
      Advanced (.write frame back) .go ⟨s.shared, resume protocol back, []⟩
  | writeOpen frame back (running : s.shared.stopped = false) :
      Advanced (.write frame back) .go ⟨s.shared, .writeMessage frame back, []⟩
  | messageRefused frame back (stopped : s.shared.stopped = true) :
      Advanced (.writeMessage frame back) .go ⟨s.shared, .closeKey back, []⟩
  | messageOpen frame back :
      Advanced (.writeMessage frame back) .go ⟨s.shared, .sending frame back, []⟩
  | sendPanics frame back (closed : s.shared.outputClosed = true) :
      Advanced (.sending frame back) .go ⟨s.shared, .closeKey back, []⟩
  | sent (frame : Frame) (back : Return Action) (room : s.shared.output.length < capacity) :
      Advanced (.sending frame back) .go
        ⟨{ s.shared with output := s.shared.output ++ [frame] }, resume protocol back, []⟩
  -- closing the handler
  | closeKeyless back (unset : s.shared.keyed = false) :
      Advanced (.closeKey back) .go ⟨s.shared, resume protocol back, []⟩
  | closeKeyed back : Advanced (.closeKey back) .go ⟨s.shared, .closeLock back, []⟩
  | closeLocked (back : Return Action) (free : s.shared.lock = none) :
      Advanced (.closeLock back) .go
        ⟨{ s.shared with lock := some t }, .closeCheck back, []⟩
  | closeLate (back : Return Action) (closed : s.shared.closed = true) :
      Advanced (.closeCheck back) .go
        ⟨{ s.shared with lock := none }, .clearKey back, []⟩
  | closeFirst (back : Return Action) (open_ : s.shared.closed = false) :
      Advanced (.closeCheck back) .go
        ⟨{ s.shared with closed := true }, .closeWait back, []⟩
  | waited back (nobody : waiting s = 0) :
      Advanced (.closeWait back) .go ⟨s.shared, .closeExit back, []⟩
  | closeExit (back : Return Action) :
      Advanced (.closeExit back) .go
        ⟨{ s.shared with exitClosed := true, lock := none }, .clearKey back, []⟩
  | signalEnd : Advanced (.clearKey .signalEnd) .go ⟨s.shared, .finished, []⟩
  | clearKey (back : Return Action) (clears : back ≠ .signalEnd) :
      Advanced (.clearKey back) .go
        ⟨{ s.shared with keyed := s.shared.keyed && !protocol.clearsKey }, resume protocol back, []⟩

end

section

variable {protocol : Protocol Action} {capacity : Nat} {s : State Action} {t : Nat}
  {choice : Choice Action} {move : Move Shared (Pc Action)} {pc : Pc Action}

theorem advanced_read (moved : advanceRead s.shared pc choice = some move) :
    Advanced protocol capacity s t pc choice move := by
  unfold advanceRead at moved
  repeat' split at moved
  all_goals cases moved
  all_goals constructor <;> simp_all

theorem advanced_pump (moved : advancePump s.shared pc choice = some move) :
    Advanced protocol capacity s t pc choice move := by
  unfold advancePump at moved
  repeat' split at moved
  all_goals cases moved
  case h_2.isFalse.isTrue.refl isClose =>
    rw [isClose]
    exact .wroteClose
  all_goals constructor <;> simp_all

theorem advanced_request (moved : advanceRequest protocol t s.shared pc choice = some move) :
    Advanced protocol capacity s t pc choice move := by
  unfold advanceRequest at moved
  repeat' split at moved
  all_goals cases moved
  all_goals constructor <;> simp_all

theorem advanced_signal (moved : advanceSignal t s.shared pc choice = some move) :
    Advanced protocol capacity s t pc choice move := by
  unfold advanceSignal at moved
  repeat' split at moved
  all_goals cases moved
  all_goals constructor <;> simp_all

theorem advanced_write (moved : advanceWrite protocol capacity s.shared pc choice = some move) :
    Advanced protocol capacity s t pc choice move := by
  unfold advanceWrite at moved
  repeat' split at moved
  all_goals cases moved
  all_goals constructor <;> simp_all

theorem advanced_close (moved : advanceClose protocol t (waiting s) s.shared pc choice = some move)
    : Advanced protocol capacity s t pc choice move := by
  unfold advanceClose at moved
  repeat' split at moved
  all_goals cases moved
  all_goals constructor <;> simp_all

theorem advanced_of_advance (moved : advance protocol capacity s t pc choice = some move) :
    Advanced protocol capacity s t pc choice move := by
  cases pc with
  | reading | dispatch | stopStatus | closeOutput => exact advanced_read moved
  | taking | writing => exact advanced_pump moved
  | check | lockWait | lockedCheck | work | done => exact advanced_request moved
  | signals | signalLock | signalCheck | signalUnlock => exact advanced_signal moved
  | write | writeMessage | sending => exact advanced_write moved
  | closeKey | closeLock | closeCheck | closeWait | closeExit | clearKey =>
    exact advanced_close moved
  | finished | panicked => cases moved

end

def Return.holds : Return Action → Bool
  | .request _ locked => locked
  | .signalSent => true
  | _ => false

def Pc.holds : Pc Action → Bool
  | .lockedCheck _ | .signalCheck _ | .signalUnlock | .closeCheck _ | .closeWait _
  | .closeExit _ => true
  | .work _ locked => locked
  | .write _ back | .writeMessage _ back | .sending _ back | .closeKey back | .closeLock back
  | .clearKey back => back.holds
  | _ => false

@[simp] theorem resume_holds (protocol : Protocol Action) (back : Return Action) :
    (resume protocol back).holds = back.holds := by
  cases back <;> simp only [resume] <;> first | rfl | (split <;> rfl)

def Pc.entersOnce : Pc Action → Prop
  | .closeCheck back | .closeWait back | .closeExit back => back.holds = false
  | _ => True

@[simp] theorem resume_entersOnce (protocol : Protocol Action) (back : Return Action) :
    (resume protocol back).entersOnce := by
  cases back <;> simp only [resume] <;> first | trivial | (split <;> trivial)

structure Locked (s : State Action) : Prop where
  exclusive : Exclusive (fun pc (_ : Unit) => pc.holds) (fun shared _ => shared.lock) s
  once : ∀ (t : Nat) pc, s.threads[t]? = some pc → pc.entersOnce

theorem Locked.owner {s : State Action} (locked : Locked s) {t : Nat} {pc : Pc Action}
    (found : s.threads[t]? = some pc) (holds : pc.holds = true) : s.shared.lock = some t :=
  locked.exclusive t pc () found holds

theorem Locked.opened : Locked (opened : State Action) where
  exclusive := by
    intro t pc _ found holds
    match t with
    | 0 => simp [Session.opened] at found; subst found; simp [Pc.holds] at holds
    | 1 => simp [Session.opened] at found; subst found; simp [Pc.holds] at holds
    | t + 2 => simp [Session.opened] at found
  once := by
    intro t pc found
    match t with
    | 0 => simp [Session.opened] at found; subst found; trivial
    | 1 => simp [Session.opened] at found; subst found; trivial
    | t + 2 => simp [Session.opened] at found

section

variable {protocol : Protocol Action} {capacity : Nat} {s : State Action} {t : Nat}
  {pc : Pc Action} {choice : Choice Action} {move : Move Shared (Pc Action)}

theorem Advanced.spawned (advanced : Advanced protocol capacity s t pc choice move)
    (new : Pc Action) (mem : new ∈ move.spawned) :
    (∃ action, new = .check action) ∨ new = .signals := by
  cases advanced with
  | dispatched action => exact .inl ⟨action, mem_singleton.mp mem⟩
  | connect => exact .inr (mem_singleton.mp mem)
  | _ => exact absurd mem not_mem_nil

variable (locked : Locked s) (found : s.threads[t]? = some pc)
  (advanced : Advanced protocol capacity s t pc choice move)

include locked found advanced

theorem Advanced.respects : Respects (fun pc (_ : Unit) => pc.holds) (fun sh (_ : Unit) => sh.lock)
      t pc s.shared move () := by
  have once := locked.once t pc found
  cases advanced with
  | locked _ free | signalLock _ free | closeLocked _ free => exact .take free rfl
  | lockedLate | unlocked | signalLate | signalKept | signalUnlock => exact .leave rfl rfl rfl
  | closeLate | closeExit => exact .leave rfl rfl once
  | closeFirst | waited => exact .keep rfl fun _ => rfl
  | _ =>
    -- The program counter moves within one section or outside every section.
    exact .keep rfl fun inside => by
      first
      | exact inside
      | exact (resume_holds protocol _).symm.trans inside

theorem Advanced.entersOnce : move.thread.entersOnce := by
  have once := locked.once t pc found
  cases advanced with
  | closeLocked back free =>
    -- A caller that holds the lock never gets it a second time.
    simp only [Pc.entersOnce]
    by_contra holds
    have owner := locked.owner found (by simpa [Pc.holds] using holds)
    rw [free] at owner
    cases owner
  | closeFirst | waited => exact once
  | _ => first | trivial | exact resume_entersOnce _ _

theorem Locked.step : Locked (s.apply t move) where
  exclusive := by
    refine locked.exclusive.apply found (fun _ => advanced.respects locked found) ?_
    intro new mem _
    rcases advanced.spawned new mem with ⟨action, rfl⟩ | rfl <;> rfl
  once := by
    refine Snapshot.forall_apply locked.once (fun _ _ _ => id) (advanced.entersOnce locked found) ?_
    intro _ new _ mem
    rcases advanced.spawned new mem with ⟨action, rfl⟩ | rfl <;> trivial

end

end TaosAdapter.Session
