import TaosAdapter.Session.LockWait

/-!
Owns: the messages that arrive while a session is being closed. The read pump
takes the handler from the session's key, and every close, error and disconnect
callback clears the key.

The read pump's own callbacks end its loop. Another goroutine comes to one only
by a write that fails: the write pump by an error of the socket, the others by
finding the session stopped, which the read pump does after its loop.
-/

namespace TaosAdapter.Session

open Lib Snapshot

variable {Action : Type}

/-- The socket refuses a write only after the read pump has ended its loop. -/
def WritesWhileRead (s : State Action) (label : Nat × Choice Action) : Prop :=
  label.2 = .writeError → s.shared.stopped = true

instance [DecidableEq Action] (s : State Action) (label : Nat × Choice Action) :
    Decidable (WritesWhileRead s label) := by
  unfold WritesWhileRead
  infer_instance

/-- A message that arrives is dispatched to the handler, or ignored because the
session is closed; and no callback has failed. -/
def MessagesServed (protocol : Protocol Action) (capacity : Nat) (s : State Action) : Prop :=
  (∀ pc ∈ s.threads, pc ≠ .panicked) ∧
    ∀ t action, s.threads[t]? = some .reading →
      ∃ s', (machine protocol capacity).system.next s (t, .message action) = some s' ∧
        (s'.threads[t]? = some (.dispatch action) ∨
          s.shared.closed = true ∧ s'.threads[t]? = some .reading)

def Return.ofReadPump : Return Action → Bool
  | .closeFrame | .closeAnswered | .readEnd | .disconnected => true
  | _ => false

def Pc.ofReadPump : Pc Action → Bool
  | .reading | .dispatch _ | .stopStatus | .closeOutput => true
  | .write _ back | .writeMessage _ back | .sending _ back | .closeKey back | .closeLock back
  | .closeCheck back | .closeWait back | .closeExit back | .clearKey back => back.ofReadPump
  | _ => false

def Pc.inLoop : Pc Action → Bool
  | .reading | .dispatch _ => true
  | _ => false

/-- Inside `CloseWs`, which clears the key at its end. -/
def Pc.clears : Pc Action → Bool
  | .closeKey back | .closeLock back | .closeCheck back | .closeWait back | .closeExit back
  | .clearKey back =>
    match back with
    | .signalEnd => false
    | _ => true
  | _ => false

/-- While the read pump is in its loop, the handler is in its place and nobody is
about to take it away. -/
structure Untouched (s : State Action) : Prop where
  keyed : s.shared.keyed = true
  running : s.shared.stopped = false
  outputOpen : s.shared.outputClosed = false
  nobody : ∀ pc ∈ s.threads, pc.clears = false

structure Keyed (s : State Action) : Prop where
  reader : ∀ (t : Nat) pc, s.threads[t]? = some pc → pc.ofReadPump = true → t = 0
  looping : ∀ pc, s.threads[0]? = some pc → pc.inLoop = true → Untouched s
  unbroken : ∀ pc ∈ s.threads, pc ≠ .panicked

section

variable {protocol : Protocol Action} {capacity : Nat} {s : State Action} {t : Nat}
  {pc : Pc Action} {choice : Choice Action} {move : Move Shared (Pc Action)}

theorem resume_ofReadPump (back : Return Action) :
    (resume protocol back).ofReadPump = true → back.ofReadPump = true := by
  cases back <;> simp [resume, Pc.ofReadPump, Return.ofReadPump]

theorem resume_outside (back : Return Action) :
    (resume protocol back).inLoop = false ∧ resume protocol back ≠ .panicked ∧
      (back.ofReadPump = false → (resume protocol back).clears = false) := by
  cases back with
  | closeFrame =>
    simp only [resume]
    split <;> simp [Pc.inLoop, Return.ofReadPump]
  | _ => simp [resume, Pc.inLoop, Pc.clears, Return.ofReadPump]

section

variable (advanced : Advanced protocol capacity s t pc choice move)

include advanced

theorem Advanced.ofReadPump (reads : move.thread.ofReadPump = true) : pc.ofReadPump = true := by
  cases advanced with
  | writeRefused _ back | sent _ back | closeKeyless back | clearKey back =>
    exact resume_ofReadPump back reads
  | _ => first | exact reads | rfl

theorem Advanced.inLoop
    (loops : move.thread.inLoop = true) : pc.inLoop = true ∧ move.shared = s.shared := by
  cases advanced with
  | writeRefused _ back | sent _ back | closeKeyless back | clearKey back =>
    cases (resume_outside back).1.symm.trans loops
  | ignored | accepted | dispatched => exact ⟨rfl, rfl⟩
  | _ => cases loops

theorem Advanced.panicked
    (panicked : move.thread = .panicked) : pc.inLoop = true ∧ s.shared.keyed = false := by
  cases advanced with
  | keyless _ unset => exact ⟨rfl, unset⟩
  | writeRefused _ back | sent _ back | closeKeyless back | clearKey back =>
    exact absurd panicked (resume_outside back).2.1
  | _ => cases panicked

theorem Advanced.untouched (met : WritesWhileRead s (t, choice)) (untouched : Untouched s)
    (found : s.threads[t]? = some pc) (other : pc.ofReadPump = false) :
    move.shared.keyed = true ∧ move.shared.stopped = false ∧ move.shared.outputClosed = false ∧
      move.thread.clears = false := by
  obtain ⟨keyed, running, outputOpen, nobody⟩ := untouched
  have outside := nobody pc (List.mem_of_getElem? found)
  cases advanced with
  | writeError => cases running.symm.trans (met rfl)
  | writeStopped _ stopped | messageRefused _ _ stopped => cases running.symm.trans stopped
  | sendPanics _ _ closed => cases outputOpen.symm.trans closed
  | writeRefused _ back stopped => cases running.symm.trans stopped
  | sent _ back => exact ⟨keyed, running, outputOpen, (resume_outside back).2.2 other⟩
  | clearKey back clears =>
    cases back with
    | signalEnd => exact absurd rfl clears
    | _ => cases outside
  | closeKeyless _ unset => cases keyed.symm.trans unset
  | closeFrame | readError | stopStatus | closeOutput => cases other
  | closeLocked | closeLate | closeFirst | waited | closeExit | closeKeyed =>
    exact ⟨keyed, running, outputOpen, outside⟩
  | _ => exact ⟨keyed, running, outputOpen, rfl⟩

end

/-- A failed write, which clears the key, comes only when the read pump has left
its loop, so a step leaves the session untouched while it loops. -/
theorem Keyed.step (keyed : Keyed s) (found : s.threads[t]? = some pc)
    (met : WritesWhileRead s (t, choice))
    (advanced : Advanced protocol capacity s t pc choice move) : Keyed (s.apply t move) where
  reader := by
    refine forall_apply keyed.reader (fun _ _ _ same => same) (fun reads =>
      keyed.reader t pc found (advanced.ofReadPump reads)) fun _ th _ fresh reads => ?_
    rcases advanced.spawned th fresh with ⟨action, rfl⟩ | rfl <;> cases reads
  looping := by
    intro reader here loops
    rcases apply_inv here with ⟨ne, same⟩ | ⟨rfl, rfl⟩ | ⟨_, fresh⟩
    · have untouched := keyed.looping reader same loops
      have other : pc.ofReadPump = false := by
        by_contra reads
        exact ne.symm (keyed.reader t pc found (by simpa using reads))
      obtain ⟨key, running, outputOpen, clears⟩ := advanced.untouched met untouched found other
      refine ⟨key, running, outputOpen, fun th mem => ?_⟩
      rcases mem_apply mem with old | rfl | fresh
      · exact untouched.nobody th old
      · exact clears
      · rcases advanced.spawned th fresh with ⟨action, rfl⟩ | rfl <;> rfl
    · obtain ⟨looped, same⟩ := advanced.inLoop loops
      obtain ⟨key, running, outputOpen, nobody⟩ := keyed.looping pc found looped
      refine ⟨(congrArg _ same).trans key, (congrArg _ same).trans running,
        (congrArg _ same).trans outputOpen, fun th mem => ?_⟩
      rcases mem_apply mem with old | rfl | fresh
      · exact nobody th old
      · revert loops
        cases move.thread <;> simp [Pc.inLoop, Pc.clears]
      · rcases advanced.spawned th fresh with ⟨action, rfl⟩ | rfl <;> rfl
    · rcases advanced.spawned reader fresh with ⟨action, rfl⟩ | rfl <;> cases loops
  unbroken := by
    intro th mem
    rcases mem_apply mem with old | rfl | fresh
    · exact keyed.unbroken th old
    · intro panicked
      obtain ⟨looped, unset⟩ := advanced.panicked panicked
      have reads : pc.ofReadPump = true := by
        revert looped
        cases pc <;> simp [Pc.inLoop, Pc.ofReadPump]
      obtain rfl := keyed.reader t pc found reads
      cases (keyed.looping pc found looped).keyed.symm.trans unset
    · rcases advanced.spawned th fresh with ⟨action, rfl⟩ | rfl <;> simp

theorem keyed_of_reachable
    (reached : (machine protocol capacity).system.ReachableUnder WritesWhileRead s) : Keyed s := by
  refine System.ReachableUnder.invariant (fun _ initial => ?_)
    (fun _ _ _ keyed met stepped => ?_) reached
  · obtain rfl := initial
    refine ⟨fun t pc found reads => ?_, fun _ _ _ => ⟨rfl, rfl, rfl, ?_⟩, ?_⟩
    · match t, found with
      | 0, _ => rfl
      | 1, found =>
        cases found
        cases reads
    · simp [opened, Pc.clears]
    · simp [opened]
  · obtain ⟨pc, move, found, moved, rfl⟩ := Machine.next_inv stepped
    exact keyed.step found met (advanced_of_advance moved)

end

/-- Every message is dispatched or ignored, in every run in which the socket
refuses a write only after the read pump has ended its loop. -/
theorem messages_served (protocol : Protocol Action) (capacity : Nat) {s : State Action}
    (reached : (machine protocol capacity).system.ReachableUnder WritesWhileRead s) :
    MessagesServed protocol capacity s := by
  have keyed := keyed_of_reachable reached
  refine ⟨keyed.unbroken, fun t action found => ?_⟩
  obtain rfl := keyed.reader t _ found rfl
  have key := (keyed.looping _ found rfl).keyed
  by_cases closed : s.shared.closed = true
  · refine ⟨_, Machine.next_of_advance _ _ ⟨s.shared, .reading, []⟩ found ?_,
      .inr ⟨closed, apply_self _ found⟩⟩
    simp [machine, advance, advanceRead, key, closed]
  · refine ⟨_, Machine.next_of_advance _ _ ⟨s.shared, .dispatch action, []⟩ found ?_,
      .inl (apply_self _ found)⟩
    simp [machine, advance, advanceRead, key, closed]

/-- The user of a session is dropped; `signalExit` closes the handler, and the
next message is read and ignored. -/
theorem message_after_signalExit_served :
    ∃ s, (machine ws 1).system.ReachableUnder WritesWhileRead s ∧ MessagesServed ws 1 s ∧
      s.shared.closed = true ∧ s.threads = [.reading, .taking, .finished, .finished] ∧
      (machine ws 1).system.next s (0, .message .query) = some s := by
  obtain ⟨s, reached, ended⟩ : ∃ s, (machine ws 1).system.ReachableUnder WritesWhileRead s ∧
      (s.shared.closed = true ∧ s.threads = [.reading, .taking, .finished, .finished] ∧
        (machine ws 1).system.next s (0, .message .query) = some s) :=
    (machine ws 1).system.exists_of_exec
      (.flatten [[(0, .message .connect), (0, .go)], goes 2 3, (2, .connect) :: goes 2 2,
        (3, .dropUser) :: goes 3 11]) rfl rfl
  exact ⟨s, reached, messages_served ws 1 reached, ended⟩

/-- The write pump's error callback clears the key, and the next message finds
none. -/
theorem message_after_failed_write :
    ∃ s, (machine ws 1).system.Reachable s ∧ ¬ MessagesServed ws 1 s := by
  obtain ⟨s, reached, panicked⟩ : ∃ s, (machine ws 1).system.Reachable s ∧
      s.threads[0]? = some .panicked :=
    (machine ws 1).system.exists_of_exec
      (.flatten [[(0, .message .query), (0, .go), (2, .go), (2, .respond .text)], goes 2 5,
        [(1, .go), (1, .writeError)], goes 1 6, [(0, .message .query)]]) rfl rfl
  exact ⟨s, reached, fun served => served.1 _ (List.mem_of_getElem? panicked) rfl⟩

end TaosAdapter.Session
