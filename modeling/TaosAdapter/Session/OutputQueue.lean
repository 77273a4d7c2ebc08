import TaosAdapter.Session.LockWait

/-!
Owns: the bounded output channel of a session. The write pump alone takes from
it and the read pump alone closes it, after its last callback. Once the pump has
left, by a failed write or by a close frame, a request that finds the channel
full waits for the read pump, which waits for `Close`, which waits for the
request.
-/

namespace TaosAdapter.Session

open Lib List Snapshot

variable {Action : Type}

def Pc.drains : Pc Action → Bool
  | .taking | .closeOutput => true
  | _ => false

def BlockedSender (capacity : Nat) (s : State Action) : Prop :=
  ∃ (req : Nat) (frame : Frame) (action : Action) (locked : Bool),
    s.threads[req]? = some (.sending frame (.request action locked)) ∧
      s.shared.outputClosed = false ∧ capacity ≤ s.shared.output.length

/-- `Close` waits for the request goroutines, one of them waits for room in the
output channel, and no thread will ever take from the channel or close it. -/
structure OutputStuck (protocol : Protocol Action) (capacity : Nat) (s : State Action) : Prop where
  closing : ∃ (closer : Nat) (back : Return Action), s.threads[closer]? = some (.closeWait back)
  blocked : BlockedSender capacity s
  abandoned : ∀ s', (machine protocol capacity).system.Continues s s' →
    ∀ label s'', (machine protocol capacity).system.next s' label = some s'' →
      ∀ pc ∈ s'.threads[label.1]?, pc.drains = false

def Pc.pumps : Pc Action → Bool
  | .taking => true
  | .writing frame => frame ≠ .close
  | _ => false

def Pc.sends : Pc Action → Nat
  | .sending _ _ => 1
  | _ => 0

def Pc.isMessage : Pc Action → Bool
  | .writeMessage _ _ => true
  | _ => false

def load (s : State Action) : Nat :=
  s.shared.output.length + tally Pc.sends s.threads

def pumpLeft (s : State Action) : Prop :=
  ∀ pc ∈ s.threads, pc.pumps = false

/-- While the session is running: a write fails, or the pump takes a close
frame, only when the channel has room for every frame being sent, and after
the pump has left a send starts only when the channel has room for it too. -/
def KeepsRoom (capacity : Nat) (s : State Action) (label : Nat × Choice Action) : Prop :=
  ∀ pc ∈ s.threads[label.1]?, s.shared.stopped = false →
    (pc.pumps = true → label.2 = .writeError → load s ≤ capacity) ∧
    (pc = .taking → s.shared.output.head? = some .close → load s ≤ capacity + 1) ∧
    (pc.isMessage = true → (∀ other ∈ s.threads, other.pumps = false) → load s < capacity)

instance [DecidableEq Action] (capacity : Nat) (s : State Action)
    (label : Nat × Choice Action) : Decidable (KeepsRoom capacity s label) := by
  unfold KeepsRoom
  infer_instance

structure Roomy (capacity : Nat) (s : State Action) : Prop where
  stopped : s.shared.stopped = true →
    s.shared.outputClosed = true ∨ ∃ t : Nat, s.threads[t]? = some .closeOutput
  running : s.shared.stopped = false →
    s.shared.outputClosed = false ∧ ∀ pc ∈ s.threads, pc ≠ .closeOutput
  room : s.shared.stopped = false → pumpLeft s → load s ≤ capacity

section

variable {protocol : Protocol Action} {capacity : Nat} {s : State Action} {t : Nat}
  {pc : Pc Action} {choice : Choice Action} {move : Move Shared (Pc Action)}

theorem resume_quiet (back : Return Action) :
    (resume protocol back).sends = 0 ∧ (resume protocol back).pumps = false ∧
      resume protocol back ≠ .closeOutput := by
  cases back <;> simp only [resume] <;>
    first
    | exact ⟨rfl, rfl, by simp⟩
    | (split <;> exact ⟨rfl, rfl, by simp⟩)

section

variable (advanced : Advanced protocol capacity s t pc choice move)

include advanced

theorem Advanced.flags :
    (move.shared.stopped = s.shared.stopped ∧ move.shared.outputClosed = s.shared.outputClosed ∧
      move.thread ≠ .closeOutput ∧ pc ≠ .closeOutput) ∨
    (move.shared.stopped = true ∧ move.thread = .closeOutput ∧
      move.shared.outputClosed = s.shared.outputClosed) ∨
    (move.shared.stopped = s.shared.stopped ∧ move.shared.outputClosed = true ∧
      pc = .closeOutput) := by
  cases advanced with
  | stopStatus => exact .inr (.inl ⟨rfl, rfl, rfl⟩)
  | closeOutput => exact .inr (.inr ⟨rfl, rfl, rfl⟩)
  | _ =>
    exact .inl ⟨rfl, rfl, by first | exact (resume_quiet _).2.2 | simp, by simp⟩

theorem Advanced.load :
    move.shared.output.length + move.thread.sends ≤ s.shared.output.length + pc.sends ∨
      (pc.isMessage = true ∧ move.shared.output.length + move.thread.sends =
        s.shared.output.length + pc.sends + 1) := by
  cases advanced with
  | take frame rest output => exact .inl (by rw [output]; simp [Pc.sends])
  | messageOpen => exact .inr ⟨rfl, rfl⟩
  | sent _ back | writeRefused _ back | clearKey back | closeKeyless back =>
    exact .inl (by rw [(resume_quiet back).1]; simp [Pc.sends])
  | _ => exact .inl (by simp [Pc.sends])

theorem Advanced.leaves (pumped : pc.pumps = true) (left : move.thread.pumps = false) :
    s.shared.stopped = true ∨ s.shared.outputClosed = true ∨
      (choice = .writeError ∧ move.shared = s.shared ∧ move.thread.sends = pc.sends) ∨
      (pc = .taking ∧ s.shared.output.head? = some .close ∧
        move.shared.output.length + 1 = s.shared.output.length ∧ move.thread.sends = pc.sends) := by
  cases advanced with
  | take frame rest output =>
    refine .inr (.inr (.inr ⟨rfl, ?_, by rw [output]; rfl, rfl⟩))
    have isClose : frame = .close := by simpa [Pc.pumps] using left
    rw [output, isClose]
    rfl
  | drained closed => exact .inr (.inl closed)
  | writeStopped _ stopped => exact .inl stopped
  | wrote => simp [Pc.pumps] at left
  | writeError => exact .inr (.inr (.inl ⟨rfl, rfl, rfl⟩))
  | _ => simp [Pc.pumps] at pumped

end

theorem load_apply (found : s.threads[t]? = some pc)
    (advanced : Advanced protocol capacity s t pc choice move) :
    load (s.apply t move) + s.shared.output.length + pc.sends =
      load s + move.shared.output.length + move.thread.sends := by
  have moved := tally_apply Pc.sends found move
  have silent : tally Pc.sends move.spawned = 0 := by
    apply tally_eq_zero
    intro new mem
    rcases advanced.spawned new mem with ⟨action, rfl⟩ | rfl <;> rfl
  simp only [Session.load, apply_shared]
  omega

/-- The write pump leaves only with room for every frame on its way, and a step
adds to them only what still fits. -/
theorem Roomy.step (roomy : Roomy capacity s) (found : s.threads[t]? = some pc)
    (met : KeepsRoom capacity s (t, choice))
    (advanced : Advanced protocol capacity s t pc choice move) :
    Roomy capacity (s.apply t move) := by
  have pcMember := mem_of_getElem? found
  have freshOpen : ∀ new ∈ move.spawned, new ≠ .closeOutput := by
    intro new mem
    rcases advanced.spawned new mem with ⟨action, rfl⟩ | rfl <;> simp
  refine ⟨fun stopped => ?_, fun running => ?_, fun running left => ?_⟩
  · rcases advanced.flags with
      ⟨sameStop, sameOutput, _, notClosing⟩ | ⟨_, isNow, _⟩ | ⟨_, closed, _⟩
    · rw [apply_shared, sameStop] at stopped
      rw [apply_shared, sameOutput]
      rcases roomy.stopped stopped with closed | ⟨u, closing⟩
      · exact .inl closed
      · have ne : u ≠ t := by
          rintro rfl
          rw [found] at closing
          exact notClosing (Option.some.inj closing)
        exact .inr ⟨u, apply_other move ne closing⟩
    · exact .inr ⟨t, by rw [apply_self move found, isNow]⟩
    · exact .inl closed
  · rcases advanced.flags with
      ⟨sameStop, sameOutput, notNow, _⟩ | ⟨isStopped, _, _⟩ | ⟨sameStop, _, wasClosing⟩
    · rw [apply_shared, sameStop] at running
      obtain ⟨outputOpen, noneClosing⟩ := roomy.running running
      refine ⟨by rw [apply_shared, sameOutput, outputOpen], fun new mem => ?_⟩
      rcases mem_apply mem with old | rfl | fresh
      · exact noneClosing new old
      · exact notNow
      · exact freshOpen new fresh
    · rw [apply_shared, isStopped] at running
      cases running
    · rw [apply_shared, sameStop] at running
      exact absurd wasClosing ((roomy.running running).2 pc pcMember)
  · have runningBefore : s.shared.stopped = false := by
      rcases advanced.flags with ⟨same, _⟩ | ⟨isStopped, _, _⟩ | ⟨same, _, _⟩
      · rw [← same]; exact running
      · rw [apply_shared, isStopped] at running
        cases running
      · rw [← same]; exact running
    have moved := load_apply found advanced
    obtain ⟨failing, taking, sending⟩ := met pc found runningBefore
    by_cases leftBefore : pumpLeft s
    · have room := roomy.room runningBefore leftBefore
      rcases advanced.load with lower | ⟨isMessage, raised⟩
      · omega
      · have free := sending isMessage leftBefore
        omega
    · -- The pump was there before the step, so this is the step by which it left.
      obtain ⟨u, pump, pumpFound, pumped⟩ : ∃ u pump, s.threads[u]? = some pump ∧
          Pc.pumps pump = true := by
        simp only [pumpLeft, not_forall] at leftBefore
        obtain ⟨pump, mem, pumped⟩ := leftBefore
        obtain ⟨u, pumpFound⟩ := mem_iff_getElem?.mp mem
        exact ⟨u, pump, pumpFound, by simpa using pumped⟩
      have isMover : u = t := by
        by_contra ne
        have still := apply_other move ne pumpFound
        rw [left pump (mem_of_getElem? still)] at pumped
        cases pumped
      subst isMover
      rw [found] at pumpFound
      cases pumpFound
      have leftNow := left move.thread (mem_of_getElem? (apply_self move found))
      rcases advanced.leaves pumped leftNow with
        stopped | closed | ⟨isError, same, sends⟩ | ⟨isTaking, isClose, shorter, sends⟩
      · rw [runningBefore] at stopped
        cases stopped
      · rw [(roomy.running runningBefore).1] at closed
        cases closed
      · have room := failing pumped isError
        rw [same] at moved
        omega
      · have room := taking isTaking isClose
        omega

end

variable {protocol : Protocol Action} {s : State Action} {capacity : Nat}

theorem roomy_of_reachable
    (reached : (machine protocol capacity).system.ReachableUnder (KeepsRoom capacity) s) :
    Roomy capacity s := by
  refine System.ReachableUnder.invariant (fun _ initial => ?_)
    (fun _ _ _ roomy met stepped => ?_) reached
  · obtain rfl := initial
    exact ⟨by simp [opened], by simp [opened], by simp [opened, pumpLeft, Pc.pumps]⟩
  · obtain ⟨pc, move, found, moved, rfl⟩ := Machine.next_inv stepped
    exact roomy.step found met (advanced_of_advance moved)

theorem Roomy.not_stuck (roomy : Roomy capacity s) (pos : 0 < capacity) :
    ¬ OutputStuck protocol capacity s := by
  rintro ⟨_, ⟨req, frame, action, locked, sending, outputOpen, full⟩, abandoned⟩
  by_cases stopped : s.shared.stopped = true
  · rcases roomy.stopped stopped with closed | ⟨reader, closing⟩
    · rw [outputOpen] at closed
      cases closed
    · have enabled := (machine protocol capacity).next_of_advance .go
        ⟨{ s.shared with outputClosed := true }, .closeKey .disconnected, []⟩ closing rfl
      cases abandoned s .refl _ _ enabled _ closing
  · have running : s.shared.stopped = false := by simpa using stopped
    obtain ⟨u, pump, pumpFound, pumped⟩ : ∃ u pump, s.threads[u]? = some pump ∧
        Pc.pumps pump = true := by
      by_contra none
      have left : pumpLeft s := by
        intro pc mem
        obtain ⟨u, found⟩ := mem_iff_getElem?.mp mem
        by_contra pumped
        exact none ⟨u, pc, found, by simpa using pumped⟩
      have room := roomy.room running left
      have part := weight_le_tally Pc.sends sending
      simp only [load, Pc.sends] at room part
      omega
    obtain ⟨head, rest, output⟩ : ∃ head rest, s.shared.output = head :: rest := by
      cases output : s.shared.output with
      | nil => rw [output] at full; simp at full; omega
      | cons head rest => exact ⟨head, rest, rfl⟩
    have takes (state : State Action) (same : state.shared.output = head :: rest)
        (found : state.threads[u]? = some .taking)
        (continues : (machine protocol capacity).system.Continues s state) : False := by
      have enabled := (machine protocol capacity).next_of_advance .go
        ⟨{ state.shared with output := rest }, .writing head, []⟩ found
        (by simp [machine, advance, advancePump, same])
      cases abandoned state continues _ _ enabled _ found
    cases pump with
    | taking => exact takes s output pumpFound .refl
    | writing written =>
      -- The write in progress ends, and the pump takes the next frame.
      have data : written ≠ .close := by simpa [Pc.pumps] using pumped
      have enabled := (machine protocol capacity).next_of_advance .go ⟨s.shared, .taking, []⟩
        pumpFound (by simp [machine, advance, advancePump, running, data])
      exact takes (s.apply u ⟨s.shared, .taking, []⟩) output
        (apply_self _ pumpFound) (.single ⟨_, enabled⟩)
    | _ => cases pumped

/-- No session is stuck on its output channel, in every run that keeps room for
the frames being sent when its write pump leaves and afterwards. -/
theorem output_never_stuck (protocol : Protocol Action) {capacity : Nat} (positive : 0 < capacity)
    {s : State Action}
    (reached : (machine protocol capacity).system.ReachableUnder (KeepsRoom capacity) s) :
    ¬ OutputStuck protocol capacity s :=
  (roomy_of_reachable reached).not_stuck positive

/-- `Close` waits for a request that waits for room, with the write pump alive. -/
theorem output_never_stuck_full : ∃ s, (machine ws 1).system.ReachableUnder (KeepsRoom 1) s ∧
      s.threads[0]? = some (.closeWait .readEnd) ∧ BlockedSender 1 s ∧
      ¬ OutputStuck ws 1 s := by
  have reached := (machine ws 1).system.reachableUnder_of_exec (KeepsRoom 1)
    [(0, .message .query), (0, .go), (0, .message .query), (0, .go),
      (2, .go), (2, .respond .text), (2, .go), (2, .go), (2, .go),
      (3, .go), (3, .respond .text), (3, .go), (3, .go),
      (0, .readError), (0, .go), (0, .go), (0, .go)] rfl rfl
  exact ⟨_, reached, rfl, ⟨3, .text, .query, false, rfl, rfl, by decide⟩,
    output_never_stuck ws (by decide) reached⟩

/-- Steps from here neither drain the channel nor return from `Close`, while the
lock is taken, the session runs and the channel is full. -/
def Pc.harmless : Pc Action → Bool
  | .reading | .dispatch _ | .check _ | .lockWait _ | .work _ false | .done | .signals
  | .signalLock _ | .write _ _ | .writeMessage _ _ | .sending _ _ | .closeKey _ | .closeLock _
  | .finished | .panicked => true
  | _ => false

/-- A closer waits with the lock, a request waits for room, and nobody else is
where it could help. -/
structure Clogged (capacity closer req : Nat) (s : State Action) : Prop where
  closing : ∃ back, s.threads[closer]? = some (.closeWait back)
  sending : ∃ frame action locked,
    s.threads[req]? = some (.sending frame (.request action locked))
  full : capacity ≤ s.shared.output.length
  outputOpen : s.shared.outputClosed = false
  running : s.shared.stopped = false
  keyed : s.shared.keyed = true
  closed : s.shared.closed = true
  holder : s.shared.lock = some closer
  others : ∀ t pc, s.threads[t]? = some pc → t ≠ closer → pc.harmless = true

section

variable {protocol : Protocol Action} {capacity closer req : Nat} {s : State Action} {t : Nat}
  {pc : Pc Action} {choice : Choice Action} {move : Move Shared (Pc Action)}

variable (clogged : Clogged capacity closer req s)

include clogged

theorem Clogged.advanced
    (harmless : pc.harmless = true) (advanced : Advanced protocol capacity s t pc choice move) :
    move.shared = s.shared ∧ move.thread.harmless = true ∧
      ∀ frame back, pc ≠ .sending frame back := by
  have lockTaken : s.shared.lock ≠ none := by simp [clogged.holder]
  cases advanced with
  | accepted _ open_ | locking _ open_ _ | started _ open_ =>
    rw [clogged.closed] at open_
    cases open_
  | locked _ free | signalLock _ free | closeLocked _ free => exact absurd free lockTaken
  | writeRefused _ _ stopped | messageRefused _ _ stopped =>
    rw [clogged.running] at stopped
    cases stopped
  | sendPanics _ _ closed =>
    rw [clogged.outputOpen] at closed
    cases closed
  | sent _ _ room => exact absurd room (Nat.not_lt.mpr clogged.full)
  | closeKeyless _ unset =>
    rw [clogged.keyed] at unset
    cases unset
  | _ =>
    first
    | exact ⟨rfl, rfl, by simp⟩
    | cases harmless

/-- No step helps: the closer and the request stay where they are. -/
theorem Clogged.step {s' : State Action} {label : Nat × Choice Action}
    (stepped : (machine protocol capacity).system.next s label = some s') :
    Clogged capacity closer req s' := by
  obtain ⟨t, choice⟩ := label
  obtain ⟨pc, move, found, moved, rfl⟩ := Machine.next_inv stepped
  have advanced := advanced_of_advance moved
  obtain ⟨back, closing⟩ := clogged.closing
  obtain ⟨frame, action, locked, sending⟩ := clogged.sending
  have notCloser : closer ≠ t := by
    rintro rfl
    rw [found] at closing
    cases closing
    cases advanced with
    | waited _ nobody =>
      have alive := waiting_pos sending rfl
      omega
  obtain ⟨same, harmless, notSending⟩ :=
    clogged.advanced (clogged.others t pc found notCloser.symm) advanced
  have notSender : req ≠ t := by
    rintro rfl
    rw [found] at sending
    exact notSending _ _ (Option.some.inj sending)
  refine ⟨⟨back, apply_other move notCloser closing⟩, ⟨frame, action, locked,
    apply_other move notSender sending⟩, ?_, ?_, ?_, ?_, ?_, ?_, ?_⟩
  · rw [apply_shared, same]; exact clogged.full
  · rw [apply_shared, same]; exact clogged.outputOpen
  · rw [apply_shared, same]; exact clogged.running
  · rw [apply_shared, same]; exact clogged.keyed
  · rw [apply_shared, same]; exact clogged.closed
  · rw [apply_shared, same]; exact clogged.holder
  · refine forall_apply clogged.others (fun _ _ _ => id) (fun _ => harmless) ?_
    intro _ new _ mem _
    rcases advanced.spawned new mem with ⟨_, rfl⟩ | rfl <;> rfl

theorem Clogged.stuck : OutputStuck protocol capacity s where
  closing := ⟨closer, clogged.closing⟩
  blocked := by
    obtain ⟨frame, action, locked, sending⟩ := clogged.sending
    exact ⟨req, frame, action, locked, sending, clogged.outputOpen, clogged.full⟩
  abandoned := by
    intro s' continues label s'' _ pc found
    have still : Clogged capacity closer req s' :=
      System.Continues.invariant (fun _ _ _ before stepped => before.step stepped) continues clogged
    obtain ⟨back, closing⟩ := still.closing
    by_cases isCloser : label.1 = closer
    · rw [isCloser, closing] at found
      cases found
      rfl
    · have harmless := still.others label.1 pc found isCloser
      cases pc <;> first | rfl | cases harmless

end

/-- Three requests answer over a channel of one frame. The first frame is being
written, the second is in the channel and the third waits for room when the
write fails: the pump waits in `Close` for the third request, and the channel
is never drained or closed again. -/
theorem failed_write_clogs_output :
    ∃ s, (machine ws 1).system.Reachable s ∧ OutputStuck ws 1 s := by
  let clogged : State WsAction :=
    ⟨⟨[.text], false, false, some 1, true, false, true, false⟩,
      [.reading, .closeWait .pumpEnd, .work .query false, .work .query false,
        .sending .text (.request .query false)]⟩
  have reached : (machine ws 1).system.Reachable clogged :=
    (machine ws 1).system.reachable_of_exec
      [(0, .message .query), (0, .go), (0, .message .query), (0, .go),
        (0, .message .query), (0, .go),
        (2, .go), (2, .respond .text), (2, .go), (2, .go), (2, .go), (1, .go),
        (3, .go), (3, .respond .text), (3, .go), (3, .go), (3, .go),
        (4, .go), (4, .respond .text), (4, .go), (4, .go),
        (1, .writeError), (1, .go), (1, .go), (1, .go)] rfl rfl
  have isClogged : Clogged 1 1 4 clogged := by
    refine ⟨⟨_, rfl⟩, ⟨_, _, _, rfl⟩, by decide, rfl, rfl, rfl, rfl, rfl, ?_⟩
    rintro (_ | _ | _ | _ | _ | _) pc found notCloser
    · cases found
      rfl
    · exact absurd rfl notCloser
    · cases found
      rfl
    · cases found
      rfl
    · cases found
      rfl
    · simp [clogged] at found
  exact ⟨clogged, reached, isClogged.stuck⟩

end TaosAdapter.Session
