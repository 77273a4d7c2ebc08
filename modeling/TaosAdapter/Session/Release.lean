import TaosAdapter.Session.LockWait

/-!
Owns: the order of request handlers and the release of a session's resources.
Once `Close` has passed the wait group, no handler body runs and none starts.

Three facts carry it. The closed flag is set before `Close` waits; a request
goroutine enters its body only while the flag is unset; and the wait group
counts a goroutine from before its own check to after its body. A goroutine that
is started after `Wait` returned is counted too late, and finds the flag.
-/

namespace TaosAdapter.Session

open Lib List Snapshot

variable {Action : Type}

/-- The goroutine is inside the handler of a request, from past its closed check
to the handler's return, or in a call made by the handler. -/
def Pc.inBody : Pc Action → Bool
  | .lockWait _ | .lockedCheck _ | .work _ _ => true
  | .write _ back | .writeMessage _ back | .sending _ back | .closeKey back | .closeLock back
  | .closeCheck back | .closeWait back | .closeExit back | .clearKey back => back.isRequest
  | _ => false

def Pc.releases : Pc Action → Bool
  | .closeExit _ => true
  | _ => false

def Releasing (s : State Action) : Prop :=
  s.shared.exitClosed = true ∨ ∃ pc ∈ s.threads, pc.releases = true

instance (s : State Action) : Decidable (Releasing s) := by
  unfold Releasing
  infer_instance

variable {pc : Pc Action}

theorem Pc.isRequest_of_inBody (inBody : pc.inBody = true) : pc.isRequest = true := by
  cases pc with
  | lockWait | lockedCheck | work => rfl
  | write | writeMessage | sending | closeKey | closeLock | closeCheck | closeWait | closeExit
  | clearKey => exact inBody
  | _ => cases inBody

theorem Pc.outside_body (isRequest : pc.isRequest = true) (outside : pc.inBody = false) :
    (∃ action, pc = .check action) ∨ pc = .done := by
  cases pc with
  | check action => exact .inl ⟨action, rfl⟩
  | done => exact .inr rfl
  | write | writeMessage | sending | closeKey | closeLock | closeCheck | closeWait | closeExit
  | clearKey => cases isRequest.symm.trans outside
  | lockWait | lockedCheck | work => cases outside
  | _ => cases isRequest

/-- A state of `Close`'s last part: the flag is set, and no body runs any more
once the resources are being released. -/
structure Ordered (s : State Action) : Prop where
  waits : ∀ pc ∈ s.threads, pc.awaitsGroup = true → s.shared.closed = true
  releases : Releasing s → s.shared.closed = true
  bodies : Releasing s → ∀ pc ∈ s.threads, pc.inBody = false

section

variable {protocol : Protocol Action} {capacity : Nat} {s : State Action} {t : Nat}
  {pc : Pc Action} {choice : Choice Action} {move : Move Shared (Pc Action)}

theorem resume_inBody (back : Return Action) : (resume protocol back).inBody = back.isRequest ∧
      (resume protocol back).releases = false := by
  cases back with
  | closeFrame =>
    simp only [resume]
    split
    · exact ⟨rfl, rfl⟩
    · exact ⟨rfl, rfl⟩
  | _ => exact ⟨rfl, rfl⟩

theorem Advanced.inBody (advanced : Advanced protocol capacity s t pc choice move)
    (inBody : move.thread.inBody = true) : pc.inBody = true ∨ s.shared.closed = false := by
  cases advanced with
  | locking _ open_ | started _ open_ => exact .inr open_
  | locked | lockedStarted | connect | respond => exact .inl rfl
  | writeRefused _ back | sent _ back | closeKeyless back | clearKey back =>
    exact .inl ((resume_inBody back).1.symm.trans inBody)
  | writeOpen | messageRefused | messageOpen | sendPanics | closeKeyed | closeLocked | closeLate
  | closeFirst | waited | closeExit => exact .inl inBody
  | _ => cases inBody

theorem Advanced.releases (advanced : Advanced protocol capacity s t pc choice move)
    (releases : move.shared.exitClosed = true ∨ move.thread.releases = true) :
    s.shared.exitClosed = true ∨ pc.releases = true ∨ pc.awaitsGroup = true ∧ waiting s = 0 := by
  cases advanced with
  | waited back nobody => exact .inr (.inr ⟨rfl, nobody⟩)
  | closeExit => exact .inr (.inl rfl)
  | writeRefused _ back | sent _ back | closeKeyless back | clearKey back =>
    rcases releases with closed | th
    · exact .inl closed
    · cases (resume_inBody back).2.symm.trans th
  | _ =>
    rcases releases with closed | th
    · exact .inl closed
    · cases th

theorem releasing_before (found : s.threads[t]? = some pc)
    (advanced : Advanced protocol capacity s t pc choice move)
    (releasing : Releasing (s.apply t move)) :
    Releasing s ∨ pc.awaitsGroup = true ∧ waiting s = 0 := by
  have mem := mem_of_getElem? found
  have moved (releases : move.shared.exitClosed = true ∨ move.thread.releases = true) :
      Releasing s ∨ pc.awaitsGroup = true ∧ waiting s = 0 := by
    rcases advanced.releases releases with closed | own | empty
    · exact .inl (.inl closed)
    · exact .inl (.inr ⟨pc, mem, own⟩)
    · exact .inr empty
  rcases releasing with closed | ⟨other, otherMember, otherReleases⟩
  · exact moved (.inl closed)
  · rcases mem_apply otherMember with old | rfl | fresh
    · exact .inl (.inr ⟨other, old, otherReleases⟩)
    · exact moved (.inr otherReleases)
    · rcases advanced.spawned other fresh with ⟨action, rfl⟩ | rfl
      · cases otherReleases
      · cases otherReleases

theorem no_body_of_waiting {other : Pc Action} (nobody : waiting s = 0)
    (mem : other ∈ s.threads) : other.inBody = false := by
  by_contra inBody
  obtain ⟨idx, here⟩ := mem_iff_getElem?.mp mem
  have counted := waiting_pos here (Pc.isRequest_of_inBody (by simpa using inBody))
  omega

/-- `Close` gets past its wait only when no body runs, and a later request finds
the flag set. -/
theorem Ordered.step (ordered : Ordered s) (found : s.threads[t]? = some pc)
    (advanced : Advanced protocol capacity s t pc choice move) : Ordered (s.apply t move) where
  waits := by
    intro other mem awaits
    rcases mem_apply mem with old | rfl | fresh
    · exact advanced.closed.2 (ordered.waits other old awaits)
    · exact advanced.awaitsGroup awaits
    · rcases advanced.spawned other fresh with ⟨action, rfl⟩ | rfl
      · cases awaits
      · cases awaits
  releases := by
    intro releasing
    rcases releasing_before found advanced releasing with before | ⟨awaits, _⟩
    · exact advanced.closed.2 (ordered.releases before)
    · exact advanced.closed.2 (ordered.waits pc (mem_of_getElem? found) awaits)
  bodies := by
    intro releasing other mem
    have none : s.shared.closed = true ∧ ∀ other ∈ s.threads, other.inBody = false := by
      rcases releasing_before found advanced releasing with before | ⟨awaits, nobody⟩
      · exact ⟨ordered.releases before, ordered.bodies before⟩
      · exact ⟨ordered.waits pc (mem_of_getElem? found) awaits,
          fun _ mem => no_body_of_waiting nobody mem⟩
    rcases mem_apply mem with old | rfl | fresh
    · exact none.2 other old
    · by_contra entered
      rcases advanced.inBody (by simpa using entered) with before | isOpen
      · cases (none.2 pc (mem_of_getElem? found)).symm.trans before
      · cases none.1.symm.trans isOpen
    · rcases advanced.spawned other fresh with ⟨action, rfl⟩ | rfl
      · rfl
      · rfl

theorem Releasing.step (releasing : Releasing s) (found : s.threads[t]? = some pc)
    (advanced : Advanced protocol capacity s t pc choice move) : Releasing (s.apply t move) := by
  rcases releasing with closed | ⟨other, mem, releases⟩
  · left
    cases advanced with
    | closeExit => rfl
    | _ => exact closed
  · obtain ⟨idx, here⟩ := mem_iff_getElem?.mp mem
    by_cases same : idx = t
    · subst same
      rw [found] at here
      cases here
      left
      cases advanced with
      | closeExit => rfl
      | _ => cases releases
    · exact .inr ⟨other, mem_of_getElem? (apply_other move same here), releases⟩

end

theorem ordered_of_reachable {protocol : Protocol Action} {capacity : Nat} {s : State Action}
    (reached : (machine protocol capacity).system.Reachable s) : Ordered s := by
  refine System.Reachable.invariant (fun _ initial => ?_) (fun _ _ _ ordered stepped => ?_) reached
  · obtain rfl := initial
    have idle : ¬ Releasing (opened : State Action) := by
      simp [Releasing, opened, Pc.releases]
    exact ⟨by simp [opened, Pc.awaitsGroup], fun releasing => absurd releasing idle,
      fun releasing => absurd releasing idle⟩
  · obtain ⟨pc, move, found, moved, rfl⟩ := Machine.next_inv stepped
    exact ordered.step found (advanced_of_advance moved)

structure Released (s : State Action) : Prop where
  ordered : Ordered s
  releasing : Releasing s

/-- In a session of either controller, once `Close` has begun to release the
resources no handler body runs, now or later: the closed flag is set, and every
request goroutine has returned from its body or is still before the check that
finds the flag. -/
theorem no_body_while_releasing (protocol : Protocol Action) (capacity : Nat)
    {s s' : State Action} (reached : (machine protocol capacity).system.Reachable s)
    (releasing : Releasing s) (continues : (machine protocol capacity).system.Continues s s') :
    s'.shared.closed = true ∧ (∀ pc ∈ s'.threads, pc.inBody = false) ∧
      ∀ pc ∈ s'.threads, pc.isRequest = true → (∃ action, pc = .check action) ∨ pc = .done := by
  have released : Released s' := by
    refine System.Continues.invariant (fun before label after released stepped => ?_) continues
      ⟨ordered_of_reachable reached, releasing⟩
    obtain ⟨pc, move, found, moved, rfl⟩ := Machine.next_inv stepped
    have advanced := advanced_of_advance moved
    exact ⟨released.ordered.step found advanced, released.releasing.step found advanced⟩
  have outside := released.ordered.bodies released.releasing
  exact ⟨released.ordered.releases released.releasing, outside,
    fun pc mem isRequest => Pc.outside_body isRequest (outside pc mem)⟩

/-- In both sessions a second request passes the first check, `Close` waits for
the first request and begins the release, and the second request's goroutine is
started afterwards: it finds the flag. -/
theorem no_body_while_releasing_late_request :
    (∃ s, (machine ws 1).system.Reachable s ∧ Releasing s ∧
      s.threads[3]? = some (.check .fetch) ∧ ∀ pc ∈ s.threads, pc.inBody = false) ∧
    (∃ s, (machine tmq 1).system.Reachable s ∧ Releasing s ∧
      s.threads[3]? = some (.check .fetch) ∧ ∀ pc ∈ s.threads, pc.inBody = false) := by
  constructor
  · obtain ⟨s, reached, releasing, late⟩ : ∃ s, (machine ws 1).system.Reachable s ∧
        Releasing s ∧ s.threads[3]? = some (.check .fetch) :=
      (machine ws 1).system.exists_of_exec
        [(0, .message .query), (0, .go), (2, .go), (2, .respond .text), (2, .go), (2, .go),
          (2, .go), (2, .go), (0, .message .fetch), (1, .go), (1, .writeError), (1, .go), (1, .go),
          (1, .go), (2, .go), (1, .go), (0, .go)] rfl rfl
    exact ⟨s, reached, releasing, late, (no_body_while_releasing ws 1 reached releasing .refl).2.1⟩
  · obtain ⟨s, reached, releasing, late⟩ : ∃ s, (machine tmq 1).system.Reachable s ∧
        Releasing s ∧ s.threads[3]? = some (.check .fetch) :=
      (machine tmq 1).system.exists_of_exec
        [(0, .message .poll), (0, .go), (2, .go), (2, .respond .text), (2, .go), (2, .go),
          (2, .go), (2, .go), (0, .message .fetch), (1, .go), (1, .writeError), (1, .go), (1, .go),
          (1, .go), (2, .go), (1, .go), (0, .go)] rfl rfl
    exact ⟨s, reached, releasing, late, (no_body_while_releasing tmq 1 reached releasing .refl).2.1⟩

end TaosAdapter.Session
