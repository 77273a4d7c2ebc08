import TaosAdapter.Notify.Debts

/-!
Owns: whether every handle is given back. A run is complete when every pool that
was started is released, `Close` of every session has run, and none of their
goroutines can move any more. Up to then the handles that were taken and not yet
put are the ones that somebody owes.

Two exits lose handles: `NewConnectorPool` returns without `putHandle` when
`NewConnectPool` fails, and a session that never connected has no `waitSignal`
to give its handles back.
-/

namespace TaosAdapter.Notify

open Lib List Option

def Event.taking : Event → Option (Owner × Kind × Handle)
  | .taken owner kind handle => some (owner, kind, handle)
  | _ => none

def Event.putting : Event → Option (Owner × Kind × Handle)
  | .put owner kind handle => some (owner, kind, handle)
  | _ => none

def takenHandles (history : List Event) : List (Owner × Kind × Handle) :=
  history.filterMap Event.taking

def putHandles (history : List Event) : List (Owner × Kind × Handle) :=
  history.filterMap Event.putting

def Thread.works : Thread → Bool
  | .create _ _ _ _ | .watch _ _ _ _ | .newSession _ _ | .connect _ _ | .close _ _
  | .waitSignal _ _ _ => true
  | .clients | .caller _ _ | .callback _ _ _ => false

def Thread.ended : Thread → Bool
  | .create _ _ _ pc => pc = .done
  | .watch _ _ _ pc => pc = .put []
  | .newSession _ stage => stage = none
  | .connect _ pc => pc = .done
  | .close _ stage => stage = none
  | .waitSignal _ _ pc => pc = .put []
  | .clients | .caller _ _ | .callback _ _ _ => false

def Settled (s : State) : Prop :=
  ∀ (t : Nat) th, s.threads[t]? = some th → th.works = true →
    ∀ choice, plan s.shared t th choice = none

/-- Every pool is released, every session is closed, and nobody has anything left
to do. -/
structure Complete (s : State) : Prop where
  released : ∀ entry ∈ s.shared.pools, entry.started = true → entry.cancelled = true
  closed : ∀ entry ∈ s.shared.sessions, entry.exit = true
  settled : Settled s

def Thread.connects (sh : Shared) (choice : Choice) : Thread → Bool
  | .create _ _ _ (.connect _ _) => choice ≠ .fail
  | .close session (some .check) =>
    sh.isClosed session || (sh.sessionConn session).isSome
  | _ => true

def Connects (s : State) (label : Nat × Choice) : Prop :=
  ∀ th ∈ s.threads[label.1]?, th.connects s.shared label.2 = true

instance (s : State) (label : Nat × Choice) : Decidable (Connects s label) := by
  unfold Connects
  infer_instance

variable {th : Thread}

theorem plan_of_ended (ended : th.ended = true) (sh : Shared) (t : Nat) (choice : Choice) :
    plan sh t th choice = none := by
  cases th with
  | create | watch | newSession | connect | close | waitSignal =>
    obtain rfl := of_decide_eq_true ended
    cases choice <;> rfl
  | clients | caller | callback => cases ended

theorem settled_of_ended {s : State}
    (ended : ∀ th ∈ s.threads, th.works = true → th.ended = true) : Settled s := by
  intro t th found works choice
  exact plan_of_ended (ended th (mem_of_getElem? found) works) s.shared t choice

theorem debt_of_ended (ended : th.ended = true) : th.debt.2 = [] := by
  cases th with
  | create | watch | newSession | connect | close | waitSignal =>
    obtain rfl := of_decide_eq_true ended
    rfl
  | clients | caller | callback => cases ended

def Closing.marked : Closing → Bool
  | .conn | .exit => true
  | .lock | .check | .unlock => false

def WorkKnows (sh : Shared) : Thread → Prop
  | .create pool _ _ _ => pool < sh.pools.length
  | .watch pool _ _ _ => sh.isStarted pool = true
  | .close session stage =>
    session < sh.sessions.length ∧
      ∀ now ∈ stage, now.marked = true → sh.isClosed session = true
  | .waitSignal session _ pc =>
    (sh.sessionConn session).isSome = true ∧
      ∀ now, pc = .closing now → now.marked = true → sh.isClosed session = true
  | _ => True

section

variable (sh : Shared) (effect : Effect)

theorem pools_grow : sh.pools.length ≤ (sh.apply effect).pools.length := by
  rw [pools_apply]
  cases effect <;> simp

theorem sessions_grow : sh.sessions.length ≤ (sh.apply effect).sessions.length := by
  rw [sessions_length_apply]
  exact Nat.le_add_right _ _

theorem sessionConn_grows {session : Nat} (connected : (sh.sessionConn session).isSome = true) :
    ((sh.apply effect).sessionConn session).isSome = true := by
  rcases sessionConn_apply sh effect session with same | ⟨conn, rfl⟩
  · rw [same]
    exact connected
  · rw [sessionConn_connected (lt_of_sessionConn connected)]
    rfl

theorem WorkKnows.apply {sh : Shared} {th : Thread} (knows : WorkKnows sh th) :
    WorkKnows (sh.apply effect) th := by
  have closed (session : Nat) (before : sh.isClosed session = true) :
      (sh.apply effect).isClosed session = true :=
    (isClosed_apply sh effect session).mpr (.inl before)
  cases th with
  | create pool user pass pc => exact Nat.lt_of_lt_of_le knows (pools_grow sh effect)
  | watch pool v handles pc => exact (isStarted_apply sh effect pool).mpr (.inl knows)
  | close session stage =>
    exact ⟨Nat.lt_of_lt_of_le knows.1 (sessions_grow sh effect),
      fun now here marked => closed session (knows.2 now here marked)⟩
  | waitSignal session handles pc =>
    exact ⟨sessionConn_grows sh effect knows.1,
      fun now here marked => closed session (knows.2 now here marked)⟩
  | _ => trivial

end

section

variable {sh : Shared} {t : Nat} {th next : Thread} {effect : Effect}
  {spawned : List Thread}

theorem Closes.marked {session : Nat} {stage after : Closing}
    (closes : Closes sh t session stage effect (some after)) (opened : session < sh.sessions.length)
    (knows : stage.marked = true → sh.isClosed session = true)
    (marked : after.marked = true) : (sh.apply effect).isClosed session = true := by
  cases closes with
  | closed running => exact (isClosed_apply sh _ session).mpr (.inr ⟨rfl, opened⟩)
  | disconnected conn here => exact (isClosed_apply sh _ session).mpr (.inl (knows rfl))
  | unconnected missing => exact knows rfl
  | locked | again | exited => cases marked

variable (planned : Planned sh t th effect next spawned) (knows : WorkKnows sh th)

include planned knows

theorem Planned.workKnows_own : WorkKnows (sh.apply effect) next := by
  have kept : WorkKnows (sh.apply effect) th := knows.apply effect
  cases planned with
  | closing session stage effect after closes =>
    refine ⟨kept.1, fun now here marked => ?_⟩
    obtain rfl := mem_def.mp here
    exact closes.marked knows.1 (knows.2 stage rfl) marked
  | waitClosing session handles stage after effect closes =>
    refine ⟨kept.1, fun now here marked => ?_⟩
    cases here
    exact closes.marked (lt_of_sessionConn knows.1) (knows.2 stage rfl) marked
  | waitChecked session handles kind =>
    refine ⟨kept.1, fun now here marked => ?_⟩
    split at here <;> cases here
  | waitExits session handles =>
    refine ⟨kept.1, fun now here marked => ?_⟩
    cases here
    cases marked
  | waitReceived | waitFinished | waitLocked | waitLeaves | waitRefreshed | waitNotRefreshed
  | waitResumed | waitLeft | waitClosed | waitGives =>
    exact ⟨kept.1, fun now here => (by cases here)⟩
  | _ => exact kept

theorem Planned.workKnows_spawned (sessionKnows : SessionKnows sh th) {new : Thread}
    (mem : new ∈ spawned) : WorkKnows (sh.apply effect) new := by
  cases planned with
  | requested user pass =>
    obtain rfl := mem_singleton.mp mem
    change sh.pools.length < (sh.apply (.newPool user pass)).pools.length
    simp [pools_apply]
  | createStarted pool | createReplaces pool =>
    obtain rfl := mem_singleton.mp mem
    exact (isStarted_apply sh _ pool).mpr (.inr ⟨rfl, knows⟩)
  | closeRequested session made =>
    obtain rfl := mem_singleton.mp mem
    refine ⟨lt_of_sessionHandles made, fun now here marked => ?_⟩
    cases mem_def.mp here
    cases marked
  | connectDone session handles conn =>
    obtain rfl := mem_singleton.mp mem
    have made : (sh.sessionHandles session).isSome = true := by
      rw [sessionKnows.2]
      rfl
    refine ⟨?_, fun now here => (by cases here)⟩
    rw [sessionConn_connected (lt_of_sessionHandles made)]
    rfl
  | called | sessionOpened | connectRequested | raised =>
    obtain rfl := mem_singleton.mp mem
    trivial
  | _ => cases mem

end

theorem count_taken (sh : Shared) (effect : Effect) (owner : Owner) (pair : Kind × Handle) :
    (takenHandles (effect.events sh)).count (owner, pair) = effect.enters sh pair (some owner) := by
  cases effect with
  | fresh | hold =>
    simp [takenHandles, Effect.events, Event.taking, Effect.enters, count_singleton,
      eq_comm (b := owner), eq_comm (b := pair)]
  | give =>
    simp only [Effect.enters, reduceCtorEq, false_and, if_false]
    rfl
  | _ => rfl

theorem count_put (sh : Shared) (effect : Effect) (owner : Owner) (pair : Kind × Handle) :
    (putHandles (effect.events sh)).count (owner, pair) = effect.leaves pair (some owner) := by
  cases effect with
  | give =>
    simp [putHandles, Effect.events, Event.putting, Effect.leaves, count_singleton,
      eq_comm (b := owner), eq_comm (b := pair)]
  | hold =>
    simp only [Effect.leaves, reduceCtorEq, false_and, if_false]
    rfl
  | _ => rfl

structure Returning (s : State) : Prop where
  accounted : Accounted s
  balanced : ∀ owner pair, (takenHandles s.shared.history).count (owner, pair) =
    (putHandles s.shared.history).count (owner, pair) + owed s owner pair
  knows : ∀ (t : Nat) th, s.threads[t]? = some th → WorkKnows s.shared th
  connected : ∀ session, s.shared.isClosed session = true →
    (s.shared.sessionConn session).isSome = true
  closed : ∀ session, s.shared.isExited session = true → s.shared.isClosed session = true

section

variable {s : State} {t : Nat} {th next : Thread} {effect : Effect} {spawned : List Thread}
  {choice : Choice}

theorem kept_of_connects (connects : th.connects s.shared choice = true)
    (planned : plan s.shared t th choice = some ⟨effect, next, spawned⟩) :
    ¬ ∃ pool user pass old handles, th = .create pool user pass (.connect old handles) ∧
        next = .create pool user pass .unlock := by
  rintro ⟨pool, user, pass, old, handles, rfl, rfl⟩
  cases choice with
  | fail => cases connects
  | _ => cases planned

variable (returning : Returning s) (found : s.threads[t]? = some th)
  (planned : Planned s.shared t th effect next spawned)

include returning found planned

theorem Returning.balanced_step (kept : ¬ ∃ pool user pass old handles,
      th = .create pool user pass (.connect old handles) ∧ next = .create pool user pass .unlock)
    (owner : Owner) (pair : Kind × Handle) :
    (takenHandles (s.shared.apply effect).history).count (owner, pair) =
      (putHandles (s.shared.apply effect).history).count (owner, pair) +
        owed (s.apply t ⟨s.shared.apply effect, next, spawned⟩) owner pair := by
  obtain ⟨lost, balance, cause⟩ := returning.accounted.sectioned.owed_step found planned owner pair
  obtain rfl := cause.resolve_right kept
  have taken := count_taken s.shared effect owner pair
  have put := count_put s.shared effect owner pair
  have before := returning.balanced owner pair
  simp only [takenHandles, putHandles] at taken put before ⊢
  rw [history_apply, filterMap_append, filterMap_append, count_append, count_append]
  omega

theorem Returning.connected_step (connects : th.connects s.shared choice = true) (session : Nat)
    (closed : (s.shared.apply effect).isClosed session = true) :
    ((s.shared.apply effect).sessionConn session).isSome = true := by
  refine sessionConn_grows s.shared effect ?_
  rcases (isClosed_apply s.shared effect session).mp closed with before | ⟨isSetClosed, _⟩
  · exact returning.connected session before
  · subst isSetClosed
    rcases planned.doneBy with ⟨rfl, running⟩ | ⟨handles, rfl⟩
    · simpa [Thread.connects, running] using connects
    · exact (returning.knows t _ found).1

theorem Returning.closed_step (session : Nat)
    (exited : (s.shared.apply effect).isExited session = true) :
    (s.shared.apply effect).isClosed session = true := by
  refine (isClosed_apply s.shared effect session).mpr (.inl ?_)
  rcases (isExited_apply s.shared effect session).mp exited with before | ⟨isExit, _⟩
  · exact returning.closed session before
  · subst isExit
    rcases planned.doneBy with rfl | ⟨handles, rfl⟩ <;>
      exact (returning.knows t _ found).2 .exit rfl rfl

/-- What was taken has been put back or is still owed. -/
theorem Returning.step (chosen : plan s.shared t th choice = some ⟨effect, next, spawned⟩)
    (connects : th.connects s.shared choice = true) :
    Returning (s.apply t ⟨s.shared.apply effect, next, spawned⟩) where
  accounted := returning.accounted.step found planned
  balanced := returning.balanced_step found planned (kept_of_connects connects chosen)
  knows := by
    intro u other here
    have own := returning.knows t th found
    have sessionKnows := returning.accounted.sectioned.knows t th found
    rcases Snapshot.apply_inv here with ⟨_, before⟩ | ⟨rfl, rfl⟩ | ⟨_, mem⟩
    · exact (returning.knows u other before).apply effect
    · exact planned.workKnows_own own
    · exact planned.workKnows_spawned own sessionKnows mem
  connected := returning.connected_step found planned connects
  closed := returning.closed_step found planned

end

theorem returning_empty : Returning empty where
  accounted := accounted_empty
  balanced := fun owner pair => by
    cases owner <;> simp [takenHandles, putHandles, owed, empty, Shared.pending,
      Shared.sessionHandles, Thread.owes, Thread.debt]
  knows := by
    intro t th found
    obtain rfl := mem_singleton.mp (mem_of_getElem? found)
    trivial
  connected := fun session closed => by simp [empty, Shared.isClosed] at closed
  closed := fun session exited => by simp [empty, Shared.isExited] at exited

theorem returning_of_reachable {s : State} (reached : machine.system.ReachableUnder Connects s) :
    Returning s := by
  refine System.ReachableUnder.invariant (fun _ initial => ?_)
    (fun _ _ _ returning met stepped => ?_) reached
  · obtain rfl := initial
    exact returning_empty
  · obtain ⟨th, effect, next, spawned, found, planned, chosen, rfl⟩ := planned_of_next stepped
    exact returning.step found planned chosen (met th found)

section

variable {sh : Shared} {t : Nat} {th : Thread}

theorem create_moves (pool : Nat) (user pass : Bytes) {pc : CreatePc}
    (inside : (Thread.create pool user pass pc).lock ≠ none) :
    ∃ choice, (plan sh t (.create pool user pass pc) choice).isSome = true := by
  refine ⟨.go, ?_⟩
  cases pc with
  | lock | done => exact absurd rfl inside
  | load =>
    simp only [plan, planCreate]
    split
    · split <;> rfl
    · rfl
  | acquire old stage =>
    cases stage with
    | next rest handles =>
      cases rest with
      | nil => rfl
      | cons kind rest =>
        simp only [plan, planCreate, acquire]
        split <;> rfl
    | drain kind handle rest handles =>
      simp only [plan, planCreate, acquire]
      split <;> rfl
  | setup old handles v rest => cases rest <;> rfl
  | put handles => cases handles <;> rfl
  | connect | start | release | store | abort | drop | unlock => rfl

theorem closing_moves {session : Nat} {stage : Closing}
    (reachable : stage = .lock → sh.locks (.session session) = none) :
    (closing sh t session stage).isSome = true := by
  cases stage with
  | lock => simp [closing, reachable rfl]
  | check | conn =>
    simp only [closing]
    split <;> rfl
  | exit | unlock => rfl

theorem moves_inside (inside : th.lock ≠ none) (knows : WorkKnows sh th) :
    ∃ choice, (plan sh t th choice).isSome = true := by
  cases th with
  | create pool user pass pc => exact create_moves pool user pass inside
  | watch pool v handles pc =>
    cases pc with
    | release | unlock => exact ⟨.go, rfl⟩
    | waiting | refresh | lock | put => exact absurd rfl inside
  | connect session pc =>
    cases pc with
    | lock | done => exact absurd rfl inside
    | check =>
      refine ⟨.go, ?_⟩
      simp only [plan, planConnect]
      split <;> rfl
    | connect => exact ⟨.fail, rfl⟩
    | setup handles conn rest => exact ⟨.go, by cases rest <;> rfl⟩
    | close | unlock => exact ⟨.go, rfl⟩
  | close session stage =>
    cases stage with
    | none => exact absurd rfl inside
    | some stage =>
      refine ⟨.go, ?_⟩
      simp only [plan, planClose, isSome_map]
      refine closing_moves fun isLock => ?_
      subst isLock
      exact absurd rfl inside
  | waitSignal session handles pc =>
    cases pc with
    | waiting | lock | put => exact absurd rfl inside
    | check kind =>
      refine ⟨.go, ?_⟩
      simp only [plan, planWaitSignal]
      split <;> rfl
    | refresh => exact ⟨.go, by simpa [plan, planWaitSignal] using knows.1⟩
    | resume | leave | signalExit => exact ⟨.go, rfl⟩
    | closing stage =>
      refine ⟨.go, ?_⟩
      simp only [plan, planWaitSignal, isSome_map]
      refine closing_moves fun isLock => ?_
      subst isLock
      exact absurd rfl inside
  | clients | caller | newSession | callback => exact absurd rfl inside

theorem moves_outside (free : ∀ key, sh.locks key = none)
    (released : ∀ pool, sh.isStarted pool = true → sh.isCancelled pool = true)
    (exited : ∀ session, session < sh.sessions.length → sh.isExited session = true)
    (knows : WorkKnows sh th) (outside : th.lock = none)
    (works : th.works = true) (running : th.ended = false) :
    ∃ choice, (plan sh t th choice).isSome = true := by
  cases th with
  | create pool user pass pc =>
    cases pc with
    | lock => exact ⟨.go, by simp [plan, planCreate, free]⟩
    | done => cases running
    | _ => cases outside
  | watch pool v handles pc =>
    cases pc with
    | waiting => exact ⟨.finish, by simp [plan, planWatch, released pool knows]⟩
    | refresh => exact ⟨.go, rfl⟩
    | lock => exact ⟨.go, by simp [plan, planWatch, free]⟩
    | release | unlock => cases outside
    | put rest =>
      cases rest with
      | nil => cases running
      | cons pair rest => exact ⟨.go, rfl⟩
  | newSession session stage =>
    cases stage with
    | none => cases running
    | some stage =>
      refine ⟨.go, ?_⟩
      cases stage with
      | next rest handles =>
        cases rest with
        | nil => rfl
        | cons kind rest =>
          simp only [plan, planNewSession, acquire]
          split <;> rfl
      | drain kind handle rest handles =>
        simp only [plan, planNewSession, acquire]
        split <;> rfl
  | connect session pc =>
    cases pc with
    | lock => exact ⟨.go, by simp [plan, planConnect, free]⟩
    | done => cases running
    | _ => cases outside
  | close session stage =>
    cases stage with
    | none => cases running
    | some stage =>
      refine ⟨.go, ?_⟩
      simp only [plan, planClose, isSome_map]
      exact closing_moves fun _ => free _
  | waitSignal session handles pc =>
    cases pc with
    | waiting =>
      have ended := exited session (lt_of_sessionConn knows.1)
      exact ⟨.finish, by simp [plan, planWaitSignal, ended]⟩
    | lock kind => exact ⟨.go, by simp [plan, planWaitSignal, free]⟩
    | closing stage =>
      refine ⟨.go, ?_⟩
      simp only [plan, planWaitSignal, isSome_map]
      exact closing_moves fun _ => free _
    | put rest =>
      cases rest with
      | nil => cases running
      | cons pair rest => exact ⟨.go, rfl⟩
    | check | refresh | resume | leave | signalExit => cases outside
  | clients | caller | callback => cases works

end

theorem works_of_lock (inside : th.lock ≠ none) : th.works = true := by
  cases th with
  | create | watch | connect | close | waitSignal => rfl
  | clients | caller | newSession | callback => exact absurd rfl inside

section

variable {s : State}

theorem Returning.unlocked (returning : Returning s) (settled : Settled s) (key : LockKey) :
    s.shared.locks key = none := by
  by_contra taken
  obtain ⟨t, isHolder⟩ := ne_none_iff_exists'.mp taken
  obtain ⟨th, found, holds⟩ := returning.accounted.sectioned.guarded key t isHolder
  have inside : th.lock ≠ none := by
    rw [of_decide_eq_true holds]
    simp
  obtain ⟨choice, moves⟩ := moves_inside inside (returning.knows t th found)
  rw [settled t th found (works_of_lock inside) choice] at moves
  cases moves

theorem Returning.ended (returning : Returning s) (complete : Complete s) {t : Nat}
    {th : Thread} (found : s.threads[t]? = some th) (works : th.works = true) :
    th.ended = true := by
  by_contra running
  have free := returning.unlocked complete.settled
  have knows := returning.knows t th found
  obtain ⟨choice, moves⟩ : ∃ choice, (plan s.shared t th choice).isSome = true := by
    by_cases inside : th.lock = none
    · refine moves_outside free ?_ ?_ knows inside works (by simpa using running)
      · intro pool started
        obtain ⟨entry, here, isStarted⟩ := (any_eq_true _ _).mp started
        have cancelled := complete.released entry (mem_of_getElem? here) isStarted
        exact (any_eq_true _ _).mpr ⟨entry, here, cancelled⟩
      · intro session opened
        have mem := getElem_mem opened
        exact (any_eq_true _ _).mpr
          ⟨_, List.getElem?_eq_getElem opened, complete.closed _ mem⟩
    · exact moves_inside inside knows
  rw [complete.settled t th found works choice] at moves
  cases moves

theorem owes_of_idle {th : Thread} (idle : th.works = false) (owner : Owner)
    (pair : Kind × Handle) : th.owes owner pair = 0 := by
  cases th with
  | clients | caller | callback => exact owes_eq_zero rfl owner pair
  | create | watch | newSession | connect | close | waitSignal => cases idle

theorem Returning.owed_complete (returning : Returning s) (complete : Complete s)
    (owner : Owner) (pair : Kind × Handle) : owed s owner pair = 0 := by
  have threads : tally (Thread.owes owner pair) s.threads = 0 := by
    by_contra pos
    obtain ⟨t, th, found, owes⟩ :=
      exists_of_tally_pos (Thread.owes owner pair) (Nat.pos_of_ne_zero pos)
    cases works : th.works with
    | false =>
      rw [owes_of_idle works] at owes
      exact absurd owes (Nat.lt_irrefl 0)
    | true =>
      have free := debt_of_ended (returning.ended complete found works)
      rw [owes_eq_zero free] at owes
      exact absurd owes (Nat.lt_irrefl 0)
  have pending : s.shared.pending owner = [] := by
    cases owner with
    | pool pool => rfl
    | session session =>
      -- A session whose handles are still its own was closed, so it was connected.
      by_cases unconnected : s.shared.sessionConn session = none
      · cases made : s.shared.sessionHandles session with
        | none => simp [Shared.pending, made]
        | some handles =>
          have opened : session < s.shared.sessions.length :=
            lt_of_sessionHandles (by rw [made]; rfl)
          have exited : s.shared.isExited session = true :=
            (any_eq_true _ _).mpr ⟨_, List.getElem?_eq_getElem opened,
              complete.closed _ (getElem_mem opened)⟩
          have connected := returning.connected session (returning.closed session exited)
          rw [unconnected] at connected
          cases connected
      · simp [Shared.pending, unconnected]
  rw [owed, threads, pending, count_nil]

end

/-- If new pools get their first connection and sessions are closed after they were
connected, nothing is given back twice or without having been taken, and in a
complete run everything that was taken was given back. -/
theorem handles_given_back {s : State} (reached : machine.system.ReachableUnder Connects s) :
    (∀ taking, (putHandles s.shared.history).count taking ≤
        (takenHandles s.shared.history).count taking ∧
      (takenHandles s.shared.history).count taking ≤
        (putHandles s.shared.history).count taking + 1) ∧
      (Complete s → (takenHandles s.shared.history).Perm (putHandles s.shared.history)) := by
  have returning := returning_of_reachable reached
  refine ⟨fun (owner, pair) => ?_, fun complete => perm_iff_count.mpr fun (owner, pair) => ?_⟩
  · have balanced := returning.balanced owner pair
    have once : owed s owner pair ≤ 1 := returning.accounted.once pair (some owner)
    omega
  · rw [returning.balanced owner pair, returning.owed_complete complete owner pair, Nat.add_zero]

/-- A pool whose creation fails when it registers, the next pool of the user, which
the user's removal releases, and a session that connects and is closed. -/
theorem handles_given_back_registration_fails :
    ∃ s, machine.system.ReachableUnder Connects s ∧ Complete s ∧
      (takenHandles s.shared.history).length = 8 ∧
      (takenHandles s.shared.history).Perm (putHandles s.shared.history) := by
  obtain ⟨s, reached, taken, released, closed, ended⟩ :
      ∃ s, machine.system.ReachableUnder Connects s ∧
        (takenHandles s.shared.history).length = 8 ∧
        (∀ entry ∈ s.shared.pools, entry.started = true → entry.cancelled = true) ∧
        (∀ entry ∈ s.shared.sessions, entry.exit = true) ∧
        ∀ th ∈ s.threads, th.works = true → th.ended = true :=
    machine.system.exists_of_exec
      (.flatten [(0, .request [1] [1]) :: goes 1 7, (1, .fail) :: goes 1 9,
        (0, .request [1] [2]) :: goes 2 18, (0, .raise 1 .dropUser) :: goes 4 2,
        (3, .receive .dropUser) :: goes 3 10, (0, .session) :: goes 5 5,
        (0, .connect 0) :: goes 6 9, (0, .close 0) :: goes 8 5, (7, .finish) :: goes 7 2]) rfl rfl
  have complete : Complete s := ⟨released, closed, settled_of_ended ended⟩
  exact ⟨s, reached, complete, taken, (handles_given_back reached).2 complete⟩

/-- `NewConnectPool` fails, or a session is closed that never connected: the run is
complete and no handle was given back. -/
theorem handles_never_given_back :
    (∃ s, machine.system.Reachable s ∧ Complete s ∧ s.shared.sessions = [] ∧
      (takenHandles s.shared.history).length = 3 ∧ putHandles s.shared.history = []) ∧
    ∃ s, machine.system.Reachable s ∧ Complete s ∧ s.shared.pools = [] ∧
      (takenHandles s.shared.history).length = 2 ∧ putHandles s.shared.history = [] := by
  constructor
  · obtain ⟨s, reached, sessions, taken, put, released, ended⟩ :
        ∃ s, machine.system.Reachable s ∧ s.shared.sessions = [] ∧
          (takenHandles s.shared.history).length = 3 ∧ putHandles s.shared.history = [] ∧
          (∀ entry ∈ s.shared.pools, entry.started = true → entry.cancelled = true) ∧
          ∀ th ∈ s.threads, th.works = true → th.ended = true :=
      machine.system.exists_of_exec
        (.flatten [(0, .request [1] [1]) :: goes 1 6, [(1, .fail), (1, .go)]]) rfl rfl
    have closed : ∀ entry ∈ s.shared.sessions, entry.exit = true := by
      simp [sessions]
    exact ⟨s, reached, ⟨released, closed, settled_of_ended ended⟩, sessions, taken, put⟩
  · obtain ⟨s, reached, pools, taken, put, closed, ended⟩ :
        ∃ s, machine.system.Reachable s ∧ s.shared.pools = [] ∧
          (takenHandles s.shared.history).length = 2 ∧ putHandles s.shared.history = [] ∧
          (∀ entry ∈ s.shared.sessions, entry.exit = true) ∧
          ∀ th ∈ s.threads, th.works = true → th.ended = true :=
      machine.system.exists_of_exec
        (.flatten [(0, .session) :: goes 1 3, (0, .close 0) :: goes 2 5]) rfl rfl
    have released : ∀ entry ∈ s.shared.pools, entry.started = true → entry.cancelled = true := by
      simp [pools]
    exact ⟨s, reached, ⟨released, closed, settled_of_ended ended⟩, pools, taken, put⟩

theorem accounted_of_reachable {s : State} (reached : machine.system.Reachable s) :
    Accounted s := by
  refine System.Reachable.invariant (fun _ initial => ?_)
    (fun _ _ _ accounted stepped => ?_) reached
  · obtain rfl := initial
    exact accounted_empty
  · obtain ⟨th, effect, next, spawned, found, planned, _, rfl⟩ := planned_of_next stepped
    exact accounted.step found planned

/-- In every run a handle has one kind and is in one place at most, once: free, or with the one
pool or session that took it. That holds for a pool that was never made, too: nobody else has
its handles. -/
theorem handle_in_one_place {s : State} (reached : machine.system.Reachable s) {kind kind' : Kind}
    {handle : Handle} {place place' : Option Owner} (here : 0 < places s (kind, handle) place)
    (there : 0 < places s (kind', handle) place') :
    s.shared.holding handle = some (kind, place) ∧
      kind = kind' ∧ place = place' ∧ places s (kind, handle) place = 1 := by
  have accounted := accounted_of_reachable reached
  have holding := accounted.placed _ _ here
  have once := accounted.once (kind, handle) place
  cases holding.symm.trans (accounted.placed (kind', handle) _ there)
  exact ⟨holding, rfl, rfl, by omega⟩

/-- `NewConnectPool` failed and has its handle still; a session took another one. -/
theorem handle_in_one_place_taken : ∃ s, machine.system.Reachable s ∧
    s.shared.holding 2 = some (.dropUser, some (.pool 0)) ∧
    (∀ place, 0 < places s (.dropUser, 2) place → place = some (.pool 0)) ∧
    0 < places s (.dropUser, 4) (some (.session 0)) ∧
      ∀ place, 0 < places s (.dropUser, 4) place → place = some (.session 0) := by
  obtain ⟨s, reached, kept, taken⟩ : ∃ s, machine.system.Reachable s ∧
      s.shared.holding 2 = some (.dropUser, some (.pool 0)) ∧
      0 < places s (.dropUser, 4) (some (.session 0)) :=
    machine.system.exists_of_exec (.flatten [(0, .request [1] [1]) :: goes 1 6,
      [(1, .fail), (1, .go)], (0, .session) :: goes 2 3]) rfl (by decide)
  refine ⟨s, reached, kept, fun place here => ?_, taken, fun place here => ?_⟩
  · have held := (handle_in_one_place reached here here).1.symm.trans kept
    exact (Prod.mk.inj (Option.some.inj held)).2
  · exact (handle_in_one_place reached here taken).2.2.1

end TaosAdapter.Notify
