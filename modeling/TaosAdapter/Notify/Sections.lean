import TaosAdapter.Notify.Views

/-!
Owns: the critical sections of `connectionLocker` and of the sessions, and what
they protect: a session is made once and connected once.
-/

namespace TaosAdapter.Notify

open Lib List Snapshot

inductive LockStep (sh : Shared) (t : Nat) (th : Thread) (effect : Effect)
    (next : Thread) : Prop where
  | keep (locks : (sh.apply effect).locks = sh.locks) (same : next.lock = th.lock)
  | take (key : LockKey) (isLock : effect = .lock key t) (free : sh.locks key = none)
      (outside : th.lock = none) (inside : next.lock = some key)
  | leave (key : LockKey) (isUnlock : effect = .unlock key) (inside : th.lock = some key)
      (outside : next.lock = none)

section

variable {sh : Shared} {t : Nat} {th next : Thread} {effect : Effect}
  {spawned : List Thread}

theorem Planned.lockStep (planned : Planned sh t th effect next spawned) :
    LockStep sh t th effect next := by
  cases effect with
  | lock key holder =>
    obtain ⟨rfl, free, outside, inside⟩ := planned.doneBy
    exact .take key rfl free outside inside
  | unlock key =>
    obtain ⟨inside, outside⟩ := planned.doneBy
    exact .leave key rfl inside outside
  | _ => exact .keep rfl (planned.lock_kept (by simp) (by simp))

theorem Started.lock {new : Thread} (started : Started new) : new.lock = none := by
  cases started <;> rfl

theorem Planned.respects (planned : Planned sh t th effect next spawned) (key : LockKey) :
    Respects Thread.holds Shared.locks t th sh ⟨sh.apply effect, next, spawned⟩ key := by
  cases planned.lockStep with
  | keep locks same => exact .keep (congrFun locks key) (by simp [Thread.holds, same])
  | take taken isLock free outside inside =>
    subst isLock
    by_cases own : key = taken
    · subst own
      exact .take free (by simp [locks_apply])
    · refine .keep (by simp [locks_apply, own]) fun held => ?_
      simp [Thread.holds, inside, Ne.symm own] at held
  | leave left isUnlock inside outside =>
    subst isUnlock
    by_cases own : key = left
    · subst own
      exact .leave (by simp [Thread.holds, inside]) (by simp [locks_apply])
        (by simp [Thread.holds, outside])
    · refine .keep (by simp [locks_apply, own]) fun held => ?_
      simp [Thread.holds, outside] at held

theorem Planned.guards (planned : Planned sh t th effect next spawned) (key : LockKey)
    (u : Nat) (locked : (sh.apply effect).locks key = some u) :
    (sh.locks key = some u ∧ (th.holds key = true → next.holds key = true)) ∨
      (u = t ∧ next.holds key = true) := by
  cases planned.lockStep with
  | keep locks same => exact .inl ⟨locks ▸ locked, by simp [Thread.holds, same]⟩
  | take taken isLock free outside inside =>
    subst isLock
    simp only [locks_apply] at locked
    by_cases own : key = taken
    · subst own
      simp only [Function.update_self, Option.some.injEq] at locked
      exact .inr ⟨locked.symm, by simp [Thread.holds, inside]⟩
    · rw [Function.update_of_ne own] at locked
      exact .inl ⟨locked, by simp [Thread.holds, outside]⟩
  | leave left isUnlock inside outside =>
    subst isUnlock
    simp only [locks_apply] at locked
    by_cases own : key = left
    · subst own
      simp at locked
    · rw [Function.update_of_ne own] at locked
      refine .inl ⟨locked, fun held => ?_⟩
      simp [Thread.holds, inside, Ne.symm own] at held

end

def Thread.constructs (session : Nat) : Thread → Nat
  | .newSession other _ => if other = session then 1 else 0
  | _ => 0

def SessionKnows (sh : Shared) : Thread → Prop
  | .newSession session (some _) => sh.sessionHandles session = none
  | .connect session .connect => sh.sessionConn session = none
  | .connect session (.setup handles _ _) =>
    sh.sessionConn session = none ∧ sh.sessionHandles session = some handles
  | _ => True

structure Sectioned (s : State) : Prop where
  exclusive : Exclusive Thread.holds Shared.locks s
  guarded : Guarded Thread.holds Shared.locks s
  constructors : ∀ session, tally (Thread.constructs session) s.threads =
    if session < s.shared.sessions.length then 1 else 0
  unmade : ∀ session, s.shared.sessionHandles session = none →
    s.shared.sessionConn session = none
  knows : ∀ (t : Nat) th, s.threads[t]? = some th → SessionKnows s.shared th

section

variable {sh : Shared} {t : Nat} {th next : Thread} {effect : Effect}
  {spawned : List Thread}

theorem sessionConn_apply (sh : Shared) (effect : Effect) (session : Nat) :
    (sh.apply effect).sessionConn session = sh.sessionConn session ∨
      ∃ conn, effect = .connected session conn := by
  unfold Shared.sessionConn
  rw [sessions_apply]
  cases effect with
  | newSession => exact .inl (bind_append_eq _ _ _ rfl session)
  | connected other conn =>
    by_cases same : other = session
    · subst same
      exact .inr ⟨conn, rfl⟩
    · exact .inl (by rw [bind_modify_eq]; simp [same])
  | ready other | setClosed other | exit other =>
    left
    rw [bind_modify_eq]
    refine congrArg _ (funext fun entry => ?_)
    split <;> rfl
  | _ => exact .inl rfl

theorem sessionHandles_apply (sh : Shared) (effect : Effect) (session : Nat) :
    (sh.apply effect).sessionHandles session = sh.sessionHandles session ∨
      ∃ handles, effect = .ready session handles := by
  unfold Shared.sessionHandles
  rw [sessions_apply]
  cases effect with
  | newSession => exact .inl (bind_append_eq _ _ _ rfl session)
  | ready other handles =>
    by_cases same : other = session
    · subst same
      exact .inr ⟨handles, rfl⟩
    · exact .inl (by rw [bind_modify_eq]; simp [same])
  | connected other | setClosed other | exit other =>
    left
    rw [bind_modify_eq]
    refine congrArg _ (funext fun entry => ?_)
    split <;> rfl
  | _ => exact .inl rfl

variable {session : Nat}

theorem sessionHandles_ready (exists_ : session < sh.sessions.length) (handles : Handles) :
    (sh.apply (.ready session handles)).sessionHandles session = some handles := by
  simp [Shared.apply, Shared.modifySession, Shared.sessionHandles, exists_]

theorem sessionConn_connected (exists_ : session < sh.sessions.length) (conn : Conn) :
    (sh.apply (.connected session conn)).sessionConn session = some conn := by
  simp [Shared.apply, Shared.modifySession, Shared.sessionConn, exists_]

theorem lt_of_sessionHandles (made : (sh.sessionHandles session).isSome = true) :
    session < sh.sessions.length := by
  by_contra outside
  simp [Shared.sessionHandles, List.getElem?_eq_none (Nat.le_of_not_lt outside)] at made

theorem lt_of_sessionConn (connected : (sh.sessionConn session).isSome = true) :
    session < sh.sessions.length := by
  by_contra outside
  simp [Shared.sessionConn, List.getElem?_eq_none (Nat.le_of_not_lt outside)] at connected

inductive SessionStep (sh : Shared) (th : Thread) (effect : Effect) (next : Thread)
    (spawned : List Thread) : Prop where
  | made (session : Nat) (handles : Handles)
      (before : th = .newSession session (some (.next [] handles)))
      (isReady : effect = .ready session handles) (after : next = .newSession session none)
      (nobody : spawned = [])
  | connected (session : Nat) (handles : Handles) (conn : Conn)
      (before : th = .connect session (.setup handles conn []))
      (isConnected : effect = .connected session conn) (after : next = .connect session .unlock)
      (goroutine : spawned = [.waitSignal session handles .waiting])
  | other (unmade : ∀ session handles, effect ≠ .ready session handles)
      (unconnected : ∀ session conn, effect ≠ .connected session conn)

theorem Planned.sessionStep (planned : Planned sh t th effect next spawned) :
    SessionStep sh th effect next spawned := by
  cases effect with
  | ready session handles =>
    obtain ⟨before, after, nobody⟩ := planned.doneBy
    exact .made session handles before rfl after nobody
  | connected session conn =>
    obtain ⟨handles, before, after, goroutine⟩ := planned.doneBy
    exact .connected session handles conn before rfl after goroutine
  | _ => exact .other (by simp) (by simp)

theorem sessions_length_apply (sh : Shared) (effect : Effect) : (sh.apply effect).sessions.length =
      sh.sessions.length + if effect = .newSession then 1 else 0 := by
  rw [sessions_apply]
  cases effect <;> simp

theorem Planned.constructors (planned : Planned sh t th effect next spawned) (session : Nat) :
    next.constructs session + tally (Thread.constructs session) spawned = th.constructs session +
        if effect = .newSession ∧ session = sh.sessions.length then 1 else 0 := by
  by_cases opened : effect = .newSession
  · subst opened
    obtain ⟨rfl, rfl, rfl⟩ := planned.doneBy
    simp [Thread.constructs, eq_comm]
  · cases planned with
    | sessionOpened => exact absurd rfl opened
    | _ => simp [Thread.constructs, opened]

end

section

variable {s : State} {t session u : Nat} {th next : Thread} {effect : Effect}
  {spawned : List Thread} {stage : Option Acquire}

section

variable (sectioned : Sectioned s) (found : s.threads[t]? = some (.newSession session stage))

include sectioned found

theorem Sectioned.constructor_unique {other : Option Acquire}
    (found2 : s.threads[u]? = some (.newSession session other)) : u = t := by
  by_contra ne
  have both := weight_add_weight_le_tally (Thread.constructs session) ne found2 found
  have count := sectioned.constructors session
  simp only [Thread.constructs, if_true] at both
  split at count <;> omega

theorem Sectioned.constructor_exists : session < s.shared.sessions.length := by
  have one := weight_le_tally (Thread.constructs session) found
  have count := sectioned.constructors session
  simp only [Thread.constructs, if_true] at one
  split at count
  · assumption
  · omega

end

variable {other : Thread}

theorem Sectioned.alone (sectioned : Sectioned s) {key : LockKey} (found : s.threads[t]? = some th)
    (found2 : s.threads[u]? = some other) (inside : th.lock = some key)
    (otherInside : other.lock = some key) : u = t := by
  have own := sectioned.exclusive t th key found (by simp [Thread.holds, inside])
  have others := sectioned.exclusive u other key found2 (by simp [Thread.holds, otherInside])
  rw [own] at others
  exact (Option.some.inj others).symm

theorem SessionKnows.congr {before after : Shared} {th : Thread} (knows : SessionKnows before th)
    (conns : ∀ session pc, th = .connect session pc → th.lock = some (.session session) →
      after.sessionConn session = before.sessionConn session)
    (unmade : ∀ session stage, th = .newSession session (some stage) →
      after.sessionHandles session = before.sessionHandles session)
    (made : ∀ session handles conn rest, th = .connect session (.setup handles conn rest) →
      after.sessionHandles session = before.sessionHandles session) : SessionKnows after th := by
  cases th with
  | newSession session stage =>
    cases stage with
    | none => trivial
    | some stage => exact (unmade session stage rfl).trans knows
  | connect session pc =>
    cases pc with
    | connect => exact (conns session _ rfl rfl).trans knows
    | setup handles conn rest =>
      exact ⟨(conns session _ rfl rfl).trans knows.1,
        (made session handles conn rest rfl).trans knows.2⟩
    | _ => trivial
  | _ => trivial

variable {sh : Shared}

theorem sessionConn_eq {effect : Effect} (unconnected : ∀ conn, effect ≠ .connected session conn) :
    (sh.apply effect).sessionConn session = sh.sessionConn session :=
  (sessionConn_apply sh effect session).resolve_right fun ⟨conn, same⟩ => unconnected conn same

theorem sessionHandles_eq {effect : Effect} (unmade : ∀ handles, effect ≠ .ready session handles) :
    (sh.apply effect).sessionHandles session = sh.sessionHandles session :=
  (sessionHandles_apply sh effect session).resolve_right
    fun ⟨handles, same⟩ => unmade handles same

section

variable (sectioned : Sectioned s) (found : s.threads[t]? = some th)
  (planned : Planned s.shared t th effect next spawned)

include sectioned found planned

theorem Sectioned.others (ne : u ≠ t)
    (here : s.threads[u]? = some other) : SessionKnows (s.shared.apply effect) other := by
  have knows := sectioned.knows u other here
  cases planned.sessionStep with
  | made session handles before isReady after nobody =>
    subst before isReady
    have unmade : s.shared.sessionHandles session = none := sectioned.knows t _ found
    refine knows.congr (fun _ _ _ _ => sessionConn_eq (by simp)) ?_ ?_
    · rintro name stage rfl
      refine sessionHandles_eq fun made same => ?_
      obtain rfl := (Effect.ready.inj same).1
      exact ne (sectioned.constructor_unique found here)
    · rintro name made conn rest rfl
      refine sessionHandles_eq fun other same => ?_
      obtain rfl := (Effect.ready.inj same).1
      have known := knows.2
      rw [unmade] at known
      cases known
  | connected session handles conn before isConnected after goroutine =>
    subst before isConnected
    refine knows.congr ?_ (fun _ _ _ => sessionHandles_eq (by simp))
      fun _ _ _ _ _ => sessionHandles_eq (by simp)
    -- Whoever knows the connection of this session is in its section.
    intro name pc own inside
    refine sessionConn_eq fun other same => ?_
    obtain rfl := (Effect.connected.inj same).1
    exact ne (sectioned.alone found here rfl inside)
  | other unmade unconnected =>
    exact knows.congr (fun name _ _ _ => sessionConn_eq (unconnected name))
      (fun name _ _ => sessionHandles_eq (unmade name))
      fun name _ _ _ _ => sessionHandles_eq (unmade name)

theorem Sectioned.own : SessionKnows (s.shared.apply effect) next := by
  have knows := sectioned.knows t th found
  cases planned with
  | sessionAcquired session stage next effect acquired =>
    exact (sessionHandles_eq (by cases acquired <;> simp)).trans knows
  | connectChecked session running missing => exact missing
  | connectConnected session handles made => exact ⟨knows, made⟩
  | connectSetUp session handles conn action rest =>
    rcases Setup.effect_cases (.session session) handles conn action with
      ⟨_, _, _, isEffect⟩ | isEffect <;> rw [isEffect] <;>
      exact ⟨(sessionConn_eq (by simp)).trans knows.1, (sessionHandles_eq (by simp)).trans knows.2⟩
  | _ => trivial

end

theorem sessionKnows_spawned (planned : Planned s.shared t th effect next spawned)
    {new : Thread} (mem : new ∈ spawned) : SessionKnows (s.shared.apply effect) new := by
  cases planned with
  | sessionOpened =>
    obtain rfl := mem_singleton.mp mem
    refine (sessionHandles_eq (by simp)).trans ?_
    simp [Shared.sessionHandles]
  | requested | called | connectRequested | closeRequested | raised | createStarted
  | createReplaces | connectDone =>
    obtain rfl := mem_singleton.mp mem
    trivial
  | _ => exact absurd mem not_mem_nil

variable (sectioned : Sectioned s) (found : s.threads[t]? = some th)
  (planned : Planned s.shared t th effect next spawned)

include sectioned found planned

theorem Sectioned.unmade_step (session : Nat)
    (unmade : (s.shared.apply effect).sessionHandles session = none) :
    (s.shared.apply effect).sessionConn session = none := by
  rcases sessionHandles_apply s.shared effect session with same | ⟨handles, rfl⟩
  · rw [same] at unmade
    refine (sessionConn_eq fun conn isConnected => ?_).trans (sectioned.unmade session unmade)
    subst isConnected
    cases planned.sessionStep with
    | made _ _ _ isReady => cases isReady
    | connected name handles conn before isConnected =>
      obtain ⟨rfl, rfl⟩ := Effect.connected.inj isConnected
      subst before
      have made := (sectioned.knows t _ found).2
      rw [unmade] at made
      cases made
    | other _ unconnected => exact absurd rfl (unconnected session conn)
  · cases planned.sessionStep with
    | made name handles before isReady =>
      obtain ⟨rfl, rfl⟩ := Effect.ready.inj isReady
      subst before
      rw [sessionHandles_ready (sectioned.constructor_exists found)] at unmade
      cases unmade
    | connected _ _ _ _ isConnected => cases isConnected
    | other notReady => exact absurd rfl (notReady session handles)

/-- Inside its section a thread finds the handles and the connection of its session
as it knows them. -/
theorem Sectioned.step : Sectioned (s.apply t ⟨s.shared.apply effect, next, spawned⟩) where
  exclusive := by
    refine sectioned.exclusive.apply found planned.respects fun new mem key => ?_
    simp [Thread.holds, (planned.started mem).lock]
  guarded := sectioned.guarded.apply found planned.guards
  constructors := by
    intro session
    have moved := tally_apply (Thread.constructs session) found
      ⟨s.shared.apply effect, next, spawned⟩
    have count := sectioned.constructors session
    have changed := planned.constructors session
    simp only [apply_shared, sessions_length_apply] at moved ⊢
    by_cases opened : effect = .newSession
    · simp only [opened, true_and, if_true] at changed moved ⊢
      split at count <;> split at changed <;> split <;> omega
    · simp only [opened, false_and, if_false, Nat.add_zero] at changed moved ⊢
      omega
  unmade := sectioned.unmade_step found planned
  knows := by
    intro u other here
    rcases apply_inv here with ⟨ne, before⟩ | ⟨rfl, rfl⟩ | ⟨_, mem⟩
    · exact sectioned.others found planned ne before
    · exact sectioned.own found planned
    · exact sessionKnows_spawned planned mem

end

theorem sectioned_empty : Sectioned empty where
  exclusive := by
    intro t th key found holds
    have mem := mem_of_getElem? found
    obtain rfl := mem_singleton.mp mem
    cases holds
  guarded := fun key t locked => by cases locked
  constructors := fun session => by simp [empty, Thread.constructs]
  unmade := fun session _ => by simp [empty, Shared.sessionConn]
  knows := by
    intro t th found
    have mem := mem_of_getElem? found
    obtain rfl := mem_singleton.mp mem
    trivial

end TaosAdapter.Notify
