import TaosAdapter.Notify.Sections

/-!
Owns: who has which handle. A handle is free (in its pool, or cleaned up by the
goroutine that took it out), or it belongs to one owner; then exactly one
goroutine, or the session itself until it is connected, has to give it back. This
holds in every run; a handle that nobody has to give back any more is lost.
-/

namespace TaosAdapter.Notify

open Lib List Snapshot

def Thread.owes (owner : Owner) (pair : Kind × Handle) (th : Thread) : Nat :=
  if th.debt.1 = owner then th.debt.2.count pair else 0

variable {th : Thread}

theorem owes_of_debt {own : Owner} {handles : Handles} (debt : th.debt = (own, handles))
    (owner : Owner) (pair : Kind × Handle) :
    th.owes owner pair = if own = owner then handles.count pair else 0 := by
  rw [Thread.owes, debt]

theorem owes_eq_zero (free : th.debt.2 = []) (owner : Owner) (pair : Kind × Handle) :
    th.owes owner pair = 0 := by
  rw [Thread.owes, free, count_nil]
  split <;> rfl

def Thread.drains (pair : Kind × Handle) (th : Thread) : Nat :=
  if th.draining = some pair then 1 else 0

theorem drains_of_draining {drained : Option (Kind × Handle)} (draining : th.draining = drained)
    (pair : Kind × Handle) : th.drains pair = if drained = some pair then 1 else 0 := by
  rw [Thread.drains, draining]

namespace Shared

variable (sh : Shared)

def holding (handle : Handle) : Option (Kind × Option Owner) :=
  (sh.handles[handle]?).map fun entry => (entry.kind, entry.holder)

def pending : Owner → Handles
  | .pool _ => []
  | .session session =>
    if sh.sessionConn session = none then (sh.sessionHandles session).getD [] else []

end Shared

def owed (s : State) (owner : Owner) (pair : Kind × Handle) : Nat :=
  tally (Thread.owes owner pair) s.threads + (s.shared.pending owner).count pair

def places (s : State) (pair : Kind × Handle) : Option Owner → Nat
  | none => (s.shared.handlePool pair.1).count pair.2 + tally (Thread.drains pair) s.threads
  | some owner => owed s owner pair

section

variable (sh : Shared)

theorem holding_apply (effect : Effect) (handle : Handle) : (sh.apply effect).holding handle =
      match effect with
      | .fresh owner kind => if handle = sh.handles.length then some (kind, some owner)
        else sh.holding handle
      | .hold owner _ held =>
        if handle = held then (sh.holding handle).map fun (kind, _) => (kind, some owner)
        else sh.holding handle
      | .give _ _ given =>
        if handle = given then (sh.holding handle).map fun (kind, _) => (kind, none)
        else sh.holding handle
      | _ => sh.holding handle := by
  unfold Shared.holding
  rw [handles_apply]
  cases effect with
  | fresh owner kind =>
    simp only [getElem?_append_singleton]
    by_cases last : handle = sh.handles.length <;> simp [last]
  | hold owner kind held | give owner kind held =>
    simp only [List.getElem?_modify]
    cases sh.handles[handle]? with
    | none => simp
    | some entry =>
      by_cases same : handle = held
      · subst same
        simp
      · simp [same, Ne.symm same]
  | discard held | receive _ _ held _ | send held _ =>
    simp only [List.getElem?_modify]
    cases sh.handles[handle]? with
    | none => rfl
    | some entry =>
      simp only [Option.map_eq_map, Option.map_some]
      split <;> rfl
  | _ => rfl

theorem pending_apply (effect : Effect) (owner : Owner)
    (unmade : ∀ session handles, effect ≠ .ready session handles)
    (unconnected : ∀ session conn, effect ≠ .connected session conn) :
    (sh.apply effect).pending owner = sh.pending owner := by
  cases owner with
  | pool pool => rfl
  | session session =>
    simp only [Shared.pending, sessionConn_eq (unconnected session),
      sessionHandles_eq (unmade session)]

def Effect.enters (pair : Kind × Handle) (place : Option Owner) : Effect → Nat
  | .fresh taker kind =>
    if place = some taker ∧ pair = (kind, sh.handles.length) then 1 else 0
  | .hold taker kind handle => if place = some taker ∧ pair = (kind, handle) then 1 else 0
  | .give _ kind handle => if place = none ∧ pair = (kind, handle) then 1 else 0
  | _ => 0

def Effect.leaves (pair : Kind × Handle) (place : Option Owner) : Effect → Nat
  | .hold _ kind handle => if place = none ∧ pair = (kind, handle) then 1 else 0
  | .give giver kind handle => if place = some giver ∧ pair = (kind, handle) then 1 else 0
  | _ => 0

theorem Effect.enters_le (effect : Effect) (pair : Kind × Handle) (place : Option Owner) :
    effect.enters sh pair place ≤ 1 := by
  unfold Effect.enters
  repeat' split
  all_goals decide

variable {effect : Effect} (still : effect.moves = false)

include still

theorem holding_still (handle : Handle) : (sh.apply effect).holding handle = sh.holding handle := by
  rw [holding_apply]
  cases effect <;> first | rfl | cases still

theorem places_still (pair : Kind × Handle) (place : Option Owner) :
    effect.enters sh pair place = 0 ∧ effect.leaves pair place = 0 := by
  cases effect <;> first | exact ⟨rfl, rfl⟩ | cases still

end

section

variable {s : State} {t : Nat} {th next : Thread} {effect : Effect} {spawned : List Thread}

theorem owed_apply (found : s.threads[t]? = some th) (effect : Effect) (next : Thread)
    (spawned : List Thread) (owner : Owner) (pair : Kind × Handle) :
    owed (s.apply t ⟨s.shared.apply effect, next, spawned⟩) owner pair +
        th.owes owner pair + (s.shared.pending owner).count pair =
      owed s owner pair + next.owes owner pair + tally (Thread.owes owner pair) spawned +
        ((s.shared.apply effect).pending owner).count pair := by
  have moved := tally_apply (Thread.owes owner pair) found
    ⟨s.shared.apply effect, next, spawned⟩
  simp only [owed, apply_shared] at moved ⊢
  omega

variable {handles : Handles} {session : Nat} {sh : Shared}

theorem pending_ready (opened : session < sh.sessions.length)
    (unconnected : sh.sessionConn session = none) (owner : Owner) :
    (sh.apply (.ready session handles)).pending owner =
      if owner = .session session then handles else sh.pending owner := by
  cases owner with
  | pool pool => simp [Shared.pending]
  | session other =>
    have conn : (sh.apply (.ready session handles)).sessionConn other =
        sh.sessionConn other := sessionConn_eq (by simp)
    by_cases same : other = session
    · subst same
      simp [Shared.pending, conn, unconnected, sessionHandles_ready opened]
    · have kept : (sh.apply (.ready session handles)).sessionHandles other =
          sh.sessionHandles other :=
        sessionHandles_eq fun made isReady => same (Effect.ready.inj isReady).1.symm
      simp [Shared.pending, conn, kept, same]

variable {conn : Conn}

theorem pending_connected (opened : session < sh.sessions.length) (owner : Owner) :
    (sh.apply (.connected session conn)).pending owner =
      if owner = .session session then [] else sh.pending owner := by
  cases owner with
  | pool pool => simp [Shared.pending]
  | session other =>
    have kept : (sh.apply (.connected session conn)).sessionHandles other =
        sh.sessionHandles other := sessionHandles_eq (by simp)
    by_cases same : other = session
    · subst same
      simp [Shared.pending, sessionConn_connected opened]
    · have conns : (sh.apply (.connected session conn)).sessionConn other = sh.sessionConn other :=
        sessionConn_eq fun new isConnected => same (Effect.connected.inj isConnected).1.symm
      simp [Shared.pending, conns, kept, same]

theorem owed_readied (sectioned : Sectioned s)
    (found : s.threads[t]? = some (.newSession session (some (.next [] handles)))) (owner : Owner)
    (pair : Kind × Handle) :
    owed (s.apply t ⟨s.shared.apply (.ready session handles), .newSession session none, []⟩)
      owner pair = owed s owner pair := by
  have opened := sectioned.constructor_exists found
  have unmade : s.shared.sessionHandles session = none := sectioned.knows t _ found
  have unconnected := sectioned.unmade session unmade
  have moved := owed_apply found (.ready session handles) (.newSession session none) [] owner pair
  have spent : (Thread.newSession session none).owes owner pair = 0 := owes_eq_zero rfl owner pair
  have owing : (Thread.newSession session (some (.next [] handles))).owes owner pair =
      if .session session = owner then handles.count pair else 0 := owes_of_debt rfl owner pair
  rw [pending_ready opened unconnected, spent, owing, tally_nil] at moved
  by_cases own : owner = .session session
  · subst own
    have free : s.shared.pending (.session session) = [] := by
      simp [Shared.pending, unmade]
    simp only [if_true, free, count_nil] at moved
    omega
  · simp only [if_neg own, if_neg (Ne.symm own)] at moved
    omega

theorem owed_connected (sectioned : Sectioned s)
    (found : s.threads[t]? = some (.connect session (.setup handles conn []))) (owner : Owner)
    (pair : Kind × Handle) :
    owed (s.apply t ⟨s.shared.apply (.connected session conn), .connect session .unlock,
      [.waitSignal session handles .waiting]⟩) owner pair = owed s owner pair := by
  obtain ⟨unconnected, made⟩ := sectioned.knows t _ found
  have opened : session < s.shared.sessions.length := lt_of_sessionHandles (by rw [made]; rfl)
  have moved := owed_apply found (.connected session conn) (.connect session .unlock)
    [.waitSignal session handles .waiting] owner pair
  have before : (Thread.connect session (.setup handles conn [])).owes owner pair = 0 :=
    owes_eq_zero rfl owner pair
  have after : (Thread.connect session .unlock).owes owner pair = 0 := owes_eq_zero rfl owner pair
  have owing : (Thread.waitSignal session handles .waiting).owes owner pair =
      if .session session = owner then handles.count pair else 0 := owes_of_debt rfl owner pair
  rw [pending_connected opened, before, after, tally_cons, tally_nil, owing] at moved
  by_cases own : owner = .session session
  · subst own
    have kept : s.shared.pending (.session session) = handles := by
      simp [Shared.pending, unconnected, made]
    simp only [if_true, kept, count_nil] at moved
    omega
  · simp only [if_neg own, if_neg (Ne.symm own)] at moved
    omega

theorem owes_push {taker : Owner} {taken : Kind × Handle} (old : th.debt = (taker, handles))
    (new : next.debt = (taker, handles ++ [taken])) (owner : Owner) (pair : Kind × Handle) :
    next.owes owner pair = th.owes owner pair + if taker = owner ∧ taken = pair then 1 else 0 := by
  rw [owes_of_debt old, owes_of_debt new, count_append, count_singleton]
  by_cases own : taker = owner <;> simp [own]

theorem owes_pop {giver : Owner} {rest : Handles} {given : Kind × Handle}
    (old : th.debt = (giver, given :: rest)) (new : next.debt = (giver, rest))
    (owner : Owner) (pair : Kind × Handle) :
    next.owes owner pair + (if giver = owner ∧ given = pair then 1 else 0) =
      th.owes owner pair := by
  rw [owes_of_debt old, owes_of_debt new, count_cons]
  by_cases own : giver = owner <;> simp [own]

section

variable (planned : Planned s.shared t th effect next spawned)

include planned

theorem Planned.alone (moves : effect.moves = true) : spawned = [] := by
  cases planned with
  | requested | called | sessionOpened | connectRequested | closeRequested | raised
  | createStarted | createReplaces | connectDone => cases moves
  | _ => rfl

theorem Planned.owes_moved (moves : effect.moves = true) (owner : Owner) (pair : Kind × Handle) :
    next.owes owner pair + effect.leaves pair (some owner) =
      th.owes owner pair + effect.enters s.shared pair (some owner) := by
  cases effect with
  | pop kind =>
    obtain ⟨_, _, _, _, _, same⟩ := planned.doneBy
    rw [Thread.owes, Thread.owes, same]
    rfl
  | fresh taker kind =>
    obtain ⟨_, _, handles, old, new⟩ := planned.doneBy
    simpa [Effect.leaves, Effect.enters, eq_comm] using owes_push old new owner pair
  | hold taker kind handle =>
    obtain ⟨_, _, _, handles, old, new⟩ := planned.doneBy
    simpa [Effect.leaves, Effect.enters, eq_comm] using owes_push old new owner pair
  | give giver kind handle =>
    obtain ⟨_, _, _, rest, old, new⟩ := planned.doneBy
    simpa [Effect.leaves, Effect.enters, eq_comm] using owes_pop old new owner pair
  | _ => cases moves

theorem Planned.owes_kept
    (still : effect.moves = false) (unmade : ∀ session handles, effect ≠ .ready session handles)
    (unconnected : ∀ session conn, effect ≠ .connected session conn) (owner : Owner)
    (pair : Kind × Handle) :
    ∃ lost, next.owes owner pair + tally (Thread.owes owner pair) spawned + lost =
        th.owes owner pair ∧ (lost = 0 ∨ ∃ pool user pass old handles,
        th = .create pool user pass (.connect old handles) ∧
          next = .create pool user pass .unlock) := by
  cases planned with
  | createUnconnected pool user pass old handles =>
    refine ⟨(Thread.create pool user pass (.connect old handles)).owes owner pair, ?_,
      .inr ⟨pool, user, pass, old, handles, rfl, rfl⟩⟩
    rw [owes_eq_zero rfl, tally_nil, Nat.zero_add]
  | sessionReady => exact absurd rfl (unmade _ _)
  | connectDone => exact absurd rfl (unconnected _ _)
  | createGives | watchGives | waitGives => cases still
  | createAcquired _ _ _ _ _ _ _ acquired | sessionAcquired _ _ _ _ acquired =>
    cases acquired with
    | discarded => exact ⟨0, rfl, .inl rfl⟩
    | _ => cases still
  | createStarted | createReplaces =>
    refine ⟨0, ?_, .inl rfl⟩
    rw [owes_eq_zero rfl, Nat.zero_add, tally_cons, tally_nil]
    rfl
  | requested | called | sessionOpened | connectRequested | closeRequested | raised =>
    refine ⟨0, ?_, .inl rfl⟩
    rw [tally_cons, tally_nil, owes_eq_zero rfl, owes_eq_zero rfl]
  | waitChecked _ _ kind => exact ⟨0, by cases kind <;> rfl, .inl rfl⟩
  | _ => exact ⟨0, rfl, .inl rfl⟩

end

theorem Sectioned.owed_step (sectioned : Sectioned s) (found : s.threads[t]? = some th)
    (planned : Planned s.shared t th effect next spawned) (owner : Owner) (pair : Kind × Handle) :
    ∃ lost, owed (s.apply t ⟨s.shared.apply effect, next, spawned⟩) owner pair +
        effect.leaves pair (some owner) + lost =
          owed s owner pair + effect.enters s.shared pair (some owner) ∧
      (lost = 0 ∨ ∃ pool user pass old handles, th = .create pool user pass (.connect old handles) ∧
          next = .create pool user pass .unlock) := by
  have moved := owed_apply found effect next spawned owner pair
  cases moves : effect.moves with
  | true =>
    obtain rfl := planned.alone moves
    have changed := planned.owes_moved moves owner pair
    have kept := pending_apply s.shared effect owner
      (by rintro _ _ rfl; cases moves) (by rintro _ _ rfl; cases moves)
    rw [kept, tally_nil] at moved
    exact ⟨0, by omega, .inl rfl⟩
  | false =>
    have none := places_still s.shared moves pair (some owner)
    cases planned.sessionStep with
    | made session handles before isReady after nobody =>
      subst before isReady after nobody
      exact ⟨0, by simp [none, owed_readied sectioned found], .inl rfl⟩
    | connected session handles conn before isConnected after goroutine =>
      subst before isConnected after goroutine
      exact ⟨0, by simp [none, owed_connected sectioned found], .inl rfl⟩
    | other unmade unconnected =>
      obtain ⟨lost, changed, cause⟩ := planned.owes_kept moves unmade unconnected owner pair
      rw [pending_apply s.shared effect owner unmade unconnected] at moved
      exact ⟨lost, by omega, cause⟩

end

structure Accounted (s : State) : Prop where
  sectioned : Sectioned s
  placed : ∀ pair place, 0 < places s pair place → s.shared.holding pair.2 = some (pair.1, place)
  once : ∀ pair place, places s pair place ≤ 1

section

variable {s : State} {t : Nat} {th next : Thread} {effect : Effect} {spawned : List Thread}

theorem free_step (found : s.threads[t]? = some th)
    (planned : Planned s.shared t th effect next spawned) (pair : Kind × Handle) :
    places (s.apply t ⟨s.shared.apply effect, next, spawned⟩) pair none + effect.leaves pair none ≤
      places s pair none + effect.enters s.shared pair none := by
  have moved := tally_apply (Thread.drains pair) found
    ⟨s.shared.apply effect, next, spawned⟩
  have nobody : tally (Thread.drains pair) spawned = 0 := by
    refine tally_eq_zero _ fun new mem => ?_
    cases planned.started mem <;> rfl
  obtain ⟨kind, handle⟩ := pair
  simp only [places, apply_shared, nobody, handlePool_apply] at moved ⊢
  cases effect with
  | pop popped =>
    obtain ⟨first, others, pooled, before, after, _⟩ := planned.doneBy
    rw [drains_of_draining before, drains_of_draining after] at moved
    simp only [Effect.leaves, Effect.enters, reduceCtorEq, if_false, Option.some.injEq,
      Prod.mk.injEq] at moved ⊢
    by_cases same : kind = popped
    · subst same
      rw [Function.update_self, pooled, tail_cons, count_cons]
      simp only [true_and, beq_iff_eq] at moved ⊢
      omega
    · rw [Function.update_of_ne same]
      simp only [Ne.symm same, false_and, if_false] at moved
      omega
  | hold taker held drained =>
    obtain ⟨_, before, after, _⟩ := planned.doneBy
    rw [drains_of_draining before, drains_of_draining after] at moved
    simp only [Effect.leaves, Effect.enters, reduceCtorEq, if_false, false_and, true_and,
      Option.some.injEq, eq_comm] at moved ⊢
    omega
  | give giver given handed =>
    obtain ⟨_, before, after, _⟩ := planned.doneBy
    rw [drains_of_draining before, drains_of_draining after] at moved
    simp only [Effect.leaves, Effect.enters, reduceCtorEq, if_false, false_and, true_and,
      Prod.mk.injEq] at moved ⊢
    split
    · by_cases same : kind = given
      · subst same
        rw [Function.update_self, count_append, count_singleton]
        simp only [true_and, beq_iff_eq, eq_comm (a := handle)]
        omega
      · rw [Function.update_of_ne same]
        omega
    · omega
  | fresh taker made =>
    obtain ⟨before, after, _⟩ := planned.doneBy
    rw [drains_of_draining before, drains_of_draining after] at moved
    simp only [Effect.leaves, Effect.enters, reduceCtorEq, false_and, if_false]
    omega
  | _ =>
    have same := planned.draining_kept rfl
    rw [drains_of_draining same, Thread.drains] at moved
    simp only [Effect.leaves, Effect.enters]
    omega

variable (accounted : Accounted s) (found : s.threads[t]? = some th)
  (planned : Planned s.shared t th effect next spawned)

include accounted found

variable {handle : Handle} {kind : Kind}

theorem Accounted.held_of_owes {owner : Owner} {handles : Handles}
    (debt : th.debt = (owner, handles)) (mem : (kind, handle) ∈ handles) :
    s.shared.holding handle = some (kind, some owner) := by
  refine accounted.placed (kind, handle) (some owner) ?_
  have own := weight_le_tally (Thread.owes owner (kind, handle)) found
  rw [owes_of_debt debt, if_pos rfl] at own
  have pos := count_pos_iff.mpr mem
  simp only [places, owed]
  omega

theorem Accounted.free_of_draining (draining : th.draining = some (kind, handle)) :
    s.shared.holding handle = some (kind, none) := by
  refine accounted.placed (kind, handle) none ?_
  have own := weight_le_tally (Thread.drains (kind, handle)) found
  rw [drains_of_draining draining, if_pos rfl] at own
  simp only [places]
  omega

include planned

theorem Accounted.places_step (pair : Kind × Handle) (place : Option Owner) :
    places (s.apply t ⟨s.shared.apply effect, next, spawned⟩) pair place +
        effect.leaves pair place ≤ places s pair place + effect.enters s.shared pair place := by
  cases place with
  | none => exact free_step found planned pair
  | some owner =>
    obtain ⟨lost, balance, _⟩ := accounted.sectioned.owed_step found planned owner pair
    simp only [places]
    omega

variable {pair : Kind × Handle} {place : Option Owner}

theorem Accounted.holding_entered (entered : effect.enters s.shared pair place ≠ 0) :
    s.shared.holding pair.2 ≠ some (pair.1, place) ∧
      (s.shared.apply effect).holding pair.2 = some (pair.1, place) := by
  rw [holding_apply]
  cases effect with
  | fresh taker kind =>
    obtain ⟨rfl, rfl⟩ : place = some taker ∧ pair = (kind, s.shared.handles.length) := by
      simpa [Effect.enters] using entered
    simp [Shared.holding]
  | hold taker kind handle =>
    obtain ⟨rfl, rfl⟩ : place = some taker ∧ pair = (kind, handle) := by
      simpa [Effect.enters] using entered
    simp [accounted.free_of_draining found planned.doneBy.2.1]
  | give giver kind handle =>
    obtain ⟨rfl, rfl⟩ : place = none ∧ pair = (kind, handle) := by
      simpa [Effect.enters] using entered
    obtain ⟨_, _, _, rest, debt, _⟩ := planned.doneBy
    simp [accounted.held_of_owes found debt mem_cons_self]
  | _ => exact absurd rfl entered

theorem Accounted.holding_kept (held : s.shared.holding pair.2 = some (pair.1, place))
    (stays : effect.leaves pair place = 0) :
    (s.shared.apply effect).holding pair.2 = some (pair.1, place) := by
  obtain ⟨kind, handle⟩ := pair
  rw [holding_apply, ← held]
  cases effect with
  | fresh taker made =>
    refine if_neg fun last => ?_
    obtain rfl : handle = s.shared.handles.length := last
    simp [Shared.holding] at held
  | hold taker taken drained =>
    refine if_neg fun same => ?_
    obtain rfl : handle = drained := same
    have free := accounted.free_of_draining found planned.doneBy.2.1
    cases held.symm.trans free
    simp [Effect.leaves] at stays
  | give giver given handed =>
    refine if_neg fun same => ?_
    obtain rfl : handle = handed := same
    obtain ⟨_, _, _, rest, debt, _⟩ := planned.doneBy
    have owned := accounted.held_of_owes found debt mem_cons_self
    cases held.symm.trans owned
    simp [Effect.leaves] at stays
  | _ => rfl

/-- A step takes a handle from one place and puts it into one. -/
theorem Accounted.step : Accounted (s.apply t ⟨s.shared.apply effect, next, spawned⟩) where
  sectioned := accounted.sectioned.step found planned
  placed := by
    intro pair place here
    have moved := accounted.places_step found planned pair place
    by_cases entered : effect.enters s.shared pair place = 0
    · have once := accounted.once pair place
      exact accounted.holding_kept found planned (accounted.placed pair place (by omega)) (by omega)
    · exact (accounted.holding_entered found planned entered).2
  once := by
    intro pair place
    have moved := accounted.places_step found planned pair place
    have once := accounted.once pair place
    by_cases entered : effect.enters s.shared pair place = 0
    · omega
    · have absent : places s pair place = 0 := Nat.eq_zero_of_not_pos fun present =>
        (accounted.holding_entered found planned entered).1 (accounted.placed pair place present)
      have single := effect.enters_le s.shared pair place
      omega

end

theorem places_empty (pair : Kind × Handle) (place : Option Owner) :
    places empty pair place = 0 := by
  rcases place with _ | _ | _ <;>
    simp [places, owed, empty, Shared.pending, Shared.sessionHandles, Thread.owes, Thread.debt,
      Thread.drains, Thread.draining]

theorem accounted_empty : Accounted empty where
  sectioned := sectioned_empty
  placed := fun pair place here => by simp [places_empty] at here
  once := fun pair place => by simp [places_empty]

end TaosAdapter.Notify
