import TaosAdapter.Notify.Pools

/-!
Owns: that a pool makes no call with a connection it has closed. A connection is
idle in its pool or with one goroutine that got it, and it is closed out of that
place. Only the goroutine of the pool calls with a connection it does not have:
the one it set the pool up with, for the whitelist. That connection may be closed
as soon as the pool is released, and the select may take a whitelist event after
that.
-/

namespace TaosAdapter.Notify

open Lib List Snapshot

def Alive (before : List Event) : Event → Prop
  | .called (.pool pool) conn | .closed (.pool pool) conn => .closed (.pool pool) conn ∉ before
  | _ => True

def Thread.awaits : Thread → Option Nat
  | .watch pool _ _ .waiting => some pool
  | _ => none

def Thread.refreshes (pool : Nat) : Thread → Bool
  | .watch other _ _ .refresh => other = pool
  | _ => false

/-- A whitelist event is taken only while the pool is not cancelled, and the pool is
cancelled only while its goroutine does not read the whitelist. -/
def RefreshesRunning (s : State) (label : Nat × Choice) : Prop :=
  ∀ th ∈ s.threads[label.1]?,
    (∀ pool ∈ th.awaits, label.2 = .receive .whitelist →
      s.shared.isCancelled pool = false) ∧
    ∀ release ∈ th.releasing, release.2 = .cancel →
      ∀ other ∈ s.threads, other.refreshes release.1 = false

instance (s : State) (label : Nat × Choice) : Decidable (RefreshesRunning s label) := by
  unfold RefreshesRunning
  infer_instance

def Thread.keeps (place : Nat × Conn) (th : Thread) : Nat :=
  if th.conn = some place then 1 else 0

def placed (s : State) (pool : Nat) (conn : Conn) : Nat :=
  (s.shared.idle pool).count conn + tally (Thread.keeps (pool, conn)) s.threads

def Effect.opens (sh : Shared) (pool : Nat) (conn : Conn) : Effect → Nat
  | .connect owner => if owner = .pool pool ∧ conn = sh.conns.length then 1 else 0
  | _ => 0

def Effect.closes (pool : Nat) (conn : Conn) : Effect → Nat
  | .close owner closed => if owner = .pool pool ∧ closed = conn then 1 else 0
  | .closeIdle owner closed => if owner = pool ∧ closed = conn then 1 else 0
  | _ => 0

theorem closed_mem_events {sh : Shared} {effect : Effect} {pool : Nat} {conn : Conn} :
    .closed (.pool pool) conn ∈ effect.events sh ↔ effect.closes pool conn = 1 := by
  cases effect with
  | close | closeIdle => simp [Effect.events, Effect.closes, eq_comm]
  | _ => simp [Effect.events, Effect.closes]

section

variable (sh : Shared) (effect : Effect)

theorem idle_modify (pools : List Pool) (changed pool : Nat) (change : Pool → Pool) :
    (((pools.modify changed change)[pool]?).map Pool.idle).getD [] =
      if changed = pool then ((pools[pool]?).map fun entry => (change entry).idle).getD []
      else ((pools[pool]?).map Pool.idle).getD [] := by
  rw [List.getElem?_modify]
  cases pools[pool]? with
  | none => simp
  | some entry =>
    by_cases same : changed = pool <;> simp [same]

theorem idle_apply (pool : Nat) : (sh.apply effect).idle pool = match effect with
      | .takeIdle other | .closeIdle other _ =>
        if other = pool then (sh.idle pool).tail else sh.idle pool
      | .putIdle other conn => if other = pool ∧ pool < sh.pools.length then sh.idle pool ++ [conn]
        else sh.idle pool
      | _ => sh.idle pool := by
  unfold Shared.idle
  rw [pools_apply]
  cases effect with
  | newPool user pass =>
    simp only [getElem?_append_singleton]
    by_cases last : pool = sh.pools.length <;> simp [last]
  | takeIdle other | closeIdle other conn =>
    simp only [idle_modify]
    cases sh.pools[pool]? <;> rfl
  | putIdle other conn =>
    simp only [idle_modify]
    by_cases inside : pool < sh.pools.length
    · rw [List.getElem?_eq_getElem inside]
      simp [inside]
    · rw [List.getElem?_eq_none (Nat.le_of_not_lt inside)]
      simp [inside]
  | start other | store user other | cancel other | release other =>
    simp only [idle_modify]
    split <;> rfl
  | _ => rfl

end

structure Placed (s : State) : Prop where
  pooled : Pooled s
  once : ∀ pool conn, placed s pool conn ≤ 1
  opened : ∀ pool conn, 0 < placed s pool conn →
    conn < s.shared.conns.length ∧ .closed (.pool pool) conn ∉ s.shared.history
  closed : ∀ pool conn, .closed (.pool pool) conn ∈ s.shared.history →
    conn < s.shared.conns.length ∧ s.shared.isReleased pool = true
  refreshing : ∀ th ∈ s.threads, ∀ pool, th.refreshes pool = true →
    s.shared.isCancelled pool = false
  justified : Justified Alive s.shared.history

section

variable {s : State} {t : Nat} {th next : Thread} {effect : Effect} {spawned : List Thread}

theorem keeps_of_conn {place : Nat × Conn} (conn : th.conn = some place)
    (other : Nat × Conn) : th.keeps other = if place = other then 1 else 0 := by
  simp [Thread.keeps, conn]

theorem keeps_of_none (conn : th.conn = none) (other : Nat × Conn) : th.keeps other = 0 := by
  simp [Thread.keeps, conn]

theorem keeps_of_same (same : next.conn = th.conn) (place : Nat × Conn) :
    next.keeps place = th.keeps place := by
  rw [Thread.keeps, Thread.keeps, same]

theorem placed_step (found : s.threads[t]? = some th)
    (planned : Planned s.shared t th effect next spawned) (pool : Nat) (conn : Conn) :
    placed (s.apply t ⟨s.shared.apply effect, next, spawned⟩) pool conn + effect.closes pool conn ≤
      placed s pool conn + effect.opens s.shared pool conn := by
  have moved := tally_apply (Thread.keeps (pool, conn)) found
    ⟨s.shared.apply effect, next, spawned⟩
  have nobody : tally (Thread.keeps (pool, conn)) spawned = 0 := by
    refine tally_eq_zero _ fun new mem => ?_
    cases planned.started mem <;> rfl
  simp only [placed, apply_shared, nobody, idle_apply] at moved ⊢
  cases effect with
  | connect owner =>
    cases owner with
    | pool opener =>
      obtain ⟨before, after⟩ := planned.doneBy
      rw [keeps_of_none before, keeps_of_conn after] at moved
      simp only [Effect.closes, Effect.opens, Prod.mk.injEq, Owner.pool.injEq, eq_comm] at moved ⊢
      omega
    | session session =>
      rw [keeps_of_same (planned.conn_kept rfl)] at moved
      simp only [Effect.closes, Effect.opens]
      omega
  | takeIdle taker =>
    obtain ⟨before, held, others, idle, after⟩ := planned.doneBy
    rw [keeps_of_none before, keeps_of_conn after] at moved
    simp only [Effect.closes, Effect.opens, Prod.mk.injEq] at moved ⊢
    by_cases own : taker = pool
    · subst own
      rw [if_pos rfl, idle, tail_cons, count_cons]
      simp only [true_and, beq_iff_eq] at moved ⊢
      omega
    · simp only [own, false_and, if_false] at moved ⊢
      omega
  | putIdle putter held =>
    obtain ⟨before, after⟩ := planned.doneBy
    rw [keeps_of_conn before, keeps_of_none after] at moved
    simp only [Effect.closes, Effect.opens, Prod.mk.injEq] at moved ⊢
    by_cases own : putter = pool
    · subst own
      simp only [true_and] at moved ⊢
      split
      · rw [count_append, count_singleton]
        simp only [beq_iff_eq] at moved ⊢
        omega
      · omega
    · simp only [own, false_and, if_false] at moved ⊢
      omega
  | closeIdle closer held =>
    obtain ⟨_, same, others, idle⟩ := planned.doneBy
    rw [keeps_of_same same] at moved
    simp only [Effect.closes, Effect.opens] at moved ⊢
    by_cases own : closer = pool
    · subst own
      rw [if_pos rfl, idle, tail_cons, count_cons]
      simp only [true_and, beq_iff_eq]
      omega
    · simp only [own, false_and, if_false]
      omega
  | close owner held =>
    cases owner with
    | pool closer =>
      obtain ⟨before, after, _⟩ := planned.doneBy
      rw [keeps_of_conn before, keeps_of_none after] at moved
      simp only [Effect.closes, Effect.opens, Prod.mk.injEq, Owner.pool.injEq] at moved ⊢
      omega
    | session session =>
      rw [keeps_of_same (planned.conn_kept rfl)] at moved
      simp only [Effect.closes, Effect.opens, reduceCtorEq, false_and, if_false]
      omega
  | _ =>
    rw [keeps_of_same (planned.conn_kept rfl)] at moved
    simp only [Effect.closes, Effect.opens]
    omega

theorem opens_cases (sh : Shared) (effect : Effect) (pool : Nat) (conn : Conn) :
    effect.opens sh pool conn = 0 ∨ (effect = .connect (.pool pool) ∧ conn = sh.conns.length ∧
        effect.opens sh pool conn = 1) := by
  cases effect with
  | connect owner =>
    by_cases same : owner = .pool pool ∧ conn = sh.conns.length
    · exact .inr ⟨by rw [same.1], same.2, by simp [Effect.opens, same]⟩
    · exact .inl (by simp [Effect.opens, same])
  | _ => exact .inl rfl

theorem conns_grow (sh : Shared) (effect : Effect) :
    sh.conns.length ≤ (sh.apply effect).conns.length := by
  rw [conns_apply]
  cases effect <;> simp

theorem Placed.unplaced (is : Placed s) (pool : Nat) : placed s pool s.shared.conns.length = 0 := by
  by_contra pos
  exact absurd (is.opened pool _ (Nat.pos_of_ne_zero pos)).1 (Nat.lt_irrefl _)

variable {pool : Nat} {choice : Choice}

theorem Planned.refreshes (planned : Planned s.shared t th effect next spawned)
    (chosen : plan s.shared t th choice = some ⟨effect, next, spawned⟩)
    (refreshes : next.refreshes pool = true) :
    th.awaits = some pool ∧ choice = .receive .whitelist := by
  cases planned with
  | watchWhitelist watched v handles handle conn own arrived =>
    obtain rfl : watched = pool := of_decide_eq_true refreshes
    refine ⟨rfl, ?_⟩
    cases choice with
    | receive kind =>
      simp only [plan, planWatch] at chosen
      split at chosen
      · obtain ⟨_, _, isPlan⟩ := Option.map_eq_some_iff.mp chosen
        obtain ⟨_, rfl, _⟩ := Effect.receive.inj (congrArg Plan.effect isPlan)
        rfl
      · cases chosen
    | finish =>
      simp only [plan, planWatch] at chosen
      split at chosen <;> cases chosen
    | _ => cases chosen
  | _ => cases refreshes

variable {conn : Conn}

theorem conn_of_settingUp {handles : Handles}
    (settingUp : th.settingUp = some (.pool pool, handles, conn)) :
    th.conn = some (pool, conn) := by
  cases th with
  | create creator user pass pc => cases pc <;> cases settingUp <;> rfl
  | connect session pc => cases pc <;> cases settingUp
  | _ => cases settingUp

theorem Planned.calls (planned : Planned s.shared t th effect next spawned)
    (called : .called (.pool pool) conn ∈ effect.events s.shared) :
    th.conn = some (pool, conn) ∨ ∃ handles, th = .watch pool conn handles .refresh := by
  cases effect with
  | call owner used =>
    obtain ⟨rfl, rfl⟩ : owner = .pool pool ∧ used = conn := by
      simpa [Effect.events, eq_comm] using called
    exact planned.doneBy
  | register owner kind handle used =>
    obtain ⟨rfl, rfl⟩ : owner = .pool pool ∧ used = conn := by
      simpa [Effect.events, eq_comm] using called
    obtain ⟨handles, settingUp, _⟩ := planned.doneBy
    exact .inl (conn_of_settingUp settingUp)
  | _ => simp [Effect.events] at called

variable (is : Placed s) (found : s.threads[t]? = some th)
  (planned : Planned s.shared t th effect next spawned)

include is found planned

theorem Placed.once_step (pool : Nat) (conn : Conn) :
    placed (s.apply t ⟨s.shared.apply effect, next, spawned⟩) pool conn ≤ 1 := by
  have moved := placed_step found planned pool conn
  have once := is.once pool conn
  rcases opens_cases s.shared effect pool conn with unopened | ⟨_, rfl, opened⟩
  · omega
  · have unplaced := is.unplaced pool
    omega

theorem Placed.placed_of_closes (closes : effect.closes pool conn = 1) : placed s pool conn = 1 ∧
      placed (s.apply t ⟨s.shared.apply effect, next, spawned⟩) pool conn = 0 := by
  have moved := placed_step found planned pool conn
  have once := is.once pool conn
  rcases opens_cases s.shared effect pool conn with unopened | ⟨rfl, _, _⟩
  · omega
  · cases closes

theorem Placed.released_of_closes (closes : effect.closes pool conn = 1) :
    s.shared.isReleased pool = true := by
  cases effect with
  | close owner closed =>
    obtain ⟨rfl, rfl⟩ : owner = .pool pool ∧ closed = conn := by
      simpa [Effect.closes] using closes
    exact planned.doneBy.2.2
  | closeIdle closer closed =>
    obtain ⟨rfl, rfl⟩ : closer = pool ∧ closed = conn := by
      simpa [Effect.closes] using closes
    rcases is.pooled.releases found planned.doneBy.1 with ⟨_, knows⟩ | ⟨_, knows, _⟩
    · exact knows.released rfl
    · exact knows rfl
  | _ => cases closes

theorem Placed.opened_step (pool : Nat) (conn : Conn)
    (place : 0 < placed (s.apply t ⟨s.shared.apply effect, next, spawned⟩) pool conn) :
    conn < (s.shared.apply effect).conns.length ∧
      .closed (.pool pool) conn ∉ (s.shared.apply effect).history := by
  have moved := placed_step found planned pool conn
  have still : .closed (.pool pool) conn ∉ effect.events s.shared := by
    intro closed
    have gone := (is.placed_of_closes found planned (closed_mem_events.mp closed)).2
    omega
  rw [history_apply, mem_append, not_or]
  rcases opens_cases s.shared effect pool conn with unopened | ⟨rfl, rfl, _⟩
  · obtain ⟨inside, unclosed⟩ := is.opened pool conn (by omega)
    exact ⟨Nat.lt_of_lt_of_le inside (conns_grow s.shared effect), unclosed, still⟩
  · refine ⟨by simp [conns_apply], fun closed => ?_, still⟩
    exact absurd (is.closed pool _ closed).1 (Nat.lt_irrefl _)

theorem Placed.closed_step (pool : Nat) (conn : Conn)
    (closed : .closed (.pool pool) conn ∈ (s.shared.apply effect).history) :
    conn < (s.shared.apply effect).conns.length ∧
      (s.shared.apply effect).isReleased pool = true := by
  have known : conn < s.shared.conns.length ∧ s.shared.isReleased pool = true := by
    rw [history_apply, mem_append] at closed
    rcases closed with before | now
    · exact is.closed pool conn before
    · have closes := closed_mem_events.mp now
      have place := (is.placed_of_closes found planned closes).1
      refine ⟨(is.opened pool conn (by omega)).1, ?_⟩
      exact is.released_of_closes found planned closes
  exact ⟨Nat.lt_of_lt_of_le known.1 (conns_grow s.shared effect),
    (isReleased_apply s.shared effect pool).mpr (.inl known.2)⟩

theorem Placed.refreshing_step (chosen : plan s.shared t th choice = some ⟨effect, next, spawned⟩)
    (met : RefreshesRunning s (t, choice)) (other : Thread)
    (mem : other ∈ (s.apply t ⟨s.shared.apply effect, next, spawned⟩).threads) (pool : Nat)
    (refreshes : other.refreshes pool = true) :
    (s.shared.apply effect).isCancelled pool = false := by
  obtain ⟨awaited, released⟩ := met th found
  rw [Bool.eq_false_iff]
  intro cancelled
  rcases mem_apply mem with before | rfl | new
  · have running := is.refreshing other before pool refreshes
    rcases (isCancelled_apply s.shared effect pool).mp cancelled with already | ⟨isCancel, _⟩
    · rw [running] at already
      cases already
    · subst isCancel
      have idle := released (pool, .cancel) planned.doneBy rfl other before
      rw [refreshes] at idle
      cases idle
  · obtain ⟨awaits, isChoice⟩ := planned.refreshes chosen refreshes
    have running := awaited pool awaits isChoice
    rcases (isCancelled_apply s.shared effect pool).mp cancelled with already | ⟨isCancel, _⟩
    · rw [running] at already
      cases already
    · -- Who is in its select does not release.
      subst isCancel isChoice
      have own : th.releasing = some (pool, .cancel) := planned.doneBy
      cases th with
      | watch watched v handles pc =>
        cases pc with
        | waiting => cases own
        | _ => cases awaits
      | _ => cases awaits
  · cases planned.started new <;> cases refreshes

theorem Placed.alive_step (event : Event)
    (mem : event ∈ effect.events s.shared) : Alive s.shared.history event := by
  have unclosed {pool : Nat} {conn : Conn} (place : 0 < placed s pool conn) :
      .closed (.pool pool) conn ∉ s.shared.history := (is.opened pool conn place).2
  cases event with
  | called owner conn =>
    cases owner with
    | session => trivial
    | pool pool =>
      rcases planned.calls mem with has | ⟨handles, rfl⟩
      · refine unclosed ?_
        have own := weight_le_tally (Thread.keeps (pool, conn)) found
        rw [keeps_of_conn has, if_pos rfl] at own
        rw [placed]
        omega
      · -- A pool that is not cancelled is not released.
        intro closed
        have running := is.refreshing _ (mem_of_getElem? found) pool (decide_eq_true rfl)
        have started := (is.pooled.knows t _ found).1
        rw [is.pooled.cancelled pool (is.closed pool conn closed).2 started] at running
        cases running
  | closed owner conn =>
    cases owner with
    | session => trivial
    | pool pool =>
      have place := (is.placed_of_closes found planned (closed_mem_events.mp mem)).1
      exact unclosed (by omega)
  | _ => trivial

/-- A connection is closed once, out of the one place that has it. -/
theorem Placed.step (chosen : plan s.shared t th choice = some ⟨effect, next, spawned⟩)
    (met : RefreshesRunning s (t, choice)) :
    Placed (s.apply t ⟨s.shared.apply effect, next, spawned⟩) where
  pooled := is.pooled.step found planned
  once := is.once_step found planned
  opened := is.opened_step found planned
  closed := is.closed_step found planned
  refreshing := is.refreshing_step found planned chosen met
  justified := justified_apply is.justified (is.alive_step found planned) fun _ _ _ _ _ => trivial

end

theorem placed_empty : Placed empty where
  pooled := pooled_empty
  once := fun pool conn => by simp [placed, empty, Shared.idle, Thread.keeps, Thread.conn]
  opened := fun pool conn place => by
    simp [placed, empty, Shared.idle, Thread.keeps, Thread.conn] at place
  closed := fun pool conn closed => by cases closed
  refreshing := by
    intro th mem pool refreshes
    obtain rfl := mem_singleton.mp mem
    cases refreshes
  justified := .nil

theorem placed_of_reachable {s : State}
    (reached : machine.system.ReachableUnder RefreshesRunning s) : Placed s := by
  refine System.ReachableUnder.invariant (fun _ initial => ?_) (fun _ _ _ is met stepped => ?_)
    reached
  · obtain rfl := initial
    exact placed_empty
  · obtain ⟨th, effect, next, spawned, found, planned, chosen, rfl⟩ := planned_of_next stepped
    exact is.step found planned chosen met

/-- If whitelist events are taken and served while their pool is not released, a pool
never calls, or closes again, a connection it has closed. -/
theorem closed_conns_unused {s : State}
    (reached : machine.system.ReachableUnder RefreshesRunning s) :
    Justified Alive s.shared.history :=
  (placed_of_reachable reached).justified

/-- The whitelist is read while the pool runs; its connection is closed when the
pool is replaced later. -/
theorem closed_conns_unused_refreshed :
    ∃ s before after, machine.system.ReachableUnder RefreshesRunning s ∧
      s.shared.history = before ++ .called (.pool 0) 0 :: after ∧
      .received (.pool 0) .whitelist 0 ∈ before ∧ .closed (.pool 0) 0 ∈ after ∧
      .closed (.pool 0) 0 ∉ before := by
  obtain ⟨s, reached, history, received, closed⟩ :
      ∃ s, machine.system.ReachableUnder RefreshesRunning s ∧
        s.shared.history =
          s.shared.history.take 12 ++ .called (.pool 0) 0 :: s.shared.history.drop 13 ∧
        .received (.pool 0) .whitelist 0 ∈ s.shared.history.take 12 ∧
        .closed (.pool 0) 0 ∈ s.shared.history.drop 13 :=
    machine.system.exists_of_exec
      (.flatten [(0, .request [1] [1]) :: goes 1 15, (0, .raise 0 .whitelist) :: goes 3 2,
        (2, .receive .whitelist) :: goes 2 1, (0, .request [1] [2]) :: goes 4 20]) rfl rfl
  exact ⟨s, _, _, reached, history, received, closed, closed_conns_unused reached _ _ _ history⟩

/-- A whitelist event is pending when the pool is replaced. The select takes it after
the connection was closed, and the whitelist is read with that connection. -/
theorem closed_conn_called :
    ∃ s before, machine.system.Reachable s ∧
      s.shared.history = before ++ [.called (.pool 0) 0] ∧ .closed (.pool 0) 0 ∈ before := by
  obtain ⟨s, reached, history, closed⟩ :
      ∃ s, machine.system.Reachable s ∧
        s.shared.history = s.shared.history.dropLast ++ [.called (.pool 0) 0] ∧
        .closed (.pool 0) 0 ∈ s.shared.history.dropLast :=
    machine.system.exists_of_exec
      (.flatten [(0, .request [1] [1]) :: goes 1 15, (0, .raise 0 .whitelist) :: goes 3 2,
        (0, .request [1] [2]) :: goes 4 20, (2, .receive .whitelist) :: goes 2 1]) rfl rfl
  exact ⟨s, _, reached, history, closed⟩

end TaosAdapter.Notify
