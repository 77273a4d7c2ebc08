import TaosAdapter.Notify.Sections

/-!
Owns: the life of a pool. Its creator starts it once, with nothing released
before; from then on it is released by its own goroutine or by the creator that
replaces it, who cancel its context before they release its `ConnectPool`. So a
started pool whose `ConnectPool` is released is cancelled.
-/

namespace TaosAdapter.Notify

open Lib List Snapshot

def Thread.creates (pool : Nat) : Thread → Nat
  | .create other _ _ _ => if other = pool then 1 else 0
  | _ => 0

section

variable {sh : Shared} {t : Nat} {th next : Thread} {effect : Effect}
  {spawned : List Thread}

theorem pools_length_apply (unopened : ∀ user pass, effect ≠ .newPool user pass) :
    (sh.apply effect).pools.length = sh.pools.length := by
  rw [pools_apply]
  cases effect with
  | newPool user pass => exact absurd rfl (unopened user pass)
  | _ => simp

theorem Planned.creators (planned : Planned sh t th effect next spawned) (pool : Nat)
    (unopened : ∀ user pass, effect ≠ .newPool user pass) :
    next.creates pool + tally (Thread.creates pool) spawned = th.creates pool := by
  cases planned with
  | requested user pass => exact absurd rfl (unopened user pass)
  | _ => rfl

end

/-- The context is cancelled first, then the `ConnectPool` is released, then its idle
connections are closed. -/
structure ReleaseKnows (sh : Shared) (pool : Nat) (stage : Release) : Prop where
  cancelled : stage ≠ .cancel → sh.isCancelled pool = true
  released : stage = .idle → sh.isReleased pool = true

def CreateKnows (sh : Shared) (pool : Nat) : CreatePc → Prop
  | .lock | .load | .abort _ _ =>
    sh.isStarted pool = false ∧ sh.isReleased pool = false
  | .acquire old _ | .connect old _ | .setup old _ _ _ | .start old _ _ =>
    (sh.isStarted pool = false ∧ sh.isReleased pool = false) ∧
      ∀ replaced ∈ old, sh.isStarted replaced = true
  | .release old stage =>
    sh.isStarted pool = true ∧ sh.isStarted old = true ∧ ReleaseKnows sh old stage
  | .store => sh.isStarted pool = true
  | .drop _ stage =>
    sh.isStarted pool = false ∧ (stage = .idle → sh.isReleased pool = true)
  | .put _ | .unlock | .done => True

def PoolKnows (sh : Shared) : Thread → Prop
  | .create pool _ _ pc => CreateKnows sh pool pc
  | .watch pool _ _ pc =>
    sh.isStarted pool = true ∧ ∀ stage, pc = .release stage → ReleaseKnows sh pool stage
  | _ => True

structure Pooled (s : State) : Prop where
  creators : ∀ pool, tally (Thread.creates pool) s.threads =
    if pool < s.shared.pools.length then 1 else 0
  mapped : ∀ user pool, s.shared.connectionMap user = some pool → s.shared.isStarted pool = true
  knows : ∀ (t : Nat) th, s.threads[t]? = some th → PoolKnows s.shared th
  cancelled : ∀ pool, s.shared.isReleased pool = true → s.shared.isStarted pool = true →
    s.shared.isCancelled pool = true

section

variable {sh : Shared} {effect : Effect} {pool : Nat}

theorem lt_of_isStarted (started : sh.isStarted pool = true) : pool < sh.pools.length := by
  by_contra outside
  simp [Shared.isStarted, List.getElem?_eq_none (Nat.le_of_not_lt outside)] at started

theorem isStarted_grows (effect : Effect) (started : sh.isStarted pool = true) :
    (sh.apply effect).isStarted pool = true :=
  (isStarted_apply sh effect pool).mpr (.inl started)

theorem isStarted_false (unstarted : effect ≠ .start pool)
    (before : sh.isStarted pool = false) : (sh.apply effect).isStarted pool = false := by
  rw [Bool.eq_false_iff] at before ⊢
  intro started
  exact ((isStarted_apply sh effect pool).mp started).elim before fun start => unstarted start.1

theorem isReleased_false (unreleased : effect ≠ .release pool)
    (before : sh.isReleased pool = false) : (sh.apply effect).isReleased pool = false := by
  rw [Bool.eq_false_iff] at before ⊢
  intro released
  exact ((isReleased_apply sh effect pool).mp released).elim before
    fun release => unreleased release.1

theorem ReleaseKnows.apply {stage : Release} (knows : ReleaseKnows sh pool stage)
    (effect : Effect) : ReleaseKnows (sh.apply effect) pool stage where
  cancelled later := (isCancelled_apply sh effect pool).mpr (.inl (knows.cancelled later))
  released later := (isReleased_apply sh effect pool).mpr (.inl (knows.released later))

theorem PoolKnows.apply {th : Thread} (knows : PoolKnows sh th)
    (unstarted : ∀ pool user pass pc, th = .create pool user pass pc → effect ≠ .start pool)
    (unreleased : ∀ pool user pass pc, th = .create pool user pass pc →
      sh.isStarted pool = false → effect ≠ .release pool) : PoolKnows (sh.apply effect) th := by
  cases th with
  | create creator user pass pc =>
    have notStart := unstarted creator user pass pc rfl
    have notRelease := unreleased creator user pass pc rfl
    cases pc with
    | lock | load | abort =>
      exact ⟨isStarted_false notStart knows.1, isReleased_false (notRelease knows.1) knows.2⟩
    | acquire | connect | setup | start =>
      exact ⟨⟨isStarted_false notStart knows.1.1,
          isReleased_false (notRelease knows.1.1) knows.1.2⟩,
        fun replaced mem => isStarted_grows effect (knows.2 replaced mem)⟩
    | release old stage =>
      exact ⟨isStarted_grows effect knows.1, isStarted_grows effect knows.2.1,
        knows.2.2.apply effect⟩
    | store => exact isStarted_grows effect knows
    | drop handles stage =>
      exact ⟨isStarted_false notStart knows.1,
        fun later => (isReleased_apply sh effect creator).mpr (.inl (knows.2 later))⟩
    | put | unlock | done => trivial
  | watch watched v handles pc =>
    exact ⟨isStarted_grows effect knows.1, fun stage here => (knows.2 stage here).apply effect⟩
  | _ => trivial

end

section

variable {s : State} {t pool : Nat} {th next : Thread} {effect : Effect} {spawned : List Thread}
  {stage after : Release} {sh : Shared}

section

variable (releasing : Releasing sh pool stage effect (some after)) (opened : pool < sh.pools.length)

include releasing opened

theorem Releasing.knows (knows : ReleaseKnows sh pool stage) :
    ReleaseKnows (sh.apply effect) pool after := by
  have kept := knows.apply effect
  cases releasing with
  | cancelled running =>
    exact ⟨fun _ => (isCancelled_apply sh _ pool).mpr (.inr ⟨rfl, opened⟩),
      fun later => (by cases later)⟩
  | forgotten => exact ⟨fun _ => kept.cancelled (by simp), fun later => (by cases later)⟩
  | releasing usable =>
    exact ⟨fun _ => kept.cancelled (by simp),
      fun _ => (isReleased_apply sh _ pool).mpr (.inr ⟨rfl, opened⟩)⟩
  | closedIdle conn others idle => exact kept

theorem Releasing.dropped (knows : stage = .idle → sh.isReleased pool = true)
    (later : after = .idle) : (sh.apply effect).isReleased pool = true := by
  cases releasing with
  | cancelled | forgotten => cases later
  | releasing usable => exact (isReleased_apply sh _ pool).mpr (.inr ⟨rfl, opened⟩)
  | closedIdle conn others idle => exact (isReleased_apply sh _ pool).mpr (.inl (knows rfl))

end

variable {pc : CreatePc} {user pass : Bytes}

section

variable (pooled : Pooled s) (found : s.threads[t]? = some (.create pool user pass pc))

include pooled found

theorem Pooled.creator_unique {u : Nat} {otherUser otherPassword : Bytes}
    {other : CreatePc} (found2 : s.threads[u]? = some (.create pool otherUser otherPassword other))
    : u = t := by
  by_contra ne
  have both := weight_add_weight_le_tally (Thread.creates pool) ne found2 found
  have count := pooled.creators pool
  simp only [Thread.creates, if_true] at both
  split at count <;> omega

theorem Pooled.creator_exists : pool < s.shared.pools.length := by
  have one := weight_le_tally (Thread.creates pool) found
  have count := pooled.creators pool
  simp only [Thread.creates, if_true] at one
  split at count
  · assumption
  · omega

end

theorem Pooled.releases (pooled : Pooled s) (found : s.threads[t]? = some th)
    (releasing : th.releasing = some (pool, stage)) :
    (s.shared.isStarted pool = true ∧ ReleaseKnows s.shared pool stage) ∨
      (s.shared.isStarted pool = false ∧ (stage = .idle → s.shared.isReleased pool = true) ∧
        ∃ user pass handles, th = .create pool user pass (.drop handles stage)) := by
  have knows := pooled.knows t th found
  cases th with
  | create creator user pass pc =>
    cases pc with
    | release old stage =>
      cases releasing
      exact .inl knows.2
    | drop handles stage =>
      cases releasing
      exact .inr ⟨knows.1, knows.2, user, pass, handles, rfl⟩
    | _ => cases releasing
  | watch watched v handles pc =>
    cases pc with
    | release stage =>
      cases releasing
      exact .inl ⟨knows.1, knows.2 stage rfl⟩
    | _ => cases releasing
  | _ => cases releasing

variable (pooled : Pooled s) (found : s.threads[t]? = some th)
  (planned : Planned s.shared t th effect next spawned)

include pooled found planned

theorem Pooled.others {u : Nat} {other : Thread} (ne : u ≠ t)
    (here : s.threads[u]? = some other) : PoolKnows (s.shared.apply effect) other := by
  refine (pooled.knows u other here).apply ?_ ?_
  · rintro pool user pass pc rfl rfl
    obtain ⟨_, _, _, _, _, rfl⟩ := planned.doneBy
    exact ne (pooled.creator_unique found here)
  · rintro pool user pass pc rfl unstarted rfl
    rcases pooled.releases found planned.doneBy with ⟨started, _⟩ | ⟨_, _, _, _, _, rfl⟩
    · rw [started] at unstarted
      cases unstarted
    · exact ne (pooled.creator_unique found here)

theorem Pooled.own : PoolKnows (s.shared.apply effect) next := by
  have knows := pooled.knows t th found
  have kept (unstarted : ∀ pool, effect ≠ .start pool)
      (unreleased : ∀ pool, effect ≠ .release pool) : PoolKnows (s.shared.apply effect) th :=
    knows.apply (fun pool _ _ _ _ => unstarted pool) fun pool _ _ _ _ _ => unreleased pool
  cases planned with
  | createLocked | createMade | createConnected | createPut => exact kept (by simp) (by simp)
  | createRefused => exact (kept (by simp) (by simp)).1
  | createLoaded pool user pass old loaded =>
    refine ⟨kept (by simp) (by simp), fun replaced mem => ?_⟩
    exact pooled.mapped user replaced (loaded.trans mem)
  | createAcquired _ _ _ _ _ _ _ acquired =>
    exact kept (by cases acquired <;> simp) (by cases acquired <;> simp)
  | createSetUp pool _ _ _ handles v action =>
    rcases Setup.effect_cases (.pool pool) handles v action with
      ⟨_, _, _, isEffect⟩ | isEffect <;> exact kept (by simp [isEffect]) (by simp [isEffect])
  | createStarted pool =>
    exact (isStarted_apply s.shared _ pool).mpr (.inr ⟨rfl, pooled.creator_exists found⟩)
  | createReplaces pool user pass old =>
    refine ⟨(isStarted_apply s.shared _ pool).mpr (.inr ⟨rfl, pooled.creator_exists found⟩),
      isStarted_grows _ (knows.2 old rfl), fun later => absurd rfl later, fun later => ?_⟩
    cases later
  | createReleasing pool user pass old stage after effect releasing =>
    exact ⟨isStarted_grows effect knows.1, isStarted_grows effect knows.2.1,
      releasing.knows (lt_of_isStarted knows.2.1) knows.2.2⟩
  | createReleased => exact isStarted_grows _ knows.1
  | createAborted =>
    exact ⟨isStarted_false (by simp) knows.1, fun later => (by cases later)⟩
  | createDropping pool user pass handles stage after effect releasing =>
    exact ⟨isStarted_false (by cases releasing <;> simp) knows.1,
      releasing.dropped (pooled.creator_exists found) knows.2⟩
  | watchReleasing pool v handles stage after effect releasing =>
    refine ⟨isStarted_grows effect knows.1, fun now here => ?_⟩
    cases here
    exact releasing.knows (lt_of_isStarted knows.1) (knows.2 stage rfl)
  | watchLocked pool v handles =>
    refine ⟨isStarted_grows _ knows.1, fun now here => ?_⟩
    cases here
    exact ⟨fun later => absurd rfl later, fun later => (by cases later)⟩
  | watchReceived | watchWhitelist | watchFinished | watchRefreshed | watchNotRefreshed
  | watchReleased | watchUnlocked | watchGives =>
    exact ⟨isStarted_grows _ knows.1, fun now here => (by cases here)⟩
  | _ => trivial

theorem Pooled.new {new : Thread}
    (mem : new ∈ spawned) : PoolKnows (s.shared.apply effect) new := by
  cases planned with
  | requested user pass =>
    obtain rfl := mem_singleton.mp mem
    refine ⟨isStarted_false (by simp) ?_, isReleased_false (by simp) ?_⟩
    · simp [Shared.isStarted]
    · simp [Shared.isReleased]
  | createStarted pool | createReplaces pool =>
    obtain rfl := mem_singleton.mp mem
    exact ⟨(isStarted_apply s.shared _ pool).mpr (.inr ⟨rfl, pooled.creator_exists found⟩),
      fun now here => (by cases here)⟩
  | called | sessionOpened | connectRequested | closeRequested | raised | connectDone =>
    obtain rfl := mem_singleton.mp mem
    trivial
  | _ => cases mem

theorem Pooled.cancelled_step (pool : Nat)
    (released : (s.shared.apply effect).isReleased pool = true)
    (started : (s.shared.apply effect).isStarted pool = true) :
    (s.shared.apply effect).isCancelled pool = true := by
  refine (isCancelled_apply s.shared effect pool).mpr (.inl ?_)
  have wasStarted := (isStarted_apply s.shared effect pool).mp started
  rcases (isReleased_apply s.shared effect pool).mp released with before | ⟨isRelease, _⟩
  · rcases wasStarted with startedBefore | ⟨isStart, _⟩
    · exact pooled.cancelled pool before startedBefore
    · -- A pool is started by its creator, who has not released it.
      subst isStart
      obtain ⟨_, _, _, _, _, rfl⟩ := planned.doneBy
      have knows := pooled.knows t _ found
      rw [knows.1.2] at before
      cases before
  · subst isRelease
    have startedBefore := wasStarted.resolve_right fun start => by cases start.1
    rcases pooled.releases found planned.doneBy with ⟨_, knows⟩ | ⟨unstarted, _⟩
    · exact knows.cancelled (by simp)
    · rw [startedBefore] at unstarted
      cases unstarted

theorem Pooled.mapped_step (user : Bytes) (pool : Nat)
    (mapped : (s.shared.apply effect).connectionMap user = some pool) :
    (s.shared.apply effect).isStarted pool = true := by
  refine isStarted_grows effect ?_
  rcases mapped_before s.shared effect mapped with before | isStore
  · exact pooled.mapped user pool before
  · subst isStore
    obtain ⟨_, rfl⟩ := planned.doneBy
    exact pooled.knows t _ found

/-- A pool is made by one thread, mapped when started, and cancelled before it is
released. -/
theorem Pooled.step : Pooled (s.apply t ⟨s.shared.apply effect, next, spawned⟩) where
  creators := by
    intro pool
    have moved := tally_apply (Thread.creates pool) found
      ⟨s.shared.apply effect, next, spawned⟩
    have count := pooled.creators pool
    by_cases opened : ∃ user pass, effect = .newPool user pass
    · obtain ⟨user, pass, rfl⟩ := opened
      obtain ⟨rfl, rfl, rfl⟩ := planned.doneBy
      simp only [apply_shared, pools_apply, length_append, length_singleton,
        tally_cons, tally_nil, Thread.creates] at moved ⊢
      split at count <;> split at moved <;> split <;> omega
    · have unopened (user pass : Bytes) : effect ≠ .newPool user pass :=
        fun isOpen => opened ⟨user, pass, isOpen⟩
      have changed := planned.creators pool unopened
      simp only [apply_shared, pools_length_apply unopened] at moved ⊢
      omega
  mapped := pooled.mapped_step found planned
  knows := by
    intro u other here
    rcases apply_inv here with ⟨ne, before⟩ | ⟨rfl, rfl⟩ | ⟨_, mem⟩
    · exact pooled.others found planned ne before
    · exact pooled.own found planned
    · exact pooled.new found planned mem
  cancelled := pooled.cancelled_step found planned

end

theorem pooled_empty : Pooled empty where
  creators := fun pool => by simp [empty, Thread.creates]
  mapped := fun user pool mapped => by cases mapped
  knows := by
    intro t th found
    obtain rfl := mem_singleton.mp (mem_of_getElem? found)
    trivial
  cancelled := fun pool released => by simp [empty, Shared.isReleased] at released

end TaosAdapter.Notify
