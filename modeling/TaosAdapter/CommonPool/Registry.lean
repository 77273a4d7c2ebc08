import TaosAdapter.CommonPool.Credentials

/-!
Owns: which pools are registered and which are released. Whenever
`connectionLocker` is free, the map names exactly the pools that were not
released, each under its own user, and every other pool was released once.

What the map holds and which pools are open changes only in the hands of the
lock's owner. A pool that is told to release itself before it is stored waits for
the lock, and finds itself in the map or replaced.
-/

namespace TaosAdapter.CommonPool

open Lib List Option Snapshot

variable {Ip IpNet : Type}

namespace Shared

variable (shared : Shared IpNet)

def opened (pool : Nat) : Option Bytes :=
  match shared.pools[pool]? with
  | some entry => if entry.released then none else some entry.user
  | none => none

def isReleased (pool : Nat) : Bool :=
  (shared.pools[pool]?).any Pool.released

variable {sh : Shared IpNet} {pool : Nat}

theorem opened_eq_some {user : Bytes} : sh.opened pool = some user ↔
      ∃ entry, sh.pools[pool]? = some entry ∧ entry.user = user ∧ entry.released = false := by
  rw [opened]
  cases sh.pools[pool]? with
  | none => simp
  | some entry => cases released : entry.released <;> simp [released]

theorem opened_append (sh : Shared IpNet) (new : Pool IpNet) (fresh : new.released = false)
    (pool : Nat) : opened { sh with pools := sh.pools ++ [new] } pool =
      if pool = sh.pools.length then some new.user else sh.opened pool := by
  simp only [opened, getElem?_append_singleton]
  by_cases last : pool = sh.pools.length
  · simp [last, fresh]
  · simp [last]

theorem opened_length (sh : Shared IpNet) : sh.opened sh.pools.length = none := by
  simp [opened]

theorem isReleased_append (sh : Shared IpNet) (new : Pool IpNet)
    (fresh : new.released = false) (pool : Nat) :
    isReleased { sh with pools := sh.pools ++ [new] } pool = sh.isReleased pool := by
  simp only [isReleased, getElem?_append_singleton]
  by_cases last : pool = sh.pools.length
  · simp [last, fresh]
  · simp [last]

variable {after : Shared IpNet} {old : Pool IpNet}

theorem opened_set {idx : Nat} (new : Pool IpNet) (found : sh.pools[idx]? = some old)
    (user : new.user = old.user) (released : new.released = old.released)
    (pools : after.pools = sh.pools.set idx new) (pool : Nat) :
    after.opened pool = sh.opened pool := by
  rw [opened, opened, pools]
  by_cases same : idx = pool
  · subst same
    rw [List.getElem?_set_self (lt_of_getElem? found), found]
    simp only [user, released]
  · rw [List.getElem?_set_ne same]

theorem isReleased_set (sh : Shared IpNet) {idx : Nat} (new : Pool IpNet)
    (found : sh.pools[idx]? = some old) (released : new.released = old.released)
    (pools : after.pools = sh.pools.set idx new) (pool : Nat) :
    after.isReleased pool = sh.isReleased pool := by
  rw [isReleased, isReleased, pools]
  by_cases same : idx = pool
  · subst same
    rw [List.getElem?_set_self (lt_of_getElem? found), found]
    simp only [any_some, released]
  · rw [List.getElem?_set_ne same]

theorem load_forget (sh : Shared IpNet) (name user : Bytes) (pool : Nat) :
    (sh.forget name pool).load user =
      if name = user ∧ sh.load user = some pool then none else sh.load user := by
  rw [forget]
  by_cases same : name = user
  · subst same
    by_cases named : sh.load name = some pool
    · rw [if_pos named, load_delete, if_pos rfl, if_pos ⟨rfl, named⟩]
    · rw [if_neg named, if_neg fun both => named both.2]
  · rw [if_neg (c := name = user ∧ _) fun both => same both.1]
    split
    · rw [load_delete, if_neg (Ne.symm same)]
    · rfl

theorem release_eq_self (closed : sh.opened pool = none) : sh.release pool = sh := by
  rw [opened] at closed
  rw [release]
  cases found : sh.pools[pool]? with
  | none => rfl
  | some entry =>
    rw [found] at closed
    cases done : entry.released with
    | true => simp [done]
    | false => simp [done] at closed

theorem release_of_unreleased {entry : Pool IpNet} (found : sh.pools[pool]? = some entry)
    (unreleased : entry.released = false) : sh.release pool = { sh.forget entry.user pool with
        pools := sh.pools.set pool { entry with released := true }
        releases := sh.releases ++ [pool] } := by
  simp [release, found, unreleased]

theorem load_release_eq (sh : Shared IpNet) (pool : Nat) (user : Bytes) :
    (sh.release pool).load user = if sh.opened pool = some user ∧ sh.load user = some pool then none
      else sh.load user := by
  cases isOpen : sh.opened pool with
  | none => simp [release_eq_self isOpen]
  | some name =>
    obtain ⟨entry, found, rfl, unreleased⟩ := opened_eq_some.mp isOpen
    rw [release_of_unreleased found unreleased]
    exact (load_forget sh entry.user user pool).trans (by simp only [Option.some.injEq])

theorem opened_release (sh : Shared IpNet) (released pool : Nat) :
    (sh.release released).opened pool = if pool = released then none else sh.opened pool := by
  cases isOpen : sh.opened released with
  | none =>
    rw [release_eq_self isOpen]
    split
    · rename_i same
      rw [same, isOpen]
    · rfl
  | some name =>
    obtain ⟨entry, found, rfl, unreleased⟩ := opened_eq_some.mp isOpen
    have inside := lt_of_getElem? found
    rw [release_of_unreleased found unreleased]
    by_cases same : pool = released
    · simp [opened, same, List.getElem?_set_self inside]
    · simp only [opened, List.getElem?_set_ne (Ne.symm same), if_neg same]

def Counted : Prop :=
  ∀ pool, shared.releases.count pool = if shared.isReleased pool then 1 else 0

theorem Counted.release (counted : sh.Counted) (released : Nat) :
    (sh.release released).Counted := by
  intro pool
  have before := counted pool
  cases isOpen : sh.opened released with
  | none =>
    rw [release_eq_self isOpen]
    exact before
  | some name =>
    obtain ⟨entry, found, rfl, unreleased⟩ := opened_eq_some.mp isOpen
    have inside := lt_of_getElem? found
    have now := release_of_unreleased found unreleased
    by_cases same : pool = released
    · subst same
      simpa [now, isReleased, found, unreleased, List.getElem?_set_self inside] using before
    · have kept : (sh.release released).isReleased pool = sh.isReleased pool := by
        rw [now, isReleased, isReleased, List.getElem?_set_ne (Ne.symm same)]
      rw [kept, ← before, now]
      simp [Ne.symm same]

theorem release_locker (sh : Shared IpNet) (pool : Nat) :
    (sh.release pool).connectionLocker = sh.connectionLocker := by
  simp only [release, forget]
  split
  · rfl
  · split
    · rfl
    · split <;> rfl

end Shared

open Shared

def Thread.inside : Thread Ip IpNet → Bool
  | .call _ (.loading _) | .call _ (.creating _ _) | .call _ (.releasing _ _ _)
  | .call _ (.storing _ _) | .call _ (.unlocking _ _)
  | .watch _ .releasing | .watch _ .unlocking => true
  | _ => false

def Thread.holds (thread : Thread Ip IpNet) (_ : Unit) : Bool :=
  thread.inside

def Thread.adds : Thread Ip IpNet → Option Nat
  | .call _ (.releasing _ _ new) | .call _ (.storing _ new) => some new
  | _ => none

variable {th : Thread Ip IpNet}

theorem Thread.inside_of_adds {pool : Nat} (adds : th.adds = some pool) : th.inside = true := by
  unfold Thread.adds at adds
  split at adds
  · rfl
  · rfl
  · cases adds

def Knows (shared : Shared IpNet) : Thread Ip IpNet → Prop
  | .call call (.creating _ old) => shared.load call.user = old
  | .call call (.releasing _ old new) =>
    shared.load call.user = some old ∧ shared.opened new = some call.user ∧ old ≠ new
  | .call call (.storing _ new) =>
    shared.load call.user = none ∧ shared.opened new = some call.user
  | _ => True

theorem Knows.of_outside {sh : Shared IpNet} (outside : th.inside = false) : Knows sh th := by
  unfold Knows
  split
  · cases outside
  · cases outside
  · cases outside
  · trivial

theorem Knows.congr {before after : Shared IpNet}
    (load : ∀ user, after.load user = before.load user)
    (opened : ∀ pool, after.opened pool = before.opened pool) (knows : Knows before th) :
    Knows after th := by
  unfold Knows at knows ⊢
  split at knows
  · exact (load _).trans knows
  · exact ⟨(load _).trans knows.1, (opened _).trans knows.2.1, knows.2.2⟩
  · exact ⟨(load _).trans knows.1, (opened _).trans knows.2⟩
  · trivial

def locker (shared : Shared IpNet) (_ : Unit) : Option Nat :=
  shared.connectionLocker

/-- The map names open pools of their own users, and an open pool that is not in
the map is about to be stored. -/
structure Registered (s : State Ip IpNet) : Prop where
  exclusive : Exclusive Thread.holds locker s
  map : ∀ user pool, s.shared.load user = some pool → s.shared.opened pool = some user
  unstored : ∀ pool user, s.shared.opened pool = some user →
    s.shared.load user = some pool ∨
      ∃ (t : Nat) (thread : Thread Ip IpNet), s.threads[t]? = some thread ∧
        thread.adds = some pool
  knows : ∀ (t : Nat) thread, s.threads[t]? = some thread → Knows s.shared thread

section

variable {contains : IpNet → Ip → Bool} {s : State Ip IpNet} {t : Nat}
  {old : Thread Ip IpNet} {move : Move (Shared IpNet) (Thread Ip IpNet)}

theorem respects_locker (advanced : Advanced contains t s.shared old move) :
    Respects Thread.holds locker t old s.shared move () := by
  cases advanced with
  | lock _ _ free | watchLock _ free => exact .take free rfl
  | unlock | watchUnlock => exact .leave rfl rfl rfl
  | released call flight old new => exact .keep (release_locker s.shared old) fun _ => rfl
  | watchReleased pool => exact .keep (release_locker s.shared pool) fun _ => rfl
  | joined call flight res finished | finish call flight res =>
    cases res with
    | ok | error => exact .keep rfl fun inside => by cases inside
  | found | create | replacing | adding | notCreated | stored => exact .keep rfl fun _ => rfl
  | _ => exact .keep rfl id

section

variable (registered : Registered s) (found : s.threads[t]? = some old)

include registered found

theorem Registered.outside (inside : old.inside = true) {u : Nat} {th : Thread Ip IpNet}
    (ne : u ≠ t) (other : s.threads[u]? = some th) : th.inside = false := by
  by_contra entered
  have holds := registered.exclusive u th () other (by simpa [Thread.holds] using entered)
  rw [registered.exclusive t old () found inside] at holds
  exact ne (Option.some.inj holds).symm

variable (respects : Respects Thread.holds locker t old s.shared move ())

include respects

/-- The step rule of the registry: a step that touches the map or the open pools
is made inside the section; a pool that is open afterwards is registered, is
added by the thread that moved, or was neither registered nor added by it. -/
theorem Registered.apply (fresh : ∀ th ∈ move.spawned, th.inside = false)
    (touched : ((∀ user, move.shared.load user = s.shared.load user) ∧
      ∀ pool, move.shared.opened pool = s.shared.opened pool) ∨ old.inside = true)
    (map : ∀ user pool, move.shared.load user = some pool → move.shared.opened pool = some user)
    (unstored : ∀ pool user, move.shared.opened pool = some user →
      move.shared.load user = some pool ∨ move.thread.adds = some pool ∨
        s.shared.opened pool = some user ∧ s.shared.load user ≠ some pool ∧ old.adds ≠ some pool)
    (knows : Knows move.shared move.thread) : Registered (s.apply t move) := by
  refine ⟨?_, map, ?_, ?_⟩
  · exact registered.exclusive.apply found (fun _ => respects)
      fun th mem _ => fresh th mem
  · intro pool user isOpen
    rcases unstored pool user isOpen with stored | own | ⟨wasOpen, notStored, notOwn⟩
    · exact .inl stored
    · exact .inr ⟨t, move.thread, apply_self move found, own⟩
    · rcases registered.unstored pool user wasOpen with stored | ⟨u, th, other, adds⟩
      · exact absurd stored notStored
      · have ne : u ≠ t := by
          rintro rfl
          rw [found] at other
          cases other
          exact notOwn adds
        exact .inr ⟨u, th, apply_other move ne other, adds⟩
  · intro u th other
    rcases apply_inv other with ⟨ne, before⟩ | ⟨rfl, rfl⟩ | ⟨_, mem⟩
    · rcases touched with ⟨load, opened⟩ | inside
      · exact (registered.knows u th before).congr load opened
      · exact .of_outside (registered.outside found inside ne before)
    · exact knows
    · exact .of_outside (fresh th mem)

theorem Registered.quiet (fresh : ∀ th ∈ move.spawned, th.inside = false)
    (load : ∀ user, move.shared.load user = s.shared.load user)
    (opened : ∀ pool, move.shared.opened pool = s.shared.opened pool) (none : old.adds = none)
    (knows : Knows s.shared move.thread) : Registered (s.apply t move) := by
  refine registered.apply found respects fresh (.inl ⟨load, opened⟩) ?_ ?_ (knows.congr load opened)
  · intro user pool loaded
    rw [load] at loaded
    rw [opened]
    exact registered.map user pool loaded
  · intro pool user isOpen
    rw [opened] at isOpen
    rw [load]
    by_cases stored : s.shared.load user = some pool
    · exact .inl stored
    · exact .inr (.inr ⟨isOpen, stored, by simp [none]⟩)

theorem Registered.create {new : Pool IpNet} (unreleased : new.released = false)
    (sh : move.shared = { s.shared with pools := s.shared.pools ++ [new] })
    (spawned : move.spawned = [.watch s.shared.pools.length .waiting]) (inside : old.inside = true)
    (none : old.adds = none) (adds : move.thread.adds = some s.shared.pools.length)
    (knows : Knows move.shared move.thread) : Registered (s.apply t move) := by
  have load (user : Bytes) : move.shared.load user = s.shared.load user := by rw [sh]; rfl
  have opened (pool : Nat) : move.shared.opened pool =
      if pool = s.shared.pools.length then some new.user else s.shared.opened pool := by
    rw [sh]
    exact opened_append s.shared new unreleased pool
  refine registered.apply found respects (by simp [spawned, Thread.inside]) (.inr inside) ?_ ?_
    knows
  · intro user pool loaded
    rw [load] at loaded
    have wasOpen := registered.map user pool loaded
    rw [opened, if_neg, wasOpen]
    rintro rfl
    rw [opened_length] at wasOpen
    cases wasOpen
  · intro pool user isOpen
    rw [opened] at isOpen
    split at isOpen
    · rename_i last
      exact .inr (.inl (last ▸ adds))
    · rw [load]
      by_cases stored : s.shared.load user = some pool
      · exact .inl stored
      · exact .inr (.inr ⟨isOpen, stored, by simp [none]⟩)

theorem Registered.release
    {pool : Nat} (sh : move.shared = s.shared.release pool) (spawned : move.spawned = [])
    (inside : old.inside = true) (adds : move.thread.adds = old.adds)
    (knows : Knows move.shared move.thread) : Registered (s.apply t move) := by
  have load (user : Bytes) := load_release_eq s.shared pool user
  have opened (other : Nat) := opened_release s.shared pool other
  rw [← sh] at load opened
  refine registered.apply found respects (by simp [spawned]) (.inr inside) ?_ ?_ knows
  · intro user other loaded
    rw [load] at loaded
    split at loaded
    · cases loaded
    · rename_i kept
      have wasOpen := registered.map user other loaded
      rw [opened, if_neg, wasOpen]
      rintro rfl
      exact kept ⟨wasOpen, loaded⟩
  · intro other user isOpen
    rw [opened] at isOpen
    split at isOpen
    · cases isOpen
    · rename_i ne
      by_cases stored : s.shared.load user = some other
      · left
        rw [load, if_neg, stored]
        rintro ⟨_, same⟩
        rw [stored] at same
        exact ne (Option.some.inj same)
      · by_cases own : old.adds = some other
        · exact .inr (.inl (adds.trans own))
        · exact .inr (.inr ⟨isOpen, stored, own⟩)

end

theorem Registered.store (registered : Registered s) {call : Call Ip} {flight new : Nat}
    (found : s.threads[t]? = some (.call call (.storing flight new)))
    (respects : Respects Thread.holds locker t (.call call (.storing flight new)) s.shared move ())
    (sh : move.shared = s.shared.store call.user new) (spawned : move.spawned = [])
    (knows : Knows move.shared move.thread) : Registered (s.apply t move) := by
  obtain ⟨unregistered, newOpen⟩ : s.shared.load call.user = none ∧
      s.shared.opened new = some call.user := registered.knows t _ found
  have load (user : Bytes) := load_store s.shared call.user user new
  have opened (pool : Nat) : move.shared.opened pool = s.shared.opened pool := by rw [sh]; rfl
  rw [← sh] at load
  refine registered.apply found respects (by simp [spawned]) (.inr rfl) ?_ ?_ knows
  · intro user pool loaded
    rw [load] at loaded
    rw [opened]
    split at loaded
    · rename_i same
      cases loaded
      exact newOpen.trans (congrArg some same.symm)
    · exact registered.map user pool loaded
  · intro pool user isOpen
    rw [opened] at isOpen
    rw [load]
    by_cases own : pool = new
    · subst own
      rw [isOpen] at newOpen
      exact .inl (if_pos (Option.some.inj newOpen))
    · have notAdded : Thread.adds (.call call (.storing flight new) : Thread Ip IpNet) ≠
          some pool := by
        simpa [Thread.adds] using Ne.symm own
      by_cases stored : s.shared.load user = some pool
      · refine .inl ((if_neg ?_).trans stored)
        rintro rfl
        rw [unregistered] at stored
        cases stored
      · exact .inr (.inr ⟨isOpen, stored, notAdded⟩)

theorem knows_settle (sh : Shared IpNet) (call : Call Ip) (res : Except Error Nat) :
    Knows sh (.call call (settle res)) := by
  cases res with
  | ok | error => trivial

/-- A step keeps the map and the open pools the same, but for a pool about to be
stored. -/
theorem Registered.step (registered : Registered s) (found : s.threads[t]? = some old)
    (advanced : Advanced contains t s.shared old move) : Registered (s.apply t move) := by
  have knows := registered.knows t old found
  have respects := respects_locker advanced
  cases advanced with
  | called call =>
    exact registered.quiet found respects (by simp [Thread.inside]) (fun _ => rfl)
      (fun _ => rfl) rfl trivial
  | create call flight old loaded =>
    exact registered.quiet found respects (by simp) (fun _ => rfl) (fun _ => rfl) rfl loaded
  | replacing call flight old ipNets =>
    have wasOpen := registered.map call.user old knows
    have ne : old ≠ s.shared.pools.length := by
      rintro rfl
      rw [opened_length] at wasOpen
      cases wasOpen
    refine registered.create found respects rfl rfl rfl rfl rfl rfl ?_
    exact ⟨knows, by rw [opened_append _ _ rfl, if_pos rfl], ne⟩
  | adding call flight ipNets =>
    refine registered.create found respects rfl rfl rfl rfl rfl rfl ?_
    exact ⟨knows, by rw [opened_append _ _ rfl, if_pos rfl]⟩
  | released call flight old new =>
    obtain ⟨loaded, newOpen, ne⟩ := knows
    have wasOpen := registered.map call.user old loaded
    refine registered.release found respects rfl rfl rfl rfl ⟨?_, ?_⟩
    · rw [load_release_eq, if_pos ⟨wasOpen, loaded⟩]
    · rw [opened_release, if_neg ne.symm, newOpen]
  | watchReleased pool =>
    exact registered.release found respects rfl rfl rfl rfl trivial
  | stored call flight new => exact registered.store found respects rfl rfl trivial
  | finish call _ res | joined call _ res =>
    exact registered.quiet found respects (by simp) (fun _ => rfl) (fun _ => rfl) rfl
      (knows_settle _ call res)
  | whitelist pool entry ipNets here =>
    refine registered.quiet found respects (by simp) (fun _ => rfl) (fun other => ?_) rfl trivial
    exact opened_set { entry with ipNets := ipNets, earlier := entry.ipNets :: entry.earlier }
      here rfl rfl rfl other
  | _ =>
    exact registered.quiet found respects (by simp) (fun _ => rfl) (fun _ => rfl) rfl trivial

end

section

variable {contains : IpNet → Ip → Bool} {s : State Ip IpNet} {t : Nat}
  {old : Thread Ip IpNet} {move : Move (Shared IpNet) (Thread Ip IpNet)}

theorem Shared.Counted.step (counted : s.shared.Counted)
    (advanced : Advanced contains t s.shared old move) : move.shared.Counted := by
  cases advanced with
  | released call flight old new => exact counted.release old
  | watchReleased pool => exact counted.release pool
  | replacing call flight old ipNets | adding call flight ipNets =>
    intro pool
    rw [isReleased_append s.shared _ rfl]
    exact counted pool
  | whitelist idx entry ipNets here =>
    intro pool
    rw [isReleased_set s.shared
      { entry with ipNets := ipNets, earlier := entry.ipNets :: entry.earlier } here rfl rfl]
    exact counted pool
  | _ => exact counted

end

structure Accounted (s : State Ip IpNet) : Prop where
  registered : Registered s
  counted : s.shared.Counted

theorem accounted_of_reachable {contains : IpNet → Ip → Bool} {s : State Ip IpNet}
    (reached : (machine contains).system.Reachable s) : Accounted s := by
  refine System.Reachable.invariant (fun _ initial => ?_) (fun _ _ _ kept stepped => ?_) reached
  · obtain rfl := initial
    refine ⟨⟨?_, by simp [load, empty], by simp [opened, empty], ?_⟩,
      by simp [Counted, isReleased, empty]⟩
    · intro t th _ found inside
      have mem := mem_of_getElem? found
      simp only [empty, mem_singleton] at mem
      subst mem
      cases inside
    · intro t th found
      have mem := mem_of_getElem? found
      simp only [empty, mem_singleton] at mem
      subst mem
      trivial
  · obtain ⟨th, move, found, moved, rfl⟩ := Machine.next_inv stepped
    have advanced := advanced_of_advance moved
    exact ⟨kept.registered.step found advanced, kept.counted.step advanced⟩

/-- While `connectionLocker` is free, the map names unreleased pools of their own
users, every other pool was released, once, and a user has at most one pool that
was not released. -/
theorem registered_unless_released {contains : IpNet → Ip → Bool} {s : State Ip IpNet}
    (reached : (machine contains).system.Reachable s) (free : s.shared.connectionLocker = none) :
    (∀ user pool, s.shared.load user = some pool →
      ∃ entry, s.shared.pools[pool]? = some entry ∧ entry.user = user ∧
        entry.released = false ∧ s.shared.releases.count pool = 0) ∧
    (∀ (pool : Nat) (entry : Pool IpNet), s.shared.pools[pool]? = some entry →
      s.shared.load entry.user ≠ some pool →
        entry.released = true ∧ s.shared.releases.count pool = 1) ∧
    (∀ (pool pool' : Nat) (entry entry' : Pool IpNet), s.shared.pools[pool]? = some entry →
      s.shared.pools[pool']? = some entry' → entry.user = entry'.user →
      entry.released = false → entry'.released = false → pool = pool') := by
  obtain ⟨registered, counted⟩ := accounted_of_reachable reached
  -- Nobody is inside the section, so nobody has a pool to store.
  have stored (pool : Nat) (entry : Pool IpNet) (found : s.shared.pools[pool]? = some entry)
      (unreleased : entry.released = false) : s.shared.load entry.user = some pool := by
    have isOpen := opened_eq_some.mpr ⟨entry, found, rfl, unreleased⟩
    rcases registered.unstored pool entry.user isOpen with stored | ⟨t, thread, here, adds⟩
    · exact stored
    · have held := registered.exclusive t thread () here (Thread.inside_of_adds adds)
      rw [locker, free] at held
      cases held
  refine ⟨fun user pool loaded => ?_, fun pool entry found unregistered => ?_, ?_⟩
  · obtain ⟨entry, found, same, unreleased⟩ :=
      opened_eq_some.mp (registered.map user pool loaded)
    have once := counted pool
    simp only [isReleased, found, any_some, unreleased, Bool.false_eq_true, if_false] at once
    exact ⟨entry, found, same, unreleased, once⟩
  · have released : entry.released = true := by
      by_contra unreleased
      exact unregistered (stored pool entry found (by simpa using unreleased))
    have once := counted pool
    simp only [isReleased, found, any_some, released, if_true] at once
    exact ⟨released, once⟩
  · intro pool pool' entry entry' found found' same unreleased unreleased'
    have first := stored pool entry found unreleased
    have second := stored pool' entry' found' unreleased'
    rw [same, second] at first
    exact (Option.some.inj first).symm

/-- A user's pool is replaced after a password change while its own goroutine,
told of the change too, waits for the lock: it is released once. -/
theorem registered_unless_released_replaced :
    ∃ s : State Nat Nat, (machine fun net ip : Nat => net = ip).system.Reachable s ∧
      s.shared.connectionLocker = none ∧ s.shared.load [97] = some 1 ∧
      (s.shared.pools[0]?).map Pool.released = some true ∧ s.shared.releases = [0] ∧
      (∀ (pool : Nat) (entry : Pool Nat), s.shared.pools[pool]? = some entry →
        s.shared.load entry.user ≠ some pool →
          entry.released = true ∧ s.shared.releases.count pool = 1) := by
  obtain ⟨s, reached, free, stored, replaced, once⟩ :
      ∃ s, (machine fun net ip : Nat => net = ip).system.Reachable s ∧
        s.shared.connectionLocker = none ∧ s.shared.load [97] = some 1 ∧
        (s.shared.pools[0]?).map Pool.released = some true ∧ s.shared.releases = [0] :=
    System.exists_of_exec _
      [(0, .call ⟨[97], [98], 7⟩), (1, .go), (1, .go), (1, .go), (1, .go), (1, .created [7]),
        (1, .go), (1, .go), (2, .changePass), (0, .call ⟨[97], [99], 7⟩), (3, .go), (3, .go),
        (3, .go), (3, .go), (3, .created [7]), (3, .go), (3, .go), (3, .go), (2, .go), (2, .go),
        (2, .go)] rfl rfl
  exact ⟨s, reached, free, stored, replaced, once, (registered_unless_released reached free).2.1⟩

end TaosAdapter.CommonPool
