import TaosAdapter.CommonPool.Step

/-!
Owns: who gets a connection of which pool.

The group's key joins user and password with a colon, so two pairs of
credentials can have one key. The locked path needs no such condition: it
compares the password with the pool the map has for the user.
-/

namespace TaosAdapter.CommonPool

open Lib List

variable {Ip IpNet : Type}

namespace Shared

theorem lookup_filter_ne (entries : List (Bytes × Nat)) (user other : Bytes) :
    (entries.filter fun entry => entry.1 ≠ user).lookup other =
      if other = user then none else entries.lookup other := by
  induction entries with
  | nil => simp
  | cons entry rest ih =>
    obtain ⟨name, pool⟩ := entry
    by_cases removed : name = user
    · rw [filter_cons_of_neg (by simp [removed]), ih, lookup_cons]
      by_cases same : other = user
      · rw [if_pos same, if_pos same]
      · rw [if_neg same, if_neg same, beq_false_of_ne (removed ▸ same)]
    · rw [filter_cons_of_pos (by simp [removed]), lookup_cons, lookup_cons, ih]
      by_cases same : other = name
      · subst same
        simp [removed]
      · rw [beq_false_of_ne same]

variable (sh : Shared IpNet)

theorem load_store (user other : Bytes) (pool : Nat) :
    (sh.store user pool).load other = if other = user then some pool else sh.load other := by
  rw [load, store, lookup_cons, lookup_filter_ne]
  by_cases same : other = user
  · simp [same]
  · simp [same, beq_false_of_ne same, load]

theorem load_delete (user other : Bytes) :
    (sh.delete user).load other = if other = user then none else sh.load other :=
  lookup_filter_ne sh.connectionMap user other

def Made (pool : Nat) (user password : Bytes) : Prop :=
  ∃ entry, sh.pools[pool]? = some entry ∧ entry.user = user ∧ entry.password = password

def Had (pool : Nat) (ipNets : List IpNet) : Prop :=
  ∃ entry, sh.pools[pool]? = some entry ∧ ipNets ∈ entry.ipNets :: entry.earlier

def Runs (flight : Nat) (user password : Bytes) : Prop :=
  ∃ entry, sh.flights[flight]? = some entry ∧ entry.user = user ∧ entry.password = password

variable {sh : Shared IpNet} {user pass : Bytes} {pool : Nat}

theorem Made.unique {user' password' : Bytes} (first : sh.Made pool user pass)
    (second : sh.Made pool user' password') : user = user' ∧ pass = password' := by
  obtain ⟨entry, found, rfl, rfl⟩ := first
  obtain ⟨entry', found', rfl, rfl⟩ := second
  rw [found] at found'
  obtain rfl := Option.some.inj found'
  exact ⟨rfl, rfl⟩

/-- What later states keep: pools and executions keep their credentials, and a
pool's whitelists stay on record. -/
structure Grows (before after : Shared IpNet) : Prop where
  made : ∀ {pool user password}, before.Made pool user password → after.Made pool user password
  had : ∀ {pool ipNets}, before.Had pool ipNets → after.Had pool ipNets
  runs : ∀ {flight user password}, before.Runs flight user password →
    after.Runs flight user password

variable {after before : Shared IpNet}

theorem Grows.ofSame (pools : after.pools = before.pools) (flights : after.flights = before.flights)
    : Grows before after :=
  ⟨fun made => by rwa [Made, pools], fun had => by rwa [Had, pools],
    fun runs => by rwa [Runs, flights]⟩

theorem Grows.refl (sh : Shared IpNet) : Grows sh sh :=
  .ofSame rfl rfl

theorem Grows.append (sh : Shared IpNet) (pool : Pool IpNet) :
    Grows sh { sh with pools := sh.pools ++ [pool] } where
  made := by
    rintro idx _ _ ⟨entry, found, rfl, rfl⟩
    have inside := lt_of_getElem? found
    exact ⟨entry, List.getElem?_append_left inside ▸ found, rfl, rfl⟩
  had := by
    rintro idx ipNets ⟨entry, found, mem⟩
    exact ⟨entry, List.getElem?_append_left (lt_of_getElem? found) ▸ found, mem⟩
  runs := id

theorem Grows.setPool {idx : Nat} {old : Pool IpNet} (new : Pool IpNet)
    (found : sh.pools[idx]? = some old) (user : new.user = old.user)
    (pass : new.password = old.password)
    (kept : ∀ ipNets ∈ old.ipNets :: old.earlier, ipNets ∈ new.ipNets :: new.earlier)
    (pools : after.pools = sh.pools.set idx new) (flights : after.flights = sh.flights) :
    Grows sh after where
  made := by
    rintro pool _ _ ⟨entry, entryFound, rfl, rfl⟩
    rw [Made, pools]
    by_cases same : idx = pool
    · subst same
      rw [found] at entryFound
      cases entryFound
      exact ⟨new, List.getElem?_set_self (lt_of_getElem? found), user, pass⟩
    · exact ⟨entry, by rw [List.getElem?_set_ne same, entryFound], rfl, rfl⟩
  had := by
    rintro pool ipNets ⟨entry, entryFound, mem⟩
    rw [Had, pools]
    by_cases same : idx = pool
    · subst same
      rw [found] at entryFound
      cases entryFound
      exact ⟨new, List.getElem?_set_self (lt_of_getElem? found), kept _ mem⟩
    · exact ⟨entry, by rw [List.getElem?_set_ne same, entryFound], mem⟩
  runs := by
    intro flight user pass runs
    rwa [Runs, flights]

theorem release_flights (sh : Shared IpNet) (pool : Nat) :
    (sh.release pool).flights = sh.flights := by
  simp only [Shared.release, Shared.forget]
  split
  · rfl
  · split
    · rfl
    · split <;> rfl

theorem Grows.release (sh : Shared IpNet) (pool : Nat) : Grows sh (sh.release pool) := by
  rw [Shared.release]
  split
  · exact .refl sh
  · rename_i entry found
    split
    · exact .refl sh
    · refine .setPool { entry with released := true } found rfl rfl (fun _ => id) rfl ?_
      simp only [Shared.forget]
      split <;> rfl

def MapOk (sh : Shared IpNet) : Prop :=
  ∀ user pool, sh.load user = some pool → ∃ password, sh.Made pool user password

def FlightsOk (sh : Shared IpNet) : Prop :=
  ∀ (flight : Nat) (entry : Flight) (pool : Nat), sh.flights[flight]? = some entry →
    entry.result = some (.ok pool) → sh.Made pool entry.user entry.password

theorem MapOk.grow (ok : MapOk before) (grows : Grows before after)
    (fewer : ∀ user pool, after.load user = some pool → before.load user = some pool) :
    MapOk after := by
  intro user pool found
  obtain ⟨pass, made⟩ := ok user pool (fewer user pool found)
  exact ⟨pass, grows.made made⟩

theorem FlightsOk.grow (ok : FlightsOk before) (grows : Grows before after)
    (same : after.flights = before.flights) : FlightsOk after := by
  intro flight entry pool found res
  rw [same] at found
  exact grows.made (ok flight entry pool found res)

theorem load_release {found : Nat} (loaded : (sh.release pool).load user = some found) :
    sh.load user = some found := by
  have forgotten (name : Bytes) (loaded : (sh.forget name pool).load user = some found) :
      sh.load user = some found := by
    rw [forget] at loaded
    split at loaded
    · rw [load_delete] at loaded
      split at loaded
      · cases loaded
      · exact loaded
    · exact loaded
  rw [Shared.release] at loaded
  split at loaded
  · exact loaded
  · rename_i entry _
    split at loaded
    · exact loaded
    · exact forgotten entry.user loaded

theorem MapOk.verified (ok : MapOk sh) (loaded : sh.load user = some pool)
    (verified : sh.verifyPassword pool pass = true) : sh.Made pool user pass := by
  obtain ⟨stored, entry, found, userSame, _⟩ := ok user pool loaded
  rw [Shared.verifyPassword, found] at verified
  exact ⟨entry, found, userSame, by simpa [eq_comm] using verified⟩

end Shared

open Shared

def CallOk (contains : IpNet → Ip → Bool) (sh : Shared IpNet) (call : Call Ip) :
    CallPc IpNet → Prop
  | .load | .group | .failed _ => True
  | .locking flight | .loading flight | .creating flight _ | .joined flight =>
    sh.Runs flight call.user call.password
  | .releasing flight _ new | .storing flight new =>
    sh.Runs flight call.user call.password ∧ sh.Made new call.user call.password
  | .unlocking flight result | .finishing flight result =>
    sh.Runs flight call.user call.password ∧
      ∀ pool, result = .ok pool → sh.Made pool call.user call.password
  | .verifyIP pool => sh.Made pool call.user call.password
  | .get pool checked | .returned pool checked =>
    sh.Made pool call.user call.password ∧ sh.Had pool checked ∧
      allows contains checked call.ip = true

variable {contains : IpNet → Ip → Bool} {call : Call Ip}

theorem CallOk.grow {before after : Shared IpNet} {pc : CallPc IpNet} (grows : Grows before after)
    (ok : CallOk contains before call pc) : CallOk contains after call pc := by
  cases pc with
  | load | group | failed => trivial
  | locking | loading | creating | joined => exact grows.runs ok
  | releasing | storing => exact ⟨grows.runs ok.1, grows.made ok.2⟩
  | unlocking | finishing => exact ⟨grows.runs ok.1, fun pool is => grows.made (ok.2 pool is)⟩
  | verifyIP => exact grows.made ok
  | get | returned => exact ⟨grows.made ok.1, grows.had ok.2.1, ok.2.2⟩

variable {sh : Shared IpNet}

theorem callOk_settle {res : Except Error Nat}
    (made : ∀ pool, res = .ok pool → sh.Made pool call.user call.password) :
    CallOk contains sh call (settle res) := by
  cases res with
  | ok pool => exact made pool rfl
  | error error => trivial

def Thread.joinsOwn (sh : Shared IpNet) : Thread Ip IpNet → Bool
  | .call caller .group =>
    match (sh.inFlight (groupKey caller.user caller.password)).bind (sh.flights[·]?) with
    | some flight => flight.user = caller.user && flight.password = caller.password
    | none => true
  | _ => true

/-- A call joins an execution in flight only if that execution was started with
the call's own user and password. -/
def JoinsOwn (s : State Ip IpNet) (label : Nat × Choice Ip IpNet) : Prop :=
  ∀ thread ∈ s.threads[label.1]?, thread.joinsOwn s.shared = true

instance (s : State Ip IpNet) (label : Nat × Choice Ip IpNet) : Decidable (JoinsOwn s label) := by
  unfold JoinsOwn
  infer_instance

structure Keeps (contains : IpNet → Ip → Bool) (before : Shared IpNet) (call : Call Ip)
    (move : Move (Shared IpNet) (Thread Ip IpNet)) : Prop where
  grows : Grows before move.shared
  map : MapOk move.shared
  flights : FlightsOk move.shared
  thread : ∃ pc, move.thread = .call call pc ∧ CallOk contains move.shared call pc
  spawned : ∀ new ∈ move.spawned, ∃ pool, new = .watch pool .waiting

section

variable {contains : IpNet → Ip → Bool} {sh : Shared IpNet} {call : Call Ip}
  (map : MapOk sh) (flights : FlightsOk sh)

include map flights

variable {pc : CallPc IpNet}

theorem Keeps.ofMove (ok : CallOk contains sh call pc) :
    Keeps contains sh call ⟨sh, .call call pc, []⟩ :=
  ⟨.refl sh, map, flights, ⟨pc, rfl, ok⟩, by simp⟩

theorem Keeps.ofLock (ok : CallOk contains sh call pc) (owner : Option Nat) : Keeps contains sh call
      ⟨{ sh with connectionLocker := owner }, .call call pc, []⟩ :=
  have grows : Grows sh { sh with connectionLocker := owner } := .ofSame rfl rfl
  ⟨grows, map.grow grows fun _ _ => id, flights.grow grows rfl, ⟨pc, rfl, ok.grow grows⟩, by simp⟩

theorem Keeps.ofCreate (ipNets : List IpNet)
    (ok : ∀ after, Grows sh after → after.Made sh.pools.length call.user call.password →
      CallOk contains after call pc) : Keeps contains sh call
      ⟨{ sh with pools := sh.pools ++ [⟨call.user, call.password, ipNets, false, []⟩] },
        .call call pc, [.watch sh.pools.length .waiting]⟩ :=
  have grows := Grows.append sh ⟨call.user, call.password, ipNets, false, []⟩
  ⟨grows, map.grow grows fun _ _ => id, flights.grow grows rfl,
    ⟨pc, rfl, ok _ grows ⟨_, List.getElem?_concat_length, rfl, rfl⟩⟩, by simp⟩

theorem Keeps.ofStart : Keeps contains sh call
      ⟨{ sh with flights := sh.flights ++ [⟨call.user, call.password, none⟩] },
        .call call (.locking sh.flights.length), []⟩ := by
  have grows : Grows sh
      { sh with flights := sh.flights ++ [⟨call.user, call.password, none⟩] } :=
    ⟨id, id, fun ⟨entry, found, user, pass⟩ =>
      ⟨entry, List.getElem?_append_left (lt_of_getElem? found) ▸ found, user, pass⟩⟩
  refine ⟨grows, map.grow grows fun _ _ => id, ?_, ⟨_, rfl, ?_⟩, by simp⟩
  · intro flight entry pool found res
    rcases mem_append.mp (mem_of_getElem? found) with old | new
    · obtain ⟨idx, oldFound⟩ := mem_iff_getElem?.mp old
      exact flights idx entry pool oldFound res
    · rw [mem_singleton.mp new] at res
      cases res
  · exact ⟨_, List.getElem?_concat_length, rfl, rfl⟩

theorem Keeps.ofFinish {flight : Nat} {res : Except Error Nat} {entry : Flight}
    (found : sh.flights[flight]? = some entry)
    (ok : CallOk contains sh call (.finishing flight res)) : Keeps contains sh call
      ⟨{ sh with flights := sh.flights.set flight { entry with result := res } },
        .call call (settle res), []⟩ := by
  have inside := lt_of_getElem? found
  have grows : Grows sh
      { sh with flights := sh.flights.set flight { entry with result := res } } := by
    refine ⟨id, id, ?_⟩
    rintro idx _ _ ⟨other, found2, rfl, rfl⟩
    by_cases same : flight = idx
    · subst same
      rw [found] at found2
      cases found2
      exact ⟨_, List.getElem?_set_self inside, rfl, rfl⟩
    · exact ⟨other, by rw [List.getElem?_set_ne same, found2], rfl, rfl⟩
  obtain ⟨⟨own, ownFound, user, pass⟩, made⟩ := ok
  rw [found] at ownFound
  cases ownFound
  refine ⟨grows, map.grow grows fun _ _ => id, ?_, ⟨_, rfl, callOk_settle made⟩, by simp⟩
  intro idx other pool found2 isOk
  by_cases same : flight = idx
  · subst same
    rw [List.getElem?_set_self inside] at found2
    cases found2
    rw [user, pass]
    exact made pool (Option.some.inj isOk)
  · rw [List.getElem?_set_ne same] at found2
    exact flights idx other pool found2 isOk

theorem keeps_call {t : Nat} {move : Move (Shared IpNet) (Thread Ip IpNet)}
    (ok : CallOk contains sh call pc) (own : Thread.joinsOwn sh (.call call pc) = true)
    (advanced : Advanced contains t sh (.call call pc) move) : Keeps contains sh call move := by
  cases advanced with
  | hit _ pool loaded verified => exact .ofMove map flights (map.verified loaded verified)
  | join _ flight inFlight =>
    refine .ofMove map flights ?_
    obtain ⟨inside, -⟩ := List.findIdx?_eq_some_iff_getElem.mp inFlight
    have found : sh.flights[flight]? = some sh.flights[flight] :=
      List.getElem?_eq_getElem inside
    simp only [Thread.joinsOwn, inFlight, Option.bind_some, found, Bool.and_eq_true,
      decide_eq_true_eq] at own
    exact ⟨_, found, own.1, own.2⟩
  | start => exact .ofStart map flights
  | lock _ flight _ =>
    exact .ofLock map flights (show CallOk contains sh call (.loading flight) from ok) _
  | found _ flight pool loaded verified =>
    refine .ofMove map flights ⟨ok, ?_⟩
    rintro _ ⟨⟩
    exact map.verified loaded verified
  | create | got => exact .ofMove map flights ok
  | replacing | adding =>
    exact .ofCreate map flights _ fun _ grows made => ⟨grows.runs ok, made⟩
  | notCreated => exact .ofMove map flights ⟨ok, fun _ clash => by cases clash⟩
  | released _ flight old new =>
    have grows := Grows.release sh old
    have known : CallOk contains sh call (.storing flight new) := ok
    exact ⟨grows, map.grow grows fun _ _ => load_release,
      flights.grow grows (release_flights sh old), ⟨_, rfl, known.grow grows⟩, by simp⟩
  | stored _ flight new =>
    have grows : Grows sh (sh.store call.user new) := .ofSame rfl rfl
    refine ⟨grows, ?_, flights.grow grows rfl, ⟨_, rfl, grows.runs ok.1, ?_⟩, by simp⟩
    · intro user pool loaded
      rw [load_store] at loaded
      split at loaded
      · rename_i same
        cases loaded
        exact ⟨call.password, grows.made (same ▸ ok.2)⟩
      · obtain ⟨pass, made⟩ := map user pool loaded
        exact ⟨pass, grows.made made⟩
    · rintro _ ⟨⟩
      exact grows.made ok.2
  | unlock _ flight res =>
    exact .ofLock map flights
      (show CallOk contains sh call (.finishing flight res) from ok) _
  | finish _ flight res entry found => exact .ofFinish map flights found ok
  | joined _ flight res finished =>
    obtain ⟨entry, found, user, pass⟩ := ok
    rw [found] at finished
    refine .ofMove map flights (callOk_settle fun pool isOk => ?_)
    rw [← user, ← pass]
    exact flights _ entry pool found (by rw [← isOk]; exact finished)
  | allowed _ pool entry found allowed =>
    exact .ofMove map flights ⟨ok, ⟨entry, found, mem_cons_self⟩, allowed⟩
  | miss | forbidden | notGot => exact .ofMove map flights trivial

end

structure Genuine (contains : IpNet → Ip → Bool) (s : State Ip IpNet) : Prop where
  map : MapOk s.shared
  flights : FlightsOk s.shared
  calls : ∀ (t : Nat) thread, s.threads[t]? = some thread →
    ∀ call pc, thread = .call call pc → CallOk contains s.shared call pc

variable {move : Move (Shared IpNet) (Thread Ip IpNet)}

theorem keeps_watch {t pool : Nat} {pc : WatchPc}
    (advanced : Advanced contains t sh (.watch pool pc) move) :
    Grows sh move.shared ∧ move.shared.flights = sh.flights ∧
      (∀ user found, move.shared.load user = some found → sh.load user = some found) ∧
      (∃ pc', move.thread = .watch pool pc') ∧ move.spawned = [] := by
  cases advanced with
  | told | cancelled => exact ⟨.refl sh, rfl, fun _ _ => id, ⟨_, rfl⟩, rfl⟩
  | whitelist _ entry ipNets found =>
    refine ⟨.setPool { entry with ipNets := ipNets, earlier := entry.ipNets :: entry.earlier }
      found rfl rfl (fun ipNets mem => ?_) rfl rfl, rfl, fun _ _ => id, ⟨_, rfl⟩, rfl⟩
    exact mem_cons_of_mem _ mem
  | watchLock | watchUnlock => exact ⟨.ofSame rfl rfl, rfl, fun _ _ => id, ⟨_, rfl⟩, rfl⟩
  | watchReleased =>
    exact ⟨.release sh pool, release_flights sh pool, fun _ _ => load_release, ⟨_, rfl⟩, rfl⟩

variable {s : State Ip IpNet}

/-- A pool gets into the map, a flight or a call only under its own credentials, if
every flight joined is of the caller's own. -/
theorem Genuine.step {t : Nat} {th : Thread Ip IpNet} {choice : Choice Ip IpNet}
    (genuine : Genuine contains s) (found : s.threads[t]? = some th) (met : JoinsOwn s (t, choice))
    (moved : advance contains s t th choice = some move) : Genuine contains (s.apply t move) := by
  have advanced := advanced_of_advance moved
  -- Every step keeps the credentials, and gives the moved thread what it knows.
  have kept : Grows s.shared move.shared ∧ MapOk move.shared ∧ FlightsOk move.shared ∧
      (∀ call pc, move.thread = .call call pc → CallOk contains move.shared call pc) ∧
      (∀ new ∈ move.spawned, ∀ call pc, new = .call call pc →
        CallOk contains move.shared call pc) := by
    cases th with
    | callers =>
      cases advanced with
      | called call =>
        refine ⟨.refl _, genuine.map, genuine.flights, by simp, ?_⟩
        intro new mem call' pc isCall
        rw [mem_singleton.mp mem] at isCall
        cases isCall
        trivial
    | call call pc =>
      have keeps := keeps_call genuine.map genuine.flights (genuine.calls t _ found call pc rfl)
        (met _ found) advanced
      refine ⟨keeps.grows, keeps.map, keeps.flights, ?_, ?_⟩
      · intro call' pc' isCall
        obtain ⟨after, threadIs, ok⟩ := keeps.thread
        rw [threadIs] at isCall
        cases isCall
        exact ok
      · intro new mem call' pc' isCall
        obtain ⟨pool, rfl⟩ := keeps.spawned new mem
        cases isCall
    | watch pool pc =>
      obtain ⟨grows, sameFlights, fewer, ⟨pc', threadIs⟩, none⟩ := keeps_watch advanced
      refine ⟨grows, genuine.map.grow grows fewer, genuine.flights.grow grows sameFlights, ?_, ?_⟩
      · intro call' pc'' isCall
        rw [threadIs] at isCall
        cases isCall
      · simp [none]
  obtain ⟨grows, map, flights, own, fresh⟩ := kept
  refine ⟨map, flights, Snapshot.forall_apply genuine.calls ?_ own ?_⟩
  · intro _ _ _ before call pc isCall
    exact (before call pc isCall).grow grows
  · intro _ new _ mem
    exact fresh new mem

theorem genuine_of_reachable (reached : (machine contains).system.ReachableUnder JoinsOwn s) :
    Genuine contains s := by
  refine System.ReachableUnder.invariant (fun _ initial => ?_)
    (fun _ _ _ genuine met stepped => ?_) reached
  · obtain rfl := initial
    refine ⟨by simp [MapOk, Shared.load, empty], by simp [FlightsOk, empty], ?_⟩
    intro t th found call pc isCall
    have mem := mem_of_getElem? found
    simp only [empty, mem_singleton] at mem
    rw [mem] at isCall
    cases isCall
  · obtain ⟨th, move, found, moved, rfl⟩ := Machine.next_inv stepped
    exact genuine.step found met moved

/-- A call that returns a connection returns one of a pool that was created with
exactly its user and password, whose whitelist admitted its address when it was
checked, and two calls that share a pool have the same credentials. -/
theorem connection_from_own_pool {contains : IpNet → Ip → Bool} {s : State Ip IpNet}
    (reached : (machine contains).system.ReachableUnder JoinsOwn s) {t pool : Nat} {call : Call Ip}
    {checked : List IpNet} (returned : s.threads[t]? = some (.call call (.returned pool checked))) :
    (∃ entry, s.shared.pools[pool]? = some entry ∧ entry.user = call.user ∧
      entry.password = call.password ∧ checked ∈ entry.ipNets :: entry.earlier) ∧
    allows contains checked call.ip = true ∧
    (∀ (t' : Nat) (call' : Call Ip) (checked' : List IpNet),
      s.threads[t']? = some (.call call' (.returned pool checked')) →
        call'.user = call.user ∧ call'.password = call.password) := by
  have genuine := genuine_of_reachable reached
  obtain ⟨made, ⟨other, otherFound, member⟩, allowed⟩ := genuine.calls t _ returned call _ rfl
  refine ⟨?_, allowed, fun t' call' checked' returned' => ?_⟩
  · obtain ⟨entry, found, user, password⟩ := made
    rw [found] at otherFound
    cases otherFound
    exact ⟨other, found, user, password, member⟩
  · exact (genuine.calls t' _ returned' call' _ rfl).1.unique made

/-- Two calls with the credentials `a` and `b` share one execution and one
pool. -/
theorem connection_from_own_pool_joined :
    ∃ s, (machine fun net ip : Nat => net = ip).system.ReachableUnder JoinsOwn s ∧
      s.threads[1]? = some (.call ⟨[97], [98], 7⟩ (.returned 0 [7])) ∧
      (∃ entry, s.shared.pools[0]? = some entry ∧ entry.user = [97] ∧ entry.password = [98] ∧
        [7] ∈ entry.ipNets :: entry.earlier) ∧
      allows (fun net ip : Nat => net = ip) [7] 7 = true ∧
      (∀ (t' : Nat) (call' : Call Nat) (checked' : List Nat),
        s.threads[t']? = some (.call call' (.returned 0 checked')) →
          call'.user = [97] ∧ call'.password = [98]) := by
  obtain ⟨s, reached, returned⟩ : ∃ s,
      (machine fun net ip : Nat => net = ip).system.ReachableUnder JoinsOwn s ∧
        s.threads[1]? = some (.call ⟨[97], [98], 7⟩ (.returned 0 [7])) :=
    ⟨_, (machine fun net ip : Nat => net = ip).system.reachableUnder_of_exec JoinsOwn
      [(0, .call ⟨[97], [98], 7⟩), (0, .call ⟨[97], [98], 7⟩), (1, .go), (1, .go), (2, .go),
        (2, .go), (1, .go), (1, .go), (1, .created [7]), (1, .go), (1, .go), (1, .go), (1, .go),
        (1, .go), (2, .go), (2, .go), (2, .go)] rfl rfl, rfl⟩
  exact ⟨s, reached, returned, connection_from_own_pool reached returned⟩

/-- While the pool of user `a` with password `b:c` is being created, a call of
user `a:b` with password `c` has the same key. It waits for that pool and
returns a connection of it: user and password are those of the other caller,
and its own were never checked. -/
theorem connection_from_foreign_pool :
    ∃ (s : State Nat Nat) (entry : Pool Nat),
      (machine fun net ip : Nat => net = ip).system.Reachable s ∧
      s.threads[2]? = some (.call ⟨[97, 58, 98], [99], 7⟩ (.returned 0 [7])) ∧
      s.shared.pools[0]? = some entry ∧ entry.user = [97] ∧ entry.password = [98, 58, 99] := by
  have reached := (machine fun net ip : Nat => net = ip).system.reachable_of_exec
    [(0, .call ⟨[97], [98, 58, 99], 7⟩), (0, .call ⟨[97, 58, 98], [99], 7⟩), (1, .go), (1, .go),
      (2, .go), (2, .go), (1, .go), (1, .go), (1, .created [7]), (1, .go), (1, .go), (1, .go),
      (2, .go), (2, .go), (2, .go)] rfl rfl
  exact ⟨_, _, reached, rfl, rfl, rfl, rfl⟩

end TaosAdapter.CommonPool
