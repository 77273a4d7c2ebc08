import TaosAdapter.CommonPool.Model

/-!
Owns: the inversion of the step function of `GetConnection` and of the goroutine
of a pool. `Advanced` lists every step with its guards; the invariants of the
map, of the credentials and of the lock are case analyses over it.
-/

namespace TaosAdapter.CommonPool

open Lib

variable {Ip IpNet : Type}

section

variable (contains : IpNet → Ip → Bool) (t : Nat) (sh : Shared IpNet)

inductive Advanced : Thread Ip IpNet → Move (Shared IpNet) (Thread Ip IpNet) → Prop where
  | called call : Advanced .callers ⟨sh, .callers, [.call call .load]⟩
  | hit call pool (loaded : sh.load call.user = some pool)
      (verified : sh.verifyPassword pool call.password = true) :
      Advanced (.call call .load) ⟨sh, .call call (.verifyIP pool), []⟩
  | miss call : Advanced (.call call .load) ⟨sh, .call call .group, []⟩
  | join call flight (inFlight : sh.inFlight (groupKey call.user call.password) = some flight) :
      Advanced (.call call .group) ⟨sh, .call call (.joined flight), []⟩
  | start (call : Call Ip) :
      Advanced (.call call .group)
        ⟨{ sh with flights := sh.flights ++ [⟨call.user, call.password, none⟩] },
          .call call (.locking sh.flights.length), []⟩
  | lock (call : Call Ip) (flight : Nat) (free : sh.connectionLocker = none) :
      Advanced (.call call (.locking flight))
        ⟨{ sh with connectionLocker := some t }, .call call (.loading flight), []⟩
  | found call flight pool (loaded : sh.load call.user = some pool)
      (verified : sh.verifyPassword pool call.password = true) :
      Advanced (.call call (.loading flight))
        ⟨sh, .call call (.unlocking flight (.ok pool)), []⟩
  | create call flight old (loaded : sh.load call.user = old) :
      Advanced (.call call (.loading flight)) ⟨sh, .call call (.creating flight old), []⟩
  | replacing (call : Call Ip) (flight old : Nat) (ipNets : List IpNet) :
      Advanced (.call call (.creating flight (some old)))
        ⟨{ sh with pools := sh.pools ++ [⟨call.user, call.password, ipNets, false, []⟩] },
          .call call (.releasing flight old sh.pools.length),
          [.watch sh.pools.length .waiting]⟩
  | adding (call : Call Ip) (flight : Nat) (ipNets : List IpNet) :
      Advanced (.call call (.creating flight none))
        ⟨{ sh with pools := sh.pools ++ [⟨call.user, call.password, ipNets, false, []⟩] },
          .call call (.storing flight sh.pools.length),
          [.watch sh.pools.length .waiting]⟩
  | notCreated call flight old :
      Advanced (.call call (.creating flight old))
        ⟨sh, .call call (.unlocking flight (.error .connect)), []⟩
  | released call flight old new :
      Advanced (.call call (.releasing flight old new))
        ⟨sh.release old, .call call (.storing flight new), []⟩
  | stored call flight new :
      Advanced (.call call (.storing flight new))
        ⟨sh.store call.user new, .call call (.unlocking flight (.ok new)), []⟩
  | unlock (call : Call Ip) (flight : Nat) (result : Except Error Nat) :
      Advanced (.call call (.unlocking flight result))
        ⟨{ sh with connectionLocker := none }, .call call (.finishing flight result), []⟩
  | finish (call : Call Ip) (flight : Nat) (result : Except Error Nat) (entry : Flight)
      (here : sh.flights[flight]? = some entry) :
      Advanced (.call call (.finishing flight result))
        ⟨{ sh with flights := sh.flights.set flight { entry with result := result } },
          .call call (settle result), []⟩
  | joined call flight result
      (finished : (sh.flights[flight]?).bind Flight.result = some result) :
      Advanced (.call call (.joined flight)) ⟨sh, .call call (settle result), []⟩
  | allowed call pool entry (here : sh.pools[pool]? = some entry)
      (allowed : allows contains entry.ipNets call.ip = true) :
      Advanced (.call call (.verifyIP pool)) ⟨sh, .call call (.get pool entry.ipNets), []⟩
  | forbidden call pool :
      Advanced (.call call (.verifyIP pool)) ⟨sh, .call call (.failed .whitelistForbidden), []⟩
  | got call pool checked :
      Advanced (.call call (.get pool checked)) ⟨sh, .call call (.returned pool checked), []⟩
  | notGot call pool checked error :
      Advanced (.call call (.get pool checked)) ⟨sh, .call call (.failed error), []⟩
  | told pool : Advanced (.watch pool .waiting) ⟨sh, .watch pool .locking, []⟩
  | whitelist (pool : Nat) (entry : Pool IpNet) (ipNets : List IpNet)
      (here : sh.pools[pool]? = some entry) :
      Advanced (.watch pool .waiting)
        ⟨{ sh with
            pools := sh.pools.set pool
              { entry with ipNets := ipNets, earlier := entry.ipNets :: entry.earlier } },
          .watch pool .waiting, []⟩
  | cancelled pool : Advanced (.watch pool .waiting) ⟨sh, .watch pool .finished, []⟩
  | watchLock (pool : Nat) (free : sh.connectionLocker = none) :
      Advanced (.watch pool .locking)
        ⟨{ sh with connectionLocker := some t }, .watch pool .releasing, []⟩
  | watchReleased pool :
      Advanced (.watch pool .releasing) ⟨sh.release pool, .watch pool .unlocking, []⟩
  | watchUnlock (pool : Nat) :
      Advanced (.watch pool .unlocking)
        ⟨{ sh with connectionLocker := none }, .watch pool .finished, []⟩

end

section

variable {contains : IpNet → Ip → Bool} {t : Nat} {sh : Shared IpNet}
  {choice : Choice Ip IpNet} {move : Move (Shared IpNet) (Thread Ip IpNet)}

theorem advanced_of_call {call : Call Ip} {pc : CallPc IpNet}
    (moved : advanceCall contains t sh call pc choice = some move) :
    Advanced contains t sh (.call call pc) move := by
  unfold advanceCall at moved
  repeat' split at moved
  all_goals cases moved
  all_goals constructor <;> assumption

theorem advanced_of_watch {pool : Nat} {pc : WatchPc}
    (moved : advanceWatch t sh pool pc choice = some move) :
    Advanced contains t sh (.watch pool pc) move := by
  unfold advanceWatch at moved
  repeat' split at moved
  all_goals cases moved
  all_goals constructor <;> assumption

theorem advanced_of_advance {s : State Ip IpNet} {th : Thread Ip IpNet}
    (moved : advance contains s t th choice = some move) :
    Advanced contains t s.shared th move := by
  cases th with
  | callers =>
    cases choice with
    | call call =>
      cases moved
      exact .called call
    | _ => cases moved
  | call call pc => exact advanced_of_call moved
  | watch pool pc => exact advanced_of_watch moved

end

end TaosAdapter.CommonPool
