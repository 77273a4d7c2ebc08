import TaosAdapter.Lib.Bytes
import TaosAdapter.Lib.Machine

/-!
Contract: `GetConnection` of `db/commonpool/pool.go` under any number of
concurrent callers.

Owns: the map from users to pools, the locked slow path, the singleflight group
in front of it, the goroutine of each pool that follows password, user and
whitelist changes, and the whitelist check before a connection is taken.

A string is its bytes. A pool is named by its position in creation order. The
singleflight group keeps every execution; one without a result is in flight,
and a caller with an equal key waits for its result.
-/

namespace TaosAdapter.CommonPool

open Lib

/-- The errors of `GetConnection`. -/
inductive Error where
  /-- `AuthFailureError`: the pool was released. -/
  | authFailure
  /-- `ErrWhitelistForbidden`. -/
  | whitelistForbidden
  /-- `connectpool` refused: timeout, too many waiters, or no connection. -/
  | pool
  /-- `NewConnectorPool` failed. -/
  | connect
deriving DecidableEq

/-- A `ConnectorPool`. `earlier` is a ghost: the whitelists before `ipNets`. -/
structure Pool (IpNet : Type) where
  user : Bytes
  password : Bytes
  ipNets : List IpNet
  released : Bool
  earlier : List (List IpNet)
deriving DecidableEq

/-- One execution of the singleflight group, with the credentials its function
was called with. -/
structure Flight where
  user : Bytes
  password : Bytes
  result : Option (Except Error Nat)

/-- The key `fmt.Sprintf("%s:%s", user, password)`. -/
def groupKey (user password : Bytes) : Bytes :=
  user ++ [0x3A] ++ password

/-- `releases` is a ghost: the pools for which the body of `Release` was run, in
order. -/
structure Shared (IpNet : Type) where
  connectionMap : List (Bytes × Nat)
  pools : List (Pool IpNet)
  connectionLocker : Option Nat
  flights : List Flight
  releases : List Nat

namespace Shared

variable {IpNet : Type} (shared : Shared IpNet)

def load (user : Bytes) : Option Nat :=
  shared.connectionMap.lookup user

def store (user : Bytes) (pool : Nat) : Shared IpNet :=
  { shared with
    connectionMap := (user, pool) :: shared.connectionMap.filter fun entry => entry.1 ≠ user }

def delete (user : Bytes) : Shared IpNet :=
  { shared with connectionMap := shared.connectionMap.filter fun entry => entry.1 ≠ user }

def verifyPassword (pool : Nat) (password : Bytes) : Bool :=
  match shared.pools[pool]? with
  | some entry => password = entry.password
  | none => false

/-- The map forgets a pool only if it still names it. -/
def forget (user : Bytes) (pool : Nat) : Shared IpNet :=
  if shared.load user = some pool then shared.delete user else shared

/-- `Release`; `released` says that its `once` is done. -/
def release (pool : Nat) : Shared IpNet :=
  match shared.pools[pool]? with
  | none => shared
  | some entry =>
    if entry.released then shared
    else
      { shared.forget entry.user pool with
        pools := shared.pools.set pool { entry with released := true }
        releases := shared.releases ++ [pool] }

def inFlight (key : Bytes) : Option Nat :=
  shared.flights.findIdx? fun flight =>
    flight.result.isNone && groupKey flight.user flight.password = key

end Shared

/-- The arguments of one `GetConnection`. -/
structure Call (Ip : Type) where
  user : Bytes
  password : Bytes
  ip : Ip
deriving DecidableEq

/-- Where a call is, from `getConnectionPool` through the singleflight group and
`getConnectorPoolSafe` to `getConnectDirect`. -/
inductive CallPc (IpNet : Type) where
  | load
  | group
  | locking (flight : Nat)
  | loading (flight : Nat)
  | creating (flight : Nat) (old : Option Nat)
  | releasing (flight old new : Nat)
  | storing (flight new : Nat)
  | unlocking (flight : Nat) (result : Except Error Nat)
  | finishing (flight : Nat) (result : Except Error Nat)
  | joined (flight : Nat)
  | verifyIP (pool : Nat)
  /-- Past the whitelist check, with the whitelist it was made against. -/
  | get (pool : Nat) (checked : List IpNet)
  | returned (pool : Nat) (checked : List IpNet)
  | failed (error : Error)

/-- Where the goroutine of a pool is. -/
inductive WatchPc where
  | waiting
  | locking
  | releasing
  | unlocking
  | finished
deriving DecidableEq

inductive Thread (Ip IpNet : Type) where
  /-- Where calls come from. -/
  | callers
  | call (call : Call Ip) (pc : CallPc IpNet)
  | watch (pool : Nat) (pc : WatchPc)

inductive Choice (Ip IpNet : Type) where
  | go
  | call (call : Call Ip)
  /-- `NewConnectorPool` succeeds and reads this whitelist. -/
  | created (ipNets : List IpNet)
  | notCreated
  /-- The pool has no connection for the caller. -/
  | noConnection
  | changePass
  | dropUser
  | whitelist (ipNets : List IpNet)
  | whitelistError
  | cancelled

abbrev State (Ip IpNet : Type) := Snapshot (Shared IpNet) (Thread Ip IpNet)

section

variable {Ip IpNet : Type} (contains : IpNet → Ip → Bool)

/-- What the caller does with the group's result. -/
def settle : Except Error Nat → CallPc IpNet
  | .ok pool => .verifyIP pool
  | .error error => .failed error

def allows (ipNets : List IpNet) (ip : Ip) : Bool :=
  ipNets.any fun ipNet => contains ipNet ip

def advanceCall (t : Nat) (shared : Shared IpNet) (call : Call Ip) :
    CallPc IpNet → Choice Ip IpNet → Option (Move (Shared IpNet) (Thread Ip IpNet))
  | .load, .go =>
    match shared.load call.user with
    | some pool =>
      if shared.verifyPassword pool call.password then
        some ⟨shared, .call call (.verifyIP pool), []⟩
      else some ⟨shared, .call call .group, []⟩
    | none => some ⟨shared, .call call .group, []⟩
  | .group, .go =>
    match shared.inFlight (groupKey call.user call.password) with
    | some flight => some ⟨shared, .call call (.joined flight), []⟩
    | none =>
      some ⟨{ shared with flights := shared.flights ++ [⟨call.user, call.password, none⟩] },
        .call call (.locking shared.flights.length), []⟩
  | .locking flight, .go =>
    if shared.connectionLocker = none then
      some ⟨{ shared with connectionLocker := some t }, .call call (.loading flight), []⟩
    else none
  | .loading flight, .go =>
    match shared.load call.user with
    | some pool =>
      if shared.verifyPassword pool call.password then
        some ⟨shared, .call call (.unlocking flight (.ok pool)), []⟩
      else some ⟨shared, .call call (.creating flight (some pool)), []⟩
    | none => some ⟨shared, .call call (.creating flight none), []⟩
  | .creating flight old, .created ipNets =>
    let new := shared.pools.length
    let grown := { shared with
      pools := shared.pools ++ [⟨call.user, call.password, ipNets, false, []⟩] }
    match old with
    | some old =>
      some ⟨grown, .call call (.releasing flight old new), [.watch new .waiting]⟩
    | none => some ⟨grown, .call call (.storing flight new), [.watch new .waiting]⟩
  | .creating flight _, .notCreated =>
    some ⟨shared, .call call (.unlocking flight (.error .connect)), []⟩
  | .releasing flight old new, .go =>
    some ⟨shared.release old, .call call (.storing flight new), []⟩
  | .storing flight new, .go =>
    some ⟨shared.store call.user new, .call call (.unlocking flight (.ok new)), []⟩
  | .unlocking flight result, .go =>
    some ⟨{ shared with connectionLocker := none }, .call call (.finishing flight result), []⟩
  | .finishing flight result, .go =>
    match shared.flights[flight]? with
    | some entry =>
      some ⟨{ shared with
          flights := shared.flights.set flight { entry with result := result } },
        .call call (settle result), []⟩
    | none => none
  | .joined flight, .go =>
    match (shared.flights[flight]?).bind Flight.result with
    | some result => some ⟨shared, .call call (settle result), []⟩
    | none => none
  | .verifyIP pool, .go =>
    match shared.pools[pool]? with
    | some entry =>
      if allows contains entry.ipNets call.ip then
        some ⟨shared, .call call (.get pool entry.ipNets), []⟩
      else some ⟨shared, .call call (.failed .whitelistForbidden), []⟩
    | none => none
  | .get pool checked, .go =>
    match shared.pools[pool]? with
    | some entry =>
      if entry.released then some ⟨shared, .call call (.failed .authFailure), []⟩
      else some ⟨shared, .call call (.returned pool checked), []⟩
    | none => none
  | .get _ _, .noConnection => some ⟨shared, .call call (.failed .pool), []⟩
  | _, _ => none

/-- One step of the goroutine `NewConnectorPool` starts. -/
def advanceWatch (t : Nat) (shared : Shared IpNet) (pool : Nat) :
    WatchPc → Choice Ip IpNet → Option (Move (Shared IpNet) (Thread Ip IpNet))
  | .waiting, .changePass => some ⟨shared, .watch pool .locking, []⟩
  | .waiting, .dropUser => some ⟨shared, .watch pool .locking, []⟩
  | .waiting, .whitelistError => some ⟨shared, .watch pool .locking, []⟩
  | .waiting, .whitelist ipNets =>
    match shared.pools[pool]? with
    | some entry =>
      let changed := { entry with ipNets := ipNets, earlier := entry.ipNets :: entry.earlier }
      some ⟨{ shared with pools := shared.pools.set pool changed },
        .watch pool .waiting, []⟩
    | none => none
  | .waiting, .cancelled =>
    match shared.pools[pool]? with
    | some entry => if entry.released then some ⟨shared, .watch pool .finished, []⟩ else none
    | none => none
  | .locking, .go =>
    if shared.connectionLocker = none then
      some ⟨{ shared with connectionLocker := some t }, .watch pool .releasing, []⟩
    else none
  | .releasing, .go => some ⟨shared.release pool, .watch pool .unlocking, []⟩
  | .unlocking, .go => some ⟨{ shared with connectionLocker := none }, .watch pool .finished, []⟩
  | _, _ => none

def advance (s : State Ip IpNet) (t : Nat) (thread : Thread Ip IpNet) (choice : Choice Ip IpNet) :
    Option (Move (Shared IpNet) (Thread Ip IpNet)) :=
  match thread, choice with
  | .callers, .call call => some ⟨s.shared, .callers, [.call call .load]⟩
  | .callers, _ => none
  | .call call pc, choice => advanceCall contains t s.shared call pc choice
  | .watch pool pc, choice => advanceWatch t s.shared pool pc choice

def empty : State Ip IpNet where
  shared := ⟨[], [], none, [], []⟩
  threads := [.callers]

def machine : Machine (Shared IpNet) (Thread Ip IpNet) (Choice Ip IpNet) where
  initial s := s = empty
  advance := advance contains

end

end TaosAdapter.CommonPool
