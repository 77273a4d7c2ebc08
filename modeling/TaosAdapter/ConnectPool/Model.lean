import TaosAdapter.Lib.Transition
import TaosAdapter.Lib.Tally

/-!
Contract: the connection pool of `tools/connectpool/pool.go`, one atomic step
at a time.

Owns: the pool record, the program counters of `GetWithContext`, `Put`, `Close`
and `Release`, the step function over any number of callers, and
`newConnectPool`.

A connection is named by its position in creation order. A step is one access to
shared memory or one critical section, split where another thread can see the
middle of it: `Close` decrements `openingConns` before it calls `close`, while a
`Put` on a released pool reads `openingConns` and stores `close = nil` without
the lock; and the drain of `doRelease` receives one connection at a time.
-/

namespace TaosAdapter.ConnectPool

open Lib

/-- The identity of a created connection. -/
abbrev Conn := Nat

/-- A call in progress, named by its position in the list of calls. -/
abbrev Tid := Nat

structure Config where
  initialCap : Int
  maxCap : Int
  maxWait : Int
deriving DecidableEq

/-- The channel `req` of one waiter: a buffer of one, closed by `Release`. -/
inductive Slot where
  | empty
  | full (conn : Conn)
  | closed
deriving DecidableEq

/-- What a call returned. -/
inductive Outcome where
  | conn (conn : Conn)
  | ok
  | errClosed
  | errTimeout
  | errMaxWait
  | errFactory
  | errNil
deriving DecidableEq

/-- Where `Close` returns to: the caller, or the tail of a `Put` that found the
pool released. -/
inductive After where
  | caller
  | put
deriving DecidableEq

/-- Program counters, in the order of the source. -/
inductive Pc where
  | getConns
  | poll
  | enroll
  | waiting
  | cancelled
  | takeReq
  | putLock (conn : Conn)
  | closeLock (conn : Conn) (after : After)
  | closeCheck (conn : Conn) (after : After)
  | closeCount (conn : Conn) (after : After)
  | closeCall (conn : Conn) (after : After)
  | readOpening
  | clearClose
  | releaseLock
  | draining
  | finished (outcome : Outcome)
  | panicked
deriving DecidableEq

structure Thread where
  pc : Pc
  slot : Slot
deriving DecidableEq

/-- The pool, its callers, and three ghost records: how many connections the
factory created, which ones the callers hold, and which ones `close` received. -/
structure State where
  maxActive : Int
  maxWait : Int
  conns : List Conn
  connsClosed : Bool
  openingConns : Int
  connReqs : List Tid
  released : Bool
  factoryCleared : Bool
  closeCleared : Bool
  mu : Option Tid
  created : Nat
  held : List Conn
  closed : List Conn
  threads : List Thread
deriving DecidableEq

/-- The scheduler's resolution of one step. -/
inductive Choice where
  | go
  | ctxDone
  | factoryFails
deriving DecidableEq

inductive Label where
  | get
  | put (conn : Option Conn)
  | close (conn : Option Conn)
  | release
  | run (thread : Tid) (choice : Choice)
deriving DecidableEq

namespace State

variable (s : State) (t : Tid)

def setThread (thread : Thread) : State :=
  { s with threads := s.threads.set t thread }

def move (thread : Thread) (pc : Pc) : State :=
  s.setThread t { thread with pc := pc }

def finish (thread : Thread) (outcome : Outcome) : State :=
  s.move t thread (.finished outcome)

def spawn (pc : Pc) : State :=
  { s with threads := s.threads ++ [⟨pc, .empty⟩] }

/-- `Get` returns `conn` to its caller; a waiter's channel is empty afterwards. -/
def give (conn : Conn) : State :=
  { s with held := conn :: s.held }.setThread t ⟨.finished (.conn conn), .empty⟩

/-- `getConns`: the pool is closed to callers once it was released. -/
def getConns (thread : Thread) : State :=
  if s.released then s.finish t thread .errClosed else s.move t thread .poll

/-- The first `select`: receive an idle connection, or fall to the default
branch. A closed and drained channel yields the nil connection. -/
def poll (thread : Thread) : State :=
  match s.conns with
  | conn :: rest => { s with conns := rest }.give t conn
  | [] => if s.connsClosed then s.finish t thread .errClosed else s.move t thread .enroll

/-- The waiter appends its channel to the queue. -/
def enqueue : State :=
  { s with connReqs := s.connReqs ++ [t] }.setThread t ⟨.waiting, .empty⟩

/-- The factory succeeds inside the critical section. -/
def create (s : State) (t : Tid) : State :=
  { s with openingConns := s.openingConns + 1, created := s.created + 1 }.give t s.created

/-- The critical section of the default branch of `GetWithContext`. -/
def enroll (thread : Thread) : Choice → Option State
  | .go =>
    if s.released then some (s.finish t thread .errClosed)
    else if s.maxActive ≤ s.openingConns then
      if 0 < s.maxWait ∧ s.maxWait ≤ s.connReqs.length then
        some (s.finish t thread .errMaxWait)
      else some (s.enqueue t)
    else if s.factoryCleared then some (s.finish t thread .errClosed)
    else some (s.create t)
  | .factoryFails =>
    if s.released = false ∧ s.openingConns < s.maxActive ∧ s.factoryCleared = false then
      some (s.finish t thread .errFactory)
    else none
  | .ctxDone => none

def receive (thread : Thread) : Option State :=
  match thread.slot with
  | .full conn => some (s.give t conn)
  | .closed => some (s.finish t thread .errClosed)
  | .empty => none

def cancel (thread : Thread) : State :=
  if s.released then s.finish t thread .errClosed
  else if t ∈ s.connReqs then
    { s with connReqs := s.connReqs.erase t }.finish t thread .errTimeout
  else s.move t thread .takeReq

/-- `Put` sends the connection into the channel of the first waiter. -/
def handOff (thread : Thread) (conn : Conn) (waiter : Tid) (rest : List Tid) : State :=
  { s with
    connReqs := rest
    threads := s.threads.modify waiter fun queued => { queued with slot := .full conn }
  }.finish t thread .ok

def put (s : State) (t : Tid) (thread : Thread) (conn : Conn) : State :=
  if s.released then s.move t thread (.closeLock conn .put)
  else match s.connReqs with
    | waiter :: rest => s.handOff t thread conn waiter rest
    | [] =>
      if s.conns.length < s.maxActive then
        { s with conns := s.conns ++ [conn] }.finish t thread .ok
      else s.move t thread (.closeLock conn .caller)

def closeLock (s : State) (t : Tid) (thread : Thread) (conn : Conn) (after : After) : State :=
  { s with mu := some t }.move t thread (.closeCheck conn after)

def closeReturn (thread : Thread) : After → State
  | .caller => s.finish t thread .ok
  | .put => s.move t thread .readOpening

def closeCheck (thread : Thread) (conn : Conn) (after : After) : State :=
  if s.closeCleared then { s with mu := none }.closeReturn t thread after
  else s.move t thread (.closeCount conn after)

def closeCount (s : State) (t : Tid) (thread : Thread) (conn : Conn) (after : After) : State :=
  { s with openingConns := s.openingConns - 1 }.move t thread (.closeCall conn after)

/-- The call `c.close(conn)`: a nil function panics, and the deferred unlock
runs either way. -/
def closeCall (thread : Thread) (conn : Conn) (after : After) : State :=
  if s.closeCleared then { s with mu := none }.move t thread .panicked
  else { s with mu := none, closed := conn :: s.closed }.closeReturn t thread after

/-- The unlocked test `c.openingConns == 0` at the end of `Put`. -/
def readOpening (thread : Thread) : State :=
  if s.openingConns = 0 then s.move t thread .clearClose else s.finish t thread .ok

def clearClose (s : State) (t : Tid) (thread : Thread) : State :=
  { s with closeCleared := true }.finish t thread .ok

/-- `close(c.connReqs[i])` for every queued waiter. -/
def closeSlots (connReqs : List Tid) (threads : List Thread) : List Thread :=
  threads.mapIdx fun index (thread : Thread) =>
    if index ∈ connReqs then { thread with slot := .closed } else thread

/-- `Release` up to the drain: the queued channels and `conns` are closed. -/
def releaseStart (thread : Thread) : State :=
  { s with
    released := true
    factoryCleared := true
    connsClosed := true
    connReqs := []
    mu := some t
    threads := closeSlots s.connReqs s.threads
  }.move t thread .draining

def releaseLock (thread : Thread) : State :=
  if s.released then s.finish t thread .ok else s.releaseStart t thread

/-- One turn of the loop over the closed channel. -/
def drain (thread : Thread) : State :=
  match s.conns with
  | conn :: rest =>
    let received := { s with conns := rest, openingConns := s.openingConns - 1 }
    if s.closeCleared then { received with mu := none }.move t thread .panicked
    else { received with closed := conn :: s.closed }
  | [] => { s with mu := none }.finish t thread .ok

/-- A critical section starts only while the lock is free. -/
def locking (after : State) : Option State :=
  if s.mu = none then some after else none

def runThread (thread : Thread) (choice : Choice) : Option State :=
  match thread.pc, choice with
  | .getConns, .go => s.locking (s.getConns t thread)
  | .poll, .go => some (s.poll t thread)
  | .enroll, choice => if s.mu = none then s.enroll t thread choice else none
  | .waiting, .go => s.receive t thread
  | .waiting, .ctxDone => some (s.move t thread .cancelled)
  | .cancelled, .go => s.locking (s.cancel t thread)
  | .takeReq, .go => s.receive t thread
  | .putLock conn, .go => s.locking (s.put t thread conn)
  | .closeLock conn after, .go => s.locking (s.closeLock t thread conn after)
  | .closeCheck conn after, .go => some (s.closeCheck t thread conn after)
  | .closeCount conn after, .go => some (s.closeCount t thread conn after)
  | .closeCall conn after, .go => some (s.closeCall t thread conn after)
  | .readOpening, .go => some (s.readOpening t thread)
  | .clearClose, .go => some (s.clearClose t thread)
  | .releaseLock, .go => s.locking (s.releaseLock t thread)
  | .draining, .go => some (s.drain t thread)
  | _, _ => none

/-- A caller gives back or closes only a connection that a `Get` returned to it
and that it has not given back since. -/
def giveBack (conn : Conn) (pc : Pc) : Option State :=
  if conn ∈ s.held then
    let returned := { s with held := s.held.erase conn }
    some (returned.spawn pc)
  else none

def next : Label → Option State
  | .get => some (s.spawn .getConns)
  | .put none | .close none => some (s.spawn (.finished .errNil))
  | .put (some conn) => s.giveBack conn (.putLock conn)
  | .close (some conn) => s.giveBack conn (.closeLock conn .caller)
  | .release => some (s.spawn .releaseLock)
  | .run t choice =>
    match s.threads[t]? with
    | some thread => s.runThread t thread choice
    | none => none

end State

/-- The empty pool `NewConnectPool` allocates. -/
def emptyPool (config : Config) : State where
  maxActive := config.maxCap
  maxWait := config.maxWait
  conns := []
  connsClosed := false
  openingConns := 0
  connReqs := []
  released := false
  factoryCleared := false
  closeCleared := false
  mu := none
  created := 0
  held := []
  closed := []
  threads := []

/-- The ends of `NewConnectPool`: a refused configuration, a factory error
after which the pool was released, a pool, or a send that never returns
because `InitialCap` exceeds the channel's buffer. -/
inductive NewResult where
  | refused
  | failed (s : State)
  | pool (s : State)
  | blocked
deriving DecidableEq

/-- `Release` inside `NewConnectPool`, where no other thread has the pool. -/
def State.releaseIdle (s : State) : State :=
  { s with
    released := true
    factoryCleared := true
    connsClosed := true
    conns := []
    openingConns := s.openingConns - s.conns.length
    closed := s.conns.reverse ++ s.closed }

/-- `openingConns++` and `conns <- conn` of the creation loop. -/
def State.addIdle (s : State) : State :=
  { s with
    openingConns := s.openingConns + 1
    created := s.created + 1
    conns := s.conns ++ [s.created] }

/-- The creation loop over the factory's answers. -/
def fillPool (factory : Nat → Bool) : Nat → State → NewResult
  | 0, s => .pool s
  | remaining + 1, s =>
    if factory s.created then
      if s.conns.length < s.maxActive then fillPool factory remaining s.addIdle
      else .blocked
    else .failed s.releaseIdle

/-- `NewConnectPool` with a factory and a close function given. -/
def newConnectPool (config : Config) (factory : Nat → Bool) : NewResult :=
  if config.maxCap ≤ 0 then .refused
  else fillPool factory config.initialCap.toNat (emptyPool config)

/-- The pool of one configuration under every schedule of its callers. -/
def system (config : Config) : System State Label where
  initial s := ∃ factory, newConnectPool config factory = .pool s
  next := State.next

def goes (t : Tid) (count : Nat) : List Label := List.replicate count (.run t .go)

end TaosAdapter.ConnectPool
