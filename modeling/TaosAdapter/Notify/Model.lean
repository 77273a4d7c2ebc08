import TaosAdapter.Lib.Bytes
import TaosAdapter.Lib.Machine
import Mathlib.Logic.Function.Basic

/-!
Contract: the notifications of the client library, from the handle pools of
`db/tool/notify.go` and the callback of `driver/wrapper/notifycb.go` to those who
take handles: the pools of `db/commonpool/pool.go` and the `/ws` and TMQ sessions
(`controller/ws/ws/handler.go` and `query.go`, `controller/ws/tmq/tmq.go`).

Owns: the three handle pools with their one-place channels, the connections and
the handles registered for them, `getConnectorPoolSafe` with every exit of
`NewConnectorPool`, the goroutine, `Release` and the callers of a pool, the
functions of a session, and the callbacks. Any number of each run at once.

A step has one effect on the shared record (`Effect`); what a goroutine does next
is in `plan`. A notification is the connection it was raised for. Handles,
connections, pools and sessions are named by their positions in creation order; a
pool gets its name when it is asked for. `holder`, `started` and `history` are
ghosts.
-/

namespace TaosAdapter.Notify

open Lib

abbrev Handle := Nat

abbrev Conn := Nat

/-- What a handle is registered for. -/
inductive Kind where
  /-- `TAOS_NOTIFY_PASSVER` -/
  | changePass
  /-- `TAOS_NOTIFY_WHITELIST_VER` -/
  | whitelist
  /-- `TAOS_NOTIFY_USER_DROPPED` -/
  | dropUser
deriving DecidableEq

/-- Who takes handles: a `ConnectorPool`, or a session. -/
inductive Owner where
  | pool (pool : Nat)
  | session (session : Nat)
deriving DecidableEq

abbrev Handles := List (Kind × Handle)

/-- A `cgo.Handle` and the channel it stands for. -/
structure HandleEntry where
  kind : Kind
  channel : Option Conn
  /-- The handle was not deleted. -/
  valid : Bool
  /-- Who took it and has not given it back. -/
  holder : Option Owner
deriving DecidableEq

structure Connection where
  owner : Owner
  isOpen : Bool
  registered : Handles
deriving DecidableEq

/-- A `ConnectorPool` with its `ConnectPool`. -/
structure Pool where
  user : Bytes
  password : Bytes
  /-- `ctx` is done. -/
  cancelled : Bool
  /-- `released` of the `ConnectPool`. -/
  released : Bool
  /-- `conns` of the `ConnectPool`. -/
  idle : List Conn
  /-- Its goroutine was started. -/
  started : Bool
  /-- It was put into `connectionMap`. -/
  stored : Bool
deriving DecidableEq

structure Session where
  /-- Set by the constructor. -/
  handles : Option Handles
  conn : Option Conn
  closed : Bool
  /-- The channel `exit` is closed. -/
  exit : Bool
deriving DecidableEq

/-- `connectionLocker`, and the mutex of each session. -/
inductive LockKey where
  | connectionLocker
  | session (session : Nat)
deriving DecidableEq

inductive Event where
  /-- `GetRegister…Handle` returned the handle. -/
  | taken (owner : Owner) (kind : Kind) (handle : Handle)
  /-- `PutRegister…Handle`. -/
  | put (owner : Owner) (kind : Kind) (handle : Handle)
  | registered (owner : Owner) (kind : Kind) (handle : Handle) (conn : Conn)
  /-- A callback sent to the channel of the handle. -/
  | sent (handle : Handle) (conn : Conn)
  | received (owner : Owner) (kind : Kind) (conn : Conn)
  /-- A call of the client library with the connection. -/
  | called (owner : Owner) (conn : Conn)
  | closed (owner : Owner) (conn : Conn)
deriving DecidableEq

structure Shared where
  handles : List HandleEntry
  handlePool : Kind → List Handle
  conns : List Connection
  pools : List Pool
  sessions : List Session
  connectionMap : Bytes → Option Nat
  locks : LockKey → Option Nat
  history : List Event

def poolSize : Nat := 10000

namespace Shared

variable (shared : Shared)

def channel (handle : Handle) : Option Conn :=
  (shared.handles[handle]?).bind HandleEntry.channel

def isValid (handle : Handle) : Bool :=
  (shared.handles[handle]?).any HandleEntry.valid

/-- The handle the client library calls back with. -/
def registration (conn : Conn) (kind : Kind) : Option Handle :=
  (shared.conns[conn]?).bind fun entry =>
    if entry.isOpen then entry.registered.lookup kind else none

variable (pool : Nat)

def isCancelled : Bool :=
  (shared.pools[pool]?).any Pool.cancelled

def isReleased : Bool :=
  (shared.pools[pool]?).any Pool.released

def isStarted : Bool :=
  (shared.pools[pool]?).any Pool.started

def isStored : Bool :=
  (shared.pools[pool]?).any Pool.stored

def idle (pool : Nat) : List Conn :=
  ((shared.pools[pool]?).map Pool.idle).getD []

def verifyPassword (password : Bytes) : Bool :=
  (shared.pools[pool]?).any fun entry => password = entry.password

variable (session : Nat)

/-- The handles of a session whose constructor returned. -/
def sessionHandles : Option Handles :=
  (shared.sessions[session]?).bind Session.handles

def sessionConn : Option Conn :=
  (shared.sessions[session]?).bind Session.conn

def isClosed : Bool :=
  (shared.sessions[session]?).any Session.closed

def isExited : Bool :=
  (shared.sessions[session]?).any Session.exit

end Shared

/-- What one step does to the shared record. -/
inductive Effect where
  | skip
  -- the locks
  | lock (key : LockKey) (thread : Nat)
  | unlock (key : LockKey)
  -- the handles
  /-- A handle is received from its pool. -/
  | pop (kind : Kind)
  /-- `cgo.NewHandle`: the pool was empty. -/
  | fresh (owner : Owner) (kind : Kind)
  /-- The cleanup of the channel drops what is in it. -/
  | discard (handle : Handle)
  /-- The cleanup found the channel empty. -/
  | hold (owner : Owner) (kind : Kind) (handle : Handle)
  | give (owner : Owner) (kind : Kind) (handle : Handle)
  | send (handle : Handle) (conn : Conn)
  | receive (owner : Owner) (kind : Kind) (handle : Handle) (conn : Conn)
  -- the connections
  | connect (owner : Owner)
  | call (owner : Owner) (conn : Conn)
  | register (owner : Owner) (kind : Kind) (handle : Handle) (conn : Conn)
  | close (owner : Owner) (conn : Conn)
  -- the pools
  | newPool (user password : Bytes)
  | takeIdle (pool : Nat)
  | putIdle (pool : Nat) (conn : Conn)
  | closeIdle (pool : Nat) (conn : Conn)
  | start (pool : Nat)
  | store (user : Bytes) (pool : Nat)
  | cancel (pool : Nat)
  | forget (pool : Nat)
  | release (pool : Nat)
  -- the sessions
  | newSession
  | ready (session : Nat) (handles : Handles)
  | connected (session : Nat) (conn : Conn)
  | setClosed (session : Nat)
  | exit (session : Nat)
deriving DecidableEq

namespace Shared

variable (shared : Shared)

def log (event : Event) : Shared :=
  { shared with history := shared.history ++ [event] }

def modifyHandle (handle : Handle) (change : HandleEntry → HandleEntry) : Shared :=
  { shared with handles := shared.handles.modify handle change }

def modifyConn (conn : Conn) (change : Connection → Connection) : Shared :=
  { shared with conns := shared.conns.modify conn change }

def modifyPool (pool : Nat) (change : Pool → Pool) : Shared :=
  { shared with pools := shared.pools.modify pool change }

def modifySession (session : Nat) (change : Session → Session) : Shared :=
  { shared with sessions := shared.sessions.modify session change }

/-- The handle goes back to its pool, or is deleted if the pool is full. -/
def give (kind : Kind) (handle : Handle) : Shared :=
  let room : Bool := (shared.handlePool kind).length < poolSize
  { shared with
    handles := shared.handles.modify handle fun entry =>
      { entry with holder := none, valid := entry.valid && room }
    handlePool :=
      if room then
        Function.update shared.handlePool kind (shared.handlePool kind ++ [handle])
      else shared.handlePool }

/-- The map forgets a pool only if it still names it. -/
def forget (pool : Nat) : Shared :=
  { shared with
    connectionMap :=
      match shared.pools[pool]? with
      | some entry =>
        if shared.connectionMap entry.user = some pool then
          Function.update shared.connectionMap entry.user none
        else shared.connectionMap
      | none => shared.connectionMap }

def closeConn (owner : Owner) (conn : Conn) : Shared :=
  (shared.modifyConn conn fun entry => { entry with isOpen := false }).log (.closed owner conn)

def apply : Effect → Shared
  | .skip => shared
  | .lock key thread =>
    { shared with locks := Function.update shared.locks key (some thread) }
  | .unlock key => { shared with locks := Function.update shared.locks key none }
  | .pop kind =>
    { shared with
      handlePool := Function.update shared.handlePool kind (shared.handlePool kind).tail }
  | .fresh owner kind =>
    ({ shared with handles := shared.handles ++ [⟨kind, none, true, some owner⟩] } : Shared).log
      (.taken owner kind shared.handles.length)
  | .discard handle => shared.modifyHandle handle fun entry => { entry with channel := none }
  | .hold owner kind handle =>
    (shared.modifyHandle handle fun entry => { entry with holder := some owner }).log
      (.taken owner kind handle)
  | .give owner kind handle => (shared.give kind handle).log (.put owner kind handle)
  | .send handle conn =>
    (shared.modifyHandle handle fun entry => { entry with channel := some conn }).log
      (.sent handle conn)
  | .receive owner kind handle conn =>
    (shared.modifyHandle handle fun entry => { entry with channel := none }).log
      (.received owner kind conn)
  | .connect owner => { shared with conns := shared.conns ++ [⟨owner, true, []⟩] }
  | .call owner conn => shared.log (.called owner conn)
  | .register owner kind handle conn =>
    ((shared.modifyConn conn fun entry =>
        { entry with registered := (kind, handle) :: entry.registered }).log
      (.called owner conn)).log (.registered owner kind handle conn)
  | .close owner conn => shared.closeConn owner conn
  | .newPool user password =>
    { shared with pools := shared.pools ++ [⟨user, password, false, false, [], false, false⟩] }
  | .takeIdle pool => shared.modifyPool pool fun entry => { entry with idle := entry.idle.tail }
  | .putIdle pool conn =>
    shared.modifyPool pool fun entry => { entry with idle := entry.idle ++ [conn] }
  | .closeIdle pool conn =>
    (shared.modifyPool pool fun entry => { entry with idle := entry.idle.tail }).closeConn
      (.pool pool) conn
  | .start pool => shared.modifyPool pool fun entry => { entry with started := true }
  | .store user pool =>
    { shared.modifyPool pool fun entry => { entry with stored := true } with
      connectionMap := Function.update shared.connectionMap user (some pool) }
  | .cancel pool => shared.modifyPool pool fun entry => { entry with cancelled := true }
  | .forget pool => shared.forget pool
  | .release pool => shared.modifyPool pool fun entry => { entry with released := true }
  | .newSession =>
    { shared with sessions := shared.sessions ++ [⟨none, none, false, false⟩] }
  | .ready session handles =>
    shared.modifySession session fun entry => { entry with handles := some handles }
  | .connected session conn =>
    shared.modifySession session fun entry => { entry with conn := some conn }
  | .setClosed session => shared.modifySession session fun entry => { entry with closed := true }
  | .exit session => shared.modifySession session fun entry => { entry with exit := true }

end Shared

/-- The calls of `GetRegister…Handle` at the start of a constructor. -/
inductive Acquire where
  | next (rest : List Kind) (handles : Handles)
  /-- The cleanup of the channel of a handle that came from its pool. -/
  | drain (kind : Kind) (handle : Handle) (rest : List Kind) (handles : Handles)
deriving DecidableEq

def poolKinds : List Kind := [.changePass, .whitelist, .dropUser]

def sessionKinds : List Kind := [.whitelist, .dropUser]

def acquire (shared : Shared) (owner : Owner) : Acquire → Option (Effect × Acquire)
  | .next [] _ => none
  | .next (kind :: rest) handles =>
    match shared.handlePool kind with
    | handle :: _ => some (.pop kind, .drain kind handle rest handles)
    | [] => some (.fresh owner kind, .next rest (handles ++ [(kind, shared.handles.length)]))
  | .drain kind handle rest handles =>
    match shared.channel handle with
    | some _ => some (.discard handle, .drain kind handle rest handles)
    | none => some (.hold owner kind handle, .next rest (handles ++ [(kind, handle)]))

/-- What is done with a new connection before it is used. -/
inductive Setup where
  | register (kind : Kind)
  | getWhitelist
  /-- `TaosSetConnMode` and `TaosOptionsConnection`. -/
  | setOptions
deriving DecidableEq

def poolSetup : List Setup :=
  [.register .changePass, .register .dropUser, .getWhitelist, .register .whitelist]

def sessionSetup : List Setup :=
  [.getWhitelist, .register .whitelist, .register .dropUser, .setOptions]

def Setup.effect (owner : Owner) (handles : Handles) (conn : Conn) : Setup → Effect
  | .register kind =>
    match handles.lookup kind with
    | some handle => .register owner kind handle conn
    | none => .call owner conn
  | .getWhitelist | .setOptions => .call owner conn

/-- Where `Release` of a `ConnectorPool` is. -/
inductive Release where
  | cancel
  | forget
  /-- `Release` of the `ConnectPool`. -/
  | close
  | idle
deriving DecidableEq

def release (shared : Shared) (pool : Nat) : Release → Effect × Option Release
  -- `once.Do`; every caller has `connectionLocker`.
  | .cancel => if shared.isCancelled pool then (.skip, none) else (.cancel pool, some .forget)
  | .forget => (.forget pool, some .close)
  | .close => if shared.isReleased pool then (.skip, none) else (.release pool, some .idle)
  | .idle =>
    match shared.idle pool with
    | conn :: _ => (.closeIdle pool conn, some .idle)
    | [] => (.skip, none)

/-- Where `Close` of a session is. -/
inductive Closing where
  | lock
  | check
  | conn
  | exit
  | unlock
deriving DecidableEq

def closing (shared : Shared) (t session : Nat) : Closing → Option (Effect × Option Closing)
  | .lock =>
    if shared.locks (.session session) = none then some (.lock (.session session) t, some .check)
    else none
  | .check =>
    if shared.isClosed session then some (.skip, some .unlock)
    else some (.setClosed session, some .conn)
  | .conn =>
    match shared.sessionConn session with
    | some conn => some (.close (.session session) conn, some .exit)
    | none => some (.skip, some .exit)
  | .exit => some (.exit session, some .unlock)
  | .unlock => some (.unlock (.session session), none)

/-- `getConnectorPoolSafe` and `NewConnectorPool`, with the pool that is to be
replaced. -/
inductive CreatePc where
  | lock
  | load
  | acquire (old : Option Nat) (acquire : Acquire)
  /-- `NewConnectPool`, and the `Get` of its first connection. -/
  | connect (old : Option Nat) (handles : Handles)
  | setup (old : Option Nat) (handles : Handles) (v : Conn) (rest : List Setup)
  | start (old : Option Nat) (handles : Handles) (v : Conn)
  | release (old : Nat) (stage : Release)
  | store
  /-- `Put`, `Release` and `putHandle` of an exit with an error. -/
  | abort (handles : Handles) (v : Conn)
  | drop (handles : Handles) (stage : Release)
  | put (handles : Handles)
  | unlock
  | done
deriving DecidableEq

/-- The goroutine `NewConnectorPool` starts. -/
inductive WatchPc where
  | waiting
  /-- `GetWhitelist(v)`. -/
  | refresh
  | lock
  | release (stage : Release)
  | unlock
  | put (handles : Handles)
deriving DecidableEq

/-- `getConnectDirect`, the use of the connection, and `Put`. -/
inductive CallerPc where
  | get
  | setIP (conn : Conn)
  | use (conn : Conn)
  | clear (conn : Conn)
  | put (conn : Conn)
  | done
deriving DecidableEq

/-- `connect` of a `/ws` session, `subscribe` of a TMQ session. -/
inductive ConnectPc where
  | lock
  | check
  | connect
  | setup (handles : Handles) (conn : Conn) (rest : List Setup)
  | close (conn : Conn)
  | unlock
  | done
deriving DecidableEq

inductive WaitPc where
  | waiting
  | lock (kind : Kind)
  | check (kind : Kind)
  | refresh
  /-- Back to the select. -/
  | resume
  /-- The session was closed meanwhile. -/
  | leave
  | signalExit
  | closing (stage : Closing)
  | put (handles : Handles)
deriving DecidableEq

/-- `NotifyCallback`. -/
inductive CallbackPc where
  | value
  | send
  | done
deriving DecidableEq

inductive Thread where
  /-- Where requests, sessions and notifications come from. -/
  | clients
  | create (pool : Nat) (user password : Bytes) (pc : CreatePc)
  | watch (pool : Nat) (v : Conn) (handles : Handles) (pc : WatchPc)
  | caller (pool : Nat) (pc : CallerPc)
  /-- The constructor of a session; `none` when it has returned. -/
  | newSession (session : Nat) (acquire : Option Acquire)
  | connect (session : Nat) (pc : ConnectPc)
  /-- `Close`; `none` when it has returned. -/
  | close (session : Nat) (stage : Option Closing)
  | waitSignal (session : Nat) (handles : Handles) (pc : WaitPc)
  | callback (handle : Handle) (conn : Conn) (pc : CallbackPc)
deriving DecidableEq

inductive Choice where
  | go
  /-- The call of the client library fails. -/
  | fail
  /-- `Get` opens a new connection. -/
  | new
  | request (user password : Bytes)
  | call (pool : Nat)
  | session
  | connect (session : Nat)
  | close (session : Nat)
  | raise (conn : Conn) (kind : Kind)
  /-- The select takes a notification. -/
  | receive (kind : Kind)
  /-- The select takes the end of the context or of the session. -/
  | finish
deriving DecidableEq

structure Plan where
  effect : Effect
  thread : Thread
  spawned : List Thread := []

section

variable (shared : Shared) (t : Nat)

def planClients : Choice → Option Plan
  | .request user password =>
    some ⟨.newPool user password, .clients, [.create shared.pools.length user password .lock]⟩
  | .call pool =>
    if shared.isStored pool then some ⟨.skip, .clients, [.caller pool .get]⟩ else none
  | .session =>
    some ⟨.newSession, .clients,
      [.newSession shared.sessions.length (some (.next sessionKinds []))]⟩
  | .connect session =>
    if (shared.sessionHandles session).isSome then
      some ⟨.skip, .clients, [.connect session .lock]⟩
    else none
  | .close session =>
    if (shared.sessionHandles session).isSome then
      some ⟨.skip, .clients, [.close session (some .lock)]⟩
    else none
  | .raise conn kind =>
    match shared.registration conn kind with
    | some handle => some ⟨.skip, .clients, [.callback handle conn .value]⟩
    | none => none
  | _ => none

def planCreate (pool : Nat) (user password : Bytes) : CreatePc → Choice → Option Plan
  | .lock, .go =>
    if shared.locks .connectionLocker = none then
      some ⟨.lock .connectionLocker t, .create pool user password .load, []⟩
    else none
  | .load, .go =>
    match shared.connectionMap user with
    | some old =>
      if shared.verifyPassword old password then
        some ⟨.skip, .create pool user password .unlock, []⟩
      else
        some ⟨.skip, .create pool user password (.acquire (some old) (.next poolKinds [])), []⟩
    | none =>
      some ⟨.skip, .create pool user password (.acquire none (.next poolKinds [])), []⟩
  | .acquire old (.next [] handles), .go =>
    some ⟨.skip, .create pool user password (.connect old handles), []⟩
  | .acquire old stage, .go =>
    (acquire shared (.pool pool) stage).map fun (effect, next) =>
      ⟨effect, .create pool user password (.acquire old next), []⟩
  | .connect old handles, .go =>
    some ⟨.connect (.pool pool),
      .create pool user password (.setup old handles shared.conns.length poolSetup), []⟩
  -- No `putHandle` on this exit.
  | .connect _ _, .fail => some ⟨.skip, .create pool user password .unlock, []⟩
  | .setup old handles v [], .go =>
    some ⟨.putIdle pool v, .create pool user password (.start old handles v), []⟩
  | .setup old handles v (action :: rest), .go =>
    some ⟨action.effect (.pool pool) handles v,
      .create pool user password (.setup old handles v rest), []⟩
  | .setup _ handles v (_ :: _), .fail =>
    some ⟨.call (.pool pool) v, .create pool user password (.abort handles v), []⟩
  | .start old handles v, .go =>
    some ⟨.start pool,
      .create pool user password
        (match old with
        | some old => .release old .cancel
        | none => .store),
      [.watch pool v handles .waiting]⟩
  | .release old stage, .go =>
    let (effect, next) := release shared old stage
    some ⟨effect, .create pool user password
      (match next with
      | some next => .release old next
      | none => .store), []⟩
  | .store, .go => some ⟨.store user pool, .create pool user password .unlock, []⟩
  | .abort handles v, .go =>
    some ⟨.putIdle pool v, .create pool user password (.drop handles .close), []⟩
  | .drop handles stage, .go =>
    let (effect, next) := release shared pool stage
    some ⟨effect, .create pool user password
      (match next with
      | some next => .drop handles next
      | none => .put handles), []⟩
  | .put ((kind, handle) :: rest), .go =>
    some ⟨.give (.pool pool) kind handle, .create pool user password (.put rest), []⟩
  | .put [], .go => some ⟨.skip, .create pool user password .unlock, []⟩
  | .unlock, .go => some ⟨.unlock .connectionLocker, .create pool user password .done, []⟩
  | _, _ => none

def planWatch (pool : Nat) (v : Conn) (handles : Handles) : WatchPc → Choice → Option Plan
  | .waiting, .receive kind =>
    match handles.lookup kind with
    | some handle =>
      (shared.channel handle).map fun conn =>
        ⟨.receive (.pool pool) kind handle conn,
          .watch pool v handles (if kind = .whitelist then .refresh else .lock), []⟩
    | none => none
  | .waiting, .finish =>
    if shared.isCancelled pool then some ⟨.skip, .watch pool v handles (.put handles), []⟩
    else none
  | .refresh, .go => some ⟨.call (.pool pool) v, .watch pool v handles .waiting, []⟩
  | .refresh, .fail => some ⟨.call (.pool pool) v, .watch pool v handles .lock, []⟩
  | .lock, .go =>
    if shared.locks .connectionLocker = none then
      some ⟨.lock .connectionLocker t, .watch pool v handles (.release .cancel), []⟩
    else none
  | .release stage, .go =>
    let (effect, next) := release shared pool stage
    some ⟨effect, .watch pool v handles
      (match next with
      | some next => .release next
      | none => .unlock), []⟩
  | .unlock, .go => some ⟨.unlock .connectionLocker, .watch pool v handles (.put handles), []⟩
  | .put ((kind, handle) :: rest), .go =>
    some ⟨.give (.pool pool) kind handle, .watch pool v handles (.put rest), []⟩
  | _, _ => none

def planCaller (pool : Nat) : CallerPc → Choice → Option Plan
  | .get, .go =>
    if shared.isReleased pool then some ⟨.skip, .caller pool .done, []⟩
    else
      match shared.idle pool with
      | conn :: _ => some ⟨.takeIdle pool, .caller pool (.setIP conn), []⟩
      | [] => none
  | .get, .new =>
    if shared.isReleased pool = false ∧ shared.idle pool = [] then
      some ⟨.connect (.pool pool), .caller pool (.setIP shared.conns.length), []⟩
    else none
  | .get, .fail => some ⟨.skip, .caller pool .done, []⟩
  | .setIP conn, .go => some ⟨.call (.pool pool) conn, .caller pool (.use conn), []⟩
  -- `TaosResetCurrentDB`, then `TaosOptionsConnection`
  | .use conn, .go => some ⟨.call (.pool pool) conn, .caller pool (.clear conn), []⟩
  | .clear conn, .go => some ⟨.call (.pool pool) conn, .caller pool (.put conn), []⟩
  | .put conn, .go =>
    if shared.isReleased pool then some ⟨.close (.pool pool) conn, .caller pool .done, []⟩
    else some ⟨.putIdle pool conn, .caller pool .done, []⟩
  | _, _ => none

variable (session : Nat)

def planNewSession : Option Acquire → Choice → Option Plan
  | some (.next [] handles), .go =>
    some ⟨.ready session handles, .newSession session none, []⟩
  | some stage, .go =>
    (acquire shared (.session session) stage).map fun (effect, next) =>
      ⟨effect, .newSession session (some next), []⟩
  | _, _ => none

def planConnect : ConnectPc → Choice → Option Plan
  | .lock, .go =>
    if shared.locks (.session session) = none then
      some ⟨.lock (.session session) t, .connect session .check, []⟩
    else none
  | .check, .go =>
    if shared.isClosed session || (shared.sessionConn session).isSome then
      some ⟨.skip, .connect session .unlock, []⟩
    else some ⟨.skip, .connect session .connect, []⟩
  | .connect, .go =>
    (shared.sessionHandles session).map fun handles =>
      ⟨.connect (.session session),
        .connect session (.setup handles shared.conns.length sessionSetup), []⟩
  | .connect, .fail => some ⟨.skip, .connect session .unlock, []⟩
  | .setup handles conn [], .go =>
    some ⟨.connected session conn, .connect session .unlock,
      [.waitSignal session handles .waiting]⟩
  | .setup handles conn (action :: rest), .go =>
    some ⟨action.effect (.session session) handles conn,
      .connect session (.setup handles conn rest), []⟩
  | .setup _ conn (_ :: _), .fail =>
    some ⟨.call (.session session) conn, .connect session (.close conn), []⟩
  | .close conn, .go => some ⟨.close (.session session) conn, .connect session .unlock, []⟩
  | .unlock, .go => some ⟨.unlock (.session session), .connect session .done, []⟩
  | _, _ => none

def planClose : Option Closing → Choice → Option Plan
  | some stage, .go =>
    (closing shared t session stage).map fun (effect, next) =>
      ⟨effect, .close session next, []⟩
  | _, _ => none

def planWaitSignal (handles : Handles) : WaitPc → Choice → Option Plan
  | .waiting, .receive kind =>
    match handles.lookup kind with
    | some handle =>
      (shared.channel handle).map fun conn =>
        ⟨.receive (.session session) kind handle conn,
          .waitSignal session handles (.lock kind), []⟩
    | none => none
  | .waiting, .finish =>
    if shared.isExited session then
      some ⟨.skip, .waitSignal session handles (.put handles), []⟩
    else none
  | .lock kind, .go =>
    if shared.locks (.session session) = none then
      some ⟨.lock (.session session) t, .waitSignal session handles (.check kind), []⟩
    else none
  | .check kind, .go =>
    if shared.isClosed session then some ⟨.skip, .waitSignal session handles .leave, []⟩
    else
      some ⟨.skip,
        .waitSignal session handles (if kind = .whitelist then .refresh else .signalExit), []⟩
  | .refresh, .go =>
    (shared.sessionConn session).map fun conn =>
      ⟨.call (.session session) conn, .waitSignal session handles .resume, []⟩
  -- An error, or the address is no longer on the whitelist.
  | .refresh, .fail =>
    (shared.sessionConn session).map fun conn =>
      ⟨.call (.session session) conn, .waitSignal session handles .signalExit, []⟩
  | .resume, .go => some ⟨.unlock (.session session), .waitSignal session handles .waiting, []⟩
  | .leave, .go => some ⟨.unlock (.session session), .waitSignal session handles (.put handles), []⟩
  | .signalExit, .go =>
    some ⟨.unlock (.session session), .waitSignal session handles (.closing .lock), []⟩
  | .closing stage, .go =>
    (closing shared t session stage).map fun (effect, next) =>
      ⟨effect, .waitSignal session handles
        (match next with
        | some next => .closing next
        | none => .put handles), []⟩
  | .put ((kind, handle) :: rest), .go =>
    some ⟨.give (.session session) kind handle, .waitSignal session handles (.put rest), []⟩
  | _, _ => none

def planCallback (handle : Handle) (conn : Conn) : CallbackPc → Choice → Option Plan
  | .value, .go =>
    if shared.isValid handle then some ⟨.skip, .callback handle conn .send, []⟩
    -- `Value` panics, which is recovered.
    else some ⟨.skip, .callback handle conn .done, []⟩
  | .send, .go =>
    if shared.channel handle = none then
      some ⟨.send handle conn, .callback handle conn .done, []⟩
    else none
  | _, _ => none

def plan (thread : Thread) (choice : Choice) : Option Plan :=
  match thread with
  | .clients => planClients shared choice
  | .create pool user password pc => planCreate shared t pool user password pc choice
  | .watch pool v handles pc => planWatch shared t pool v handles pc choice
  | .caller pool pc => planCaller shared pool pc choice
  | .newSession session stage => planNewSession shared session stage choice
  | .connect session pc => planConnect shared t session pc choice
  | .close session stage => planClose shared t session stage choice
  | .waitSignal session handles pc => planWaitSignal shared t session handles pc choice
  | .callback handle conn pc => planCallback shared handle conn pc choice

end

abbrev State := Snapshot Shared Thread

def advance (s : State) (t : Nat) (thread : Thread) (choice : Choice) :
    Option (Move Shared Thread) :=
  (plan s.shared t thread choice).map fun plan =>
    ⟨s.shared.apply plan.effect, plan.thread, plan.spawned⟩

def empty : State where
  shared := ⟨[], fun _ => [], [], [], [], fun _ => none, fun _ => none, []⟩
  threads := [.clients]

def machine : Machine Shared Thread Choice where
  initial s := s = empty
  advance := advance

def goes (t count : Nat) : List (Nat × Choice) := List.replicate count (t, .go)

end TaosAdapter.Notify
