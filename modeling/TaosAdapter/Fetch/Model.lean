import TaosAdapter.Lib.Machine

/-!
Contract: the requests `fetch`, `fetch_raw_block` and `free_result` of the `/ws`
controller, from `controller/ws/ws/fetch.go`, `controller/ws/ws/free.go`,
`controller/ws/ws/query_result.go` and `db/async/handlerpool.go`.

Owns: the locks of the query results, the reader-writer lock of each session's
result list, the pool of asynchronous handlers with its queue of requests, and
what each request answers. Any number of sessions share one pool.

A lock is held by the goroutines between its `Lock` and its `Unlock`, so whether
it is free is read off the program counters. A writer of the list lock first
shuts out other writers and new readers, then waits for the readers inside, as
`sync.RWMutex` does.
-/

namespace TaosAdapter.Fetch

open Lib

/-- The address of a query result. -/
abbrev Item := Nat

abbrev Handler := Nat

inductive Request where
  | fetch (session id : Nat)
  | fetchRawBlock (session id : Nat) (message : List UInt8)
  | freeResult (session id : Nat)
deriving DecidableEq

def Request.session : Request → Nat
  | .fetch session _ | .fetchRawBlock session _ _ | .freeResult session _ => session

def Request.id : Request → Nat
  | .fetch _ id | .fetchRawBlock _ id _ | .freeResult _ id => id

inductive Response where
  | error (code : Int) (message : String)
  /-- The fetch is completed. -/
  | completed
  /-- `fetch` found a block of so many rows. -/
  | rows (n : Int)
  /-- `fetch_raw_block` sends a block of so many bytes. -/
  | block (length : Int)
deriving DecidableEq

structure QueryResult where
  session : Nat
  index : Nat
  /-- `TaosResult` is not nil. -/
  taosResult : Bool
  inStmt : Bool
  /-- The result is in its session's list. -/
  listed : Bool
deriving DecidableEq

/-- What a request still has to do after `FreeResultByID`: write its answer and
give its handler back. -/
structure Exit where
  handler : Option Handler
  response : Option Response
deriving DecidableEq

inductive Pc where
  | arrived
  /-- `queryResults.Get` waits for the read lock of the list. -/
  | get
  /-- Inside `Get`, with the read lock. -/
  | lookup
  /-- `item.Lock()` -/
  | lockItem (item : Item)
  /-- `item.TaosResult == nil`, with the result locked from here on. -/
  | check (item : Item)
  /-- `HandlerPool.Get` -/
  | select (item : Item)
  | enqueue (item : Item)
  | pushBack (item : Item)
  /-- `ret := <-req` -/
  | await (item : Item)
  /-- `TaosFetchRawBlockA` -/
  | fetching (item : Item) (handler : Handler)
  /-- The client has answered; the result is still locked. -/
  | fetched (item : Item) (handler : Handler) (n : Int)
  /-- `FreeResultByID` waits for the other writers of the list. -/
  | freeLock (exit : Exit)
  /-- It waits for the readers of the list. -/
  | freeDrain (exit : Exit)
  /-- It walks the list. -/
  | freeSearch (exit : Exit)
  /-- `r.Lock()` in `free`. -/
  | freeItem (item : Item) (exit : Exit)
  | freeing (item : Item) (exit : Exit)
  /-- `h.results.Remove(node)` -/
  | remove (item : Item) (exit : Exit)
  | respond (exit : Exit)
  /-- `HandlerPool.Put`, deferred. -/
  | put (handler : Handler)
  | putLocked (handler : Handler)
  | done
deriving DecidableEq

structure Thread where
  request : Request
  pc : Pc
deriving DecidableEq

structure Shared where
  results : List QueryResult
  /-- The results given to `taos_free_result`. -/
  freed : List Item
  /-- The channel of idle handlers. -/
  handlers : List Handler
  /-- The queued requests for a handler, by the goroutine that waits. -/
  reqList : List Nat
  /-- The handlers in the request channels. -/
  delivered : List (Nat × Handler)
  /-- The answers written to the sessions. -/
  responses : List (Nat × Response)
deriving DecidableEq

abbrev State := Snapshot Shared Thread

/-- What the client answers: the number of rows or an error code, the error
text, and the length of the block. -/
structure Choice where
  n : Int := 0
  errStr : String := ""
  blockLength : Int := 0
deriving DecidableEq

inductive Lock where
  /-- `HandlerPool.mu` -/
  | mu
  /-- The write lock of a session's result list. -/
  | list (session : Nat)
  /-- The lock of a query result. -/
  | item (item : Item)
deriving DecidableEq

def Pc.holdsMu : Pc → Bool
  | .pushBack _ | .putLocked _ => true
  | _ => false

def Pc.holdsList : Pc → Bool
  | .freeDrain _ | .freeSearch _ | .freeItem _ _ | .freeing _ _ | .remove _ _ => true
  | _ => false

def Pc.lockedItem : Pc → Option Item
  | .check item | .select item | .enqueue item | .pushBack item | .await item
  | .fetching item _ | .fetched item _ _ | .freeing item _ => some item
  | _ => none

def Thread.holds (thread : Thread) : Lock → Bool
  | .mu => thread.pc.holdsMu
  | .list session => thread.pc.holdsList && thread.request.session == session
  | .item item => thread.pc.lockedItem == some item

/-- The goroutine reads the list of the session. -/
def Thread.reads (thread : Thread) (session : Nat) : Bool :=
  thread.pc == .lookup && thread.request.session == session

variable (s : State)

def free (lock : Lock) : Bool :=
  s.threads.all fun thread => !thread.holds lock

def unread (session : Nat) : Bool :=
  s.threads.all fun thread => !thread.reads session

/-- `commonErrorResponse` and `fetchRawBlockErrorResponse` send `code & 0xffff`. -/
def errorResponse (code : Int) (message : String) : Response :=
  .error (code % 0x10000) message

/-- The version field of a `fetch_raw_block` message, at offset 24. -/
def version (message : List UInt8) : Nat :=
  (message.getD 24 0).toNat + 256 * (message.getD 25 0).toNat

/-- The checks of a request before it looks at its result. -/
def Request.start : Request → Pc
  | .fetch _ _ => .get
  | .fetchRawBlock _ _ message =>
    if message.length < 26 then
      .respond ⟨none, some (errorResponse 0xffff "message length is too short")⟩
    else if version message ≠ 1 then
      .respond ⟨none, some (errorResponse 0xffff "unknown fetch raw block version")⟩
    else .get
  | .freeResult _ _ => .freeLock ⟨none, none⟩

/-- The walk over the list in `Get` and in `FreeResultByID`. -/
def find (results : List QueryResult) (session index : Nat) : Option Item :=
  results.findIdx? fun result =>
    result.listed && result.session == session && result.index == index

/-- What a request answers to a block of `n > 0` rows. -/
def Request.blockResponse (request : Request) (n : Int) (choice : Choice) : Response :=
  match request with
  | .fetchRawBlock _ _ _ =>
    if choice.blockLength ≤ 0 then errorResponse 0xffff "block length illegal"
    else .block choice.blockLength
  | _ => .rows n

/-- After the client's answer, with the result unlocked again. -/
def Request.afterFetch (request : Request) (handler : Handler) (n : Int) (choice : Choice) : Pc :=
  if n = 0 then .freeLock ⟨some handler, some .completed⟩
  else if n < 0 then .freeLock ⟨some handler, some (errorResponse n choice.errStr)⟩
  else .respond ⟨some handler, some (request.blockResponse n choice)⟩

def Shared.free (shared : Shared) (item : Item) (result : QueryResult) : Shared :=
  if result.taosResult = false then shared
  else
    { shared with
      results := shared.results.set item { result with taosResult := false }
      freed := if result.inStmt then shared.freed else shared.freed ++ [item] }

def Shared.remove (shared : Shared) (item : Item) (result : QueryResult) : Shared :=
  { shared with results := shared.results.set item { result with listed := false } }

variable (count : Nat)

/-- `HandlerPool.Put` with the mutex: the first request in the queue gets the
handler, otherwise it goes to the channel, which has room for `count`. -/
def Shared.put (shared : Shared) (handler : Handler) : Option Shared :=
  match shared.reqList with
  | first :: rest =>
    some { shared with
      reqList := rest
      delivered := shared.delivered ++ [(first, handler)] }
  | [] =>
    if shared.handlers.length < count then
      some { shared with handlers := shared.handlers ++ [handler] }
    else none

def Shared.write (shared : Shared) (t : Nat) : Option Response → Shared
  | some response => { shared with responses := shared.responses ++ [(t, response)] }
  | none => shared

/-- After the answer the deferred `Put` runs, if there is a handler. -/
def Exit.last (exit : Exit) : Pc :=
  match exit.handler with
  | some handler => .put handler
  | none => .done

def advanceResult (thread : Thread) : Option (Shared × Pc) :=
  match thread.pc with
  | .arrived => some (s.shared, thread.request.start)
  | .get =>
    if free s (.list thread.request.session) then some (s.shared, .lookup) else none
  | .lookup =>
    match find s.shared.results thread.request.session thread.request.id with
    | some item => some (s.shared, .lockItem item)
    | none => some (s.shared, .respond ⟨none, some (errorResponse 0xffff "result is nil")⟩)
  | .lockItem item => if free s (.item item) then some (s.shared, .check item) else none
  | .check item =>
    match s.shared.results[item]? with
    | some result =>
      if result.taosResult then some (s.shared, .select item)
      else some (s.shared, .respond ⟨none, some (errorResponse 0xffff "result has been freed")⟩)
    | none => none
  | _ => none

def advanceFetch (t : Nat) (thread : Thread) (choice : Choice) : Option (Shared × Pc) :=
  match thread.pc with
  | .select item =>
    match s.shared.handlers with
    | handler :: rest => some ({ s.shared with handlers := rest }, .fetching item handler)
    | [] => some (s.shared, .enqueue item)
  | .enqueue item => if free s .mu then some (s.shared, .pushBack item) else none
  | .pushBack item =>
    some ({ s.shared with reqList := s.shared.reqList ++ [t] }, .await item)
  | .await item =>
    match s.shared.delivered.find? fun entry => entry.1 == t with
    | some entry =>
      some ({ s.shared with delivered := s.shared.delivered.erase entry },
        .fetching item entry.2)
    | none => none
  | .fetching item handler => some (s.shared, .fetched item handler choice.n)
  | .fetched _ handler n => some (s.shared, thread.request.afterFetch handler n choice)
  | _ => none

def advanceFree (thread : Thread) : Option (Shared × Pc) :=
  match thread.pc with
  | .freeLock exit =>
    if free s (.list thread.request.session) then some (s.shared, .freeDrain exit) else none
  | .freeDrain exit =>
    if unread s thread.request.session then some (s.shared, .freeSearch exit) else none
  | .freeSearch exit =>
    match find s.shared.results thread.request.session thread.request.id with
    | some item => some (s.shared, .freeItem item exit)
    | none => some (s.shared, .respond exit)
  | .freeItem item exit =>
    if free s (.item item) then some (s.shared, .freeing item exit) else none
  | .freeing item exit =>
    (s.shared.results[item]?).map fun result => (s.shared.free item result, .remove item exit)
  | .remove item exit =>
    (s.shared.results[item]?).map fun result => (s.shared.remove item result, .respond exit)
  | _ => none

def advanceExit (s : State) (t : Nat) (thread : Thread) : Option (Shared × Pc) :=
  match thread.pc with
  | .respond exit => some (s.shared.write t exit.response, exit.last)
  | .put handler => if free s .mu then some (s.shared, .putLocked handler) else none
  | .putLocked handler => (s.shared.put count handler).map fun shared => (shared, .done)
  | _ => none

def advancePc (s : State) (t : Nat) (thread : Thread) (choice : Choice) : Option (Shared × Pc) :=
  match thread.pc with
  | .arrived | .get | .lookup | .lockItem _ | .check _ => advanceResult s thread
  | .select _ | .enqueue _ | .pushBack _ | .await _ | .fetching _ _ | .fetched _ _ _ =>
    advanceFetch s t thread choice
  | .freeLock _ | .freeDrain _ | .freeSearch _ | .freeItem _ _ | .freeing _ _ | .remove _ _ =>
    advanceFree s thread
  | .respond _ | .put _ | .putLocked _ => advanceExit count s t thread
  | .done => none

def advance (s : State) (t : Nat) (thread : Thread) (choice : Choice) :
    Option (Move Shared Thread) :=
  (advancePc count s t thread choice).map fun step => ⟨step.1, ⟨thread.request, step.2⟩, []⟩

/-- `NewHandlerPool(count)` and any results and requests: the requests that come
later are the ones that have not moved yet. -/
structure Initial (count : Nat) (s : State) : Prop where
  handlers : s.shared.handlers = List.range count
  reqList : s.shared.reqList = []
  delivered : s.shared.delivered = []
  arrived : ∀ thread ∈ s.threads, thread.pc = .arrived

def machine : Machine Shared Thread Choice where
  initial := Initial count
  advance := advance count

end TaosAdapter.Fetch
