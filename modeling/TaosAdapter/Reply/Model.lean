import TaosAdapter.Lib.Machine
import Mathlib.Logic.Function.Basic

/-!
Contract: the responses of one websocket connection as memory, from
`controller/ws/ws/fetch.go`, `controller/ws/ws/resp.go`, `controller/ws/tmq/tmq.go`
and `tools/melody/session.go`.

Owns: the buffers by identity, the slice each result and each TMQ message keeps
for its responses, the goroutines of the requests with every access to that
slice, the output channel of references, and the write pump, which copies the
bytes of a message in pieces.

A response is built in the slice of its result or message, which is reused when
it has the capacity. An answer from memory of its own (JSON, errors, the end of
a result) is any byte string.
-/

namespace TaosAdapter.Reply

open Lib

/-- A part of a buffer, from its start. The nil slice is the empty part of
buffer 0, which has no capacity. -/
structure Slice where
  buffer : Nat
  length : Nat
deriving DecidableEq

/-- A result of `/ws`, or the message of `/rest/tmq`. -/
inductive Key where
  | result (id : Nat)
  | message
deriving DecidableEq

/-- `QueryResult` and `Message`. -/
structure Item where
  lock : Option Nat
  /-- The result is in the list. -/
  listed : Bool
  /-- `TaosResult` or `CPointer` is not nil. -/
  live : Bool
  /-- `Index` of the message. -/
  index : Nat
  /-- The block the driver gave last. -/
  block : Option Bytes
  buf : Slice
deriving DecidableEq

/-- A message in the output channel: a reference. `enqueued` and `response` are
only recorded: the bytes at the time of the send, and the bytes that answer the
request. -/
structure Envelope where
  slice : Slice
  enqueued : Bytes
  response : Bytes
deriving DecidableEq

/-- A message the write pump has written. -/
structure Delivery where
  written : Bytes
  enqueued : Bytes
  response : Bytes
deriving DecidableEq

structure Shared where
  heap : Nat → Bytes
  /-- Who allocated a buffer; only recorded. -/
  owner : Nat → Option Key
  /-- The next buffer. -/
  allocated : Nat
  items : Key → Item
  /-- The number of results so far. -/
  results : Nat
  output : List Envelope
  socket : List Delivery

variable (shared : Shared)

def Shared.content (slice : Slice) : Bytes :=
  (shared.heap slice.buffer).take slice.length

def Shared.setItem (key : Key) (item : Item) : Shared :=
  { shared with items := Function.update shared.items key item }

def Shared.setLock (key : Key) (lock : Option Nat) : Shared :=
  shared.setItem key { shared.items key with lock := lock }

def Shared.setBuf (key : Key) (buf : Slice) : Shared :=
  shared.setItem key { shared.items key with buf := buf }

def Shared.setBlock (key : Key) (block : Option Bytes) : Shared :=
  shared.setItem key { shared.items key with block := block }

def Shared.alloc (bytes : Bytes) (owner : Option Key) : Shared :=
  { shared with
    heap := Function.update shared.heap shared.allocated bytes
    owner := Function.update shared.owner shared.allocated owner
    allocated := shared.allocated + 1 }

def Shared.write (buffer offset : Nat) (bytes : Bytes) : Shared :=
  { shared with
    heap := Function.update shared.heap buffer (poke (shared.heap buffer) offset bytes) }

def Shared.Fits (key : Key) (size : Nat) : Prop :=
  size ≤ (shared.heap (shared.items key).buf.buffer).length

instance (shared : Shared) (key : Key) (size : Nat) : Decidable (shared.Fits key size) :=
  inferInstanceAs (Decidable (_ ≤ _))

inductive Controller where
  | ws
  | tmq
deriving DecidableEq

/-- The requests that touch a result or the message; the others answer from
memory of their own. -/
inductive Request where
  -- `/ws`
  | query
  | fetch (id : Nat)
  | fetchBlock (id : Nat)
  | fetchRawBlock (reqID id : Nat)
  | freeResult (id : Nat)
  -- `/rest/tmq`
  | poll
  | tmqFetch (reqID messageID : Nat)
  | tmqFetchBlock (reqID messageID : Nat)
  | tmqFetchRawBlock (reqID messageID : Nat)
  | tmqFetchRawBlockNew (reqID messageID : Nat)
  | unsubscribe
  -- both
  | other
deriving DecidableEq

def Controller.accepts : Controller → Request → Bool
  | _, .other => true
  | .ws, .query | .ws, .fetch _ | .ws, .fetchBlock _ | .ws, .fetchRawBlock _ _
  | .ws, .freeResult _ => true
  | .tmq, .poll | .tmq, .tmqFetch _ _ | .tmq, .tmqFetchBlock _ _ | .tmq, .tmqFetchRawBlock _ _
  | .tmq, .tmqFetchRawBlockNew _ _ | .tmq, .unsubscribe => true
  | _, _ => false

def Request.key : Request → Option Key
  | .fetch id | .fetchBlock id | .fetchRawBlock _ id => some (.result id)
  | .poll | .tmqFetch _ _ | .tmqFetchBlock _ _ | .tmqFetchRawBlock _ _ | .tmqFetchRawBlockNew _ _
  | .unsubscribe => some .message
  | .query | .freeResult _ | .other => none

/-- What follows the filling of the slice. -/
inductive Finish where
  /-- The response is sent with the lock held. -/
  | send
  /-- The lock is given back, then the response is sent. -/
  | unlockSend
  /-- Another request will send it; this one answers. -/
  | answer (bytes : Bytes)
deriving DecidableEq

/-- A response under construction: a first word of eight bytes and the other
parts, written one behind the other. -/
structure Task where
  key : Key
  word : Nat
  rest : List Bytes
  /-- The item's slice is set before it is filled, not after. -/
  early : Bool
  finish : Finish
deriving DecidableEq

def Task.parts (task : Task) : List Bytes := leBytes 8 task.word :: task.rest

def Task.response (task : Task) : Bytes := task.parts.flatten

def FetchRawBlockMessage : Nat := 7

def TMQRawMessage : Nat := 3

def TMQFetchRawNewMessage : Nat := 8

def fetchBlockTask (id timing : Nat) (block : Bytes) : Task :=
  ⟨.result id, timing, [leBytes 8 id, block], true, .send⟩

/-- `fetchRawBlock` of `/ws`, with `fetchRawBlockMessage`. -/
def fetchRawBlockTask (reqID id timing : Nat) (block : Bytes) : Task :=
  ⟨.result id, 0xffffffffffffffff, [leBytes 8 FetchRawBlockMessage, leBytes 2 1, leBytes 8 timing,
    leBytes 8 reqID, leBytes 4 0, leBytes 4 0, leBytes 8 id, [0], leBytes 4 block.length, block],
    false, .unlockSend⟩

def tmqFetchTask (reqID messageID : Nat) (block answer : Bytes) : Task :=
  ⟨.message, 0, [leBytes 8 reqID, leBytes 8 messageID, block], true, .answer answer⟩

def tmqFetchRawBlockTask (reqID messageID timing metaType : Nat) (data : Bytes) : Task :=
  ⟨.message, timing, [leBytes 8 reqID, leBytes 8 messageID, leBytes 8 TMQRawMessage,
    leBytes 4 data.length, leBytes 2 metaType, data], true, .send⟩

/-- `fetchRawBlockNew` of `/rest/tmq`, with `wsFetchRawBlockMessage`. -/
def tmqFetchRawBlockNewTask (reqID messageID timing metaType : Nat) (data : Bytes) : Task :=
  ⟨.message, 0xffffffffffffffff, [leBytes 8 TMQFetchRawNewMessage, leBytes 2 1, leBytes 8 timing,
    leBytes 8 reqID, leBytes 4 0, leBytes 4 0, leBytes 8 messageID, leBytes 2 metaType,
    leBytes 4 data.length, data], false, .send⟩

/-- What `fetchBlock` of `/rest/tmq` answers: the block its `fetch` got, under
its own request. -/
def tmqFetchBlockResponse (reqID messageID timing : Nat) (block : Bytes) : Bytes :=
  leBytes 8 timing ++ (leBytes 8 reqID ++ (leBytes 8 messageID ++ block))

/-- Program counters. Each names the shared access that comes next. -/
inductive Pc where
  -- the read pump
  | reading
  -- the write pump
  | taking
  | writing (envelope : Envelope) (sent : Bytes)
  -- a request goroutine
  | start (request : Request)
  | locking (request : Request) (key : Key)
  | inside (request : Request) (key : Key)
  | reserve (task : Task)
  | put (task : Task) (slice : Slice) (offset : Nat) (rest : List Bytes)
  | filled (task : Task)
  | stamp (key : Key) (timing : Nat) (response : Bytes)
  | load (key : Key) (response : Bytes) (held : Bool)
  | sending (slice : Slice) (response : Bytes) (held : Option Key)
  | answering (bytes : Bytes) (held : Option Key)
  | unlocking (key : Key) (answer : Option Bytes)
  | freeing (key : Key) (answer : Option Bytes)
  | finished
deriving DecidableEq

/-- The scheduler's, the client's and the driver's resolution of one step. -/
inductive Choice where
  | go
  | message (request : Request)
  /-- The handler ends with an answer from memory of its own. -/
  | answer (bytes : Bytes)
  /-- The driver has no further block, or an error; the result is freed. -/
  | completed (answer : Bytes)
  /-- The driver gives a block. -/
  | block (timing : Nat) (block answer : Bytes)
  /-- The driver gives the raw data of the message. -/
  | raw (timing metaType : Nat) (data : Bytes)
  | timing (timing : Nat)
  /-- The connection is closed and the handler returns. -/
  | quit
  /-- The session is closed and the message is dropped. -/
  | drop
  /-- The write pump copies some bytes. -/
  | copy (count : Nat)
  | writeError
deriving DecidableEq

abbrev State := Snapshot Shared Pc

section

variable (controller : Controller) (capacity : Nat) (shared : Shared)

def advanceRead : Choice → Option (Move Shared Pc)
  | .message request =>
    if controller.accepts request then some ⟨shared, .reading, [.start request]⟩ else none
  | _ => none

def advancePump : Pc → Choice → Option (Move Shared Pc)
  | .taking, .go =>
    match shared.output with
    | envelope :: rest => some ⟨{ shared with output := rest }, .writing envelope [], []⟩
    | [] => none
  | .writing envelope sent, .copy count =>
    some ⟨shared, .writing envelope
      (sent ++ ((shared.content envelope.slice).drop sent.length).take count), []⟩
  | .writing envelope sent, .go =>
    if sent.length = envelope.slice.length then
      some ⟨{ shared with
        socket := shared.socket ++ [⟨sent, envelope.enqueued, envelope.response⟩] }, .taking, []⟩
    else none
  | .writing _ _, .writeError => some ⟨shared, .finished, []⟩
  | _, _ => none

def advanceStart (t : Nat) (shared : Shared) : Pc → Choice → Option (Move Shared Pc)
  | .start _, .answer bytes => some ⟨shared, .answering bytes none, []⟩
  | .start .query, .completed answer =>
    let key := Key.result (shared.results + 1)
    some ⟨{ shared.setItem key { shared.items key with listed := true, live := true } with
      results := shared.results + 1 }, .answering answer none, []⟩
  | .start (.freeResult id), .go => some ⟨shared, .freeing (.result id) none, []⟩
  | .start request, .go =>
    match request.key with
    | some key =>
      if (shared.items key).listed then some ⟨shared, .locking request key, []⟩ else none
    | none => none
  | .locking request key, .go =>
    if (shared.items key).lock = none then
      some ⟨shared.setLock key (some t), .inside request key, []⟩
    else none
  | _, _ => none

/-- The handlers of `/ws`, with the lock of the result. -/
def advanceWs (key : Key) : Request → Choice → Option (Move Shared Pc)
  | .fetch _, .block _ block answer =>
    if (shared.items key).live then
      some ⟨shared.setBlock key (some block), .unlocking key (some answer), []⟩
    else none
  | .fetchBlock id, .timing timing =>
    match (shared.items key).block with
    | some block =>
      if (shared.items key).live ∧ block ≠ [] then
        some ⟨shared, .reserve (fetchBlockTask id timing block), []⟩
      else none
    | none => none
  | .fetchRawBlock reqID id, .block timing block answer =>
    if (shared.items key).live then
      if block = [] then
        some ⟨shared.setBlock key (some block), .unlocking key (some answer), []⟩
      else
        some ⟨shared.setBlock key (some block),
          .reserve (fetchRawBlockTask reqID id timing block), []⟩
    else none
  | .fetch _, .completed answer | .fetchRawBlock _ _, .completed answer =>
    if (shared.items key).live then
      some ⟨shared.setLock key none, .freeing key (some answer), []⟩
    else none
  | .fetch _, .answer bytes | .fetchRawBlock _ _, .answer bytes =>
    if (shared.items key).live then none else some ⟨shared, .unlocking key (some bytes), []⟩
  | .fetchBlock _, .answer bytes =>
    if (shared.items key).live then
      if (shared.items key).block.getD [] = [] then some ⟨shared, .answering bytes (some key), []⟩
      else none
    else some ⟨shared, .unlocking key (some bytes), []⟩
  | _, _ => none

/-- The message is there, and is the one the request names. -/
def Item.Current (item : Item) (messageID : Nat) : Prop :=
  item.live = true ∧ item.index = messageID

instance (item : Item) (messageID : Nat) : Decidable (item.Current messageID) :=
  inferInstanceAs (Decidable (_ ∧ _))

/-- The handlers of `/rest/tmq`, with the lock of the message. Every check that
fails ends with an answer. -/
def advanceTmq (key : Key) : Request → Choice → Option (Move Shared Pc)
  | .poll, .answer bytes =>
    let item := shared.items key
    some ⟨shared.setItem key { item with live := true, index := item.index + 1, block := none },
      .answering bytes (some key), []⟩
  | .tmqFetch reqID messageID, .block _ block answer =>
    if (shared.items key).Current messageID then
      some ⟨shared.setBlock key (some block),
        .reserve (tmqFetchTask reqID messageID block answer), []⟩
    else none
  | .tmqFetchBlock reqID messageID, .timing timing =>
    if (shared.items key).Current messageID ∧ (shared.items key).buf.length ≠ 0 then
      some ⟨shared, .stamp key timing (tmqFetchBlockResponse reqID messageID timing
        ((shared.items key).block.getD [])), []⟩
    else none
  | .tmqFetchRawBlock reqID messageID, .raw timing metaType data =>
    if (shared.items key).Current messageID then
      some ⟨shared, .reserve (tmqFetchRawBlockTask reqID messageID timing metaType data), []⟩
    else none
  | .tmqFetchRawBlockNew reqID messageID, .raw timing metaType data =>
    if (shared.items key).Current messageID then
      some ⟨shared, .reserve (tmqFetchRawBlockNewTask reqID messageID timing metaType data), []⟩
    else none
  | .unsubscribe, .answer bytes =>
    some ⟨shared.setItem key { shared.items key with live := false, buf := ⟨0, 0⟩ },
      .unlocking key (some bytes), []⟩
  | .tmqFetch _ _, .answer bytes | .tmqFetchBlock _ _, .answer bytes
  | .tmqFetchRawBlock _ _, .answer bytes | .tmqFetchRawBlockNew _ _, .answer bytes =>
    some ⟨shared, .answering bytes (some key), []⟩
  | .poll, .quit | .tmqFetch _ _, .quit | .tmqFetchRawBlock _ _, .quit
  | .tmqFetchRawBlockNew _ _, .quit | .unsubscribe, .quit =>
    some ⟨shared, .unlocking key none, []⟩
  | _, _ => none

/-- `if cap(buf) < n { buf = make([]byte, 0, n) }` and `buf = buf[:n]`. -/
def Shared.reserve (key : Key) (size : Nat) : Shared × Slice :=
  if shared.Fits key size then (shared, ⟨(shared.items key).buf.buffer, size⟩)
  else (shared.alloc (List.replicate size 0) (some key), ⟨shared.allocated, size⟩)

def advanceFill : Pc → Choice → Option (Move Shared Pc)
  | .reserve task, .go =>
    let (reserved, slice) := shared.reserve task.key task.response.length
    some ⟨if task.early then reserved.setBuf task.key slice else reserved,
      .put task slice 0 task.parts, []⟩
  | .put task slice offset (part :: rest), .go =>
    some ⟨shared.write slice.buffer offset part, .put task slice (offset + part.length) rest, []⟩
  | .put task slice _ [], .go =>
    some ⟨if task.early then shared else shared.setBuf task.key slice, .filled task, []⟩
  | .filled task, .go =>
    match task.finish with
    | .send => some ⟨shared, .load task.key task.response true, []⟩
    | .unlockSend => some ⟨shared.setLock task.key none, .load task.key task.response false, []⟩
    | .answer bytes => some ⟨shared, .answering bytes (some task.key), []⟩
  | .stamp key timing response, .go =>
    some ⟨shared.write (shared.items key).buf.buffer 0 (leBytes 8 timing),
      .load key response true, []⟩
  | _, _ => none

/-- After a send: the lock is given back if it is held. -/
def release : Option Key → Pc
  | some key => .unlocking key none
  | none => .finished

/-- `WSWriteBinary` and `WSWriteJson`, and the ends of the handlers. -/
def advanceSend : Pc → Choice → Option (Move Shared Pc)
  | .load key response held, .go =>
    some ⟨shared, .sending (shared.items key).buf response (if held then some key else none), []⟩
  | .sending slice response held, .go =>
    if shared.output.length < capacity then
      some ⟨{ shared with
        output := shared.output ++ [⟨slice, shared.content slice, response⟩] }, release held, []⟩
    else none
  | .sending _ _ held, .drop => some ⟨shared, release held, []⟩
  | .answering bytes held, .go =>
    if shared.output.length < capacity then
      some ⟨{ shared.alloc bytes none with
        output := shared.output ++ [⟨⟨shared.allocated, bytes.length⟩, bytes, bytes⟩] },
        release held, []⟩
    else none
  | .answering _ held, .drop => some ⟨shared, release held, []⟩
  | .unlocking key answer, .go =>
    some ⟨shared.setLock key none,
      match answer with
      | some bytes => .answering bytes none
      | none => .finished, []⟩
  | .freeing key answer, .go =>
    if (shared.items key).lock = none then
      some ⟨shared.setItem key
          { shared.items key with listed := false, live := false, block := none },
        match answer with
        | some bytes => .answering bytes none
        | none => .finished, []⟩
    else none
  | _, _ => none

def advance (s : State) (t : Nat) (pc : Pc) (choice : Choice) : Option (Move Shared Pc) :=
  match pc with
  | .reading => advanceRead controller s.shared choice
  | .taking | .writing _ _ => advancePump s.shared pc choice
  | .start _ | .locking _ _ => advanceStart t s.shared pc choice
  | .inside request (.result id) => advanceWs s.shared (.result id) request choice
  | .inside request .message => advanceTmq s.shared .message request choice
  | .reserve _ | .put _ _ _ _ | .filled _ | .stamp _ _ _ => advanceFill s.shared pc choice
  | .load _ _ _ | .sending _ _ _ | .answering _ _ | .unlocking _ _ | .freeing _ _ =>
    advanceSend capacity s.shared pc choice
  | .finished => none

/-- The connection after it was opened: thread 0 is the read pump and thread 1
the write pump. -/
def opened : State where
  shared := {
    heap := fun _ => []
    owner := fun _ => none
    allocated := 1
    items := fun key => ⟨none, key = .message, false, 0, none, ⟨0, 0⟩⟩
    results := 0
    output := []
    socket := [] }
  threads := [.reading, .taking]

/-- A connection with an output channel of the given capacity. -/
def machine : Machine Shared Pc Choice where
  initial s := s = opened
  advance := advance controller capacity

end

end TaosAdapter.Reply
