import TaosAdapter.Tmq.Program

/-!
Contract: the handlers of a TMQ session, `Close` and the wrappers of the library
calls, from `controller/ws/tmq/tmq.go`, as code of the goroutines.

A wrapper is given the code that follows its return. The deferred unlocks stand
where the functions return, and answers to the client are left out. `.either`
stands where the request or the library decides; the side that gives up is on
the left, in `poll` the side with the automatic commit and the valid type.

`wrapperFreeResult` returns without unlocking if the slot is empty; that its
callers have seen a message in the slot is a matter of the proofs.
-/

namespace TaosAdapter.Tmq.Concurrent

/-- The wrappers that ask `isClosed()` when they have the lock. -/
def guarded (closed body : Code) : Code :=
  .lock .async (.ifClosed (.unlock .async closed) body)

variable (consumer : Nat)

def wrapperCloseConsumer (next : Code) : Code :=
  .lock .async (.call .close consumer fun _ => .unlock .async next)

def wrapperSubscribe (next : Bool → Code) : Code :=
  .lock .async (.call .subscribe consumer fun ok => .unlock .async (next ok))

def wrapperConsumerNew (next : Option Nat → Code) : Code :=
  .lock .async (.newConsumer fun consumer => .unlock .async (next consumer))

/-- `wrapperCommit`, `wrapperGetTopicAssignment`, `wrapperOffsetSeek`, `wrapperCommitted`,
`wrapperPosition` and `wrapperCommitOffset`. -/
def wrapperCommit (closed next : Code) : Code :=
  guarded closed (.otherCall (.unlock .async next))

def wrapperPoll (next : Option Nat → Code) : Code :=
  guarded (next none) (.poll fun message => .unlock .async (next message))

def wrapperFreeResult (closed next : Code) : Code :=
  guarded closed (.ifMessage next (.freeSlot (.unlock .async next)))

def wrapperFetchRawBlock (closed next : Code) : Code :=
  guarded closed (.useSlot (.unlock .async next))

def wrapperGetRaw (closed next : Code) : Code :=
  guarded closed (.useSlot (.unlock .async next))

def wrapperGetJsonMeta (closed next : Code) : Code :=
  guarded closed (.useSlot (.unlock .async next))

/-- The code that follows is given the result, nothing if the session is closed. -/
def wrapperUnsubscribe (next : Option Bool → Code) : Code :=
  guarded (next none) (.call .unsubscribe consumer fun ok => .unlock .async (next (some ok)))

def storeMessage (message : Nat) : Code :=
  .useMessage message (.setSlot (some message) (.unlock .message .halt))

def takeMessage (message : Nat) : Code :=
  .lock .message (.ifMessage (storeMessage message)
    (wrapperFreeResult (.freeMessage message (.unlock .message .halt)) (storeMessage message)))

def pollMessage : Code :=
  wrapperPoll fun
    | none => .halt
    | some message =>
      .useMessage message (.either (takeMessage message) (.freeMessage message .halt))

def poll : Code :=
  .ifConsumer .halt fun _ => .either (wrapperCommit .halt pollMessage) pollMessage

/-- The requests that read the message in the slot: the wrapper they call, and
what follows it. -/
def reader (wrapper : Code → Code → Code) (next : Code) : Code :=
  .ifConsumer .halt fun _ =>
    .lock .message (.ifMessage (.unlock .message .halt)
      (.either (.unlock .message .halt) (wrapper (.unlock .message .halt) next)))

/-- With a block in hand, `fetch` asks for the table of the message. -/
def fetch : Code :=
  reader wrapperFetchRawBlock (.either (.unlock .message .halt) (.useSlot (.unlock .message .halt)))

def fetchRawBlock : Code := reader wrapperGetRaw (.unlock .message .halt)

def fetchRawBlockNew : Code := reader wrapperGetRaw (.unlock .message .halt)

def fetchJsonMeta : Code := reader wrapperGetJsonMeta (.unlock .message .halt)

def fetchBlock : Code :=
  .ifConsumer .halt fun _ =>
    .lock .message (.ifMessage (.unlock .message .halt) (.unlock .message .halt))

/-- One call after the other, up to the first that finds the session closed. -/
def callEach : Nat → Code
  | 0 => .halt
  | count + 1 => wrapperCommit .halt (callEach count)

def consumerCalls (count : Nat) : Code := .ifConsumer .halt fun _ => callEach count

def closeConsumerWithErrLog : Code :=
  wrapperCloseConsumer consumer (.unlock .session .halt)

def resubscribe : Code :=
  .ifUnsubscribed
    (.either (.unlock .session .halt)
      (wrapperSubscribe consumer fun ok =>
        if ok then .setUnsubscribed false (.unlock .session .halt) else .unlock .session .halt))
    (.unlock .session .halt)

/-- The new consumer is set only when everything has succeeded. -/
def firstSubscribe : Code :=
  .either (.unlock .session .halt)
    (wrapperConsumerNew fun
      | none => .unlock .session .halt
      | some consumer =>
        .either (closeConsumerWithErrLog consumer)
          (wrapperSubscribe consumer fun ok =>
            if ok then
              .either (closeConsumerWithErrLog consumer)
                (.setConsumer consumer (.unlock .session .halt))
            else closeConsumerWithErrLog consumer))

def subscribe : Code :=
  .lock .session (.ifClosed (.unlock .session .halt) (.ifConsumer firstSubscribe resubscribe))

def freeMessage (closing : Bool) (next : Code) : Code :=
  .lock .message (.ifMessage (.unlock .message next)
    (.lock .async
      (if closing then .freeSlot (.unlock .async (.setSlot none (.unlock .message next)))
      else .ifClosed (.unlock .async (.unlock .message next))
        (.freeSlot (.unlock .async (.setSlot none (.unlock .message next)))))))

def unsubscribe : Code :=
  .lock .session (.ifClosed (.unlock .session .halt)
    (.ifConsumer (.unlock .session .halt) fun consumer =>
      wrapperUnsubscribe consumer fun
        | some true => freeMessage false (.setUnsubscribed true (.unlock .session .halt))
        | _ => .unlock .session .halt))

def handler : Action → Code
  | .poll => poll
  | .fetch => fetch
  | .fetchBlock => fetchBlock
  | .fetchRawBlock => fetchRawBlock
  | .fetchRawBlockNew => fetchRawBlockNew
  | .fetchJsonMeta => fetchJsonMeta
  | .subscribe => subscribe
  | .unsubscribe => unsubscribe
  | .consumerCalls count => consumerCalls count

/-- The last deferred function: the thread of the session is destroyed. -/
def destroyThread : Code :=
  .lock .async (.otherCall (.unlock .async (.unlock .session .halt)))

/-- The deferred function that ends the consumer. -/
def endConsumer : Code :=
  .ifConsumer destroyThread fun consumer =>
    .ifUnsubscribed (wrapperCloseConsumer consumer destroyThread)
      (wrapperUnsubscribe consumer fun _ => wrapperCloseConsumer consumer destroyThread)

def close : Code :=
  .lock .session (.ifClosed (.unlock .session .halt)
    (.setClosed (.wait (freeMessage true endConsumer))))

def session : Lib.Machine Shared Thread Choice := machine handler close

def goes (count : Nat) : List Choice := List.replicate count .go

def chosen (t : Nat) (choices : List Choice) : List (Nat × Choice) :=
  choices.map fun choice => (t, choice)

/-- The read pump starts goroutine `t` for a request, which makes these choices. -/
def requested (t : Nat) (action : Action) (choices : List Choice) : List (Nat × Choice) :=
  (0, .message action) :: (0, .go) :: chosen t choices

/-- The first subscription, with every call of the library successful. -/
def subscribing (t : Nat) : List (Nat × Choice) :=
  requested t .subscribe
    (goes 4 ++ [.right, .go, .right, .go, .right, .go, .right, .go, .right] ++ goes 3)

/-- Goroutine `t` calls `Close`, `before` steps up to `tmq_consumer_close`. -/
def closing (t before : Nat) : List (Nat × Choice) :=
  (0, .close) :: chosen t (goes before ++ [.right] ++ goes 5)

end TaosAdapter.Tmq.Concurrent
