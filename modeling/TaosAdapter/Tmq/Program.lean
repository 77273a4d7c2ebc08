import TaosAdapter.Lib.Machine
import Mathlib.Logic.Function.Basic

/-!
Contract: the goroutines of one TMQ session as programs over its shared state,
for `controller/ws/tmq/tmq.go`.

Owns: the instructions the handlers are made of, what each does, and the machine
that runs any number of request goroutines and of calls of `Close` under every
interleaving.

A goroutine is its remaining code. What a request contains and what the library
answers is the scheduler's choice. The library is seen through what is recorded
of it: the messages it has handed out, those it was told to free, whether a call
was given a message after that, and the calls that concern a subscription.
-/

namespace TaosAdapter.Tmq.Concurrent

open Lib

/-- The mutex of the session, of `tmpMessage`, and `asyncLocker`. -/
inductive Name where
  | session
  | message
  | async
deriving DecidableEq

inductive CallKind where
  | subscribe
  | unsubscribe
  | close
deriving DecidableEq

/-- `tmq_subscribe`, `tmq_unsubscribe` and `tmq_consumer_close` with their results. -/
structure Call where
  kind : CallKind
  consumer : Nat
  ok : Bool
deriving DecidableEq

/-- The remaining code of a goroutine. -/
inductive Code where
  | lock (name : Name) (next : Code)
  | unlock (name : Name) (next : Code)
  /-- `isClosed()`. -/
  | ifClosed (yes no : Code)
  /-- `consumer != nil`. -/
  | ifConsumer (no : Code) (yes : Nat → Code)
  | ifUnsubscribed (yes no : Code)
  /-- `tmpMessage.CPointer != nil`. -/
  | ifMessage (no yes : Code)
  /-- The request or an answer of the library decides. -/
  | either (left right : Code)
  /-- `tmq_consumer_poll`. -/
  | poll (next : Option Nat → Code)
  /-- The library is called with a polled message. -/
  | useMessage (message : Nat) (next : Code)
  /-- The library is called with `tmpMessage.CPointer`. -/
  | useSlot (next : Code)
  /-- A polled message is freed. -/
  | freeMessage (message : Nat) (next : Code)
  /-- `tmpMessage.CPointer` is freed. -/
  | freeSlot (next : Code)
  /-- `tmpMessage.CPointer` is set. -/
  | setSlot (value : Option Nat) (next : Code)
  /-- `tmq_consumer_new`. -/
  | newConsumer (next : Option Nat → Code)
  | call (kind : CallKind) (consumer : Nat) (next : Bool → Code)
  /-- A library call that concerns neither messages nor the subscription. -/
  | otherCall (next : Code)
  | setConsumer (consumer : Nat) (next : Code)
  | setUnsubscribed (value : Bool) (next : Code)
  | setClosed (next : Code)
  /-- `wg.Wait()`. -/
  | wait (next : Code)
  | halt

/-- The session, and what is recorded of the library. -/
structure Shared where
  lock : Name → Option Nat
  closed : Bool
  consumer : Option Nat
  unsubscribed : Bool
  /-- `tmpMessage.CPointer`. -/
  cPointer : Option Nat
  /-- The number of messages handed out. -/
  messages : Nat
  /-- The messages freed, one entry for every call. -/
  freed : List Nat
  /-- A call was given a message that had been freed, or none. -/
  misused : Bool
  /-- The number of consumers created. -/
  consumers : Nat
  /-- The calls that concern a subscription, in their order. -/
  calls : List Call
  /-- The calls made before `Close` set the closed flag. -/
  begun : Option (List Call)

namespace Shared

variable (shared : Shared)

def setLock (name : Name) (holder : Option Nat) : Shared :=
  { shared with lock := Function.update shared.lock name holder }

def use (message : Nat) : Shared :=
  { shared with misused := shared.misused || decide (message ∈ shared.freed) }

def useSlot : Shared :=
  match shared.cPointer with
  | some message => shared.use message
  | none => { shared with misused := true }

def free (message : Nat) : Shared :=
  { shared.use message with freed := message :: shared.freed }

def freeSlot : Shared :=
  match shared.cPointer with
  | some message => shared.free message
  | none => { shared with misused := true }

@[simp] theorem setLock_self (name : Name) (holder : Option Nat) :
    (shared.setLock name holder).lock name = holder := by
  simp [setLock]

theorem setLock_of_ne {name other : Name} (ne : other ≠ name)
    (holder : Option Nat) : (shared.setLock name holder).lock other = shared.lock other := by
  simp [setLock, ne]

end Shared

inductive Action where
  | poll
  | fetch
  | fetchBlock
  | fetchRawBlock
  | fetchRawBlockNew
  | fetchJsonMeta
  | subscribe
  | unsubscribe
  /-- The requests that only call the library for the consumer, so many times. -/
  | consumerCalls (count : Nat)
deriving DecidableEq

/-- The scheduler's, the client's and the library's resolution of one step. -/
inductive Choice where
  | go
  | left
  | right
  | message (action : Action)
  /-- A callback of the connection, or the signal goroutine, calls `Close`. -/
  | close
deriving DecidableEq

inductive Thread where
  /-- The read pump in `HandleMessage`. -/
  | reading
  | dispatch (action : Action)
  /-- A request goroutine in front of its `isClosed()`. -/
  | check (action : Action)
  | request (code : Code)
  | closing (code : Code)
  | finished

/-- The goroutine is counted by the wait group. -/
def Thread.isRequest : Thread → Bool
  | .check _ | .request _ => true
  | _ => false

def Thread.returned : Thread → Bool
  | .closing .halt => true
  | _ => false

abbrev State := Snapshot Shared Thread

def waiting (threads : List Thread) : Nat :=
  tally (fun thread => if thread.isRequest then 1 else 0) threads

def Code.step (t waiting : Nat) (shared : Shared) : Code → Choice → Option (Shared × Code)
  | .lock name next, .go =>
    if shared.lock name = none then some (shared.setLock name (some t), next) else none
  | .unlock name next, .go => some (shared.setLock name none, next)
  | .ifClosed yes no, .go => some (shared, if shared.closed then yes else no)
  | .ifConsumer no yes, .go =>
    some (shared, match shared.consumer with | some consumer => yes consumer | none => no)
  | .ifUnsubscribed yes no, .go => some (shared, if shared.unsubscribed then yes else no)
  | .ifMessage no yes, .go => some (shared, if shared.cPointer.isSome then yes else no)
  | .either left _, .left => some (shared, left)
  | .either _ right, .right => some (shared, right)
  | .poll next, .left => some (shared, next none)
  | .poll next, .right =>
    some ({ shared with messages := shared.messages + 1 }, next (some shared.messages))
  | .useMessage message next, .go => some (shared.use message, next)
  | .useSlot next, .go => some (shared.useSlot, next)
  | .freeMessage message next, .go => some (shared.free message, next)
  | .freeSlot next, .go => some (shared.freeSlot, next)
  | .setSlot value next, .go => some ({ shared with cPointer := value }, next)
  | .newConsumer next, .left => some (shared, next none)
  | .newConsumer next, .right =>
    some ({ shared with consumers := shared.consumers + 1 }, next (some shared.consumers))
  | .call kind consumer next, .left =>
    some ({ shared with calls := shared.calls ++ [⟨kind, consumer, false⟩] }, next false)
  | .call kind consumer next, .right =>
    some ({ shared with calls := shared.calls ++ [⟨kind, consumer, true⟩] }, next true)
  | .otherCall next, .go => some (shared, next)
  | .setConsumer consumer next, .go => some ({ shared with consumer := some consumer }, next)
  | .setUnsubscribed value next, .go => some ({ shared with unsubscribed := value }, next)
  | .setClosed next, .go => some ({ shared with closed := true, begun := some shared.calls }, next)
  | .wait next, .go => if waiting = 0 then some (shared, next) else none
  | _, _ => none

section

-- the code of the requests and of `Close`
variable (handler : Action → Code) (close : Code)

def advance (s : State) (t : Nat) (thread : Thread) (choice : Choice) :
    Option (Move Shared Thread) :=
  match thread, choice with
  | .reading, .message action =>
    if s.shared.closed then some ⟨s.shared, .reading, []⟩
    else some ⟨s.shared, .dispatch action, []⟩
  | .reading, .close => some ⟨s.shared, .reading, [.closing close]⟩
  -- `wg.Add(1)` and the `go` statement
  | .dispatch action, .go => some ⟨s.shared, .reading, [.check action]⟩
  | .check action, .go =>
    some ⟨s.shared, .request (if s.shared.closed then .halt else handler action), []⟩
  | .request .halt, .go => some ⟨s.shared, .finished, []⟩
  | .request code, choice =>
    (code.step t (waiting s.threads) s.shared choice).map fun (shared, next) =>
      ⟨shared, .request next, []⟩
  | .closing code, choice =>
    (code.step t (waiting s.threads) s.shared choice).map fun (shared, next) =>
      ⟨shared, .closing next, []⟩
  | _, _ => none

/-- The session after the connect callback: thread 0 is the read pump. -/
def opened : State where
  shared := ⟨fun _ => none, false, none, false, none, 0, [], false, 0, [], none⟩
  threads := [.reading]

def machine : Machine Shared Thread Choice where
  initial s := s = opened
  advance := advance handler close

end

section

variable (t waiting : Nat) (shared : Shared)

/-- Everything an instruction can do. -/
inductive Code.Stepped : Code → Shared → Code → Prop where
  | lock name next (unlocked : shared.lock name = none) :
      Stepped (.lock name next) (shared.setLock name (some t)) next
  | unlock name next : Stepped (.unlock name next) (shared.setLock name none) next
  | closed yes no (isClosed : shared.closed = true) : Stepped (.ifClosed yes no) shared yes
  | open_ yes no (isOpen : shared.closed = false) : Stepped (.ifClosed yes no) shared no
  | consumer no (yes : Nat → Code) consumer (set : shared.consumer = some consumer) :
      Stepped (.ifConsumer no yes) shared (yes consumer)
  | noConsumer no (yes : Nat → Code) (unset : shared.consumer = none) :
      Stepped (.ifConsumer no yes) shared no
  | unsubscribed yes no (flag : shared.unsubscribed = true) :
      Stepped (.ifUnsubscribed yes no) shared yes
  | subscribed yes no (flag : shared.unsubscribed = false) :
      Stepped (.ifUnsubscribed yes no) shared no
  | message no yes message (set : shared.cPointer = some message) :
      Stepped (.ifMessage no yes) shared yes
  | noMessage no yes (unset : shared.cPointer = none) : Stepped (.ifMessage no yes) shared no
  | left left right : Stepped (.either left right) shared left
  | right left right : Stepped (.either left right) shared right
  | nothingPolled (next : Option Nat → Code) : Stepped (.poll next) shared (next none)
  | polled (next : Option Nat → Code) :
      Stepped (.poll next) { shared with messages := shared.messages + 1 }
        (next (some shared.messages))
  | useMessage message next : Stepped (.useMessage message next) (shared.use message) next
  | useSlot next : Stepped (.useSlot next) shared.useSlot next
  | freeMessage message next : Stepped (.freeMessage message next) (shared.free message) next
  | freeSlot next : Stepped (.freeSlot next) shared.freeSlot next
  | setSlot (value : Option Nat) (next : Code) :
      Stepped (.setSlot value next) { shared with cPointer := value } next
  | noConsumerCreated (next : Option Nat → Code) : Stepped (.newConsumer next) shared (next none)
  | consumerCreated (next : Option Nat → Code) :
      Stepped (.newConsumer next) { shared with consumers := shared.consumers + 1 }
        (next (some shared.consumers))
  | called (kind : CallKind) (consumer : Nat) (next : Bool → Code) (ok : Bool) :
      Stepped (.call kind consumer next)
        { shared with calls := shared.calls ++ [⟨kind, consumer, ok⟩] } (next ok)
  | otherCall next : Stepped (.otherCall next) shared next
  | setConsumer (consumer : Nat) (next : Code) :
      Stepped (.setConsumer consumer next)
        { shared with consumer := some consumer } next
  | setUnsubscribed (value : Bool) (next : Code) :
      Stepped (.setUnsubscribed value next)
        { shared with unsubscribed := value } next
  | setClosed (next : Code) :
      Stepped (.setClosed next)
        { shared with closed := true, begun := some shared.calls } next
  | waited next (nobody : waiting = 0) : Stepped (.wait next) shared next

end

variable {t : Nat} {shared after : Shared} {choice : Choice} {next : Code}

theorem Code.stepped_of_step {waiting : Nat} {code : Code}
    (stepped : code.step t waiting shared choice = some (after, next)) :
    Code.Stepped t waiting shared code after next := by
  unfold Code.step at stepped
  split at stepped
  case' h_1 | h_24 => split at stepped
  all_goals cases stepped
  case' h_3 | h_4 | h_5 | h_6 => split
  case h_6.refl.isTrue set =>
    obtain ⟨message, found⟩ := Option.isSome_iff_exists.mp set
    exact .message _ _ message found
  all_goals constructor <;> first | assumption | simp_all

theorem Code.Stepped.running {waiting : Nat} {code : Code}
    (stepped : Code.Stepped t waiting shared code after next) : code ≠ .halt := by
  rintro rfl
  cases stepped

section

variable (handler : Action → Code) (close : Code) (s : State) (t : Nat)

/-- Everything a goroutine can do. -/
inductive Advanced : Thread → Choice → Move Shared Thread → Prop where
  | ignored action (closed : s.shared.closed = true) :
      Advanced .reading (.message action) ⟨s.shared, .reading, []⟩
  | accepted action (isOpen : s.shared.closed = false) :
      Advanced .reading (.message action) ⟨s.shared, .dispatch action, []⟩
  | closeCalled : Advanced .reading .close ⟨s.shared, .reading, [.closing close]⟩
  | dispatched action : Advanced (.dispatch action) .go ⟨s.shared, .reading, [.check action]⟩
  | late action (closed : s.shared.closed = true) :
      Advanced (.check action) .go ⟨s.shared, .request .halt, []⟩
  | started action (isOpen : s.shared.closed = false) :
      Advanced (.check action) .go ⟨s.shared, .request (handler action), []⟩
  | done : Advanced (.request .halt) .go ⟨s.shared, .finished, []⟩
  | request {code next after choice}
      (stepped : Code.Stepped t (waiting s.threads) s.shared code after next) :
      Advanced (.request code) choice ⟨after, .request next, []⟩
  | closing {code next after choice}
      (stepped : Code.Stepped t (waiting s.threads) s.shared code after next) :
      Advanced (.closing code) choice ⟨after, .closing next, []⟩

end

theorem advanced_of_advance {handler : Action → Code} {close : Code} {s : State} {th : Thread}
    {move : Move Shared Thread} (advanced : advance handler close s t th choice = some move) :
    Advanced handler close s t th choice move := by
  unfold advance at advanced
  split at advanced
  case' h_1 => split at advanced
  case h_6 | h_7 =>
    obtain ⟨⟨after, next⟩, stepped, rfl⟩ := Option.map_eq_some_iff.mp advanced
    constructor
    exact Code.stepped_of_step stepped
  all_goals cases advanced
  case' h_4 => split
  all_goals constructor <;> simp_all

end TaosAdapter.Tmq.Concurrent
