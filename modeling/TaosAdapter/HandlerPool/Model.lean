import TaosAdapter.Lib.Machine

/-!
Contract: the pools of callback handlers, `HandlerPool` of
`db/async/handlerpool.go` and `TMQHandlerPool` of
`db/asynctmq/tmqhandle/handler.go`. The two files have the same code over
another type of handler, so one machine models both.

Owns: the channel of idle handlers, the list of requests, the one-slot channel
of each request, the mutex, and the steps of `Get` and `Put` for any number of
callers. Handlers and request channels are named by their positions in creation
order.

A caller gives back only what it holds, and gives it up with the call of `Put`.
The body of a critical section is one step.
-/

namespace TaosAdapter.HandlerPool

open Lib

abbrev Handler := Nat

/-- A channel `make(chan poolReq, 1)`, by its position in creation order. -/
abbrev Req := Nat

structure Shared where
  mu : Option Nat
  /-- The channel of idle handlers, of capacity `count`. -/
  handlers : List Handler
  reqList : List Req
  /-- What is in the channel of each request. -/
  reqs : List (Option Handler)
  /-- Ghost: the requests a handler was sent to, in the order of the sends. -/
  served : List Req
deriving DecidableEq

inductive Pc where
  /-- Neither in `Get` nor in `Put`. -/
  | away
  /-- `Get` tries to receive an idle handler. -/
  | select
  /-- `Get` found none and waits for the mutex. -/
  | lock
  | pushBack
  | getUnlock (req : Req)
  /-- `ret := <-req` -/
  | await (req : Req)
  /-- `Put` waits for the mutex. -/
  | put (handler : Handler)
  | putLocked (handler : Handler)
  | putUnlock
deriving DecidableEq

/-- A caller with the handlers that `Get` has returned to it. -/
structure Thread where
  held : List Handler
  pc : Pc
deriving DecidableEq

inductive Choice where
  | go
  | get
  | put (handler : Handler)
deriving DecidableEq

abbrev State := Snapshot Shared Thread

variable (count : Nat)

/-- The body of `Put`: the first request gets the handler, otherwise it goes to
the channel. Both sends wait while there is no room. -/
def Shared.put (shared : Shared) (handler : Handler) : Option Shared :=
  match shared.reqList with
  | first :: rest =>
    if shared.reqs[first]? = some none then
      some { shared with
        reqList := rest
        reqs := shared.reqs.set first (some handler)
        served := shared.served ++ [first] }
    else none
  | [] =>
    if shared.handlers.length < count then
      some { shared with handlers := shared.handlers ++ [handler] }
    else none

def advance (s : State) (t : Nat) (thread : Thread) (choice : Choice) :
    Option (Move Shared Thread) :=
  match thread.pc, choice with
  | .away, .get => some ⟨s.shared, { thread with pc := .select }, []⟩
  | .away, .put handler =>
    if handler ∈ thread.held then
      some ⟨s.shared, ⟨thread.held.erase handler, .put handler⟩, []⟩
    else none
  | .select, .go =>
    match s.shared.handlers with
    | handler :: rest =>
      some ⟨{ s.shared with handlers := rest }, ⟨thread.held ++ [handler], .away⟩, []⟩
    | [] => some ⟨s.shared, { thread with pc := .lock }, []⟩
  | .lock, .go =>
    if s.shared.mu = none then
      some ⟨{ s.shared with mu := some t }, { thread with pc := .pushBack }, []⟩
    else none
  | .pushBack, .go =>
    let req := s.shared.reqs.length
    some ⟨{ s.shared with
        reqList := s.shared.reqList ++ [req]
        reqs := s.shared.reqs ++ [none] }, { thread with pc := .getUnlock req }, []⟩
  | .getUnlock req, .go =>
    some ⟨{ s.shared with mu := none }, { thread with pc := .await req }, []⟩
  | .await req, .go =>
    match s.shared.reqs[req]? with
    | some (some handler) =>
      some ⟨{ s.shared with reqs := s.shared.reqs.set req none },
        ⟨thread.held ++ [handler], .away⟩, []⟩
    | _ => none
  | .put handler, .go =>
    if s.shared.mu = none then
      some ⟨{ s.shared with mu := some t }, { thread with pc := .putLocked handler }, []⟩
    else none
  | .putLocked handler, .go =>
    (s.shared.put count handler).map fun shared => ⟨shared, { thread with pc := .putUnlock }, []⟩
  | .putUnlock, .go => some ⟨{ s.shared with mu := none }, { thread with pc := .away }, []⟩
  | _, _ => none

def newHandlerPool : Shared := ⟨none, List.range count, [], [], []⟩

def start (count callers : Nat) : State where
  shared := newHandlerPool count
  threads := List.replicate callers ⟨[], .away⟩

def machine : Machine Shared Thread Choice where
  initial s := ∃ callers, s = start count callers
  advance := advance count

def handlerPool : Machine Shared Thread Choice := machine count

/-- `TMQHandlerPool` of `db/asynctmq/tmqhandle`. -/
def tmqHandlerPool : Machine Shared Thread Choice := machine count

section

variable (count : Nat) (s : State) (t : Nat) (held : List Handler)

/-- Everything a caller can do. -/
inductive Advanced : Pc → Move Shared Thread → Prop where
  | get : Advanced .away ⟨s.shared, ⟨held, .select⟩, []⟩
  | give handler (own : handler ∈ held) :
      Advanced .away ⟨s.shared, ⟨held.erase handler, .put handler⟩, []⟩
  | received (handler : Handler) (rest : List Handler)
      (idle : s.shared.handlers = handler :: rest) :
      Advanced .select
        ⟨{ s.shared with handlers := rest }, ⟨held ++ [handler], .away⟩, []⟩
  | nothing (idle : s.shared.handlers = []) : Advanced .select ⟨s.shared, ⟨held, .lock⟩, []⟩
  | getLock (free : s.shared.mu = none) :
      Advanced .lock ⟨{ s.shared with mu := some t }, ⟨held, .pushBack⟩, []⟩
  | pushBack :
      Advanced .pushBack
        ⟨{ s.shared with
            reqList := s.shared.reqList ++ [s.shared.reqs.length]
            reqs := s.shared.reqs ++ [none] }, ⟨held, .getUnlock s.shared.reqs.length⟩, []⟩
  | getUnlock (req : Req) :
      Advanced (.getUnlock req)
        ⟨{ s.shared with mu := none }, ⟨held, .await req⟩, []⟩
  | awaited (req : Req) (handler : Handler) (full : s.shared.reqs[req]? = some (some handler)) :
      Advanced (.await req)
        ⟨{ s.shared with reqs := s.shared.reqs.set req none }, ⟨held ++ [handler], .away⟩, []⟩
  | putLock (handler : Handler) (free : s.shared.mu = none) :
      Advanced (.put handler)
        ⟨{ s.shared with mu := some t }, ⟨held, .putLocked handler⟩, []⟩
  | sent (handler : Handler) (first : Req) (rest : List Req)
      (queue : s.shared.reqList = first :: rest) (room : s.shared.reqs[first]? = some none) :
      Advanced (.putLocked handler)
        ⟨{ s.shared with
            reqList := rest
            reqs := s.shared.reqs.set first (some handler)
            served := s.shared.served ++ [first] }, ⟨held, .putUnlock⟩, []⟩
  | stored (handler : Handler) (queue : s.shared.reqList = [])
      (room : s.shared.handlers.length < count) :
      Advanced (.putLocked handler)
        ⟨{ s.shared with handlers := s.shared.handlers ++ [handler] }, ⟨held, .putUnlock⟩, []⟩
  | putUnlock : Advanced .putUnlock ⟨{ s.shared with mu := none }, ⟨held, .away⟩, []⟩

end

theorem advanced_of_advance {count : Nat} {s : State} {t : Nat} {th : Thread}
    {choice : Choice} {move : Move Shared Thread}
    (moved : advance count s t th choice = some move) : Advanced count s t th.held th.pc move := by
  obtain ⟨held, pc⟩ := th
  simp only [advance] at moved
  split at moved
  case h_9 =>
    obtain ⟨sh, put, rfl⟩ := Option.map_eq_some_iff.mp moved
    unfold Shared.put at put
    repeat' split at put
    all_goals cases put
    all_goals constructor <;> assumption
  all_goals repeat' split at moved
  all_goals cases moved
  all_goals constructor <;> assumption

end TaosAdapter.HandlerPool
