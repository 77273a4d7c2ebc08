import TaosAdapter.Lib.Machine
import Mathlib.Logic.Function.Basic

/-!
Contract: the query results and the statements of one `/ws` session, from
`controller/ws/ws/query_result.go`, and the requests that work on them, from
`query.go`, `fetch.go`, `free.go`, `stmt.go` and `stmt2.go`.

Owns: `QueryResultHolder` and `StmtHolder` with their list locks, the items with
their own locks, the walk of `FreeAll`, and for each request the order of its
lock operations and of the calls that use or release what an item points to.
Any number of requests run at once.

An item is named by its position in creation order. A holder is its list of
items and the last id it gave out, an `uint64`. `Get` and `Add` hold the list
lock for one step; the functions that free hold it over the lock of each item.
`history` is a ghost: what the requests did, in order.
-/

namespace TaosAdapter.Holders

open Lib

/-- The two holders of a session. -/
inductive Side where
  | results
  | stmts
deriving DecidableEq

abbrev Item := Nat

inductive Kind where
  /-- The result of a query. -/
  | result
  /-- A result of a statement: `inStmt` is set. -/
  | stmtResult (stmt : Item)
  | stmt
  | stmt2
deriving DecidableEq

def Kind.side : Kind → Side
  | .result | .stmtResult _ => .results
  | .stmt | .stmt2 => .stmts

def Kind.isStmt2 : Kind → Bool
  | .stmt2 => true
  | _ => false

/-- What the item points to is released with it. -/
def Kind.owned : Kind → Bool
  | .stmtResult _ => false
  | _ => true

/-- A `QueryResult` or a `StmtItem`. -/
structure Entry where
  kind : Kind
  index : Nat
  /-- `TaosResult`, or `stmt`, is not nil. -/
  pointer : Bool
  /-- `result` of the item is not nil. -/
  result : Bool
  lock : Option Nat
deriving DecidableEq

structure Holder where
  index : Nat
  nodes : List Item
  lock : Option Nat
deriving DecidableEq

/-- An id with the type that is expected under it: the arguments of `Get` of the
results, of `Get` and `GetStmt2` of the statements, of `FreeResultByID` and of
`FreeStmtByID`. -/
inductive Lookup where
  | result (id : Nat)
  | stmt (isStmt2 : Bool) (id : Nat)
deriving DecidableEq

def Lookup.side : Lookup → Side
  | .result _ => .results
  | .stmt _ _ => .stmts

def Lookup.id : Lookup → Nat
  | .result id | .stmt _ id => id

def Lookup.accepts : Lookup → Kind → Bool
  | .result _, _ => true
  | .stmt isStmt2 _, kind => isStmt2 == kind.isStmt2

inductive Event where
  | added (kind : Kind) (item : Item) (id : Nat)
  | got (lookup : Lookup) (found : Option Item)
  /-- What the item points to is given to the client library. -/
  | used (item : Item)
  /-- What the item pointed to when a fetch of it failed is given to
  `taos_errstr`; the item is not locked any more. -/
  | errorStr (item : Item)
  | executed (stmt : Item)
  /-- `taos_free_result`, `taos_stmt_close` or `taos_stmt2_close`. -/
  | released (item : Item)
  /-- The callback handle of a `stmt2` goes back to its pool. -/
  | handlerPut (item : Item)
  /-- The item is freed and out of its list. -/
  | freed (item : Item)
  /-- `FreeResultByID` or `FreeStmtByID` is through with its list. -/
  | freedByID (lookup : Lookup)
  /-- `FreeAll` is through with its list. -/
  | freedAll (side : Side)
deriving DecidableEq

structure Shared where
  items : List Entry
  holders : Side → Holder
  history : List Event

namespace Shared

variable (shared : Shared)

def log (event : Event) : Shared :=
  { shared with history := shared.history ++ [event] }

def nodes (side : Side) : List Item :=
  (shared.holders side).nodes

def lockList (side : Side) (owner : Option Nat) : Shared :=
  { shared with
    holders := Function.update shared.holders side { shared.holders side with lock := owner } }

def lockItem (item : Item) (owner : Option Nat) : Shared :=
  { shared with items := shared.items.modify item fun entry => { entry with lock := owner } }

/-- The result of an execution; only a `stmt2` keeps it in its item. -/
def setResult (item : Item) (result : Option Bool) : Shared :=
  { shared with
    items := shared.items.modify item fun entry =>
      { entry with
        result := if entry.kind.isStmt2 then result.getD entry.result else entry.result } }

def add (kind : Kind) (pointer : Bool) : Shared :=
  let holder := shared.holders kind.side
  let index := (holder.index + 1) % 2 ^ 64
  let item := shared.items.length
  { items := shared.items ++ [⟨kind, index, pointer, false, none⟩]
    holders := Function.update shared.holders kind.side
      { holder with index := index, nodes := holder.nodes ++ [item] }
    history := shared.history ++ [.added kind item index] }

def find (side : Side) (id : Nat) : Option Item :=
  (shared.nodes side).find? fun item => (shared.items[item]?).any fun entry => entry.index = id

/-- The item under an id, if it has the expected type. -/
def get (lookup : Lookup) : Option Item :=
  (shared.find lookup.side lookup.id).filter fun item =>
    (shared.items[item]?).any fun entry => lookup.accepts entry.kind

/-- What `free` of an item does with what it points to. -/
def freeEvents (item : Item) (kind : Kind) : List Event :=
  match kind with
  | .result | .stmt => [.released item]
  | .stmtResult _ => []
  | .stmt2 => [.released item, .handlerPut item]

/-- The body of `free`, and the unlock that ends it. -/
def free (item : Item) (entry : Entry) : Shared :=
  if entry.pointer then
    { shared with
      items := shared.items.set item { entry with pointer := false, lock := none }
      history := shared.history ++ freeEvents item entry.kind }
  else shared.lockItem item none

def remove (side : Side) (item : Item) : Shared :=
  { shared with
    holders := Function.update shared.holders side
      { shared.holders side with nodes := (shared.nodes side).erase item } }

def next (side : Side) (item : Item) : Option Item :=
  ((shared.nodes side).dropWhile (· ≠ item)).tail.head?

end Shared

/-- What a request does with the statement it looks up. -/
inductive StmtTask where
  /-- It only uses the statement. -/
  | call
  | exec
  | useResult
deriving DecidableEq

/-- What a request does with the item it looks up. -/
inductive Task where
  /-- `fetch`, `fetch_block`, `num_fields`, `fetch_raw_block`. -/
  | fetch (id : Nat)
  | stmt (task : StmtTask)
deriving DecidableEq

inductive Request where
  | query
  | stmtInit (isStmt2 : Bool)
  | fetch (id : Nat)
  | stmt (isStmt2 : Bool) (id : Nat) (task : StmtTask)
  | freeResult (id : Nat)
  | stmtClose (isStmt2 : Bool) (id : Nat)
  /-- `FreeAll`, when the session is closed. -/
  | freeAll (side : Side)
deriving DecidableEq

/-- What a function that frees looks for. -/
inductive Target where
  | byID (lookup : Lookup)
  | all (side : Side)
deriving DecidableEq

def Target.side : Target → Side
  | .byID lookup => lookup.side
  | .all side => side

/-- What follows the removal of a node. -/
inductive After where
  /-- The item was looked up, and the function returns. -/
  | byID (lookup : Lookup)
  /-- The loop of `FreeAll`, with the node it read before the removal. -/
  | walk (next : Option Item)
deriving DecidableEq

inductive Pc where
  /-- Where requests come from. -/
  | requests
  /-- `Add` of a new item. -/
  | add (kind : Kind)
  | get (lookup : Lookup) (task : Task)
  /-- `item.Lock()` -/
  | lockItem (item : Item) (task : Task)
  /-- The nil check, with the item locked. -/
  | check (item : Item) (task : Task)
  | work (item : Item) (task : Task)
  /-- `TaosErrorStr(result.Res)` after a fetch that failed and unlocked the item. -/
  | errorStr (item : Item) (id : Nat)
  /-- `queryResults.Add` in `use_result`, with the statement locked. -/
  | register (stmt : Item) (pointer : Bool)
  /-- `h.Lock()` in a function that frees; the list is locked from here on. -/
  | freeLock (target : Target)
  | search (lookup : Lookup)
  | walk (side : Side) (node : Option Item)
  /-- `Lock()` in `free` of the item. -/
  | freeItem (side : Side) (item : Item) (after : After)
  | freeing (side : Side) (item : Item) (after : After)
  | remove (side : Side) (item : Item) (after : After)
  | unlockList (side : Side)
  | done
  /-- The request is answered with an error. -/
  | failed (message : String)
deriving DecidableEq

inductive Choice where
  | go
  | request (request : Request)
  /-- The item is used once more. -/
  | use
  /-- The statement is executed; `none` if that fails, otherwise whether there is
  a result. -/
  | exec (result : Option Bool)
  /-- `use_result`; `taos_stmt_use_result` gives a result or nil. -/
  | useResult (given : Bool)
  /-- The request is through and unlocks the item. -/
  | leave
  /-- The fetch found no more rows: it unlocks and frees. -/
  | complete
  /-- The fetch failed: it unlocks, reads the error and frees. -/
  | fail
deriving DecidableEq

abbrev State := Snapshot Shared Pc

def Request.start : Request → Pc
  | .query => .add .result
  | .stmtInit isStmt2 => .add (if isStmt2 then .stmt2 else .stmt)
  | .fetch id => .get (.result id) (.fetch id)
  | .stmt isStmt2 id task => .get (.stmt isStmt2 id) (.stmt task)
  | .freeResult id => .freeLock (.byID (.result id))
  | .stmtClose isStmt2 id => .freeLock (.byID (.stmt isStmt2 id))
  | .freeAll side => .freeLock (.all side)

/-- The answer when nothing is found under an id. -/
def Lookup.missing : Lookup → String
  | .result _ => "result is nil"
  | .stmt false _ => "stmt is nil"
  | .stmt true _ => "stmt2 is nil"

/-- The answer when the item was freed before it could be locked. -/
def Kind.freedMessage : Kind → String
  | .result | .stmtResult _ => "result has been freed"
  | .stmt | .stmt2 => "stmt has been freed"

def advanceGet (s : State) (t : Nat) : Pc → Choice → Option (Move Shared Pc)
  | .get lookup task, .go =>
    if (s.shared.holders lookup.side).lock = none then
      let found := s.shared.get lookup
      some ⟨s.shared.log (.got lookup found),
        match found with
        | some item => .lockItem item task
        | none => .failed lookup.missing, []⟩
    else none
  | .lockItem item task, .go =>
    match s.shared.items[item]? with
    | some entry =>
      if entry.lock = none then
        some ⟨s.shared.lockItem item (some t), .check item task, []⟩
      else none
    | none => none
  | .check item task, .go =>
    match s.shared.items[item]? with
    | some entry =>
      if entry.pointer then some ⟨s.shared, .work item task, []⟩
      else some ⟨s.shared.lockItem item none, .failed entry.kind.freedMessage, []⟩
    | none => none
  | _, _ => none

/-- The body of a request. The item is locked, except where the error of a fetch
is read. -/
def advanceWork (s : State) : Pc → Choice → Option (Move Shared Pc)
  | .work item task, .use => some ⟨s.shared.log (.used item), .work item task, []⟩
  | .work item (.stmt .exec), .exec result =>
    some ⟨(s.shared.setResult item result).log (.executed item), .work item (.stmt .call), []⟩
  | .work item (.stmt .useResult), .useResult given =>
    match s.shared.items[item]? with
    | some entry =>
      if entry.kind.isStmt2 then some ⟨s.shared, .register item entry.result, []⟩
      else if given then some ⟨s.shared, .register item true, []⟩
      else some ⟨s.shared, .work item (.stmt .call), []⟩
    | none => none
  | .register stmt pointer, .go =>
    if (s.shared.holders .results).lock = none then
      some ⟨s.shared.add (.stmtResult stmt) pointer, .work stmt (.stmt .call), []⟩
    else none
  | .work item _, .leave => some ⟨s.shared.lockItem item none, .done, []⟩
  | .work item (.fetch id), .complete =>
    some ⟨s.shared.lockItem item none, .freeLock (.byID (.result id)), []⟩
  | .work item (.fetch id), .fail => some ⟨s.shared.lockItem item none, .errorStr item id, []⟩
  | .errorStr item id, .go =>
    some ⟨s.shared.log (.errorStr item), .freeLock (.byID (.result id)), []⟩
  | _, _ => none

/-- `FreeResultByID`, `FreeStmtByID` and `FreeAll`. -/
def advanceFree (s : State) (t : Nat) : Pc → Choice → Option (Move Shared Pc)
  | .freeLock target, .go =>
    if (s.shared.holders target.side).lock = none then
      some ⟨s.shared.lockList target.side (some t),
        match target with
        | .byID lookup => .search lookup
        | .all side => .walk side (s.shared.nodes side).head?, []⟩
    else none
  | .search lookup, .go =>
    match s.shared.get lookup with
    | some item => some ⟨s.shared, .freeItem lookup.side item (.byID lookup), []⟩
    -- Nothing under the id, or `stmt type not match`.
    | none => some ⟨s.shared.log (.freedByID lookup), .unlockList lookup.side, []⟩
  | .walk side (some item), .go =>
    some ⟨s.shared, .freeItem side item (.walk (s.shared.next side item)), []⟩
  | .walk side none, .go => some ⟨s.shared.log (.freedAll side), .unlockList side, []⟩
  | .freeItem side item after, .go =>
    match s.shared.items[item]? with
    | some entry =>
      if entry.lock = none then
        some ⟨s.shared.lockItem item (some t), .freeing side item after, []⟩
      else none
    | none => none
  | .freeing side item after, .go =>
    match s.shared.items[item]? with
    | some entry => some ⟨s.shared.free item entry, .remove side item after, []⟩
    | none => none
  | .remove side item (.byID lookup), .go =>
    some ⟨((s.shared.remove side item).log (.freed item)).log (.freedByID lookup),
      .unlockList side, []⟩
  | .remove side item (.walk next), .go =>
    some ⟨(s.shared.remove side item).log (.freed item), .walk side next, []⟩
  | .unlockList side, .go => some ⟨s.shared.lockList side none, .done, []⟩
  | _, _ => none

def advance (s : State) (t : Nat) (pc : Pc) (choice : Choice) : Option (Move Shared Pc) :=
  match pc with
  | .requests =>
    match choice with
    | .request request => some ⟨s.shared, .requests, [request.start]⟩
    | _ => none
  | .add kind =>
    if choice = .go ∧ (s.shared.holders kind.side).lock = none then
      some ⟨s.shared.add kind true, .done, []⟩
    else none
  | .get _ _ | .lockItem _ _ | .check _ _ => advanceGet s t pc choice
  | .work _ _ | .errorStr _ _ | .register _ _ => advanceWork s pc choice
  | .freeLock _ | .search _ | .walk _ _ | .freeItem _ _ _ | .freeing _ _ _ | .remove _ _ _
  | .unlockList _ => advanceFree s t pc choice
  | .done | .failed _ => none

def opened : State where
  shared := ⟨[], fun _ => ⟨0, [], none⟩, []⟩
  threads := [.requests]

def machine : Machine Shared Pc Choice where
  initial s := s = opened
  advance := advance

def goes (t count : Nat) : List (Nat × Choice) := List.replicate count (t, .go)

end TaosAdapter.Holders
