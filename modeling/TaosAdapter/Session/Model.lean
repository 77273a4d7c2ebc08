import TaosAdapter.Lib.Machine

/-!
Contract: one websocket session as four kinds of goroutines run it, from
`tools/melody/session.go`, `tools/melody/melody.go`, `controller/ws/ws` and
`controller/ws/tmq`.

Owns: the read pump with its callbacks, the write pump, one goroutine per
request, the goroutine that waits for user and whitelist changes, the bounded
output channel, the session lock, the two closed flags and the wait group.

The `/ws` and `/rest/tmq` controllers run the same machine; `Protocol` names their
differences.
-/

namespace TaosAdapter.Session

open Lib

inductive Frame where
  | text
  | binary
  | close
deriving DecidableEq

/-- What a controller fixes about its sessions. -/
structure Protocol (Action : Type) where
  /-- The handler of the action starts with `lock`. -/
  takesLock : Action → Bool
  /-- The handler of the action starts `waitSignal` when it succeeds. -/
  startsSignal : Action → Bool
  /-- The close callback ends with `session.Close()`. -/
  answersClose : Bool
  /-- The close, error and disconnect callbacks clear the session's key. -/
  clearsKey : Bool

/-- Where `CloseWs` or a write to the session returns to. -/
inductive Return (Action : Type) where
  /-- A request goroutine; `locked` when it holds the session lock. -/
  | request (action : Action) (locked : Bool)
  /-- The write pump's error callback: the pump ends. -/
  | pumpEnd
  /-- The first half of the read pump's close callback. -/
  | closeFrame
  /-- The answer to a close frame: the read that saw the frame fails. -/
  | closeAnswered
  /-- The read pump's error callback: the read loop ends. -/
  | readEnd
  /-- The disconnect callback. -/
  | disconnected
  /-- `session.Close()` in `signalExit`, with the session lock held. -/
  | signalSent
  /-- `Close()` at the end of `signalExit`. -/
  | signalEnd
deriving DecidableEq

/-- Program counters. Each names the shared access that comes next. -/
inductive Pc (Action : Type) where
  -- the read pump
  | reading
  | dispatch (action : Action)
  | stopStatus
  | closeOutput
  -- the write pump
  | taking
  | writing (frame : Frame)
  -- a request goroutine
  | check (action : Action)
  | lockWait (action : Action)
  | lockedCheck (action : Action)
  | work (action : Action) (locked : Bool)
  | done
  -- the signal goroutine
  | signals
  | signalLock (dropped : Bool)
  | signalCheck (dropped : Bool)
  | signalUnlock
  -- a write to the session
  | write (frame : Frame) (back : Return Action)
  | writeMessage (frame : Frame) (back : Return Action)
  | sending (frame : Frame) (back : Return Action)
  -- a callback that closes the handler
  | closeKey (back : Return Action)
  | closeLock (back : Return Action)
  | closeCheck (back : Return Action)
  | closeWait (back : Return Action)
  | closeExit (back : Return Action)
  | clearKey (back : Return Action)
  | finished
  | panicked
deriving DecidableEq

/-- The session and its handler. -/
structure Shared where
  output : List Frame
  outputClosed : Bool
  /-- The session's status is `StatusStop`. -/
  stopped : Bool
  /-- The handler's mutex. -/
  lock : Option Nat
  /-- The handler's closed flag. -/
  closed : Bool
  exitClosed : Bool
  /-- The session's key still holds the handler. -/
  keyed : Bool
  /-- A request has set the connection and started the signal goroutine. -/
  connected : Bool
deriving DecidableEq

/-- The scheduler's and the environment's resolution of one step. -/
inductive Choice (Action : Type) where
  | go
  /-- A message arrives at the read pump. -/
  | message (action : Action)
  /-- A close frame arrives at the read pump. -/
  | closeFrame
  | readError
  | writeError
  /-- A request goroutine writes a frame. -/
  | respond (frame : Frame)
  /-- A request goroutine connected and starts `waitSignal`. -/
  | connect
  | dropUser
  | whitelistChange
  /-- The new whitelist excludes the session, or reading it failed. -/
  | refused
  | exit
deriving DecidableEq

abbrev State (Action : Type) := Snapshot Shared (Pc Action)

section

variable {Action : Type} (protocol : Protocol Action)

/-- The program counter after `CloseWs` or a write returns. -/
def resume : Return Action → Pc Action
  | .request action locked => .work action locked
  | .pumpEnd => .finished
  | .closeFrame =>
    if protocol.answersClose then .write .close .closeAnswered else .closeKey .readEnd
  | .closeAnswered => .closeKey .readEnd
  | .readEnd => .stopStatus
  | .disconnected => .finished
  | .signalSent => .signalUnlock
  | .signalEnd => .finished

/-- The goroutine is counted by the handler's wait group. -/
def Return.isRequest : Return Action → Bool
  | .request _ _ => true
  | _ => false

def Pc.isRequest : Pc Action → Bool
  | .check _ | .lockWait _ | .lockedCheck _ | .work _ _ | .done => true
  | .write _ back | .writeMessage _ back | .sending _ back | .closeKey back | .closeLock back
  | .closeCheck back | .closeWait back | .closeExit back | .clearKey back => back.isRequest
  | _ => false

/-- The counter of the handler's wait group: `Add(1)` comes with the start of a
request goroutine and `Done()` is its last step. -/
def waiting (s : State Action) : Nat :=
  tally (fun pc => if pc.isRequest then 1 else 0) s.threads

/-- The read loop, and `HandleRequestWithKeys` after it. -/
def advanceRead (shared : Shared) : Pc Action → Choice Action → Option (Move Shared (Pc Action))
  | .reading, .message action =>
    -- `MustGet(..).(*messageHandler)` panics on the cleared key.
    if shared.keyed = false then some ⟨shared, .panicked, []⟩
    else if shared.closed then some ⟨shared, .reading, []⟩
    else some ⟨shared, .dispatch action, []⟩
  | .reading, .closeFrame => some ⟨shared, .closeKey .closeFrame, []⟩
  | .reading, .readError => some ⟨shared, .closeKey .readEnd, []⟩
  | .dispatch action, .go => some ⟨shared, .reading, [.check action]⟩
  | .stopStatus, .go => some ⟨{ shared with stopped := true }, .closeOutput, []⟩
  | .closeOutput, .go =>
    some ⟨{ shared with outputClosed := true }, .closeKey .disconnected, []⟩
  | _, _ => none

def advancePump (shared : Shared) : Pc Action → Choice Action → Option (Move Shared (Pc Action))
  | .taking, .go =>
    match shared.output with
    | frame :: rest => some ⟨{ shared with output := rest }, .writing frame, []⟩
    | [] => if shared.outputClosed then some ⟨shared, .finished, []⟩ else none
  | .writing frame, .go =>
    if shared.stopped then some ⟨shared, .closeKey .pumpEnd, []⟩
    else if frame = .close then some ⟨shared, .finished, []⟩
    else some ⟨shared, .taking, []⟩
  | .writing _, .writeError => some ⟨shared, .closeKey .pumpEnd, []⟩
  | _, _ => none

def advanceRequest (t : Nat) (shared : Shared) :
    Pc Action → Choice Action → Option (Move Shared (Pc Action))
  | .check action, .go =>
    if shared.closed then some ⟨shared, .done, []⟩
    else if protocol.takesLock action then some ⟨shared, .lockWait action, []⟩
    else some ⟨shared, .work action false, []⟩
  | .lockWait action, .go =>
    if shared.lock = none then some ⟨{ shared with lock := some t }, .lockedCheck action, []⟩
    else none
  | .lockedCheck action, .go =>
    if shared.closed then some ⟨{ shared with lock := none }, .done, []⟩
    else some ⟨shared, .work action true, []⟩
  | .work action locked, .respond frame =>
    some ⟨shared, .write frame (.request action locked), []⟩
  | .work action true, .connect =>
    if protocol.startsSignal action = true ∧ shared.connected = false then
      some ⟨{ shared with connected := true }, .work action true, [.signals]⟩
    else none
  | .work _ true, .go => some ⟨{ shared with lock := none }, .done, []⟩
  | .work _ false, .go => some ⟨shared, .done, []⟩
  | .done, .go => some ⟨shared, .finished, []⟩
  | _, _ => none

def advanceSignal (t : Nat) (shared : Shared) :
    Pc Action → Choice Action → Option (Move Shared (Pc Action))
  | .signals, .dropUser => some ⟨shared, .signalLock true, []⟩
  | .signals, .whitelistChange => some ⟨shared, .signalLock false, []⟩
  | .signals, .exit => if shared.exitClosed then some ⟨shared, .finished, []⟩ else none
  | .signalLock dropped, .go =>
    if shared.lock = none then some ⟨{ shared with lock := some t }, .signalCheck dropped, []⟩
    else none
  | .signalCheck dropped, .go =>
    if shared.closed then some ⟨{ shared with lock := none }, .finished, []⟩
    else if dropped then some ⟨shared, .write .close .signalSent, []⟩
    else some ⟨{ shared with lock := none }, .signals, []⟩
  | .signalCheck false, .refused =>
    if shared.closed then none else some ⟨shared, .write .close .signalSent, []⟩
  | .signalUnlock, .go => some ⟨{ shared with lock := none }, .closeLock .signalEnd, []⟩
  | _, _ => none

/-- `Write`, `WriteBinary` and `Close` of the session, and `writeMessage`. A
send on the closed channel panics and is recovered into the error callback. -/
def advanceWrite (capacity : Nat) (shared : Shared) :
    Pc Action → Choice Action → Option (Move Shared (Pc Action))
  | .write frame back, .go =>
    if shared.stopped then some ⟨shared, resume protocol back, []⟩
    else some ⟨shared, .writeMessage frame back, []⟩
  | .writeMessage frame back, .go =>
    if shared.stopped then some ⟨shared, .closeKey back, []⟩
    else some ⟨shared, .sending frame back, []⟩
  | .sending frame back, .go =>
    if shared.outputClosed then some ⟨shared, .closeKey back, []⟩
    else if shared.output.length < capacity then
      some ⟨{ shared with output := shared.output ++ [frame] }, resume protocol back, []⟩
    else none
  | _, _ => none

/-- `CloseWs` and `Close` of the handler. The first `Close` waits for the wait
group with the lock held; every later one finds the closed flag. -/
def advanceClose (t waiting : Nat) (shared : Shared) :
    Pc Action → Choice Action → Option (Move Shared (Pc Action))
  | .closeKey back, .go =>
    if shared.keyed then some ⟨shared, .closeLock back, []⟩
    else some ⟨shared, resume protocol back, []⟩
  | .closeLock back, .go =>
    if shared.lock = none then some ⟨{ shared with lock := some t }, .closeCheck back, []⟩
    else none
  | .closeCheck back, .go =>
    if shared.closed then some ⟨{ shared with lock := none }, .clearKey back, []⟩
    else some ⟨{ shared with closed := true }, .closeWait back, []⟩
  | .closeWait back, .go => if waiting = 0 then some ⟨shared, .closeExit back, []⟩ else none
  | .closeExit back, .go =>
    some ⟨{ shared with exitClosed := true, lock := none }, .clearKey back, []⟩
  | .clearKey .signalEnd, .go => some ⟨shared, .finished, []⟩
  | .clearKey back, .go =>
    some ⟨{ shared with keyed := shared.keyed && !protocol.clearsKey }, resume protocol back, []⟩
  | _, _ => none

def advance (capacity : Nat) (s : State Action) (t : Nat) (pc : Pc Action)
    (choice : Choice Action) : Option (Move Shared (Pc Action)) :=
  match pc with
  | .reading | .dispatch _ | .stopStatus | .closeOutput => advanceRead s.shared pc choice
  | .taking | .writing _ => advancePump s.shared pc choice
  | .check _ | .lockWait _ | .lockedCheck _ | .work _ _ | .done =>
    advanceRequest protocol t s.shared pc choice
  | .signals | .signalLock _ | .signalCheck _ | .signalUnlock =>
    advanceSignal t s.shared pc choice
  | .write _ _ | .writeMessage _ _ | .sending _ _ =>
    advanceWrite protocol capacity s.shared pc choice
  | .closeKey _ | .closeLock _ | .closeCheck _ | .closeWait _ | .closeExit _ | .clearKey _ =>
    advanceClose protocol t (waiting s) s.shared pc choice
  | .finished | .panicked => none

/-- The session after the connect callback: thread 0 is the read pump and
thread 1 the write pump. -/
def opened : State Action where
  shared := ⟨[], false, false, none, false, false, true, false⟩
  threads := [.reading, .taking]

/-- A session with an output channel of the given capacity. -/
def machine (capacity : Nat) : Machine Shared (Pc Action) (Choice Action) where
  initial s := s = opened
  advance := advance protocol capacity

end

def goes {Action : Type} (t count : Nat) : List (Nat × Choice Action) :=
  List.replicate count (t, .go)

/-- The actions `handleMessage` and `handleMessageBinary` tell apart. -/
inductive WsAction where
  | invalid | version | connect
  | query | fetch | fetchBlock | freeResult | numFields
  | schemalessWrite
  | stmtInit | stmtPrepare | stmtSetTableName | stmtSetTags | stmtBind | stmtAddBatch | stmtExec
  | stmtClose | stmtGetTagFields | stmtGetColFields | stmtUseResult | stmtNumParams | stmtGetParam
  | stmt2Init | stmt2Prepare | stmt2Exec | stmt2Result | stmt2Close
  | getCurrentDB | getServerInfo | optionsConnection
  | stmtBinarySetTags | stmtBinaryBind | binaryTMQRawMessage | binaryRawBlockMessage
  | binaryRawBlockMessageWithFields | binaryQuery | fetchRawBlock | stmt2BinaryBind
deriving DecidableEq

def ws : Protocol WsAction where
  takesLock action := action = .connect
  startsSignal action := action = .connect
  answersClose := true
  clearsKey := true

inductive TmqAction where
  | invalid | version | subscribe | poll | fetch | fetchBlock | commit | fetchJsonMeta
  | fetchRawBlock | fetchRawBlockNew | unsubscribe | assignment | offsetSeek | committed | position
  | listTopics | commitOffset
deriving DecidableEq

def tmq : Protocol TmqAction where
  takesLock action := action = .subscribe || action = .unsubscribe
  startsSignal action := action = .subscribe
  answersClose := false
  clearsKey := false

end TaosAdapter.Session
