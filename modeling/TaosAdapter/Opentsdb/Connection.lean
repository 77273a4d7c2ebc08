import TaosAdapter.Lib.Transition
import TaosAdapter.Opentsdb.Telnet
import TaosAdapter.Lib.Json

/-!
Contract: `Connection.handle` and `TCPListener.stop` of
`plugin/opentsdbtelnet/plugin.go`.

Owns: the reader and the consumer of a connection with the channel between them,
the batches handed to `handleData`, which may reject the client, and a listener
that stops while connections are open.
-/

namespace TaosAdapter.OpentsdbTelnet

open Lib List Option

inductive Reader where
  | start
  | check
  | read
  | send (line : Bytes)
  | ended
deriving DecidableEq

/-- The goroutine of a connection; `drain` counts what is left of the sampled length. -/
inductive Consumer where
  | none
  | select
  | drain (left : Nat)
  | exited
deriving DecidableEq

def Reader.inHand : Reader → List Bytes
  | .send line => [line]
  | _ => []

structure Connection where
  batchSize : Nat
  /-- What the client still sends, and whether it disconnects then. -/
  input : Bytes
  ends : Bool
  reader : Reader
  exit : Bool
  closed : Bool
  dataChan : List Bytes
  cache : List Bytes
  consumer : Consumer
  /-- What was handed to `handleData`. -/
  batches : List (List Bytes)
deriving DecidableEq

def versionCommand : Bytes := ascii "version"

/-- `ReadString`: the first line without its newline, and the rest. -/
def readString : Bytes → Option (Bytes × Bytes)
  | [] => none
  | byte :: rest =>
    if byte = 10 then some ([], rest)
    else (readString rest).map fun (line, rest) => (byte :: line, rest)

namespace Connection

def opened (batchSize : Nat) (input : Bytes) (ends : Bool) : Connection :=
  ⟨batchSize, input, ends, .start, false, false, [], [], .none, []⟩

def close (c : Connection) : Connection := { c with exit := true, closed := true }

/-- `handleData` with the cache, which is emptied. -/
def handleData (rejected : Bool) (c : Connection) : Connection :=
  { c with
    batches := c.batches ++ [c.cache], cache := []
    exit := c.exit || rejected, closed := c.closed || rejected }

def append (rejected : Bool) (c : Connection) (line : Bytes) : Connection :=
  let c := { c with cache := c.cache ++ [line] }
  if c.cache.length ≥ c.batchSize then c.handleData rejected else c

def readerStep (done paused writeFails rejected : Bool) (c : Connection) : Option Connection :=
  match c.reader with
  | .start =>
    if done || c.exit then some { c with reader := .ended }
    else some { c with reader := .check, consumer := .select }
  | .check => some { c with reader := if c.closed then .ended else .read }
  | .read =>
    match readString c.input with
    | none => if c.ends then some { c.close with reader := .ended } else none
    | some (line, rest) =>
      if paused then some { c with input := rest, reader := .check }
      else if line = versionCommand then
        if writeFails then some { c.close with input := rest, reader := .ended }
        else some { c with input := rest, reader := .check }
      else some { c with input := rest, reader := .send line }
  | .send line =>
    if c.dataChan.length < 2 * c.batchSize then
      some { c with dataChan := c.dataChan ++ [line], reader := .check }
    -- a channel without a buffer hands the line to a consumer that selects
    else if c.batchSize = 0 ∧ c.consumer = .select then
      some { c.append rejected line with reader := .check }
    else none
  | .ended => none

/-- A case of the consumer's select; a drain goes on whatever it is. -/
inductive Branch where
  | exit | done | ticker | data
deriving DecidableEq

def flush (rejected : Bool) (c : Connection) : Connection :=
  if c.cache.length > 0 then c.handleData rejected else c

def consumerStep (done rejected : Bool) (branch : Branch) (c : Connection) : Option Connection :=
  match c.consumer with
  | .none | .exited => none
  | .drain 0 => some { c.flush rejected with consumer := .exited }
  | .drain (left + 1) =>
    match c.dataChan with
    | [] => none
    | line :: rest =>
      some { ({ c with dataChan := rest }).append rejected line with consumer := .drain left }
  | .select =>
    match branch with
    | .exit => if c.exit then some { c with consumer := .drain c.dataChan.length } else none
    | .done => if done then some { c with consumer := .exited } else none
    | .ticker => some { c.flush rejected with consumer := .select }
    | .data =>
      match c.dataChan with
      | [] => none
      | line :: rest =>
        some { ({ c with dataChan := rest }).append rejected line with consumer := .select }

/-- A connection that is not stopped, paused or rejected, and whose replies are written; `none`
is a step of the reader. -/
def untilEnd (batchSize : Nat) (input : Bytes) : System Connection (Option Branch) where
  initial c := c = opened batchSize input true
  next c
    | none => c.readerStep false false false false
    | some branch => c.consumerStep false false branch

def dataLines (input : Bytes) : List Bytes :=
  ((input.splitOn 10).dropLast).filter (· ≠ versionCommand)

variable {input : Bytes}

theorem readString_none (ended : readString input = none) : (10 : UInt8) ∉ input := by
  induction input with
  | nil => simp
  | cons byte rest ih =>
    simp only [readString] at ended
    split at ended
    · cases ended
    · rename_i other
      simpa [eq_comm (a := (10 : UInt8)), other] using ih (map_eq_none_iff.mp ended)

variable {rest line : Bytes}

theorem readString_some (read : readString input = some (line, rest)) :
    input = line ++ 10 :: rest ∧ (10 : UInt8) ∉ line := by
  induction input generalizing line with
  | nil => cases read
  | cons byte tail ih =>
    simp only [readString] at read
    split at read
    · rename_i newline
      cases read
      simp [newline]
    · rename_i other
      obtain ⟨⟨line, rest⟩, inner, same⟩ := map_eq_some_iff.mp read
      cases same
      obtain ⟨rfl, absent⟩ := ih inner
      exact ⟨rfl, by simpa [eq_comm (a := (10 : UInt8)), other] using absent⟩

theorem dataLines_of_none (ended : readString input = none) : dataLines input = [] := by
  rw [dataLines, splitOn_eq_singleton (readString_none ended)]
  rfl

theorem dataLines_of_some (read : readString input = some (line, rest)) :
    dataLines input = (if line = versionCommand then [] else [line]) ++ dataLines rest := by
  obtain ⟨rfl, absent⟩ := readString_some read
  rw [dataLines, Opentsdb.splitOn_line absent,
    dropLast_cons_of_ne_nil (splitOn_ne_nil 10 rest), filter_cons]
  split <;> simp_all [dataLines]

def lines (c : Connection) : List Bytes :=
  c.batches.flatten ++ c.cache ++ c.dataChan ++ c.reader.inHand ++ dataLines c.input

/-- The batches have the right sizes, and the cache is not full. -/
structure Bounded (c : Connection) : Prop where
  batches : ∀ batch ∈ c.batches, 1 ≤ batch.length ∧ batch.length ≤ c.batchSize
  cache : c.cache.length < c.batchSize

/-- The reader closes the connection when it ends, and only then does the consumer leave. -/
structure Control (batchSize : Nat) (c : Connection) : Prop where
  size : c.batchSize = batchSize
  started : c.consumer = .none → c.reader = .start
  ends : c.ends = true
  exit : c.exit = true ↔ c.reader = .ended
  closed : c.closed = c.exit
  ended : c.reader = .ended → dataLines c.input = []
  drain : ∀ left, c.consumer = .drain left → c.exit = true ∧ c.dataChan.length = left
  exited : c.consumer = .exited → c.exit = true ∧ c.dataChan = [] ∧ c.cache = []

variable {batchSize : Nat} {c c' : Connection}

theorem Bounded.handleData (batches : ∀ batch ∈ c.batches, 1 ≤ batch.length ∧
    batch.length ≤ c.batchSize) (some : 1 ≤ c.cache.length)
    (atMost : c.cache.length ≤ c.batchSize) : (c.handleData false).Bounded where
  batches := by simpa [Connection.handleData, or_imp, forall_and, some, atMost] using batches
  cache := lt_of_lt_of_le some atMost

theorem Bounded.append (bounded : c.Bounded) (line : Bytes) : (c.append false line).Bounded := by
  obtain ⟨batches, cache⟩ := bounded
  unfold Connection.append
  dsimp only
  split
  · exact .handleData batches (by simp) (by simp; omega)
  · exact ⟨batches, by simp_all⟩

theorem Bounded.flush (bounded : c.Bounded) : (c.flush false).Bounded := by
  unfold Connection.flush
  split
  · exact .handleData bounded.batches ‹_› bounded.cache.le
  · exact bounded

theorem lines_append (line : Bytes) (rest : List Bytes) (full : c.dataChan = line :: rest) :
    (({ c with dataChan := rest }).append false line).lines = c.lines := by
  unfold append handleData
  dsimp only
  split <;> simp [lines, full]

theorem lines_flush : (c.flush false).lines = c.lines := by
  unfold flush handleData
  split <;> simp [lines]

section

variable (bounded : c.Bounded) (stepped : c.readerStep false false false false = some c')

include bounded stepped

theorem lines_reader : c'.lines = c.lines := by
  unfold readerStep at stepped
  cases here : c.reader with
  | ended => simp [here] at stepped
  | start | check =>
    simp only [here] at stepped
    repeat' split at stepped
    all_goals cases stepped
    all_goals simp [lines, here, Reader.inHand]
  | read =>
    simp only [here] at stepped
    split at stepped
    · split at stepped
      · cases stepped
        simp [lines, close, here, Reader.inHand]
      · cases stepped
    · rename_i line rest read
      have lines := dataLines_of_some read
      repeat' split at stepped
      all_goals cases stepped
      all_goals simp_all [Connection.lines, Reader.inHand]
  | send line =>
    have pos := bounded.cache
    simp only [here, show ¬ (c.batchSize = 0) by omega, false_and, if_false] at stepped
    split at stepped
    · cases stepped
      simp [lines, here, Reader.inHand]
    · cases stepped

theorem Bounded.reader : c'.Bounded := by
  obtain ⟨batches, cache⟩ := bounded
  unfold readerStep at stepped
  repeat' split at stepped
  all_goals cases stepped
  all_goals first | exact ⟨batches, cache⟩ | omega

end

theorem Control.reader (bounded : c.Bounded) (control : Control batchSize c)
    (stepped : c.readerStep false false false false = some c') : Control batchSize c' := by
  obtain ⟨size, started, ends, exit, closed, ended, drain, exited⟩ := control
  have pos := bounded.cache
  unfold readerStep at stepped
  repeat' split at stepped
  all_goals cases stepped
  all_goals constructor <;> grind [close, dataLines_of_none]

/-- What a step of the consumer does. -/
inductive Consumed (c : Connection) : Connection → Prop
  | leaves (select : c.consumer = .select) (exit : c.exit = true) :
      Consumed c { c with consumer := .drain c.dataChan.length }
  | flushes {pc}
      (here : c.consumer = .select ∧ pc = .select ∨ c.consumer = .drain 0 ∧ pc = .exited) :
      Consumed c { c.flush false with consumer := pc }
  | appends {line rest pc} (full : c.dataChan = line :: rest)
      (here : c.consumer = .select ∧ pc = .select ∨ ∃ left, c.consumer = .drain
        (left + 1) ∧ pc = .drain left) :
      Consumed c { ({ c with dataChan := rest }).append false line with consumer := pc }

variable {branch : Branch}

theorem consumed_of_step (stepped : c.consumerStep false false branch = some c') :
    Consumed c c' := by
  unfold consumerStep at stepped
  repeat' split at stepped
  all_goals cases stepped
  all_goals first
    | contradiction
    | exact .leaves ‹_› ‹_›
    | exact .flushes (.inr ⟨‹_›, rfl⟩)
    | exact .flushes (.inl ⟨‹_›, rfl⟩)
    | exact .appends ‹_› (.inr ⟨_, ‹_›, rfl⟩)
    | exact .appends ‹_› (.inl ⟨‹_›, rfl⟩)

theorem lines_consumed (consumed : Consumed c c') : c'.lines = c.lines := by
  cases consumed with
  | leaves => rfl
  | flushes => exact lines_flush
  | appends full => exact lines_append _ _ full

theorem Bounded.consumed (bounded : c.Bounded) (consumed : Consumed c c') : c'.Bounded := by
  cases consumed with
  | leaves => exact ⟨bounded.batches, bounded.cache⟩
  | flushes => exact ⟨bounded.flush.batches, bounded.flush.cache⟩
  | @appends line rest =>
    have taken : Bounded { c with dataChan := rest } := ⟨bounded.batches, bounded.cache⟩
    exact ⟨(taken.append line).batches, (taken.append line).cache⟩

theorem Control.consumed (control : Control batchSize c) (consumed : Consumed c c') : Control
    batchSize c' := by
  obtain ⟨size, started, ends, exit, closed, ended, drain, exited⟩ := control
  cases consumed with
  | leaves => constructor <;> grind
  | flushes =>
    unfold flush handleData
    split <;> constructor <;> grind
  | appends full here =>
    unfold append handleData
    dsimp only
    split <;> constructor <;> grind

theorem flows_of_reachable (pos : 1 ≤ batchSize) (reached : (untilEnd batchSize input).Reachable c)
    : c.lines = dataLines input ∧ c.Bounded ∧ Control batchSize c := by
  induction reached with
  | start initial =>
    cases initial
    refine ⟨rfl, ⟨by simp [opened], pos⟩, ?_⟩
    constructor <;> simp [opened]
  | @step _ _ label _ _ stepped ih =>
    obtain ⟨lines, bounded, control⟩ := ih
    cases label with
    | none =>
      exact ⟨(lines_reader bounded stepped).trans lines, bounded.reader stepped,
        control.reader bounded stepped⟩
    | some branch =>
      have consumed := consumed_of_step stepped
      exact ⟨(lines_consumed consumed).trans lines, bounded.consumed consumed,
        control.consumed consumed⟩

/-- The reader waits for a client that is silent, or for room in a channel nobody takes from. -/
def blocked (c : Connection) : Bool :=
  match c.reader with
  | .read => (readString c.input).isNone && !c.ends
  | .send _ => decide (2 * c.batchSize ≤ c.dataChan.length) && decide (c.consumer = .exited)
  | _ => false

/-- The reader is not in its loop, or its client disconnects and all that it still sends fits
into the channel. -/
def Safe (c : Connection) : Prop :=
  c.reader = .ended ∨ c.reader = .start ∨
    c.ends = true ∧ c.dataChan.length + c.reader.inHand.length + c.input.count 10 ≤ 2 * c.batchSize

instance (c : Connection) : Decidable c.Safe :=
  inferInstanceAs (Decidable (_ ∨ _ ∨ _ ∧ _))

theorem Safe.not_blocked (safe : c.Safe) : c.blocked = false := by
  rcases safe with ended | start | ⟨ends, room⟩
  · simp [blocked, ended]
  · simp [blocked, start]
  · cases here : c.reader with
    | send line =>
      simp only [here, Reader.inHand, length_singleton] at room
      simp only [blocked, here, Bool.and_eq_false_iff, decide_eq_false_iff_not]
      exact .inl (by omega)
    | _ => simp [blocked, here, ends]

theorem count_readString (read : readString input = some (line, rest)) :
    input.count 10 = rest.count 10 + 1 := by
  obtain ⟨rfl, absent⟩ := readString_some read
  simp [count_eq_zero.mpr absent]

variable {rejected : Bool}

theorem Safe.reader {paused writeFails : Bool} (safe : c.Safe)
    (stepped : c.readerStep true paused writeFails rejected = some c') : c'.Safe := by
  unfold readerStep at stepped
  repeat' split at stepped
  all_goals cases stepped
  all_goals grind [Safe, close, append, handleData, Reader.inHand, count_readString]

theorem Safe.consumer (safe : c.Safe) (stepped : c.consumerStep true rejected branch = some c') :
    c'.Safe := by
  unfold consumerStep at stepped
  repeat' split at stepped
  all_goals cases stepped
  all_goals grind [Safe, append, flush, handleData]

end Connection

/-- `stop` between closing `done` and `wg.Wait`; `setting` is between the two statements of
`close`. -/
inductive Stop where
  | running
  | closing (i connections : Nat)
  | setting (i connections : Nat)
  | waiting
  | returned
deriving DecidableEq

structure Listener where
  done : Bool
  stop : Stop
  connections : List Connection
deriving DecidableEq

namespace Listener

inductive Label where
  | accept (batchSize : Nat) (input : Bytes) (ends : Bool)
  | reader (i : Nat) (paused writeFails rejected : Bool)
  | consumer (i : Nat) (branch : Connection.Branch) (rejected : Bool)
  | stop
deriving DecidableEq

variable (l : Listener)

def update (i : Nat) (step : Connection → Option Connection) : Option Listener :=
  match l.connections[i]? with
  | none => none
  | some c => (step c).map fun c => { l with connections := l.connections.set i c }

def stopStep : Option Listener :=
  match l.stop with
  | .running => some { l with done := true, stop := .closing 0 l.connections.length }
  | .closing i n =>
    if i < n then
      match l.connections[i]? with
      | none => none
      | some c =>
        if c.exit then some { l with stop := .closing (i + 1) n }
        else
          some { l with
            stop := .setting i n, connections := l.connections.set i { c with exit := true } }
    else some { l with stop := .waiting }
  | .setting i n =>
    ({ l with stop := .closing (i + 1) n } : Listener).update i fun c =>
      some { c with closed := true }
  | .waiting =>
    if l.connections.all fun c => c.reader = .ended then some { l with stop := .returned } else none
  | .returned => none

def next : Label → Option Listener
  | .accept batchSize input ends =>
    some { l with connections := l.connections ++ [.opened batchSize input ends] }
  | .reader i paused writeFails rejected =>
    l.update i (Connection.readerStep l.done paused writeFails rejected)
  | .consumer i branch rejected => l.update i (Connection.consumerStep l.done rejected branch)
  | .stop => l.stopStep

def system : System Listener Label := ⟨(· = ⟨false, .running, []⟩), next⟩

def Stuck : Prop := l.stop = .waiting ∧ ∃ c ∈ l.connections, c.blocked = true

instance (l : Listener) : Decidable l.Stuck := inferInstanceAs (Decidable (_ ∧ _))

/-- `stop` is called when every connection is safe. -/
def StopsSafely (label : Label) : Prop :=
  label = .stop → l.stop = .running → ∀ c ∈ l.connections, c.Safe

instance (l : Listener) (label : Label) : Decidable (l.StopsSafely label) := by
  unfold StopsSafely
  infer_instance

structure Sound (l : Listener) : Prop where
  done : l.stop ≠ .running → l.done = true
  safe : l.done = true → ∀ c ∈ l.connections, c.Safe

variable {l l' : Listener}

theorem update_inv {i : Nat} {step : Connection → Option Connection}
    (updated : l.update i step = some l') : ∃ c ∈ l.connections, ∃ c', step c = some c' ∧
      l' = { l with connections := l.connections.set i c' } := by
  unfold update at updated
  split at updated
  · cases updated
  · rename_i c found
    obtain ⟨c', stepped, rfl⟩ := map_eq_some_iff.mp updated
    exact ⟨c, mem_of_getElem? found, c', stepped, rfl⟩

theorem Sound.set (sound : l.Sound) {i : Nat} {stop : Stop} {c : Connection}
    (running : stop ≠ .running → l.done = true) (safe : l.done = true → c.Safe) :
    Sound { l with stop := stop, connections := l.connections.set i c } where
  done := running
  safe done other among := by
    rcases mem_or_eq_of_mem_set among with old | rfl
    · exact sound.safe done other old
    · exact safe done

/-- Connections that are safe when the listener is done stay so. -/
theorem Sound.step {label : Label} (sound : l.Sound) (safely : l.StopsSafely label)
    (stepped : l.next label = some l') : l'.Sound := by
  cases label with
  | accept =>
    cases stepped
    refine ⟨sound.done, fun done c among => ?_⟩
    rcases mem_append.mp among with old | fresh
    · exact sound.safe done c old
    · rw [mem_singleton.mp fresh]
      exact .inr (.inl rfl)
  | reader =>
    obtain ⟨c, among, c', moved, rfl⟩ := update_inv stepped
    exact sound.set sound.done fun done => (sound.safe done c among).reader (done ▸ moved)
  | consumer =>
    obtain ⟨c, among, c', moved, rfl⟩ := update_inv stepped
    exact sound.set sound.done fun done => (sound.safe done c among).consumer (done ▸ moved)
  | stop =>
    simp only [next, stopStep] at stepped
    split at stepped
    · rename_i running
      cases stepped
      exact ⟨fun _ => rfl, fun _ => safely rfl running⟩
    · rename_i i n closing
      have done := sound.done (by simp [closing])
      repeat' split at stepped
      · cases stepped
      · cases stepped
        exact ⟨fun _ => done, sound.safe⟩
      · rename_i c found _
        cases stepped
        have safe := sound.safe done c (mem_of_getElem? found)
        exact sound.set (fun _ => done) fun _ => safe
      · cases stepped
        exact ⟨fun _ => done, sound.safe⟩
    · rename_i i n setting
      have done := sound.done (by simp [setting])
      obtain ⟨c, among, c', closed, rfl⟩ := update_inv stepped
      cases closed
      have safe := sound.safe done c among
      exact sound.set (fun _ => done) fun _ => safe
    · rename_i waiting
      have done := sound.done (by simp [waiting])
      split at stepped
      · cases stepped
        exact ⟨fun _ => done, sound.safe⟩
      · cases stepped
    · cases stepped

/-- If `stop` is called when every connection is safe, it never waits for a reader that is
blocked. -/
theorem stops_unblocked (reached : system.ReachableUnder StopsSafely l) : ¬ l.Stuck := by
  have sound : l.Sound := by
    refine System.ReachableUnder.invariant (fun _ initial => ?_)
      (fun _ _ _ sound safely stepped => sound.step safely stepped) reached
    cases initial
    exact ⟨fun other => absurd rfl other, fun done => by cases done⟩
  rintro ⟨waiting, c, among, blocked⟩
  have done := sound.done (by simp [waiting])
  rw [(sound.safe done c among).not_blocked] at blocked
  cases blocked

theorem disconnecting_client_stopped : ∃ l, system.ReachableUnder StopsSafely l ∧
    l.stop = .waiting ∧ (∃ c ∈ l.connections, c.reader = .read) ∧ ¬ l.Stuck := by
  obtain ⟨l, reached, waiting, reading⟩ : ∃ l, system.ReachableUnder StopsSafely l ∧
      l.stop = .waiting ∧ ∃ c ∈ l.connections, c.reader = .read :=
    system.exists_of_exec [.accept 1 [] true, .reader 0 false false false,
      .reader 0 false false false, .stop, .stop, .stop, .stop] rfl (by decide)
  exact ⟨l, reached, waiting, reading, stops_unblocked reached⟩

/-- An idle client: `stop` has closed everything and waits for a reader that nobody wakes. -/
theorem idle_client_not_stopped : ∃ l, system.Reachable l ∧ l.Stuck :=
  system.exists_of_exec [.accept 1 [] false, .reader 0 false false false,
    .reader 0 false false false, .stop, .stop, .stop, .stop] rfl (by decide)

end Listener

end TaosAdapter.OpentsdbTelnet
