import TaosAdapter.Lib.Transition

/-!
Contract: the thread of a TMQ session, `worker`, the submissions and
`destroy_tmq_thread` of `db/asynctmq/tmq.go`, with the callbacks of `tmqcb.go`.

Owns: every interleaving of the worker with the holder of the session's async
lock, which submits a task and receives its result or destroys the thread. A
signal wakes the worker only if it waits; it may also wake without a signal.
-/

namespace TaosAdapter.AsyncTmq

open Lib

inductive Event where
  | poll | free | commit | fetchRawBlock | newConsumer | subscribe | unsubscribe | consumerClose
  | getRaw | getJsonMeta | getTopicAssignment | offsetSeek | commitOffset | committed | position
deriving DecidableEq

/-- The channel for the result: `commit` and `commitOffset` share `CommitResult`. -/
def Event.channel : Event → Event
  | .commitOffset => .commit
  | event => event

inductive Submission where
  | lock | setEvent | setTask | signal | unlock | receive
deriving DecidableEq

inductive Destruction where
  | start | setShutdown | signal | join | release
deriving DecidableEq

/-- Who holds the async lock; `gone` when the thread is destroyed. -/
inductive Client where
  | none
  | caller (task : Nat) (event : Event) (pc : Submission)
  | destroyer (pc : Destruction)
  | gone
deriving DecidableEq

/-- Where the worker is: `sleep` is behind the test of the loop and before the wait, `woken`
before the mutex is taken again. -/
inductive Worker where
  | lock | test | sleep | waiting | woken | shutdown | run
  | callback (task : Nat) (event : Event) (answer : Nat)
  | free | clear | unlock | exit | exited
deriving DecidableEq

inductive Party where
  | client | worker
deriving DecidableEq

inductive Entry where
  | submit (task : Nat) (event : Event)
  | execute (task : Nat) (event : Event) (answer : Nat)
  | call (task : Nat) (event : Event) (answer : Nat)
  | receive (task : Nat) (event : Event) (answer : Nat)
  | free (task : Nat)
deriving DecidableEq

structure State where
  /-- `none` is the value 0 that no case of the switch has. -/
  event : Option Event
  shutdown : Bool
  task : Option Nat
  lock : Option Party
  client : Client
  worker : Worker
  /-- The channels of the caller, by `channel`, each with room for one result. -/
  results : Event → Option Nat
  allocated : Nat
  log : List Entry

def init : State := ⟨none, false, none, none, .none, .lock, fun _ => none, 0, []⟩

variable (s : State)

def State.signalled : Worker := if s.worker = .waiting then .woken else s.worker

def State.withResult (event : Event) (result : Option Nat) (other : Event) : Option Nat :=
  if other = event.channel then result else s.results other

def submissionStep (task : Nat) (event : Event) : Submission → Option State
  | .lock =>
    if s.lock = none then
      some { s with lock := some .client, client := .caller task event .setEvent }
    else none
  | .setEvent => some { s with event := some event, client := .caller task event .setTask }
  | .setTask =>
    some { s with
      task := some task, client := .caller task event .signal
      log := s.log ++ [.submit task event] }
  | .signal => some { s with worker := s.signalled, client := .caller task event .unlock }
  | .unlock => some { s with lock := none, client := .caller task event .receive }
  | .receive =>
    match s.results event.channel with
    | none => none
    | some answer =>
      some { s with
        results := s.withResult event none, client := .none
        log := s.log ++ [.receive task event answer] }

def destructionStep : Destruction → Option State
  | .start =>
    if s.shutdown then some { s with client := .none }
    else some { s with client := .destroyer .setShutdown }
  | .setShutdown => some { s with shutdown := true, client := .destroyer .signal }
  | .signal => some { s with worker := s.signalled, client := .destroyer .join }
  | .join => if s.worker = .exited then some { s with client := .destroyer .release } else none
  | .release =>
    some { s with
      task := none, client := .gone, log := s.log ++ s.task.toList.map .free }

/-- A step of the worker; the library answers the call of a task. -/
def workerStep (answer : Nat) : Option State :=
  match s.worker with
  | .lock | .woken =>
    if s.lock = none then some { s with lock := some .worker, worker := .test } else none
  | .test =>
    if s.task = none ∧ ¬ s.shutdown then some { s with worker := .sleep }
    else some { s with worker := .shutdown }
  | .sleep => some { s with lock := none, worker := .waiting }
  | .waiting => none
  | .shutdown => some { s with worker := if s.shutdown then .exit else .run }
  | .run =>
    match s.event, s.task with
    | some event, some task =>
      some { s with
        worker := .callback task event answer, log := s.log ++ [.execute task event answer] }
    -- a case of the switch reads the task
    | some _, none => none
    | none, _ => some { s with worker := .unlock }
  | .callback task event answer =>
    match s.results event.channel with
    | some _ => none
    | none =>
      some { s with
        results := s.withResult event (some answer), worker := .free
        log := s.log ++ [.call task event answer] }
  | .free => some { s with worker := .clear, log := s.log ++ s.task.toList.map .free }
  | .clear => some { s with task := none, worker := .unlock }
  | .unlock => some { s with lock := none, worker := .lock }
  | .exit => some { s with lock := none, worker := .exited }
  | .exited => none

inductive Label where
  /-- A caller with a task, or the destroyer, takes the async lock. -/
  | acquire (event : Option Event)
  | client
  | worker (answer : Nat)
  /-- The worker wakes without a signal. -/
  | wakeup
deriving DecidableEq

def next : Label → Option State
  | .acquire event =>
    if s.client = .none then
      match event with
      | some event =>
        some { s with client := .caller s.allocated event .lock, allocated := s.allocated + 1 }
      | none => some { s with client := .destroyer .start }
    else none
  | .client =>
    match s.client with
    | .caller task event pc => submissionStep s task event pc
    | .destroyer pc => destructionStep s pc
    | .none | .gone => none
  | .worker answer => workerStep s answer
  | .wakeup => if s.worker = .waiting then some { s with worker := .woken } else none

def system : System State Label := ⟨(· = init), next⟩

/-- How far the last task is: between the callback and the next submission, its result is
received and its memory is freed, in either order. -/
inductive Phase where
  | idle
  | submitted (task : Nat) (event : Event)
  | executed (task : Nat) (event : Event) (answer : Nat)
  | called (task : Nat) (event : Event) (answer : Nat)
  | received (task : Nat)
  | freed (task : Nat) (event : Event) (answer : Nat)
deriving DecidableEq

def Phase.next : Phase → Entry → Option Phase
  | .idle, .submit task event => some (.submitted task event)
  | .submitted task event, .execute task' event' answer =>
    if task' = task ∧ event' = event then some (.executed task event answer) else none
  | .executed task event answer, .call task' event' answer' =>
    if task' = task ∧ event' = event ∧ answer' = answer then some (.called task event answer)
    else none
  | .called task event answer, .receive task' event' answer' =>
    if task' = task ∧ event' = event ∧ answer' = answer then some (.received task) else none
  | .called task event answer, .free task' =>
    if task' = task then some (.freed task event answer) else none
  | .received task, .free task' => if task' = task then some .idle else none
  | .freed task event answer, .receive task' event' answer' =>
    if task' = task ∧ event' = event ∧ answer' = answer then some .idle else none
  | _, _ => none

/-- The phase at the end of a log in which every task is submitted, executed, called back with
its result, received and freed once, one after the other. -/
def phaseOf (log : List Entry) : Option Phase := log.foldlM Phase.next .idle

variable {phase : Phase}

theorem phaseOf_append (log : List Entry) (entry : Entry) (before : phaseOf log = some phase) :
    phaseOf (log ++ [entry]) = phase.next entry := by
  have split : phaseOf (log ++ [entry]) = (phaseOf log).bind fun phase => phase.next entry := by
    simp [phaseOf, List.foldlM_append]
  rw [split, before]
  rfl

def Worker.holds : Worker → Bool
  | .lock | .waiting | .woken | .exited => false
  | _ => true

def Client.holds : Client → Bool
  | .caller _ _ .setEvent | .caller _ _ .setTask | .caller _ _ .signal | .caller _ _ .unlock => true
  | _ => false

def Client.closing : Client → Bool
  | .destroyer .signal | .destroyer .join | .destroyer .release | .gone => true
  | _ => false

structure Guarded (s : State) : Prop where
  lock : s.lock = if s.worker.holds then some .worker
    else if s.client.holds then some .client else none
  exclusive : s.worker.holds = true → s.client.holds = false
  shutdown : s.shutdown = s.client.closing
  joined : s.client = .destroyer .release ∨ s.client = .gone → s.worker = .exited

theorem Guarded.init : Guarded init := ⟨rfl, fun _ => rfl, rfl, by simp [AsyncTmq.init]⟩

variable {s s' : State}

theorem Guarded.step {label : Label} (guarded : Guarded s) (stepped : next s label = some s') :
    Guarded s' := by
  obtain ⟨lockIs, exclusive, shutdownIs, joined⟩ := guarded
  unfold next submissionStep destructionStep workerStep at stepped
  repeat' split at stepped
  all_goals cases stepped
  all_goals constructor
  all_goals grind -linarith [Worker.holds, Client.holds, Client.closing, State.signalled]

def Client.before : Client → Bool
  | .caller _ _ .signal | .caller _ _ .unlock | .caller _ _ .receive => false
  | _ => true

/-- The worker has nothing to do, or is about to leave. -/
def State.Rests (s : State) : Prop :=
  match s.worker with
  | .run | .callback _ _ _ | .free => False
  | .clear => True
  | .shutdown | .exit | .exited => s.task = none ∧ s.shutdown = true
  | _ => s.task = none

def State.Finds (s : State) : Prop :=
  match s.worker with
  | .lock | .test | .woken | .shutdown | .run => True
  | .waiting => ∃ task event, s.client = .caller task event .signal
  | _ => False

def State.Matches (s : State) : Phase → Prop
  | .idle =>
    s.client.before = true ∧ (∀ task event, s.client = .caller task event .setTask →
      s.event = some event) ∧ (∀ event, s.results event = none) ∧ s.Rests
  | .submitted task event =>
    (∃ pc, s.client = .caller task event pc) ∧ s.client.before = false ∧
      (∀ event, s.results event = none) ∧ s.task = some task ∧ s.event = some event ∧ s.Finds
  | .executed task event answer =>
    s.client = .caller task event .receive ∧ (∀ event, s.results event = none) ∧
      s.task = some task ∧ s.worker = .callback task event answer
  | .called task event answer =>
    s.client = .caller task event .receive ∧
      (∀ other, s.results other = if other = event.channel then some answer else none) ∧
      s.task = some task ∧ s.worker = .free
  | .received task =>
    s.client.before = true ∧ (∀ event, s.results event = none) ∧ s.task = some task ∧
      s.worker = .free
  | .freed task event answer =>
    s.client = .caller task event .receive ∧
      (∀ other, s.results other = if other = event.channel then some answer else none) ∧ s.Rests

/-- The log is in order, and the state is where its last task is. -/
def Serves (s : State) : Prop := ∃ phase, phaseOf s.log = some phase ∧ s.Matches phase

theorem Serves.init : Serves init :=
  ⟨.idle, rfl, rfl, fun _ _ same => (by cases same), fun _ => rfl, rfl⟩

theorem Serves.quiet (logged : phaseOf s.log = some phase) (same : s'.log = s.log)
    (matched : s'.Matches phase) : Serves s' :=
  ⟨phase, same ▸ logged, matched⟩

section

attribute [local grind] State.Matches State.Rests State.Finds Client.before Worker.holds
  Client.holds Client.closing State.signalled State.withResult Phase.next

variable {s s' : State}

section

variable (guarded : Guarded s) (serves : Serves s)

include guarded serves

theorem Serves.submission {task : Nat} {event : Event} {pc : Submission}
    (client : s.client = .caller task event pc)
    (stepped : submissionStep s task event pc = some s') : Serves s' := by
  obtain ⟨phase, logged, matched⟩ := serves
  obtain ⟨lockIs, exclusive, shutdownIs, joined⟩ := guarded
  cases pc with
  | setTask =>
    cases stepped
    obtain rfl : phase = .idle := by cases phase <;> grind -linarith
    exact ⟨.submitted task event, phaseOf_append _ _ logged, by grind -linarith⟩
  | receive =>
    simp only [submissionStep] at stepped
    split at stepped
    · cases stepped
    · rename_i answer found
      cases stepped
      cases phase with
      | called _ _ _ =>
        exact ⟨.received task, (phaseOf_append _ _ logged).trans (by grind -linarith),
          by grind -linarith⟩
      | freed _ _ _ =>
        exact ⟨.idle, (phaseOf_append _ _ logged).trans (by grind -linarith), by grind -linarith⟩
      | _ => grind -linarith
  | lock | setEvent | signal | unlock =>
    simp only [submissionStep] at stepped
    repeat' split at stepped
    all_goals cases stepped
    all_goals exact .quiet logged rfl (by cases phase <;> grind -linarith)

theorem Serves.destruction {pc : Destruction} (client : s.client = .destroyer pc)
    (stepped : destructionStep s pc = some s') : Serves s' := by
  obtain ⟨phase, logged, matched⟩ := serves
  obtain ⟨lockIs, exclusive, shutdownIs, joined⟩ := guarded
  cases pc with
  | release =>
    cases stepped
    obtain rfl : phase = .idle := by cases phase <;> grind -linarith
    have freed : s.task = none := by grind -linarith
    exact .quiet logged (by simp [freed]) (by grind -linarith)
  | start | setShutdown | signal | join =>
    simp only [destructionStep] at stepped
    repeat' split at stepped
    all_goals cases stepped
    all_goals exact .quiet logged rfl (by cases phase <;> grind -linarith)

theorem Serves.worker {answer : Nat} (stepped : workerStep s answer = some s') : Serves s' := by
  obtain ⟨phase, logged, matched⟩ := serves
  obtain ⟨lockIs, exclusive, shutdownIs, joined⟩ := guarded
  unfold workerStep at stepped
  split at stepped
  case h_7 here =>
    split at stepped
    · rename_i event task eventIs taskIs
      cases stepped
      obtain rfl : phase = .submitted task event := by cases phase <;> grind -linarith
      have receives : s.client = .caller task event .receive := by
        obtain ⟨⟨pc, client⟩, -⟩ := id matched
        cases pc <;> grind -linarith
      exact ⟨.executed task event answer, (phaseOf_append _ _ logged).trans (by grind -linarith),
        by grind -linarith⟩
    · cases stepped
    · cases stepped
      exact .quiet logged rfl (by cases phase <;> grind -linarith)
  case h_8 task event answer here =>
    split at stepped
    · cases stepped
    · cases stepped
      obtain rfl : phase = .executed task event answer := by cases phase <;> grind -linarith
      exact ⟨.called task event answer, (phaseOf_append _ _ logged).trans (by grind -linarith),
        by grind -linarith⟩
  case h_9 here =>
    cases stepped
    cases phase with
    | called task event answer =>
      have freed : s.task = some task := by grind -linarith
      have entry : s.log ++ s.task.toList.map .free = s.log ++ [.free task] := by simp [freed]
      exact ⟨.freed task event answer,
        entry ▸ (phaseOf_append _ _ logged).trans (by grind -linarith), by grind -linarith⟩
    | received task =>
      have freed : s.task = some task := by grind -linarith
      have entry : s.log ++ s.task.toList.map .free = s.log ++ [.free task] := by simp [freed]
      exact ⟨.idle, entry ▸ (phaseOf_append _ _ logged).trans (by grind -linarith),
        by grind -linarith⟩
    | _ => grind -linarith
  all_goals repeat' split at stepped
  all_goals cases stepped
  all_goals exact .quiet logged rfl (by cases phase <;> grind -linarith)

end

variable {label : Label}

/-- A step logs the next event of the task on its way, or none. -/
theorem Serves.step (guarded : Guarded s) (serves : Serves s) (stepped : next s label = some s') :
    Serves s' := by
  cases label with
  | client =>
    cases client : s.client with
    | caller task event pc =>
      exact serves.submission guarded client (by simpa [next, client] using stepped)
    | destroyer pc =>
      exact serves.destruction guarded client (by simpa [next, client] using stepped)
    | none | gone => simp [next, client] at stepped
  | worker answer => exact serves.worker guarded stepped
  | acquire | wakeup =>
    obtain ⟨phase, logged, matched⟩ := serves
    obtain ⟨lockIs, exclusive, shutdownIs, joined⟩ := guarded
    simp only [next] at stepped
    repeat' split at stepped
    all_goals cases stepped
    all_goals exact .quiet logged rfl (by cases phase <;> grind -linarith)

theorem Serves.progress {phase : Phase} (guarded : Guarded s) (matched : s.Matches phase)
    (busy : phase ≠ .idle) : (next s .client).isSome ∨ (next s (.worker 0)).isSome := by
  obtain ⟨lockIs, exclusive, shutdownIs, joined⟩ := guarded
  cases phase with
  | submitted task event =>
    obtain ⟨⟨pc, client⟩, -⟩ := id matched
    cases pc <;> grind -linarith [next, submissionStep, workerStep]
  | _ => grind -linarith [next, submissionStep, workerStep]

/-- The destroyer does not signal between the worker's test and its wait. -/
def SignalInTime (s : State) (label : Label) : Prop :=
  label = .client → s.client = .destroyer .signal → s.worker ≠ .sleep

instance (s : State) (label : Label) : Decidable (SignalInTime s label) := by
  unfold SignalInTime
  infer_instance

def Joins (s : State) : Prop :=
  s.client = .destroyer .join → s.worker ≠ .sleep ∧ s.worker ≠ .waiting

/-- Signalled in time, the worker is past its wait when it is joined. -/
theorem Joins.step (guarded : Guarded s) (joins : Joins s) (inTime : SignalInTime s label)
    (stepped : next s label = some s') : Joins s' := by
  obtain ⟨lockIs, exclusive, shutdownIs, joined⟩ := guarded
  unfold Joins SignalInTime at *
  unfold next submissionStep destructionStep workerStep at stepped
  repeat' split at stepped
  all_goals cases stepped
  all_goals grind -linarith

theorem Joins.progress (guarded : Guarded s) (serves : Serves s) (joins : Joins s)
    (client : s.client = .destroyer .join) :
    (next s .client).isSome ∨ (next s (.worker 0)).isSome := by
  obtain ⟨lockIs, exclusive, shutdownIs, joined⟩ := guarded
  obtain ⟨phase, -, matched⟩ := serves
  obtain ⟨awake, notWaiting⟩ := joins client
  cases phase <;> grind -linarith [next, destructionStep, workerStep]

end

theorem serves_of_reachable {condition : State → Label → Prop}
    (reached : system.ReachableUnder condition s) : Guarded s ∧ Serves s := by
  induction reached with
  | start initial =>
    cases initial
    exact ⟨.init, .init⟩
  | step _ _ stepped ih =>
    obtain ⟨guarded, serves⟩ := ih
    exact ⟨guarded.step stepped, serves.step guarded stepped⟩

theorem joins_of_reachable (reached : system.ReachableUnder SignalInTime s) :
    Guarded s ∧ Joins s := by
  induction reached with
  | start initial =>
    cases initial
    exact ⟨.init, by simp [Joins, init]⟩
  | step _ inTime stepped ih =>
    obtain ⟨guarded, joins⟩ := ih
    exact ⟨guarded.step stepped, joins.step guarded inTime stepped⟩

/-- If the signal is in time, the destroyer never joins a worker that waits, and it can always
get on. -/
theorem destroyed_in_time {s : State} (reached : system.ReachableUnder SignalInTime s)
    (client : s.client = .destroyer .join) :
    s.worker ≠ .waiting ∧ ((next s .client).isSome ∨ (next s (.worker 0)).isSome) := by
  obtain ⟨guarded, serves⟩ := serves_of_reachable reached
  have joins := (joins_of_reachable reached).2
  exact ⟨(joins client).2, joins.progress guarded serves client⟩

theorem waiting_worker_destroyed : ∃ s : State, system.ReachableUnder SignalInTime s ∧
    s.client = .destroyer .join ∧ s.worker = .woken ∧
    (s.worker ≠ .waiting ∧ ((next s .client).isSome ∨ (next s (.worker 0)).isSome)) := by
  obtain ⟨s, reached, client, woken⟩ : ∃ s, system.ReachableUnder SignalInTime s ∧
      s.client = .destroyer .join ∧ s.worker = .woken :=
    system.exists_of_exec
      [.worker 0, .worker 0, .worker 0, .acquire none, .client, .client, .client] rfl (by decide)
  exact ⟨s, reached, client, woken, destroyed_in_time reached client⟩

/-- The signal is lost: the destroyer joins a worker that waits, and no step but a wakeup
without a signal is left. -/
theorem signal_lost : ∃ s, system.Reachable s ∧ s.client = .destroyer .join ∧
    s.worker = .waiting ∧ ∀ label, label ≠ .wakeup → next s label = none := by
  obtain ⟨s, reached, client, waiting⟩ : ∃ s, system.Reachable s ∧
      s.client = .destroyer .join ∧ s.worker = .waiting :=
    system.exists_of_exec
      [.worker 0, .worker 0, .acquire none, .client, .client, .client, .worker 0] rfl (by decide)
  refine ⟨s, reached, client, waiting, fun label other => ?_⟩
  cases label with
  | acquire => simp [next, client]
  | client => simp [next, client, destructionStep, waiting]
  | worker => simp [next, workerStep, waiting]
  | wakeup => exact absurd rfl other

end TaosAdapter.AsyncTmq
