import TaosAdapter.Tmq.Handlers

/-!
Owns: who is responsible for a polled message at every moment. A message belongs
to the goroutine that polled it, to the slot of the session, or it has been
freed; a goroutine that holds the lock of the slot knows what is in it, and a
goroutine that runs `Close` knows how far the session is closed.

What a goroutine knows is its mode. `Checked` follows the code from a mode and
asks of every instruction what it needs; it is proved once for every handler.
`Typed` says that a mode can be given to every goroutine so that all of them are
true of the shared state together; every step keeps it, whatever the handlers
are, so long as they are checked.

The slot is empty for good when `Close` has freed it after the wait: no request
can be running then, since the wait group counts every goroutine that passed its
check.
-/

namespace TaosAdapter.Tmq.Concurrent

open Lib List Snapshot

inductive Slot where
  | any
  | present
  | absent
  | stale
deriving DecidableEq

inductive Stage where
  | request
  | early
  | closing
  | tearing
  | cleared
deriving DecidableEq

def Stage.inProgress : Stage → Bool
  | .closing | .tearing => true
  | _ => false

structure Mode where
  session : Bool
  message : Bool
  async : Bool
  carried : Option Nat
  slot : Slot
  stage : Stage
deriving DecidableEq

namespace Mode

def idle : Mode := ⟨false, false, false, none, .any, .request⟩

variable (mode : Mode)

def holds : Name → Bool
  | .session => mode.session
  | .message => mode.message
  | .async => mode.async

def take : Name → Mode
  | .session => { mode with session := true }
  | .message => { mode with message := true, slot := .any }
  | .async => { mode with async := true }

def drop : Name → Mode
  | .session => { mode with session := false }
  | .message => { mode with
      message := false
      stage := if mode.stage = .tearing ∧ mode.slot = .absent then .cleared else mode.stage }
  | .async => { mode with async := false }

def seenClosed : Mode :=
  if mode.session = true ∧ mode.stage = .early then { mode with stage := .cleared } else mode

def carries (message : Nat) : Nat :=
  if mode.carried = some message then 1 else 0

end Mode

def weight (message : Nat) (entry : Thread × Mode) : Nat := entry.2.carries message

/-- Inside a wrapper: the lock it has taken will be given back. At the check of
the slot in `wrapperFreeResult` only the branch with a message does so. -/
def Code.InWrapper : Code → Prop
  | .unlock .async _ => True
  | .ifClosed yes no => yes.InWrapper ∧ no.InWrapper
  | .ifMessage _ yes => yes.InWrapper
  | .poll next => ∀ message, (next message).InWrapper
  | .useSlot next | .freeSlot next | .otherCall next => next.InWrapper
  | .newConsumer next => ∀ consumer, (next consumer).InWrapper
  | .call _ _ next => ∀ ok, (next ok).InWrapper
  | _ => False

def Checked : Code → Mode → Prop
  | .lock name next, mode =>
    mode.holds name = false ∧ mode.async = false ∧ (name = .async → next.InWrapper) ∧
      Checked next (mode.take name)
  | .unlock name next, mode =>
    mode.holds name = true ∧ (name = .message → mode.slot ≠ .stale) ∧
      (name = .session → mode.stage.inProgress = false) ∧
      Checked next (mode.drop name)
  | .ifClosed yes no, mode => Checked yes mode.seenClosed ∧ Checked no mode
  | .ifConsumer no yes, mode => Checked no mode ∧ ∀ consumer, Checked (yes consumer) mode
  | .ifUnsubscribed yes no, mode => Checked yes mode ∧ Checked no mode
  | .ifMessage no yes, mode =>
    mode.message = true ∧ mode.slot ≠ .stale ∧ (mode.async = true → mode.slot = .present) ∧
      (mode.slot ≠ .present → Checked no { mode with slot := .absent }) ∧
      Checked yes { mode with slot := .present }
  | .either left right, mode => Checked left mode ∧ Checked right mode
  | .poll next, mode =>
    mode.carried = none ∧ mode.stage = .request ∧ Checked (next none) mode ∧
      ∀ message, Checked (next (some message)) { mode with carried := some message }
  | .useMessage message next, mode => mode.carried = some message ∧ Checked next mode
  | .useSlot next, mode => mode.message = true ∧ mode.slot = .present ∧ Checked next mode
  | .freeMessage message next, mode =>
    mode.carried = some message ∧ Checked next { mode with carried := none }
  | .freeSlot next, mode =>
    mode.message = true ∧ mode.slot = .present ∧ Checked next { mode with slot := .stale }
  | .setSlot (some message) next, mode =>
    mode.message = true ∧ mode.carried = some message ∧
      (mode.slot = .absent ∨ mode.slot = .stale) ∧
      Checked next { mode with carried := none, slot := .present }
  | .setSlot none next, mode =>
    mode.message = true ∧ (mode.slot = .absent ∨ mode.slot = .stale) ∧
      Checked next { mode with slot := .absent }
  | .newConsumer next, mode => ∀ consumer, Checked (next consumer) mode
  | .call _ _ next, mode => ∀ ok, Checked (next ok) mode
  | .otherCall next, mode | .setConsumer _ next, mode | .setUnsubscribed _ next, mode =>
    Checked next mode
  | .setClosed next, mode =>
    mode.session = true ∧ mode.stage = .early ∧ Checked next { mode with stage := .closing }
  | .wait next, mode =>
    mode.stage = .closing ∧ Checked next { mode with stage := .tearing }
  | .halt, mode =>
    mode.session = false ∧ mode.message = false ∧ mode.async = false ∧ mode.carried = none ∧
      (mode.stage = .request ∨ mode.stage = .cleared)

section

-- following the code is computing with these
attribute [local simp] Checked Code.InWrapper Mode.idle Mode.holds Mode.take Mode.drop
  Mode.seenClosed Stage.inProgress

theorem checked_halt : Checked .halt .idle := by
  simp

theorem checked_poll : Checked poll .idle := by
  simp [poll, pollMessage, wrapperCommit, wrapperPoll, guarded, takeMessage, storeMessage,
    wrapperFreeResult]

theorem checked_fetch : Checked fetch .idle := by
  simp [fetch, reader, wrapperFetchRawBlock, guarded]

theorem checked_fetchBlock : Checked fetchBlock .idle := by
  simp [fetchBlock]

theorem checked_fetchRawBlock : Checked fetchRawBlock .idle := by
  simp [fetchRawBlock, reader, wrapperGetRaw, guarded]

theorem checked_fetchJsonMeta : Checked fetchJsonMeta .idle := by
  simp [fetchJsonMeta, reader, wrapperGetJsonMeta, guarded]

theorem checked_callEach (count : Nat) : Checked (callEach count) .idle := by
  induction count with
  | zero => exact checked_halt
  | succ count ih =>
    simpa [callEach, wrapperCommit, guarded] using ih

theorem checked_subscribe : Checked subscribe .idle := by
  simp [subscribe, firstSubscribe, resubscribe, wrapperConsumerNew, wrapperSubscribe,
    closeConsumerWithErrLog, wrapperCloseConsumer, Option.forall]

theorem checked_unsubscribe : Checked unsubscribe .idle := by
  simp [unsubscribe, wrapperUnsubscribe, guarded, freeMessage]

theorem checked_handler (action : Action) : Checked (handler action) .idle := by
  cases action with
  | poll => exact checked_poll
  | fetch => exact checked_fetch
  | fetchBlock => exact checked_fetchBlock
  | fetchRawBlock | fetchRawBlockNew => exact checked_fetchRawBlock
  | fetchJsonMeta => exact checked_fetchJsonMeta
  | subscribe => exact checked_subscribe
  | unsubscribe => exact checked_unsubscribe
  | consumerCalls count => exact ⟨checked_halt, fun _ => checked_callEach count⟩

theorem checked_close : Checked close { Mode.idle with stage := .early } := by
  simp [close, freeMessage, endConsumer, destroyThread, wrapperCloseConsumer, wrapperUnsubscribe,
    guarded]

end

def Shared.Intact (shared : Shared) : Prop :=
  ∀ message, shared.cPointer = some message → message ∉ shared.freed

def Shared.slotOwns (shared : Shared) (message : Nat) : Nat :=
  if shared.cPointer = some message ∧ message ∉ shared.freed then 1 else 0

def Slot.Fits : Slot → Shared → Prop
  | .any, shared => shared.Intact
  | .present, shared => shared.Intact ∧ shared.cPointer ≠ none
  | .absent, shared => shared.cPointer = none
  | .stale, shared => ∀ message, shared.cPointer = some message → message ∈ shared.freed

def Stage.Fits : Stage → Shared → Prop → Prop
  | .request, _, _ | .early, _, _ => True
  | .closing, shared, _ => shared.closed = true
  | .tearing, shared, quiet => shared.closed = true ∧ quiet
  | .cleared, shared, quiet => shared.closed = true ∧ quiet ∧ shared.cPointer = none

abbrev Annotated := Snapshot Shared (Thread × Mode)

def Quiet (a : Annotated) : Prop :=
  ∀ entry ∈ a.threads, ∀ code, entry.1 = .request code → code = .halt

def Thread.Fits : Thread → Mode → Prop
  | .request code, mode =>
    mode.stage = .request ∧ Checked code mode ∧ (mode.async = true → code.InWrapper)
  | .closing code, mode =>
    mode.stage ≠ .request ∧ Checked code mode ∧ (mode.async = true → code.InWrapper)
  | _, mode => mode = .idle

structure Knows (shared : Shared) (quiet : Prop) (t : Nat) (mode : Mode) : Prop where
  locks : ∀ name, mode.holds name = true ↔ shared.lock name = some t
  slot : mode.message = true → mode.slot.Fits shared
  stage : mode.stage.Fits shared quiet
  inside : mode.stage.inProgress = true → mode.session = true
  empty : mode.stage ≠ .request → mode.carried = none

structure Typed (a : Annotated) : Prop where
  fits : ∀ t entry, a.threads[t]? = some entry →
    entry.1.Fits entry.2 ∧ Knows a.shared (Quiet a) t entry.2
  held : ∀ name t, a.shared.lock name = some t → t < a.threads.length
  intact : a.shared.lock .message = none → a.shared.Intact
  settled : a.shared.closed = true → (Quiet a ∧ a.shared.cPointer = none) ∨
    ∃ (t : Nat) (entry : Thread × Mode), a.threads[t]? = some entry ∧
      entry.2.stage.inProgress = true
  owned : ∀ message, a.shared.freed.count message + a.shared.slotOwns message +
    tally (weight message) a.threads = if message < a.shared.messages then 1 else 0
  proper : a.shared.misused = false

/-- What an instruction of goroutine `t` has to respect when it takes the goroutine
from one mode to another. -/
structure Keeps (a : Annotated) (t : Nat) (mode : Mode) (after : Shared) (newMode : Mode) :
    Prop where
  lockOthers : ∀ name u, u ≠ t → (after.lock name = some u ↔ a.shared.lock name = some u)
  closedKept : a.shared.closed = true → after.closed = true
  emptyKept : mode.stage ≠ .request → a.shared.cPointer = none → after.cPointer = none
  progress : mode.stage.inProgress = true →
    newMode.stage.inProgress = true ∨ newMode.stage = .cleared
  closes : a.shared.closed = false → after.closed = true → newMode.stage.inProgress = true

structure Respects (a : Annotated) (t : Nat) (mode : Mode) (after : Shared) (newMode : Mode) :
    Prop extends Keeps a t mode after newMode where
  slotOthers : mode.message = false → ∀ slot : Slot, slot.Fits a.shared → slot.Fits after
  intact : after.lock .message = none → after.Intact
  own : Knows after (Quiet a) t newMode
  owned : ∀ message, after.freed.count message + after.slotOwns message + newMode.carries message +
      (if message < a.shared.messages then 1 else 0) =
    a.shared.freed.count message + a.shared.slotOwns message + mode.carries message +
      (if message < after.messages then 1 else 0)
  proper : after.misused = false

variable {stage : Stage} {quiet : Prop} {sh : Shared}

theorem Stage.Fits.mono {after : Shared} {quietAfter : Prop} (fits : stage.Fits sh quiet)
    (closedKept : sh.closed = true → after.closed = true)
    (quietKept : sh.closed = true → quiet → quietAfter)
    (emptyKept : quiet → sh.cPointer = none → after.cPointer = none) :
    stage.Fits after quietAfter := by
  cases stage with
  | request | early => trivial
  | closing => exact closedKept fits
  | tearing => exact ⟨closedKept fits.1, quietKept fits.1 fits.2⟩
  | cleared => exact ⟨closedKept fits.1, quietKept fits.1 fits.2.1, emptyKept fits.2.1 fits.2.2⟩

inductive Runs (code next : Code) : Thread → Thread → Prop where
  | request (running : code ≠ .halt) : Runs code next (.request code) (.request next)
  | closing : Runs code next (.closing code) (.closing next)

section

variable {a : Annotated} {t : Nat} {old new : Thread} {mode newMode : Mode} {after : Shared}
  {code next : Code}

theorem Keeps.same
    (lockOthers : ∀ name u, u ≠ t → (after.lock name = some u ↔ a.shared.lock name = some u))
    (closed : after.closed = a.shared.closed)
    (emptyKept : mode.stage ≠ .request → a.shared.cPointer = none → after.cPointer = none)
    (progress : mode.stage.inProgress = true →
      newMode.stage.inProgress = true ∨ newMode.stage = .cleared) : Keeps a t mode after newMode :=
  ⟨lockOthers, closed.trans, emptyKept, progress,
    fun isOpen closes => by simp [closed, isOpen] at closes⟩

theorem Knows.other {u : Nat} {other : Mode} {quietAfter : Prop}
    (before : Knows a.shared (Quiet a) u other) (ne : u ≠ t)
    (knows : Knows a.shared (Quiet a) t mode) (respects : Respects a t mode after newMode)
    (quietKept : Quiet a → quietAfter)
    (emptyKept : Quiet a → a.shared.cPointer = none → after.cPointer = none) :
    Knows after quietAfter u other := by
  refine ⟨?_, ?_, ?_, before.inside, before.empty⟩
  · intro name
    rw [respects.lockOthers name u ne]
    exact before.locks name
  · intro inside
    -- Two goroutines do not hold the lock of the slot.
    have outside : mode.message = false := by
      cases inside' : mode.message with
      | false => rfl
      | true =>
        have ours := (knows.locks .message).mp inside'
        have theirs := (before.locks .message).mp inside
        rw [theirs] at ours
        exact absurd (Option.some.inj ours) ne
    exact respects.slotOthers outside _ (before.slot inside)
  · exact before.stage.mono respects.closedKept (fun _ => quietKept) emptyKept

theorem Typed.apply (typed : Typed a) (found : a.threads[t]? = some (old, mode))
    (runs : Runs code next old new) (fits : new.Fits newMode)
    (respects : Respects a t mode after newMode) :
    Typed (a.apply t ⟨after, (new, newMode), []⟩) := by
  have knows : Knows a.shared (Quiet a) t mode := (typed.fits t _ found).2
  have idle : Quiet a → mode.stage ≠ .request ∧ ∀ code, new ≠ .request code := by
    intro quiet
    cases runs with
    | request running => exact absurd (quiet _ (mem_of_getElem? found) _ rfl) running
    | closing => exact ⟨((typed.fits t _ found).1).1, by simp⟩
  have quietKept : Quiet a → Quiet (a.apply t ⟨after, (new, newMode), []⟩) := by
    intro quiet entry mem other isRequest
    rcases mem_apply mem with same | rfl | spawned
    · exact quiet entry same other isRequest
    · exact absurd isRequest ((idle quiet).2 other)
    · cases spawned
  have emptyKept : Quiet a → a.shared.cPointer = none → after.cPointer = none :=
    fun quiet => respects.emptyKept (idle quiet).1
  refine ⟨?_, ?_, respects.intact, ?_, ?_, respects.proper⟩
  · refine forall_apply typed.fits ?_ ?_ ?_
    · intro u entry ne before
      exact ⟨before.1, before.2.other ne knows respects quietKept emptyKept⟩
    · have own := respects.own
      exact ⟨fits, own.locks, own.slot, own.stage.mono id (fun _ => quietKept) fun _ => id,
        own.inside, own.empty⟩
    · intro u entry _ spawned
      cases spawned
  · intro name u holder
    have length : (a.apply t ⟨after, (new, newMode), []⟩).threads.length = a.threads.length := by
      simp [Snapshot.apply]
    rw [length]
    by_cases same : u = t
    · exact same ▸ lt_of_getElem? found
    · exact typed.held name u ((respects.lockOthers name u same).mp holder)
  · intro closed
    have progress (stage : newMode.stage.inProgress = true) :
        ∃ (u : Nat) (entry : Thread × Mode),
          (a.apply t ⟨after, (new, newMode), []⟩).threads[u]? = some entry ∧
            entry.2.stage.inProgress = true :=
      ⟨t, _, apply_self _ found, stage⟩
    cases before : a.shared.closed with
    | false => exact .inr (progress (respects.closes before closed))
    | true =>
      rcases typed.settled before with ⟨quiet, empty⟩ | ⟨u, entry, entryFound, stage⟩
      · exact .inl ⟨quietKept quiet, emptyKept quiet empty⟩
      · by_cases same : u = t
        · subst same
          rw [found] at entryFound
          cases entryFound
          rcases respects.progress stage with still | cleared
          · exact .inr (progress still)
          · have own := respects.own.stage
            rw [cleared] at own
            exact .inl ⟨quietKept own.2.1, own.2.2⟩
        · exact .inr ⟨u, entry, apply_other _ same entryFound, stage⟩
  · intro message
    have moved := tally_apply (weight message) found ⟨after, (new, newMode), []⟩
    have before := typed.owned message
    have here := respects.owned message
    simp only [weight, tally_nil, Nat.add_zero] at moved
    show after.freed.count message + after.slotOwns message + tally (weight message)
      (a.apply t ⟨after, (new, newMode), []⟩).threads = if message < after.messages then 1 else 0
    omega

structure Shared.Same (shared after : Shared) : Prop where
  lock : after.lock = shared.lock
  closed : after.closed = shared.closed
  cPointer : after.cPointer = shared.cPointer
  messages : after.messages = shared.messages
  freed : after.freed = shared.freed

variable {sh : Shared} {slot : Slot}

theorem Slot.Fits.congr (fits : slot.Fits sh) (cPointer : after.cPointer = sh.cPointer)
    (freed : after.freed = sh.freed) : slot.Fits after := by
  cases slot <;> simpa only [Slot.Fits, Shared.Intact, cPointer, freed] using fits

theorem slotOwns_congr (cPointer : after.cPointer = sh.cPointer) (freed : after.freed = sh.freed)
    (message : Nat) : after.slotOwns message = sh.slotOwns message := by
  rw [Shared.slotOwns, Shared.slotOwns, cPointer, freed]

variable {name : Name} {message : Nat}

theorem Slot.Fits.intact (fits : slot.Fits sh) (fresh : slot ≠ .stale) : sh.Intact := by
  cases slot with
  | any => exact fits
  | present => exact fits.1
  | absent =>
    intro message found
    rw [show sh.cPointer = none from fits] at found
    cases found
  | stale => exact absurd rfl fresh

theorem misused_use (proper : sh.misused = false) (unfreed : message ∉ sh.freed) :
    (sh.use message).misused = false := by
  simp [Shared.use, proper, unfreed]

theorem Slot.Fits.free (fits : slot.Fits sh) (elsewhere : sh.cPointer ≠ some message) :
    slot.Fits (sh.free message) := by
  have intact (before : sh.Intact) : (sh.free message).Intact := by
    intro other found inFreed
    rcases mem_cons.mp inFreed with same | inFreed
    · exact elsewhere (same ▸ found)
    · exact before other found inFreed
  cases slot with
  | any => exact intact fits
  | present => exact ⟨intact fits.1, fits.2⟩
  | absent => exact fits
  | stale => exact fun other found => mem_cons_of_mem _ (fits other found)

theorem slotOwns_free (other : Nat) (ne : other ≠ message) :
    (sh.free message).slotOwns other = sh.slotOwns other := by
  have same : other ∈ (sh.free message).freed ↔ other ∈ sh.freed := by
    simp [Shared.free, ne]
  simp only [Shared.slotOwns, same]
  rfl

theorem count_free (message other : Nat) : (sh.free message).freed.count other =
      sh.freed.count other + if other = message then 1 else 0 := by
  simp only [Shared.free, count_cons]
  by_cases same : other = message
  · simp [same]
  · simp [same, Ne.symm same]

theorem slotOwns_of_overwritable (fits : slot.Fits sh)
    (overwritable : slot = .absent ∨ slot = .stale) (message : Nat) : sh.slotOwns message = 0 := by
  apply if_neg
  rintro ⟨found, unfreed⟩
  rcases overwritable with rfl | rfl
  · rw [show sh.cPointer = none from fits] at found
    cases found
  · exact unfreed (fits message found)

theorem quiet_of_waited (nobody : waiting (a.map Prod.fst).threads = 0) : Quiet a := by
  intro entry mem code isRequest
  obtain ⟨u, inside, found⟩ := getElem_of_mem mem
  have threadFound : (a.map Prod.fst).threads[u]? = some entry.1 := by
    simp [Snapshot.map, List.getElem?_eq_getElem inside, found]
  have weight := weight_le_tally (fun th : Thread => if th.isRequest then 1 else 0)
    threadFound
  rw [isRequest] at weight
  have counted : 1 ≤ waiting (a.map Prod.fst).threads := weight
  omega

theorem Knows.slotLocked (knows : Knows a.shared (Quiet a) t mode) (holds : mode.message = true) :
    a.shared.lock .message ≠ none := by
  rw [(knows.locks .message).mp holds]
  simp

theorem stage_drop (knows : Knows a.shared (Quiet a) t mode) (holds : mode.holds name = true) :
    (mode.drop name).stage = mode.stage ∨
      (name = .message ∧ mode.stage = .tearing ∧ (mode.drop name).stage = .cleared ∧
        Stage.cleared.Fits a.shared (Quiet a)) := by
  cases name with
  | session | async => exact .inl rfl
  | message =>
    by_cases torn : mode.stage = .tearing ∧ mode.slot = .absent
    · have stage := knows.stage
      have slot := knows.slot holds
      rw [torn.1] at stage
      rw [torn.2] at slot
      exact .inr ⟨rfl, torn.1, if_pos torn, stage.1, stage.2, slot⟩
    · exact .inl (if_neg torn)

theorem Typed.carried (typed : Typed a) (found : a.threads[t]? = some (old, mode))
    (carried : mode.carried = some message) :
    message ∉ a.shared.freed ∧ a.shared.cPointer ≠ some message := by
  have mine := weight_le_tally (weight message) found
  have once := typed.owned message
  have one : mode.carries message = 1 := if_pos carried
  have bound : (if message < a.shared.messages then 1 else 0) ≤ 1 := by split <;> omega
  simp only [weight, one] at mine
  have unfreed : message ∉ a.shared.freed := count_eq_zero.mp (by omega)
  refine ⟨unfreed, fun inSlot => ?_⟩
  have owns : a.shared.slotOwns message = 1 := if_pos ⟨inSlot, unfreed⟩
  omega

theorem Typed.closedForGood (typed : Typed a) (found : a.threads[t]? = some (old, mode))
    (holds : mode.session = true) (other : mode.stage.inProgress = false)
    (closed : a.shared.closed = true) : Quiet a ∧ a.shared.cPointer = none := by
  rcases typed.settled closed with finished | ⟨u, entry, entryFound, progress⟩
  · exact finished
  · have knows := (typed.fits t _ found).2
    have theirs := (typed.fits u _ entryFound).2
    have mine : a.shared.lock .session = some t := (knows.locks .session).mp holds
    rw [(theirs.locks .session).mp (theirs.inside progress)] at mine
    obtain rfl : u = t := Option.some.inj mine
    rw [found] at entryFound
    cases entryFound
    exact absurd (progress.symm.trans other) (by simp)

structure Mode.Follows (a : Annotated) (t : Nat) (mode : Mode) (after : Shared) (next : Code)
    (newMode : Mode) : Prop where
  checked : Checked next newMode
  wrapper : newMode.async = true → next.InWrapper
  request : newMode.stage = .request ↔ mode.stage = .request
  respects : Respects a t mode after newMode

section

variable (typed : Typed a) (knows : Knows a.shared (Quiet a) t mode)

include typed knows

theorem respects_same (same : a.shared.Same after) (proper : after.misused = false)
    (slot : mode.message = true → newMode.slot.Fits a.shared)
    (stage : newMode.stage.Fits a.shared (Quiet a))
    (inside : newMode.stage.inProgress = true → mode.stage.inProgress = true)
    (progress : mode.stage.inProgress = true →
      newMode.stage.inProgress = true ∨ newMode.stage = .cleared)
    (req : newMode.stage ≠ .request → mode.stage ≠ .request)
    (locks : ∀ name, newMode.holds name = mode.holds name := by intro name; cases name <;> rfl)
    (carried : newMode.carried = mode.carried := by rfl) : Respects a t mode after newMode where
  toKeeps := .same (fun _ _ _ => by rw [same.lock]) same.closed
    (fun _ empty => same.cPointer.trans empty) progress
  slotOthers _ slot fits := fits.congr same.cPointer same.freed
  intact free := by
    rw [same.lock] at free
    have before : Slot.Fits .any a.shared := typed.intact free
    exact before.congr same.cPointer same.freed
  own :=
    { locks := fun name => by rw [locks, same.lock]; exact knows.locks name
      slot := fun holds => (slot ((locks .message).symm.trans holds)).congr same.cPointer same.freed
      stage := stage.mono (fun closed => same.closed.trans closed) (fun _ => id)
        fun _ empty => same.cPointer.trans empty
      inside := fun still => (locks .session).trans (knows.inside (inside still))
      empty := fun other => carried.trans (knows.empty (req other)) }
  owned message := by
    rw [same.freed, slotOwns_congr same.cPointer same.freed, same.messages, Mode.carries,
      Mode.carries, carried]
  proper := proper

theorem respects_setLock {holder : Option Nat} (before : ∀ u, u ≠ t → a.shared.lock name ≠ some u)
    (now : ∀ u, u ≠ t → holder ≠ some u)
    (intact : (a.shared.setLock name holder).lock .message = none → a.shared.Intact)
    (locks : ∀ other, newMode.holds other = true ↔
      (a.shared.setLock name holder).lock other = some t) (carried : newMode.carried = mode.carried)
    (slot : newMode.message = true → newMode.slot.Fits a.shared)
    (stage : newMode.stage.Fits a.shared (Quiet a))
    (inside : newMode.stage.inProgress = true → newMode.session = true)
    (progress : mode.stage.inProgress = true →
      newMode.stage.inProgress = true ∨ newMode.stage = .cleared)
    (req : newMode.stage ≠ .request → mode.stage ≠ .request) :
    Respects a t mode (a.shared.setLock name holder) newMode where
  toKeeps := by
    refine .same (fun other u ne => ?_) rfl (fun _ => id) progress
    by_cases same : other = name
    · subst same
      rw [Shared.setLock_self]
      exact iff_of_false (now u ne) (before u ne)
    · rw [Shared.setLock_of_ne _ same]
  slotOthers _ slot fits := fits.congr rfl rfl
  intact := intact
  own :=
    { locks := locks
      slot := fun holds => (slot holds).congr rfl rfl
      stage := stage.mono id (fun _ => id) fun _ => id
      inside := inside
      empty := fun other => carried.trans (knows.empty (req other)) }
  owned message := by
    rw [Mode.carries, Mode.carries, carried]
    rfl
  proper := typed.proper

theorem respects_lock (unlocked : a.shared.lock name = none) :
    Respects a t mode (a.shared.setLock name (some t)) (mode.take name) := by
  apply respects_setLock typed knows
  · simp [unlocked]
  · intro u ne same
    exact ne (Option.some.inj same).symm
  · intro free
    by_cases same : name = .message
    · subst same
      exact typed.intact unlocked
    · rw [Shared.setLock_of_ne _ (Ne.symm same)] at free
      exact typed.intact free
  · intro other
    by_cases same : other = name
    · subst same
      cases other <;> simp [Mode.take, Mode.holds]
    · rw [Shared.setLock_of_ne _ same, ← knows.locks other]
      cases name <;> cases other <;> simp_all [Mode.take, Mode.holds]
  · cases name <;> rfl
  · cases name with
    | message => exact fun _ => typed.intact unlocked
    | session | async => exact knows.slot
  · cases name <;> exact knows.stage
  · cases name with
    | session => exact fun _ => rfl
    | message | async => exact knows.inside
  · cases name <;> exact .inl
  · cases name <;> exact id

theorem respects_unlock (holds : mode.holds name = true)
    (fresh : name = .message → mode.slot ≠ .stale)
    (through : name = .session → mode.stage.inProgress = false) :
    Respects a t mode (a.shared.setLock name none) (mode.drop name) := by
  have holder : a.shared.lock name = some t := (knows.locks name).mp holds
  have stage := stage_drop knows holds
  apply respects_setLock typed knows
  · intro u ne same
    rw [holder] at same
    exact ne (Option.some.inj same).symm
  · simp
  · intro free
    by_cases same : name = .message
    · subst same
      exact (knows.slot holds).intact (fresh rfl)
    · rw [Shared.setLock_of_ne _ (Ne.symm same)] at free
      exact typed.intact free
  · intro other
    by_cases same : other = name
    · subst same
      cases other <;> simp [Mode.drop, Mode.holds]
    · rw [Shared.setLock_of_ne _ same, ← knows.locks other]
      cases name <;> cases other <;> simp_all [Mode.drop, Mode.holds]
  · cases name <;> rfl
  · cases name with
    | message => exact fun held => Bool.noConfusion held
    | session | async => exact knows.slot
  · rcases stage with same | ⟨_, _, cleared, fits⟩
    · rw [same]
      exact knows.stage
    · rw [cleared]
      exact fits
  · intro still
    rcases stage with same | ⟨_, _, cleared, _⟩
    · rw [same] at still
      cases name with
      | session => exact absurd (still.symm.trans (through rfl)) (by simp)
      | message | async => exact knows.inside still
    · rw [cleared] at still
      cases still
  · intro still
    rcases stage with same | ⟨_, _, cleared, _⟩
    · exact .inl (same ▸ still)
    · exact .inr cleared
  · intro other
    rcases stage with same | ⟨_, tearing, _, _⟩
    · exact same ▸ other
    · simp [tearing]

theorem respects_polled (empty : mode.carried = none) (req : mode.stage = .request) :
    Respects a t mode { a.shared with messages := a.shared.messages + 1 }
      { mode with carried := some a.shared.messages } where
  toKeeps := .same (fun _ _ _ => .rfl) rfl (fun _ => id) .inl
  slotOthers _ slot fits := fits.congr rfl rfl
  intact := typed.intact
  own :=
    { knows with
      slot := fun holds => (knows.slot holds).congr rfl rfl
      stage := knows.stage.mono id (fun _ => id) fun _ => id
      empty := fun other => absurd req other }
  owned message := by
    have before : mode.carries message = 0 := by simp [Mode.carries, empty]
    have now : Mode.carries { mode with carried := some a.shared.messages } message =
        if message = a.shared.messages then 1 else 0 := by
      simp only [Mode.carries, Option.some.injEq, eq_comm]
    rw [before, now]
    show a.shared.freed.count message + a.shared.slotOwns message + _ + _ =
      a.shared.freed.count message + a.shared.slotOwns message + 0 +
        if message < a.shared.messages + 1 then 1 else 0
    repeat' split
    all_goals omega
  proper := typed.proper

theorem respects_freeMessage (found : a.threads[t]? = some (old, mode))
    (carried : mode.carried = some message) :
    Respects a t mode (a.shared.free message) { mode with carried := none } := by
  obtain ⟨unfreed, elsewhere⟩ := typed.carried found carried
  exact
    { toKeeps := .same (fun _ _ _ => .rfl) rfl (fun _ => id) .inl
      slotOthers := fun _ slot fits => fits.free elsewhere
      intact := fun free => by
        have before : Slot.Fits .any a.shared := typed.intact free
        exact before.free elsewhere
      own :=
        { knows with
          slot := fun holds => (knows.slot holds).free elsewhere
          stage := knows.stage.mono id (fun _ => id) fun _ => id
          empty := fun _ => rfl }
      owned := by
        intro other
        have now : Mode.carries { mode with carried := none } other = 0 := rfl
        rw [count_free, now]
        by_cases same : other = message
        · subst same
          have before : mode.carries other = 1 := if_pos carried
          have slotBefore : a.shared.slotOwns other = 0 := if_neg fun owns => elsewhere owns.1
          have slotNow : (a.shared.free other).slotOwns other = 0 :=
            if_neg fun owns => elsewhere owns.1
          rw [before, slotBefore, slotNow, if_pos rfl]
          rfl
        · have before : mode.carries other = 0 := by
            simp [Mode.carries, carried, Ne.symm same]
          rw [before, slotOwns_free other same, if_neg same]
          rfl
      proper := misused_use typed.proper unfreed }

theorem respects_freeSlot (holds : mode.message = true) (present : mode.slot = .present) :
    Respects a t mode a.shared.freeSlot { mode with slot := .stale } := by
  have slot := knows.slot holds
  rw [present] at slot
  obtain ⟨intact, filled⟩ := slot
  obtain ⟨message, found⟩ := Option.ne_none_iff_exists'.mp filled
  have unfreed := intact message found
  have freed : a.shared.freeSlot = a.shared.free message := by rw [Shared.freeSlot, found]
  rw [freed]
  exact
    { toKeeps := .same (fun _ _ _ => .rfl) rfl (fun _ => id) .inl
      slotOthers := fun outside => absurd (holds.symm.trans outside) (by simp)
      intact := fun free => absurd free (knows.slotLocked holds)
      own :=
        { knows with
          slot := fun _ other inSlot => by
            rw [show a.shared.cPointer = some other from inSlot] at found
            exact mem_cons.mpr (.inl (Option.some.inj found))
          stage := knows.stage.mono id (fun _ => id) fun _ => id }
      owned := by
        intro other
        have same : Mode.carries { mode with slot := .stale } other = mode.carries other := rfl
        rw [count_free, same]
        by_cases same : other = message
        · subst same
          have slotBefore : a.shared.slotOwns other = 1 := if_pos ⟨found, unfreed⟩
          have slotNow : (a.shared.free other).slotOwns other = 0 :=
            if_neg fun owns => owns.2 (mem_cons_self ..)
          rw [slotBefore, slotNow, if_pos rfl]
          rfl
        · rw [slotOwns_free other same, if_neg same]
          rfl
      proper := misused_use typed.proper unfreed }

theorem respects_store (found : a.threads[t]? = some (old, mode)) (holds : mode.message = true)
    (carried : mode.carried = some message)
    (overwritable : mode.slot = .absent ∨ mode.slot = .stale) :
    Respects a t mode { a.shared with cPointer := some message }
      { mode with carried := none, slot := .present } := by
  obtain ⟨unfreed, _⟩ := typed.carried found carried
  have req : mode.stage = .request := by
    by_contra other
    rw [knows.empty other] at carried
    cases carried
  have intact : Shared.Intact { a.shared with cPointer := some message } := by
    intro other inSlot
    obtain rfl : message = other := Option.some.inj inSlot
    exact unfreed
  exact
    { toKeeps := .same (fun _ _ _ => .rfl) rfl (absurd req) .inl
      slotOthers := fun outside => absurd (holds.symm.trans outside) (by simp)
      intact := fun _ => intact
      own :=
        { knows with
          slot := fun _ => ⟨intact, by simp⟩
          stage := by
            show mode.stage.Fits _ _
            rw [req]
            trivial
          empty := fun _ => rfl }
      owned := by
        intro other
        have slotBefore := slotOwns_of_overwritable (knows.slot holds) overwritable other
        have now : Mode.carries { mode with carried := none, slot := .present } other = 0 := rfl
        have moved : Shared.slotOwns { a.shared with cPointer := some message } other =
            mode.carries other := by
          by_cases same : message = other
          · subst same
            rw [Shared.slotOwns, Mode.carries, if_pos ⟨rfl, unfreed⟩, if_pos carried]
          · simp [Shared.slotOwns, Mode.carries, carried, same]
        rw [slotBefore, now, moved]
        rfl
      proper := typed.proper }

theorem respects_clear (holds : mode.message = true)
    (overwritable : mode.slot = .absent ∨ mode.slot = .stale) :
    Respects a t mode { a.shared with cPointer := none } { mode with slot := .absent } where
  toKeeps := .same (fun _ _ _ => .rfl) rfl (fun _ _ => rfl) .inl
  slotOthers outside := absurd (holds.symm.trans outside) (by simp)
  intact _ _ inSlot := nomatch inSlot
  own :=
    { knows with
      slot := fun _ => rfl
      stage := knows.stage.mono id (fun _ => id) fun _ _ => rfl }
  owned message := by
    have slotBefore := slotOwns_of_overwritable (knows.slot holds) overwritable message
    have slotNow : Shared.slotOwns { a.shared with cPointer := none } message = 0 :=
      if_neg fun owns => nomatch owns.1
    rw [slotBefore, slotNow]
    rfl
  proper := typed.proper

theorem respects_setClosed (holds : mode.session = true) (early : mode.stage = .early) :
    Respects a t mode { a.shared with closed := true, begun := some a.shared.calls }
      { mode with stage := .closing } where
  slotOthers _ slot fits := fits.congr rfl rfl
  intact := typed.intact
  lockOthers _ _ _ := Iff.rfl
  closedKept _ := rfl
  emptyKept _ := id
  own :=
    { knows with
      slot := fun inside => (knows.slot inside).congr rfl rfl
      stage := rfl
      inside := fun _ => holds
      empty := fun _ => knows.empty (by simp [early]) }
  progress _ := .inl rfl
  closes _ _ := rfl
  owned _ := rfl
  proper := typed.proper

theorem respects_seenClosed (found : a.threads[t]? = some (old, mode))
    (closed : a.shared.closed = true) : Respects a t mode a.shared mode.seenClosed := by
  by_cases late : mode.session = true ∧ mode.stage = .early
  · rw [Mode.seenClosed, if_pos late]
    have finished := typed.closedForGood found late.1 (by rw [late.2]; rfl) closed
    apply respects_same typed knows ⟨rfl, rfl, rfl, rfl, rfl⟩ typed.proper
    · exact knows.slot
    · exact ⟨closed, finished⟩
    · exact fun still => nomatch still
    · exact fun _ => .inr rfl
    · intro _
      rw [late.2]
      simp
  · rw [Mode.seenClosed, if_neg late]
    exact respects_same typed knows ⟨rfl, rfl, rfl, rfl, rfl⟩ typed.proper knows.slot
      knows.stage id .inl id

section

variable (wrapper : mode.async = true → next.InWrapper)
include wrapper

theorem follows_same (same : a.shared.Same after) (proper : after.misused = false)
    (checked : Checked next mode) : mode.Follows a t after next mode :=
  ⟨checked, wrapper, Iff.rfl, respects_same typed knows same proper knows.slot knows.stage id
    .inl id⟩

theorem follows_kept (checked : Checked next mode) : mode.Follows a t a.shared next mode :=
  follows_same typed knows wrapper ⟨rfl, rfl, rfl, rfl, rfl⟩ typed.proper checked

theorem follows_ifMessage (fits : mode.message = true → slot.Fits a.shared)
    (checked : Checked next { mode with slot := slot }) :
    mode.Follows a t a.shared next { mode with slot := slot } := by
  refine ⟨checked, wrapper, Iff.rfl, ?_⟩
  apply respects_same typed knows ⟨rfl, rfl, rfl, rfl, rfl⟩ typed.proper
  · exact fits
  · exact knows.stage
  · exact id
  · exact .inl
  · exact id

theorem follows_seenClosed (found : a.threads[t]? = some (old, mode))
    (closed : a.shared.closed = true) (checked : Checked next mode.seenClosed) :
    mode.Follows a t a.shared next mode.seenClosed := by
  refine ⟨checked, ?_, ?_, respects_seenClosed typed knows found closed⟩
  · intro inside
    apply wrapper
    rw [Mode.seenClosed] at inside
    split at inside <;> exact inside
  · rw [Mode.seenClosed]
    split
    · rename_i late
      rw [late.2]
      simp
    · exact Iff.rfl

theorem follows_useSlot (holds : mode.message = true) (present : mode.slot = .present)
    (checked : Checked next mode) : mode.Follows a t a.shared.useSlot next mode := by
  have slot := knows.slot holds
  rw [present] at slot
  obtain ⟨message, found⟩ := Option.ne_none_iff_exists'.mp slot.2
  have used : a.shared.useSlot = a.shared.use message := by rw [Shared.useSlot, found]
  rw [used]
  exact follows_same typed knows wrapper ⟨rfl, rfl, rfl, rfl, rfl⟩
    (misused_use typed.proper (slot.1 message found)) checked

theorem follows_wait (quiet : Quiet a) (closing : mode.stage = .closing)
    (checked : Checked next { mode with stage := .tearing }) :
    mode.Follows a t a.shared next { mode with stage := .tearing } := by
  have stage := knows.stage
  rw [closing] at stage
  refine ⟨checked, wrapper, by simp [closing], ?_⟩
  apply respects_same typed knows ⟨rfl, rfl, rfl, rfl, rfl⟩ typed.proper
  · exact knows.slot
  · exact ⟨stage, quiet⟩
  · intro _
    rw [closing]
    rfl
  · exact fun _ => .inl rfl
  · intro _
    simp [closing]

end

theorem follows (found : a.threads[t]? = some (old, mode)) (checked : Checked code mode)
    (wrapper : mode.async = true → code.InWrapper)
    (stepped : Code.Stepped t (waiting (a.map Prod.fst).threads) a.shared code after next) :
    ∃ newMode, mode.Follows a t after next newMode := by
  have never {next : Code} (outside : mode.async = true → False) (inside : mode.async = true) :
      next.InWrapper := (outside inside).elim
  cases stepped with
  | lock name next unlocked =>
    obtain ⟨_, outside, inWrapper, checked⟩ := checked
    refine ⟨mode.take name, checked, ?_, ?_, respects_lock typed knows unlocked⟩
    · cases name with
      | async => exact fun _ => inWrapper rfl
      | session | message => exact fun inside => absurd (outside.symm.trans inside) (by simp)
    · cases name <;> exact Iff.rfl
  | unlock name next =>
    obtain ⟨holds, fresh, through, checked⟩ := checked
    refine ⟨mode.drop name, checked, ?_, ?_, respects_unlock typed knows holds fresh through⟩
    · cases name with
      | async => exact fun inside => nomatch inside
      | session | message => exact never wrapper
    · rcases stage_drop knows holds with same | ⟨_, tearing, cleared, _⟩
      · rw [same]
      · rw [tearing, cleared]
        simp
  | closed yes no isClosed =>
    exact ⟨mode.seenClosed, follows_seenClosed typed knows (fun inside => (wrapper inside).1)
      found isClosed checked.1⟩
  | open_ yes no isOpen =>
    exact ⟨mode, follows_kept typed knows (fun inside => (wrapper inside).2) checked.2⟩
  | consumer no yes consumer _ =>
    exact ⟨mode, follows_kept typed knows (never wrapper) (checked.2 consumer)⟩
  | noConsumer | unsubscribed | left =>
    exact ⟨mode, follows_kept typed knows (never wrapper) checked.1⟩
  | subscribed | right =>
    exact ⟨mode, follows_kept typed knows (never wrapper) checked.2⟩
  | message no yes message set =>
    obtain ⟨holds, fresh, _, _, checked⟩ := checked
    have intact := (knows.slot holds).intact fresh
    exact ⟨{ mode with slot := .present }, follows_ifMessage typed knows wrapper
      (fun _ => ⟨intact, by simp [set]⟩) checked⟩
  | noMessage no yes unset =>
    obtain ⟨holds, _, known, checked, _⟩ := checked
    have unknown : mode.slot ≠ .present := by
      intro present
      have slot := knows.slot holds
      rw [present] at slot
      exact slot.2 unset
    exact ⟨{ mode with slot := .absent }, follows_ifMessage typed knows
      (fun inside => absurd (known inside) unknown) (fun _ => unset) (checked unknown)⟩
  | nothingPolled next =>
    exact ⟨mode, follows_kept typed knows (fun inside => wrapper inside none) checked.2.2.1⟩
  | polled next =>
    obtain ⟨empty, req, _, checked⟩ := checked
    exact ⟨_, checked _, fun inside => wrapper inside _, Iff.rfl,
      respects_polled typed knows empty req⟩
  | useMessage message next =>
    obtain ⟨unfreed, _⟩ := typed.carried found checked.1
    exact ⟨mode, follows_same typed knows (never wrapper) ⟨rfl, rfl, rfl, rfl, rfl⟩
      (misused_use typed.proper unfreed) checked.2⟩
  | useSlot next =>
    obtain ⟨holds, present, checked⟩ := checked
    exact ⟨mode, follows_useSlot typed knows wrapper holds present checked⟩
  | freeMessage message next =>
    exact ⟨_, checked.2, (never wrapper), Iff.rfl,
      respects_freeMessage typed knows found checked.1⟩
  | freeSlot next =>
    obtain ⟨holds, present, checked⟩ := checked
    exact ⟨_, checked, wrapper, Iff.rfl, respects_freeSlot typed knows holds present⟩
  | setSlot value next =>
    cases value with
    | some message =>
      obtain ⟨holds, carried, overwritable, checked⟩ := checked
      exact ⟨_, checked, (never wrapper), Iff.rfl,
        respects_store typed knows found holds carried overwritable⟩
    | none =>
      obtain ⟨holds, overwritable, checked⟩ := checked
      exact ⟨_, checked, (never wrapper), Iff.rfl,
        respects_clear typed knows holds overwritable⟩
  | noConsumerCreated next =>
    exact ⟨mode, follows_kept typed knows (fun inside => wrapper inside none) (checked none)⟩
  | consumerCreated next =>
    exact ⟨mode, follows_same typed knows (fun inside => wrapper inside _)
      ⟨rfl, rfl, rfl, rfl, rfl⟩ typed.proper (checked _)⟩
  | called kind consumer next ok =>
    exact ⟨mode, follows_same typed knows (fun inside => wrapper inside ok)
      ⟨rfl, rfl, rfl, rfl, rfl⟩ typed.proper (checked ok)⟩
  | otherCall next =>
    exact ⟨mode, follows_kept typed knows wrapper checked⟩
  | setConsumer | setUnsubscribed =>
    exact ⟨mode, follows_same typed knows (never wrapper) ⟨rfl, rfl, rfl, rfl, rfl⟩
      typed.proper checked⟩
  | setClosed next =>
    obtain ⟨holds, early, checked⟩ := checked
    exact ⟨_, checked, (never wrapper), by simp [early],
      respects_setClosed typed knows holds early⟩
  | waited next nobody =>
    exact ⟨_, follows_wait typed knows (never wrapper) (quiet_of_waited nobody)
      checked.1 checked.2⟩

end

theorem Typed.runStep (typed : Typed a) (found : a.threads[t]? = some (old, mode))
    (runs : Runs code next old new)
    (stepped : Code.Stepped t (waiting (a.map Prod.fst).threads) a.shared code after next) :
    ∃ newMode, Typed (a.apply t ⟨after, (new, newMode), []⟩) := by
  obtain ⟨fits, knows⟩ := typed.fits t _ found
  cases runs with
  | request running =>
    obtain ⟨req, checked, wrapper⟩ := fits
    obtain ⟨newMode, follows⟩ := follows typed knows found checked wrapper stepped
    exact ⟨newMode, typed.apply found (.request running)
      ⟨follows.request.mpr req, follows.checked, follows.wrapper⟩ follows.respects⟩
  | closing =>
    obtain ⟨other, checked, wrapper⟩ := fits
    obtain ⟨newMode, follows⟩ := follows typed knows found checked wrapper stepped
    exact ⟨newMode, typed.apply found .closing ⟨fun req => other (follows.request.mp req),
      follows.checked, follows.wrapper⟩ follows.respects⟩

end

structure Mode.Blank (mode : Mode) : Prop where
  holds : ∀ name, mode.holds name = false
  carried : mode.carried = none
  stage : mode.stage = .request ∨ mode.stage = .early

theorem blank_idle (fits : stage = .request ∨ stage = .early) :
    Mode.Blank { Mode.idle with stage := stage } where
  holds name := by cases name <;> rfl
  carried := rfl
  stage := fits

variable {mode : Mode}

theorem Mode.Blank.knows {t : Nat} (blank : mode.Blank) (outside : ∀ name, sh.lock name ≠ some t) :
    Knows sh quiet t mode where
  locks name := iff_of_false (by simp [blank.holds name]) (outside name)
  slot held := absurd (held.symm.trans (blank.holds .message)) (by simp)
  stage := by rcases blank.stage with same | same <;> rw [same] <;> trivial
  inside progress := by
    rcases blank.stage with same | same <;> rw [same] at progress <;> cases progress
  empty _ := blank.carried

theorem Mode.Blank.carries (blank : mode.Blank) (message : Nat) : mode.carries message = 0 := by
  simp [Mode.carries, blank.carried]

section

variable {a : Annotated} {t : Nat} {old new : Thread} {mode : Mode}
  {spawned : List (Thread × Mode)}

theorem Typed.idleStep (typed : Typed a) (found : a.threads[t]? = some (old, mode))
    (blank : mode.Blank) (fits : new.Fits .idle)
    (calm : a.shared.closed = true → ∀ code, new = .request code → code = .halt)
    (started : ∀ entry ∈ spawned, entry.1.Fits entry.2 ∧ entry.2.Blank ∧
      ∀ code, entry.1 ≠ .request code) : Typed (a.apply t ⟨a.shared, (new, .idle), spawned⟩) := by
  have knows : Knows a.shared (Quiet a) t mode := (typed.fits t _ found).2
  have newBlank : Mode.idle.Blank := blank_idle (.inl rfl)
  have outside (name : Name) : a.shared.lock name ≠ some t := by
    rw [Ne, ← knows.locks name, blank.holds name]
    simp
  have quietKept : a.shared.closed = true → Quiet a →
      Quiet (a.apply t ⟨a.shared, (new, .idle), spawned⟩) := by
    intro closed quiet entry mem code isRequest
    rcases mem_apply mem with same | rfl | fresh
    · exact quiet entry same code isRequest
    · exact calm closed code isRequest
    · exact absurd isRequest ((started entry fresh).2.2 code)
  refine ⟨?_, ?_, typed.intact, ?_, ?_, typed.proper⟩
  · refine forall_apply typed.fits ?_ ?_ ?_
    · intro u entry ne before
      obtain ⟨entryFits, theirs⟩ := before
      exact ⟨entryFits, theirs.locks, theirs.slot, theirs.stage.mono id quietKept fun _ => id,
        theirs.inside, theirs.empty⟩
    · exact ⟨fits, newBlank.knows outside⟩
    · intro u entry beyond fresh
      refine ⟨(started entry fresh).1, (started entry fresh).2.1.knows ?_⟩
      intro name holder
      have inside := typed.held name u holder
      omega
  · intro name u holder
    have inside := typed.held name u holder
    simp only [Snapshot.apply, length_append, length_set]
    omega
  · intro closed
    rcases typed.settled closed with ⟨quiet, empty⟩ | ⟨u, entry, entryFound, progress⟩
    · exact .inl ⟨quietKept closed quiet, empty⟩
    · have ne : u ≠ t := by
        rintro rfl
        rw [found] at entryFound
        cases entryFound
        rcases blank.stage with same | same <;> rw [same] at progress <;> cases progress
      exact .inr ⟨u, entry, apply_other _ ne entryFound, progress⟩
  · intro message
    have moved := tally_apply (weight message) found ⟨a.shared, (new, .idle), spawned⟩
    have fresh : tally (weight message) spawned = 0 :=
      tally_eq_zero _ fun entry mem => (started entry mem).2.1.carries message
    have before := typed.owned message
    simp only [fresh, weight, blank.carries, newBlank.carries] at moved
    show a.shared.freed.count message + a.shared.slotOwns message + tally (weight message)
      (a.apply t ⟨a.shared, (new, .idle), spawned⟩).threads =
        if message < a.shared.messages then 1 else 0
    omega

end

variable {th : Thread}

theorem blank_of_fits_idle (fits : th.Fits mode)
    (other : ∀ code, th ≠ .request code ∧ th ≠ .closing code) : mode.Blank := by
  cases th with
  | request code => exact absurd rfl (other code).1
  | closing code => exact absurd rfl (other code).2
  | _ => exact fits ▸ blank_idle (.inl rfl)

theorem typed_opened : Typed ⟨(opened : State).shared, [(.reading, .idle)]⟩ where
  fits t entry found := by
    obtain ⟨inside, rfl⟩ := List.getElem?_eq_some_iff.mp found
    have first : t = 0 := by simpa using inside
    subst first
    exact ⟨rfl, (blank_idle (.inl rfl)).knows fun name => by simp [opened]⟩
  held name t holder := nomatch holder
  intact _ message found := nomatch found
  settled closed := nomatch closed
  owned message := by simp [opened, Shared.slotOwns, weight, Mode.carries, Mode.idle]
  proper := rfl

variable {a : Annotated}

/-- A step of a goroutine follows its code, and its mode tells what it still owns. -/
theorem Typed.step {label : Nat × Choice} {after : State} (typed : Typed a)
    (stepped : session.system.next (a.map Prod.fst) label = some after) :
    ∃ b : Annotated, b.map Prod.fst = after ∧ Typed b := by
  obtain ⟨th, move, threadFound, advanced, rfl⟩ := Machine.next_inv stepped
  obtain ⟨t, choice⟩ := label
  obtain ⟨⟨old, mode⟩, found, rfl⟩ :
      ∃ entry : Thread × Mode, a.threads[t]? = some entry ∧ entry.1 = th := by
    simpa [Snapshot.map] using threadFound
  have fits : old.Fits mode := (typed.fits t _ found).1
  -- The goroutine is outside of every handler, before the step and after it.
  have idles {new : Thread} (spawned : List (Thread × Mode)) (blank : mode.Blank)
      (fits : new.Fits .idle)
      (calm : a.shared.closed = true → ∀ code, new = .request code → code = .halt)
      (started : ∀ entry ∈ spawned, entry.1.Fits entry.2 ∧ entry.2.Blank ∧
        ∀ code, entry.1 ≠ .request code) : ∃ b : Annotated, b.map Prod.fst =
        (a.map Prod.fst).apply t ⟨a.shared, new, spawned.map Prod.fst⟩ ∧ Typed b :=
    ⟨_, map_apply _ ⟨_, (new, .idle), spawned⟩, typed.idleStep found blank fits calm started⟩
  cases advanced_of_advance advanced with
  | ignored | accepted => exact idles [] (blank_of_fits_idle fits (by simp)) rfl (by simp) (by simp)
  | closeCalled =>
    have early : Thread.Fits (.closing close) { Mode.idle with stage := .early } :=
      ⟨by simp, checked_close, fun inside => by cases inside⟩
    refine idles [(.closing close, { Mode.idle with stage := .early })]
      (blank_of_fits_idle fits (by simp)) rfl (by simp) fun entry mem => ?_
    obtain rfl := mem_singleton.mp mem
    exact ⟨early, blank_idle (.inr rfl), by simp⟩
  | dispatched action =>
    refine idles [(.check action, .idle)] (blank_of_fits_idle fits (by simp)) rfl (by simp)
      fun entry mem => ?_
    obtain rfl := mem_singleton.mp mem
    exact ⟨rfl, blank_idle (.inl rfl), by simp⟩
  | late action closed =>
    exact idles [] (blank_of_fits_idle fits (by simp))
      ⟨rfl, checked_halt, fun inside => by cases inside⟩
      (fun _ code same => (Thread.request.inj same).symm) (by simp)
  | started action isOpen =>
    exact idles [] (blank_of_fits_idle fits (by simp))
      ⟨rfl, checked_handler action, fun inside => by cases inside⟩
      (fun closed => absurd (isOpen.symm.trans closed) (by simp)) (by simp)
  | done =>
    obtain ⟨req, ⟨session, message, async, carried, _⟩, _⟩ := fits
    exact idles [] ⟨fun name => by cases name <;> assumption, carried, .inl req⟩ rfl (by simp)
      (by simp)
  | request ran =>
    obtain ⟨newMode, typed⟩ := typed.runStep found (.request ran.running) ran
    exact ⟨_, map_apply _ _, typed⟩
  | closing ran =>
    obtain ⟨newMode, typed⟩ := typed.runStep found .closing ran
    exact ⟨_, map_apply _ _, typed⟩

theorem typed_of_reachable {s : State} (reached : session.system.Reachable s) :
    ∃ a : Annotated, a.map Prod.fst = s ∧ Typed a := by
  have initially : ∀ first, session.system.initial first →
      ∃ a : Annotated, a.map Prod.fst = first ∧ Typed a := by
    rintro first rfl
    exact ⟨_, rfl, typed_opened⟩
  have preserved : ∀ before label after, (∃ a : Annotated, a.map Prod.fst = before ∧ Typed a) →
      session.system.next before label = some after →
      ∃ a : Annotated, a.map Prod.fst = after ∧ Typed a := by
    rintro _ label after ⟨a, rfl, typed⟩ stepped
    exact typed.step stepped
  exact System.Reachable.invariant initially preserved reached

def Thread.InWrapper : Thread → Prop
  | .request code | .closing code => code.InWrapper
  | _ => False

theorem inWrapper_of_fits (fits : th.Fits mode) (holds : mode.async = true) : th.InWrapper := by
  cases th with
  | request | closing => exact fits.2.2 holds
  | _ =>
    rw [show mode = .idle from fits] at holds
    cases holds

variable {entry : Thread × Mode} {message : Nat}

theorem Typed.empty_of_quiet (typed : Typed a) (quiet : Quiet a) (mem : entry ∈ a.threads) :
    entry.2.carries message = 0 := by
  obtain ⟨t, found⟩ := mem_iff_getElem?.mp mem
  obtain ⟨fits, knows⟩ := typed.fits t entry found
  have empty : entry.2.carried = none := by
    obtain ⟨th, mode⟩ := entry
    cases th with
    | request code =>
      obtain rfl : code = .halt := quiet _ mem code rfl
      obtain ⟨_, ⟨_, _, _, carried, _⟩, _⟩ := fits
      exact carried
    | closing code => exact knows.empty fits.1
    | _ => rw [show mode = .idle from fits]; rfl
  simp [Mode.carries, empty]

theorem Typed.freed_of_returned (typed : Typed a) (mem : entry ∈ a.threads)
    (returned : entry.1.returned = true) (polled : message < a.shared.messages) :
    a.shared.freed.count message = 1 := by
  obtain ⟨t, found⟩ := mem_iff_getElem?.mp mem
  obtain ⟨fits, knows⟩ := typed.fits t entry found
  have cleared : entry.2.stage = .cleared := by
    obtain ⟨th, mode⟩ := entry
    cases th with
    | closing code =>
      cases code with
      | halt =>
        obtain ⟨other, ⟨_, _, _, _, stage⟩, _⟩ := fits
        exact stage.resolve_left other
      | _ => cases returned
    | _ => cases returned
  have stage := knows.stage
  rw [cleared] at stage
  obtain ⟨_, quiet, empty⟩ := stage
  have nobody : tally (weight message) a.threads = 0 := by
    apply tally_eq_zero
    intro other otherMember
    exact typed.empty_of_quiet quiet otherMember
  have slot : a.shared.slotOwns message = 0 := by simp [Shared.slotOwns, empty]
  have once := typed.owned message
  rw [if_pos polled] at once
  omega

/-- In every interleaving of requests and calls of `Close`: a polled message is
freed at most once, and exactly once when `Close` has returned; the library is
never called with a message after it was freed; and whoever holds the async lock
is inside a wrapper. -/
theorem messages_freed_once {s : State} (reached : session.system.Reachable s) :
    (∀ message, s.shared.freed.count message ≤ 1) ∧
    ((∃ thread ∈ s.threads, thread.returned = true) →
      ∀ message, message < s.shared.messages → s.shared.freed.count message = 1) ∧
    s.shared.misused = false ∧
    (∀ t, s.shared.lock .async = some t →
      ∃ thread, s.threads[t]? = some thread ∧ thread.InWrapper) := by
  obtain ⟨a, rfl, typed⟩ := typed_of_reachable reached
  refine ⟨?_, ?_, typed.proper, ?_⟩
  · intro message
    have once := typed.owned message
    have bound : (if message < a.shared.messages then 1 else 0) ≤ 1 := by split <;> omega
    show a.shared.freed.count message ≤ 1
    omega
  · rintro ⟨thread, member, returned⟩ message polled
    obtain ⟨entry, entryMember, rfl⟩ := mem_map.mp member
    exact typed.freed_of_returned entryMember returned polled
  · intro t holder
    have inside := typed.held .async t holder
    obtain ⟨fits, knows⟩ := typed.fits t _ (List.getElem?_eq_getElem inside)
    refine ⟨(a.threads[t]).1, ?_, inWrapper_of_fits fits ((knows.locks .async).mpr holder)⟩
    simp [Snapshot.map, List.getElem?_eq_getElem inside]

def polling (t steps : Nat) : List (Nat × Choice) :=
  requested t .poll (goes 2 ++ [.right, .go, .go, .right, .go, .go, .left] ++ goes steps)

/-- Two messages are polled; the second poll frees the first, `Close` the second. -/
theorem messages_freed_once_two :
    ∃ s, session.system.Reachable s ∧ (∃ thread ∈ s.threads, thread.returned = true) ∧
      s.shared.messages = 2 ∧ s.shared.freed.count 0 = 1 ∧ s.shared.freed.count 1 = 1 := by
  obtain ⟨s, reached, returned, messages⟩ : ∃ s, session.system.Reachable s ∧
      (∃ thread ∈ s.threads, thread.returned = true) ∧ s.shared.messages = 2 :=
    session.system.exists_of_exec (.flatten [subscribing 1, polling 2 6, polling 3 11,
      closing 4 17]) rfl
      (by decide +kernel)
  have freed := (messages_freed_once reached).2.1 returned
  exact ⟨s, reached, returned, messages, freed 0 (by omega), freed 1 (by omega)⟩

end TaosAdapter.Tmq.Concurrent
