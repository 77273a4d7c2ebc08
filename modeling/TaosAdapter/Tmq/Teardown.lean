import TaosAdapter.Tmq.Handlers

/-!
Owns: what becomes of the consumer of a TMQ session when it is closed. The calls
that concern a subscription are made with the lock of the session held, so what
its holder knows can be followed along its code; `Tracked` does so, and
`Guarded` says that it is true of every goroutine.

`Close` sets the closed flag before it waits for the requests, and
`wrapperUnsubscribe` asks for that flag. So the call of `tmq_unsubscribe` that
`Close` means to make for a consumer that is still subscribed is never made.
-/

namespace TaosAdapter.Tmq.Concurrent

open Lib List Snapshot

/-- The library has subscribed the consumer: the last call for it that changed
that and succeeded is `tmq_subscribe`. -/
def subscribedIn (consumer : Nat) (calls : List Call) : Bool :=
  calls.foldl (fun subscribed call =>
    if call.consumer = consumer ∧ call.ok = true then
      match call.kind with
      | .subscribe => true
      | .unsubscribe => false
      | .close => subscribed
    else subscribed) false

def closesOf (consumer : Nat) (calls : List Call) : List Call :=
  calls.filter fun call => call.kind = .close ∧ call.consumer = consumer

/-- The calls of `Close` for the consumer: `tmq_unsubscribe` first if it is still
subscribed and not otherwise, and the only `tmq_consumer_close`. -/
structure Ends (before calls : List Call) (consumer : Nat) : Prop where
  unsubscribed : subscribedIn consumer before = true →
    ∃ ok ended, calls = before ++ [⟨.unsubscribe, consumer, ok⟩, ⟨.close, consumer, ended⟩]
  notAgain : subscribedIn consumer before = false →
    ∃ ended, calls = before ++ [⟨.close, consumer, ended⟩]
  once : (closesOf consumer calls).length = 1

def ConsumerEnded (s : State) : Prop :=
  (∃ thread ∈ s.threads, thread.returned = true) →
    ∃ before, s.shared.begun = some before ∧
      ∀ consumer, s.shared.consumer = some consumer → Ends before s.shared.calls consumer

def Thread.closes : Thread → Bool
  | .closing (.setClosed _) => true
  | _ => false

/-- The goroutine that moves sets the closed flag only when the consumer of the
session, if there is one, is not subscribed. -/
def ClosesUnsubscribed (s : State) (label : Nat × Choice) : Prop :=
  ∀ thread ∈ s.threads[label.1]?, thread.closes = true →
    ∀ consumer ∈ s.shared.consumer, subscribedIn consumer s.shared.calls = false

instance (s : State) (label : Nat × Choice) : Decidable (ClosesUnsubscribed s label) := by
  unfold ClosesUnsubscribed
  infer_instance

inductive Known where
  | outside
  | past
  | entered
  | opened
  | unset
  | consumer (consumer : Nat)
  | created (consumer : Nat)
  | shut
  | closing
  | ending (consumer : Nat)
deriving DecidableEq

def Known.inside : Known → Bool
  | .outside | .past => false
  | _ => true

def NotClosed (consumer : Nat) (calls : List Call) : Prop := closesOf consumer calls = []

structure Shared.Open (sh : Shared) : Prop where
  isOpen : sh.closed = false
  notBegun : sh.begun = none
  created : ∀ consumer, sh.consumer = some consumer → consumer < sh.consumers
  notClosed : ∀ consumer, sh.consumer = some consumer → NotClosed consumer sh.calls
  known : ∀ call ∈ sh.calls, call.consumer < sh.consumers

structure Shared.Closing (sh : Shared) : Prop where
  closed : sh.closed = true
  begun : sh.begun = some sh.calls
  notClosed : ∀ consumer, sh.consumer = some consumer → NotClosed consumer sh.calls

structure Shared.Ended (sh : Shared) : Prop where
  closed : sh.closed = true
  calls : ∃ before, sh.begun = some before ∧
    ((sh.consumer = none ∧ sh.calls = before) ∨
      ∃ consumer ok, sh.consumer = some consumer ∧ NotClosed consumer before ∧
        sh.calls = before ++ [⟨.close, consumer, ok⟩])

def Known.Fits : Known → Shared → Prop
  | .outside, _ => True
  | .past, sh | .shut, sh => sh.Ended
  | .entered, sh => sh.Open ∨ sh.Ended
  | .opened, sh => sh.Open
  | .unset, sh => sh.Open ∧ sh.consumer = none
  | .consumer target, sh => sh.Open ∧ sh.consumer = some target
  | .created target, sh => sh.Open ∧ sh.consumer = none ∧
      target < sh.consumers ∧ NotClosed target sh.calls
  | .closing, sh => sh.Closing
  | .ending target, sh => sh.Closing ∧ sh.consumer = some target

def Tracked (closer : Bool) : Code → Known → Prop
  | .lock name next, known =>
    if name = .session then known = .outside ∧ Tracked closer next .entered
    else Tracked closer next known
  | .unlock name next, known =>
    if name = .session then
      match known with
      | .opened | .unset | .consumer _ => Tracked closer next .outside
      | .shut => Tracked closer next .past
      | _ => False
    else Tracked closer next known
  | .ifClosed yes no, known =>
    match known with
    | .entered => Tracked closer yes .shut ∧ Tracked closer no .opened
    | .opened | .unset | .consumer _ | .created _ => Tracked closer no known
    | .closing | .ending _ | .shut | .past => Tracked closer yes known
    | .outside => Tracked closer yes .outside ∧ Tracked closer no .outside
  | .ifConsumer no yes, known =>
    match known with
    | .opened =>
      Tracked closer no .unset ∧ ∀ consumer, Tracked closer (yes consumer) (.consumer consumer)
    | .closing =>
      Tracked closer no .shut ∧ ∀ consumer, Tracked closer (yes consumer) (.ending consumer)
    | .outside => Tracked closer no .outside ∧ ∀ consumer, Tracked closer (yes consumer) .outside
    | _ => False
  | .ifUnsubscribed yes no, known => Tracked closer yes known ∧ Tracked closer no known
  | .ifMessage no yes, known => Tracked closer no known ∧ Tracked closer yes known
  | .either left right, known => Tracked closer left known ∧ Tracked closer right known
  | .poll next, known => ∀ message, Tracked closer (next message) known
  | .useMessage _ next, known | .useSlot next, known | .freeMessage _ next, known
  | .freeSlot next, known | .setSlot _ next, known | .otherCall next, known
  | .setUnsubscribed _ next, known | .wait next, known => Tracked closer next known
  | .newConsumer next, known =>
    known = .unset ∧ Tracked closer (next none) .unset ∧
      ∀ consumer, Tracked closer (next (some consumer)) (.created consumer)
  | .call kind target next, known =>
    match known with
    | .consumer consumer =>
      kind ≠ .close ∧ target = consumer ∧ ∀ ok, Tracked closer (next ok) known
    | .created consumer =>
      target = consumer ∧
        ∀ ok, Tracked closer (next ok) (if kind = .close then .unset else known)
    | .ending consumer =>
      kind = .close ∧ target = consumer ∧ ∀ ok, Tracked closer (next ok) .shut
    | _ => False
  | .setConsumer target next, known =>
    known = .created target ∧ Tracked closer next (.consumer target)
  | .setClosed next, known => closer = true ∧ known = .opened ∧ Tracked closer next .closing
  | .halt, known => known = .past ∨ (known = .outside ∧ closer = false)

theorem tracked_handler (action : Action) : Tracked false (handler action) .outside := by
  cases action with
  | poll =>
    simp [handler, poll, pollMessage, wrapperCommit, wrapperPoll, guarded, takeMessage,
      storeMessage, wrapperFreeResult, Tracked, Option.forall]
  | fetch => simp [handler, fetch, reader, wrapperFetchRawBlock, guarded, Tracked]
  | fetchBlock => simp [handler, fetchBlock, Tracked]
  | fetchRawBlock => simp [handler, fetchRawBlock, reader, wrapperGetRaw, guarded, Tracked]
  | fetchRawBlockNew => simp [handler, fetchRawBlockNew, reader, wrapperGetRaw, guarded, Tracked]
  | fetchJsonMeta => simp [handler, fetchJsonMeta, reader, wrapperGetJsonMeta, guarded, Tracked]
  | subscribe =>
    simp [handler, subscribe, firstSubscribe, resubscribe, wrapperConsumerNew, wrapperSubscribe,
      closeConsumerWithErrLog, wrapperCloseConsumer, Tracked]
  | unsubscribe =>
    simp [handler, unsubscribe, wrapperUnsubscribe, guarded, freeMessage, Tracked]
  | consumerCalls count =>
    simp only [handler, consumerCalls, Tracked]
    refine ⟨by simp, fun _ => ?_⟩
    induction count with
    | zero => simp [callEach, Tracked]
    | succ count ih =>
      simpa [callEach, wrapperCommit, guarded, Tracked] using ih

theorem tracked_close : Tracked true close .outside := by
  simp [close, freeMessage, endConsumer, destroyThread, wrapperCloseConsumer, wrapperUnsubscribe,
    guarded, Tracked]

structure Shared.SameConsumer (sh after : Shared) : Prop where
  closed : after.closed = sh.closed
  begun : after.begun = sh.begun
  consumer : after.consumer = sh.consumer
  consumers : after.consumers = sh.consumers
  calls : after.calls = sh.calls

def Shared.Steady (sh : Shared) : Prop := sh.Open ∨ sh.Ended

section

variable {sh after : Shared} (same : sh.SameConsumer after)

include same

theorem Shared.Open.congr (isOpen : sh.Open) : after.Open := by
  refine ⟨?_, ?_, ?_, ?_, ?_⟩
  · rw [same.closed]; exact isOpen.isOpen
  · rw [same.begun]; exact isOpen.notBegun
  · rw [same.consumer, same.consumers]; exact isOpen.created
  · rw [same.consumer, same.calls]; exact isOpen.notClosed
  · rw [same.calls, same.consumers]; exact isOpen.known

theorem Shared.Closing.congr (closing : sh.Closing) : after.Closing := by
  refine ⟨?_, ?_, ?_⟩
  · rw [same.closed]; exact closing.closed
  · rw [same.begun, same.calls]; exact closing.begun
  · rw [same.consumer, same.calls]; exact closing.notClosed

theorem Shared.Ended.congr (ended : sh.Ended) : after.Ended := by
  refine ⟨?_, ?_⟩
  · rw [same.closed]; exact ended.closed
  · rw [same.begun, same.consumer, same.calls]; exact ended.calls

theorem Known.Fits.congr {known : Known} (fits : known.Fits sh) : known.Fits after := by
  cases known with
  | outside => trivial
  | past | shut => exact Shared.Ended.congr same fits
  | entered => exact fits.imp (Shared.Open.congr same) (Shared.Ended.congr same)
  | opened => exact Shared.Open.congr same fits
  | unset | consumer | ending => exact ⟨fits.1.congr same, same.consumer.trans fits.2⟩
  | created target =>
    obtain ⟨isOpen, unset, created, notClosed⟩ := fits
    refine ⟨isOpen.congr same, same.consumer.trans unset, ?_, ?_⟩
    · rw [same.consumers]; exact created
    · rw [same.calls]; exact notClosed
  | closing => exact Shared.Closing.congr same fits

end

structure Tracks (closer : Bool) (t : Nat) (sh : Shared) (known : Known) (after : Shared)
    (next : Code) (newKnown : Known) : Prop where
  tracked : Tracked closer next newKnown
  fits : newKnown.Fits after
  inside : newKnown.inside = true ↔ after.lock .session = some t
  lockOthers : ∀ u, u ≠ t → (after.lock .session = some u ↔ sh.lock .session = some u)
  steady : after.lock .session = none → after.Steady
  others : known.inside = false → sh.SameConsumer after
  ended : sh.Ended → after.Ended

section

variable {closer : Bool} {t waiting : Nat} {sh after : Shared} {known newKnown : Known}
  {code next : Code}

theorem tracks_same (same : sh.SameConsumer after) (lock : after.lock .session = sh.lock .session)
    (inside : known.inside = true ↔ sh.lock .session = some t)
    (steady : sh.lock .session = none → sh.Steady) (tracked : Tracked closer next newKnown)
    (fits : newKnown.Fits sh) (sameSide : newKnown.inside = known.inside) :
    Tracks closer t sh known after next newKnown where
  tracked := tracked
  fits := fits.congr same
  inside := by rw [sameSide, lock]; exact inside
  lockOthers u _ := by rw [lock]
  steady free := by
    rw [lock] at free
    exact (steady free).imp (Shared.Open.congr same) (Shared.Ended.congr same)
  others _ := same
  ended := Shared.Ended.congr same

theorem tracks_changed (lock : after.lock .session = sh.lock .session)
    (inside : known.inside = true ↔ sh.lock .session = some t)
    (holds : known.inside = true) (running : ¬ sh.Ended)
    (tracked : Tracked closer next newKnown) (fits : newKnown.Fits after)
    (stays : newKnown.inside = true) : Tracks closer t sh known after next newKnown where
  tracked := tracked
  fits := fits
  inside := by rw [stays, lock, ← inside, holds]
  lockOthers u _ := by rw [lock]
  steady free := by
    rw [lock, inside.mp holds] at free
    cases free
  others outside := absurd (holds.symm.trans outside) (by simp)
  ended before := absurd before running

theorem Shared.Open.notEnded (isOpen : sh.Open) : ¬ sh.Ended :=
  fun ended => absurd (isOpen.isOpen.symm.trans ended.closed) (by simp)

theorem Shared.Closing.notEnded {target : Nat} (closing : sh.Closing)
    (set : sh.consumer = some target) : ¬ sh.Ended := by
  intro ended
  obtain ⟨before, begun, ⟨unset, _⟩ | ⟨_, _, _, _, calls⟩⟩ := ended.calls
  · rw [set] at unset
    cases unset
  · rw [closing.begun] at begun
    obtain rfl : sh.calls = before := Option.some.inj begun
    have length := congrArg List.length calls
    simp at length

variable {calls : List Call} {call : Call}

theorem notClosed_append {consumer : Nat} (notClosed : NotClosed consumer calls)
    (other : ¬ (call.kind = .close ∧ call.consumer = consumer)) :
    NotClosed consumer (calls ++ [call]) := by
  rw [NotClosed, closesOf, filter_append, ← closesOf, notClosed]
  simpa using other

theorem notClosed_fresh {consumers : Nat} (known : ∀ call ∈ calls, call.consumer < consumers) :
    NotClosed consumers calls := by
  rw [NotClosed, closesOf, filter_eq_nil_iff]
  intro call mem isClose
  have before := known call mem
  have same : call.consumer = consumers := (of_decide_eq_true isClose).2
  omega

theorem tracks_lockSession (unlocked : sh.lock .session = none)
    (steady : sh.lock .session = none → sh.Steady)
    (tracked : Tracked closer (.lock .session next) known) :
    Tracks closer t sh known (sh.setLock .session (some t)) next .entered := by
  obtain ⟨rfl, following⟩ : known = .outside ∧ Tracked closer next .entered := by
    simpa [Tracked] using tracked
  have same : sh.SameConsumer (sh.setLock .session (some t)) := ⟨rfl, rfl, rfl, rfl, rfl⟩
  refine ⟨following, ?_, by simp [Known.inside], ?_, by simp, fun _ => same, .congr same⟩
  · exact (steady unlocked).imp (.congr same) (.congr same)
  · intro u ne
    simp [unlocked, ne.symm]

theorem tracks_unlockSession (inside : known.inside = true ↔ sh.lock .session = some t)
    (fits : known.Fits sh) (tracked : Tracked closer (.unlock .session next) known) :
    ∃ newKnown, Tracks closer t sh known (sh.setLock .session none) next newKnown := by
  have same : sh.SameConsumer (sh.setLock .session none) := ⟨rfl, rfl, rfl, rfl, rfl⟩
  have others (holds : known.inside = true) (u : Nat) (ne : u ≠ t) :
      (sh.setLock .session none).lock .session = some u ↔ sh.lock .session = some u := by
    rw [inside.mp holds]
    simp [ne.symm]
  have opened (holds : known.inside = true) (isOpen : sh.Open)
      (tracked : Tracked closer next .outside) :
      Tracks closer t sh known (sh.setLock .session none) next .outside :=
    ⟨tracked, trivial, by simp [Known.inside], others holds, fun _ => .inl (isOpen.congr same),
      fun _ => same, .congr same⟩
  cases known with
  | opened => exact ⟨.outside, opened rfl fits (by simpa [Tracked] using tracked)⟩
  | unset | consumer => exact ⟨.outside, opened rfl fits.1 (by simpa [Tracked] using tracked)⟩
  | shut =>
    exact ⟨.past, by simpa [Tracked] using tracked, .congr same fits, by simp [Known.inside],
      others rfl, fun _ => .inr (.congr same fits), fun _ => same, .congr same⟩
  | _ => simp [Tracked] at tracked

section

variable (inside : known.inside = true ↔ sh.lock .session = some t)
  (steady : sh.lock .session = none → sh.Steady) (fits : known.Fits sh)

include inside steady fits

variable {no : Code}

theorem tracks_ifClosed {yes : Code} (tracked : Tracked closer (.ifClosed yes no) known) :
    ∃ newKnown, Tracks closer t sh known sh (if sh.closed then yes else no) newKnown := by
  have same : sh.SameConsumer sh := ⟨rfl, rfl, rfl, rfl, rfl⟩
  have opened {newKnown : Known} (isOpen : sh.Open) (tracked : Tracked closer no newKnown)
      (fits : newKnown.Fits sh) (sameSide : newKnown.inside = known.inside) :
      Tracks closer t sh known sh (if sh.closed then yes else no) newKnown := by
    rw [isOpen.isOpen]
    exact tracks_same same rfl inside steady tracked fits sameSide
  have closed {newKnown : Known} (isClosed : sh.closed = true)
      (tracked : Tracked closer yes newKnown) (fits : newKnown.Fits sh)
      (sameSide : newKnown.inside = known.inside) :
      Tracks closer t sh known sh (if sh.closed then yes else no) newKnown := by
    rw [isClosed]
    exact tracks_same same rfl inside steady tracked fits sameSide
  cases known with
  | outside =>
    refine ⟨.outside, tracks_same same rfl inside steady ?_ trivial rfl⟩
    split
    · exact tracked.1
    · exact tracked.2
  | entered =>
    rcases fits with isOpen | ended
    · exact ⟨.opened, opened isOpen tracked.2 isOpen rfl⟩
    · exact ⟨.shut, closed ended.closed tracked.1 ended rfl⟩
  | past => exact ⟨.past, closed (Shared.Ended.closed fits) tracked fits rfl⟩
  | shut => exact ⟨.shut, closed (Shared.Ended.closed fits) tracked fits rfl⟩
  | closing => exact ⟨.closing, closed (Shared.Closing.closed fits) tracked fits rfl⟩
  | ending target => exact ⟨.ending target, closed fits.1.closed tracked fits rfl⟩
  | opened => exact ⟨.opened, opened fits tracked fits rfl⟩
  | unset => exact ⟨.unset, opened fits.1 tracked fits rfl⟩
  | consumer target => exact ⟨.consumer target, opened fits.1 tracked fits rfl⟩
  | created target => exact ⟨.created target, opened fits.1 tracked fits rfl⟩

variable {yes : Nat → Code}

theorem tracks_consumer {target : Nat} (set : sh.consumer = some target)
    (tracked : Tracked closer (.ifConsumer no yes) known) :
    ∃ newKnown, Tracks closer t sh known sh (yes target) newKnown := by
  have same : sh.SameConsumer sh := ⟨rfl, rfl, rfl, rfl, rfl⟩
  cases known with
  | outside => exact ⟨_, tracks_same same rfl inside steady (tracked.2 target) trivial rfl⟩
  | opened | closing =>
    exact ⟨_, tracks_same same rfl inside steady (tracked.2 target) ⟨fits, set⟩ rfl⟩
  | _ => cases tracked

theorem tracks_noConsumer (unset : sh.consumer = none)
    (tracked : Tracked closer (.ifConsumer no yes) known) :
    ∃ newKnown, Tracks closer t sh known sh no newKnown := by
  have same : sh.SameConsumer sh := ⟨rfl, rfl, rfl, rfl, rfl⟩
  cases known with
  | outside => exact ⟨_, tracks_same same rfl inside steady tracked.1 trivial rfl⟩
  | opened => exact ⟨_, tracks_same same rfl inside steady tracked.1 ⟨fits, unset⟩ rfl⟩
  | closing =>
    have ended : sh.Ended := ⟨fits.closed, sh.calls, fits.begun, .inl ⟨unset, rfl⟩⟩
    exact ⟨_, tracks_same same rfl inside steady tracked.1 ended rfl⟩
  | _ => cases tracked

end

theorem tracks_created {next : Option Nat → Code}
    (inside : known.inside = true ↔ sh.lock .session = some t) (fits : known.Fits sh)
    (tracked : Tracked closer (.newConsumer next) known) :
    Tracks closer t sh known { sh with consumers := sh.consumers + 1 }
      (next (some sh.consumers)) (.created sh.consumers) := by
  obtain ⟨rfl, _, following⟩ := tracked
  obtain ⟨isOpen, unset⟩ := fits
  refine tracks_changed rfl inside rfl isOpen.notEnded (following _)
    ⟨⟨isOpen.isOpen, isOpen.notBegun, ?_, isOpen.notClosed, ?_⟩, unset, Nat.lt_succ_self _,
      notClosed_fresh isOpen.known⟩ rfl
  · intro consumer set
    exact Nat.lt_succ_of_lt (isOpen.created consumer set)
  · intro call mem
    exact Nat.lt_succ_of_lt (isOpen.known call mem)

theorem known_append (isOpen : sh.Open) (created : call.consumer < sh.consumers) :
    ∀ other ∈ sh.calls ++ [call], other.consumer < sh.consumers := by
  intro other mem
  rcases mem_append.mp mem with before | new
  · exact isOpen.known other before
  · rw [mem_singleton.mp new]
    exact created

section

variable (inside : known.inside = true ↔ sh.lock .session = some t) (fits : known.Fits sh)

include inside fits

variable {target : Nat}

theorem tracks_called {kind : CallKind} {next : Bool → Code} {ok : Bool}
    (tracked : Tracked closer (.call kind target next) known) : ∃ newKnown, Tracks closer t sh known
      { sh with calls := sh.calls ++ [⟨kind, target, ok⟩] } (next ok) newKnown := by
  cases known with
  | consumer current =>
    obtain ⟨notClose, rfl, following⟩ := tracked
    obtain ⟨isOpen, set⟩ := fits
    refine ⟨.consumer target, tracks_changed rfl inside rfl isOpen.notEnded (following ok)
      ⟨⟨isOpen.isOpen, isOpen.notBegun, isOpen.created, ?_, ?_⟩, set⟩ rfl⟩
    · intro consumer set
      exact notClosed_append (isOpen.notClosed consumer set) fun isClose => notClose isClose.1
    · exact known_append isOpen (isOpen.created target set)
  | created current =>
    obtain ⟨rfl, following⟩ := tracked
    obtain ⟨isOpen, unset, created, notClosed⟩ := fits
    have after : Shared.Open { sh with calls := sh.calls ++ [⟨kind, target, ok⟩] } :=
      ⟨isOpen.isOpen, isOpen.notBegun, isOpen.created,
        fun consumer set => absurd (unset.symm.trans set) (by simp), known_append isOpen created⟩
    by_cases isClose : kind = .close
    · have tracked := following ok
      rw [if_pos isClose] at tracked
      exact ⟨.unset, tracks_changed rfl inside rfl isOpen.notEnded tracked ⟨after, unset⟩ rfl⟩
    · have tracked := following ok
      rw [if_neg isClose] at tracked
      exact ⟨.created target, tracks_changed rfl inside rfl isOpen.notEnded tracked
        ⟨after, unset, created, notClosed_append notClosed fun both => isClose both.1⟩ rfl⟩
  | ending current =>
    obtain ⟨rfl, rfl, following⟩ := tracked
    obtain ⟨closing, set⟩ := fits
    refine ⟨.shut, tracks_changed rfl inside rfl (closing.notEnded set) (following ok)
      ⟨closing.closed, sh.calls, closing.begun, .inr ?_⟩ rfl⟩
    exact ⟨target, ok, set, closing.notClosed target set, rfl⟩
  | _ => cases tracked

theorem tracks_setConsumer (tracked : Tracked closer (.setConsumer target next) known) :
    Tracks closer t sh known { sh with consumer := some target } next
      (.consumer target) := by
  obtain ⟨rfl, following⟩ := tracked
  obtain ⟨isOpen, _, created, notClosed⟩ := fits
  refine tracks_changed rfl inside rfl isOpen.notEnded following
    ⟨⟨isOpen.isOpen, isOpen.notBegun, ?_, ?_, isOpen.known⟩, rfl⟩ rfl
  · intro consumer set
    exact Option.some.inj set ▸ created
  · intro consumer set
    exact Option.some.inj set ▸ notClosed

theorem tracks_setClosed (tracked : Tracked closer (.setClosed next) known) :
    Tracks closer t sh known { sh with closed := true, begun := some sh.calls } next
      .closing := by
  obtain ⟨_, rfl, following⟩ := tracked
  have isOpen : sh.Open := fits
  exact tracks_changed rfl inside rfl isOpen.notEnded following ⟨rfl, rfl, isOpen.notClosed⟩ rfl

end

theorem tracks (stepped : Code.Stepped t waiting sh code after next)
    (inside : known.inside = true ↔ sh.lock .session = some t)
    (steady : sh.lock .session = none → sh.Steady) (fits : known.Fits sh)
    (tracked : Tracked closer code known) :
    ∃ newKnown, Tracks closer t sh known after next newKnown := by
  -- most instructions leave what is known
  have kept (same : sh.SameConsumer after)
      (lock : after.lock .session = sh.lock .session) (tracked : Tracked closer next known) :
      ∃ newKnown, Tracks closer t sh known after next newKnown :=
    ⟨known, tracks_same same lock inside steady tracked fits rfl⟩
  cases stepped with
  | lock name next unlocked =>
    cases name with
    | session => exact ⟨.entered, tracks_lockSession unlocked steady tracked⟩
    | message | async => exact kept ⟨rfl, rfl, rfl, rfl, rfl⟩ (by simp [Shared.setLock]) tracked
  | unlock name next =>
    cases name with
    | session => exact tracks_unlockSession inside fits tracked
    | message | async => exact kept ⟨rfl, rfl, rfl, rfl, rfl⟩ (by simp [Shared.setLock]) tracked
  | closed yes no isClosed =>
    have decided := tracks_ifClosed inside steady fits tracked
    rw [if_pos isClosed] at decided
    exact decided
  | open_ yes no isOpen =>
    have decided := tracks_ifClosed inside steady fits tracked
    rw [if_neg (by simp [isOpen])] at decided
    exact decided
  | consumer no yes target set => exact tracks_consumer inside steady fits set tracked
  | noConsumer no yes unset => exact tracks_noConsumer inside steady fits unset tracked
  | unsubscribed | noMessage | left => exact kept ⟨rfl, rfl, rfl, rfl, rfl⟩ rfl tracked.1
  | subscribed | message | right => exact kept ⟨rfl, rfl, rfl, rfl, rfl⟩ rfl tracked.2
  | nothingPolled next => exact kept ⟨rfl, rfl, rfl, rfl, rfl⟩ rfl (tracked none)
  | polled next => exact kept ⟨rfl, rfl, rfl, rfl, rfl⟩ rfl (tracked _)
  | useMessage | freeMessage | setSlot | otherCall | setUnsubscribed | waited =>
    exact kept ⟨rfl, rfl, rfl, rfl, rfl⟩ rfl tracked
  | useSlot next =>
    obtain ⟨same, lock⟩ : sh.SameConsumer sh.useSlot ∧
        sh.useSlot.lock .session = sh.lock .session := by
      rw [Shared.useSlot]
      split <;> exact ⟨⟨rfl, rfl, rfl, rfl, rfl⟩, rfl⟩
    exact kept same lock tracked
  | freeSlot next =>
    obtain ⟨same, lock⟩ : sh.SameConsumer sh.freeSlot ∧
        sh.freeSlot.lock .session = sh.lock .session := by
      rw [Shared.freeSlot]
      split <;> exact ⟨⟨rfl, rfl, rfl, rfl, rfl⟩, rfl⟩
    exact kept same lock tracked
  | noConsumerCreated next =>
    obtain ⟨rfl, following, _⟩ := tracked
    exact kept ⟨rfl, rfl, rfl, rfl, rfl⟩ rfl following
  | consumerCreated next => exact ⟨_, tracks_created inside fits tracked⟩
  | called kind target next ok => exact tracks_called inside fits tracked
  | setConsumer target next => exact ⟨_, tracks_setConsumer inside fits tracked⟩
  | setClosed next => exact ⟨_, tracks_setClosed inside fits tracked⟩

end

def Thread.Tracked : Thread → Known → Prop
  | .request code, known => Concurrent.Tracked false code known
  | .closing code, known => Concurrent.Tracked true code known
  | _, known => known = .outside

/-- What is known of the consumer is true for every goroutine, and without a
holder of the lock the session is before or after `Close`. -/
structure Guarded (s : State) : Prop where
  threads : ∀ t thread, s.threads[t]? = some thread → ∃ known : Known, thread.Tracked known ∧
    (known.inside = true ↔ s.shared.lock .session = some t) ∧ known.Fits s.shared
  steady : s.shared.lock .session = none → s.shared.Steady
  held : ∀ t, s.shared.lock .session = some t → t < s.threads.length

section

variable {s : State} {t : Nat} {old new : Thread} {after : Shared} {known : Known}

theorem Guarded.runStep {next : Code} {closer : Bool} {newKnown : Known} (guarded : Guarded s)
    (found : s.threads[t]? = some old)
    (inside : known.inside = true ↔ s.shared.lock .session = some t)
    (tracked : new.Tracked newKnown) (tracks : Tracks closer t s.shared known after next newKnown) :
    Guarded (s.apply t ⟨after, new, []⟩) := by
  refine ⟨?_, tracks.steady, ?_⟩
  · refine forall_apply guarded.threads ?_ ?_ ?_
    · rintro u th ne ⟨theirs, theirTracked, theirInside, fits⟩
      refine ⟨theirs, theirTracked, theirInside.trans (tracks.lockOthers u ne).symm, ?_⟩
      cases side : theirs.inside with
      | true =>
        -- the goroutine that moves does not hold the lock
        have outside : known.inside = false := by
          cases mine : known.inside with
          | false => rfl
          | true =>
            have both := inside.mp mine
            rw [theirInside.mp side] at both
            exact absurd (Option.some.inj both) ne
        exact fits.congr (tracks.others outside)
      | false =>
        cases theirs with
        | outside => trivial
        | past => exact tracks.ended fits
        | _ => cases side
    · exact ⟨newKnown, tracked, tracks.inside, tracks.fits⟩
    · intro u th _ spawned
      cases spawned
  · intro u holder
    have length : (s.apply t ⟨after, new, []⟩).threads.length = s.threads.length := by
      simp [Snapshot.apply]
    rw [length]
    by_cases same : u = t
    · exact same ▸ lt_of_getElem? found
    · exact guarded.held u ((tracks.lockOthers u same).mp holder)

theorem Guarded.idleStep {spawned : List Thread} (guarded : Guarded s)
    (inside : known.inside = true ↔ s.shared.lock .session = some t)
    (outside : known.inside = false) (tracked : new.Tracked .outside)
    (started : ∀ th ∈ spawned, th.Tracked .outside) :
    Guarded (s.apply t ⟨s.shared, new, spawned⟩) := by
  have notHeld : s.shared.lock .session ≠ some t :=
    fun holder => absurd ((inside.mpr holder).symm.trans outside) (by simp)
  refine ⟨?_, guarded.steady, ?_⟩
  · refine forall_apply guarded.threads ?_ ?_ ?_
    · intro u th _ before
      exact before
    · exact ⟨.outside, tracked, iff_of_false (by simp [Known.inside]) notHeld, trivial⟩
    · intro u th beyond fresh
      refine ⟨.outside, started th fresh, iff_of_false (by simp [Known.inside]) ?_, trivial⟩
      intro holder
      have below := guarded.held u holder
      omega
  · intro u holder
    have below := guarded.held u holder
    simp only [Snapshot.apply, length_append, length_set]
    omega

/-- What a goroutine knows of the consumer is changed by the holder of the session's
lock only. -/
theorem Guarded.step {label : Nat × Choice} {next : State} (guarded : Guarded s)
    (stepped : session.system.next s label = some next) : Guarded next := by
  obtain ⟨th, move, found, advanced, rfl⟩ := Machine.next_inv stepped
  obtain ⟨t, choice⟩ := label
  obtain ⟨known, tracked, inside, fits⟩ := guarded.threads t th found
  have idle (outside : known = .outside) : known.inside = false := by rw [outside]; rfl
  cases advanced_of_advance advanced with
  | ignored | accepted => exact guarded.idleStep inside (idle tracked) rfl (by simp)
  | closeCalled =>
    refine guarded.idleStep inside (idle tracked) rfl ?_
    intro spawned mem
    rw [mem_singleton.mp mem]
    exact tracked_close
  | dispatched action =>
    refine guarded.idleStep inside (idle tracked) rfl ?_
    intro spawned mem
    rw [mem_singleton.mp mem]
    exact rfl
  | late action _ =>
    exact guarded.idleStep inside (idle tracked) (.inr ⟨rfl, rfl⟩) (by simp)
  | started action _ =>
    exact guarded.idleStep inside (idle tracked) (tracked_handler action) (by simp)
  | done =>
    have outside : known.inside = false := by
      rcases tracked with rfl | ⟨rfl, _⟩ <;> rfl
    exact guarded.idleStep inside outside rfl (by simp)
  | request ran | closing ran =>
    obtain ⟨newKnown, tracks⟩ := tracks ran inside guarded.steady fits tracked
    exact guarded.runStep found inside tracks.tracked tracks

theorem guarded_opened : Guarded opened where
  threads t th found := by
    have reading : th = .reading := mem_singleton.mp (mem_of_getElem? found)
    exact ⟨.outside, reading ▸ rfl, iff_of_false (by simp [Known.inside]) (by simp [opened]),
      trivial⟩
  steady _ := .inl ⟨rfl, rfl, by simp [opened], by simp [opened], by simp [opened]⟩
  held t holder := by simp [opened] at holder

theorem Guarded.ended {th : Thread} (guarded : Guarded s) (mem : th ∈ s.threads)
    (returned : th.returned = true) : s.shared.Ended := by
  obtain ⟨t, found⟩ := mem_iff_getElem?.mp mem
  obtain ⟨known, tracked, _, fits⟩ := guarded.threads t th found
  unfold Thread.returned at returned
  split at returned
  · rcases tracked with rfl | ⟨_, impossible⟩
    · exact fits
    · cases impossible
  · cases returned

end

def BegunUnsubscribed (sh : Shared) : Prop :=
  ∀ before ∈ sh.begun, ∀ consumer ∈ sh.consumer, subscribedIn consumer before = false

section

variable {t waiting : Nat} {sh after : Shared} {known : Known} {closer : Bool}
  {code next : Code}

theorem begun_of_stepped (stepped : Code.Stepped t waiting sh code after next)
    (fits : known.Fits sh) (tracked : Tracked closer code known) :
    (after.begun = sh.begun ∧ (sh.begun ≠ none → after.consumer = sh.consumer)) ∨
      (closer = true ∧ code = .setClosed next ∧ after.begun = some sh.calls ∧
        after.consumer = sh.consumer) := by
  cases stepped with
  | setClosed next => exact .inr ⟨tracked.1, rfl, rfl, rfl⟩
  | setConsumer target next =>
    obtain ⟨rfl, _⟩ := tracked
    exact .inl ⟨rfl, fun begun => absurd fits.1.notBegun begun⟩
  | useSlot next =>
    rw [Shared.useSlot]
    split <;> exact .inl ⟨rfl, fun _ => rfl⟩
  | freeSlot next =>
    rw [Shared.freeSlot]
    split <;> exact .inl ⟨rfl, fun _ => rfl⟩
  | _ => exact .inl ⟨rfl, fun _ => rfl⟩

theorem BegunUnsubscribed.instruction (begun : BegunUnsubscribed sh)
    (stepped : Code.Stepped t waiting sh code after next) (fits : known.Fits sh)
    (tracked : Tracked closer code known) (met : closer = true → code = .setClosed next →
      ∀ consumer ∈ sh.consumer, subscribedIn consumer sh.calls = false) :
    BegunUnsubscribed after := by
  intro before started consumer set
  rcases begun_of_stepped stepped fits tracked with
    ⟨sameBegun, sameConsumer⟩ | ⟨closes, isClosing, nowBegun, sameConsumer⟩
  · rw [sameBegun] at started
    rw [sameConsumer (by rw [started]; simp)] at set
    exact begun before started consumer set
  · rw [nowBegun] at started
    cases started
    rw [sameConsumer] at set
    exact met closes isClosing consumer set

theorem BegunUnsubscribed.step {s after : State} {label : Nat × Choice}
    (begun : BegunUnsubscribed s.shared) (guarded : Guarded s) (met : ClosesUnsubscribed s label)
    (stepped : session.system.next s label = some after) : BegunUnsubscribed after.shared := by
  obtain ⟨th, move, found, advanced, rfl⟩ := Machine.next_inv stepped
  obtain ⟨t, choice⟩ := label
  obtain ⟨known, tracked, _, fits⟩ := guarded.threads t th found
  cases advanced_of_advance advanced with
  | request ran => exact begun.instruction ran fits tracked fun impossible => nomatch impossible
  | closing ran =>
    refine begun.instruction ran fits tracked fun _ isClosing => ?_
    exact met _ found (by rw [isClosing]; rfl)
  | _ => exact begun

theorem closesOf_ended {consumer : Nat} {before : List Call} {ok : Bool}
    (notClosed : NotClosed consumer before) :
    (closesOf consumer (before ++ [⟨.close, consumer, ok⟩])).length = 1 := by
  rw [closesOf, filter_append, ← closesOf, notClosed]
  simp

/-- In every run in which `Close` only ever begins with a consumer that is not
subscribed, it ends the consumer as it should. -/
theorem consumer_ended_unsubscribed {s : State}
    (reached : session.system.ReachableUnder ClosesUnsubscribed s) : ConsumerEnded s := by
  have initially : ∀ first, session.system.initial first →
      Guarded first ∧ BegunUnsubscribed first.shared := by
    rintro first rfl
    exact ⟨guarded_opened, by simp [BegunUnsubscribed, opened]⟩
  have preserved : ∀ before label after, Guarded before ∧ BegunUnsubscribed before.shared →
      ClosesUnsubscribed before label → session.system.next before label = some after →
      Guarded after ∧ BegunUnsubscribed after.shared := by
    rintro before label after ⟨guarded, begun⟩ met stepped
    exact ⟨guarded.step stepped, begun.step guarded met stepped⟩
  obtain ⟨guarded, begun⟩ := System.ReachableUnder.invariant initially preserved reached
  rintro ⟨thread, member, returned⟩
  obtain ⟨_, before, started, calls⟩ := guarded.ended member returned
  refine ⟨before, started, ?_⟩
  intro consumer set
  have unsubscribed := begun before started consumer set
  obtain ⟨unset, _⟩ | ⟨target, ok, found, notClosed, appended⟩ := calls
  · rw [set] at unset
    cases unset
  · obtain rfl : consumer = target := Option.some.inj (set.symm.trans found)
    refine ⟨?_, fun _ => ⟨ok, appended⟩, ?_⟩
    · intro subscribed
      rw [unsubscribed] at subscribed
      cases subscribed
    · rw [appended]
      exact closesOf_ended notClosed

end

/-- The client subscribes and unsubscribes before the session is closed. -/
theorem consumer_ended_after_unsubscribe :
    ∃ s, session.system.ReachableUnder ClosesUnsubscribed s ∧
      (∃ thread ∈ s.threads, thread.returned = true) ∧ s.shared.consumer = some 0 ∧
      ConsumerEnded s := by
  obtain ⟨s, reached, returned, consumer⟩ :
      ∃ s, session.system.ReachableUnder ClosesUnsubscribed s ∧
        (∃ thread ∈ s.threads, thread.returned = true) ∧ s.shared.consumer = some 0 :=
    session.system.exists_of_exec (.flatten [subscribing 1,
      requested 2 .unsubscribe (goes 6 ++ [.right] ++ goes 7), closing 3 10]) rfl
      (by decide +kernel)
  exact ⟨s, reached, returned, consumer, consumer_ended_unsubscribed reached⟩

/-- The client subscribes and the session is closed: `tmq_consumer_close` is
called for a consumer that was never unsubscribed. -/
theorem subscribed_consumer_closed :
    ∃ s, session.system.Reachable s ∧ (∃ thread ∈ s.threads, thread.returned = true) ∧
      s.shared.consumer = some 0 ∧ s.shared.begun = some [⟨.subscribe, 0, true⟩] ∧
      s.shared.calls = [⟨.subscribe, 0, true⟩, ⟨.close, 0, true⟩] ∧ ¬ ConsumerEnded s := by
  obtain ⟨s, reached, returned, consumer, begun, calls⟩ :
      ∃ s, session.system.Reachable s ∧ (∃ thread ∈ s.threads, thread.returned = true) ∧
        s.shared.consumer = some 0 ∧ s.shared.begun = some [⟨.subscribe, 0, true⟩] ∧
        s.shared.calls = [⟨.subscribe, 0, true⟩, ⟨.close, 0, true⟩] :=
    session.system.exists_of_exec (.flatten [subscribing 1, closing 2 13]) rfl (by decide +kernel)
  refine ⟨s, reached, returned, consumer, begun, calls, ?_⟩
  intro ended
  obtain ⟨before, started, ends⟩ := ended returned
  obtain rfl : [⟨.subscribe, 0, true⟩] = before := Option.some.inj (begun.symm.trans started)
  obtain ⟨ok, closed, unsubscribedFirst⟩ := (ends 0 consumer).unsubscribed rfl
  rw [calls] at unsubscribedFirst
  have lengths := congrArg List.length unsubscribedFirst
  simp at lengths

end TaosAdapter.Tmq.Concurrent
