import TaosAdapter.Fetch.Step

/-!
Owns: who waits for whom among the handler pool, the list locks and the locks of
the results. A fetch keeps its result locked while it waits for a handler;
`FreeResultByID` keeps the list locked while it waits for a result; and a fetch
that has ended keeps its handler while it waits for the list. With all handlers
in such fetches the three wait for each other. A request can also be queued
behind a handler that went back to the channel, which nobody holds.
-/

namespace TaosAdapter.Fetch

open Lib List Option Snapshot

def Thread.asks (thread : Thread) : Option Lock :=
  match thread.pc with
  | .get | .freeLock _ => some (.list thread.request.session)
  | .lockItem item | .freeItem item _ => some (.item item)
  | .enqueue _ | .put _ => some .mu
  | _ => none

def Pc.drains : Pc → Bool
  | .freeDrain _ => true
  | _ => false

inductive WaitsOn (s : State) (thread : Thread) (u : Nat) (other : Thread) : Prop where
  | lock (lock : Lock) (asks : thread.asks = some lock) (held : other.holds lock = true)
  | readers (drains : thread.pc.drains = true)
      (reading : other.reads thread.request.session = true)
  | handler (awaits : thread.pc.awaits = true)
      (owns : other.pc.handler.isSome = true ∨ u ∈ s.shared.delivered.map Prod.fst)

def Waits (s : State) (t u : Nat) : Prop :=
  ∃ thread other, s.threads[t]? = some thread ∧ s.threads[u]? = some other ∧
    WaitsOn s thread u other

def Thread.sameResult (thread other : Thread) : Bool :=
  thread.request.session == other.request.session && thread.request.id == other.request.id

theorem Thread.sameResult_comm (thread other : Thread) :
    thread.sameResult other = other.sameResult thread := by
  simp only [Thread.sameResult, Bool.beq_comm]

def Pc.wantsHandler : Pc → Bool
  | .enqueue _ | .pushBack _ | .await _ => true
  | _ => false

def Pc.goesToFree : Pc → Bool
  | .freeDrain _ | .freeSearch _ | .freeItem _ _ => true
  | _ => false

def Pc.locksList : Pc → Bool
  | .freeLock _ => true
  | _ => false

def Pc.selects : Pc → Bool
  | .select _ => true
  | _ => false

def Pc.queues : Pc → Bool
  | .pushBack _ => true
  | _ => false

/-- `FreeResultByID` takes the list lock only while no fetch of its result waits
for a handler; a fetch finds the pool exhausted only while no `FreeResultByID`
of its result has the list lock; and a request is put in the queue only while no
handler is idle. -/
def KeepsApart (s : State) (label : Nat × Choice) : Prop :=
  ∀ thread ∈ s.threads[label.1]?,
    (thread.pc.locksList = true →
      ∀ other ∈ s.threads, thread.sameResult other = true → other.pc.wantsHandler = false) ∧
    (thread.pc.selects = true → s.shared.handlers = [] →
      ∀ other ∈ s.threads, thread.sameResult other = true → other.pc.goesToFree = false) ∧
    (thread.pc.queues = true → s.shared.handlers = [])

instance (s : State) (label : Nat × Choice) : Decidable (KeepsApart s label) := by
  unfold KeepsApart
  infer_instance

structure Apart (count : Nat) (s : State) : Prop where
  regular : Regular count s
  attentive : s.shared.handlers ≠ [] → s.shared.reqList = []
  apart : ∀ freeing ∈ s.threads, ∀ fetching ∈ s.threads,
    freeing.sameResult fetching = true → freeing.pc.goesToFree = true →
      fetching.pc.wantsHandler = false

section

variable {count : Nat} {s : State} {t : Nat} {req : Request} {pc after : Pc}
  {sh : Shared} {choice : Choice}

theorem Advanced.goesToFree (advanced : Advanced count s t req pc sh after)
    (goes : after.goesToFree = true) : pc.locksList = true ∨ pc.goesToFree = true := by
  cases advanced with
  | lockList => exact .inl rfl
  | drained | target => exact .inr rfl
  | _ => cases goes

theorem Advanced.wantsHandler (advanced : Advanced count s t req pc sh after)
    (wants : after.wantsHandler = true) :
    (pc.selects = true ∧ s.shared.handlers = []) ∨ pc.wantsHandler = true := by
  cases advanced with
  | exhausted _ idle => exact .inl ⟨rfl, idle⟩
  | lockMu | queue => exact .inr rfl
  | _ => cases wants

theorem Pc.wantsHandler_of_goesToFree (goes : pc.goesToFree = true) : pc.wantsHandler = false := by
  cases pc <;> first | rfl | cases goes

theorem Advanced.attentive (advanced : Advanced count s t req pc sh after)
    (attentive : s.shared.handlers ≠ [] → s.shared.reqList = [])
    (met : pc.queues = true → s.shared.handlers = []) : sh.handlers ≠ [] → sh.reqList = [] := by
  cases advanced with
  | takeIdle _ handler rest idle =>
    intro _
    exact attentive (by rw [idle]; simp)
  | queue => exact fun idle => absurd (met rfl) idle
  | freed item _ res =>
    obtain ⟨handlers, _, reqList⟩ := free_eq s.shared item res
    rw [handlers, reqList]
    exact attentive
  | respond _ response | respondLast response =>
    obtain ⟨handlers, _, reqList, _⟩ := write_eq s.shared t response
    rw [handlers, reqList]
    exact attentive
  | handOver _ first rest queued =>
    intro idle
    rw [attentive idle] at queued
    cases queued
  | park _ unqueued => exact fun _ => unqueued
  | _ => exact attentive

theorem Apart.initial (initial : Initial count s) : Apart count s where
  regular := .initial initial
  attentive _ := initial.reqList
  apart := by
    intro freeing mem _ _ _ goes
    rw [initial.arrived freeing mem] at goes
    cases goes

/-- Under the condition no `FreeResultByID` meets a fetch that waits for a handler. -/
theorem Apart.step (apart : Apart count s) (found : s.threads[t]? = some ⟨req, pc⟩)
    (met : KeepsApart s (t, choice)) (advanced : Advanced count s t req pc sh after) :
    Apart count (s.apply t ⟨sh, ⟨req, after⟩, []⟩) := by
  obtain ⟨locks, selects, queues⟩ := met _ found
  have self := mem_of_getElem? found
  refine ⟨apart.regular.step found advanced, advanced.attentive apart.attentive queues, ?_⟩
  intro freeing freeingMember fetching fetchingMember same goes
  by_contra notIdle
  have wants : fetching.pc.wantsHandler = true := by simpa using notIdle
  rcases mem_apply freeingMember with oldFreeing | rfl | fresh
  · rcases mem_apply fetchingMember with oldFetching | rfl | fresh
    · rw [apart.apart freeing oldFreeing fetching oldFetching same goes] at wants
      cases wants
    · -- The fetch starts to wait, or has waited before.
      rcases advanced.wantsHandler wants with ⟨selecting, idle⟩ | waited
      · have turned : (Thread.mk req pc).sameResult freeing = true :=
          (Thread.sameResult_comm _ _).trans same
        rw [selects selecting idle freeing oldFreeing turned] at goes
        cases goes
      · rw [apart.apart freeing oldFreeing _ self same goes] at waited
        cases waited
    · cases fresh
  · rcases mem_apply fetchingMember with oldFetching | rfl | fresh
    · rcases advanced.goesToFree goes with locking | gone
      · rw [locks locking fetching oldFetching same] at wants
        cases wants
      · rw [apart.apart _ self fetching oldFetching same gone] at wants
        cases wants
    · rw [Pc.wantsHandler_of_goesToFree goes] at wants
      cases wants
    · cases fresh
  · cases fresh

theorem apart_of_reachable
    (reached : (machine count).system.ReachableUnder KeepsApart s) : Apart count s := by
  refine System.ReachableUnder.invariant (fun _ initial => .initial initial)
    (fun before label _ apart met stepped => ?_) reached
  obtain ⟨⟨req, pc⟩, move, found, moved, rfl⟩ := Machine.next_inv stepped
  obtain ⟨sh, after, advanced, rfl⟩ := advanced_of_advance moved
  exact apart.step found met advanced

end

section

variable {count : Nat} {s : State} {t : Nat} {thread : Thread}

theorem live_of_advance (found : s.threads[t]? = some thread) (choice : Choice)
    (moves : (advancePc count s t thread choice).isSome = true) :
    Live (machine count) Waits s t := by
  obtain ⟨step, moved⟩ := isSome_iff_exists.mp moves
  have advanced : (machine count).advance s t thread choice =
      some ⟨step.1, ⟨thread.request, step.2⟩, []⟩ := by
    simp [machine, advance, moved]
  exact .moves ((machine count).next_of_advance choice _ found advanced)

def Pc.ready : Pc → Bool
  | .arrived | .lookup | .check _ | .select _ | .pushBack _ | .fetching _ _ | .fetched _ _ _
  | .freeSearch _ | .freeing _ _ | .remove _ _ | .respond _ | .putLocked _ => true
  | _ => false

theorem Regular.room (regular : Regular count s) (found : s.threads[t]? = some thread)
    (carries : thread.pc.carried = 1) : s.shared.handlers.length < count := by
  have part := weight_le_tally (fun thread : Thread => thread.pc.carried) found
  have conserved := regular.conserved
  simp only [Shared.stored] at conserved
  simp only [carries] at part
  omega

theorem live_of_ready (regular : Regular count s) (found : s.threads[t]? = some thread)
    (ready : thread.pc.ready = true) : Live (machine count) Waits s t := by
  have named := regular.named t thread found
  have room := regular.room found
  refine live_of_advance found {} ?_
  obtain ⟨req, pc⟩ := thread
  cases pc with
  | lookup | freeSearch exit =>
    simp only [advancePc, advanceResult, advanceFree]
    split <;> rfl
  | check item =>
    obtain ⟨res, present, _⟩ := named item rfl
    simp only [advancePc, advanceResult, present]
    split <;> rfl
  | select item =>
    simp only [advancePc, advanceFetch]
    split <;> rfl
  | freeing item exit | remove item exit =>
    obtain ⟨res, present, _⟩ := named item rfl
    simp [advancePc, advanceFree, present]
  | putLocked handler =>
    simp only [advancePc, advanceExit, Shared.put, isSome_map]
    split
    · rfl
    · simp [room rfl]
  | arrived | pushBack | fetching | fetched | respond => rfl
  | _ => cases ready

variable {lock : Lock}

theorem exists_holder (taken : free s lock = false) :
    ∃ (u : Nat) (other : Thread), s.threads[u]? = some other ∧ other.holds lock = true := by
  obtain ⟨other, mem, held⟩ := all_eq_false.mp taken
  obtain ⟨u, found⟩ := List.getElem?_of_mem mem
  exact ⟨u, other, found, by simpa using held⟩

theorem live_of_asks (found : s.threads[t]? = some thread) (asks : thread.asks = some lock)
    (holders : ∀ (u : Nat) (other : Thread), s.threads[u]? = some other →
      other.holds lock = true → Live (machine count) Waits s u) :
    Live (machine count) Waits s t := by
  cases taken : free s lock with
  | true =>
    refine live_of_advance found {} ?_
    obtain ⟨req, pc⟩ := thread
    cases pc <;>
      first
      | (cases asks
         simp [advancePc, advanceResult, advanceFetch, advanceFree, advanceExit, taken])
      | cases asks
  | false =>
    obtain ⟨u, other, found2, held⟩ := exists_holder taken
    exact .waiting ⟨thread, other, found, found2, .lock lock asks held⟩
      (holders u other found2 held)

variable {pc : Pc}

theorem ready_of_holdsMu (holds : pc.holdsMu = true) : pc.ready = true := by
  cases pc <;> first | rfl | cases holds

theorem live_of_mu (regular : Regular count s) (found : s.threads[t]? = some thread)
    (asks : thread.asks = some .mu) : Live (machine count) Waits s t :=
  live_of_asks found asks fun _ _ found2 held =>
    live_of_ready regular found2 (ready_of_holdsMu held)

theorem live_of_drains (regular : Regular count s) (found : s.threads[t]? = some thread)
    (drains : thread.pc.drains = true) : Live (machine count) Waits s t := by
  cases nobody : unread s thread.request.session with
  | true =>
    refine live_of_advance found {} ?_
    obtain ⟨req, pc⟩ := thread
    cases pc with
    | freeDrain exit => simp [advancePc, advanceFree, nobody]
    | _ => cases drains
  | false =>
    obtain ⟨other, mem, reading⟩ := all_eq_false.mp nobody
    obtain ⟨u, found2⟩ := List.getElem?_of_mem mem
    have reads : other.reads thread.request.session = true := by simpa using reading
    refine .waiting ⟨thread, other, found, found2, .readers drains reads⟩
      (live_of_ready regular found2 ?_)
    simp only [Thread.reads, Bool.and_eq_true, beq_iff_eq] at reads
    rw [reads.1]
    rfl

variable {item : Item}

theorem ready_of_lockedItem (locked : pc.lockedItem = some item) :
    pc.ready = true ∨ pc.wantsHandler = true := by
  cases pc <;> first | exact .inl rfl | exact .inr rfl | cases locked

theorem item_of_lockedItem (locked : pc.lockedItem = some item) : pc.item = some item := by
  cases pc <;> first | exact locked | cases locked

theorem Regular.sameResult (regular : Regular count s) {u : Nat} {other : Thread}
    (found : s.threads[t]? = some thread) (found2 : s.threads[u]? = some other)
    (points : thread.pc.item = some item) (otherPoints : other.pc.item = some item) :
    thread.sameResult other = true := by
  obtain ⟨res, present, session, idx⟩ := regular.named t thread found item points
  obtain ⟨same, otherPresent, otherSession, otherIndex⟩ :=
    regular.named u other found2 item otherPoints
  rw [present] at otherPresent
  cases otherPresent
  simp [Thread.sameResult, ← session, ← idx, ← otherSession, ← otherIndex]

section

variable (apart : Apart count s) (found : s.threads[t]? = some thread)

include apart found

theorem live_of_freeItem {item : Item} {exit : Exit} (here : thread.pc = .freeItem item exit) :
    Live (machine count) Waits s t := by
  have asks : thread.asks = some (.item item) := by simp [Thread.asks, here]
  refine live_of_asks found asks fun u other found2 held => ?_
  have locked : other.pc.lockedItem = some item := by simpa [Thread.holds] using held
  rcases ready_of_lockedItem locked with ready | wants
  · exact live_of_ready apart.regular found2 ready
  · have same := apart.regular.sameResult found found2 (by rw [here]; rfl)
      (item_of_lockedItem locked)
    have goes : thread.pc.goesToFree = true := by rw [here]; rfl
    rw [apart.apart thread (mem_of_getElem? found) other (mem_of_getElem? found2) same
      goes] at wants
    cases wants

theorem live_of_holdsList (holds : thread.pc.holdsList = true) :
    Live (machine count) Waits s t := by
  cases here : thread.pc with
  | freeDrain exit => exact live_of_drains apart.regular found (by rw [here]; rfl)
  | freeItem item exit => exact live_of_freeItem apart found here
  | freeSearch | freeing | remove => exact live_of_ready apart.regular found (by rw [here]; rfl)
  | _ => rw [here] at holds; cases holds

theorem live_of_list (asks : thread.asks = some (.list thread.request.session)) :
    Live (machine count) Waits s t := by
  refine live_of_asks found asks fun u other found2 held => ?_
  simp only [Thread.holds, Bool.and_eq_true] at held
  exact live_of_holdsList apart found2 held.1

theorem live_of_handler (carries : thread.pc.handler.isSome = true) :
    Live (machine count) Waits s t := by
  cases here : thread.pc with
  | freeLock exit => exact live_of_list apart found (by simp [Thread.asks, here])
  | freeDrain | freeSearch | freeItem | freeing | remove =>
    exact live_of_holdsList apart found (by rw [here]; rfl)
  | put handler => exact live_of_mu apart.regular found (by simp [Thread.asks, here])
  | fetching | fetched | respond | putLocked =>
    exact live_of_ready apart.regular found (by rw [here]; rfl)
  | _ => rw [here] at carries; cases carries

end

theorem live_of_delivered (regular : Regular count s)
    (answered : t ∈ s.shared.delivered.map Prod.fst) : Live (machine count) Waits s t := by
  have waiting : t ∈ s.shared.waiting := mem_append_right _ answered
  have inside := regular.queued.inside t waiting
  have found := List.getElem?_eq_getElem inside
  have awaits := (regular.queued.waits t _ found).mp waiting
  obtain ⟨entry, mem, receiver⟩ := mem_map.mp answered
  have taken : (s.shared.delivered.find? fun entry => entry.1 == t).isSome = true := by
    rw [List.find?_isSome]
    exact ⟨entry, mem, by simp [receiver]⟩
  obtain ⟨sent, sentFound⟩ := isSome_iff_exists.mp taken
  refine live_of_advance found {} ?_
  generalize s.threads[t] = thread at awaits
  obtain ⟨req, pc⟩ := thread
  cases pc with
  | await item => simp [advancePc, advanceFetch, sentFound]
  | _ => cases awaits

variable (pos : 1 ≤ count) (apart : Apart count s) (found : s.threads[t]? = some thread)

include pos apart found

theorem live_of_awaits (awaits : thread.pc.awaits = true) : Live (machine count) Waits s t := by
  have waiting := (apart.regular.queued.waits t thread found).mpr awaits
  rcases mem_append.mp waiting with queued | answered
  · have noneIdle : s.shared.handlers = [] := by
      by_contra idle
      rw [apart.attentive idle] at queued
      cases queued
    have conserved := apart.regular.conserved
    simp only [Shared.stored, noneIdle, length_nil] at conserved
    by_cases somewhere : s.shared.delivered = []
    · have carried : 0 < tally (fun thread : Thread => thread.pc.carried) s.threads := by
        simp only [somewhere, length_nil] at conserved
        omega
      obtain ⟨u, other, found2, carries⟩ := exists_of_tally_pos _ carried
      have owns : other.pc.handler.isSome = true := by
        by_contra without
        simp [Pc.carried, without] at carries
      exact .waiting ⟨thread, other, found, found2, .handler awaits (.inl owns)⟩
        (live_of_handler apart found2 owns)
    · obtain ⟨entry, mem⟩ := exists_mem_of_ne_nil _ somewhere
      have named : entry.1 ∈ s.shared.delivered.map Prod.fst := mem_map_of_mem mem
      have inside := apart.regular.queued.inside entry.1 (mem_append_right _ named)
      exact .waiting ⟨thread, _, found, List.getElem?_eq_getElem inside,
        .handler awaits (.inr named)⟩ (live_of_delivered apart.regular named)
  · exact live_of_delivered apart.regular answered

theorem live_of_lockedItem (locked : thread.pc.lockedItem = some item) :
    Live (machine count) Waits s t := by
  rcases ready_of_lockedItem locked with ready | wants
  · exact live_of_ready apart.regular found ready
  · cases here : thread.pc with
    | enqueue => exact live_of_mu apart.regular found (by simp [Thread.asks, here])
    | pushBack => exact live_of_ready apart.regular found (by rw [here]; rfl)
    | await => exact live_of_awaits pos apart found (by rw [here]; rfl)
    | _ => rw [here] at wants; cases wants

end

/-- In every run that keeps `FreeResultByID` and waiting for a handler apart,
every request that is not done can move or waits for one that is live. -/
theorem requests_stay_live (count : Nat) (positive : 1 ≤ count) (s : State)
    (reached : (machine count).system.ReachableUnder KeepsApart s) (t : Nat) (thread : Thread)
    (found : s.threads[t]? = some thread) (unfinished : thread.pc ≠ .done) :
    Live (machine count) Waits s t := by
  have apart := apart_of_reachable reached
  cases here : thread.pc with
  | get | freeLock => exact live_of_list apart found (by simp [Thread.asks, here])
  | lockItem item =>
    have asks : thread.asks = some (.item item) := by simp [Thread.asks, here]
    refine live_of_asks found asks fun u other otherFound held => ?_
    exact live_of_lockedItem positive apart otherFound (by simpa [Thread.holds] using held)
  | enqueue | put => exact live_of_mu apart.regular found (by simp [Thread.asks, here])
  | await => exact live_of_awaits positive apart found (by rw [here]; rfl)
  | freeDrain | freeItem => exact live_of_holdsList apart found (by rw [here]; rfl)
  | done => exact absurd here unfinished
  | _ => exact live_of_ready apart.regular found (by rw [here]; rfl)

def threeRequests : State where
  shared := {
    results := [⟨0, 1, true, false, true⟩, ⟨0, 2, true, false, true⟩]
    freed := []
    handlers := [0]
    reqList := []
    delivered := []
    responses := [] }
  threads := [⟨.fetch 0 1, .arrived⟩, ⟨.fetch 0 2, .arrived⟩, ⟨.freeResult 0 1, .arrived⟩]

theorem threeRequests_initial : (machine 1).initial threeRequests where
  handlers := rfl
  reqList := rfl
  delivered := rfl
  arrived := by decide

def steps (t n : Nat) : List (Nat × Choice) :=
  List.replicate n (t, {})

/-- The second fetch waits for a handler that the first one still uses. -/
theorem requests_stay_live_queued : ∃ s : State, (machine 1).system.ReachableUnder KeepsApart s ∧
      s.threads[0]? = some ⟨.fetch 0 1, .await 0⟩ ∧ Live (machine 1) Waits s 0 := by
  obtain ⟨s, reached, waits⟩ : ∃ s : State, (machine 1).system.ReachableUnder KeepsApart s ∧
      s.threads[0]? = some ⟨.fetch 0 1, .await 0⟩ :=
    ⟨_, (machine 1).system.reachableUnder_of_exec KeepsApart (steps 1 6 ++ steps 0 8)
      threeRequests_initial rfl, rfl⟩
  exact ⟨s, reached, waits, requests_stay_live 1 (by decide) s reached 0 _ waits (by decide)⟩

/-- With one handler: the fetch of the second result has ended and keeps the
handler while it waits for the list; the request to free the first result has
the list and waits for that result; its fetch has it locked and waits for a
handler. Nobody can move. -/
theorem three_requests_deadlock : ∃ s : State, (machine 1).system.Reachable s ∧
      (∀ thread ∈ s.threads, thread.pc ≠ .done) ∧
      (∀ label, (machine 1).system.next s label = none) ∧
      Waits s 0 1 ∧ Waits s 1 2 ∧ Waits s 2 0 ∧
      ∀ t < 3, ¬ Live (machine 1) Waits s t := by
  obtain ⟨s, reached, here⟩ : ∃ s : State, (machine 1).system.Reachable s ∧
      s = {
        shared := { threeRequests.shared with handlers := [], reqList := [0] }
        threads := [⟨.fetch 0 1, .await 0⟩,
          ⟨.fetch 0 2, .freeLock ⟨some 0, some .completed⟩⟩,
          ⟨.freeResult 0 1, .freeItem 0 ⟨none, none⟩⟩] } :=
    ⟨_, (machine 1).system.reachable_of_exec (steps 1 8 ++ steps 0 8 ++ steps 2 4)
      threeRequests_initial rfl, rfl⟩
  have still : ∀ label, (machine 1).system.next s label = none := by
    rintro ⟨t, choice⟩
    subst here
    match t with
    | 0 => rfl
    | 1 => rfl
    | 2 => rfl
    | t + 3 => rfl
  have fetchWaits : Waits s 0 1 := by
    subst here
    exact ⟨_, _, rfl, rfl, .handler rfl (.inl rfl)⟩
  have endedWaits : Waits s 1 2 := by
    subst here
    exact ⟨_, _, rfl, rfl, .lock (.list 0) rfl rfl⟩
  have freeWaits : Waits s 2 0 := by
    subst here
    exact ⟨_, _, rfl, rfl, .lock (.item 0) rfl rfl⟩
  refine ⟨s, reached, by subst here; decide, still, fetchWaits, endedWaits, freeWaits, ?_⟩
  intro t _
  exact not_live_of_closed (fun _ => True) (fun u choice _ => still (u, choice))
    (fun _ _ _ _ => trivial) trivial

end TaosAdapter.Fetch
