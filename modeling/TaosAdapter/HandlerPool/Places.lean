import Mathlib.Data.List.Nodup
import Mathlib.Data.List.Perm.Subperm
import TaosAdapter.HandlerPool.Model

/-!
Owns: where a handler is. A handler is idle in the channel, in the channel of
one request, or with one caller; requests are served in the order in which they
were queued; and a caller in a critical section can always go on, so that no
send of `Put` waits.

A handler can be idle while a request is queued: `Get` looks at the channel
before it takes the mutex, and a `Put` in between finds no request and leaves
its handler in the channel. Nobody takes it out for the request that is queued
then.
-/

namespace TaosAdapter.HandlerPool

open Lib List Option Snapshot

variable {count : Nat} {s : State} {t : Nat} {held : List Handler} {pc : Pc}
  {move : Move Shared Thread}

def Pc.inSection : Pc → Bool
  | .pushBack | .getUnlock _ | .putLocked _ | .putUnlock => true
  | _ => false

def Locked (s : State) : Prop :=
  ∀ t, s.shared.mu = some t ↔
    ∃ thread, s.threads[t]? = some thread ∧ thread.pc.inSection = true

theorem Advanced.mutex (advanced : Advanced count s t held pc move) :
    (move.shared.mu = s.shared.mu ∧ move.thread.pc.inSection = pc.inSection) ∨
      (s.shared.mu = none ∧ move.shared.mu = some t ∧ move.thread.pc.inSection = true) ∨
      (pc.inSection = true ∧ move.shared.mu = none ∧ move.thread.pc.inSection = false) := by
  cases advanced with
  | getLock free | putLock _ free => exact .inr (.inl ⟨free, rfl, rfl⟩)
  | getUnlock | putUnlock => exact .inr (.inr ⟨rfl, rfl, rfl⟩)
  | _ => exact .inl ⟨rfl, rfl⟩

theorem Locked.apply (locked : Locked s) (found : s.threads[t]? = some ⟨held, pc⟩)
    (advanced : Advanced count s t held pc move) : Locked (s.apply t move) := by
  have spawned : move.spawned = [] := by cases advanced <;> rfl
  intro u
  have holder : (∃ th, (s.apply t move).threads[u]? = some th ∧ th.pc.inSection = true) ↔
      if u = t then move.thread.pc.inSection = true
      else ∃ th, s.threads[u]? = some th ∧ th.pc.inSection = true := by
    have inside := lt_of_getElem? found
    by_cases same : u = t
    · subst same
      simp [Snapshot.apply, spawned, inside]
    · simp [Snapshot.apply, spawned, List.getElem?_set_ne (Ne.symm same), same]
  rw [holder, apply_shared]
  have own := locked t
  rw [found] at own
  rcases advanced.mutex with ⟨same, side⟩ | ⟨free, taken, inside⟩ | ⟨inside, freed, outside⟩
  · rw [same, side]
    split
    · rename_i isOwn
      subst isOwn
      simpa using own
    · exact locked u
  · rw [taken]
    split
    · rename_i isOwn
      exact iff_of_true (by rw [isOwn]) inside
    · rename_i other
      refine iff_of_false (fun same => other (Option.some.inj same).symm) ?_
      rw [← locked u, free]
      simp
  · rw [freed]
    have before : s.shared.mu = some t := own.mpr ⟨_, rfl, inside⟩
    split
    · exact iff_of_false (by simp) (by simp [outside])
    · rename_i other
      refine iff_of_false (by simp) ?_
      rw [← locked u, before]
      exact fun same => other (Option.some.inj same).symm

def Pc.carried : Pc → Option Handler
  | .put handler | .putLocked handler => some handler
  | _ => none

def Thread.carries (thread : Thread) (handler : Handler) : Nat :=
  thread.held.count handler + if thread.pc.carried = some handler then 1 else 0

def Shared.sent (shared : Shared) (handler : Handler) : Nat :=
  tally (fun slot => if slot = some handler then 1 else 0) shared.reqs

def places (s : State) (handler : Handler) : Nat :=
  s.shared.handlers.count handler + s.shared.sent handler +
    tally (fun thread => thread.carries handler) s.threads

theorem Advanced.moves (advanced : Advanced count s t held pc move) (handler : Handler) :
    move.shared.handlers.count handler + move.shared.sent handler + move.thread.carries handler =
      s.shared.handlers.count handler + s.shared.sent handler +
        Thread.carries ⟨held, pc⟩ handler := by
  cases advanced with
  | give given own =>
    have pos := count_pos_iff.mpr own
    simp only [Thread.carries, Pc.carried, count_erase, Option.some.injEq, beq_iff_eq]
    split
    · rename_i same
      subst same
      simp only [reduceCtorEq, if_false]
      omega
    · simp
  | received received rest idle =>
    simp only [Thread.carries, Pc.carried, idle, count_cons, count_append,
      count_nil, Shared.sent, reduceCtorEq, if_false]
    omega
  | awaited req received full =>
    have moved := tally_set (fun slot => if slot = some handler then 1 else 0) full none
    simp only [reduceCtorEq, if_false, Option.some.injEq] at moved
    simp only [Thread.carries, Pc.carried, Shared.sent, count_append, count_singleton,
      beq_iff_eq, reduceCtorEq, if_false]
    omega
  | sent sent first rest queue room =>
    have moved := tally_set (fun slot => if slot = some handler then 1 else 0) room (some sent)
    simp only [reduceCtorEq, if_false, Option.some.injEq] at moved
    simp only [Thread.carries, Pc.carried, Shared.sent, reduceCtorEq, if_false, Option.some.injEq]
    omega
  | stored stored queue room =>
    simp only [Thread.carries, Pc.carried, Shared.sent, count_append, count_singleton,
      beq_iff_eq, reduceCtorEq, if_false, Option.some.injEq]
    omega
  | _ => simp [Thread.carries, Pc.carried, Shared.sent]

theorem places_apply (found : s.threads[t]? = some ⟨held, pc⟩)
    (advanced : Advanced count s t held pc move) (handler : Handler) :
    places (s.apply t move) handler = places s handler := by
  have spawned : move.spawned = [] := by cases advanced <;> rfl
  have threads := tally_apply (fun th => th.carries handler) found move
  have moved := advanced.moves handler
  rw [spawned, tally_nil] at threads
  simp only [places, apply_shared]
  omega

def Pc.req : Pc → Option Req
  | .getUnlock req | .await req => some req
  | _ => none

def Pc.waitsFor (pc : Pc) (req : Req) : Nat :=
  if pc.req = some req then 1 else 0

def waits (s : State) (req : Req) : Nat :=
  tally (fun thread : Thread => thread.pc.waitsFor req) s.threads

def full (reqs : List (Option Handler)) (req : Req) : Nat :=
  if ((reqs[req]?).getD none).isSome then 1 else 0

/-- Requests are served as they were queued, and each has its one caller until
the handler is received. -/
structure Queued (s : State) : Prop where
  order : s.shared.served ++ s.shared.reqList = List.range s.shared.reqs.length
  empty : ∀ req ∈ s.shared.reqList, s.shared.reqs[req]? = some none
  awaited : ∀ req, waits s req = s.shared.reqList.count req + full s.shared.reqs req
  fresh : ∀ (t : Nat) (thread : Thread), s.threads[t]? = some thread →
    ∀ req, thread.pc = .getUnlock req → s.shared.reqs[req]? = some none

theorem waits_apply (found : s.threads[t]? = some ⟨held, pc⟩) (after : Shared) (new : Thread)
    (req : Req) : waits (s.apply t ⟨after, new, []⟩) req + pc.waitsFor req =
      waits s req + new.pc.waitsFor req := by
  have moved := tally_apply (fun th : Thread => th.pc.waitsFor req) found
    ⟨after, new, []⟩
  rw [tally_nil, Nat.add_zero] at moved
  exact moved

theorem Queued.quiet (queued : Queued s) (found : s.threads[t]? = some ⟨held, pc⟩)
    {after : Shared} {new : Thread} (reqList : after.reqList = s.shared.reqList)
    (reqs : after.reqs = s.shared.reqs) (served : after.served = s.shared.served)
    (req : new.pc.req = pc.req) (later : ∀ req, new.pc ≠ .getUnlock req) :
    Queued (s.apply t ⟨after, new, []⟩) where
  order := by
    rw [apply_shared, served, reqList, reqs]
    exact queued.order
  empty := by
    rw [apply_shared, reqList, reqs]
    exact queued.empty
  awaited := by
    intro other
    have waiting := waits_apply found after new other
    rw [show new.pc.waitsFor other = pc.waitsFor other by
      rw [Pc.waitsFor, Pc.waitsFor, req]] at waiting
    rw [apply_shared, reqList, reqs, ← queued.awaited]
    omega
  fresh := by
    refine forall_apply queued.fresh ?_ ?_ ?_
    · intro u th _ before other unlocks
      rw [apply_shared, reqs]
      exact before other unlocks
    · intro other unlocks
      exact absurd unlocks (later other)
    · intro u th _ fresh
      cases fresh

theorem Queued.nodup (queued : Queued s) : (s.shared.served ++ s.shared.reqList).Nodup := by
  rw [queued.order]
  exact nodup_range

theorem Queued.pushBack (queued : Queued s) (found : s.threads[t]? = some ⟨held, .pushBack⟩) :
    Queued (s.apply t ⟨{ s.shared with
      reqList := s.shared.reqList ++ [s.shared.reqs.length]
      reqs := s.shared.reqs ++ [none] }, ⟨held, .getUnlock s.shared.reqs.length⟩, []⟩) where
  order := by
    simp only [apply_shared, length_append, length_singleton, range_succ,
      ← queued.order, append_assoc]
  empty := by
    intro req mem
    rcases mem_append.mp mem with before | new
    · have here := queued.empty req before
      exact (List.getElem?_append_left (lt_of_getElem? here)).trans here
    · rw [mem_singleton.mp new]
      simp
  awaited := by
    intro req
    have waiting := waits_apply found { s.shared with
      reqList := s.shared.reqList ++ [s.shared.reqs.length]
      reqs := s.shared.reqs ++ [none] } ⟨held, .getUnlock s.shared.reqs.length⟩ req
    have same : full (s.shared.reqs ++ [none]) req = full s.shared.reqs req := by
      simp only [full, List.getElem?_append]
      split
      · rfl
      · rename_i beyond
        rw [List.getElem?_eq_none (Nat.le_of_not_lt beyond)]
        cases req - s.shared.reqs.length <;> rfl
    have before := queued.awaited req
    rw [apply_shared, same, count_append, count_singleton]
    simp only [Pc.waitsFor, Pc.req, Option.some.injEq, reduceCtorEq, if_false, beq_iff_eq]
      at waiting ⊢
    omega
  fresh := by
    refine forall_apply queued.fresh ?_ ?_ ?_
    · intro u th _ before req unlocks
      have here := before req unlocks
      exact (List.getElem?_append_left (lt_of_getElem? here)).trans here
    · intro req unlocks
      cases unlocks
      simp
    · intro u th _ new
      cases new

variable {req : Req} {reqs : List (Option Handler)}

theorem set_none_of_none {other : Req} (here : reqs[other]? = some none) :
    (reqs.set req none)[other]? = some none := by
  rw [List.getElem?_set]
  split
  · rename_i same
    subst same
    rw [if_pos (lt_of_getElem? here)]
  · exact here

theorem full_set {old new : Option Handler} (found : reqs[req]? = some old) (other : Req) :
    full (reqs.set req new) other =
      if req = other then (if new.isSome then 1 else 0) else full reqs other := by
  simp only [full, List.getElem?_set]
  split
  · rename_i same
    subst same
    rw [if_pos (lt_of_getElem? found)]
    rfl
  · rfl

variable {handler : Handler}

theorem Queued.receive (queued : Queued s) (found : s.threads[t]? = some ⟨held, .await req⟩)
    (isFull : s.shared.reqs[req]? = some (some handler)) :
    Queued (s.apply t ⟨{ s.shared with reqs := s.shared.reqs.set req none },
      ⟨held ++ [handler], .away⟩, []⟩) where
  order := by
    rw [apply_shared, length_set]
    exact queued.order
  empty other mem := set_none_of_none (queued.empty other mem)
  awaited := by
    intro other
    have waiting := waits_apply found { s.shared with reqs := s.shared.reqs.set req none }
      ⟨held ++ [handler], .away⟩ other
    have before := queued.awaited other
    rw [apply_shared, full_set isFull]
    simp only [Pc.waitsFor, Pc.req, Option.some.injEq, reduceCtorEq, if_false,
      isSome_none, Bool.false_eq_true] at waiting ⊢
    split at waiting
    · rename_i same
      subst same
      rw [if_pos rfl]
      have one : full s.shared.reqs req = 1 := by simp [full, isFull]
      omega
    · rename_i other
      rw [if_neg other]
      omega
  fresh := by
    refine forall_apply queued.fresh ?_ ?_ ?_
    · intro u th _ before other unlocks
      exact set_none_of_none (before other unlocks)
    · intro other unlocks
      cases unlocks
    · intro u th _ new
      cases new

theorem Queued.send (queued : Queued s) (locked : Locked s) {first : Req} {rest : List Req}
    (found : s.threads[t]? = some ⟨held, .putLocked handler⟩)
    (queue : s.shared.reqList = first :: rest) (room : s.shared.reqs[first]? = some none) :
    Queued (s.apply t ⟨{ s.shared with
      reqList := rest
      reqs := s.shared.reqs.set first (some handler)
      served := s.shared.served ++ [first] }, ⟨held, .putUnlock⟩, []⟩) where
  order := by
    have order := queued.order
    rw [queue] at order
    rw [apply_shared, length_set, ← order, append_assoc]
    rfl
  empty := by
    intro req mem
    have other : first ≠ req := by
      have nodup := (nodup_append.mp queued.nodup).2.1
      rw [queue] at nodup
      rintro rfl
      exact (nodup_cons.mp nodup).1 mem
    rw [apply_shared, List.getElem?_set_ne other]
    exact queued.empty req (queue ▸ mem_cons_of_mem first mem)
  awaited := by
    intro other
    have waiting := waits_apply found { s.shared with
      reqList := rest
      reqs := s.shared.reqs.set first (some handler)
      served := s.shared.served ++ [first] } ⟨held, .putUnlock⟩ other
    have before := queued.awaited other
    rw [queue, count_cons] at before
    rw [apply_shared, full_set room]
    simp only [Pc.waitsFor, Pc.req, reduceCtorEq, if_false, beq_iff_eq, isSome_some,
      if_true] at waiting before ⊢
    split at before
    · rename_i same
      subst same
      rw [if_pos rfl]
      have zero : full s.shared.reqs first = 0 := by simp [full, room]
      omega
    · rename_i other
      rw [if_neg other]
      omega
  fresh := by
    intro u th threadFound req unlocks
    -- another caller would hold the mutex too
    have isOwn : s.shared.mu = some t := (locked t).mpr ⟨_, found, rfl⟩
    rcases apply_inv threadFound with ⟨ne, before⟩ | ⟨_, rfl⟩ | ⟨_, new⟩
    · have theirs : s.shared.mu = some u := (locked u).mpr ⟨_, before, by rw [unlocks]; rfl⟩
      rw [isOwn] at theirs
      exact absurd (Option.some.inj theirs).symm ne
    · cases unlocks
    · cases new

theorem Queued.apply (queued : Queued s) (locked : Locked s)
    (found : s.threads[t]? = some ⟨held, pc⟩) (advanced : Advanced count s t held pc move) :
    Queued (s.apply t move) := by
  cases advanced with
  | pushBack => exact queued.pushBack found
  | awaited req handler full => exact queued.receive found full
  | sent handler first rest queue room => exact queued.send locked found queue room
  | _ => exact queued.quiet found rfl rfl rfl rfl (by simp)

structure Sound (count : Nat) (s : State) : Prop where
  locked : Locked s
  queued : Queued s
  placed : ∀ handler, places s handler = if handler < count then 1 else 0

theorem sound_start (count callers : Nat) : Sound count (start count callers) := by
  have away : ∀ (t : Nat) (th : Thread), (start count callers).threads[t]? = some th →
      th = ⟨[], .away⟩ :=
    fun t th found => eq_of_mem_replicate (mem_of_getElem? found)
  refine ⟨?_, ⟨rfl, by simp [start, newHandlerPool], ?_, ?_⟩, ?_⟩
  · intro t
    refine iff_of_false (by simp [start, newHandlerPool]) ?_
    rintro ⟨th, found, inside⟩
    rw [away t th found] at inside
    cases inside
  · intro req
    have none : waits (start count callers) req = 0 := by
      apply tally_eq_zero
      intro th mem
      rw [eq_of_mem_replicate mem]
      rfl
    rw [none]
    simp [start, newHandlerPool, full]
  · intro t th found req unlocks
    rw [away t th found] at unlocks
    cases unlocks
  · intro handler
    have nobody : tally (fun th : Thread => th.carries handler)
        (start count callers).threads = 0 := by
      apply tally_eq_zero
      intro th mem
      rw [eq_of_mem_replicate mem]
      rfl
    rw [places, nobody]
    simp [start, newHandlerPool, Shared.sent, count_range]

/-- Every step moves a handler from one place to another. -/
theorem Sound.step {label : Nat × Choice} {next : State} (sound : Sound count s)
    (stepped : (machine count).system.next s label = some next) : Sound count next := by
  obtain ⟨⟨held, pc⟩, move, found, moved, rfl⟩ := Machine.next_inv stepped
  have advanced := advanced_of_advance moved
  refine ⟨sound.locked.apply found advanced, sound.queued.apply sound.locked found advanced, ?_⟩
  intro handler
  rw [places_apply found advanced]
  exact sound.placed handler

theorem sound_of_reachable (reached : (machine count).system.Reachable s) : Sound count s := by
  refine System.Reachable.invariant ?_ (fun _ _ _ sound stepped => sound.step stepped) reached
  rintro first ⟨callers, rfl⟩
  exact sound_start count callers

theorem Sound.room (sound : Sound count s) (found : s.threads[t]? = some ⟨held, .putLocked handler⟩)
    : s.shared.handlers.length < count := by
  have most : ∀ other, s.shared.handlers.count other ≤ 1 := by
    intro other
    have placed := sound.placed other
    rw [places] at placed
    split at placed <;> omega
  have inside : ∀ other ∈ s.shared.handlers, other < count := by
    intro other mem
    have placed := sound.placed other
    have pos := count_pos_iff.mpr mem
    rw [places] at placed
    by_contra beyond
    rw [if_neg beyond] at placed
    omega
  have weighs : 1 ≤ Thread.carries ⟨held, .putLocked handler⟩ handler := by
    simp [Thread.carries, Pc.carried]
  have carried := weight_le_tally (fun th : Thread => th.carries handler) found
  have placed := sound.placed handler
  rw [places] at placed
  have known : handler < count := by
    by_contra beyond
    rw [if_neg beyond] at placed
    omega
  rw [if_pos known] at placed
  have absent : handler ∉ s.shared.handlers := by
    intro mem
    have pos := count_pos_iff.mpr mem
    omega
  have nodup : (handler :: s.shared.handlers).Nodup :=
    nodup_cons.mpr ⟨absent, nodup_iff_count_le_one.mpr most⟩
  have subset : handler :: s.shared.handlers ⊆ List.range count := by
    intro other mem
    rcases mem_cons.mp mem with rfl | idle
    · exact mem_range.mpr known
    · exact mem_range.mpr (inside other idle)
  have short := (nodup.subperm subset).length_le
  rw [length_cons, length_range] at short
  exact short

theorem Sound.goesOn (sound : Sound count s) {th : Thread}
    (found : s.threads[t]? = some th) (inside : th.pc.inSection = true) :
    ∃ after, (machine count).system.next s (t, .go) = some after := by
  obtain ⟨held, pc⟩ := th
  cases pc with
  | pushBack | getUnlock | putUnlock => exact ⟨_, (machine count).next_of_advance .go _ found rfl⟩
  | putLocked handler =>
    obtain ⟨sh, put⟩ : ∃ sh, s.shared.put count handler = some sh := by
      rw [Shared.put]
      split
      · rename_i first rest queue
        rw [if_pos (sound.queued.empty first (queue ▸ mem_cons_self))]
        exact ⟨_, rfl⟩
      · rw [if_pos (sound.room found)]
        exact ⟨_, rfl⟩
    have moved : advance count s t ⟨held, .putLocked handler⟩ .go =
        some ⟨sh, ⟨held, .putUnlock⟩, []⟩ := by
      simp only [advance, put, map_some]
    exact ⟨_, (machine count).next_of_advance .go _ found moved⟩
  | _ => cases inside

theorem Sound.waiter (sound : Sound count s) (sent : s.shared.reqs[req]? = some (some handler)) :
    ∃! t : Nat, ∃ held : List Handler, s.threads[t]? = some ⟨held, .await req⟩ := by
  have isFull : full s.shared.reqs req = 1 := by simp [full, sent]
  have notQueued : s.shared.reqList.count req = 0 := by
    rw [count_eq_zero]
    intro mem
    have empty := sound.queued.empty req mem
    rw [sent] at empty
    cases empty
  have waiting := sound.queued.awaited req
  rw [isFull, notQueued] at waiting
  have pos : 0 < waits s req := by omega
  obtain ⟨t, ⟨held, pc⟩, found, weighs⟩ := exists_of_tally_pos _ pos
  have isReq : pc.req = some req := by
    by_contra other
    simp [Pc.waitsFor, other] at weighs
  refine ⟨t, ?_, ?_⟩
  · cases pc with
    | await own =>
      obtain rfl : own = req := Option.some.inj isReq
      exact ⟨held, found⟩
    | getUnlock own =>
      obtain rfl : own = req := Option.some.inj isReq
      have fresh := sound.queued.fresh t _ found own rfl
      rw [sent] at fresh
      cases fresh
    | _ => cases isReq
  · rintro u ⟨theirs, found2⟩
    by_contra ne
    have mine : pc.waitsFor req = 1 := by simp [Pc.waitsFor, isReq]
    have other : (Pc.await req).waitsFor req = 1 := by simp [Pc.waitsFor, Pc.req]
    have both : (Pc.await req).waitsFor req + pc.waitsFor req ≤ waits s req :=
      weight_add_weight_le_tally (fun th : Thread => th.pc.waitsFor req) ne
        found2 found
    omega

def Pc.inPut : Pc → Bool
  | .put _ | .putLocked _ | .putUnlock => true
  | _ => false

/-- In every run of a pool of any size: a handler is in exactly one place; in the
channel of a request it is there for exactly one caller, which is about to return
it; requests are served in the order in which they were queued; and a caller in
`Put` can go on, or waits for the mutex of one that can. -/
theorem handlers_in_one_place (reached : (handlerPool count).system.Reachable s ∨
      (tmqHandlerPool count).system.Reachable s) :
    (∀ handler < count, places s handler = 1) ∧
    (∀ req handler, s.shared.reqs[req]? = some (some handler) →
      ∃! t : Nat, ∃ held : List Handler, s.threads[t]? = some ⟨held, .await req⟩) ∧
    s.shared.served <+: List.range s.shared.reqs.length ∧
    (∀ (t : Nat) (thread : Thread), s.threads[t]? = some thread → thread.pc.inSection = true →
      ∃ after, (machine count).system.next s (t, .go) = some after) ∧
    (∀ (t : Nat) (thread : Thread), s.threads[t]? = some thread → thread.pc.inPut = true →
      ∃ u after, (u = t ∨ s.shared.mu = some u) ∧
        (machine count).system.next s (u, .go) = some after) := by
  have sound : Sound count s := sound_of_reachable (reached.elim id id)
  refine ⟨?_, ?_, ?_, ?_, ?_⟩
  · intro handler known
    rw [sound.placed, if_pos known]
  · intro req handler sent
    exact sound.waiter sent
  · exact ⟨s.shared.reqList, sound.queued.order⟩
  · intro t thread found inside
    exact sound.goesOn found inside
  · intro t thread found inPut
    cases held : s.shared.mu with
    | some u =>
      obtain ⟨other, otherFound, inside⟩ := (sound.locked u).mp held
      obtain ⟨after, next⟩ := sound.goesOn otherFound inside
      exact ⟨u, after, .inr rfl, next⟩
    | none =>
      obtain ⟨own, pc⟩ := thread
      have notInside : pc.inSection = false := by
        by_contra inside
        have holder := (sound.locked t).mpr ⟨_, found, by simpa using inside⟩
        rw [held] at holder
        cases holder
      cases pc with
      | put handler =>
        have moved : advance count s t ⟨own, .put handler⟩ .go =
            some ⟨{ s.shared with mu := some t }, ⟨own, .putLocked handler⟩, []⟩ := by
          simp only [advance, held, if_true]
        exact ⟨t, _, .inl rfl, (machine count).next_of_advance .go _ found moved⟩
      | putLocked | putUnlock => cases notInside
      | _ => cases inPut

/-- With one handler and three callers: a handler goes to the caller that queued
first. -/
theorem handlers_in_one_place_two_waiting :
    ∃ s, (handlerPool 1).system.Reachable s ∧ s.shared.served = [0] ∧ s.shared.reqList = [1] ∧
      places s 0 = 1 := by
  obtain ⟨s, reached, served, reqList⟩ : ∃ s, (handlerPool 1).system.Reachable s ∧
      s.shared.served = [0] ∧ s.shared.reqList = [1] :=
    (handlerPool 1).system.exists_of_exec
      [(0, .get), (0, .go), (1, .get), (2, .get), (2, .go), (1, .go), (2, .go), (2, .go), (2, .go),
        (1, .go), (1, .go), (1, .go), (0, .put 0), (0, .go), (0, .go), (0, .go)] ⟨3, rfl⟩
      (by decide +kernel)
  exact ⟨s, reached, served, reqList, (handlers_in_one_place (.inl reached)).1 0 (by decide)⟩

/-- Outside the critical sections no handler is idle while a request is queued, and
no caller waits while a handler is idle. -/
def HandsOver (s : State) : Prop :=
  s.shared.mu = none →
    (s.shared.reqList = [] ∨ s.shared.handlers = []) ∧
    ∀ (t : Nat) (held : List Handler) (req : Req), s.threads[t]? = some ⟨held, .await req⟩ →
      s.shared.reqs[req]? = some none → s.shared.handlers = []

def QueuesWhenEmpty (s : State) (label : Nat × Choice) : Prop :=
  ∀ thread ∈ s.threads[label.1]?, thread.pc = .pushBack → s.shared.handlers = []

instance (s : State) (label : Nat × Choice) : Decidable (QueuesWhenEmpty s label) := by
  unfold QueuesWhenEmpty
  infer_instance

theorem Advanced.empty (advanced : Advanced count s t held pc move)
    (before : s.shared.reqList = [] ∨ s.shared.handlers = [])
    (met : pc = .pushBack → s.shared.handlers = []) :
    move.shared.reqList = [] ∨ move.shared.handlers = [] := by
  cases advanced with
  | received handler rest idle =>
    rw [idle] at before
    exact .inl (before.resolve_right (cons_ne_nil _ _))
  | pushBack => exact .inr (met rfl)
  | sent handler first rest queue room =>
    rw [queue] at before
    exact .inr (before.resolve_left (cons_ne_nil _ _))
  | stored handler queue room => exact .inl queue
  | _ => exact before

theorem Queued.mem_reqList (queued : Queued s) (found : s.threads[t]? = some ⟨held, .await req⟩)
    (empty : s.shared.reqs[req]? = some none) : req ∈ s.shared.reqList := by
  have weighs : (Pc.await req).waitsFor req = 1 := by simp [Pc.waitsFor, Pc.req]
  have waiting : (Pc.await req).waitsFor req ≤ waits s req :=
    weight_le_tally (fun th : Thread => th.pc.waitsFor req) found
  have notFull : full s.shared.reqs req = 0 := by simp [full, empty]
  have awaited := queued.awaited req
  apply count_pos_iff.mp
  omega

/-- In every run in which requests are queued only while the channel is empty, no
handler is idle while somebody waits for one. -/
theorem no_idle_handler_while_queued
    (reached : (handlerPool count).system.ReachableUnder QueuesWhenEmpty s ∨
      (tmqHandlerPool count).system.ReachableUnder QueuesWhenEmpty s) : HandsOver s := by
  have run : (machine count).system.ReachableUnder QueuesWhenEmpty s := reached.elim id id
  have initially : ∀ first, (machine count).system.initial first →
      first.shared.reqList = [] ∨ first.shared.handlers = [] := by
    rintro first ⟨callers, rfl⟩
    exact .inl rfl
  have preserved : ∀ before label after,
      (before.shared.reqList = [] ∨ before.shared.handlers = []) →
      QueuesWhenEmpty before label → (machine count).system.next before label = some after →
      after.shared.reqList = [] ∨ after.shared.handlers = [] := by
    intro before label after empty met stepped
    obtain ⟨thread, move, found, moved, rfl⟩ := Machine.next_inv stepped
    exact (advanced_of_advance moved).empty empty (met thread found)
  have empty := System.ReachableUnder.invariant initially preserved run
  have sound := sound_of_reachable run.reachable
  intro _
  refine ⟨empty, ?_⟩
  intro t held req found notSent
  have queued := sound.queued.mem_reqList found notSent
  exact empty.resolve_left (ne_nil_of_mem queued)

/-- A caller waits while the only handler is held. -/
theorem no_idle_handler_while_one_queued :
    ∃ s, (handlerPool 1).system.ReachableUnder QueuesWhenEmpty s ∧ s.shared.reqList = [0] ∧
      s.shared.mu = none ∧ HandsOver s := by
  obtain ⟨s, reached, reqList, free⟩ : ∃ s,
      (handlerPool 1).system.ReachableUnder QueuesWhenEmpty s ∧ s.shared.reqList = [0] ∧
        s.shared.mu = none :=
    (handlerPool 1).system.exists_of_exec
      [(0, .get), (0, .go), (1, .get), (1, .go), (1, .go), (1, .go), (1, .go)] ⟨2, rfl⟩
      (by decide +kernel)
  exact ⟨s, reached, reqList, free, no_idle_handler_while_queued (.inl reached)⟩

/-- With one handler: a caller finds the channel empty, the handler goes back to
it, and only then is the request queued. In both pools the handler is idle, the
mutex free, and the caller waits. -/
theorem caller_queued_behind_idle_handler :
    (∃ s, (handlerPool 1).system.Reachable s ∧ s.shared.mu = none ∧ s.shared.reqList = [0] ∧
      s.shared.handlers = [0] ∧ s.threads[1]? = some ⟨[], .await 0⟩ ∧ ¬ HandsOver s) ∧
    ∃ s, (tmqHandlerPool 1).system.Reachable s ∧ s.shared.mu = none ∧ s.shared.reqList = [0] ∧
      s.shared.handlers = [0] ∧ s.threads[1]? = some ⟨[], .await 0⟩ ∧ ¬ HandsOver s := by
  obtain ⟨s, reached, free, reqList, handlers, waiter⟩ : ∃ s, (machine 1).system.Reachable s ∧
      s.shared.mu = none ∧ s.shared.reqList = [0] ∧ s.shared.handlers = [0] ∧
      s.threads[1]? = some ⟨[], .await 0⟩ :=
    (machine 1).system.exists_of_exec
      [(0, .get), (0, .go), (1, .get), (1, .go), (0, .put 0), (0, .go), (0, .go), (0, .go),
        (1, .go), (1, .go), (1, .go)] ⟨2, rfl⟩ (by decide +kernel)
  have lost : ¬ HandsOver s := by
    intro hands
    rcases (hands free).1 with queue | idle
    · rw [reqList] at queue
      cases queue
    · rw [handlers] at idle
      cases idle
  exact ⟨⟨s, reached, free, reqList, handlers, waiter, lost⟩,
    ⟨s, reached, free, reqList, handlers, waiter, lost⟩⟩

end TaosAdapter.HandlerPool
