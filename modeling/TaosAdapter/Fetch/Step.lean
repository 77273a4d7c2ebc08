import TaosAdapter.Fetch.Model

/-!
Owns: the inversion of a request's step, and the invariants of every run: the
handlers are conserved, the queue of the pool names exactly the goroutines that
wait in it, and a goroutine's result is the one its request names.
-/

namespace TaosAdapter.Fetch

open Lib List Option Snapshot

section

variable (count : Nat) (s : State) (t : Nat) (req : Request)

inductive Advanced : Pc → Shared → Pc → Prop where
  | startFetch : Advanced .arrived s.shared .get
  | refused response : Advanced .arrived s.shared (.respond ⟨none, some response⟩)
  | startFree : Advanced .arrived s.shared (.freeLock ⟨none, none⟩)
  | read (unlocked : free s (.list req.session) = true) : Advanced .get s.shared .lookup
  | found item (lookup : find s.shared.results req.session req.id = some item) :
      Advanced .lookup s.shared (.lockItem item)
  | missing :
      Advanced .lookup s.shared (.respond ⟨none, some (errorResponse 0xffff "result is nil")⟩)
  | lockItem item (unlocked : free s (.item item) = true) :
      Advanced (.lockItem item) s.shared (.check item)
  | usable item : Advanced (.check item) s.shared (.select item)
  | freedBefore item :
      Advanced (.check item) s.shared
        (.respond ⟨none, some (errorResponse 0xffff "result has been freed")⟩)
  | takeIdle (item : Item) (handler : Handler) (rest : List Handler)
      (idle : s.shared.handlers = handler :: rest) :
      Advanced (.select item) { s.shared with handlers := rest }
        (.fetching item handler)
  | exhausted item (idle : s.shared.handlers = []) :
      Advanced (.select item) s.shared (.enqueue item)
  | lockMu item (unlocked : free s .mu = true) : Advanced (.enqueue item) s.shared (.pushBack item)
  | queue (item : Item) :
      Advanced (.pushBack item)
        { s.shared with reqList := s.shared.reqList ++ [t] } (.await item)
  | receive (item : Item) (handler : Handler) (member : (t, handler) ∈ s.shared.delivered) :
      Advanced (.await item)
        { s.shared with delivered := s.shared.delivered.erase (t, handler) }
        (.fetching item handler)
  | answer item handler n : Advanced (.fetching item handler) s.shared (.fetched item handler n)
  | ended item handler n response :
      Advanced (.fetched item handler n) s.shared (.freeLock ⟨some handler, some response⟩)
  | block item handler n response :
      Advanced (.fetched item handler n) s.shared (.respond ⟨some handler, some response⟩)
  | lockList exit (unlocked : free s (.list req.session) = true) :
      Advanced (.freeLock exit) s.shared (.freeDrain exit)
  | drained exit (nobody : unread s req.session = true) :
      Advanced (.freeDrain exit) s.shared (.freeSearch exit)
  | target item exit (lookup : find s.shared.results req.session req.id = some item) :
      Advanced (.freeSearch exit) s.shared (.freeItem item exit)
  | untargeted exit : Advanced (.freeSearch exit) s.shared (.respond exit)
  | lockTarget item exit (unlocked : free s (.item item) = true) :
      Advanced (.freeItem item exit) s.shared (.freeing item exit)
  | freed item exit result (present : s.shared.results[item]? = some result) :
      Advanced (.freeing item exit) (s.shared.free item result) (.remove item exit)
  | removed item exit result (present : s.shared.results[item]? = some result) :
      Advanced (.remove item exit) (s.shared.remove item result) (.respond exit)
  | respond handler response :
      Advanced (.respond ⟨some handler, response⟩) (s.shared.write t response) (.put handler)
  | respondLast response : Advanced (.respond ⟨none, response⟩) (s.shared.write t response) .done
  | lockPut handler (unlocked : free s .mu = true) :
      Advanced (.put handler) s.shared (.putLocked handler)
  | handOver (handler : Handler) (first : Nat) (rest : List Nat)
      (queued : s.shared.reqList = first :: rest) :
      Advanced (.putLocked handler)
        { s.shared with
          reqList := rest
          delivered := s.shared.delivered ++ [(first, handler)] } .done
  | park (handler : Handler) (unqueued : s.shared.reqList = [])
      (room : s.shared.handlers.length < count) :
      Advanced (.putLocked handler)
        { s.shared with handlers := s.shared.handlers ++ [handler] } .done

end

section

variable {count : Nat} {s : State} {t : Nat} {th : Thread} {choice : Choice}
  {sh : Shared} {pc : Pc}

theorem advanced_result (moved : advanceResult s th = some (sh, pc)) :
    Advanced count s t th.request th.pc sh pc := by
  obtain ⟨req, before⟩ := th
  cases before with
  | arrived =>
    cases moved
    cases req with
    | fetch => exact .startFetch
    | fetchRawBlock session id message =>
      simp only [Request.start]
      repeat' split
      all_goals constructor
    | freeResult => exact .startFree
  | get | lookup | lockItem | check =>
    simp only [advanceResult] at moved
    repeat' split at moved
    all_goals cases moved
    all_goals constructor <;> assumption
  | _ => cases moved

theorem advanced_fetch (moved : advanceFetch s t th choice = some (sh, pc)) :
    Advanced count s t th.request th.pc sh pc := by
  obtain ⟨req, before⟩ := th
  cases before with
  | select | enqueue | pushBack | fetching =>
    simp only [advanceFetch] at moved
    repeat' split at moved
    all_goals cases moved
    all_goals constructor <;> assumption
  | await item =>
    simp only [advanceFetch] at moved
    split at moved
    · rename_i entry sent
      cases moved
      obtain ⟨receiver, handler⟩ := entry
      have same : receiver = t := by simpa using List.find?_some sent
      subst same
      exact .receive item handler (List.mem_of_find?_eq_some sent)
    · cases moved
  | fetched item handler n =>
    cases moved
    simp only [Request.afterFetch]
    repeat' split
    all_goals constructor
  | _ => cases moved

theorem advanced_free (moved : advanceFree s th = some (sh, pc)) :
    Advanced count s t th.request th.pc sh pc := by
  obtain ⟨req, before⟩ := th
  cases before with
  | freeLock | freeDrain | freeSearch | freeItem =>
    simp only [advanceFree] at moved
    split at moved
    all_goals cases moved
    all_goals constructor <;> assumption
  | freeing | remove =>
    obtain ⟨res, present, step⟩ := map_eq_some_iff.mp moved
    cases step
    constructor
    exact present
  | _ => cases moved

theorem advanced_exit (moved : advanceExit count s t th = some (sh, pc)) :
    Advanced count s t th.request th.pc sh pc := by
  obtain ⟨req, before⟩ := th
  cases before with
  | respond exit =>
    cases moved
    obtain ⟨handler, response⟩ := exit
    cases handler <;> constructor
  | put =>
    simp only [advanceExit] at moved
    split at moved
    all_goals cases moved
    constructor
    assumption
  | putLocked handler =>
    obtain ⟨after, stored, step⟩ := map_eq_some_iff.mp moved
    cases step
    unfold Shared.put at stored
    repeat' split at stored
    all_goals cases stored
    all_goals constructor <;> assumption
  | _ => cases moved

theorem advanced_of_advance {move : Move Shared Thread}
    (moved : (machine count).advance s t th choice = some move) :
    ∃ sh pc, Advanced count s t th.request th.pc sh pc ∧ move = ⟨sh, ⟨th.request, pc⟩, []⟩ := by
  obtain ⟨⟨sh, pc⟩, stepped, rfl⟩ := map_eq_some_iff.mp moved
  refine ⟨sh, pc, ?_, rfl⟩
  unfold advancePc at stepped
  split at stepped
  all_goals
    first
    | exact advanced_result stepped
    | exact advanced_fetch stepped
    | exact advanced_free stepped
    | exact advanced_exit stepped
    | cases stepped

end

def Pc.handler : Pc → Option Handler
  | .fetching _ handler | .fetched _ handler _ | .put handler | .putLocked handler => some handler
  | .freeLock exit | .freeDrain exit | .freeSearch exit | .freeItem _ exit | .freeing _ exit
  | .remove _ exit | .respond exit => exit.handler
  | _ => none

def Pc.carried (pc : Pc) : Nat :=
  if pc.handler.isSome then 1 else 0

theorem write_eq (sh : Shared) (t : Nat) (response : Option Response) :
    (sh.write t response).handlers = sh.handlers ∧ (sh.write t response).delivered = sh.delivered ∧
      (sh.write t response).reqList = sh.reqList ∧ (sh.write t response).results = sh.results := by
  cases response <;> exact ⟨rfl, rfl, rfl, rfl⟩

theorem free_eq (sh : Shared) (item : Item) (res : QueryResult) :
    (sh.free item res).handlers = sh.handlers ∧ (sh.free item res).delivered = sh.delivered ∧
      (sh.free item res).reqList = sh.reqList := by
  unfold Shared.free
  split <;> exact ⟨rfl, rfl, rfl⟩

def Shared.stored (sh : Shared) : Nat :=
  sh.handlers.length + sh.delivered.length

section

variable {count : Nat} {s : State} {t : Nat} {req : Request} {pc after : Pc}
  {sh : Shared}

theorem Advanced.conserves (advanced : Advanced count s t req pc sh after) :
    sh.stored + after.carried = s.shared.stored + pc.carried := by
  cases advanced with
  | takeIdle item handler rest idle =>
    simp only [Shared.stored, Pc.carried, Pc.handler, idle, length_cons]
    simp
    omega
  | receive item handler mem =>
    have length := length_erase_of_mem mem
    have nonempty := length_pos_of_mem mem
    simp only [Shared.stored, Pc.carried, Pc.handler, length]
    simp
    omega
  | freed item exit res =>
    obtain ⟨handlers, delivered, _⟩ := free_eq s.shared item res
    simp only [Shared.stored, handlers, delivered]
    rfl
  | respond _ response | respondLast response =>
    obtain ⟨handlers, delivered, _⟩ := write_eq s.shared t response
    simp only [Shared.stored, handlers, delivered]
    rfl
  | handOver | park => simp [Shared.stored, Pc.carried, Pc.handler]; omega
  | _ => rfl

def Shared.waiting (sh : Shared) : List Nat :=
  sh.reqList ++ sh.delivered.map Prod.fst

def Pc.awaits : Pc → Bool
  | .await _ => true
  | _ => false

inductive Requeued (t : Nat) (before after : List Nat) : Bool → Bool → Prop where
  | same (moved : after.Perm before) : Requeued t before after false false
  | joined (moved : after.Perm (t :: before)) : Requeued t before after false true
  | left (moved : before.Perm (t :: after)) : Requeued t before after true false

theorem Advanced.requeued (advanced : Advanced count s t req pc sh after) :
    Requeued t s.shared.waiting sh.waiting pc.awaits after.awaits := by
  cases advanced with
  | queue item =>
    refine .joined ?_
    simp only [Shared.waiting, append_assoc]
    exact perm_middle
  | receive item handler mem =>
    refine .left ?_
    have taken := (perm_cons_erase mem).map Prod.fst
    exact (taken.append_left _).trans perm_middle
  | freed item exit res =>
    obtain ⟨_, delivered, reqList⟩ := free_eq s.shared item res
    simp only [Shared.waiting, delivered, reqList]
    exact .same .rfl
  | respond _ response | respondLast response =>
    obtain ⟨_, delivered, reqList, _⟩ := write_eq s.shared t response
    simp only [Shared.waiting, delivered, reqList]
    exact .same .rfl
  | handOver handler first rest queued =>
    refine .same ?_
    simp only [Shared.waiting, queued, map_append, map_cons, map_nil, cons_append, ← append_assoc]
    exact perm_append_singleton _ _
  | _ => exact .same .rfl

section

variable {before later : List Nat} {was is : Bool}

theorem Requeued.other (requeued : Requeued t before later was is) {u : Nat}
    (ne : u ≠ t) : u ∈ later ↔ u ∈ before := by
  cases requeued with
  | same moved => exact moved.mem_iff
  | joined moved | left moved => rw [moved.mem_iff, mem_cons, or_iff_right ne]

theorem Requeued.own (requeued : Requeued t before later was is) (nodup : before.Nodup)
    (known : t ∈ before ↔ was = true) : later.Nodup ∧ (t ∈ later ↔ is = true) := by
  cases requeued with
  | same moved => exact ⟨moved.nodup_iff.mpr nodup, moved.mem_iff.trans known⟩
  | joined moved =>
    have fresh : t ∉ before := fun mem => by cases known.mp mem
    refine ⟨moved.nodup_iff.mpr (nodup_cons.mpr ⟨fresh, nodup⟩), ?_⟩
    simp [moved.mem_iff]
  | left moved =>
    have parts := nodup_cons.mp (moved.nodup_iff.mp nodup)
    exact ⟨parts.2, by simp [parts.1]⟩

end

structure Queued (s : State) : Prop where
  nodup : s.shared.waiting.Nodup
  inside : ∀ u ∈ s.shared.waiting, u < s.threads.length
  waits : ∀ u (th : Thread), s.threads[u]? = some th →
    (u ∈ s.shared.waiting ↔ th.pc.awaits = true)

theorem Queued.step (queued : Queued s) (found : s.threads[t]? = some ⟨req, pc⟩)
    (advanced : Advanced count s t req pc sh after) :
    Queued (s.apply t ⟨sh, ⟨req, after⟩, []⟩) := by
  have requeued := advanced.requeued
  obtain ⟨nodup, own⟩ := requeued.own queued.nodup (queued.waits t _ found)
  refine ⟨nodup, ?_, ?_⟩
  · intro u mem
    simp only [Snapshot.apply, List.append_nil, length_set]
    by_cases same : u = t
    · rw [same]
      exact lt_of_getElem? found
    · exact queued.inside u ((requeued.other same).mp mem)
  · refine forall_apply queued.waits (fun u th ne known => ?_) own ?_
    · exact (requeued.other ne).trans known
    · intro u th _ mem
      cases mem

def Pc.item : Pc → Option Item
  | .lockItem item | .check item | .select item | .enqueue item | .pushBack item | .await item
  | .fetching item _ | .fetched item _ _ | .freeItem item _ | .freeing item _ | .remove item _ =>
    some item
  | _ => none

def Request.Names (req : Request) (results : List QueryResult) (item : Item) : Prop :=
  ∃ result, results[item]? = some result ∧ result.session = req.session ∧
    result.index = req.id

variable {results : List QueryResult}

theorem find_names {item : Item} (lookup : find results req.session req.id = some item) :
    req.Names results item := by
  obtain ⟨inside, matched, _⟩ := List.findIdx?_eq_some_iff_getElem.mp lookup
  simp only [Bool.and_eq_true, beq_iff_eq] at matched
  exact ⟨results[item], List.getElem?_eq_getElem inside, matched.1.2, matched.2⟩

theorem names_set {item other : Item} {old new : QueryResult} (present : results[item]? = some old)
    (session : new.session = old.session) (idx : new.index = old.index)
    (names : req.Names results other) : req.Names (results.set item new) other := by
  obtain ⟨res, found, sameSession, sameIndex⟩ := names
  by_cases same : item = other
  · subst same
    rw [present] at found
    cases found
    refine ⟨new, List.getElem?_set_self (lt_of_getElem? present), ?_, ?_⟩
    · rw [session, sameSession]
    · rw [idx, sameIndex]
  · exact ⟨res, by rw [List.getElem?_set_ne same]; exact found, sameSession, sameIndex⟩

theorem Advanced.names (advanced : Advanced count s t req pc sh after)
    {any : Request} {item : Item} (names : any.Names s.shared.results item) :
    any.Names sh.results item := by
  cases advanced with
  | freed target exit res present =>
    unfold Shared.free
    split
    · exact names
    · exact names_set present rfl rfl names
  | removed target exit res present => exact names_set present rfl rfl names
  | respond _ response | respondLast response =>
    rw [(write_eq s.shared t response).2.2.2]
    exact names
  | _ => exact names

theorem Advanced.item (advanced : Advanced count s t req pc sh after)
    (own : ∀ item ∈ pc.item, req.Names s.shared.results item) :
    ∀ item ∈ after.item, req.Names sh.results item := by
  intro item pointed
  refine advanced.names ?_
  cases advanced with
  | found target lookup | target target _ lookup =>
    cases pointed
    exact find_names lookup
  | _ =>
    first
    | exact own item pointed
    | cases pointed

structure Regular (count : Nat) (s : State) : Prop where
  conserved : s.shared.stored + tally (fun th => th.pc.carried) s.threads = count
  queued : Queued s
  named : ∀ (t : Nat) (th : Thread), s.threads[t]? = some th →
    ∀ item ∈ th.pc.item, th.request.Names s.shared.results item

theorem Regular.initial (initial : Initial count s) : Regular count s where
  conserved := by
    have nothing : tally (fun th : Thread => th.pc.carried) s.threads = 0 := by
      refine tally_eq_zero _ fun th mem => ?_
      rw [initial.arrived th mem]
      rfl
    rw [nothing, Shared.stored, initial.handlers, initial.delivered]
    simp
  queued := by
    have empty : s.shared.waiting = [] := by
      simp [Shared.waiting, initial.reqList, initial.delivered]
    refine ⟨by simp [empty], by simp [empty], fun u th found => ?_⟩
    rw [empty, initial.arrived th (mem_of_getElem? found)]
    simp [Pc.awaits]
  named := by
    intro t th found item pointed
    rw [initial.arrived th (mem_of_getElem? found)] at pointed
    cases pointed

/-- A step neither makes nor loses a handler. -/
theorem Regular.step (regular : Regular count s) (found : s.threads[t]? = some ⟨req, pc⟩)
    (advanced : Advanced count s t req pc sh after) :
    Regular count (s.apply t ⟨sh, ⟨req, after⟩, []⟩) where
  conserved := by
    have moved := tally_apply (fun th : Thread => th.pc.carried) found
      ⟨sh, ⟨req, after⟩, []⟩
    have kept := advanced.conserves
    have before := regular.conserved
    simp only [tally_nil, apply_shared] at moved ⊢
    omega
  queued := regular.queued.step found advanced
  named := by
    refine forall_apply regular.named (fun u th _ known item pointed => ?_)
      (advanced.item (regular.named t _ found)) ?_
    · exact advanced.names (known item pointed)
    · intro u th _ mem
      cases mem

end

end TaosAdapter.Fetch
