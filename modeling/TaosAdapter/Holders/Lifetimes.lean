import TaosAdapter.Holders.Held
import TaosAdapter.Lib.History

/-!
Owns: what a session's requests can do with results and statements, as a
property of the history: every id is larger than the ids before it, a lookup
gives the item that was added under the id until it is freed, everything that is
released is released once and before it leaves its list, and nothing is used
after that.

The ids are `uint64` values that wrap after 2^64 items of one holder; the
property holds for the sessions that add fewer.
-/

namespace TaosAdapter.Holders

open Lib List Snapshot
open Shared

def Allowed (before : List Event) : Event → Prop
  | .added kind _ id => ∀ kind' item' id', .added kind' item' id' ∈ before →
      kind'.side = kind.side → id' < id
  | .got lookup found => ∀ item, found = some item ↔
      (∃ kind, .added kind item lookup.id ∈ before ∧ kind.side = lookup.side ∧
        lookup.accepts kind = true) ∧ .freed item ∉ before
  | .used item => .released item ∉ before ∧ .freed item ∉ before
  | .errorStr _ | .executed _ => True
  | .released item => .released item ∉ before
  | .handlerPut item => .handlerPut item ∉ before
  | .freed item => .freed item ∉ before ∧ ∀ kind id, .added kind item id ∈ before →
      (kind.owned = true → .released item ∈ before) ∧
      (kind = .stmt2 → .handlerPut item ∈ before)
  | .freedByID lookup => ∀ kind item, .added kind item lookup.id ∈ before →
      kind.side = lookup.side → lookup.accepts kind = true → .freed item ∈ before
  | .freedAll side => ∀ kind item id, .added kind item id ∈ before → kind.side = side →
      .freed item ∈ before

namespace Shared

variable (sh : Shared)

def name (item : Item) : Option (Kind × Nat) :=
  (sh.core item).map fun core => (core.kind, core.index)

def population (side : Side) : Nat :=
  sh.items.countP fun entry => entry.kind.side = side

def Few : Prop :=
  ∀ side, sh.population side < 2 ^ 64

theorem population_add (kind : Kind) (ptr : Bool) (side : Side) :
    (sh.add kind ptr).population side = sh.population side + if kind.side = side then 1 else 0 := by
  simp [population, add, countP_append, countP_singleton]

end Shared

structure Ordered (sh : Shared) : Prop where
  last : ∀ side, (sh.holders side).index = sh.population side
  bounded : ∀ item kind id, sh.name item = some (kind, id) →
    id ≤ sh.population kind.side
  increasing : ∀ item item' kind kind' id id', sh.name item = some (kind, id) →
    sh.name item' = some (kind', id') → kind.side = kind'.side → item < item' → id < id'

variable {sh : Shared} {item : Item}

theorem Ordered.unique (ordered : Ordered sh) {item' : Item} {kind kind' : Kind} {id : Nat}
    (here : sh.name item = some (kind, id)) (here' : sh.name item' = some (kind', id))
    (sides : kind.side = kind'.side) : item = item' := by
  rcases Nat.lt_trichotomy item item' with less | same | more
  · exact absurd (ordered.increasing _ _ _ _ _ _ here here' sides less) (Nat.lt_irrefl id)
  · exact same
  · exact absurd (ordered.increasing _ _ _ _ _ _ here' here sides.symm more) (Nat.lt_irrefl id)

inductive Names (before after : Shared) : Prop where
  | add (kind : Kind) (pointer : Bool) (added : after = before.add kind pointer)
  | keep (kinds : ∀ side, after.population side = before.population side)
      (names : ∀ item, after.name item = before.name item)
      (last : ∀ side, (after.holders side).index = (before.holders side).index)

variable {before after : Shared}

theorem population_congr (names : ∀ item, after.name item = before.name item) (side : Side) :
    after.population side = before.population side := by
  have kinds : after.items.map Entry.kind = before.items.map Entry.kind := by
    refine ext_getElem? fun item => ?_
    have same := congrArg (Option.map Prod.fst) (names item)
    simpa [name, core, Option.map_map, Function.comp_def] using same
  have counted (sh : Shared) : sh.population side =
      (sh.items.map Entry.kind).countP fun kind => kind.side = side := by
    rw [countP_map]
    rfl
  rw [counted, counted, kinds]

theorem Advanced.names {t : Nat} {pc : Pc} {move : Move Shared Pc}
    (advanced : Advanced sh t pc move) : Names sh move.shared := by
  have keep (names : ∀ item, move.shared.name item = sh.name item)
      (last : ∀ side, (move.shared.holders side).index = (sh.holders side).index) :
      Names sh move.shared := .keep (population_congr names) names last
  have updated (changed side : Side) (nodes : List Item) (lock : Option Nat) :
      (Function.update sh.holders changed ⟨(sh.holders changed).index, nodes, lock⟩
        side).index = (sh.holders side).index := by
    by_cases same : side = changed
    · subst same
      simp
    · simp [same]
  cases advanced with
  | added kind free => exact .add kind true rfl
  | registered stmt ptr free => exact .add (.stmtResult stmt) ptr rfl
  | freed side item after entry here =>
    refine keep (fun other => ?_) fun side => ?_
    · rw [name, core_free sh here]
      split
      · rename_i same
        rw [same, name, core_of_here sh here]
        rfl
      · rfl
    · rw [free]
      split <;> rfl
  | searching | walking | unlocked | removed | removedNext =>
    exact keep (fun _ => rfl) fun side => updated _ side _ _
  | _ => exact keep (by simp [name]) fun side => rfl

theorem few_before (names : Names before after) (few : after.Few) : before.Few := by
  intro side
  have bound := few side
  cases names with
  | add kind ptr added =>
    rw [added, population_add] at bound
    omega
  | keep kinds _ _ => exact kinds side ▸ bound

theorem name_add (sh : Shared) (kind : Kind) (ptr : Bool) (item : Item) :
    (sh.add kind ptr).name item = if item = sh.items.length then some (kind, sh.nextIndex kind.side)
      else sh.name item := by
  rw [name, core_add]
  split
  · rfl
  · rfl

theorem Ordered.nextIndex_eq (ordered : Ordered sh) {kind : Kind} {ptr : Bool}
    (few : (sh.add kind ptr).Few) : sh.nextIndex kind.side = sh.population kind.side + 1 := by
  have bound := few kind.side
  rw [population_add, if_pos rfl] at bound
  rw [nextIndex, ordered.last, Nat.mod_eq_of_lt bound]

theorem lt_length_of_name {named : Kind × Nat} (here : sh.name item = some named) :
    item < sh.items.length := by
  by_contra outside
  simp [name, core, List.getElem?_eq_none (Nat.le_of_not_lt outside)] at here

theorem Ordered.add (ordered : Ordered sh) (kind : Kind) (ptr : Bool) (few : (sh.add kind ptr).Few)
    : Ordered (sh.add kind ptr) := by
  have next := ordered.nextIndex_eq few
  refine ⟨?_, ?_, ?_⟩
  · intro side
    rw [population_add]
    by_cases same : kind.side = side
    · subst same
      rw [if_pos rfl, ← next]
      simp [Shared.add, nextIndex]
    · rw [if_neg same, Nat.add_zero, ← ordered.last side]
      simp [Shared.add, Ne.symm same]
  · intro item other id here
    rw [name_add] at here
    rw [population_add]
    split at here
    · cases here
      rw [if_pos rfl]
      exact Nat.le_of_eq next
    · exact Nat.le_add_right_of_le (ordered.bounded item other id here)
  · intro item item' first second id id' here here' sides less
    rw [name_add] at here here'
    split at here'
    · rename_i last
      obtain ⟨rfl, rfl⟩ := Prod.mk.inj (Option.some.inj here')
      rw [if_neg (last ▸ Nat.ne_of_lt less)] at here
      have bound := ordered.bounded item first id here
      rw [sides] at bound
      omega
    · have inside := lt_length_of_name here'
      rw [if_neg (Nat.ne_of_lt (Nat.lt_trans less inside))] at here
      exact ordered.increasing _ _ _ _ _ _ here here' sides less

/-- Ids only grow, as long as the counter does not wrap. -/
theorem Ordered.step (ordered : Ordered before) (names : Names before after) (few : after.Few) :
    Ordered after := by
  cases names with
  | add kind ptr added =>
    subst added
    exact ordered.add kind ptr few
  | keep kinds names last =>
    refine ⟨fun side => ?_, ?_, ?_⟩
    · rw [last, kinds, ordered.last side]
    · intro item kind id here
      rw [names] at here
      rw [kinds]
      exact ordered.bounded item kind id here
    · intro item item' kind kind' id id' here here'
      rw [names] at here here'
      exact ordered.increasing _ _ _ _ _ _ here here'

section

variable {sh : Shared} {item : Item} {core : Core}

theorem name_of_core (here : sh.core item = some core) :
    sh.name item = some (core.kind, core.index) := by
  rw [name, here, Option.map_some]

variable {kind : Kind}

section

variable (consistent : Consistent sh)

include consistent

theorem Consistent.added_iff {id : Nat} :
    .added kind item id ∈ sh.history ↔ sh.name item = some (kind, id) := by
  rw [consistent.recorded _ rfl, Recorded, name]
  simp

theorem Consistent.freed_iff (here : sh.core item = some core) :
    .freed item ∈ sh.history ↔ item ∉ sh.nodes core.kind.side := by
  rw [consistent.recorded _ rfl, Recorded]
  simp [here]

theorem Consistent.released_iff (here : sh.core item = some core) :
    .released item ∈ sh.history ↔ core.kind.owned = true ∧ core.pointer = false := by
  rw [consistent.recorded _ rfl, Recorded]
  simp [here]

theorem Consistent.handlerPut_iff (here : sh.core item = some core) :
    .handlerPut item ∈ sh.history ↔ core.kind = .stmt2 ∧ core.pointer = false := by
  rw [consistent.recorded _ rfl, Recorded]
  simp [here]

end

theorem core_of_name {id : Nat} (here : sh.name item = some (kind, id)) :
    ∃ core, sh.core item = some core ∧ core.kind = kind ∧ core.index = id := by
  obtain ⟨core, coreHere, named⟩ := Option.map_eq_some_iff.mp here
  obtain ⟨rfl, rfl⟩ := Prod.mk.inj named
  exact ⟨core, coreHere, rfl, rfl⟩

theorem get_of_matches (consistent : Consistent sh) (ordered : Ordered sh)
    {lookup : Lookup} (mem : item ∈ sh.nodes lookup.side)
    (matched : sh.Matches lookup item) : sh.get lookup = some item := by
  obtain ⟨core, here, named, accepted⟩ := matched
  obtain ⟨_, sameHere, side⟩ := consistent.listed _ _ mem
  rw [here] at sameHere
  cases sameHere
  have hits (other : Item) (otherMember : other ∈ sh.nodes lookup.side)
      (hit : ((sh.items[other]?).any fun entry => entry.index = lookup.id) = true) :
      other = item := by
    obtain ⟨entry, entryHere, idx⟩ := (Option.any_eq_true _ _).mp hit
    obtain ⟨otherCore, otherHere, otherSide⟩ := consistent.listed _ _ otherMember
    have sameCore := core_of_here sh entryHere
    rw [otherHere] at sameCore
    cases sameCore
    have otherName := name_of_core otherHere
    have ownName := name_of_core here
    rw [named] at ownName
    rw [Entry.core_index, of_decide_eq_true idx] at otherName
    exact ordered.unique otherName ownName (otherSide.trans side.symm)
  obtain ⟨entry, entryHere, rfl⟩ := Option.map_eq_some_iff.mp here
  have found : sh.find lookup.side lookup.id = some item := by
    cases search : sh.find lookup.side lookup.id with
    | none =>
      have missed := List.find?_eq_none.mp search item mem
      rw [entryHere] at missed
      exact absurd (by simpa using named) missed
    | some other =>
      have hit := List.find?_some search
      exact congrArg some (hits other (List.mem_of_find?_eq_some search) hit)
  rw [Shared.get, found, Option.filter_some, entryHere]
  simp only [Option.any_some]
  exact if_pos accepted

end

section

variable {s : State} {t : Nat} {pc : Pc} {move : Move Shared Pc}

section

variable {sh : Shared} (consistent : Consistent sh)

include consistent

theorem allowed_added (ordered : Ordered sh) {kind : Kind} {ptr : Bool}
    (few : (sh.add kind ptr).Few) (item : Item) :
    Allowed sh.history (.added kind item (sh.nextIndex kind.side)) := by
  intro kind' item' id' added sides
  have bound := ordered.bounded _ _ _ (consistent.added_iff.mp added)
  rw [sides] at bound
  rw [ordered.nextIndex_eq few]
  omega

theorem get_iff (ordered : Ordered sh) (lookup : Lookup) (item : Item) : sh.get lookup = some item ↔
      (∃ kind, .added kind item lookup.id ∈ sh.history ∧ kind.side = lookup.side ∧
        lookup.accepts kind = true) ∧ .freed item ∉ sh.history := by
  constructor
  · intro found
    obtain ⟨mem, core, here, named, accepted⟩ := get_some found
    obtain ⟨_, sameHere, side⟩ := consistent.listed _ _ mem
    rw [here] at sameHere
    cases sameHere
    refine ⟨⟨core.kind, ?_, side, accepted⟩, ?_⟩
    · rw [consistent.added_iff, name_of_core here, named]
    · rw [consistent.freed_iff here, side]
      exact fun unlisted => unlisted mem
  · rintro ⟨⟨kind, added, side, accepted⟩, notFreed⟩
    obtain ⟨core, here, rfl, named⟩ := core_of_name (consistent.added_iff.mp added)
    rw [consistent.freed_iff here, side, not_not] at notFreed
    exact get_of_matches consistent ordered notFreed ⟨core, here, named, accepted⟩

variable {item : Item}

theorem allowed_used (points : ∃ core, sh.core item = some core ∧ core.pointer = true) :
    Allowed sh.history (.used item) := by
  obtain ⟨core, here, ptr⟩ := points
  refine ⟨?_, ?_⟩
  · rw [consistent.released_iff here, ptr]
    simp
  · rw [consistent.freed_iff here]
    intro unlisted
    rw [consistent.unlisted item core here unlisted] at ptr
    cases ptr

theorem allowed_freed {side : Side} (mem : item ∈ sh.nodes side)
    (freed : ∃ core, sh.core item = some core ∧ core.pointer = false) :
    Allowed sh.history (.freed item) := by
  obtain ⟨core, here, ptr⟩ := freed
  obtain ⟨_, sameHere, rfl⟩ := consistent.listed _ _ mem
  rw [here] at sameHere
  cases sameHere
  refine ⟨fun gone => (consistent.freed_iff here).mp gone mem, fun kind id added => ?_⟩
  have named := consistent.added_iff.mp added
  rw [name_of_core here] at named
  obtain ⟨rfl, _⟩ := Prod.mk.inj (Option.some.inj named)
  exact ⟨fun owned => (consistent.released_iff here).mpr ⟨owned, ptr⟩,
    fun isStmt2 => (consistent.handlerPut_iff here).mpr ⟨isStmt2, ptr⟩⟩

theorem justified_free (justified : Justified Allowed sh.history) {entry : Entry}
    (here : sh.items[item]? = some entry) : Justified Allowed (sh.free item entry).history := by
  have coreHere := core_of_here sh here
  rw [history_free]
  cases ptr : entry.pointer with
  | false =>
    simp only [Bool.false_eq_true, if_false, List.append_nil]
    exact justified
  | true =>
    have notReleased : Allowed sh.history (.released item) := by
      rw [Allowed, consistent.released_iff coreHere]
      simp [ptr]
    rw [if_pos rfl]
    cases entry.kind with
    | result | stmt => exact justified.snoc notReleased
    | stmtResult stmt => simpa [freeEvents] using justified
    | stmt2 =>
      have notPut : Allowed (sh.history ++ [.released item]) (.handlerPut item) := by
        rw [Allowed, mem_append, consistent.handlerPut_iff coreHere]
        simp [ptr]
      have both := (justified.snoc notReleased).snoc notPut
      rwa [append_assoc] at both

end

/-- Every event a step logs is allowed after those before it. -/
theorem justified_step (held : Held s) (ordered : Ordered s.shared)
    (justified : Justified Allowed s.shared.history) (found : s.threads[t]? = some pc)
    (advanced : Advanced s.shared t pc move) (few : move.shared.Few) :
    Justified Allowed move.shared.history := by
  have knows := held.knows t pc found
  have consistent := held.consistent
  cases advanced with
  | added | registered => exact justified.snoc (allowed_added consistent ordered few _)
  | found lookup task item free hit =>
    refine justified.snoc fun other => ?_
    rw [← hit]
    exact get_iff consistent ordered lookup other
  | missing lookup task free miss =>
    refine justified.snoc fun other => ?_
    rw [← miss]
    exact get_iff consistent ordered lookup other
  | used item task => exact justified.snoc (allowed_used consistent knows)
  | errorRead | executed => exact justified.snoc trivial
  | notFound lookup miss =>
    refine justified.snoc fun kind item added side accepted => ?_
    by_contra kept
    have hit := (get_iff consistent ordered lookup item).mpr ⟨⟨kind, added, side, accepted⟩, kept⟩
    rw [miss] at hit
    cases hit
  | walkedAll side =>
    refine justified.snoc fun kind item id added isSide => ?_
    have nodes : s.shared.nodes side = [] := List.head?_eq_none_iff.mp knows
    obtain ⟨core, here, rfl, _⟩ := core_of_name (consistent.added_iff.mp added)
    rw [consistent.freed_iff here, isSide, nodes]
    exact not_mem_nil
  | freed side item after entry here => exact justified_free consistent justified here
  | removed side item lookup =>
    obtain ⟨mem, ⟨rfl, core, here, named, accepted⟩, freed⟩ := knows
    refine (justified.snoc (allowed_freed consistent mem freed)).snoc ?_
    -- Ids are unique, so the item that was removed is the only one to be freed.
    intro kind other added side _
    have added : .added kind other lookup.id ∈ s.shared.history := by simpa using added
    obtain ⟨_, sameHere, ownSide⟩ := consistent.listed _ _ mem
    rw [here] at sameHere
    cases sameHere
    have ownName := name_of_core here
    rw [named] at ownName
    have same := ordered.unique (consistent.added_iff.mp added) ownName (side.trans ownSide.symm)
    simp [same]
  | removedNext side item next =>
    exact justified.snoc (allowed_freed consistent knows.1 knows.2.2)
  | _ => exact justified

end

structure Lawful (s : State) : Prop where
  held : Held s
  few : s.shared.Few → Ordered s.shared ∧ Justified Allowed s.shared.history

theorem lawful_of_reachable {s : State} (reached : machine.system.Reachable s) : Lawful s := by
  refine System.Reachable.invariant (fun _ initial => ?_) (fun _ _ _ lawful stepped => ?_) reached
  · obtain rfl := initial
    refine ⟨held_opened, fun _ => ⟨⟨fun side => rfl, ?_, ?_⟩, .nil⟩⟩
    · simp [name, core, opened]
    · simp [name, core, opened]
  · obtain ⟨pc, move, found, moved, rfl⟩ := Machine.next_inv stepped
    have advanced := advanced_of_advance moved
    refine ⟨lawful.held.step found advanced, fun few => ?_⟩
    obtain ⟨ordered, justified⟩ := lawful.few (few_before advanced.names few)
    exact ⟨ordered.step advanced.names few,
      justified_step lawful.held ordered justified found advanced few⟩

/-- In a session that adds fewer than 2^64 results and fewer than 2^64 statements
every event of the history is allowed, and while a list is not locked exactly
the freed items of it are released. -/
theorem history_allowed {s : State} (reached : machine.system.Reachable s) (few : s.shared.Few) :
    Justified Allowed s.shared.history ∧
      ∀ kind item id, .added kind item id ∈ s.shared.history → kind.owned = true →
        (s.shared.holders kind.side).lock = none →
          (.released item ∈ s.shared.history ↔ .freed item ∈ s.shared.history) := by
  have lawful := lawful_of_reachable reached
  refine ⟨(lawful.few few).2, fun kind item id added owned free => ?_⟩
  have consistent := lawful.held.consistent
  obtain ⟨core, here, rfl, _⟩ := core_of_name (consistent.added_iff.mp added)
  rw [consistent.released_iff here, consistent.freed_iff here]
  constructor
  · rintro ⟨_, pointer⟩ member
    obtain ⟨u, after, remover⟩ := lawful.held.removing _ item core member here owned pointer
    have holder := lawful.held.exclusive u _ (.list core.kind.side) remover
      (by simp [Pc.holds, Pc.locks])
    rw [lockAt, free] at holder
    cases holder
  · exact fun unlisted => ⟨owned, consistent.unlisted item core here unlisted⟩

/-- A result is fetched while another request frees it: the free waits for the
fetch, a later lookup finds nothing, and the result is released once. -/
theorem history_allowed_freed_result : ∃ s, machine.system.Reachable s ∧ s.shared.Few ∧
      s.shared.history = [.added .result 0 1, .got (.result 1) (some 0), .used 0, .released 0,
        .freed 0, .freedByID (.result 1), .got (.result 1) none] ∧
      Justified Allowed s.shared.history := by
  obtain ⟨s, reached, few, history⟩ : ∃ s, machine.system.Reachable s ∧
      (s.shared.population .results ≤ 1 ∧ s.shared.population .stmts ≤ 1) ∧
      s.shared.history = [.added .result 0 1, .got (.result 1) (some 0), .used 0, .released 0,
        .freed 0, .freedByID (.result 1), .got (.result 1) none] :=
    machine.system.exists_of_exec
      (.flatten [[(0, .request .query), (1, .go), (0, .request (.fetch 1))], goes 2 3,
        (0, .request (.freeResult 1)) :: goes 3 2, [(2, .use), (2, .leave)], goes 3 4,
        [(0, .request (.fetch 1)), (4, .go)]]) rfl rfl
  have few : s.shared.Few := by
    intro side
    cases side with
    | results => exact Nat.lt_of_le_of_lt few.1 (by decide)
    | stmts => exact Nat.lt_of_le_of_lt few.2 (by decide)
  exact ⟨s, reached, few, history, (history_allowed reached few).1⟩

theorem reachable_queries (count : Nat) :
    ∃ s, machine.system.Reachable s ∧ s.threads[0]? = some .requests ∧
      (s.shared.holders .results).lock = none ∧
      (s.shared.holders .results).index = count % 2 ^ 64 ∧ s.shared.items.length = count ∧
      ∀ number, number < count →
        .added .result number ((number + 1) % 2 ^ 64) ∈ s.shared.history := by
  induction count with
  | zero => exact ⟨opened, .start rfl, rfl, rfl, rfl, rfl, by simp⟩
  | succ count ih =>
    obtain ⟨s, reached, requests, free, idx, length, added⟩ := ih
    have inside := lt_of_getElem? requests
    -- One more query: the request arrives, and its result is added.
    have arrives := machine.next_of_advance (.request .query)
      ⟨s.shared, .requests, [.add .result]⟩ requests rfl
    have here : (s.apply 0 ⟨s.shared, .requests, [.add .result]⟩).threads[s.threads.length]? =
        some (.add .result) := by
      simp [Snapshot.apply]
    have adds := machine.next_of_advance .go
      ⟨s.shared.add .result true, .done, []⟩ here (by simp [machine, advance, free, Kind.side])
    refine ⟨_, (reached.step trivial arrives).step trivial adds, ?_, ?_, ?_, ?_, ?_⟩
    · exact apply_other _ (Nat.ne_of_lt inside) (apply_self _ requests)
    · exact (lockAt_add s.shared .result true (.list .results)).trans free
    · simp [Shared.add, Kind.side, idx]
    · simp [Shared.add, length]
    · intro number below
      rcases Nat.lt_succ_iff_lt_or_eq.mp below with earlier | rfl
      · exact mem_append_left _ (added number earlier)
      · simp [Shared.add, Kind.side, idx, length]

/-- After 2^64 + 1 queries the first and the last result have the same id. -/
theorem result_id_reused : ∃ s, machine.system.Reachable s ∧ .added .result 0 1 ∈ s.shared.history ∧
      .added .result (2 ^ 64) 1 ∈ s.shared.history := by
  obtain ⟨s, reached, _, _, _, _, added⟩ := reachable_queries (2 ^ 64 + 1)
  exact ⟨s, reached, added 0 (by decide), added (2 ^ 64) (by decide)⟩

end TaosAdapter.Holders
