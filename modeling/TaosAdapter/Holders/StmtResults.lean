import TaosAdapter.Holders.Lifetimes

/-!
Owns: the results of statements. `use_result` puts the result of a statement
into the holder of the results, under an id of its own and with no link back. A
fetch of that id gives the result to the client library whatever became of the
statement; the library has invalidated it when the statement was closed or
executed again.
-/

namespace TaosAdapter.Holders

open Lib List Snapshot
open Shared

/-- The item is a result of a statement that was closed, or that was executed
again after the result was taken from it. -/
def Outlived (history : List Event) (item : Item) : Prop :=
  ∃ stmt id earlier later, history = earlier ++ .added (.stmtResult stmt) item id :: later ∧
    (.released stmt ∈ history ∨ .executed stmt ∈ later)

def Event.reads : Event → Option Item
  | .used item | .errorStr item => some item
  | _ => none

def UsesValid (before : List Event) (event : Event) : Prop :=
  ∀ item ∈ event.reads, ¬ Outlived before item

def Pc.failedFetch : Pc → Option Item
  | .errorStr item _ => some item
  | _ => none

/-- What the item points to can still be given to the client library: the item
has not been freed, or a fetch of it failed and has the error to read. -/
def Usable (s : State) (item : Item) : Prop :=
  (∃ core ∈ s.shared.core item, core.pointer = true) ∨
    ∃ pc ∈ s.threads, pc.failedFetch = some item

def Pc.ends : Pc → Choice → Option Item
  | .work item (.stmt .exec), .exec _ => some item
  | .freeing _ item _, .go => some item
  | _, _ => none

def ResultsFreed (s : State) (label : Nat × Choice) : Prop :=
  ∀ pc ∈ s.threads[label.1]?, ∀ stmt ∈ pc.ends label.2,
    ∀ item < s.shared.items.length, ∀ core ∈ s.shared.core item,
      core.kind = .stmtResult stmt → ¬ Usable s item

instance (s : State) (label : Nat × Choice) : Decidable (ResultsFreed s label) := by
  unfold ResultsFreed Usable
  infer_instance

def Event.concerns : Event → Bool
  | .added _ _ _ | .released _ | .executed _ => true
  | _ => false

theorem Outlived.added {history : List Event} {item : Item} (outlived : Outlived history item) :
    ∃ stmt id, .added (.stmtResult stmt) item id ∈ history := by
  obtain ⟨stmt, id, earlier, later, rfl, _⟩ := outlived
  exact ⟨stmt, id, by simp⟩

theorem not_outlived_snoc {history : List Event} {event : Event} {item : Item}
    (valid : ¬ Outlived history item)
    (ends : ∀ stmt id, .added (.stmtResult stmt) item id ∈ history →
      event ≠ .released stmt ∧ event ≠ .executed stmt)
    (added : ∀ stmt id, event = .added (.stmtResult stmt) item id → .released stmt ∉ history) :
    ¬ Outlived (history ++ [event]) item := by
  rintro ⟨stmt, id, earlier, later, split, ended⟩
  rcases append_singleton_split split with ⟨rfl, rfl⟩ | ⟨rest, inside⟩
  · -- The result is the last event: nothing comes after it.
    obtain rfl : later = [] := by simpa using split
    rcases ended with released | executed
    · exact added stmt id rfl (by simpa using released)
    · cases executed
  · have mem : .added (.stmtResult stmt) item id ∈ history := by
      rw [inside]
      simp
    obtain ⟨notReleased, notExecuted⟩ := ends stmt id mem
    obtain rfl : later = rest ++ [event] := by
      rw [inside, append_assoc, cons_append] at split
      exact (List.cons.inj (append_cancel_left split)).2.symm
    refine valid ⟨stmt, id, earlier, rest, inside, ?_⟩
    rcases ended with released | executed
    · rcases mem_append.mp released with before | last
      · exact .inl before
      · exact absurd (mem_singleton.mp last).symm notReleased
    · rcases mem_append.mp executed with before | last
      · exact .inr before
      · exact absurd (mem_singleton.mp last).symm notExecuted

/-- No result that is still usable has outlived its statement, and none was used
that had. -/
structure Valid (usable : Item → Prop) (history : List Event) : Prop where
  kept : ∀ item, usable item → ¬ Outlived history item
  justified : Justified UsesValid history

section

variable {usable : Item → Prop} {history : List Event} (valid : Valid usable history)

include valid

theorem Valid.log (event : Event) (quiet : event.concerns = false)
    (reads : UsesValid history event) : Valid usable (history ++ [event]) := by
  refine ⟨fun item here => ?_, valid.justified.snoc reads⟩
  refine not_outlived_snoc (valid.kept item here) (fun stmt id _ => ⟨?_, ?_⟩) ?_
  · rintro rfl
    cases quiet
  · rintro rfl
    cases quiet
  · rintro stmt id rfl
    cases quiet

theorem Valid.add (kind : Kind) (item : Item) (id : Nat)
    (opened : ∀ stmt, kind = .stmtResult stmt → .released stmt ∉ history) :
    Valid usable (history ++ [.added kind item id]) := by
  refine ⟨fun other here => ?_, valid.justified.snoc (by simp [UsesValid, Event.reads])⟩
  refine not_outlived_snoc (valid.kept other here) (fun _ _ _ => ⟨by simp, by simp⟩) ?_
  intro stmt _ same
  exact opened stmt (Event.added.inj same).1

theorem Valid.ended {stmt : Item} {event : Event}
    (ends : event = .released stmt ∨ event = .executed stmt)
    (freed : ∀ item id, usable item → .added (.stmtResult stmt) item id ∉ history) :
    Valid usable (history ++ [event]) := by
  refine ⟨fun item here => ?_, valid.justified.snoc ?_⟩
  · refine not_outlived_snoc (valid.kept item here) (fun other id mem => ⟨?_, ?_⟩) ?_
    · rintro rfl
      rcases ends with same | same
      · exact freed item id here (Event.released.inj same ▸ mem)
      · cases same
    · rintro rfl
      rcases ends with same | same
      · cases same
      · exact freed item id here (Event.executed.inj same ▸ mem)
    · rintro other id rfl
      rcases ends with same | same <;> cases same
  · rcases ends with rfl | rfl <;> simp [UsesValid, Event.reads]

theorem Valid.free (freed : Item) (kind : Kind)
    (results : ∀ item id, usable item → .added (.stmtResult freed) item id ∉ history) :
    Valid usable (history ++ freeEvents freed kind) := by
  cases kind with
  | result | stmt => exact valid.ended (.inl rfl) results
  | stmtResult stmt => simpa [freeEvents] using valid
  | stmt2 =>
    -- The callback handle goes back after the statement is closed.
    have closed := valid.ended (.inl rfl) results
    have both := closed.log (.handlerPut freed) rfl (by simp [UsesValid, Event.reads])
    rwa [append_assoc] at both

end

section

variable {s : State} {t : Nat} {pc : Pc} {choice : Choice} {move : Move Shared Pc} {item : Item}

theorem ends_executed {res : Option Bool} (moved : advance s t (.work item (.stmt .exec)) choice =
      some ⟨(s.shared.setResult item res).log (.executed item), .work item (.stmt .call), []⟩) :
    Pc.ends (.work item (.stmt .exec)) choice = some item := by
  cases choice with
  | exec res => rfl
  | _ => simp [advance, advanceWork] at moved

theorem ends_freed {side : Side} {after : After}
    (moved : advance s t (.freeing side item after) choice = some move) :
    Pc.ends (.freeing side item after) choice = some item := by
  cases choice with
  | go => rfl
  | _ => cases moved

/-- A step makes nothing usable but the result it adds. -/
theorem Usable.before (held : Held s) (found : s.threads[t]? = some pc)
    (advanced : Advanced s.shared t pc move) (usable : Usable (s.apply t move) item) :
    Usable s item ∨ s.shared.core item = none := by
  rcases usable with ⟨core, here, points⟩ | ⟨other, mem, failed⟩
  · cases before : s.shared.core item with
    | none => exact .inr rfl
    | some known =>
      refine .inl (.inl ⟨known, before, ?_⟩)
      have here : move.shared.core item = some core := here
      rcases advanced.core_eq before with same | ⟨_, freed⟩
      · rw [same] at here
        cases here
        exact points
      · rw [freed] at here
        cases here
        cases points
  · rcases mem_apply mem with same | rfl | spawned
    · exact .inl (.inr ⟨other, same, failed⟩)
    · have knows := held.knows t pc found
      cases advanced with
      | fetchFailed =>
        cases failed
        exact .inl (.inl knows)
      | _ => cases failed
    · cases advanced with
      | requested request =>
        obtain rfl := mem_singleton.mp spawned
        cases request <;> cases failed
      | _ => cases spawned

/-- Only the end of a statement makes its results outlive it, and then none of
them is usable. -/
theorem Valid.step (valid : Valid (Usable s) s.shared.history) (held : Held s)
    (found : s.threads[t]? = some pc) (moved : advance s t pc choice = some move)
    (met : ResultsFreed s (t, choice)) :
    Valid (Usable (s.apply t move)) move.shared.history := by
  have knows := held.knows t pc found
  have consistent := held.consistent
  have advanced := advanced_of_advance moved
  -- An item that is usable after the step is known to the history only if it was before.
  have named {item : Item} {kind : Kind} {id : Nat} (usable : Usable (s.apply t move) item)
      (added : .added kind item id ∈ s.shared.history) :
      Usable s item ∧ ∃ core, s.shared.core item = some core ∧ core.kind = kind := by
    obtain ⟨core, here, kind, _⟩ := core_of_name (consistent.added_iff.mp added)
    rcases usable.before held found advanced with before | missing
    · exact ⟨before, core, here, kind⟩
    · rw [here] at missing
      cases missing
  have kept : Valid (Usable (s.apply t move)) s.shared.history := by
    refine ⟨fun item usable outlived => ?_, valid.justified⟩
    obtain ⟨stmt, id, added⟩ := outlived.added
    exact valid.kept item (named usable added).1 outlived
  have results {stmt : Item} (ends : pc.ends choice = some stmt) (item : Item) (id : Nat)
      (usable : Usable (s.apply t move) item) :
      .added (.stmtResult stmt) item id ∉ s.shared.history := by
    intro added
    obtain ⟨before, core, here, kind⟩ := named usable added
    exact met pc found stmt ends item (lt_of_core here) core here kind before
  cases advanced with
  | added kind free =>
    refine kept.add kind _ _ fun stmt isResult => ?_
    rw [isResult] at knows
    cases knows
  | registered stmt ptr free =>
    refine kept.add (.stmtResult stmt) _ _ fun other same => ?_
    obtain rfl := Kind.stmtResult.inj same
    obtain ⟨core, here, points⟩ := knows
    rw [consistent.released_iff here, points]
    simp
  | used item task =>
    refine kept.log _ rfl fun other same => ?_
    cases same
    exact valid.kept item (.inl knows)
  | errorRead item id =>
    refine kept.log _ rfl fun other same => ?_
    cases same
    exact valid.kept item (.inr ⟨_, mem_of_getElem? found, rfl⟩)
  | executed item res => exact kept.ended (.inr rfl) (results (ends_executed moved))
  | freed side item after entry here =>
    rw [history_free]
    split
    · exact kept.free item entry.kind (results (ends_freed moved))
    · simpa using kept
  | found | missing | notFound | walkedAll | removedNext =>
    exact kept.log _ rfl (by simp [UsesValid, Event.reads])
  | removed side item lookup =>
    have removed := kept.log (.freed item) rfl (by simp [UsesValid, Event.reads])
    exact removed.log (.freedByID lookup) rfl (by simp [UsesValid, Event.reads])
  | _ => exact kept

end

/-- A state of a session that closes and executes statements only when none of
their results is usable. -/
structure Fresh (s : State) : Prop where
  held : Held s
  valid : Valid (Usable s) s.shared.history

theorem fresh_of_reachable {s : State} (reached : machine.system.ReachableUnder ResultsFreed s) :
    Fresh s := by
  refine System.ReachableUnder.invariant (fun _ initial => ?_)
    (fun _ _ _ fresh met stepped => ?_) reached
  · obtain rfl := initial
    exact ⟨held_opened, by simp [Usable, core, opened, Pc.failedFetch], .nil⟩
  · obtain ⟨pc, move, found, moved, rfl⟩ := Machine.next_inv stepped
    exact ⟨fresh.held.step found (advanced_of_advance moved),
      fresh.valid.step fresh.held found moved met⟩

/-- A statement is made, executed, and its result taken. -/
def resultTaken (isStmt2 : Bool) : List (Nat × Choice) :=
  .flatten [[(0, .request (.stmtInit isStmt2)), (1, .go), (0, .request (.stmt isStmt2 1 .exec))],
    goes 2 3, [(2, .exec (some true)), (2, .leave), (0, .request (.stmt isStmt2 1 .useResult))],
    goes 3 3, [(3, .useResult true), (3, .go), (3, .leave)]]

/-- What `resultTaken` records before the result. -/
def takenEvents (isStmt2 : Bool) : List Event :=
  [.added (if isStmt2 then .stmt2 else .stmt) 0 1, .got (.stmt isStmt2 1) (some 0), .executed 0,
    .got (.stmt isStmt2 1) (some 0)]

end TaosAdapter.Holders
