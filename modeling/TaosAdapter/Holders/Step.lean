import TaosAdapter.Holders.Model

/-!
Owns: the inversion of the step function of the holders. `Advanced` lists every
step of every request with its guards; the invariants are case analyses over it.
-/

namespace TaosAdapter.Holders

open Lib

section

variable (sh : Shared) (t : Nat)

inductive Advanced : Pc → Move Shared Pc → Prop where
  | requested (request : Request) : Advanced .requests ⟨sh, .requests, [request.start]⟩
  | added (kind : Kind) (free : (sh.holders kind.side).lock = none) :
      Advanced (.add kind) ⟨sh.add kind true, .done, []⟩
  -- looking an item up and locking it
  | found lookup task item (free : (sh.holders lookup.side).lock = none)
      (found : sh.get lookup = some item) :
      Advanced (.get lookup task) ⟨sh.log (.got lookup (some item)), .lockItem item task, []⟩
  | missing lookup task (free : (sh.holders lookup.side).lock = none)
      (missing : sh.get lookup = none) :
      Advanced (.get lookup task) ⟨sh.log (.got lookup none), .failed lookup.missing, []⟩
  | itemLocked item task entry (here : sh.items[item]? = some entry)
      (free : entry.lock = none) :
      Advanced (.lockItem item task) ⟨sh.lockItem item (some t), .check item task, []⟩
  | checked item task entry (here : sh.items[item]? = some entry)
      (pointer : entry.pointer = true) :
      Advanced (.check item task) ⟨sh, .work item task, []⟩
  | refused item task entry (here : sh.items[item]? = some entry)
      (pointer : entry.pointer = false) :
      Advanced (.check item task) ⟨sh.lockItem item none, .failed entry.kind.freedMessage, []⟩
  -- with the item locked
  | used item task : Advanced (.work item task) ⟨sh.log (.used item), .work item task, []⟩
  | executed item result :
      Advanced (.work item (.stmt .exec))
        ⟨(sh.setResult item result).log (.executed item), .work item (.stmt .call), []⟩
  | registering item pointer :
      Advanced (.work item (.stmt .useResult)) ⟨sh, .register item pointer, []⟩
  | unavailable item :
      Advanced (.work item (.stmt .useResult)) ⟨sh, .work item (.stmt .call), []⟩
  | registered stmt pointer (free : (sh.holders .results).lock = none) :
      Advanced (.register stmt pointer)
        ⟨sh.add (.stmtResult stmt) pointer, .work stmt (.stmt .call), []⟩
  | left item task : Advanced (.work item task) ⟨sh.lockItem item none, .done, []⟩
  | completed item id :
      Advanced (.work item (.fetch id))
        ⟨sh.lockItem item none, .freeLock (.byID (.result id)), []⟩
  | fetchFailed item id :
      Advanced (.work item (.fetch id)) ⟨sh.lockItem item none, .errorStr item id, []⟩
  | errorRead item id :
      Advanced (.errorStr item id)
        ⟨sh.log (.errorStr item), .freeLock (.byID (.result id)), []⟩
  -- freeing
  | searching lookup (free : (sh.holders lookup.side).lock = none) :
      Advanced (.freeLock (.byID lookup)) ⟨sh.lockList lookup.side (some t), .search lookup, []⟩
  | walking side (free : (sh.holders side).lock = none) :
      Advanced (.freeLock (.all side))
        ⟨sh.lockList side (some t), .walk side (sh.nodes side).head?, []⟩
  | searched lookup item (found : sh.get lookup = some item) :
      Advanced (.search lookup) ⟨sh, .freeItem lookup.side item (.byID lookup), []⟩
  | notFound lookup (missing : sh.get lookup = none) :
      Advanced (.search lookup) ⟨sh.log (.freedByID lookup), .unlockList lookup.side, []⟩
  | walked side item :
      Advanced (.walk side (some item))
        ⟨sh, .freeItem side item (.walk (sh.next side item)), []⟩
  | walkedAll side : Advanced (.walk side none) ⟨sh.log (.freedAll side), .unlockList side, []⟩
  | freeLocked side item after entry (here : sh.items[item]? = some entry)
      (free : entry.lock = none) :
      Advanced (.freeItem side item after)
        ⟨sh.lockItem item (some t), .freeing side item after, []⟩
  | freed side item after entry (here : sh.items[item]? = some entry) :
      Advanced (.freeing side item after) ⟨sh.free item entry, .remove side item after, []⟩
  | removed side item lookup :
      Advanced (.remove side item (.byID lookup))
        ⟨((sh.remove side item).log (.freed item)).log (.freedByID lookup), .unlockList side, []⟩
  | removedNext side item next :
      Advanced (.remove side item (.walk next))
        ⟨(sh.remove side item).log (.freed item), .walk side next, []⟩
  | unlocked side : Advanced (.unlockList side) ⟨sh.lockList side none, .done, []⟩

end

section

variable {s : State} {t : Nat} {pc : Pc} {choice : Choice} {move : Move Shared Pc}

theorem advanced_get (moved : advanceGet s t pc choice = some move) :
    Advanced s.shared t pc move := by
  unfold advanceGet at moved
  repeat' split at moved
  all_goals cases moved
  case h_1.isTrue.refl free =>
    split
    · rename_i item found
      rw [found]
      exact .found _ _ item free found
    · rename_i missing
      rw [missing]
      exact .missing _ _ free missing
  all_goals constructor <;> first | assumption | simp_all

theorem advanced_work (moved : advanceWork s pc choice = some move) :
    Advanced s.shared t pc move := by
  unfold advanceWork at moved
  repeat' split at moved
  all_goals cases moved
  all_goals constructor <;> assumption

theorem advanced_free (moved : advanceFree s t pc choice = some move) :
    Advanced s.shared t pc move := by
  unfold advanceFree at moved
  repeat' split at moved
  all_goals cases moved
  all_goals constructor <;> assumption

theorem advanced_of_advance (moved : advance s t pc choice = some move) :
    Advanced s.shared t pc move := by
  cases pc with
  | requests =>
    cases choice with
    | request req =>
      cases moved
      exact .requested req
    | _ => cases moved
  | add kind =>
    simp only [advance] at moved
    split at moved
    · rename_i enabled
      cases moved
      exact .added kind enabled.2
    · cases moved
  | get | lockItem | check => exact advanced_get moved
  | work | errorStr | register => exact advanced_work moved
  | freeLock | search | walk | freeItem | freeing | remove | unlockList =>
    exact advanced_free moved
  | done | failed => cases moved

end

end TaosAdapter.Holders
