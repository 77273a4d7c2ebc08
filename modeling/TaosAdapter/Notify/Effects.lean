import TaosAdapter.Notify.Model
import TaosAdapter.Lib.History

/-!
Owns: what each effect does to each field of the shared record. An effect that a
lemma does not list leaves the field alone.
-/

namespace TaosAdapter.Notify

open Lib List

theorem bind_append_eq {α β : Type} (items : List α) (item : α) (project : α → Option β)
    (missing : project item = none) (idx : Nat) :
    ((items ++ [item])[idx]?).bind project = (items[idx]?).bind project := by
  rw [getElem?_append_singleton]
  by_cases last : idx = items.length
  · simp [last, missing]
  · simp [last]

theorem bind_modify_eq {α β : Type} (items : List α) (changed : Nat) (change : α → α)
    (project : α → Option β) (idx : Nat) : ((items.modify changed change)[idx]?).bind project =
      (items[idx]?).bind fun item => project (if changed = idx then change item else item) := by
  rw [List.getElem?_modify]
  cases items[idx]? <;> rfl

section

variable {α : Type} (items : List α) (changed : Nat) (change : α → α) (flag : α → Bool)
  (idx : Nat)

theorem any_append_eq (item : α) (unset : flag item = false) :
    ((items ++ [item])[idx]?).any flag = (items[idx]?).any flag := by
  rw [getElem?_append_singleton]
  by_cases last : idx = items.length
  · simp [last, unset]
  · simp [last]

theorem any_modify_eq (kept : ∀ item, flag (change item) = flag item) :
    ((items.modify changed change)[idx]?).any flag = (items[idx]?).any flag := by
  rw [List.getElem?_modify]
  cases items[idx]? with
  | none => rfl
  | some item =>
    simp only [Option.map_eq_map, Option.map_some, Option.any_some]
    split
    · exact kept item
    · rfl

theorem any_modify_set (set : ∀ item, flag (change item) = true) :
    ((items.modify changed change)[idx]?).any flag = true ↔
      (items[idx]?).any flag = true ∨ changed = idx ∧ idx < items.length := by
  rw [List.getElem?_modify]
  by_cases inside : idx < items.length
  · rw [List.getElem?_eq_getElem inside]
    by_cases same : changed = idx
    · simp [same, set, inside]
    · simp [same]
  · rw [List.getElem?_eq_none (Nat.le_of_not_lt inside)]
    simp [inside]

end

variable (sh : Shared) (effect : Effect)

theorem locks_apply : (sh.apply effect).locks = match effect with
      | .lock key th => Function.update sh.locks key (some th)
      | .unlock key => Function.update sh.locks key none
      | _ => sh.locks := by
  cases effect <;> rfl

theorem handles_apply : (sh.apply effect).handles = match effect with
      | .fresh owner kind => sh.handles ++ [⟨kind, none, true, some owner⟩]
      | .discard handle | .receive _ _ handle _ => sh.handles.modify handle fun entry =>
        { entry with channel := none }
      | .hold owner _ handle => sh.handles.modify handle fun entry =>
        { entry with holder := some owner }
      | .give _ kind handle => sh.handles.modify handle fun entry =>
        { entry with
          holder := none
          valid := entry.valid && decide ((sh.handlePool kind).length < poolSize) }
      | .send handle conn => sh.handles.modify handle fun entry =>
        { entry with channel := some conn }
      | _ => sh.handles := by
  cases effect <;> rfl

theorem handlePool_apply : (sh.apply effect).handlePool = match effect with
      | .pop kind => Function.update sh.handlePool kind (sh.handlePool kind).tail
      | .give _ kind handle => if decide ((sh.handlePool kind).length < poolSize) then
          Function.update sh.handlePool kind (sh.handlePool kind ++ [handle]) else sh.handlePool
      | _ => sh.handlePool := by
  cases effect <;> rfl

theorem sessions_apply : (sh.apply effect).sessions = match effect with
      | .newSession => sh.sessions ++ [⟨none, none, false, false⟩]
      | .ready session handles => sh.sessions.modify session fun entry =>
        { entry with handles := some handles }
      | .connected session conn => sh.sessions.modify session fun entry =>
        { entry with conn := some conn }
      | .setClosed session => sh.sessions.modify session fun entry =>
        { entry with closed := true }
      | .exit session => sh.sessions.modify session fun entry => { entry with exit := true }
      | _ => sh.sessions := by
  cases effect <;> rfl

theorem conns_apply : (sh.apply effect).conns = match effect with
      | .connect owner => sh.conns ++ [⟨owner, true, []⟩]
      | .register _ kind handle conn => sh.conns.modify conn fun entry =>
        { entry with registered := (kind, handle) :: entry.registered }
      | .close _ conn | .closeIdle _ conn => sh.conns.modify conn fun entry =>
        { entry with isOpen := false }
      | _ => sh.conns := by
  cases effect <;> rfl

theorem pools_apply : (sh.apply effect).pools = match effect with
      | .newPool user pass => sh.pools ++ [⟨user, pass, false, false, [], false, false⟩]
      | .takeIdle pool | .closeIdle pool _ => sh.pools.modify pool fun entry =>
        { entry with idle := entry.idle.tail }
      | .putIdle pool conn => sh.pools.modify pool fun entry =>
        { entry with idle := entry.idle ++ [conn] }
      | .start pool => sh.pools.modify pool fun entry => { entry with started := true }
      | .store _ pool => sh.pools.modify pool fun entry => { entry with stored := true }
      | .cancel pool => sh.pools.modify pool fun entry => { entry with cancelled := true }
      | .release pool => sh.pools.modify pool fun entry => { entry with released := true }
      | _ => sh.pools := by
  cases effect <;> rfl

theorem mapped_before {user : Bytes} {pool : Nat}
    (mapped : (sh.apply effect).connectionMap user = some pool) :
    sh.connectionMap user = some pool ∨ effect = .store user pool := by
  cases effect with
  | store other stored =>
    by_cases same : user = other
    · subst same
      simp only [Shared.apply, Function.update_self, Option.some.injEq] at mapped
      exact .inr (by rw [mapped])
    · simp only [Shared.apply, Function.update_of_ne same] at mapped
      exact .inl mapped
  | forget other =>
    left
    simp only [Shared.apply, Shared.forget] at mapped
    cases here : sh.pools[other]? with
    | none => simpa only [here] using mapped
    | some entry =>
      simp only [here] at mapped
      split at mapped
      · by_cases same : user = entry.user
        · rw [same, Function.update_self] at mapped
          cases mapped
        · rwa [Function.update_of_ne same] at mapped
      · exact mapped
  | _ => exact .inl mapped

variable (pool : Nat)

theorem isStarted_apply : (sh.apply effect).isStarted pool = true ↔
      sh.isStarted pool = true ∨ effect = .start pool ∧ pool < sh.pools.length := by
  unfold Shared.isStarted
  rw [pools_apply]
  cases effect with
  | newPool => simp [any_append_eq]
  | takeIdle | putIdle | closeIdle | store | cancel | release => simp [any_modify_eq]
  | start other => simp [any_modify_set]
  | _ => simp

theorem isCancelled_apply : (sh.apply effect).isCancelled pool = true ↔
      sh.isCancelled pool = true ∨ effect = .cancel pool ∧ pool < sh.pools.length := by
  unfold Shared.isCancelled
  rw [pools_apply]
  cases effect with
  | newPool => simp [any_append_eq]
  | takeIdle | putIdle | closeIdle | store | start | release => simp [any_modify_eq]
  | cancel other => simp [any_modify_set]
  | _ => simp

theorem isReleased_apply : (sh.apply effect).isReleased pool = true ↔
      sh.isReleased pool = true ∨ effect = .release pool ∧ pool < sh.pools.length := by
  unfold Shared.isReleased
  rw [pools_apply]
  cases effect with
  | newPool => simp [any_append_eq]
  | takeIdle | putIdle | closeIdle | store | start | cancel => simp [any_modify_eq]
  | release other => simp [any_modify_set]
  | _ => simp

theorem isClosed_apply (session : Nat) : (sh.apply effect).isClosed session = true ↔
      sh.isClosed session = true ∨ effect = .setClosed session ∧ session < sh.sessions.length := by
  unfold Shared.isClosed
  rw [sessions_apply]
  cases effect with
  | newSession => simp [any_append_eq]
  | ready | connected | exit => simp [any_modify_eq]
  | setClosed other => simp [any_modify_set]
  | _ => simp

theorem isExited_apply (session : Nat) : (sh.apply effect).isExited session = true ↔
      sh.isExited session = true ∨ effect = .exit session ∧ session < sh.sessions.length := by
  unfold Shared.isExited
  rw [sessions_apply]
  cases effect with
  | newSession => simp [any_append_eq]
  | ready | connected | setClosed => simp [any_modify_eq]
  | exit other => simp [any_modify_set]
  | _ => simp

def Effect.events (sh : Shared) : Effect → List Event
  | .fresh owner kind => [.taken owner kind sh.handles.length]
  | .hold owner kind handle => [.taken owner kind handle]
  | .give owner kind handle => [.put owner kind handle]
  | .send handle conn => [.sent handle conn]
  | .receive owner kind _ conn => [.received owner kind conn]
  | .call owner conn => [.called owner conn]
  | .register owner kind handle conn => [.called owner conn, .registered owner kind handle conn]
  | .close owner conn => [.closed owner conn]
  | .closeIdle pool conn => [.closed (.pool pool) conn]
  | _ => []

theorem history_apply : (sh.apply effect).history = sh.history ++ effect.events sh := by
  cases effect with
  | register owner kind handle conn => simp [Shared.apply, Shared.log, Effect.events,
      Shared.modifyConn]
  | _ =>
    first
    | rfl
    | exact (List.append_nil _).symm

theorem justified_apply {sh : Shared} {effect : Effect}
    {allowed : List Event → Event → Prop} (justified : Justified allowed sh.history)
    (events : ∀ event ∈ effect.events sh, allowed sh.history event)
    (registrations : ∀ before owner kind handle conn,
      allowed before (.registered owner kind handle conn)) :
    Justified allowed (sh.apply effect).history := by
  rw [history_apply]
  cases effect with
  | register owner kind handle conn =>
    have called : Justified allowed (sh.history ++ [.called owner conn]) :=
      justified.snoc (events _ mem_cons_self)
    have both : Justified allowed (sh.history ++ [.called owner conn] ++
        [.registered owner kind handle conn]) := called.snoc (registrations _ _ _ _ _)
    rwa [append_assoc] at both
  | fresh | hold | give | send | receive | call | close | closeIdle =>
    exact justified.snoc (events _ mem_cons_self)
  | _ =>
    simp only [Effect.events, List.append_nil]
    exact justified

end TaosAdapter.Notify
