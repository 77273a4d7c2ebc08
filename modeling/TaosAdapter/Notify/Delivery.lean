import TaosAdapter.Notify.Debts

/-!
Owns: who receives a notification. A callback sends to the channel its handle
stands for when it comes to send. A handle is given back while the connection it
was registered for can still be open, or while a callback for it is on its way;
who takes the handle next receives the notification of that connection.
-/

namespace TaosAdapter.Notify

open Lib List Option Snapshot

def Thread.callsBack (handle : Handle) : Thread → Bool
  | .callback other _ pc => other = handle && pc ≠ .done
  | _ => false

def Detached (s : State) (handle : Handle) : Prop :=
  (∀ entry ∈ s.shared.conns, entry.isOpen = true → ∀ pair ∈ entry.registered, pair.2 ≠ handle) ∧
    ∀ th ∈ s.threads, th.callsBack handle = false

instance (s : State) (handle : Handle) : Decidable (Detached s handle) := by
  unfold Detached
  infer_instance

/-- A handle is given back only when the connections it is registered for are
closed and no callback with it is on its way. -/
def GivesDetached (s : State) (label : Nat × Choice) : Prop :=
  ∀ th ∈ s.threads[label.1]?, ∀ handle ∈ th.gives, Detached s handle

instance (s : State) (label : Nat × Choice) : Decidable (GivesDetached s label) := by
  unfold GivesDetached
  infer_instance

def Delivers (before : List Event) : Event → Prop
  | .received owner kind conn => ∃ handle, .registered owner kind handle conn ∈ before
  | _ => True

def Event.registrant (conn : Conn) : Event → Option Owner
  | .registered owner _ _ other => if other = conn then some owner else none
  | _ => none

section

variable {sh : Shared} {effect : Effect} {conn : Conn}

theorem conn_before {entry : Connection} (here : (sh.apply effect).conns[conn]? = some entry) :
    entry.registered = [] ∧ (∃ owner, effect = .connect owner) ∨
      ∃ old, sh.conns[conn]? = some old ∧ entry.owner = old.owner ∧
        (entry.isOpen = true → old.isOpen = true) ∧
        ∀ kind handle, (kind, handle) ∈ entry.registered → (kind, handle) ∈ old.registered ∨
          ∃ owner, effect = .register owner kind handle conn := by
  rw [conns_apply] at here
  cases effect with
  | connect owner =>
    simp only [getElem?_append_singleton] at here
    split at here
    · cases here
      exact .inl ⟨rfl, owner, rfl⟩
    · exact .inr ⟨entry, here, rfl, id, fun _ _ => .inl⟩
  | register owner kind handle registered =>
    right
    simp only [List.getElem?_modify] at here
    obtain ⟨old, before, rfl⟩ := map_eq_some_iff.mp here
    refine ⟨old, before, ?_⟩
    by_cases same : registered = conn
    · subst same
      simp only [if_true]
      refine ⟨trivial, id, fun newKind newHandle mem => ?_⟩
      rcases mem_cons.mp mem with new | old
      · obtain ⟨rfl, rfl⟩ := Prod.mk.inj new
        exact .inr ⟨owner, rfl⟩
      · exact .inl old
    · simp only [if_neg same]
      exact ⟨trivial, id, fun _ _ => .inl⟩
  | close owner closed | closeIdle owner closed =>
    right
    simp only [List.getElem?_modify] at here
    obtain ⟨old, before, rfl⟩ := map_eq_some_iff.mp here
    refine ⟨old, before, ?_⟩
    split
    · exact ⟨rfl, fun isOpen => (by cases isOpen), fun _ _ => .inl⟩
    · exact ⟨rfl, id, fun _ _ => .inl⟩
  | _ => exact .inr ⟨entry, here, rfl, id, fun _ _ => .inl⟩

theorem conn_after (effect : Effect) {old : Connection} (before : sh.conns[conn]? = some old) :
    ∃ entry, (sh.apply effect).conns[conn]? = some entry ∧ entry.owner = old.owner ∧
      ∀ pair ∈ old.registered, pair ∈ entry.registered := by
  have inside := lt_of_getElem? before
  rw [conns_apply]
  cases effect with
  | connect owner =>
    exact ⟨old, by rw [List.getElem?_append_left inside, before], rfl, fun _ => id⟩
  | register owner kind handle registered =>
    refine ⟨_, by rw [List.getElem?_modify, before]; rfl, ?_⟩
    split
    · exact ⟨rfl, fun pair => mem_cons_of_mem _⟩
    · exact ⟨rfl, fun _ => id⟩
  | close owner closed | closeIdle owner closed =>
    refine ⟨_, by rw [List.getElem?_modify, before]; rfl, ?_⟩
    split
    · exact ⟨rfl, fun _ => id⟩
    · exact ⟨rfl, fun _ => id⟩
  | _ => exact ⟨old, before, rfl, fun _ => id⟩

theorem channel_before {handle : Handle} (arrived : (sh.apply effect).channel handle = some conn) :
    sh.channel handle = some conn ∨ effect = .send handle conn := by
  unfold Shared.channel at arrived ⊢
  rw [handles_apply] at arrived
  cases effect with
  | fresh owner kind => exact .inl (by rwa [bind_append_eq _ _ _ rfl handle] at arrived)
  | discard other | receive _ _ other _ =>
    rw [bind_modify_eq] at arrived
    obtain ⟨entry, here, content⟩ := bind_eq_some_iff.mp arrived
    split at content
    · cases content
    · exact .inl (by rw [here, bind_some, content])
  | send other sent =>
    rw [bind_modify_eq] at arrived
    obtain ⟨entry, here, content⟩ := bind_eq_some_iff.mp arrived
    split at content
    · rename_i same
      cases content
      exact .inr (by rw [same])
    · exact .inl (by rw [here, bind_some, content])
  | hold owner kind other | give owner kind other =>
    rw [bind_modify_eq] at arrived
    obtain ⟨entry, here, content⟩ := bind_eq_some_iff.mp arrived
    refine .inl ?_
    rw [here, bind_some]
    split at content
    · exact content
    · exact content
  | _ => exact .inl arrived

end

structure Wired (s : State) : Prop where
  accounted : Accounted s
  attached : ∀ (conn : Conn) (entry : Connection) kind handle, s.shared.conns[conn]? = some entry →
    entry.isOpen = true → (kind, handle) ∈ entry.registered →
      s.shared.holding handle = some (kind, some entry.owner)
  inFlight : ∀ (t : Nat) handle conn pc, s.threads[t]? = some (.callback handle conn pc) →
    pc ≠ .done → ∃ entry kind, s.shared.conns[conn]? = some entry ∧
      (kind, handle) ∈ entry.registered ∧ s.shared.holding handle = some (kind, some entry.owner)
  arrived : ∀ handle conn kind owner, s.shared.channel handle = some conn →
    s.shared.holding handle = some (kind, some owner) →
      ∃ entry, s.shared.conns[conn]? = some entry ∧ entry.owner = owner ∧
        (kind, handle) ∈ entry.registered
  registered : ∀ (conn : Conn) (entry : Connection) kind handle,
    s.shared.conns[conn]? = some entry →
    (kind, handle) ∈ entry.registered →
      .registered entry.owner kind handle conn ∈ s.shared.history
  settingUp : ∀ (t : Nat) th owner handles conn, s.threads[t]? = some th →
    th.settingUp = some (owner, handles, conn) →
      ∃ entry, s.shared.conns[conn]? = some entry ∧ entry.owner = owner
  justified : Justified Delivers s.shared.history

section

variable {s : State} {t : Nat} {th next : Thread} {effect : Effect} {spawned : List Thread}
  {handle : Handle} {conn : Conn} {kind : Kind} {owner : Owner} {handles : Handles}

theorem Accounted.held_of_settingUp (accounted : Accounted s) (found : s.threads[t]? = some th)
    (settingUp : th.settingUp = some (owner, handles, conn)) (mem : (kind, handle) ∈ handles) :
    s.shared.holding handle = some (kind, some owner) := by
  cases th with
  | create pool user pass pc =>
    cases pc with
    | setup old made v rest =>
      cases settingUp
      exact accounted.held_of_owes found rfl mem
    | _ => cases settingUp
  | connect session pc =>
    cases pc with
    | setup made v rest =>
      cases settingUp
      -- The handles are with the session until it is connected.
      obtain ⟨unconnected, known⟩ := accounted.sectioned.knows t _ found
      refine accounted.placed (kind, handle) (some (.session session)) ?_
      have pending : s.shared.pending (.session session) = handles := by
        simp [Shared.pending, unconnected, known]
      have pos := count_pos_iff.mpr mem
      simp only [places, owed, pending]
      omega
    | _ => cases settingUp
  | _ => cases settingUp

theorem leaves_holder (ungiven : ∀ giver kind, effect ≠ .give giver kind handle) (kind : Kind)
    (owner : Owner) : effect.leaves (kind, handle) (some owner) = 0 := by
  cases effect with
  | give giver given handed =>
    refine if_neg fun same => ?_
    exact ungiven giver given (by rw [(Prod.mk.inj same.2).2])
  | _ => simp [Effect.leaves]

theorem Planned.holding_before (planned : Planned s.shared t th effect next spawned)
    (held : (s.shared.apply effect).holding handle = some (kind, some owner))
    (channel : s.shared.channel handle = some conn) :
    s.shared.holding handle = some (kind, some owner) := by
  rw [holding_apply] at held
  cases effect with
  | fresh taker made =>
    simp only at held
    split at held
    · rename_i last
      simp [last, Shared.channel] at channel
    · exact held
  | hold taker taken drained =>
    simp only at held
    split at held
    · rename_i same
      rw [same, planned.doneBy.1] at channel
      cases channel
    · exact held
  | give giver given handed =>
    simp only at held
    split at held
    · obtain ⟨old, _, isFree⟩ := map_eq_some_iff.mp held
      cases (Prod.mk.inj isFree).2
    · exact held
  | _ => exact held

variable {pc : CallbackPc}

theorem Planned.callback_own (planned : Planned s.shared t th effect next spawned)
    (own : next = .callback handle conn pc) (waiting : pc ≠ .done) :
    ∃ before, th = .callback handle conn before ∧ before ≠ .done := by
  cases planned with
  | callbackValue other sent =>
    cases own
    exact ⟨.value, rfl, by simp⟩
  | callbackPanics | callbackSent =>
    cases own
    exact absurd rfl waiting
  | _ => cases own

theorem Planned.settingUp_own (planned : Planned s.shared t th effect next spawned)
    (settingUp : next.settingUp = some (owner, handles, conn)) :
    th.settingUp = some (owner, handles, conn) ∨
      effect = .connect owner ∧ conn = s.shared.conns.length := by
  cases planned with
  | createConnected | connectConnected =>
    cases settingUp
    exact .inr ⟨rfl, rfl⟩
  | createSetUp | connectSetUp => exact .inl settingUp
  | _ => cases settingUp

variable (wired : Wired s) (found : s.threads[t]? = some th)
  (planned : Planned s.shared t th effect next spawned)

include wired found planned

variable {entry : Connection}

theorem Wired.registers (isRegister : effect = .register owner kind handle conn)
    (here : s.shared.conns[conn]? = some entry) :
    entry.owner = owner ∧ s.shared.holding handle = some (kind, some owner) := by
  subst isRegister
  obtain ⟨handles, settingUp, own⟩ := planned.doneBy
  obtain ⟨same, sameHere, isOwner⟩ := wired.settingUp t th _ _ _ found settingUp
  cases here.symm.trans sameHere
  exact ⟨isOwner, wired.accounted.held_of_settingUp found settingUp own⟩

theorem Wired.attached_step (met : ∀ handle ∈ th.gives, Detached s handle)
    (here : (s.shared.apply effect).conns[conn]? = some entry) (isOpen : entry.isOpen = true)
    (mem : (kind, handle) ∈ entry.registered) :
    (s.shared.apply effect).holding handle = some (kind, some entry.owner) := by
  rcases conn_before here with ⟨new, _⟩ | ⟨old, before, owner, wasOpen, registered⟩
  · rw [new] at mem
    cases mem
  · rw [owner]
    rcases registered kind handle mem with known | ⟨registrant, isRegister⟩
    · refine wired.accounted.holding_kept found planned
        (wired.attached conn old kind handle before (wasOpen isOpen) known) (leaves_holder ?_ _ _)
      rintro giver givenKind rfl
      exact (met handle planned.doneBy.1).1 old (mem_of_getElem? before)
        (wasOpen isOpen) _ known rfl
    · obtain ⟨isOwner, held⟩ := wired.registers found planned isRegister before
      rw [isRegister, holding_still s.shared rfl, isOwner]
      exact held

theorem Wired.inFlight_kept (met : ∀ handle ∈ th.gives, Detached s handle) {u : Nat}
    (here : s.threads[u]? = some (.callback handle conn pc)) (waiting : pc ≠ .done) :
    ∃ entry kind, (s.shared.apply effect).conns[conn]? = some entry ∧
      (kind, handle) ∈ entry.registered ∧
      (s.shared.apply effect).holding handle = some (kind, some entry.owner) := by
  obtain ⟨old, kind, before, mem, held⟩ := wired.inFlight u handle conn pc here waiting
  obtain ⟨entry, after, owner, registered⟩ := conn_after effect before
  refine ⟨entry, kind, after, registered _ mem, ?_⟩
  rw [owner]
  refine wired.accounted.holding_kept found planned held (leaves_holder ?_ _ _)
  rintro giver givenKind rfl
  have silent := (met handle planned.doneBy.1).2 _ (mem_of_getElem? here)
  simp [Thread.callsBack, waiting] at silent

omit found in
theorem Wired.inFlight_new (mem : .callback handle conn pc ∈ spawned) :
    ∃ entry kind, (s.shared.apply effect).conns[conn]? = some entry ∧
      (kind, handle) ∈ entry.registered ∧
      (s.shared.apply effect).holding handle = some (kind, some entry.owner) := by
  cases planned with
  | raised raisedConn kind raisedHandle registration =>
    obtain ⟨rfl, rfl, rfl⟩ := Thread.callback.inj (mem_singleton.mp mem)
    obtain ⟨entry, here, lookup⟩ := bind_eq_some_iff.mp registration
    split at lookup
    · rename_i isOpen
      exact ⟨entry, kind, here, mem_of_lookup lookup,
        wired.attached conn entry kind handle here isOpen (mem_of_lookup lookup)⟩
    · cases lookup
  | requested | called | sessionOpened | connectRequested | closeRequested | createStarted
  | createReplaces | connectDone => cases mem_singleton.mp mem
  | _ => cases mem

theorem Wired.arrived_step (channel : (s.shared.apply effect).channel handle = some conn)
    (held : (s.shared.apply effect).holding handle = some (kind, some owner)) :
    ∃ entry, (s.shared.apply effect).conns[conn]? = some entry ∧ entry.owner = owner ∧
      (kind, handle) ∈ entry.registered := by
  have before : ∃ old, s.shared.conns[conn]? = some old ∧ old.owner = owner ∧
      (kind, handle) ∈ old.registered := by
    rcases channel_before channel with there | isSend
    · exact wired.arrived handle conn kind owner there (planned.holding_before held there)
    · subst isSend
      obtain rfl : th = .callback handle conn .send := planned.doneBy
      obtain ⟨entry, sentKind, here, mem, holding⟩ :=
        wired.inFlight t handle conn .send found (by simp)
      rw [holding_still s.shared rfl, holding] at held
      obtain ⟨rfl, isOwner⟩ := Prod.mk.inj (Option.some.inj held)
      exact ⟨entry, here, Option.some.inj isOwner, mem⟩
  obtain ⟨old, here, isOwner, mem⟩ := before
  obtain ⟨entry, after, sameOwner, registered⟩ := conn_after effect here
  exact ⟨entry, after, sameOwner.trans isOwner, registered _ mem⟩

theorem Wired.registered_step (here : (s.shared.apply effect).conns[conn]? = some entry)
    (mem : (kind, handle) ∈ entry.registered) :
    .registered entry.owner kind handle conn ∈ (s.shared.apply effect).history := by
  rw [history_apply]
  rcases conn_before here with ⟨new, _⟩ | ⟨old, before, owner, _, registered⟩
  · rw [new] at mem
    cases mem
  · rw [owner]
    rcases registered kind handle mem with known | ⟨registrant, isRegister⟩
    · exact mem_append_left _ (wired.registered conn old kind handle before known)
    · rw [isRegister, (wired.registers found planned isRegister before).1]
      simp [Effect.events]

theorem Wired.settingUp_step (u : Nat) (other : Thread)
    (owner : Owner) (handles : Handles) (conn : Conn)
    (here : (s.apply t ⟨s.shared.apply effect, next, spawned⟩).threads[u]? = some other)
    (settingUp : other.settingUp = some (owner, handles, conn)) :
    ∃ entry, (s.shared.apply effect).conns[conn]? = some entry ∧ entry.owner = owner := by
  have kept {v : Nat} {th : Thread} (there : s.threads[v]? = some th)
      (before : th.settingUp = some (owner, handles, conn)) :
      ∃ entry, (s.shared.apply effect).conns[conn]? = some entry ∧ entry.owner = owner := by
    obtain ⟨old, oldHere, isOwner⟩ := wired.settingUp v th owner handles conn there before
    obtain ⟨entry, after, sameOwner, _⟩ := conn_after effect oldHere
    exact ⟨entry, after, sameOwner.trans isOwner⟩
  rcases apply_inv here with ⟨_, before⟩ | ⟨rfl, rfl⟩ | ⟨_, mem⟩
  · exact kept before settingUp
  · rcases planned.settingUp_own settingUp with before | ⟨isConnect, isNew⟩
    · exact kept found before
    · subst isConnect isNew
      exact ⟨⟨owner, true, []⟩, by simp [conns_apply], rfl⟩
  · cases planned.started mem <;> cases settingUp

theorem Wired.justified_step : Justified Delivers (s.shared.apply effect).history := by
  refine justified_apply wired.justified (fun event mem => ?_) fun _ _ _ _ _ => trivial
  cases effect with
  | receive owner kind handle conn =>
    obtain rfl := mem_singleton.mp mem
    obtain ⟨arrived, handles, debt, own⟩ := planned.doneBy
    have held := wired.accounted.held_of_owes found debt own
    obtain ⟨entry, here, isOwner, registered⟩ :=
      wired.arrived handle conn kind owner arrived held
    exact ⟨handle, isOwner ▸ wired.registered conn entry kind handle here registered⟩
  | register owner kind handle conn =>
    simp only [Effect.events, mem_cons, not_mem_nil, or_false] at mem
    rcases mem with rfl | rfl <;> trivial
  | fresh | hold | give | send | call | close | closeIdle =>
    obtain rfl := mem_singleton.mp mem
    trivial
  | _ => cases mem

/-- A handle is given back only detached, so what is on its way to it is still the
notification of its holder. -/
theorem Wired.step (met : ∀ handle ∈ th.gives, Detached s handle) :
    Wired (s.apply t ⟨s.shared.apply effect, next, spawned⟩) where
  accounted := wired.accounted.step found planned
  attached := fun _ _ _ _ => wired.attached_step found planned met
  inFlight := by
    intro u handle conn pc here waiting
    rcases apply_inv here with ⟨_, before⟩ | ⟨rfl, own⟩ | ⟨_, mem⟩
    · exact wired.inFlight_kept found planned met before waiting
    · obtain ⟨before, rfl, wasWaiting⟩ := planned.callback_own own.symm waiting
      exact wired.inFlight_kept found planned met found wasWaiting
    · exact wired.inFlight_new planned mem
  arrived := fun _ _ _ _ => wired.arrived_step found planned
  registered := fun _ _ _ _ => wired.registered_step found planned
  settingUp := wired.settingUp_step found planned
  justified := wired.justified_step found planned

end

theorem wired_empty : Wired empty where
  accounted := accounted_empty
  attached := fun conn entry kind handle here => by cases here
  inFlight := by
    intro t handle conn pc found
    cases mem_singleton.mp (mem_of_getElem? found)
  arrived := fun handle conn kind owner channel => by cases channel
  registered := fun conn entry kind handle here => by cases here
  settingUp := by
    intro t th owner handles conn found settingUp
    obtain rfl := mem_singleton.mp (mem_of_getElem? found)
    cases settingUp
  justified := .nil

theorem wired_of_reachable {s : State} (reached : machine.system.ReachableUnder GivesDetached s) :
    Wired s := by
  refine System.ReachableUnder.invariant (fun _ initial => ?_)
    (fun _ _ _ wired met stepped => ?_) reached
  · obtain rfl := initial
    exact wired_empty
  · obtain ⟨th, effect, next, spawned, found, planned, _, rfl⟩ := planned_of_next stepped
    exact wired.step found planned (met th found)

/-- If handles are given back only when nothing can call back with them any more,
every notification that is received was raised for a connection that its receiver
has registered, and so is every notification that waits in the channel of a
handle that somebody holds. -/
theorem notifications_reach_registrant {s : State}
    (reached : machine.system.ReachableUnder GivesDetached s) :
    Justified Delivers s.shared.history ∧
      ∀ (handle : Handle) (entry : HandleEntry) (owner : Owner) (conn : Conn),
        s.shared.handles[handle]? = some entry → entry.holder = some owner →
        entry.channel = some conn →
          .registered owner entry.kind handle conn ∈ s.shared.history := by
  have wired := wired_of_reachable reached
  refine ⟨wired.justified, fun handle entry owner conn here holder content => ?_⟩
  have channel : s.shared.channel handle = some conn := by
    rw [Shared.channel, here, bind_some, content]
  have holding : s.shared.holding handle = some (entry.kind, some owner) := by
    rw [Shared.holding, here, map_some, holder]
  obtain ⟨registered, there, isOwner, member⟩ :=
    wired.arrived handle conn entry.kind owner channel holding
  exact isOwner ▸ wired.registered conn registered entry.kind handle there member

/-- The handles of a replaced pool are given back after its connections were closed.
The pool that takes them receives what is raised for its own connection. -/
theorem notifications_reach_registrant_recycled :
    ∃ s before, machine.system.ReachableUnder GivesDetached s ∧
      s.shared.history = before ++ [.received (.pool 2) .changePass 2] ∧
      .put (.pool 0) .changePass 0 ∈ before ∧ .taken (.pool 2) .changePass 0 ∈ before ∧
      ∃ handle, .registered (.pool 2) .changePass handle 2 ∈ before := by
  obtain ⟨s, reached, history, put, taken⟩ :
      ∃ s, machine.system.ReachableUnder GivesDetached s ∧
        s.shared.history =
          s.shared.history.dropLast ++ [.received (.pool 2) .changePass 2] ∧
        .put (.pool 0) .changePass 0 ∈ s.shared.history.dropLast ∧
        .taken (.pool 2) .changePass 0 ∈ s.shared.history.dropLast :=
    machine.system.exists_of_exec
      (.flatten [(0, .request [1] [1]) :: goes 1 15, (0, .request [1] [2]) :: goes 3 20,
        (2, .finish) :: goes 2 3, (0, .request [2] [1]) :: goes 5 16,
        (0, .raise 2 .changePass) :: goes 7 2, [(6, .receive .changePass)]]) rfl rfl
  exact ⟨s, _, reached, history, put, taken,
    (notifications_reach_registrant reached).1 _ _ [] history⟩

/-- A caller holds the connection of a pool whose password is replaced. The handles
of the pool go to the pool of another user, which receives the notification raised
for that connection. -/
theorem notification_reaches_other_pool :
    ∃ s before, machine.system.Reachable s ∧
      s.shared.history = before ++ [.received (.pool 2) .changePass 0] ∧
      .registered (.pool 0) .changePass 0 0 ∈ before ∧
      ¬ Delivers before (.received (.pool 2) .changePass 0) := by
  obtain ⟨s, reached, history, registered, registrants⟩ :
      ∃ s, machine.system.Reachable s ∧
        s.shared.history =
          s.shared.history.dropLast ++ [.received (.pool 2) .changePass 0] ∧
        .registered (.pool 0) .changePass 0 0 ∈ s.shared.history.dropLast ∧
        s.shared.history.dropLast.filterMap (Event.registrant 0) = [.pool 0, .pool 0, .pool 0] :=
    machine.system.exists_of_exec
      (.flatten [(0, .request [1] [1]) :: goes 1 15, (0, .call 0) :: goes 3 2,
        (0, .request [1] [2]) :: goes 4 19, (2, .finish) :: goes 2 3,
        (0, .request [2] [1]) :: goes 6 16, (0, .raise 0 .changePass) :: goes 8 2,
        [(7, .receive .changePass)]]) rfl rfl
  refine ⟨s, _, reached, history, registered, ?_⟩
  rintro ⟨handle, member⟩
  have other : Owner.pool 2 ∈ s.shared.history.dropLast.filterMap (Event.registrant 0) :=
    mem_filterMap.mpr ⟨_, member, rfl⟩
  rw [registrants] at other
  simp at other

end TaosAdapter.Notify
