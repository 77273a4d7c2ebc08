import TaosAdapter.Notify.Model

/-!
Owns: the inversion of the plans. `Planned` lists every step of every goroutine
with its guards and its effect; the parts that several goroutines share have a
relation of their own. The invariants are case analyses over these.
-/

namespace TaosAdapter.Notify

open Lib Option

inductive Acquired (sh : Shared) (owner : Owner) : Acquire → Effect → Acquire → Prop where
  | popped kind handle others rest handles (pooled : sh.handlePool kind = handle :: others) :
      Acquired sh owner (.next (kind :: rest) handles) (.pop kind)
        (.drain kind handle rest handles)
  | made kind rest handles :
      Acquired sh owner (.next (kind :: rest) handles) (.fresh owner kind)
        (.next rest (handles ++ [(kind, sh.handles.length)]))
  | discarded kind handle rest handles :
      Acquired sh owner (.drain kind handle rest handles) (.discard handle)
        (.drain kind handle rest handles)
  | drained kind handle rest handles (vacant : sh.channel handle = none) :
      Acquired sh owner (.drain kind handle rest handles) (.hold owner kind handle)
        (.next rest (handles ++ [(kind, handle)]))

inductive Releasing (sh : Shared) (pool : Nat) : Release → Effect → Option Release → Prop where
  | again (cancelled : sh.isCancelled pool = true) : Releasing sh pool .cancel .skip none
  | cancelled (running : sh.isCancelled pool = false) :
      Releasing sh pool .cancel (.cancel pool) (some .forget)
  | forgotten : Releasing sh pool .forget (.forget pool) (some .close)
  | released (released : sh.isReleased pool = true) : Releasing sh pool .close .skip none
  | releasing (usable : sh.isReleased pool = false) :
      Releasing sh pool .close (.release pool) (some .idle)
  | closedIdle conn others (idle : sh.idle pool = conn :: others) :
      Releasing sh pool .idle (.closeIdle pool conn) (some .idle)
  | closedAll (idle : sh.idle pool = []) : Releasing sh pool .idle .skip none

section

variable (sh : Shared) (t sess : Nat)

inductive Closes : Closing → Effect → Option Closing → Prop where
  | locked (free : sh.locks (.session sess) = none) :
      Closes .lock (.lock (.session sess) t) (some .check)
  | again (closed : sh.isClosed sess = true) : Closes .check .skip (some .unlock)
  | closed (running : sh.isClosed sess = false) :
      Closes .check (.setClosed sess) (some .conn)
  | disconnected conn (here : sh.sessionConn sess = some conn) :
      Closes .conn (.close (.session sess) conn) (some .exit)
  | unconnected (missing : sh.sessionConn sess = none) : Closes .conn .skip (some .exit)
  | exited : Closes .exit (.exit sess) (some .unlock)
  | unlocked : Closes .unlock (.unlock (.session sess)) none

end

section

variable (sh : Shared) (t : Nat)

inductive Planned : Thread → Effect → Thread → List Thread → Prop where
  -- clients
  | requested user pass :
      Planned .clients (.newPool user pass) .clients
        [.create sh.pools.length user pass .lock]
  | called pool (stored : sh.isStored pool = true) :
      Planned .clients .skip .clients [.caller pool .get]
  | sessionOpened :
      Planned .clients .newSession .clients
        [.newSession sh.sessions.length (some (.next sessionKinds []))]
  | connectRequested sess (made : (sh.sessionHandles sess).isSome = true) :
      Planned .clients .skip .clients [.connect sess .lock]
  | closeRequested sess (made : (sh.sessionHandles sess).isSome = true) :
      Planned .clients .skip .clients [.close sess (some .lock)]
  | raised conn kind handle (registered : sh.registration conn kind = some handle) :
      Planned .clients .skip .clients [.callback handle conn .value]
  -- creation of a pool
  | createLocked pool user pass (free : sh.locks .connectionLocker = none) :
      Planned (.create pool user pass .lock) (.lock .connectionLocker t)
        (.create pool user pass .load) []
  | createFound pool user pass :
      Planned (.create pool user pass .load) .skip (.create pool user pass .unlock) []
  | createLoaded pool user pass old (loaded : sh.connectionMap user = old) :
      Planned (.create pool user pass .load) .skip
        (.create pool user pass (.acquire old (.next poolKinds []))) []
  | createAcquired pool user pass old stage next effect
      (acquired : Acquired sh (.pool pool) stage effect next) :
      Planned (.create pool user pass (.acquire old stage)) effect
        (.create pool user pass (.acquire old next)) []
  | createMade pool user pass old handles :
      Planned (.create pool user pass (.acquire old (.next [] handles))) .skip
        (.create pool user pass (.connect old handles)) []
  | createConnected pool user pass old handles :
      Planned (.create pool user pass (.connect old handles)) (.connect (.pool pool))
        (.create pool user pass (.setup old handles sh.conns.length poolSetup)) []
  | createUnconnected pool user pass old handles :
      Planned (.create pool user pass (.connect old handles)) .skip
        (.create pool user pass .unlock) []
  | createSetUp pool user pass old handles v action rest :
      Planned (.create pool user pass (.setup old handles v (action :: rest)))
        (action.effect (.pool pool) handles v)
        (.create pool user pass (.setup old handles v rest)) []
  | createRefused pool user pass old handles v action rest :
      Planned (.create pool user pass (.setup old handles v (action :: rest)))
        (.call (.pool pool) v) (.create pool user pass (.abort handles v)) []
  | createPut pool user pass old handles v :
      Planned (.create pool user pass (.setup old handles v [])) (.putIdle pool v)
        (.create pool user pass (.start old handles v)) []
  | createStarted pool user pass handles v :
      Planned (.create pool user pass (.start none handles v)) (.start pool)
        (.create pool user pass .store) [.watch pool v handles .waiting]
  | createReplaces pool user pass old handles v :
      Planned (.create pool user pass (.start (some old) handles v)) (.start pool)
        (.create pool user pass (.release old .cancel)) [.watch pool v handles .waiting]
  | createReleasing pool user pass old stage next effect
      (releasing : Releasing sh old stage effect (some next)) :
      Planned (.create pool user pass (.release old stage)) effect
        (.create pool user pass (.release old next)) []
  | createReleased pool user pass old stage effect
      (releasing : Releasing sh old stage effect none) :
      Planned (.create pool user pass (.release old stage)) effect
        (.create pool user pass .store) []
  | createStored pool user pass :
      Planned (.create pool user pass .store) (.store user pool)
        (.create pool user pass .unlock) []
  | createAborted pool user pass handles v :
      Planned (.create pool user pass (.abort handles v)) (.putIdle pool v)
        (.create pool user pass (.drop handles .close)) []
  | createDropping pool user pass handles stage next effect
      (releasing : Releasing sh pool stage effect (some next)) :
      Planned (.create pool user pass (.drop handles stage)) effect
        (.create pool user pass (.drop handles next)) []
  | createDropped pool user pass handles stage effect
      (releasing : Releasing sh pool stage effect none) :
      Planned (.create pool user pass (.drop handles stage)) effect
        (.create pool user pass (.put handles)) []
  | createGives pool user pass kind handle (rest : Handles) :
      Planned (.create pool user pass (.put ((kind, handle) :: rest)))
        (.give (.pool pool) kind handle) (.create pool user pass (.put rest)) []
  | createGiven pool user pass :
      Planned (.create pool user pass (.put [])) .skip (.create pool user pass .unlock) []
  | createUnlocked pool user pass :
      Planned (.create pool user pass .unlock) (.unlock .connectionLocker)
        (.create pool user pass .done) []
  -- the goroutine of a pool
  | watchReceived pool v handles kind handle conn (own : handles.lookup kind = some handle)
      (arrived : sh.channel handle = some conn) (other : kind ≠ .whitelist) :
      Planned (.watch pool v handles .waiting) (.receive (.pool pool) kind handle conn)
        (.watch pool v handles .lock) []
  | watchWhitelist pool v handles handle conn (own : handles.lookup .whitelist = some handle)
      (arrived : sh.channel handle = some conn) :
      Planned (.watch pool v handles .waiting) (.receive (.pool pool) .whitelist handle conn)
        (.watch pool v handles .refresh) []
  | watchFinished pool v handles (cancelled : sh.isCancelled pool = true) :
      Planned (.watch pool v handles .waiting) .skip (.watch pool v handles (.put handles)) []
  | watchRefreshed pool v handles :
      Planned (.watch pool v handles .refresh) (.call (.pool pool) v)
        (.watch pool v handles .waiting) []
  | watchNotRefreshed pool v handles :
      Planned (.watch pool v handles .refresh) (.call (.pool pool) v) (.watch pool v handles .lock)
        []
  | watchLocked pool v handles (free : sh.locks .connectionLocker = none) :
      Planned (.watch pool v handles .lock) (.lock .connectionLocker t)
        (.watch pool v handles (.release .cancel)) []
  | watchReleasing pool v handles stage next effect
      (releasing : Releasing sh pool stage effect (some next)) :
      Planned (.watch pool v handles (.release stage)) effect
        (.watch pool v handles (.release next)) []
  | watchReleased pool v handles stage effect
      (releasing : Releasing sh pool stage effect none) :
      Planned (.watch pool v handles (.release stage)) effect (.watch pool v handles .unlock) []
  | watchUnlocked pool v handles :
      Planned (.watch pool v handles .unlock) (.unlock .connectionLocker)
        (.watch pool v handles (.put handles)) []
  | watchGives pool v handles kind handle (rest : Handles) :
      Planned (.watch pool v handles (.put ((kind, handle) :: rest)))
        (.give (.pool pool) kind handle) (.watch pool v handles (.put rest)) []
  -- callers
  | callerRefused pool : Planned (.caller pool .get) .skip (.caller pool .done) []
  | callerGot pool conn others (usable : sh.isReleased pool = false)
      (idle : sh.idle pool = conn :: others) :
      Planned (.caller pool .get) (.takeIdle pool) (.caller pool (.setIP conn)) []
  | callerConnected pool (usable : sh.isReleased pool = false) :
      Planned (.caller pool .get) (.connect (.pool pool))
        (.caller pool (.setIP sh.conns.length)) []
  | callerSetIP pool conn :
      Planned (.caller pool (.setIP conn)) (.call (.pool pool) conn) (.caller pool (.use conn)) []
  | callerReset pool conn :
      Planned (.caller pool (.use conn)) (.call (.pool pool) conn) (.caller pool (.clear conn)) []
  | callerCleared pool conn :
      Planned (.caller pool (.clear conn)) (.call (.pool pool) conn) (.caller pool (.put conn)) []
  | callerClosed pool conn (released : sh.isReleased pool = true) :
      Planned (.caller pool (.put conn)) (.close (.pool pool) conn) (.caller pool .done) []
  | callerPut pool conn (usable : sh.isReleased pool = false) :
      Planned (.caller pool (.put conn)) (.putIdle pool conn) (.caller pool .done) []
  -- sessions
  | sessionAcquired sess stage next effect
      (acquired : Acquired sh (.session sess) stage effect next) :
      Planned (.newSession sess (some stage)) effect (.newSession sess (some next)) []
  | sessionReady sess handles :
      Planned (.newSession sess (some (.next [] handles))) (.ready sess handles)
        (.newSession sess none) []
  | connectLocked sess (free : sh.locks (.session sess) = none) :
      Planned (.connect sess .lock) (.lock (.session sess) t) (.connect sess .check) []
  | connectRefused sess : Planned (.connect sess .check) .skip (.connect sess .unlock) []
  | connectChecked sess (running : sh.isClosed sess = false)
      (missing : sh.sessionConn sess = none) :
      Planned (.connect sess .check) .skip (.connect sess .connect) []
  | connectConnected sess handles (made : sh.sessionHandles sess = some handles) :
      Planned (.connect sess .connect) (.connect (.session sess))
        (.connect sess (.setup handles sh.conns.length sessionSetup)) []
  | connectUnconnected sess :
      Planned (.connect sess .connect) .skip (.connect sess .unlock) []
  | connectSetUp sess handles conn action rest :
      Planned (.connect sess (.setup handles conn (action :: rest)))
        (action.effect (.session sess) handles conn)
        (.connect sess (.setup handles conn rest)) []
  | connectFailed sess handles conn action rest :
      Planned (.connect sess (.setup handles conn (action :: rest)))
        (.call (.session sess) conn) (.connect sess (.close conn)) []
  | connectDone sess handles conn :
      Planned (.connect sess (.setup handles conn [])) (.connected sess conn)
        (.connect sess .unlock) [.waitSignal sess handles .waiting]
  | connectClosed sess conn :
      Planned (.connect sess (.close conn)) (.close (.session sess) conn)
        (.connect sess .unlock) []
  | connectUnlocked sess :
      Planned (.connect sess .unlock) (.unlock (.session sess)) (.connect sess .done) []
  | closing sess stage effect next (closes : Closes sh t sess stage effect next) :
      Planned (.close sess (some stage)) effect (.close sess next) []
  -- the goroutine of a sess
  | waitReceived sess handles kind handle conn (own : handles.lookup kind = some handle)
      (arrived : sh.channel handle = some conn) :
      Planned (.waitSignal sess handles .waiting) (.receive (.session sess) kind handle conn)
        (.waitSignal sess handles (.lock kind)) []
  | waitFinished sess handles (exited : sh.isExited sess = true) :
      Planned (.waitSignal sess handles .waiting) .skip
        (.waitSignal sess handles (.put handles)) []
  | waitLocked sess handles kind (free : sh.locks (.session sess) = none) :
      Planned (.waitSignal sess handles (.lock kind)) (.lock (.session sess) t)
        (.waitSignal sess handles (.check kind)) []
  | waitLeaves sess handles kind :
      Planned (.waitSignal sess handles (.check kind)) .skip (.waitSignal sess handles .leave)
        []
  | waitChecked sess handles kind :
      Planned (.waitSignal sess handles (.check kind)) .skip
        (.waitSignal sess handles (if kind = .whitelist then .refresh else .signalExit)) []
  | waitRefreshed sess handles conn :
      Planned (.waitSignal sess handles .refresh) (.call (.session sess) conn)
        (.waitSignal sess handles .resume) []
  | waitNotRefreshed sess handles conn :
      Planned (.waitSignal sess handles .refresh) (.call (.session sess) conn)
        (.waitSignal sess handles .signalExit) []
  | waitResumed sess handles :
      Planned (.waitSignal sess handles .resume) (.unlock (.session sess))
        (.waitSignal sess handles .waiting) []
  | waitLeft sess handles :
      Planned (.waitSignal sess handles .leave) (.unlock (.session sess))
        (.waitSignal sess handles (.put handles)) []
  | waitExits sess handles :
      Planned (.waitSignal sess handles .signalExit) (.unlock (.session sess))
        (.waitSignal sess handles (.closing .lock)) []
  | waitClosing sess handles stage next effect
      (closes : Closes sh t sess stage effect (some next)) :
      Planned (.waitSignal sess handles (.closing stage)) effect
        (.waitSignal sess handles (.closing next)) []
  | waitClosed sess handles stage effect (closes : Closes sh t sess stage effect none) :
      Planned (.waitSignal sess handles (.closing stage)) effect
        (.waitSignal sess handles (.put handles)) []
  | waitGives sess handles kind handle (rest : Handles) :
      Planned (.waitSignal sess handles (.put ((kind, handle) :: rest)))
        (.give (.session sess) kind handle) (.waitSignal sess handles (.put rest)) []
  -- callbacks
  | callbackValue handle conn :
      Planned (.callback handle conn .value) .skip (.callback handle conn .send) []
  | callbackPanics handle conn :
      Planned (.callback handle conn .value) .skip (.callback handle conn .done) []
  | callbackSent handle conn (vacant : sh.channel handle = none) :
      Planned (.callback handle conn .send) (.send handle conn) (.callback handle conn .done) []

end

theorem Setup.effect_cases (owner : Owner) (handles : Handles) (conn : Conn) (action : Setup) :
    (∃ kind handle, handles.lookup kind = some handle ∧
      action.effect owner handles conn = .register owner kind handle conn) ∨
      action.effect owner handles conn = .call owner conn := by
  cases action with
  | register kind =>
    simp only [Setup.effect]
    split
    · rename_i handle found
      exact .inl ⟨kind, handle, found, rfl⟩
    · exact .inr rfl
  | getWhitelist | setOptions => exact .inr rfl

section

variable {sh : Shared} {t : Nat} {choice : Choice} {effect : Effect}

theorem acquired_of_acquire {owner : Owner} {stage next : Acquire}
    (step : acquire sh owner stage = some (effect, next)) :
    Acquired sh owner stage effect next := by
  unfold acquire at step
  repeat' split at step
  all_goals cases step
  all_goals constructor <;> assumption

theorem releasing_release (sh : Shared) (pool : Nat) (stage : Release) :
    Releasing sh pool stage (release sh pool stage).1 (release sh pool stage).2 := by
  unfold release
  repeat' split
  all_goals constructor <;> first | assumption | simp_all

variable {session : Nat}

theorem closes_of_closing {stage : Closing} {next : Option Closing}
    (step : closing sh t session stage = some (effect, next)) :
    Closes sh t session stage effect next := by
  unfold closing at step
  repeat' split at step
  all_goals cases step
  all_goals constructor <;> first | assumption | simp_all

variable {plan : Plan}

-- In each branch of a plan the constructor is determined by the goroutine and its
-- effect; what remains are the guards.

theorem planned_clients (planned : planClients sh choice = some plan) :
    Planned sh t .clients plan.effect plan.thread plan.spawned := by
  unfold planClients at planned
  repeat' split at planned
  all_goals cases planned
  all_goals constructor <;> assumption

variable {pool : Nat}

theorem planned_create {user pass : Bytes} {pc : CreatePc}
    (planned : planCreate sh t pool user pass pc choice = some plan) :
    Planned sh t (.create pool user pass pc) plan.effect plan.thread plan.spawned := by
  unfold planCreate at planned
  split at planned
  case h_4 =>
    obtain ⟨⟨effect, next⟩, step, rfl⟩ := map_eq_some_iff.mp planned
    exact .createAcquired _ _ _ _ _ next effect (acquired_of_acquire step)
  case h_10 old handles v => cases old <;> cases planned <;> constructor
  case h_11 old stage =>
    have releasing := releasing_release sh old stage
    generalize release sh old stage = step at planned releasing
    obtain ⟨effect, _ | next⟩ := step <;> cases planned
    · exact .createReleased _ _ _ _ _ _ releasing
    · exact .createReleasing _ _ _ _ _ next _ releasing
  case h_14 handles stage =>
    have releasing := releasing_release sh pool stage
    generalize release sh pool stage = step at planned releasing
    obtain ⟨effect, _ | next⟩ := step <;> cases planned
    · exact .createDropped _ _ _ _ _ _ releasing
    · exact .createDropping _ _ _ _ _ next _ releasing
  all_goals repeat' split at planned
  all_goals cases planned
  all_goals constructor <;> assumption

variable {handles : Handles}

theorem planned_watch {v : Conn} {pc : WatchPc}
    (planned : planWatch sh t pool v handles pc choice = some plan) :
    Planned sh t (.watch pool v handles pc) plan.effect plan.thread plan.spawned := by
  unfold planWatch at planned
  split at planned
  case h_1 kind =>
    split at planned
    · rename_i handle own
      obtain ⟨conn, arrived, rfl⟩ := map_eq_some_iff.mp planned
      by_cases whitelist : kind = .whitelist
      · subst whitelist
        exact .watchWhitelist _ _ _ handle conn own arrived
      · simp only [if_neg whitelist]
        exact .watchReceived _ _ _ kind handle conn own arrived whitelist
    · cases planned
  case h_6 stage =>
    have releasing := releasing_release sh pool stage
    generalize release sh pool stage = step at planned releasing
    obtain ⟨effect, _ | next⟩ := step <;> cases planned
    · exact .watchReleased _ _ _ _ _ releasing
    · exact .watchReleasing _ _ _ _ next _ releasing
  all_goals repeat' split at planned
  all_goals cases planned
  all_goals constructor <;> assumption

theorem planned_caller {pc : CallerPc} (planned : planCaller sh pool pc choice = some plan) :
    Planned sh t (.caller pool pc) plan.effect plan.thread plan.spawned := by
  unfold planCaller at planned
  repeat' split at planned
  all_goals cases planned
  all_goals constructor <;> first | assumption | simp_all

theorem planned_newSession {stage : Option Acquire}
    (planned : planNewSession sh session stage choice = some plan) :
    Planned sh t (.newSession session stage) plan.effect plan.thread plan.spawned := by
  unfold planNewSession at planned
  split at planned
  · cases planned
    exact .sessionReady _ _
  · obtain ⟨⟨effect, next⟩, step, rfl⟩ := map_eq_some_iff.mp planned
    exact .sessionAcquired _ _ next effect (acquired_of_acquire step)
  · cases planned

theorem planned_connect {pc : ConnectPc} (planned : planConnect sh t session pc choice = some plan)
    : Planned sh t (.connect session pc) plan.effect plan.thread plan.spawned := by
  unfold planConnect at planned
  split at planned
  case h_3 =>
    obtain ⟨handles, made, rfl⟩ := map_eq_some_iff.mp planned
    exact .connectConnected _ handles made
  all_goals repeat' split at planned
  all_goals cases planned
  all_goals constructor <;> simp_all

theorem planned_close {stage : Option Closing}
    (planned : planClose sh t session stage choice = some plan) :
    Planned sh t (.close session stage) plan.effect plan.thread plan.spawned := by
  unfold planClose at planned
  split at planned
  · obtain ⟨⟨effect, next⟩, step, rfl⟩ := map_eq_some_iff.mp planned
    exact .closing _ _ effect next (closes_of_closing step)
  · cases planned

theorem planned_waitSignal {pc : WaitPc}
    (planned : planWaitSignal sh t session handles pc choice = some plan) :
    Planned sh t (.waitSignal session handles pc) plan.effect plan.thread plan.spawned := by
  unfold planWaitSignal at planned
  split at planned
  case h_1 kind =>
    split at planned
    · rename_i handle own
      obtain ⟨conn, arrived, rfl⟩ := map_eq_some_iff.mp planned
      exact .waitReceived _ _ _ handle conn own arrived
    · cases planned
  case h_4 kind =>
    split at planned <;> cases planned
    · exact .waitLeaves _ _ _
    · exact .waitChecked _ _ _
  case h_5 | h_6 =>
    obtain ⟨conn, _, rfl⟩ := map_eq_some_iff.mp planned
    constructor
  case h_10 stage =>
    obtain ⟨⟨effect, next⟩, step, rfl⟩ := map_eq_some_iff.mp planned
    have closes := closes_of_closing step
    cases next with
    | some next => exact .waitClosing _ _ _ next effect closes
    | none => exact .waitClosed _ _ _ effect closes
  all_goals repeat' split at planned
  all_goals cases planned
  all_goals constructor <;> assumption

theorem planned_callback {handle : Handle} {conn : Conn} {pc : CallbackPc}
    (planned : planCallback sh handle conn pc choice = some plan) :
    Planned sh t (.callback handle conn pc) plan.effect plan.thread plan.spawned := by
  unfold planCallback at planned
  repeat' split at planned
  all_goals cases planned
  all_goals constructor <;> assumption

theorem planned_of_plan {th : Thread} (planned : Notify.plan sh t th choice = some plan) :
    Planned sh t th plan.effect plan.thread plan.spawned := by
  cases th with
  | clients => exact planned_clients planned
  | create => exact planned_create planned
  | watch => exact planned_watch planned
  | caller => exact planned_caller planned
  | newSession => exact planned_newSession planned
  | connect => exact planned_connect planned
  | close => exact planned_close planned
  | waitSignal => exact planned_waitSignal planned
  | callback => exact planned_callback planned

end

theorem planned_of_next {s after : State} {label : Nat × Choice}
    (stepped : machine.system.next s label = some after) :
    ∃ th effect next spawned, s.threads[label.1]? = some th ∧
      Planned s.shared label.1 th effect next spawned ∧
      plan s.shared label.1 th label.2 = some ⟨effect, next, spawned⟩ ∧
      after = s.apply label.1 ⟨s.shared.apply effect, next, spawned⟩ := by
  obtain ⟨th, move, found, moved, rfl⟩ := Machine.next_inv stepped
  obtain ⟨plan, planned, rfl⟩ := map_eq_some_iff.mp moved
  exact ⟨th, plan.effect, plan.thread, plan.spawned, found, planned_of_plan planned, planned, rfl⟩

end TaosAdapter.Notify
