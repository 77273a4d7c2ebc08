import TaosAdapter.Notify.Step
import TaosAdapter.Notify.Effects

/-!
Owns: what a goroutine has (a lock, handles, a connection of a pool, a pool that it
releases), and whom each effect comes from. The invariants are proved from these;
they do not look at the plans again.
-/

namespace TaosAdapter.Notify

open Lib

def Thread.lock : Thread → Option LockKey
  | .create _ _ _ pc =>
    match pc with
    | .lock | .done => none
    | _ => some .connectionLocker
  | .watch _ _ _ pc =>
    match pc with
    | .release _ | .unlock => some .connectionLocker
    | _ => none
  | .connect session pc =>
    match pc with
    | .lock | .done => none
    | _ => some (.session session)
  | .close session stage =>
    match stage with
    | none | some .lock => none
    | _ => some (.session session)
  | .waitSignal session _ pc =>
    match pc with
    | .check _ | .refresh | .resume | .leave | .signalExit => some (.session session)
    | .closing .lock => none
    | .closing _ => some (.session session)
    | _ => none
  | _ => none

def Thread.holds (th : Thread) (key : LockKey) : Bool :=
  th.lock = some key

def Acquire.handles : Acquire → Handles
  | .next _ handles | .drain _ _ _ handles => handles

def Acquire.draining : Acquire → Option (Kind × Handle)
  | .next _ _ => none
  | .drain kind handle _ _ => some (kind, handle)

def CreatePc.handles : CreatePc → Handles
  | .acquire _ stage => stage.handles
  | .connect _ handles | .setup _ handles _ _ | .start _ handles _ | .abort handles _
  | .drop handles _ | .put handles => handles
  | _ => []

def Thread.debt : Thread → Owner × Handles
  | .create pool _ _ pc => (.pool pool, pc.handles)
  | .watch pool _ handles pc =>
    match pc with
    | .put rest => (.pool pool, rest)
    | _ => (.pool pool, handles)
  | .newSession session stage =>
    match stage with
    | some stage => (.session session, stage.handles)
    | none => (.session session, [])
  | .waitSignal session handles pc =>
    match pc with
    | .put rest => (.session session, rest)
    | _ => (.session session, handles)
  | .caller pool _ => (.pool pool, [])
  | .connect session _ | .close session _ => (.session session, [])
  | .clients | .callback _ _ _ => (.pool 0, [])

def Thread.draining : Thread → Option (Kind × Handle)
  | .create _ _ _ (.acquire _ stage) => stage.draining
  | .newSession _ (some stage) => stage.draining
  | _ => none

def Thread.gives : Thread → Option Handle
  | .create _ _ _ (.put ((_, handle) :: _)) => some handle
  | .watch _ _ _ (.put ((_, handle) :: _)) => some handle
  | .waitSignal _ _ (.put ((_, handle) :: _)) => some handle
  | _ => none

def Thread.settingUp : Thread → Option (Owner × Handles × Conn)
  | .create pool _ _ (.setup _ handles v _) => some (.pool pool, handles, v)
  | .connect session (.setup handles conn _) => some (.session session, handles, conn)
  | _ => none

def CallerPc.conn : CallerPc → Option Conn
  | .setIP conn | .use conn | .clear conn | .put conn => some conn
  | .get | .done => none

def Thread.conn : Thread → Option (Nat × Conn)
  | .create pool _ _ (.setup _ _ v _) | .create pool _ _ (.abort _ v) => some (pool, v)
  | .caller pool pc => pc.conn.map fun conn => (pool, conn)
  | _ => none

def Thread.releasing : Thread → Option (Nat × Release)
  | .create _ _ _ (.release old stage) => some (old, stage)
  | .create pool _ _ (.drop _ stage) => some (pool, stage)
  | .watch pool _ _ (.release stage) => some (pool, stage)
  | _ => none

inductive Started : Thread → Prop where
  | create pool user password : Started (.create pool user password .lock)
  | watch pool v handles : Started (.watch pool v handles .waiting)
  | caller pool : Started (.caller pool .get)
  | newSession session : Started (.newSession session (some (.next sessionKinds [])))
  | connect session : Started (.connect session .lock)
  | close session : Started (.close session (some .lock))
  | waitSignal session handles : Started (.waitSignal session handles .waiting)
  | callback handle conn : Started (.callback handle conn .value)

section

variable {sh : Shared} {t : Nat} {th next : Thread} {effect : Effect}
  {spawned : List Thread}

theorem Planned.started (planned : Planned sh t th effect next spawned) {new : Thread}
    (mem : new ∈ spawned) : Started new := by
  cases planned with
  | requested | called | sessionOpened | connectRequested | closeRequested | raised
  | createStarted | createReplaces | connectDone =>
    obtain rfl := List.mem_singleton.mp mem
    constructor
  | _ => cases mem

def Effect.DoneBy (sh : Shared) (t : Nat) (th next : Thread) (spawned : List Thread) :
    Effect → Prop
  | .lock key holder =>
    holder = t ∧ sh.locks key = none ∧ th.lock = none ∧ next.lock = some key
  | .unlock key => th.lock = some key ∧ next.lock = none
  | .pop kind => ∃ handle others, sh.handlePool kind = handle :: others ∧
      th.draining = none ∧ next.draining = some (kind, handle) ∧ next.debt = th.debt
  | .fresh owner kind => th.draining = none ∧ next.draining = none ∧ ∃ handles,
      th.debt = (owner, handles) ∧
        next.debt = (owner, handles ++ [(kind, sh.handles.length)])
  | .hold owner kind handle => sh.channel handle = none ∧
      th.draining = some (kind, handle) ∧ next.draining = none ∧ ∃ handles,
        th.debt = (owner, handles) ∧ next.debt = (owner, handles ++ [(kind, handle)])
  | .give owner kind handle => th.gives = some handle ∧ th.draining = none ∧
      next.draining = none ∧ ∃ rest,
        th.debt = (owner, (kind, handle) :: rest) ∧ next.debt = (owner, rest)
  | .send handle conn => th = .callback handle conn .send
  | .receive owner kind handle conn => sh.channel handle = some conn ∧ ∃ handles,
      th.debt = (owner, handles) ∧ (kind, handle) ∈ handles
  | .connect (.pool pool) =>
    th.conn = none ∧ next.conn = some (pool, sh.conns.length)
  | .call (.pool pool) conn => th.conn = some (pool, conn) ∨
      ∃ handles, th = .watch pool conn handles .refresh
  | .register owner kind handle conn => ∃ handles,
      th.settingUp = some (owner, handles, conn) ∧ (kind, handle) ∈ handles
  | .close (.pool pool) conn =>
    th.conn = some (pool, conn) ∧ next.conn = none ∧ sh.isReleased pool = true
  | .newPool user password => th = .clients ∧ next = .clients ∧
      spawned = [.create sh.pools.length user password .lock]
  | .takeIdle pool => th.conn = none ∧ ∃ conn others,
      sh.idle pool = conn :: others ∧ next.conn = some (pool, conn)
  | .putIdle pool conn => th.conn = some (pool, conn) ∧ next.conn = none
  | .closeIdle pool conn => th.releasing = some (pool, .idle) ∧ next.conn = th.conn ∧
      ∃ others, sh.idle pool = conn :: others
  | .start pool => ∃ user password old handles v,
      th = .create pool user password (.start old handles v)
  | .store user pool => ∃ password, th = .create pool user password .store
  | .cancel pool => th.releasing = some (pool, .cancel)
  | .release pool => th.releasing = some (pool, .close)
  | .newSession => th = .clients ∧ next = .clients ∧
      spawned = [.newSession sh.sessions.length (some (.next sessionKinds []))]
  | .ready session handles => th = .newSession session (some (.next [] handles)) ∧
      next = .newSession session none ∧ spawned = []
  | .connected session conn => ∃ handles, th = .connect session (.setup handles conn []) ∧
      next = .connect session .unlock ∧ spawned = [.waitSignal session handles .waiting]
  | .setClosed session =>
    (th = .close session (some .check) ∧ sh.isClosed session = false) ∨
      ∃ handles, th = .waitSignal session handles (.closing .check)
  | .exit session => th = .close session (some .exit) ∨
      ∃ handles, th = .waitSignal session handles (.closing .exit)
  | _ => True

theorem Acquired.doneBy {owner : Owner} {stage after : Acquire}
    (acquired : Acquired sh owner stage effect after)
    (draining : th.draining = stage.draining) (debt : th.debt = (owner, stage.handles))
    (drainingAfter : next.draining = after.draining)
    (debtAfter : next.debt = (owner, after.handles)) : effect.DoneBy sh t th next spawned := by
  cases acquired with
  | popped kind handle others rest handles pooled =>
    exact ⟨handle, others, pooled, draining, drainingAfter, debtAfter.trans debt.symm⟩
  | made kind rest handles => exact ⟨draining, drainingAfter, handles, debt, debtAfter⟩
  | discarded => trivial
  | drained kind handle rest handles vacant =>
    exact ⟨vacant, draining, drainingAfter, handles, debt, debtAfter⟩

theorem Releasing.doneBy {pool : Nat} {stage : Release} {after : Option Release}
    (releasing : Releasing sh pool stage effect after)
    (own : th.releasing = some (pool, stage)) (same : next.conn = th.conn) :
    effect.DoneBy sh t th next spawned := by
  cases releasing with
  | cancelled | releasing => exact own
  | closedIdle conn others idle => exact ⟨own, same, others, idle⟩
  | again | forgotten | released | closedAll => trivial

theorem mem_of_lookup {Key Value : Type} [BEq Key] [LawfulBEq Key] {entries : List (Key × Value)}
    {key : Key} {value : Value} (found : entries.lookup key = some value) :
    (key, value) ∈ entries := by
  obtain ⟨before, after, isSplit, _⟩ := List.lookup_eq_some_iff.mp found
  rw [isSplit]
  simp

theorem Planned.doneBy (planned : Planned sh t th effect next spawned) :
    effect.DoneBy sh t th next spawned := by
  cases planned with
  | createAcquired _ _ _ _ _ _ _ acquired | sessionAcquired _ _ _ _ acquired =>
    exact acquired.doneBy rfl rfl rfl rfl
  | createReleasing _ _ _ _ _ _ _ releasing | createReleased _ _ _ _ _ _ releasing
  | createDropping _ _ _ _ _ _ _ releasing | createDropped _ _ _ _ _ _ releasing
  | watchReleasing _ _ _ _ _ _ releasing | watchReleased _ _ _ _ _ releasing =>
    exact releasing.doneBy rfl rfl
  | createSetUp pool _ _ _ handles v action =>
    rcases Setup.effect_cases (.pool pool) handles v action with
      ⟨kind, handle, found, isEffect⟩ | isEffect <;> rw [isEffect]
    · exact ⟨handles, rfl, mem_of_lookup found⟩
    · exact .inl rfl
  | connectSetUp session handles v action =>
    rcases Setup.effect_cases (.session session) handles v action with
      ⟨kind, handle, found, isEffect⟩ | isEffect <;> rw [isEffect]
    · exact ⟨handles, rfl, mem_of_lookup found⟩
    · trivial
  | closing _ _ _ _ closes =>
    cases closes with
    | locked free => exact ⟨rfl, free, rfl, rfl⟩
    | closed running => exact .inl ⟨rfl, running⟩
    | exited => exact .inl rfl
    | unlocked => exact ⟨rfl, rfl⟩
    | again | disconnected | unconnected => trivial
  | waitClosing _ handles _ _ _ closes =>
    cases closes with
    | locked free => exact ⟨rfl, free, rfl, rfl⟩
    | closed | exited => exact .inr ⟨handles, rfl⟩
    | again | disconnected | unconnected => trivial
  | waitClosed _ _ _ _ closes =>
    cases closes with
    | unlocked => exact ⟨rfl, rfl⟩
  | createLocked _ _ _ free | watchLocked _ _ _ free | connectLocked _ free
  | waitLocked _ _ _ free => exact ⟨rfl, free, rfl, rfl⟩
  | createUnlocked | watchUnlocked | connectUnlocked | waitResumed | waitLeft | waitExits
  | createConnected | callerConnected | createPut | createAborted | callerPut =>
    exact ⟨rfl, rfl⟩
  | createGives _ _ _ _ _ rest | watchGives _ _ _ _ _ rest | waitGives _ _ _ _ rest =>
    exact ⟨rfl, rfl, rfl, rest, rfl, rfl⟩
  | callbackSent => rfl
  | watchReceived _ _ handles _ _ _ own arrived | watchWhitelist _ _ handles _ _ own arrived
  | waitReceived _ handles _ _ _ own arrived =>
    exact ⟨arrived, handles, rfl, mem_of_lookup own⟩
  | createRefused | callerSetIP | callerReset | callerCleared => exact .inl rfl
  | watchRefreshed _ _ handles | watchNotRefreshed _ _ handles => exact .inr ⟨handles, rfl⟩
  | callerClosed _ _ released => exact ⟨rfl, rfl, released⟩
  | requested | sessionOpened | sessionReady => exact ⟨rfl, rfl, rfl⟩
  | callerGot _ conn others usable idle => exact ⟨rfl, conn, others, idle, rfl⟩
  | createStarted _ user password handles v => exact ⟨user, password, none, handles, v, rfl⟩
  | createReplaces _ user password old handles v =>
    exact ⟨user, password, some old, handles, v, rfl⟩
  | createStored _ user password => exact ⟨password, rfl⟩
  | connectDone session handles conn => exact ⟨handles, rfl, rfl, rfl⟩
  | _ => trivial

def Effect.moves : Effect → Bool
  | .pop _ | .fresh _ _ | .hold _ _ _ | .give _ _ _ => true
  | _ => false

def Effect.handsOver : Effect → Bool
  | .connect (.pool _) | .close (.pool _) _ | .takeIdle _ | .putIdle _ _ => true
  | _ => false

variable (planned : Planned sh t th effect next spawned)

include planned

theorem Planned.lock_kept (unlocked : ∀ key holder, effect ≠ .lock key holder)
    (unleft : ∀ key, effect ≠ .unlock key) : next.lock = th.lock := by
  cases planned with
  | createLocked | watchLocked | connectLocked | waitLocked => exact absurd rfl (unlocked _ _)
  | createUnlocked | watchUnlocked | connectUnlocked | waitResumed | waitLeft | waitExits =>
    exact absurd rfl (unleft _)
  | closing _ _ _ _ closes =>
    cases closes with
    | locked => exact absurd rfl (unlocked _ _)
    | unlocked => exact absurd rfl (unleft _)
    | _ => rfl
  | waitClosing _ _ _ _ _ closes =>
    cases closes with
    | locked => exact absurd rfl (unlocked _ _)
    | _ => rfl
  | waitClosed _ _ _ _ closes =>
    cases closes with
    | unlocked => exact absurd rfl (unleft _)
  | waitChecked _ _ kind => cases kind <;> rfl
  | _ => rfl

theorem Planned.draining_kept (still : effect.moves = false) : next.draining = th.draining := by
  cases planned with
  | createAcquired _ _ _ _ _ _ _ acquired | sessionAcquired _ _ _ _ acquired =>
    cases acquired <;> first | rfl | cases still
  | _ => rfl

theorem Planned.conn_kept (kept : effect.handsOver = false) : next.conn = th.conn := by
  cases planned with
  | createConnected | callerConnected | createPut | createAborted | callerPut | callerGot
  | callerClosed => cases kept
  | _ => rfl

end

end TaosAdapter.Notify
