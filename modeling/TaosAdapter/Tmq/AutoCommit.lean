import TaosAdapter.Tmq.Subscribe

/-!
Owns: what a refused subscription leaves behind. `subscribe` assigns the flag
and the interval of the automatic commit while it parses the request, before the
last of its failure exits, and it takes nothing back.
-/

namespace TaosAdapter.Tmq.Subscribe

open Lib

variable {Ip IpNet : Type}

def Answer.isError : Answer → Bool
  | .error _ _ _ => true
  | _ => false

def Answer.isSubscribed : Answer → Bool
  | .subscribed _ => true
  | _ => false

/-- The flag `auto_commit` gives: a text that is refused counts as false. -/
def flagOf (text : String) : Bool :=
  (parseBool text).getD false

/-- The text of `auto_commit` is absent or gives the flag the session has. -/
def KeepsFlag (t : TMQ Ip) (req : SubscribeReq) : Prop :=
  req.autoCommit = "" ∨ flagOf req.autoCommit = t.isAutoCommit

/-- The text of `auto_commit_interval_ms` is absent, is no `int64`, gives the
interval the session has, or is not read because `auto_commit` was refused. -/
def KeepsInterval (t : TMQ Ip) (req : SubscribeReq) : Prop :=
  (req.autoCommit ≠ "" ∧ parseBool req.autoCommit = none) ∨ req.autoCommitIntervalMS = "" ∨
    ∀ ms, parseInt req.autoCommitIntervalMS = .ok ms → milliseconds ms = t.autocommitInterval

/-- The request asks for nothing but what the session has. -/
def KeepsSettings (t : TMQ Ip) (req : SubscribeReq) : Prop :=
  KeepsFlag t req ∧ KeepsInterval t req

/-- The automatic commit, the consumer and the connection are as before. -/
structure Unchanged (before after : TMQ Ip) : Prop where
  isAutoCommit : after.isAutoCommit = before.isAutoCommit
  autocommitInterval : after.autocommitInterval = before.autocommitInterval
  consumer : after.consumer = before.consumer
  conn : after.conn = before.conn

section

variable (lib : Library Ip IpNet) (t : TMQ Ip) (req : SubscribeReq)

theorem setAutoCommit_fst :
    (setAutoCommit lib t req).1 =
      { t with isAutoCommit :=
        if req.autoCommit = "" then t.isAutoCommit else flagOf req.autoCommit } := by
  rw [setAutoCommit, flagOf]
  by_cases absent : req.autoCommit = ""
  · simp [absent]
  · cases parsed : parseBool req.autoCommit with
    | none | some => simp [absent]

theorem setAutoCommit_snd :
    (setAutoCommit lib t req).2 = none ↔ req.autoCommit = "" ∨ parseBool req.autoCommit ≠ none := by
  rw [setAutoCommit]
  by_cases absent : req.autoCommit = ""
  · simp [absent]
  · cases parsed : parseBool req.autoCommit with
    | none | some => simp [absent]

def intervalOf (t : TMQ Ip) (text : String) : Int :=
  if text = "" then t.autocommitInterval
  else
    match parseInt text with
    | .ok ms => milliseconds ms
    | .error _ => t.autocommitInterval

theorem setAutocommitInterval_fst :
    (setAutocommitInterval lib t req).1 =
      { t with autocommitInterval := intervalOf t req.autoCommitIntervalMS } := by
  rw [setAutocommitInterval, intervalOf]
  by_cases absent : req.autoCommitIntervalMS = ""
  · simp [absent]
  · cases parsed : parseInt req.autoCommitIntervalMS with
    | ok | error => simp [absent]

theorem intervalOf_eq_iff (text : String) :
    intervalOf t text = t.autocommitInterval ↔
      text = "" ∨ ∀ ms, parseInt text = .ok ms → milliseconds ms = t.autocommitInterval := by
  rw [intervalOf]
  by_cases absent : text = ""
  · simp [absent]
  · cases parsed : parseInt text with
    | ok | error => simp [absent]

/-- The session a request is parsed into: only the two settings differ. -/
def parsed (t : TMQ Ip) (req : SubscribeReq) : TMQ Ip :=
  { t with
    isAutoCommit := if req.autoCommit = "" then t.isAutoCommit else flagOf req.autoCommit
    autocommitInterval :=
      if req.autoCommit ≠ "" ∧ parseBool req.autoCommit = none then t.autocommitInterval
      else intervalOf t req.autoCommitIntervalMS }

theorem parseRequest_fst : (parseRequest lib t req).1 = parsed t req := by
  have flag := setAutoCommit_fst lib t req
  have accepted := setAutoCommit_snd lib t req
  rw [parseRequest, parsed]
  cases res : setAutoCommit lib t req with
  | mk flagged refused =>
    rw [res] at flag accepted
    cases refused with
    | some error =>
      have refused : req.autoCommit ≠ "" ∧ parseBool req.autoCommit = none := by
        simpa using accepted
      rw [if_pos refused]
      exact flag
    | none =>
      have read : ¬ (req.autoCommit ≠ "" ∧ parseBool req.autoCommit = none) := by
        have := accepted.mp rfl
        tauto
      rw [if_neg read]
      simp only [setAutocommitInterval_fst]
      rw [show flagged = _ from flag]
      rfl

theorem parsed_unchanged_iff : Unchanged t (parsed t req) ↔ KeepsSettings t req := by
  have flag : (parsed t req).isAutoCommit = t.isAutoCommit ↔ KeepsFlag t req := by
    rw [KeepsFlag, parsed]
    by_cases absent : req.autoCommit = ""
    · simp [absent]
    · simp [absent]
  have interval : (parsed t req).autocommitInterval = t.autocommitInterval ↔
      KeepsInterval t req := by
    rw [KeepsInterval, parsed]
    by_cases refused : req.autoCommit ≠ "" ∧ parseBool req.autoCommit = none
    · simp [refused]
    · rw [if_neg refused, intervalOf_eq_iff]
      simp only [refused, false_or]
  rw [KeepsSettings, ← flag, ← interval]
  exact ⟨fun same => ⟨same.isAutoCommit, same.autocommitInterval⟩,
    fun same => ⟨same.1, same.2, rfl, rfl⟩⟩

end

section

variable {lib : Library Ip IpNet} {t : TMQ Ip} {req : SubscribeReq}

theorem errorAnswer_isError (reqID : UInt64) (error : Error) :
    (errorAnswer reqID error).isError = true := by
  cases error with
  | taos | plain => rfl

theorem subscribe_cases (noConsumer : t.consumer = none) (isOpen : t.closed = false) :
    ((subscribe lib t req).session = parsed t req ∧ (subscribe lib t req).answer.isError = true) ∨
      ∃ conn consumer, (subscribe lib t req).session =
          { parsed t req with conn := some conn, consumer := some consumer } ∧
        (subscribe lib t req).answer = .subscribed req.reqID := by
  have session := parseRequest_fst lib t req
  rw [subscribe, isOpen, noConsumer]
  simp only [Bool.false_eq_true, if_false]
  cases res : parseRequest lib t req with
  | mk after refused =>
    rw [res] at session
    obtain rfl : after = parsed t req := session
    cases refused with
    | some error => exact .inl ⟨rfl, errorAnswer_isError _ _⟩
    | none =>
      cases newConsumer lib req with
      | error error => exact .inl ⟨rfl, errorAnswer_isError _ _⟩
      | ok consumer =>
        simp only
        cases attach lib (parsed t req) req consumer with
        | error error => exact .inl ⟨rfl, errorAnswer_isError _ _⟩
        | ok conn => exact .inr ⟨conn, consumer, rfl, rfl⟩

theorem not_closed_of_answered (lib : Library Ip IpNet) (req : SubscribeReq)
    (answered : (subscribe lib t req).answer ≠ .silent) :
    t.closed = false := by
  by_contra closed
  rw [subscribe, if_pos (by simpa using closed)] at answered
  exact answered rfl

theorem session_of_refused (noConsumer : t.consumer = none)
    (refused : (subscribe lib t req).answer.isError = true) :
    (subscribe lib t req).session = parsed t req := by
  have isOpen : t.closed = false := by
    refine not_closed_of_answered lib req fun silent => ?_
    rw [silent] at refused
    cases refused
  rcases subscribe_cases noConsumer isOpen with ⟨session, _⟩ | ⟨_, _, _, answer⟩
  · exact session
  · rw [answer] at refused
    cases refused

end

/-- The times at which a session with these settings commits, from its next
time on. -/
def dueTimes (isAutoCommit : Bool) (interval next : Int) : List Int → List Int
  | [] => []
  | now :: rest =>
    if isAutoCommit = true ∧ next < now then
      now :: dueTimes isAutoCommit interval (now + interval) rest
    else dueTimes isAutoCommit interval next rest

variable {t : TMQ Ip}

theorem commitTimes_eq (times : List Int) (consumer : t.consumer.isNone = false)
    (isOpen : t.closed = false) :
    commitTimes t times = dueTimes t.isAutoCommit t.autocommitInterval t.nextTime times := by
  induction times generalizing t with
  | nil => rfl
  | cons now rest ih =>
    by_cases due : t.isAutoCommit = true ∧ t.nextTime < now
    · have committed : pollCommit t now =
          ({ t with nextTime := now + t.autocommitInterval }, true) := by
        simp [pollCommit, consumer, isOpen, due]
      rw [commitTimes, dueTimes, committed, if_pos due]
      exact congrArg (now :: ·) (ih
        (t := { t with nextTime := now + t.autocommitInterval }) consumer isOpen)
    · have kept : pollCommit t now = (t, false) := by
        simp [pollCommit, consumer, due]
      rw [commitTimes, dueTimes, kept, if_neg due]
      exact ih consumer isOpen

theorem settings_of_dueTimes {flag : Bool} {interval default : Int}
    (same : ∀ times, dueTimes flag interval 0 times = dueTimes true default 0 times) :
    flag = true ∧ interval = default := by
  have first := same [1]
  have flagged : flag = true := by
    by_contra off
    simp [dueTimes, off] at first
  subst flagged
  refine ⟨rfl, ?_⟩
  have second := same [1, 1 + max interval default]
  rcases Int.lt_trichotomy interval default with less | equal | more
  · rw [Int.max_eq_right (Int.le_of_lt less)] at second
    simp [dueTimes, less] at second
  · exact equal
  · rw [Int.max_eq_left (Int.le_of_lt more)] at second
    simp [dueTimes, more] at second

/-- A session to which requests come that are refused. -/
def refusals (IpNet : Type) (ip : Ip) (ipStr : String) :
    System (TMQ Ip) (Library Ip IpNet × SubscribeReq) where
  initial t := t = newTaosTMQ ip ipStr
  next t label :=
    let outcome := subscribe label.1 t label.2
    if outcome.answer.isError then some outcome.session else none

variable {ipStr : String}

theorem refusals_next {ip : Ip} {t' : TMQ Ip} {label : Library Ip IpNet × SubscribeReq}
    (stepped : (refusals IpNet ip ipStr).next t label = some t') :
    (subscribe label.1 t label.2).answer.isError = true ∧
      t' = (subscribe label.1 t label.2).session := by
  simp only [refusals] at stepped
  split at stepped
  · rename_i refused
    exact ⟨refused, (Option.some.inj stepped).symm⟩
  · cases stepped

variable {req : SubscribeReq}

theorem parsed_eq_self (keeps : KeepsSettings t req) : parsed t req = t := by
  obtain ⟨flag, interval, _, _⟩ := (parsed_unchanged_iff t req).mpr keeps
  obtain ⟨_, _, _, _, _, _, _, _, _⟩ := t
  simp only [parsed] at flag interval ⊢
  rw [flag, interval]

theorem new_of_refusals {ip : Ip}
    (reached : (refusals IpNet ip ipStr).ReachableUnder (fun t label => KeepsSettings t label.2) t)
    : t = newTaosTMQ ip ipStr := by
  have initially (t : TMQ Ip) (initial : (refusals IpNet ip ipStr).initial t) :
      t = newTaosTMQ ip ipStr := initial
  refine System.ReachableUnder.invariant initially
    (fun before label after new keeps stepped => ?_) reached
  obtain ⟨refused, rfl⟩ := refusals_next stepped
  subst new
  rw [session_of_refused rfl refused, parsed_eq_self keeps]

def accepting [Inhabited IpNet] : Library Ip IpNet where
  quote text := text
  tmqErr2Str _ := ""
  taosErrorStr := ""
  order options := options
  order_perm options := .refl options
  tmqConfSet _ _ := 0
  consumerNew _ := .ok 0
  tmqListAppend _ := 0
  tmqSubscribe _ _ := 0
  tmqGetConnect _ := 0
  getWhitelist _ := .ok [default]
  contains _ _ := true
  registerChangeWhitelist _ := .ok ()
  registerDropUser _ := .ok ()
  taosOptionsConnection _ _ _ := 0

/-- The next subscription commits at the times it would on a new session. -/
def CommitsAsNew (IpNet : Type) (t : TMQ Ip) : Prop :=
  ∀ (lib : Library Ip IpNet) (req : SubscribeReq) (times : List Int),
    (subscribe lib t req).answer.isSubscribed = true →
      commitTimes (subscribe lib t req).session times =
        commitTimes (subscribe lib (newTaosTMQ t.ip t.ipStr) req).session times

theorem commitTimes_subscribed {lib : Library Ip IpNet} (noConsumer : t.consumer = none)
    (answered : (subscribe lib t req).answer.isSubscribed = true) (times : List Int) :
    commitTimes (subscribe lib t req).session times =
      dueTimes (parsed t req).isAutoCommit (parsed t req).autocommitInterval t.nextTime times := by
  have isOpen : t.closed = false := by
    refine not_closed_of_answered lib req fun silent => ?_
    rw [silent] at answered
    cases answered
  rcases subscribe_cases noConsumer isOpen with ⟨_, refused⟩ | ⟨conn, consumer, session, _⟩
  · cases answer : (subscribe lib t req).answer <;> rw [answer] at answered refused
    · cases refused
    · cases refused
    · cases answered
  · rw [session]
    exact commitTimes_eq times
      (t := { parsed t req with conn := some conn, consumer := some consumer }) rfl isOpen

theorem accepting_subscribed [Inhabited IpNet] (noConsumer : t.consumer = none)
    (isOpen : t.closed = false) :
    (subscribe (accepting : Library Ip IpNet) t (plainReq 0 "" "" "" [])).answer =
      .subscribed 0 := by
  rw [subscribe, isOpen, noConsumer]
  rfl

theorem commitsAsNew_iff [Inhabited IpNet] (ip : Ip) (ipStr : String) (req : SubscribeReq) :
    CommitsAsNew IpNet (parsed (newTaosTMQ ip ipStr) req) ↔
      KeepsSettings (newTaosTMQ ip ipStr) req := by
  constructor
  · intro same
    -- A later request without settings shows the ones that were left behind.
    have granted (t : TMQ Ip) (noConsumer : t.consumer = none) (isOpen : t.closed = false) :
        (subscribe (accepting : Library Ip IpNet) t
          (plainReq 0 "" "" "" [])).answer.isSubscribed = true := by
      rw [accepting_subscribed noConsumer isOpen]
      rfl
    have settings : (parsed (newTaosTMQ ip ipStr) req).isAutoCommit = true ∧
        (parsed (newTaosTMQ ip ipStr) req).autocommitInterval = second * 5 := by
      refine settings_of_dueTimes fun times => ?_
      have equal := same accepting (plainReq 0 "" "" "" []) times (granted _ rfl rfl)
      rw [commitTimes_subscribed rfl (granted _ rfl rfl),
        commitTimes_subscribed rfl (granted _ rfl rfl)] at equal
      exact equal
    rw [← parsed_unchanged_iff]
    exact ⟨settings.1, settings.2, rfl, rfl⟩
  · intro keeps lib later times _
    rw [parsed_eq_self keeps]
    rfl

/-- A refused request leaves the automatic commit, the consumer and the
connection as they were exactly if it asks for nothing but the settings of the
session. On a session that has seen only such requests, the next subscription
then commits at the times it would on a new session, and only then. -/
theorem refused_subscribe_keeps_session [Inhabited IpNet] :
    (∀ (lib : Library Ip IpNet) (t : TMQ Ip) (req : SubscribeReq), t.consumer = none →
      (subscribe lib t req).answer.isError = true →
        (Unchanged t (subscribe lib t req).session ↔ KeepsSettings t req)) ∧
    (∀ (ip : Ip) (ipStr : String) (t : TMQ Ip),
      (refusals IpNet ip ipStr).ReachableUnder (fun t label => KeepsSettings t label.2) t →
        ∀ (lib : Library Ip IpNet) (req : SubscribeReq),
          (subscribe lib t req).answer.isError = true →
            (CommitsAsNew IpNet (subscribe lib t req).session ↔ KeepsSettings t req)) := by
  constructor
  · intro lib t req noConsumer refused
    rw [session_of_refused noConsumer refused]
    exact parsed_unchanged_iff t req
  · intro ip ipStr t reached lib req refused
    obtain rfl := new_of_refusals reached
    rw [session_of_refused rfl refused]
    exact commitsAsNew_iff ip ipStr req

/-- A library that refuses every new consumer. -/
def refusing [Inhabited IpNet] : Library Ip IpNet :=
  { accepting with consumerNew := fun _ => .error "invalid password" }

/-- A request with the default settings spelled out, refused for its password,
leaves a new session alone. -/
theorem refused_subscribe_keeps_default_settings :
    let req : SubscribeReq := { plainReq 1 "root" "wrong" "group" ["topic"] with
      autoCommit := "true", autoCommitIntervalMS := "5000" }
    let outcome := subscribe (refusing : Library Unit Unit) (newTaosTMQ () "") req
    outcome.answer = .error 0xffff "invalid password" 1 ∧
      Unchanged (newTaosTMQ () "") outcome.session ∧ CommitsAsNew Unit outcome.session := by
  intro req outcome
  have refused : outcome.answer = .error 0xffff "invalid password" 1 := by decide
  have isError : outcome.answer.isError = true := by rw [refused]; rfl
  have keeps : KeepsSettings (newTaosTMQ () "") req := by
    have interval : parseInt "5000" = .ok 5000 := by decide
    refine ⟨.inr rfl, .inr (.inr fun ms parsed => ?_)⟩
    obtain rfl := Except.ok.inj (interval.symm.trans parsed)
    rfl
  have result := @refused_subscribe_keeps_session Unit Unit _
  exact ⟨refused, (result.1 refusing _ req rfl isError).mpr keeps,
    (result.2 () "" _ (.start rfl) refusing req isError).mpr keeps⟩

/-- A request that turns the automatic commit off is refused for its password.
The next request, without settings, is granted, and its first poll does not
commit; on a new session it does. -/
theorem refused_subscribe_turns_commit_off :
    let first : SubscribeReq :=
      { plainReq 1 "root" "wrong" "group" ["topic"] with autoCommit := "false" }
    let next := plainReq 2 "root" "taosdata" "group" ["topic"]
    let left := (subscribe (refusing : Library Unit Unit) (newTaosTMQ () "") first).session
    (subscribe (refusing : Library Unit Unit) (newTaosTMQ () "") first).answer =
        .error 0xffff "invalid password" 1 ∧
      left.isAutoCommit = false ∧
      (subscribe (accepting : Library Unit Unit) left next).answer = .subscribed 2 ∧
      commitTimes (subscribe (accepting : Library Unit Unit) left next).session [1] = [] ∧
      commitTimes (subscribe (accepting : Library Unit Unit) (newTaosTMQ () "") next).session [1] =
        [1] :=
  ⟨rfl, rfl, rfl, rfl, rfl⟩

end TaosAdapter.Tmq.Subscribe
