import TaosAdapter.Lib.Transition
import Mathlib.Data.List.Perm.Basic
import Mathlib.Algebra.GroupWithZero.Nat

/-!
Contract: `subscribe` of `controller/ws/tmq/tmq.go` with its failure exits, the
defaults of `NewTaosTMQ`, and the automatic commit at the head of `poll`.

Owns: the session fields these three read and write, the options given to the
library, the order of the calls, the answer of each exit, and the two parsers of
`strconv` that the request's texts go through.

A session is subscribed with its lock held, so the requests are taken one after
the other. What the library answers belongs to the request that asks it. A time
is a number of nanoseconds after the zero time of Go; a duration is an `int64`.
-/

namespace TaosAdapter.Tmq.Subscribe

open Lib

inductive NumError where
  | invalidSyntax
  | outOfRange
deriving DecidableEq

def NumError.text : NumError → String
  | .invalidSyntax => "invalid syntax"
  | .outOfRange => "value out of range"

/-- The text of a `strconv.NumError`; `quote` is `strconv.Quote`. -/
def numErrorText (quote : String → String) (func num : String) (error : NumError) : String :=
  "strconv." ++ func ++ ": parsing " ++ quote num ++ ": " ++ error.text

/-- `strconv.ParseBool`; its only error is the invalid syntax. -/
def parseBool (str : String) : Option Bool :=
  match str with
  | "1" | "t" | "T" | "true" | "TRUE" | "True" => some true
  | "0" | "f" | "F" | "false" | "FALSE" | "False" => some false
  | _ => none

def maxUint64 : Nat := 2 ^ 64 - 1

/-- The loop of `strconv.ParseUint` in base 10. -/
def parseUint (value : Nat) : List Char → Except NumError Nat
  | [] => .ok value
  | digit :: rest =>
    if digit < '0' ∨ '9' < digit then .error .invalidSyntax
    else if maxUint64 / 10 + 1 ≤ value then .error .outOfRange
    else
      let next := value * 10 + (digit.toNat - '0'.toNat)
      if maxUint64 < next then .error .outOfRange else parseUint next rest

/-- What follows the sign in `strconv.ParseInt`. -/
def parseSigned (negative : Bool) (digits : List Char) : Except NumError Int :=
  if digits = [] then .error .invalidSyntax
  else
    match parseUint 0 digits with
    | .error error => .error error
    | .ok magnitude =>
      if negative then
        if 2 ^ 63 < magnitude then .error .outOfRange else .ok (-magnitude)
      else if 2 ^ 63 ≤ magnitude then .error .outOfRange else .ok magnitude

def parseInt (s : String) : Except NumError Int :=
  match s.toList with
  | '+' :: digits => parseSigned false digits
  | '-' :: digits => parseSigned true digits
  | digits => parseSigned false digits

/-- The fields of a session that subscribing and committing use. -/
structure TMQ (Ip : Type) where
  consumer : Option Nat
  conn : Option Nat
  isAutoCommit : Bool
  autocommitInterval : Int
  nextTime : Int
  unsubscribed : Bool
  closed : Bool
  ip : Ip
  ipStr : String

def second : Int := 1000000000

def millisecond : Int := 1000000

def newTaosTMQ {Ip : Type} (ip : Ip) (ipStr : String) : TMQ Ip where
  consumer := none
  conn := none
  isAutoCommit := true
  autocommitInterval := second * 5
  nextTime := 0
  unsubscribed := false
  closed := false
  ip := ip
  ipStr := ipStr

/-- `TMQSubscribeReq`. -/
structure SubscribeReq where
  reqID : UInt64
  user : String
  password : String
  db : String
  groupID : String
  clientID : String
  offsetRest : String
  offsetReset : String
  topics : List String
  autoCommit : String
  autoCommitIntervalMS : String
  snapshotEnable : String
  withTableName : String
  enableBatchMeta : String
  msgConsumeExcluded : String
  sessionTimeoutMS : String
  maxPollIntervalMS : String
  tz : String
  app : String
  ip : String
deriving DecidableEq

/-- A request whose optional fields are absent. -/
def plainReq (reqID : UInt64) (user password groupID : String) (topics : List String) :
    SubscribeReq :=
  ⟨reqID, user, password, "", groupID, "", "", "", topics, "", "", "", "", "", "", "", "", "", "",
    ""⟩

/-- A `TaosError`, or an error that has only a text. -/
inductive Error where
  | taos (code : Int) (text : String)
  | plain (text : String)
deriving DecidableEq

inductive ConnectionOption where
  | userIP
  | timezone
  | userApp
deriving DecidableEq

/-- What the library and the runtime answer while one request is handled. -/
structure Library (Ip IpNet : Type) where
  /-- `strconv.Quote`. -/
  quote : String → String
  tmqErr2Str : Int → String
  taosErrorStr : String
  /-- The order in which the range over `tmqOptions` meets its pairs. -/
  order : List (String × String) → List (String × String)
  order_perm : ∀ options, (order options).Perm options
  tmqConfSet : String → String → Int
  consumerNew : List (String × String) → Except String Nat
  tmqListAppend : String → Int
  tmqSubscribe : Nat → List String → Int
  tmqGetConnect : Nat → Nat
  getWhitelist : Nat → Except Error (List IpNet)
  contains : IpNet → Ip → Bool
  registerChangeWhitelist : Nat → Except Error Unit
  registerDropUser : Nat → Except Error Unit
  taosOptionsConnection : Nat → ConnectionOption → String → Int

/-- What the client is told. Nothing is written once the session is closed. -/
inductive Answer where
  | silent
  | subscribed (reqID : UInt64)
  | error (code : Int) (message : String) (reqID : UInt64)
deriving DecidableEq

def errorAnswer (reqID : UInt64) : Error → Answer
  | .taos code text => .error (code % 0x10000) text reqID
  | .plain text => .error 0xffff text reqID

structure Outcome (Ip : Type) where
  session : TMQ Ip
  answer : Answer
  /-- The consumer `closeConsumerWithErrLog` closes. -/
  closedConsumer : Option Nat := none

section

variable {Ip IpNet : Type} (lib : Library Ip IpNet)

/-- A pair of `tmqOptions` that is set only for a nonempty text. -/
def optional (key value : String) : List (String × String) :=
  if value = "" then [] else [(key, value)]

def tmqOptions (req : SubscribeReq) : List (String × String) :=
  optional "group.id" req.groupID ++
  optional "client.id" req.clientID ++
  optional "td.connect.db" req.db ++
  optional "auto.offset.reset" (if req.offsetReset = "" then req.offsetRest else req.offsetReset) ++
  [("td.connect.user", req.user), ("td.connect.pass", req.password)] ++
  optional "msg.with.table.name" req.withTableName ++
  optional "msg.consume.excluded" req.msgConsumeExcluded ++
  [("enable.auto.commit", "false")] ++
  optional "experimental.snapshot.enable" req.snapshotEnable ++
  optional "msg.enable.batchmeta" req.enableBatchMeta ++
  optional "session.timeout.ms" req.sessionTimeoutMS ++
  optional "max.poll.interval.ms" req.maxPollIntervalMS

variable (t : TMQ Ip)

/-- `t.isAutoCommit, err = strconv.ParseBool(req.AutoCommit)`: the field is
assigned also when the text is refused. -/
def setAutoCommit (req : SubscribeReq) : TMQ Ip × Option Error :=
  if req.autoCommit = "" then (t, none)
  else
    match parseBool req.autoCommit with
    | some value => ({ t with isAutoCommit := value }, none)
    | none =>
      ({ t with isAutoCommit := false },
        some (.plain (numErrorText lib.quote "ParseBool" req.autoCommit .invalidSyntax)))

/-- `time.Duration(ms) * time.Millisecond`, in `int64`. -/
def milliseconds (ms : Int) : Int :=
  (ms * millisecond).bmod (2 ^ 64)

def setAutocommitInterval (req : SubscribeReq) : TMQ Ip × Option Error :=
  if req.autoCommitIntervalMS = "" then (t, none)
  else
    match parseInt req.autoCommitIntervalMS with
    | .ok ms => ({ t with autocommitInterval := milliseconds ms }, none)
    | .error error =>
      (t, some (.plain (numErrorText lib.quote "ParseInt" req.autoCommitIntervalMS error)))

/-- The session fields that are assigned while the request is parsed. -/
def parseRequest (req : SubscribeReq) : TMQ Ip × Option Error :=
  match setAutoCommit lib t req with
  | (flagged, some error) => (flagged, some error)
  | (flagged, none) => setAutocommitInterval lib flagged req

def tmqCheck (code : Int) : Except Error Unit :=
  if code = 0 then .ok () else .error (.taos code (lib.tmqErr2Str code))

/-- Fill the configuration and make a consumer with it. -/
def newConsumer (req : SubscribeReq) : Except Error Nat := do
  let options := lib.order (tmqOptions req)
  options.forM fun option => tmqCheck lib (lib.tmqConfSet option.1 option.2)
  match lib.consumerNew options with
  | .ok consumer => pure consumer
  | .error text => throw (.plain text)

def listTopics (topics : List String) : Except Error Unit :=
  topics.forM fun topic => tmqCheck lib (lib.tmqListAppend topic)

/-- `TaosOptionsConnection` with the error of its caller. -/
def setOption (conn : Nat) (option : ConnectionOption) (value : String) : Except Error Unit :=
  let code := lib.taosOptionsConnection conn option value
  if code = 0 then .ok () else .error (.taos code lib.taosErrorStr)

/-- Everything between the new consumer and the session's fields. -/
def attach (req : SubscribeReq) (consumer : Nat) : Except Error Nat := do
  listTopics lib req.topics
  tmqCheck lib (lib.tmqSubscribe consumer req.topics)
  let conn := lib.tmqGetConnect consumer
  let whitelist ← lib.getWhitelist conn
  if whitelist.any (fun ipNet => lib.contains ipNet t.ip) then pure ()
  else throw (.plain "whitelist prohibits current IP access")
  lib.registerChangeWhitelist conn
  lib.registerDropUser conn
  setOption lib conn .userIP (if req.ip = "" then t.ipStr else req.ip)
  if req.tz = "" then pure () else setOption lib conn .timezone req.tz
  if req.app = "" then pure () else setOption lib conn .userApp req.app
  pure conn

/-- The branch of `subscribe` for a session that has a consumer. -/
def resubscribe (req : SubscribeReq) (consumer : Nat) : Outcome Ip :=
  if t.unsubscribed then
    match (do listTopics lib req.topics
              tmqCheck lib (lib.tmqSubscribe consumer req.topics)) with
    | .error error => ⟨t, errorAnswer req.reqID error, none⟩
    | .ok () => ⟨{ t with unsubscribed := false }, .subscribed req.reqID, none⟩
  else ⟨t, errorAnswer req.reqID (.plain "tmq should have unsubscribed first"), none⟩

def subscribe (req : SubscribeReq) : Outcome Ip :=
  if t.closed then ⟨t, .silent, none⟩
  else
    match t.consumer with
    | some consumer => resubscribe lib t req consumer
    | none =>
      match parseRequest lib t req with
      | (parsed, some error) => ⟨parsed, errorAnswer req.reqID error, none⟩
      | (parsed, none) =>
        match newConsumer lib req with
        | .error error => ⟨parsed, errorAnswer req.reqID error, none⟩
        | .ok consumer =>
          match attach lib parsed req consumer with
          | .error error => ⟨parsed, errorAnswer req.reqID error, some consumer⟩
          | .ok conn =>
            ⟨{ parsed with conn := some conn, consumer := some consumer },
              .subscribed req.reqID, none⟩

end

section

variable {Ip : Type}

/-- The head of `poll` at a time: the session after it, and whether the library
was asked to commit. A closed session is found out before the call. -/
def pollCommit (t : TMQ Ip) (now : Int) : TMQ Ip × Bool :=
  if t.consumer.isNone then (t, false)
  else if t.isAutoCommit = true ∧ t.nextTime < now then
    if t.closed then (t, false)
    else ({ t with nextTime := now + t.autocommitInterval }, true)
  else (t, false)

/-- The times at which a sequence of polls commits. -/
def commitTimes (t : TMQ Ip) : List Int → List Int
  | [] => []
  | now :: rest =>
    match pollCommit t now with
    | (after, true) => now :: commitTimes after rest
    | (after, false) => commitTimes after rest

end

end TaosAdapter.Tmq.Subscribe
