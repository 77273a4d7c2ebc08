import TaosAdapter.Lib.Bytes

/-!
Contract: the message slot of a TMQ session and the buffer kept with it, from
`poll`, `fetch`, `fetchBlock`, `fetchRawBlock` and `fetchRawBlockNew` of
`controller/ws/tmq/tmq.go`.

Owns: what each request does with the slot and what it answers, in the order of
the slot's lock. What the library answers belongs to the request that asks it.

The buffer outlives the message it was filled from: `poll` puts a new message
into the slot and leaves the buffer, a `fetch` that finds no further block
leaves it, and the two requests for raw data fill it with their own response.
`fetchBlock` compares only the index of the slot with the request.
-/

namespace TaosAdapter.Tmq

open Lib

def TMQ_RES_DATA : Int := 1
def TMQ_RES_TABLE_META : Int := 2
def TMQ_RES_METADATA : Int := 3

def canGetData (messageType : Int) : Bool :=
  messageType = TMQ_RES_DATA || messageType = TMQ_RES_METADATA

def messageTypeIsValid (messageType : Int) : Bool :=
  messageType = TMQ_RES_DATA || messageType = TMQ_RES_TABLE_META || messageType = TMQ_RES_METADATA

/-- What the library says of a polled message. -/
structure Polled where
  type : Int
  topic : String
  database : String
  vgroupID : Int
  offset : Int
deriving DecidableEq

def TMQRawMessage : Nat := 3

def TMQFetchRawNewMessage : Nat := 8

/-- What stands behind the first word of the buffer. -/
inductive Content where
  | block (reqID messageID : UInt64) (data : Bytes)
  | raw (reqID messageID : UInt64) (metaType : UInt16) (data : Bytes)
  | rawNew (timing reqID messageID : UInt64) (metaType : UInt16) (data : Bytes)
deriving DecidableEq

def Content.bytes : Content → Bytes
  | .block reqID messageID data => leBytes 8 reqID.toNat ++ leBytes 8 messageID.toNat ++ data
  | .raw reqID messageID metaType data =>
    leBytes 8 reqID.toNat ++ leBytes 8 messageID.toNat ++ leBytes 8 TMQRawMessage ++
      leBytes 4 data.length ++ leBytes 2 metaType.toNat ++ data
  | .rawNew timing reqID messageID metaType data =>
    leBytes 8 TMQFetchRawNewMessage ++ leBytes 2 1 ++ leBytes 8 timing.toNat ++
      leBytes 8 reqID.toNat ++ leBytes 4 0 ++ leBytes 4 0 ++ leBytes 8 messageID.toNat ++
      leBytes 2 metaType.toNat ++ leBytes 4 data.length ++ data

/-- A filled buffer. `fetchBlock` writes its time over the first word. -/
structure Buffer where
  word : UInt64
  content : Content
deriving DecidableEq

def Buffer.bytes (buffer : Buffer) : Bytes :=
  leBytes 8 buffer.word.toNat ++ buffer.content.bytes

/-- The slot. `held` says that `CPointer` is not nil. -/
structure Message where
  index : UInt64
  topic : String
  vgroupID : Int
  offset : Int
  type : Int
  held : Bool
  buffer : Option Buffer
deriving DecidableEq

/-- A session: whether its consumer is set, and its slot. -/
structure Session where
  consumer : Bool
  tmpMessage : Message
deriving DecidableEq

def opened (consumer : Bool) : Session := ⟨consumer, ⟨0, "", 0, 0, 0, false, none⟩⟩

def Session.fill (session : Session) (buffer : Buffer) : Session :=
  { session with tmpMessage := { session.tmpMessage with buffer := some buffer } }

/-- The answer of `fetch_raw_block`. -/
structure FetchRawBlockResult where
  code : Int
  blockSize : Int
  block : Bytes
deriving DecidableEq

/-- The answer of `tmq_get_raw`. -/
structure GetRawResult where
  errCode : Int
  metaType : UInt16
  data : Bytes
deriving DecidableEq

/-- What the library says of the table of a block. -/
structure TableInfo where
  tableName : String
  fieldsNames : List String
  fieldsTypes : List UInt8
  fieldsLengths : List Int
  precision : Int
deriving DecidableEq

/-- A request with the answers it meets. No answer of the library means that
the session was closed when the library was to be called; for `poll` also that
there was no message, `closing` being what it saw when it came to free the old
message. -/
inductive Request where
  | poll (reqID : UInt64) (answer : Option Polled) (closing : Bool)
  | fetch (reqID messageID : UInt64) (answer : Option FetchRawBlockResult) (info : TableInfo)
  | fetchBlock (reqID messageID timing : UInt64)
  | fetchRawBlock (reqID messageID timing : UInt64) (answer : Option GetRawResult)
  | fetchRawBlockNew (reqID messageID timing : UInt64) (answer : Option GetRawResult)
deriving DecidableEq

inductive Response where
  | error (code : Int) (message action : String) (reqID : UInt64) (messageID : Option UInt64)
  | rawError (code : Int) (message : String) (reqID messageID timing : UInt64)
  | poll (reqID : UInt64) (message : Option (UInt64 × Polled))
  | completed (reqID messageID : UInt64)
  | fetch (reqID messageID : UInt64) (rows : Int) (info : TableInfo)
  | binary (buffer : Buffer)
deriving DecidableEq

section

-- `TMQErr2Str`
variable (errStr : Int → String)

/-- The checks in front of the library call; they differ in the text for another
message and in whether the message has to have data. -/
def refusal (notEqual : String) (dataOnly : Bool) (session : Session) (messageID : UInt64) :
    Option String :=
  if session.consumer = false then some "tmq not init"
  else if session.tmpMessage.held = false then some "message has been freed"
  else if session.tmpMessage.index ≠ messageID then some notEqual
  else if dataOnly && !canGetData session.tmpMessage.type then some "message type is not data"
  else none

def poll (session : Session) (reqID : UInt64) (answer : Option Polled) (closing : Bool) :
    Session × Option Response :=
  if session.consumer = false then
    (session, some (.error 0xffff "tmq not init" "poll" reqID none))
  else
    match answer with
    | none => (session, some (.poll reqID none))
    | some polled =>
      if messageTypeIsValid polled.type then
        -- The old message cannot be freed any more; the new one is freed instead.
        if session.tmpMessage.held && closing then (session, none)
        else
          let index := session.tmpMessage.index + 1
          ({ session with tmpMessage := { session.tmpMessage with
              index := index, topic := polled.topic, vgroupID := polled.vgroupID,
              offset := polled.offset, type := polled.type, held := true } },
            some (.poll reqID (some (index, polled))))
      else
        (session,
          some
            (.error 0xffff ("unavailable tmq type:" ++ toString polled.type) "poll" reqID none))

def fetch (session : Session) (reqID messageID : UInt64) (answer : Option FetchRawBlockResult)
    (info : TableInfo) : Session × Option Response :=
  match refusal "message ID are not equal" true session messageID with
  | some text => (session, some (.error 0xffff text "fetch" reqID (some messageID)))
  | none =>
    match answer with
    | none => (session, none)
    | some rawBlock =>
      if rawBlock.code ≠ 0 then
        (session, some (.error (rawBlock.code % 0x10000) (errStr rawBlock.code) "fetch" reqID
          (some messageID)))
      else if rawBlock.blockSize = 0 then (session, some (.completed reqID messageID))
      else
        (session.fill ⟨0, .block reqID messageID rawBlock.block⟩,
          some (.fetch reqID messageID rawBlock.blockSize info))

variable (session : Session)

def fetchBlock (reqID messageID timing : UInt64) : Session × Option Response :=
  match refusal "message is nil" true session messageID with
  | some text => (session, some (.error 0xffff text "fetch_block" reqID (some messageID)))
  | none =>
    match session.tmpMessage.buffer with
    | none => (session, some (.error 0xffff "no fetch data" "fetch_block" reqID (some messageID)))
    | some buffer =>
      let stamped := { buffer with word := timing }
      (session.fill stamped, some (.binary stamped))

/-- `fetchRawBlock` and `fetchRawBlockNew` up to how they report a failure and
what they write. -/
def fetchRaw (failed : Int → String → Response) (written : GetRawResult → Buffer)
    (session : Session) (messageID : UInt64) (answer : Option GetRawResult) :
    Session × Option Response :=
  match refusal "message ID is not equal" false session messageID with
  | some text => (session, some (failed 0xffff text))
  | none =>
    match answer with
    | none => (session, none)
    | some raw =>
      if raw.errCode ≠ 0 then
        (session, some (failed (raw.errCode % 0x10000) (errStr raw.errCode)))
      else (session.fill (written raw), some (.binary (written raw)))

def fetchRawBlock (reqID messageID timing : UInt64)
    (answer : Option GetRawResult) : Session × Option Response :=
  fetchRaw errStr (fun code text => .error code text "fetch_raw" reqID (some messageID))
    (fun raw => ⟨timing, .raw reqID messageID raw.metaType raw.data⟩) session messageID answer

def fetchRawBlockNew (reqID messageID timing : UInt64)
    (answer : Option GetRawResult) : Session × Option Response :=
  fetchRaw errStr (fun code text => .rawError code text reqID messageID timing)
    (fun raw => ⟨0xffffffffffffffff, .rawNew timing reqID messageID raw.metaType raw.data⟩)
    session messageID answer

def handle : Request → Session × Option Response
  | .poll reqID answer closing => poll session reqID answer closing
  | .fetch reqID messageID answer info => fetch errStr session reqID messageID answer info
  | .fetchBlock reqID messageID timing => fetchBlock session reqID messageID timing
  | .fetchRawBlock reqID messageID timing answer =>
    fetchRawBlock errStr session reqID messageID timing answer
  | .fetchRawBlockNew reqID messageID timing answer =>
    fetchRawBlockNew errStr session reqID messageID timing answer

/-- The session after a sequence of requests, the latest one first. -/
def sessionAfter (consumer : Bool) : List Request → Session
  | [] => opened consumer
  | request :: earlier => (handle errStr (sessionAfter consumer earlier) request).1

/-- What a request is answered behind a sequence of requests. -/
def answerAfter (consumer : Bool) (earlier : List Request) (request : Request) : Option Response :=
  (handle errStr (sessionAfter errStr consumer earlier) request).2

end

end TaosAdapter.Tmq
