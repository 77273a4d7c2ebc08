import TaosAdapter.Tmq.Messages

/-!
Owns: which block a `fetch_block` request is answered with. The answer should be
the block of the latest successful `fetch` of the message in the slot;
`fetch_block_genuine_iff` says for which sequences of requests it always is.

The fetches of a message lie behind the poll that brought it, so looking back
from a request ends at that poll. An index would not do to name a message: it is
counted modulo 2^64.
-/

namespace TaosAdapter.Tmq

open Lib Option

def Response.bringsMessage : Response → Bool
  | .poll _ (some _) => true
  | _ => false

/-- The message, the request and the library's answer of a `fetch` that did not
fail: it got a block or is completed. -/
def successfulFetch : Request → Option Response → Option (UInt64 × UInt64 × FetchRawBlockResult)
  | .fetch reqID messageID (some result) _, some (.completed _ _) => some (messageID, reqID, result)
  | .fetch reqID messageID (some result) _, some (.fetch _ _ _ _) => some (messageID, reqID, result)
  | _, _ => none

section

variable (errStr : Int → String) (consumer : Bool)

def latestFetch (messageID : UInt64) : List Request → Option (UInt64 × FetchRawBlockResult)
  | [] => none
  | request :: earlier =>
    if (answerAfter errStr consumer earlier request).any Response.bringsMessage then none
    else
      match successfulFetch request (answerAfter errStr consumer earlier request) with
      | some (fetchedID, reqID, result) =>
        if fetchedID = messageID then some (reqID, result) else latestFetch messageID earlier
      | none => latestFetch messageID earlier

/-- The block was obtained by the latest successful `fetch` of the message, and
the header carries the message. -/
def Genuine (earlier : List Request) (messageID : UInt64) (buffer : Buffer) : Prop :=
  (∃ reqID result, latestFetch errStr consumer messageID earlier = some (reqID, result) ∧
    result.blockSize ≠ 0 ∧ buffer.content = .block reqID messageID result.block) ∧
  (buffer.bytes.drop 16).take 8 = leBytes 8 messageID.toNat

/-- Every `fetch_block` of the sequence that is answered with a block is answered
with the block of the latest successful `fetch` of its message. -/
def FetchBlockGenuine (history : List Request) : Prop :=
  ∀ later reqID messageID timing earlier buffer,
    history = later ++ .fetchBlock reqID messageID timing :: earlier →
    answerAfter errStr consumer earlier (.fetchBlock reqID messageID timing) =
      some (.binary buffer) →
    Genuine errStr consumer earlier messageID buffer

structure Current (session : Session) (messageID : UInt64) : Prop where
  consumer : session.consumer = true
  held : session.tmpMessage.held = true
  index : session.tmpMessage.index = messageID
  data : canGetData session.tmpMessage.type = true

def Stores (session : Session) (answer : Option Polled) (closing : Bool) : Prop :=
  ∃ polled, answer = some polled ∧ messageTypeIsValid polled.type = true ∧
    (session.tmpMessage.held && closing) = false

section

variable (messageID : UInt64)

/-- Looking back from a request for the message in the slot: the last request
that got something from the message is a `fetch` that got a block, or what is
found instead of one (the poll of the message, a completed `fetch`) met an empty
buffer. -/
inductive Prepared : List Request → Prop where
  | start : Prepared []
  | polled {reqID answer closing earlier}
      (stores : Stores (sessionAfter errStr consumer earlier) answer closing)
      (empty : (sessionAfter errStr consumer earlier).tmpMessage.buffer = none) :
      Prepared (.poll reqID answer closing :: earlier)
  | nothingPolled {reqID answer closing earlier}
      (passes : ¬ Stores (sessionAfter errStr consumer earlier) answer closing)
      (before : Prepared earlier) :
      Prepared (.poll reqID answer closing :: earlier)
  | fetched {reqID result info earlier} (succeeded : result.code = 0)
      (block : result.blockSize ≠ 0) :
      Prepared (.fetch reqID messageID (some result) info :: earlier)
  | completed {reqID result info earlier} (succeeded : result.code = 0)
      (done : result.blockSize = 0)
      (empty : (sessionAfter errStr consumer earlier).tmpMessage.buffer = none) :
      Prepared (.fetch reqID messageID (some result) info :: earlier)
  | notFetched {reqID fetchedID answer info earlier}
      (passes : ∀ result, answer = some result → fetchedID = messageID → result.code ≠ 0)
      (before : Prepared earlier) :
      Prepared (.fetch reqID fetchedID answer info :: earlier)
  | fetchBlock {reqID fetchedID timing earlier} (before : Prepared earlier) :
      Prepared (.fetchBlock reqID fetchedID timing :: earlier)
  | rawNotFetched {reqID fetchedID timing answer earlier}
      (passes : ∀ raw, answer = some raw → fetchedID = messageID → raw.errCode ≠ 0)
      (before : Prepared earlier) :
      Prepared (.fetchRawBlock reqID fetchedID timing answer :: earlier)
  | rawNewNotFetched {reqID fetchedID timing answer earlier}
      (passes : ∀ raw, answer = some raw → fetchedID = messageID → raw.errCode ≠ 0)
      (before : Prepared earlier) :
      Prepared (.fetchRawBlockNew reqID fetchedID timing answer :: earlier)

end

def FetchedBeforeFetchBlock (history : List Request) : Prop :=
  ∀ later reqID messageID timing earlier,
    history = later ++ .fetchBlock reqID messageID timing :: earlier →
    Current (sessionAfter errStr consumer earlier) messageID →
    Prepared errStr consumer messageID earlier

end

section

variable {errStr : Int → String} {session : Session} {messageID : UInt64} {notEqual : String}

theorem refusal_eq_none_iff :
    refusal notEqual true session messageID = none ↔ Current session messageID := by
  unfold refusal
  constructor
  · intro accepted
    split at accepted
    · cases accepted
    · rename_i consumer
      split at accepted
      · cases accepted
      · rename_i held
        split at accepted
        · cases accepted
        · rename_i idx
          split at accepted
          · cases accepted
          · rename_i data
            exact ⟨by simpa using consumer, by simpa using held, by simpa using idx,
              by simpa using data⟩
  · intro current
    simp [current.consumer, current.held, current.index, current.data]

variable {dataOnly : Bool}

theorem index_of_not_refused (accepted : refusal notEqual dataOnly session messageID = none) :
    messageID = session.tmpMessage.index := by
  unfold refusal at accepted
  split at accepted
  · cases accepted
  · split at accepted
    · cases accepted
    · split at accepted
      · cases accepted
      · rename_i same
        exact (not_not.mp same).symm

theorem Current.notRefused (current : Current session messageID) :
    refusal notEqual dataOnly session messageID = none := by
  unfold refusal
  simp [current.consumer, current.held, current.index, current.data]

theorem current_fill {buf : Buffer} :
    Current (session.fill buf) messageID ↔ Current session messageID :=
  ⟨fun current => ⟨current.consumer, current.held, current.index, current.data⟩,
    fun current => ⟨current.consumer, current.held, current.index, current.data⟩⟩

variable {reqID : UInt64} {closing : Bool} {answer : Option Polled}

theorem poll_stores (consumer : session.consumer = true) (stores : Stores session answer closing) :
    (poll session reqID answer closing).1.tmpMessage.buffer = session.tmpMessage.buffer ∧
      (poll session reqID answer closing).2.any Response.bringsMessage = true := by
  obtain ⟨polled, rfl, valid, freed⟩ := stores
  simp [poll, consumer, valid, freed, Response.bringsMessage]

theorem poll_passes (passes : ¬ Stores session answer closing) :
    (poll session reqID answer closing).1 = session ∧
      (poll session reqID answer closing).2.any Response.bringsMessage = false := by
  unfold poll
  split
  · exact ⟨rfl, rfl⟩
  · cases answer with
    | none => exact ⟨rfl, rfl⟩
    | some polled =>
      dsimp only
      split
      · rename_i valid
        split
        · exact ⟨rfl, rfl⟩
        · rename_i freed
          exact absurd ⟨polled, rfl, valid, Bool.eq_false_iff.mpr freed⟩ passes
      · exact ⟨rfl, rfl⟩

section

variable {reqID fetchedID timing : UInt64}

theorem fetch_passes {answer : Option FetchRawBlockResult} {info : TableInfo}
    (passes : ∀ res, answer = some res → fetchedID = session.tmpMessage.index → res.code ≠ 0) :
    (fetch errStr session reqID fetchedID answer info).1 = session ∧
      successfulFetch (.fetch reqID fetchedID answer info)
        (fetch errStr session reqID fetchedID answer info).2 = none := by
  unfold fetch
  split
  · cases answer <;> exact ⟨rfl, rfl⟩
  · rename_i accepted
    cases answer with
    | none => exact ⟨rfl, rfl⟩
    | some res =>
      dsimp only
      rw [if_pos (passes res rfl (index_of_not_refused accepted))]
      exact ⟨rfl, rfl⟩

theorem current_fetch {answer : Option FetchRawBlockResult} {info : TableInfo} :
    Current (fetch errStr session reqID fetchedID answer info).1 messageID ↔
      Current session messageID := by
  unfold fetch
  repeat' split
  all_goals first | exact Iff.rfl | exact current_fill

variable {res : FetchRawBlockResult}

theorem fetch_completed {info : TableInfo} (current : Current session messageID)
    (succeeded : res.code = 0) (done : res.blockSize = 0) :
    fetch errStr session reqID messageID (some res) info =
      (session, some (.completed reqID messageID)) := by
  simp [fetch, current.notRefused, succeeded, done]

theorem fetch_block {info : TableInfo} (current : Current session messageID)
    (succeeded : res.code = 0) (block : res.blockSize ≠ 0) :
    fetch errStr session reqID messageID (some res) info =
      (session.fill ⟨0, .block reqID messageID res.block⟩,
        some (.fetch reqID messageID res.blockSize info)) := by
  simp [fetch, current.notRefused, succeeded, block]

variable {answer : Option GetRawResult}

section

variable {failed : Int → String → Response} {written : GetRawResult → Buffer}

theorem fetchRaw_passes (passes : ∀ raw, answer = some raw →
      fetchedID = session.tmpMessage.index → raw.errCode ≠ 0) :
    (fetchRaw errStr failed written session fetchedID answer).1 = session := by
  unfold fetchRaw
  split
  · rfl
  · rename_i accepted
    cases answer with
    | none => rfl
    | some raw =>
      dsimp only
      rw [if_pos (passes raw rfl (index_of_not_refused accepted))]

theorem current_fetchRaw :
    Current (fetchRaw errStr failed written session fetchedID answer).1 messageID ↔
      Current session messageID := by
  unfold fetchRaw
  repeat' split
  all_goals first | exact Iff.rfl | exact current_fill

end

theorem current_fetchBlock : Current (fetchBlock session reqID fetchedID timing).1 messageID ↔
      Current session messageID := by
  unfold fetchBlock
  repeat' split
  all_goals first | exact Iff.rfl | exact current_fill

theorem content_fetchBlock :
    (fetchBlock session reqID fetchedID timing).1.tmpMessage.buffer.map Buffer.content =
      session.tmpMessage.buffer.map Buffer.content := by
  unfold fetchBlock
  split
  · rfl
  · split
    · rfl
    · rename_i buf filled
      rw [filled]
      rfl

end

theorem poll_consumer : (poll session reqID answer closing).1.consumer = session.consumer := by
  unfold poll
  split
  · rfl
  · cases answer with
    | none => rfl
    | some polled =>
      dsimp only
      split
      · split <;> rfl
      · rfl

theorem bringsMessage_poll {request : Request}
    (brings : (handle errStr session request).2.any Response.bringsMessage = true) :
    ∃ reqID answer closing, request = .poll reqID answer closing := by
  cases request with
  | poll reqID answer closing => exact ⟨reqID, answer, closing, rfl⟩
  | fetch reqID messageID answer info =>
    simp only [handle, fetch] at brings
    repeat' split at brings
    all_goals cases brings
  | fetchBlock reqID messageID timing =>
    simp only [handle, fetchBlock] at brings
    repeat' split at brings
    all_goals cases brings
  | fetchRawBlock reqID messageID timing answer =>
    simp only [handle, fetchRawBlock, fetchRaw] at brings
    repeat' split at brings
    all_goals cases brings
  | fetchRawBlockNew reqID messageID timing answer =>
    simp only [handle, fetchRawBlockNew, fetchRaw] at brings
    repeat' split at brings
    all_goals cases brings

end

variable {messageID : UInt64}

theorem header_of_block {buf : Buffer} {reqID : UInt64} {data : Bytes}
    (content : buf.content = .block reqID messageID data) :
    (buf.bytes.drop 16).take 8 = leBytes 8 messageID.toNat := by
  have front : (leBytes 8 buf.word.toNat ++ leBytes 8 reqID.toNat).length = 16 := by simp
  have split : buf.bytes = (leBytes 8 buf.word.toNat ++ leBytes 8 reqID.toNat) ++
        (leBytes 8 messageID.toNat ++ data) := by
    simp [Buffer.bytes, content, Content.bytes]
  rw [split, ← front, List.drop_left, List.take_left' (by simp)]

section

variable {errStr : Int → String} {consumer : Bool} {messageID : UInt64} {request : Request}
  {earlier : List Request}

theorem latestFetch_brings
    (brings : (answerAfter errStr consumer earlier request).any Response.bringsMessage = true) :
    latestFetch errStr consumer messageID (request :: earlier) = none := by
  rw [latestFetch, if_pos brings]

theorem latestFetch_passes
    (quiet : (answerAfter errStr consumer earlier request).any Response.bringsMessage = false)
    (noFetch : successfulFetch request (answerAfter errStr consumer earlier request) = none) :
    latestFetch errStr consumer messageID (request :: earlier) =
      latestFetch errStr consumer messageID earlier := by
  rw [latestFetch, if_neg (by simp [quiet]), noFetch]

variable {reqID : UInt64}

theorem latestFetch_fetched {res : FetchRawBlockResult}
    (quiet : (answerAfter errStr consumer earlier request).any Response.bringsMessage = false)
    (fetched : successfulFetch request (answerAfter errStr consumer earlier request) =
      some (messageID, reqID, res)) :
    latestFetch errStr consumer messageID (request :: earlier) = some (reqID, res) := by
  rw [latestFetch, if_neg (by simp [quiet]), fetched]
  exact if_pos rfl

variable (errStr consumer messageID) in
def Sound (history : List Request) : Prop :=
  ∀ buffer, (sessionAfter errStr consumer history).tmpMessage.buffer = some buffer →
    Genuine errStr consumer history messageID buffer

variable {history : List Request} {buf : Buffer}

theorem Genuine.congr {other : Buffer} (genuine : Genuine errStr consumer earlier messageID buf)
    (latest : latestFetch errStr consumer messageID history =
      latestFetch errStr consumer messageID earlier)
    (content : other.content = buf.content) : Genuine errStr consumer history messageID other := by
  obtain ⟨⟨reqID, res, found, block, filled⟩, _⟩ := genuine
  have same := content.trans filled
  exact ⟨⟨reqID, res, latest.trans found, block, same⟩, header_of_block same⟩

theorem sound_passes (latest : latestFetch errStr consumer messageID (request :: earlier) =
      latestFetch errStr consumer messageID earlier)
    (kept : ((sessionAfter errStr consumer (request :: earlier)).tmpMessage.buffer).map
        Buffer.content =
      ((sessionAfter errStr consumer earlier).tmpMessage.buffer).map Buffer.content) :
    Sound errStr consumer messageID (request :: earlier) ↔
      Sound errStr consumer messageID earlier := by
  constructor
  · intro sound buf filled
    rw [filled, map_some] at kept
    obtain ⟨other, otherFilled, content⟩ := map_eq_some_iff.mp kept
    exact (sound other otherFilled).congr latest.symm content.symm
  · intro sound buf filled
    rw [filled, map_some] at kept
    obtain ⟨other, otherFilled, content⟩ := map_eq_some_iff.mp kept.symm
    exact (sound other otherFilled).congr latest content.symm

theorem sound_iff_empty (nothing : ∀ reqID res, latestFetch errStr consumer messageID history =
      some (reqID, res) → res.blockSize = 0) : Sound errStr consumer messageID history ↔
      (sessionAfter errStr consumer history).tmpMessage.buffer = none := by
  constructor
  · intro sound
    cases filled : (sessionAfter errStr consumer history).tmpMessage.buffer with
    | none => rfl
    | some buf =>
      obtain ⟨⟨reqID, res, found, block, _⟩, _⟩ := sound buf filled
      exact absurd (nothing reqID res found) block
  · intro empty buf filled
    rw [empty] at filled
    cases filled

theorem quiet_of_not_poll (other : ∀ reqID answer closing, request ≠ .poll reqID answer closing) :
    (answerAfter errStr consumer earlier request).any Response.bringsMessage = false := by
  cases brings : (answerAfter errStr consumer earlier request).any Response.bringsMessage with
  | false => rfl
  | true =>
    obtain ⟨reqID, answer, closing, same⟩ := bringsMessage_poll brings
    exact absurd same (other reqID answer closing)

/-! Each kind of request keeps the two readings of a history equal. -/

section

variable (before : Current (sessionAfter errStr consumer earlier) messageID →
  (Prepared errStr consumer messageID earlier ↔ Sound errStr consumer messageID earlier))

include before

variable {reqID : UInt64}

theorem prepared_poll {answer : Option Polled} {closing : Bool}
    (current : Current (sessionAfter errStr consumer (.poll reqID answer closing :: earlier))
      messageID) : Prepared errStr consumer messageID (.poll reqID answer closing :: earlier) ↔
      Sound errStr consumer messageID (.poll reqID answer closing :: earlier) := by
  by_cases stores : Stores (sessionAfter errStr consumer earlier) answer closing
  · have consumerSet : (sessionAfter errStr consumer earlier).consumer = true :=
      poll_consumer.symm.trans current.consumer
    obtain ⟨kept, brings⟩ := @poll_stores _ reqID _ _ consumerSet stores
    have nothing : latestFetch errStr consumer messageID (.poll reqID answer closing :: earlier) =
        none := latestFetch_brings brings
    rw [sound_iff_empty fun _ _ found => by rw [nothing] at found; cases found]
    constructor
    · intro prepared
      cases prepared with
      | polled _ empty => exact kept.trans empty
      | nothingPolled passes _ => exact absurd stores passes
    · intro empty
      exact .polled stores (kept.symm.trans empty)
  · obtain ⟨same, quiet⟩ := @poll_passes _ reqID _ _ stores
    have sameSession : sessionAfter errStr consumer (.poll reqID answer closing :: earlier) =
        sessionAfter errStr consumer earlier := same
    have latest : latestFetch errStr consumer messageID (.poll reqID answer closing :: earlier) =
        latestFetch errStr consumer messageID earlier := latestFetch_passes quiet rfl
    rw [sound_passes latest (by rw [sameSession]), ← before (sameSession ▸ current)]
    constructor
    · intro prepared
      cases prepared with
      | polled found _ => exact absurd found stores
      | nothingPolled _ prepared => exact prepared
    · exact .nothingPolled stores

omit before in
theorem prepared_completed {res : FetchRawBlockResult} {info : TableInfo}
    (current : Current (sessionAfter errStr consumer earlier) messageID) (succeeded : res.code = 0)
    (done : res.blockSize = 0) :
    Prepared errStr consumer messageID (.fetch reqID messageID (some res) info :: earlier) ↔
      Sound errStr consumer messageID (.fetch reqID messageID (some res) info :: earlier) := by
  have handled := @fetch_completed errStr _ _ reqID _ info current succeeded done
  have latest : latestFetch errStr consumer messageID
      (.fetch reqID messageID (some res) info :: earlier) = some (reqID, res) :=
    latestFetch_fetched (quiet_of_not_poll (by simp)) (by rw [answerAfter, handle, handled]; rfl)
  have kept : sessionAfter errStr consumer
      (.fetch reqID messageID (some res) info :: earlier) =
      sessionAfter errStr consumer earlier := congrArg Prod.fst handled
  have nothing : ∀ foundID found, latestFetch errStr consumer messageID
      (.fetch reqID messageID (some res) info :: earlier) = some (foundID, found) →
      found.blockSize = 0 := by
    intro foundID found same
    rw [latest] at same
    cases same
    exact done
  rw [sound_iff_empty nothing, kept]
  constructor
  · intro prepared
    cases prepared with
    | fetched _ block => exact absurd done block
    | completed _ _ empty => exact empty
    | notFetched passes _ => exact absurd succeeded (passes res rfl rfl)
  · exact .completed succeeded done

omit before in
theorem sound_fetched {res : FetchRawBlockResult} {info : TableInfo}
    (current : Current (sessionAfter errStr consumer earlier) messageID) (succeeded : res.code = 0)
    (block : res.blockSize ≠ 0) :
    Sound errStr consumer messageID (.fetch reqID messageID (some res) info :: earlier) := by
  have handled := @fetch_block errStr _ _ reqID _ info current succeeded block
  have latest : latestFetch errStr consumer messageID
      (.fetch reqID messageID (some res) info :: earlier) = some (reqID, res) :=
    latestFetch_fetched (quiet_of_not_poll (by simp)) (by rw [answerAfter, handle, handled]; rfl)
  intro buf filled
  rw [sessionAfter, handle, handled] at filled
  cases filled
  exact ⟨⟨reqID, res, latest, block, rfl⟩, header_of_block rfl⟩

variable {fetchedID : UInt64}

theorem prepared_fetch {answer : Option FetchRawBlockResult} {info : TableInfo} (current : Current
      (sessionAfter errStr consumer (.fetch reqID fetchedID answer info :: earlier)) messageID) :
    Prepared errStr consumer messageID (.fetch reqID fetchedID answer info :: earlier) ↔
      Sound errStr consumer messageID (.fetch reqID fetchedID answer info :: earlier) := by
  have currentBefore : Current (sessionAfter errStr consumer earlier) messageID :=
    current_fetch.mp current
  by_cases gets : ∃ res, answer = some res ∧ fetchedID = messageID ∧ res.code = 0
  · obtain ⟨res, rfl, rfl, succeeded⟩ := gets
    by_cases done : res.blockSize = 0
    · exact prepared_completed currentBefore succeeded done
    · exact iff_of_true (.fetched succeeded done) (sound_fetched currentBefore succeeded done)
  · have passes : ∀ res, answer = some res → fetchedID = messageID → res.code ≠ 0 :=
      fun res given same succeeded => gets ⟨res, given, same, succeeded⟩
    obtain ⟨same, noFetch⟩ := @fetch_passes errStr _ reqID _ _ info (currentBefore.index ▸ passes)
    have sameSession : sessionAfter errStr consumer
        (.fetch reqID fetchedID answer info :: earlier) =
        sessionAfter errStr consumer earlier := same
    have latest : latestFetch errStr consumer messageID
        (.fetch reqID fetchedID answer info :: earlier) =
        latestFetch errStr consumer messageID earlier :=
      latestFetch_passes (quiet_of_not_poll (by simp)) noFetch
    rw [sound_passes latest (by rw [sameSession]), ← before currentBefore]
    constructor
    · intro prepared
      cases prepared with
      | fetched succeeded _ | completed succeeded _ _ => exact absurd succeeded (passes _ rfl rfl)
      | notFetched _ prepared => exact prepared
    · exact .notFetched passes

variable {timing : UInt64}

theorem prepared_fetchBlock (current : Current
      (sessionAfter errStr consumer (.fetchBlock reqID fetchedID timing :: earlier)) messageID) :
    Prepared errStr consumer messageID (.fetchBlock reqID fetchedID timing :: earlier) ↔
      Sound errStr consumer messageID (.fetchBlock reqID fetchedID timing :: earlier) := by
  have latest : latestFetch errStr consumer messageID
      (.fetchBlock reqID fetchedID timing :: earlier) =
      latestFetch errStr consumer messageID earlier :=
    latestFetch_passes (quiet_of_not_poll (by simp)) rfl
  rw [sound_passes latest content_fetchBlock, ← before (current_fetchBlock.mp current)]
  constructor
  · intro prepared
    cases prepared with
    | fetchBlock prepared => exact prepared
  · exact .fetchBlock

omit before in
theorem not_sound_of_raw {buf : Buffer}
    (filled : (sessionAfter errStr consumer (request :: earlier)).tmpMessage.buffer = some buf)
    (raw : ∀ reqID fetchedID data, buf.content ≠ .block reqID fetchedID data) :
    ¬ Sound errStr consumer messageID (request :: earlier) := by
  intro sound
  obtain ⟨⟨reqID, res, _, _, content⟩, _⟩ := sound buf filled
  exact raw reqID messageID res.block content

variable {answer : Option GetRawResult}

theorem prepared_raw {failed : Int → String → Response} {written : GetRawResult → Buffer}
    (handled : sessionAfter errStr consumer (request :: earlier) =
      (fetchRaw errStr failed written (sessionAfter errStr consumer earlier) fetchedID answer).1)
    (noBlock : ∀ raw reqID fetchedID data, (written raw).content ≠ .block reqID fetchedID data)
    (quiet : ∀ reqID answer closing, request ≠ .poll reqID answer closing)
    (noFetch : successfulFetch request (answerAfter errStr consumer earlier request) = none)
    (prepared_iff : Prepared errStr consumer messageID (request :: earlier) ↔
      (∀ raw, answer = some raw → fetchedID = messageID → raw.errCode ≠ 0) ∧
        Prepared errStr consumer messageID earlier)
    (current : Current (sessionAfter errStr consumer (request :: earlier)) messageID) :
    Prepared errStr consumer messageID (request :: earlier) ↔
      Sound errStr consumer messageID (request :: earlier) := by
  have currentBefore : Current (sessionAfter errStr consumer earlier) messageID := by
    rw [handled] at current
    exact current_fetchRaw.mp current
  rw [prepared_iff]
  by_cases gets : ∃ raw, answer = some raw ∧ fetchedID = messageID ∧ raw.errCode = 0
  · obtain ⟨raw, rfl, rfl, succeeded⟩ := gets
    have filled : (sessionAfter errStr consumer (request :: earlier)).tmpMessage.buffer =
        some (written raw) := by
      rw [handled, fetchRaw, currentBefore.notRefused]
      simp [succeeded, Session.fill]
    exact iff_of_false (fun prepared => prepared.1 raw rfl rfl succeeded)
      (not_sound_of_raw filled (noBlock raw))
  · have passes : ∀ raw, answer = some raw → fetchedID = messageID → raw.errCode ≠ 0 :=
      fun raw given same succeeded => gets ⟨raw, given, same, succeeded⟩
    have latest := @latestFetch_passes _ _ messageID _ _ (quiet_of_not_poll quiet) noFetch
    have kept := handled.trans (fetchRaw_passes (currentBefore.index ▸ passes))
    rw [sound_passes latest (by rw [kept]), ← before currentBefore]
    exact and_iff_right passes

omit before in
theorem prepared_fetchRawBlock :
    Prepared errStr consumer messageID (.fetchRawBlock reqID fetchedID timing answer :: earlier) ↔
      (∀ raw, answer = some raw → fetchedID = messageID → raw.errCode ≠ 0) ∧
        Prepared errStr consumer messageID earlier := by
  constructor
  · intro prepared
    cases prepared with
    | rawNotFetched passes prepared => exact ⟨passes, prepared⟩
  · rintro ⟨passes, prepared⟩
    exact .rawNotFetched passes prepared

omit before in
theorem prepared_fetchRawBlockNew :
    Prepared errStr consumer messageID
        (.fetchRawBlockNew reqID fetchedID timing answer :: earlier) ↔
      (∀ raw, answer = some raw → fetchedID = messageID → raw.errCode ≠ 0) ∧
        Prepared errStr consumer messageID earlier := by
  constructor
  · intro prepared
    cases prepared with
    | rawNewNotFetched passes prepared => exact ⟨passes, prepared⟩
  · rintro ⟨passes, prepared⟩
    exact .rawNewNotFetched passes prepared

end

theorem prepared_iff_sound (current : Current (sessionAfter errStr consumer history) messageID) :
    Prepared errStr consumer messageID history ↔ Sound errStr consumer messageID history := by
  induction history with
  | nil =>
    constructor
    · intro _ buf filled
      cases filled
    · intro _
      exact .start
  | cons request earlier ih =>
    cases request with
    | poll => exact prepared_poll ih current
    | fetch => exact prepared_fetch ih current
    | fetchBlock => exact prepared_fetchBlock ih current
    | fetchRawBlock =>
      exact prepared_raw ih rfl (by simp) (by simp) rfl prepared_fetchRawBlock current
    | fetchRawBlockNew =>
      exact prepared_raw ih rfl (by simp) (by simp) rfl prepared_fetchRawBlockNew current

theorem answer_fetchBlock_iff {timing : UInt64} :
    answerAfter errStr consumer earlier (.fetchBlock reqID messageID timing) = some (.binary buf) ↔
      Current (sessionAfter errStr consumer earlier) messageID ∧
        ∃ filled, (sessionAfter errStr consumer earlier).tmpMessage.buffer = some filled ∧
          buf = { filled with word := timing } := by
  rw [answerAfter, handle, fetchBlock, ← @refusal_eq_none_iff _ _ "message is nil"]
  split
  · rename_i refused
    simp [refused]
  · rename_i accepted
    split
    · rename_i empty
      simp [empty]
    · rename_i filled found
      simp [accepted, found, eq_comm]

end

/-- The answers to `fetch_block` are the blocks of the latest successful `fetch`
of their messages exactly for the sequences in which such a `fetch` precedes. -/
theorem fetch_block_genuine_iff (errStr : Int → String) (consumer : Bool) (history : List Request) :
    FetchBlockGenuine errStr consumer history ↔
      FetchedBeforeFetchBlock errStr consumer history := by
  constructor
  · intro genuine later reqID messageID timing earlier split current
    rw [prepared_iff_sound current]
    intro buffer filled
    have answered : answerAfter errStr consumer earlier (.fetchBlock reqID messageID timing) =
        some (.binary { buffer with word := timing }) :=
      answer_fetchBlock_iff.mpr ⟨current, buffer, filled, rfl⟩
    exact (genuine later reqID messageID timing earlier _ split answered).congr rfl rfl
  · intro fetched later reqID messageID timing earlier buffer split answered
    obtain ⟨current, filled, found, rfl⟩ := answer_fetchBlock_iff.mp answered
    have prepared := fetched later reqID messageID timing earlier split current
    exact ((prepared_iff_sound current).mp prepared filled found).congr rfl rfl

theorem not_genuine_of_answer {errStr : Int → String} {reqID timing : UInt64}
    {earlier : List Request} {buf : Buffer}
    (answered : answerAfter errStr true earlier (.fetchBlock reqID messageID timing) =
      some (.binary buf)) (nothing : ∀ fetchID res, latestFetch errStr true messageID earlier =
      some (fetchID, res) → res.blockSize = 0 ∨ buf.content ≠ .block fetchID messageID res.block) :
    ¬ FetchBlockGenuine errStr true (.fetchBlock reqID messageID timing :: earlier) := by
  intro genuine
  obtain ⟨⟨fetchID, res, found, block, content⟩, _⟩ :=
    genuine [] reqID messageID timing earlier buf rfl answered
  rcases nothing fetchID res found with done | other
  · exact block done
  · exact other content

/-- The block of message 1 is the answer for message 2, for message 1 after its
end, and the raw data of message 1 is the answer for its block. -/
theorem stale_buffer_answered : let polled : Polled := ⟨TMQ_RES_DATA, "t", "d", 1, 0⟩
    let info : TableInfo := ⟨"t", [], [], [], 0⟩
    let fetched := [Request.fetch 2 1 (some ⟨0, 1, [7]⟩) info, .poll 1 (some polled) false]
    (¬ FetchBlockGenuine (fun _ => "") true
      (.fetchBlock 4 2 0 :: .poll 3 (some polled) false :: fetched)) ∧
    (¬ FetchBlockGenuine (fun _ => "") true
      (.fetchBlock 4 1 0 :: .fetch 3 1 (some ⟨0, 0, []⟩) info :: fetched)) ∧
    (¬ FetchBlockGenuine (fun _ => "") true
      (.fetchBlock 4 1 0 :: .fetchRawBlockNew 3 1 0 (some ⟨0, 1, [8]⟩) :: fetched)) := by
  refine ⟨not_genuine_of_answer rfl ?_, not_genuine_of_answer rfl ?_, not_genuine_of_answer rfl ?_⟩
  · intro fetchID result found
    cases found
  · intro fetchID result found
    cases found
    exact .inl rfl
  · intro fetchID result found
    cases found
    exact .inr (by decide)

end TaosAdapter.Tmq
