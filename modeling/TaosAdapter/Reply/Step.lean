import TaosAdapter.Reply.Model

/-!
Owns: the inversion of a connection's step function. `Advanced` lists what a
goroutine can do to the buffers, the slices, the locks and the channel; the
handlers that only change other fields of their item are one case.
-/

namespace TaosAdapter.Reply

open Lib

inductive Follows (request : Request) (key : Key) : Pc → Prop where
  | reserve task (own : request.key = some task.key)
      (unlocks : task.finish = .unlockSend → task.key ≠ .message) :
      Follows request key (.reserve task)
  | stamp timing (tail : Bytes) (isMessage : key = .message) (nonempty : tail ≠ []) :
      Follows request key (.stamp key timing (leBytes 8 timing ++ tail))
  | answering bytes : Follows request key (.answering bytes (some key))
  | unlocking answer : Follows request key (.unlocking key answer)

section

variable (s : State) (t : Nat)

inductive Advanced : Pc → Move Shared Pc → Prop where
  | spawned request : Advanced .reading ⟨s.shared, .reading, [.start request]⟩
  -- the write pump
  | taken (envelope : Envelope) (rest : List Envelope)
      (output : s.shared.output = envelope :: rest) :
      Advanced .taking ⟨{ s.shared with output := rest }, .writing envelope [], []⟩
  | copied envelope sent count :
      Advanced (.writing envelope sent)
        ⟨s.shared, .writing envelope (sent ++ ((s.shared.content envelope.slice).drop
          sent.length).take count), []⟩
  | wrote (envelope : Envelope) (sent : Bytes) (complete : sent.length = envelope.slice.length) :
      Advanced (.writing envelope sent) ⟨{ s.shared with
        socket := s.shared.socket ++ [⟨sent, envelope.enqueued, envelope.response⟩] }, .taking, []⟩
  | broken envelope sent : Advanced (.writing envelope sent) ⟨s.shared, .finished, []⟩
  -- the start of a handler
  | refused request bytes : Advanced (.start request) ⟨s.shared, .answering bytes none, []⟩
  | created (request : Request) (key : Key) (bytes : Bytes) :
      Advanced (.start request)
        ⟨{ s.shared.setItem key { s.shared.items key with listed := true, live := true } with
          results := s.shared.results + 1 }, .answering bytes none, []⟩
  | free request key : Advanced (.start request) ⟨s.shared, .freeing key none, []⟩
  | found request key (own : request.key = some key) :
      Advanced (.start request) ⟨s.shared, .locking request key, []⟩
  | locked request key (free : (s.shared.items key).lock = none) :
      Advanced (.locking request key) ⟨s.shared.setLock key (some t), .inside request key, []⟩
  -- a handler
  | handled request key item next (lock : item.lock = (s.shared.items key).lock)
      (buf : item.buf = (s.shared.items key).buf) (follows : Follows request key next) :
      Advanced (.inside request key) ⟨s.shared.setItem key item, next, []⟩
  | completed request key answer :
      Advanced (.inside request key) ⟨s.shared.setLock key none, .freeing key answer, []⟩
  | unsubscribed (request : Request) (answer : Option Bytes) :
      Advanced (.inside request .message)
        ⟨s.shared.setItem .message
          { s.shared.items .message with live := false, buf := ⟨0, 0⟩ },
          .unlocking .message answer, []⟩
  -- the slice
  | reserved task reserved slice
      (here : s.shared.reserve task.key task.response.length = (reserved, slice)) :
      Advanced (.reserve task)
        ⟨if task.early then reserved.setBuf task.key slice else reserved, .put task slice 0
          task.parts, []⟩
  | put task slice offset part rest :
      Advanced (.put task slice offset (part :: rest))
        ⟨s.shared.write slice.buffer offset part, .put task slice (offset + part.length) rest, []⟩
  | assigned task slice offset :
      Advanced (.put task slice offset [])
        ⟨if task.early then s.shared else s.shared.setBuf task.key slice, .filled task, []⟩
  | filledSend task : Advanced (.filled task) ⟨s.shared, .load task.key task.response true, []⟩
  | filledUnlock task (finish : task.finish = .unlockSend) :
      Advanced (.filled task)
        ⟨s.shared.setLock task.key none, .load task.key task.response false, []⟩
  | filledAnswer task bytes :
      Advanced (.filled task) ⟨s.shared, .answering bytes (some task.key), []⟩
  | stamped key timing response :
      Advanced (.stamp key timing response)
        ⟨s.shared.write (s.shared.items key).buf.buffer 0 (leBytes 8 timing), .load key response
          true, []⟩
  -- a send
  | loaded key response held :
      Advanced (.load key response held)
        ⟨s.shared, .sending (s.shared.items key).buf response (if held then some key else none), []⟩
  | sent (slice : Slice) (response : Bytes) (held : Option Key) :
      Advanced (.sending slice response held)
        ⟨{ s.shared with
          output := s.shared.output ++ [⟨slice, s.shared.content slice, response⟩] },
          release held, []⟩
  | sendDropped slice response held :
      Advanced (.sending slice response held) ⟨s.shared, release held, []⟩
  | answered (bytes : Bytes) (held : Option Key) :
      Advanced (.answering bytes held)
        ⟨{ s.shared.alloc bytes none with
          output := s.shared.output ++ [⟨⟨s.shared.allocated, bytes.length⟩, bytes, bytes⟩] },
          release held, []⟩
  | answerDropped bytes held : Advanced (.answering bytes held) ⟨s.shared, release held, []⟩
  | unlocked key answer next (ends : next = .finished ∨ ∃ bytes, next = .answering bytes none) :
      Advanced (.unlocking key answer) ⟨s.shared.setLock key none, next, []⟩
  | freed (key : Key) (answer : Option Bytes) (next : Pc)
      (ends : next = .finished ∨ ∃ bytes, next = .answering bytes none) :
      Advanced (.freeing key answer)
        ⟨s.shared.setItem key
          { s.shared.items key with listed := false, live := false, block := none }, next, []⟩

end

section

variable {controller : Controller} {capacity : Nat} {s : State} {t : Nat} {choice : Choice}
  {move : Move Shared Pc}

theorem setItem_self (sh : Shared) (key : Key) : sh.setItem key (sh.items key) = sh := by
  rw [Shared.setItem, Function.update_eq_self]

variable {req : Request}

theorem Advanced.looked {key : Key} {next : Pc} (follows : Follows req key next) :
    Advanced s t (.inside req key) ⟨s.shared, next, []⟩ := by
  have handled := Advanced.handled (s := s) (t := t) req key _ next rfl rfl follows
  rwa [setItem_self] at handled

theorem advanced_read (moved : advanceRead controller s.shared choice = some move) :
    Advanced s t .reading move := by
  unfold advanceRead at moved
  repeat' split at moved
  all_goals cases moved
  exact .spawned _

variable {pc : Pc}

theorem advanced_pump (moved : advancePump s.shared pc choice = some move) :
    Advanced s t pc move := by
  unfold advancePump at moved
  repeat' split at moved
  all_goals cases moved
  all_goals constructor <;> assumption

theorem advanced_start (moved : advanceStart t s.shared pc choice = some move) :
    Advanced s t pc move := by
  unfold advanceStart at moved
  repeat' split at moved
  all_goals cases moved
  all_goals constructor <;> assumption

theorem advanced_ws {id : Nat} (moved : advanceWs s.shared (.result id) req choice = some move) :
    Advanced s t (.inside req (.result id)) move := by
  unfold advanceWs at moved
  repeat' split at moved
  all_goals cases moved
  all_goals first
    | exact .completed _ _ _
    | exact .handled _ _ _ _ rfl rfl (.unlocking _)
    | exact .handled _ _ _ _ rfl rfl (.reserve _ rfl (by simp [fetchRawBlockTask]))
    | exact .looked (.reserve _ rfl (by simp [fetchBlockTask]))
    | exact .looked (.unlocking _)
    | exact .looked (.answering _)

theorem advanced_tmq (moved : advanceTmq s.shared .message req choice = some move) :
    Advanced s t (.inside req .message) move := by
  unfold advanceTmq at moved
  repeat' split at moved
  all_goals cases moved
  all_goals first
    | exact .unsubscribed _ _
    | exact .looked (.answering _)
    | exact .looked (.unlocking _)
    | exact .handled _ _ _ _ rfl rfl (.answering _)
    | exact .handled _ _ _ _ rfl rfl (.reserve _ rfl (fun early => by cases early))
    | exact .looked (.stamp _ _ rfl (by simp [leBytes]))
    | exact .looked (.reserve _ rfl (fun early => by cases early))

theorem advanced_fill (moved : advanceFill s.shared pc choice = some move) :
    Advanced s t pc move := by
  unfold advanceFill at moved
  split at moved
  case' h_4 => split at moved
  all_goals cases moved
  all_goals constructor <;> first | assumption | rfl

theorem advanced_send (moved : advanceSend capacity s.shared pc choice = some move) :
    Advanced s t pc move := by
  unfold advanceSend at moved
  split at moved
  case' h_2 | h_4 | h_7 => split at moved
  all_goals cases moved
  all_goals constructor
  all_goals split <;> simp

theorem advanced_of_advance (moved : advance controller capacity s t pc choice = some move) :
    Advanced s t pc move := by
  unfold advance at moved
  split at moved
  · exact advanced_read moved
  · exact advanced_pump moved
  · exact advanced_pump moved
  · exact advanced_start moved
  · exact advanced_start moved
  · exact advanced_ws moved
  · exact advanced_tmq moved
  iterate 4
    · exact advanced_fill moved
  iterate 5
    · exact advanced_send moved
  · cases moved

end

end TaosAdapter.Reply
