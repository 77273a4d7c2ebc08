import TaosAdapter.Lib.Channel
import TaosAdapter.CommonPool.Model

/-!
Contract: `udpListen` of `plugin/statsd/statsd.go` with `VerifyClientIP` of
`db/commonpool/pool.go`.

Owns: the loop over the packets of a socket, the checks of a sender, the queue
for the parsers and the count of dropped packets; and which packets are lost
because others were rejected.

A sender is rejected by closing `conn`, which is the listening socket itself:
the next read fails and the loop returns. The packets behind the first rejected
one are not read.

The pool of the user is shared with every other request, so what it holds when a
packet is checked, and the answers to a new connection, come with the packet.
The parsers come to the queue at any time.
-/

namespace TaosAdapter.Statsd

open Lib List
open CommonPool (Pool Error allows)

variable {Ip IpNet : Type}

def UDPMaxPacketSize : Nat := 64 * 1024

/-- `input` without its time. -/
structure Input (Ip : Type) where
  buffer : Bytes
  addr : Ip
deriving DecidableEq

/-- A packet, with what the calls about its sender find: the pool of the user in
the map; and for `GetConnection` the whitelist of the pool it gets, whether
there is a connection, and whether it is put back. -/
structure Packet (Ip IpNet : Type) where
  data : Bytes
  addr : Option Ip
  pool : Option (Pool IpNet)
  connectionPool : Except Error (List IpNet)
  get : Except Error Unit
  put : Except Error Unit

section

variable (contains : IpNet → Ip → Bool)

/-- Whether the password is right, the address is allowed, and there is a pool. -/
def verifyClientIP (pool : Option (Pool IpNet)) (password : Bytes) (clientIP : Ip) :
    Bool × Bool × Bool :=
  match pool with
  | none => (false, false, false)
  | some pool =>
    if password = pool.password then (true, allows contains pool.ipNets clientIP, true)
    else (false, false, true)

def getConnection (packet : Packet Ip IpNet) (clientIp : Ip) : Except Error Unit := do
  let ipNets ← packet.connectionPool
  if allows contains ipNets clientIp then packet.get else .error .whitelistForbidden

/-- A pool that was not there is made by taking a connection and putting it back. -/
def admits (password : Bytes) (packet : Packet Ip IpNet) (addr : Ip) : Bool :=
  let (authed, valid, poolExists) := verifyClientIP contains packet.pool password addr
  if poolExists then authed && valid
  else
    match getConnection contains packet addr with
    | .error _ => false
    | .ok _ => packet.put.isOk

/-- What becomes of a packet that is read. -/
inductive Verdict (Ip : Type) where
  /-- `RemoteAddr is nil` -/
  | ignored
  | rejected
  | accepted (input : Input Ip)

def verdict (password : Bytes) (packet : Packet Ip IpNet) : Verdict Ip :=
  match packet.addr with
  | none => .ignored
  | some addr =>
    if admits contains password packet addr then
      .accepted ⟨packet.data.take UDPMaxPacketSize, addr⟩
    else .rejected

end

inductive Event (Ip IpNet : Type) where
  | packet (packet : Packet Ip IpNet)
  /-- A read that fails although the socket is open. -/
  | readError
  /-- A parser comes to the queue. -/
  | receive
  | stop

/-- What was done with an accepted packet. -/
inductive Handled (Ip : Type) where
  | queued (input : Input Ip)
  | dropped (input : Input Ip)
deriving DecidableEq

def Handled.input : Handled Ip → Input Ip
  | .queued input => input
  | .dropped input => input

/-- What the loop has done for the senders. -/
structure Service (Ip : Type) where
  inputs : Channel (Input Ip)
  drops : Nat
  handled : List (Handled Ip)
deriving DecidableEq

def Service.start (allowedPendingMessages : Nat) : Service Ip :=
  ⟨.make allowedPendingMessages, 0, []⟩

def Service.send (service : Service Ip) (input : Input Ip) : Service Ip :=
  match service.inputs.trySend input with
  | some inputs => { service with inputs, handled := service.handled ++ [.queued input] }
  | none =>
    { service with
      drops := service.drops + 1
      handled := service.handled ++ [.dropped input] }

def Service.receive (service : Service Ip) : Service Ip :=
  { service with inputs := service.inputs.receive }

/-- `connOpen` is the socket, `done` the channel that `Stop` closes, and
`returned` says that the loop is left. -/
structure State (Ip : Type) where
  connOpen : Bool
  done : Bool
  returned : Bool
  service : Service Ip
deriving DecidableEq

def State.start (allowedPendingMessages : Nat) : State Ip :=
  ⟨true, false, false, .start allowedPendingMessages⟩

/-- An iteration up to the read, which fails if the socket is closed. -/
def State.read (s : State Ip) (iteration : State Ip) : State Ip :=
  if s.returned then s
  else if s.done then { s with returned := true }
  else if s.connOpen then iteration
  else { s with returned := true }

def State.take (s : State Ip) : Verdict Ip → State Ip
  | .ignored => s
  -- `conn.Close()`
  | .rejected => { s with connOpen := false }
  | .accepted input => { s with service := s.service.send input }

section

variable (contains : IpNet → Ip → Bool) (password : Bytes)

def step (s : State Ip) : Event Ip IpNet → State Ip
  | .packet packet => s.read (s.take (verdict contains password packet))
  | .readError => s.read s
  | .receive => { s with service := s.service.receive }
  | .stop => { s with done := true, connOpen := false }

def run (s : State Ip) (events : List (Event Ip IpNet)) : State Ip :=
  events.foldl (step contains password) s

/-- The events without the packets of rejected senders. -/
def withoutRejected : List (Event Ip IpNet) → List (Event Ip IpNet)
  | [] => []
  | .packet packet :: rest =>
    match verdict contains password packet with
    | .rejected => withoutRejected rest
    | _ => .packet packet :: withoutRejected rest
  | event :: rest => event :: withoutRejected rest

/-- The packets of accepted senders, up to `Stop`. -/
def acceptedInputs : List (Event Ip IpNet) → List (Input Ip)
  | [] => []
  | .stop :: _ => []
  | .packet packet :: rest =>
    match verdict contains password packet with
    | .accepted input => input :: acceptedInputs rest
    | _ => acceptedInputs rest
  | _ :: rest => acceptedInputs rest

/-- The packets of accepted senders are all queued or dropped, and in the same way
as without those of rejected ones. -/
structure Unaffected (allowedPendingMessages : Nat) (events : List (Event Ip IpNet)) : Prop where
  handled : (run contains password (.start allowedPendingMessages) events).service.handled.map
    Handled.input = acceptedInputs contains password events
  same : (run contains password (.start allowedPendingMessages) events).service =
    (run contains password (.start allowedPendingMessages)
      (withoutRejected contains password events)).service

/-- No accepted packet comes behind a rejected one, up to `Stop`. -/
def NoneBehindRejected : List (Event Ip IpNet) → Prop
  | [] => True
  | .stop :: _ => True
  | .packet packet :: rest =>
    match verdict contains password packet with
    | .rejected => acceptedInputs contains password rest = []
    | _ => NoneBehindRejected rest
  | _ :: rest => NoneBehindRejected rest

/-- The packets that are read: those of accepted senders up to `Stop` or to the
first rejected one. -/
def heardInputs : List (Event Ip IpNet) → List (Input Ip)
  | [] => []
  | .stop :: _ => []
  | .packet packet :: rest =>
    match verdict contains password packet with
    | .accepted input => input :: heardInputs rest
    | .ignored => heardInputs rest
    | .rejected => []
  | _ :: rest => heardInputs rest

def receiveAll (service : Service Ip) : List (Event Ip IpNet) → Service Ip
  | [] => service
  | .receive :: rest => receiveAll service.receive rest
  | _ :: rest => receiveAll service rest

/-- The loop reads packets. -/
structure State.Live (s : State Ip) : Prop where
  connOpen : s.connOpen = true
  done : s.done = false
  returned : s.returned = false

def State.Ended (s : State Ip) : Prop := s.returned = true ∨ s.connOpen = false

variable {s : State Ip}

theorem State.Live.serve (live : s.Live) (service : Service Ip) : State.Live { s with service } :=
  ⟨live.connOpen, live.done, live.returned⟩

theorem State.Live.read (live : s.Live) (iteration : State Ip) : s.read iteration = iteration := by
  simp [State.read, live.connOpen, live.done, live.returned]

theorem State.Ended.read (ended : s.Ended) (iteration : State Ip) :
    (s.read iteration).Ended ∧ (s.read iteration).service = s.service := by
  unfold State.read
  rcases ended with returned | closed
  · rw [if_pos returned]
    exact ⟨.inl returned, rfl⟩
  · by_cases returned : s.returned = true
    · rw [if_pos returned]
      exact ⟨.inl returned, rfl⟩
    · rw [if_neg returned, closed]
      split
      · exact ⟨.inl rfl, rfl⟩
      · exact ⟨.inl rfl, rfl⟩

variable (service : Service Ip)

@[simp] theorem Service.send_handled (input : Input Ip) :
    (service.send input).handled.map Handled.input =
      service.handled.map Handled.input ++ [input] := by
  unfold Service.send
  split
  · rw [map_append]
    rfl
  · rw [map_append]
    rfl

theorem receiveAll_handled (events : List (Event Ip IpNet)) :
    (receiveAll service events).handled = service.handled := by
  induction events generalizing service with
  | nil => rfl
  | cons event rest ih =>
    cases event with
    | receive => exact ih service.receive
    | packet | readError | stop => exact ih service

theorem receiveAll_withoutRejected (events : List (Event Ip IpNet)) :
    receiveAll service (withoutRejected contains password events) = receiveAll service events := by
  induction events generalizing service with
  | nil => rfl
  | cons event rest ih =>
    cases event with
    | packet packet =>
      rw [withoutRejected]
      split
      · exact ih service
      · exact ih service
    | receive => exact ih service.receive
    | readError | stop => exact ih service

variable {contains password}

theorem run_ended (ended : s.Ended) (events : List (Event Ip IpNet)) :
    (run contains password s events).service = receiveAll s.service events := by
  induction events generalizing s with
  | nil => rfl
  | cons event rest ih =>
    cases event with
    | packet packet =>
      obtain ⟨later, same⟩ := ended.read (s.take (verdict contains password packet))
      exact (ih later).trans (by rw [same]; rfl)
    | readError =>
      obtain ⟨later, same⟩ := ended.read s
      exact (ih later).trans (by rw [same]; rfl)
    | receive => exact ih ended
    | stop => exact ih (.inr rfl)

theorem run_packet (live : s.Live) (packet : Packet Ip IpNet) (rest : List (Event Ip IpNet)) :
    run contains password s (.packet packet :: rest) =
      run contains password (s.take (verdict contains password packet)) rest :=
  congrArg (run contains password · rest) (live.read _)

theorem run_readError (live : s.Live) (rest : List (Event Ip IpNet)) :
    run contains password s (.readError :: rest) = run contains password s rest :=
  congrArg (run contains password · rest) (live.read s)

/-- What is handled is what was accepted before the socket was closed. -/
theorem handled_run (live : s.Live) (events : List (Event Ip IpNet)) :
    (run contains password s events).service.handled.map Handled.input =
      s.service.handled.map Handled.input ++ heardInputs contains password events := by
  induction events generalizing s with
  | nil => exact (List.append_nil _).symm
  | cons event rest ih =>
    cases event with
    | packet packet =>
      rw [run_packet live, heardInputs]
      cases verdict contains password packet with
      | ignored => exact ih live
      | rejected =>
        have closed : State.Ended { s with connOpen := false } := .inr rfl
        refine (congrArg _ (congrArg _ (run_ended closed rest))).trans ?_
        rw [receiveAll_handled, List.append_nil]
      | accepted input =>
        refine (ih (live.serve (s.service.send input))).trans ?_
        rw [Service.send_handled, append_assoc]
        rfl
    | readError =>
      rw [run_readError live]
      exact ih live
    | receive => exact ih (live.serve s.service.receive)
    | stop =>
      have closed : State.Ended { s with done := true, connOpen := false } := .inr rfl
      refine (congrArg _ (congrArg _ (run_ended closed rest))).trans ?_
      rw [receiveAll_handled, heardInputs, List.append_nil]

variable {events : List (Event Ip IpNet)}

theorem run_of_no_accepted (live : s.Live) (none : acceptedInputs contains password events = []) :
    (run contains password s (withoutRejected contains password events)).service =
      receiveAll s.service events := by
  induction events generalizing s with
  | nil => rfl
  | cons event rest ih =>
    cases event with
    | packet packet =>
      rw [acceptedInputs] at none
      rw [withoutRejected]
      cases isVerdict : verdict contains password packet with
      | ignored =>
        rw [isVerdict] at none
        rw [run_packet live, isVerdict]
        exact ih live none
      | rejected =>
        rw [isVerdict] at none
        exact ih live none
      | accepted input =>
        rw [isVerdict] at none
        cases none
    | readError =>
      exact (congrArg _ (run_readError live _)).trans (ih live none)
    | receive => exact ih (live.serve s.service.receive) none
    | stop =>
      have closed : State.Ended { s with done := true, connOpen := false } := .inr rfl
      exact (run_ended closed _).trans (receiveAll_withoutRejected contains password _ rest)

theorem service_withoutRejected (live : s.Live)
    (clean : NoneBehindRejected contains password events) :
    (run contains password s events).service =
      (run contains password s (withoutRejected contains password events)).service := by
  induction events generalizing s with
  | nil => rfl
  | cons event rest ih =>
    cases event with
    | packet packet =>
      rw [NoneBehindRejected] at clean
      rw [withoutRejected, run_packet live]
      cases isVerdict : verdict contains password packet with
      | ignored =>
        rw [isVerdict] at clean
        rw [run_packet live, isVerdict]
        exact ih live clean
      | rejected =>
        rw [isVerdict] at clean
        have closed : State.Ended { s with connOpen := false } := .inr rfl
        exact (run_ended closed rest).trans (run_of_no_accepted live clean).symm
      | accepted input =>
        rw [isVerdict] at clean
        rw [run_packet live, isVerdict]
        exact ih (live.serve (s.service.send input)) clean
    | readError =>
      rw [run_readError live]
      exact (ih live clean).trans (congrArg _ (run_readError live _).symm)
    | receive => exact ih (live.serve s.service.receive) clean
    | stop =>
      have closed : State.Ended { s with done := true, connOpen := false } := .inr rfl
      exact (run_ended closed rest).trans
        ((receiveAll_withoutRejected contains password _ rest).symm.trans
          (run_ended closed _).symm)

theorem heardInputs_eq_iff (events : List (Event Ip IpNet)) :
    heardInputs contains password events = acceptedInputs contains password events ↔
      NoneBehindRejected contains password events := by
  induction events with
  | nil => exact iff_of_true rfl trivial
  | cons event rest ih =>
    cases event with
    | packet packet =>
      rw [heardInputs, acceptedInputs, NoneBehindRejected]
      cases verdict contains password packet with
      | ignored => exact ih
      | rejected => exact eq_comm
      | accepted input => exact (cons_inj_right input).trans ih
    | readError | receive => exact ih
    | stop => exact iff_of_true rfl trivial

end

/-- The packets of accepted senders do not depend on those of rejected ones
exactly if none of them comes behind a rejected one. -/
theorem unaffected_iff (contains : IpNet → Ip → Bool) (password : Bytes)
    (allowedPendingMessages : Nat) (events : List (Event Ip IpNet)) :
    Unaffected contains password allowedPendingMessages events ↔
      NoneBehindRejected contains password events := by
  have live : (State.start allowedPendingMessages : State Ip).Live := ⟨rfl, rfl, rfl⟩
  have handled : (run contains password (.start allowedPendingMessages) events).service.handled.map
      Handled.input = [] ++ heardInputs contains password events := handled_run live events
  constructor
  · intro unaffected
    exact (heardInputs_eq_iff events).mp (handled.symm.trans unaffected.handled)
  · intro clean
    exact ⟨handled.trans ((heardInputs_eq_iff events).mpr clean),
      service_withoutRejected live clean⟩

/-- A packet with the pool its sender finds, whose whitelist has the address 1. -/
def plainPacket (addr : Nat) : Packet Nat Nat :=
  ⟨[97], some addr, some ⟨[114], [112], [1], false, []⟩, .error .connect, .error .pool, .ok ()⟩

/-- A packet of a sender that is not on the whitelist takes away the next one. -/
theorem packet_lost_behind_rejected :
    ¬ Unaffected (fun ipNet ip => decide (ipNet = ip)) [112] 10
      [.packet (plainPacket 2), .packet (plainPacket 1)] := by
  intro unaffected
  exact absurd unaffected.handled (by decide)

end TaosAdapter.Statsd
