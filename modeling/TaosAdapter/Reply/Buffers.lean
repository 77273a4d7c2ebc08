import TaosAdapter.Reply.Memory

/-!
Owns: what the write pump writes. `KeepsBuffers` names the schedules in which no
buffer is filled while a message that refers to it is under way; in their runs
every message is written as it was queued.

The invariant has three parts: whoever is inside a handler has the lock of its
item; every reference under way has the bytes of its response; a buffer that is
being filled has no reference and nobody is about to read it.
-/

namespace TaosAdapter.Reply

open Lib List Snapshot

def Pc.refers (buffer : Nat) : Pc → Bool
  | .writing envelope _ => envelope.slice.buffer == buffer
  | .sending slice _ _ => slice.buffer == buffer
  | _ => false

def Pc.reads (key : Key) : Pc → Bool
  | .load own _ false => own == key
  | _ => false

def Unreferenced (s : State) (buffer : Nat) : Prop :=
  (∀ envelope ∈ s.shared.output, envelope.slice.buffer ≠ buffer) ∧
    ∀ pc ∈ s.threads, pc.refers buffer = false

def Unread (s : State) (key : Key) : Prop := ∀ pc ∈ s.threads, pc.reads key = false

/-- What a step that takes a slice needs: nobody is about to send it; if its
buffer is used again, no message refers to it; and a buffer that is sent once
more, with a new time, holds the block of the request. -/
def Permits (s : State) : Pc → Prop
  | .reserve task => Unread s task.key ∧ (s.shared.Fits task.key task.response.length →
      Unreferenced s (s.shared.items task.key).buf.buffer)
  | .stamp key _ response => Unreferenced s (s.shared.items key).buf.buffer ∧
      (s.shared.content (s.shared.items key).buf).drop 8 = response.drop 8
  | _ => True

def KeepsBuffers (s : State) (label : Nat × Choice) : Prop :=
  ∀ pc ∈ s.threads[label.1]?, Permits s pc

instance (s : State) (buffer : Nat) : Decidable (Unreferenced s buffer) :=
  inferInstanceAs (Decidable (_ ∧ _))

instance (s : State) (key : Key) : Decidable (Unread s key) := by
  unfold Unread
  infer_instance

instance (s : State) (pc : Pc) : Decidable (Permits s pc) := by
  cases pc <;> dsimp only [Permits] <;> infer_instance

instance (s : State) (label : Nat × Choice) : Decidable (KeepsBuffers s label) := by
  unfold KeepsBuffers
  infer_instance

section

variable {s : State} {t : Nat} {old : Pc} {move : Move Shared Pc}

def Delivery.Intact (delivery : Delivery) : Prop :=
  delivery.written = delivery.enqueued ∧ delivery.enqueued = delivery.response

structure Sound (s : State) : Prop where
  exclusive : Exclusive Pc.holds Shared.lock s
  nil : 0 < s.shared.allocated ∧ s.shared.heap 0 = [] ∧ s.shared.owner 0 = none
  bufs : ∀ key, BufOk s.shared key
  queued : ∀ envelope ∈ s.shared.output, EnvelopeOk s.shared envelope
  written : ∀ delivery ∈ s.shared.socket, delivery.Intact
  threads : ∀ (u : Nat) (pc : Pc), s.threads[u]? = some pc → ThreadOk s.shared pc
  apart : ∀ (u : Nat) task slice offset rest, s.threads[u]? = some (.put task slice offset rest) →
    Unreferenced s slice.buffer ∧ Unread s task.key

inductive Reaches (s : State) (old : Pc) (buffer : Nat) : Prop where
  | queued (envelope : Envelope) (member : envelope ∈ s.shared.output)
      (same : envelope.slice.buffer = buffer)
  | own (refers : old.refers buffer = true)
  | fresh (beyond : s.shared.allocated ≤ buffer)
  | loaded (key : Key) (response : Bytes) (held : Bool) (here : old = .load key response held)
      (same : (s.shared.items key).buf.buffer = buffer)

variable {key : Key} {pc : Pc} {u : Nat}

theorem Sound.alone (sound : Sound s) (found : s.threads[t]? = some old)
    (inside : old.holds key = true) (found2 : s.threads[u]? = some pc)
    (otherInside : pc.holds key = true) : u = t := by
  have first := sound.exclusive t old key found inside
  have second := sound.exclusive u pc key found2 otherInside
  rw [first] at second
  exact (Option.some.inj second).symm

theorem Sound.key_eq (sound : Sound s) {buf : Nat} {other : Key}
    (owned : s.shared.owner buf = some key) (same : (s.shared.items other).buf.buffer = buf) :
    other = key := by
  rcases (sound.bufs other).owner with zero | owner
  · rw [← same, zero, sound.nil.2.2] at owned
    cases owned
  · rw [same, owned] at owner
    exact (Option.some.inj owner).symm

theorem Sound.avoids (sound : Sound s) (found : s.threads[t]? = some old)
    (inside : old.holds key = true) (unread : Unread s key) (wrote : Option Nat)
    (moved : Option Key)
    (written : ∀ buf, some buf = wrote → s.shared.owner buf = some key ∧ Unreferenced s buf)
    (isKey : ∀ other, some other = moved → other = key) (ne : u ≠ t)
    (found2 : s.threads[u]? = some pc) : Avoids s.shared wrote moved pc := by
  have mem := mem_of_getElem? found2
  have outside : ∀ {other}, pc.holds other = true → other ≠ key := by
    rintro _ otherInside rfl
    exact ne (sound.alone found inside found2 otherInside)
  cases pc with
  | writing | sending =>
    intro same
    have unseen := (written _ same).2.2 _ mem
    simp [Pc.refers] at unseen
  | put task slice off rest =>
    have away : task.key ≠ key := outside (by simp [Pc.holds])
    have owner := (sound.threads u _ found2).1.owner
    refine ⟨fun same => ?_, fun same => away (isKey _ same)⟩
    rw [(written _ same).1] at owner
    exact away (Option.some.inj owner).symm
  | filled task =>
    have away : task.key ≠ key := outside (by simp [Pc.holds])
    refine ⟨fun same => ?_, fun same => away (isKey _ same)⟩
    exact away (sound.key_eq (written _ same).1 rfl)
  | load own response held =>
    have away : own ≠ key := by
      cases held with
      | true => exact outside (by simp [Pc.holds])
      | false =>
        rintro rfl
        have unseen := unread _ mem
        simp [Pc.reads] at unseen
    refine ⟨fun same => ?_, fun same => away (isKey _ same)⟩
    exact away (sound.key_eq (written _ same).1 rfl)
  | _ => trivial

variable {slice : Slice} {task : Task} {rest : List Bytes} {off : Nat}

theorem Sound.not_reaches (sound : Sound s) (found : s.threads[t]? = some old) (ne : u ≠ t)
    (filling : s.threads[u]? = some (.put task slice off rest)) : ¬ Reaches s old slice.buffer := by
  obtain ⟨⟨unqueued, unseen⟩, unread⟩ := sound.apart u _ _ _ _ filling
  have mem := mem_of_getElem? found
  have threadOk := (sound.threads u _ filling).1
  intro reaches
  cases reaches with
  | queued envelope inQueue same => exact unqueued envelope inQueue same
  | own refers =>
    rw [unseen _ mem] at refers
    cases refers
  | fresh beyond => exact absurd threadOk.known (Nat.not_lt.mpr beyond)
  | loaded key response held here same =>
    obtain rfl := here
    obtain rfl := sound.key_eq threadOk.owner same
    cases held with
    | true =>
      have inside := beq_self_eq_true task.key
      exact ne (sound.alone found inside filling inside)
    | false =>
      have notRead := unread _ mem
      simp [Pc.reads] at notRead

structure Kept (s : State) (t : Nat) (old : Pc) (move : Move Shared Pc) : Prop where
  refers : ∀ buffer, move.thread.refers buffer = true → Reaches s old buffer
  reads : ∀ key, move.thread.reads key = true → old.reads key = true ∨ old.holds key = true
  apart : ∀ task slice offset rest, move.thread = .put task slice offset rest →
    Unreferenced (s.apply t move) slice.buffer ∧ Unread (s.apply t move) task.key
  spawned : ∀ pc ∈ move.spawned, ∃ request, pc = .start request

structure Safely (s : State) (t : Nat) (old : Pc) (move : Move Shared Pc) (wrote : Option Nat)
    (moved : Option Key) : Prop extends Kept s t old move where
  frame : Frame s.shared move.shared wrote moved
  notNil : some 0 ≠ wrote
  avoids : ∀ (u : Nat) (pc : Pc), u ≠ t → s.threads[u]? = some pc → Avoids s.shared wrote moved pc
  bufs : ∀ key, some key = moved → BufOk move.shared key
  output : ∀ envelope ∈ move.shared.output,
    (envelope ∈ s.shared.output ∧ some envelope.slice.buffer ≠ wrote) ∨
      (Reaches s old envelope.slice.buffer ∧ EnvelopeOk move.shared envelope)
  socket : ∀ delivery ∈ move.shared.socket, delivery ∈ s.shared.socket ∨ delivery.Intact
  thread : ThreadOk move.shared move.thread

variable {moved : Option Key}

theorem Sound.apply (sound : Sound s) (found : s.threads[t]? = some old)
    (advanced : Advanced s t old move) {wrote : Option Nat}
    (safely : Safely s t old move wrote moved) : Sound (s.apply t move) where
  exclusive := by
    refine sound.exclusive.apply found (advanced.respects fun req key here => ?_) ?_
    · subst here
      exact sound.threads t _ found
    · intro pc mem key
      obtain ⟨req, rfl⟩ := safely.spawned pc mem
      rfl
  nil := by
    obtain ⟨pos, empty, unowned⟩ := sound.nil
    refine ⟨lt_of_lt_of_le pos safely.frame.grows, ?_, ?_⟩
    · rw [apply_shared, safely.frame.heap 0 pos safely.notNil, empty]
    · rw [apply_shared, safely.frame.owner 0 pos, unowned]
  bufs := by
    intro key
    by_cases same : some key = moved
    · exact safely.bufs key same
    · exact (sound.bufs key).frame safely.frame same
  queued := by
    intro envelope mem
    rcases safely.output envelope mem with ⟨before, other⟩ | ⟨_, envelopeOk⟩
    · exact (sound.queued envelope before).frame safely.frame other
    · exact envelopeOk
  written := by
    intro delivery mem
    rcases safely.socket delivery mem with before | intact
    · exact sound.written delivery before
    · exact intact
  threads := by
    intro u pc here
    rcases apply_inv here with ⟨ne, same⟩ | ⟨rfl, rfl⟩ | ⟨_, mem⟩
    · exact (sound.threads u pc same).frame safely.frame (safely.avoids u pc ne same)
    · exact safely.thread
    · obtain ⟨req, rfl⟩ := safely.spawned pc mem
      trivial
  apart := by
    intro u task slice off rest here
    rcases apply_inv here with ⟨ne, same⟩ | ⟨rfl, isPut⟩ | ⟨_, mem⟩
    · obtain ⟨⟨unqueued, unseen⟩, unread⟩ := sound.apart u _ _ _ _ same
      have unreached := sound.not_reaches found ne same
      refine ⟨⟨fun envelope mem equal => ?_, fun pc mem => ?_⟩, fun pc mem => ?_⟩
      · rcases safely.output envelope mem with ⟨before, _⟩ | ⟨reaches, _⟩
        · exact unqueued envelope before equal
        · exact unreached (equal ▸ reaches)
      · rcases mem_apply mem with before | rfl | new
        · exact unseen pc before
        · exact Bool.eq_false_iff.mpr fun refers => unreached (safely.refers _ refers)
        · obtain ⟨req, rfl⟩ := safely.spawned pc new
          rfl
      · rcases mem_apply mem with before | rfl | new
        · exact unread pc before
        · refine Bool.eq_false_iff.mpr fun reads => ?_
          rcases safely.reads _ reads with already | inside
          · rw [unread old (mem_of_getElem? found)] at already
            cases already
          · exact ne (sound.alone found inside same (by simp [Pc.holds]))
        · obtain ⟨req, rfl⟩ := safely.spawned pc new
          rfl
    · exact safely.apart _ _ _ _ isPut.symm
    · obtain ⟨req, isStart⟩ := safely.spawned _ mem
      cases isStart

def Pc.Silent : Pc → Prop
  | .writing _ _ | .sending _ _ _ | .load _ _ _ | .put _ _ _ _ => False
  | _ => True

def Pc.Leaves : Pc → Prop
  | .answering _ _ | .unlocking _ _ | .freeing _ _ | .finished => True
  | _ => False

theorem leaves_release (held : Option Key) : (release held).Leaves := by
  cases held <;> trivial

theorem leaves_of_ends {next : Pc}
    (ends : next = .finished ∨ ∃ bytes, next = .answering bytes none) : next.Leaves := by
  rcases ends with rfl | ⟨bytes, rfl⟩ <;> trivial

theorem Pc.Leaves.silent (leaves : pc.Leaves) (sh : Shared) : ThreadOk sh pc ∧ pc.Silent := by
  cases pc with
  | answering | unlocking | freeing | finished => exact ⟨trivial, trivial⟩
  | _ => exact leaves.elim

theorem Pc.Silent.refers (silent : pc.Silent) (buf : Nat) : pc.refers buf = false := by
  cases pc with
  | writing | sending => exact silent.elim
  | _ => rfl

theorem Pc.Silent.reads (silent : pc.Silent) (key : Key) : pc.reads key = false := by
  cases pc with
  | load => exact silent.elim
  | _ => rfl

theorem avoids_none (sh : Shared) (pc : Pc) : Avoids sh none none pc := by
  cases pc <;> simp [Avoids]

theorem Kept.safely (kept : Kept s t old move) (frame : Frame s.shared move.shared none none)
    (output : ∀ envelope ∈ move.shared.output, envelope ∈ s.shared.output ∨
      (Reaches s old envelope.slice.buffer ∧ EnvelopeOk move.shared envelope))
    (socket : ∀ delivery ∈ move.shared.socket, delivery ∈ s.shared.socket ∨ delivery.Intact)
    (th : ThreadOk move.shared move.thread) : Safely s t old move none none :=
  ⟨kept, frame, nofun, fun _ pc _ _ => avoids_none _ pc, nofun,
    fun envelope mem => (output envelope mem).imp_left (⟨·, nofun⟩), socket, th⟩

theorem Pc.Silent.kept (silent : move.thread.Silent)
    (spawned : ∀ pc ∈ move.spawned, ∃ req, pc = .start req) : Kept s t old move where
  refers := by simp [silent.refers]
  reads := by simp [silent.reads]
  apart := fun task slice off rest here => by
    rw [here] at silent
    exact silent.elim
  spawned := spawned

section

variable (sound : Sound s) (found : s.threads[t]? = some old) (advanced : Advanced s t old move)
  (frame : Frame s.shared move.shared none none) (output : move.shared.output = s.shared.output)
  (socket : move.shared.socket = s.shared.socket)

include sound found advanced frame output socket

theorem Sound.quiet (th : ThreadOk move.shared move.thread) (silent : move.thread.Silent)
    (spawned : ∀ pc ∈ move.spawned, ∃ req, pc = .start req) : Sound (s.apply t move) := by
  apply sound.apply found advanced
  exact (silent.kept spawned).safely frame (fun _ mem => .inl (output ▸ mem))
    (fun _ mem => .inl (socket ▸ mem)) th

theorem Sound.leave (leaves : move.thread.Leaves) (spawned : move.spawned = []) :
    Sound (s.apply t move) := by
  obtain ⟨threadOk, silent⟩ := leaves.silent move.shared
  exact sound.quiet found advanced frame output socket threadOk silent (by simp [spawned])

end

theorem refl_frame (sh : Shared) : Frame sh sh none none :=
  .same rfl rfl rfl fun _ => rfl

variable {sh : Shared} {req : Request}

theorem Follows.threadOk {next : Pc} (follows : Follows req key next) :
    ThreadOk sh next ∧ next.Silent := by
  cases follows with
  | reserve task _ unlocks => exact ⟨unlocks, trivial⟩
  | stamp timing tail isMessage nonempty => exact ⟨⟨isMessage, tail, rfl, nonempty⟩, trivial⟩
  | answering | unlocking => exact ⟨trivial, trivial⟩

variable {response : Bytes}

theorem prefix_copy {sent : Bytes} (isPrefix : sent <+: response) (count : Nat) :
    sent ++ (response.drop sent.length).take count <+: response := by
  obtain ⟨tail, rfl⟩ := isPrefix
  rw [drop_left]
  apply (prefix_append_right_inj sent).mpr
  exact take_prefix count tail

theorem Sound.safely_pump (sound : Sound s) (found : s.threads[t]? = some old)
    (advanced : Advanced s t old move)
    (pump : old = .taking ∨ ∃ envelope sent, old = .writing envelope sent)
    (going : move.thread ≠ .finished) : Safely s t old move none none := by
  cases advanced with
  | taken envelope rest output =>
    have mem : envelope ∈ s.shared.output := by simp [output]
    have frame : Frame s.shared { s.shared with output := rest } none none :=
      .same rfl rfl rfl fun _ => rfl
    refine Kept.safely ⟨fun buf refers => ?_, nofun, nofun, forall_mem_nil _⟩ frame
      (fun other inRest => .inl (output ▸ mem_cons_of_mem _ inRest)) (fun _ => .inl)
      ⟨(sound.queued envelope mem).frame frame nofun, nil_prefix⟩
    exact .queued envelope mem (by simpa [Pc.refers] using refers)
  | copied envelope sent count =>
    obtain ⟨envelopeOk, isPrefix⟩ := sound.threads t _ found
    refine Kept.safely ⟨fun _ refers => .own (by simpa [Pc.refers] using refers), nofun, nofun,
      forall_mem_nil _⟩ (refl_frame _) (fun _ => .inl) (fun _ => .inl) ⟨envelopeOk, ?_⟩
    rw [envelopeOk.1.content]
    exact prefix_copy isPrefix count
  | wrote envelope sent complete =>
    obtain ⟨envelopeOk, isPrefix⟩ := sound.threads t _ found
    refine Kept.safely (Pc.Silent.kept trivial (forall_mem_nil _)) (.same rfl rfl rfl fun _ => rfl)
      (fun _ => .inl) (fun delivery mem => ?_) trivial
    rcases mem_append.mp mem with before | new
    · exact .inl before
    · obtain rfl := mem_singleton.mp new
      have whole := isPrefix.eq_of_length (complete.trans envelopeOk.1.length)
      exact .inr ⟨whole.trans envelopeOk.2.symm, envelopeOk.2⟩
  | broken => exact absurd rfl going
  | _ => simp at pump

variable {held : Option Key}

theorem Sound.safely_sent (sound : Sound s)
    (found : s.threads[t]? = some (.sending slice response held)) :
    Safely s t (.sending slice response held) ⟨{ s.shared with
      output := s.shared.output ++ [⟨slice, s.shared.content slice, response⟩] },
      release held, []⟩ none none := by
  have carries : Carries s.shared slice response := sound.threads t _ found
  have frame : Frame s.shared { s.shared with
      output := s.shared.output ++ [⟨slice, s.shared.content slice, response⟩] } none none :=
    .same rfl rfl rfl fun _ => rfl
  obtain ⟨threadOk, silent⟩ := (leaves_release held).silent { s.shared with
      output := s.shared.output ++ [⟨slice, s.shared.content slice, response⟩] }
  refine (silent.kept (forall_mem_nil _)).safely frame (fun envelope mem => ?_) (fun _ => .inl)
    threadOk
  rcases mem_append.mp mem with before | new
  · exact .inl before
  · obtain rfl := mem_singleton.mp new
    exact .inr ⟨.own (beq_self_eq_true _), carries.frame frame nofun, carries.content⟩

theorem safely_answered {bytes : Bytes} :
    Safely s t (.answering bytes held) ⟨{ s.shared.alloc bytes none with
      output := s.shared.output ++ [⟨⟨s.shared.allocated, bytes.length⟩, bytes, bytes⟩] },
      release held, []⟩ none none := by
  obtain ⟨threadOk, silent⟩ := (leaves_release held).silent { s.shared.alloc bytes none with
      output := s.shared.output ++ [⟨⟨s.shared.allocated, bytes.length⟩, bytes, bytes⟩] }
  have frame := @frame_alloc s.shared bytes none
  refine (silent.kept (forall_mem_nil _)).safely
    ⟨frame.grows, frame.heap, frame.length, frame.owner, frame.buf⟩ (fun envelope mem => ?_)
    (fun _ => .inl) threadOk
  rcases mem_append.mp mem with before | new
  · exact .inl before
  · obtain rfl := mem_singleton.mp new
    refine .inr ⟨.fresh le_rfl, ⟨Nat.lt_succ_self _, rfl, ?_⟩, rfl⟩
    show (Function.update s.shared.heap s.shared.allocated bytes s.shared.allocated).take _ = _
    rw [Function.update_self, take_length]

theorem Sound.unread_message (sound : Sound s) : Unread s .message := by
  intro pc mem
  obtain ⟨u, found⟩ := mem_iff_getElem?.mp mem
  cases pc with
  | load key response held =>
    cases held with
    | true => rfl
    | false => exact beq_false_of_ne ((sound.threads u _ found).2 rfl)
  | _ => rfl

theorem Sound.unreferenced_fresh (sound : Sound s) : Unreferenced s s.shared.allocated := by
  refine ⟨fun envelope mem => (sound.queued envelope mem).1.known.ne, fun pc mem => ?_⟩
  obtain ⟨u, found⟩ := mem_iff_getElem?.mp mem
  have threadOk := sound.threads u pc found
  cases pc with
  | writing => exact beq_false_of_ne threadOk.1.1.known.ne
  | sending => exact beq_false_of_ne (Carries.known threadOk).ne
  | _ => rfl

theorem apart_apply (output : move.shared.output = s.shared.output)
    (unreferenced : Unreferenced s slice.buffer) (unread : Unread s task.key)
    (here : move.thread = .put task slice off rest) (spawned : move.spawned = []) :
    Unreferenced (s.apply t move) slice.buffer ∧ Unread (s.apply t move) task.key := by
  have members : ∀ pc ∈ (s.apply t move).threads,
      pc ∈ s.threads ∨ pc = .put task slice off rest := by
    intro pc mem
    rcases mem_apply mem with before | own | new
    · exact .inl before
    · exact .inr (own.trans here)
    · rw [spawned] at new
      cases new
  refine ⟨⟨fun envelope mem => ?_, fun pc mem => ?_⟩, fun pc mem => ?_⟩
  · exact unreferenced.1 envelope (output ▸ mem)
  · rcases members pc mem with before | rfl
    · exact unreferenced.2 pc before
    · rfl
  · rcases members pc mem with before | rfl
    · exact unread pc before
    · rfl

variable {reserved : Shared}

theorem Sound.reserve (sound : Sound s) (permits : s.shared.Fits task.key task.response.length →
      Unreferenced s (s.shared.items task.key).buf.buffer)
    (here : s.shared.reserve task.key task.response.length = (reserved, slice)) :
    Frame s.shared reserved none none ∧ reserved.output = s.shared.output ∧
      reserved.socket = s.shared.socket ∧ slice.buffer < reserved.allocated ∧
      reserved.owner slice.buffer = some task.key ∧ slice.length = task.response.length ∧
      task.response.length ≤ (reserved.heap slice.buffer).length ∧ Unreferenced s slice.buffer := by
  have long : 8 ≤ task.response.length := by
    simp [Task.response, Task.parts]
  unfold Shared.reserve at here
  split at here
  next fits =>
    obtain ⟨rfl, rfl⟩ := Prod.mk.inj here
    have owner : s.shared.owner (s.shared.items task.key).buf.buffer = some task.key := by
      rcases (sound.bufs task.key).owner with zero | owner
      · rw [Shared.Fits, zero, sound.nil.2.1, length_nil] at fits
        omega
      · exact owner
    exact ⟨refl_frame _, rfl, rfl, (sound.bufs task.key).known, owner, rfl, fits, permits fits⟩
  next =>
    obtain ⟨rfl, rfl⟩ := Prod.mk.inj here
    refine ⟨frame_alloc _ _, rfl, rfl, Nat.lt_succ_self _, Function.update_self _ _ _, rfl, ?_,
      sound.unreferenced_fresh⟩
    show _ ≤ (Function.update s.shared.heap s.shared.allocated _ s.shared.allocated).length
    rw [Function.update_self, length_replicate]

theorem frame_setBuf_if (early : Bool) (key : Key) (slice : Slice) :
    Frame sh (if early then sh.setBuf key slice else sh) none (some key) := by
  cases early with
  | true => exact frame_moved key _
  | false => exact ⟨le_refl _, fun _ _ _ => rfl, fun _ _ => rfl, fun _ _ => rfl, fun _ _ => rfl⟩

theorem Frame.trans {first second third : Shared} (left : Frame first second none none)
    (right : Frame second third none moved) : Frame first third none moved where
  grows := left.grows.trans right.grows
  heap := fun buffer below _ => (right.heap buffer (below.trans_le left.grows) nofun).trans
    (left.heap buffer below nofun)
  length := fun buffer below => (right.length buffer (below.trans_le left.grows)).trans
    (left.length buffer below)
  owner := fun buffer below => (right.owner buffer (below.trans_le left.grows)).trans
    (left.owner buffer below)
  buf := fun key other => (right.buf key other).trans (left.buf key nofun)

theorem buf_setBuf (sh : Shared) (key : Key) (slice : Slice) :
    ((sh.setBuf key slice).items key).buf = slice := by
  show (Function.update sh.items key _ key).buf = slice
  rw [Function.update_self]

theorem bufOk_setBuf_if (early : Bool) (known : slice.buffer < sh.allocated)
    (owner : sh.owner slice.buffer = some key) (fits : slice.length ≤ (sh.heap slice.buffer).length)
    (before : BufOk sh key) : BufOk (if early then sh.setBuf key slice else sh) key := by
  cases early with
  | true =>
    have same := buf_setBuf sh key slice
    exact ⟨same.symm ▸ known, .inr (same.symm ▸ owner), same.symm ▸ fits⟩
  | false => exact before

section

variable (sound : Sound s)

include sound

theorem Sound.safely_reserved (found : s.threads[t]? = some (.reserve task))
    (permits : Permits s (.reserve task))
    (here : s.shared.reserve task.key task.response.length = (reserved, slice)) :
    Safely s t (.reserve task) ⟨if task.early then reserved.setBuf task.key slice else reserved,
      .put task slice 0 task.parts, []⟩ none (some task.key) := by
  obtain ⟨frame, output, socket, known, owner, length, room, unreferenced⟩ :=
    sound.reserve permits.2 here
  have placed := @frame_setBuf_if reserved task.early task.key slice
  have inside : (Pc.reserve task).holds task.key = true := beq_self_eq_true task.key
  have sameOutput : (if task.early then reserved.setBuf task.key slice else reserved).output =
      s.shared.output := by
    split
    · exact output
    · exact output
  have sameSocket : (if task.early then reserved.setBuf task.key slice else reserved).socket =
      s.shared.socket := by
    split
    · exact socket
    · exact socket
  refine ⟨⟨nofun, nofun, ?_, forall_mem_nil _⟩, frame.trans placed, nofun,
    fun u pc => sound.avoids found inside permits.1 none _ nofun
      fun _ same => Option.some.inj same, ?_,
    fun envelope mem => .inl ⟨sameOutput ▸ mem, nofun⟩,
    fun delivery mem => .inl (sameSocket ▸ mem), ?_⟩
  · intro task' slice' off rest same
    obtain ⟨rfl, rfl, _, _⟩ := Pc.put.inj same
    exact apart_apply sameOutput unreferenced permits.1 rfl rfl
  · intro key same
    cases same
    exact bufOk_setBuf_if _ known owner (length.trans_le room)
      ((sound.bufs _).frame frame nofun)
  · refine ⟨⟨known.trans_le placed.grows, ?_, length, ?_, ⟨[], rfl, rfl, rfl⟩, fun early => ?_⟩,
      sound.threads t _ found⟩
    · rw [placed.owner _ known, owner]
    · rw [placed.length _ known]
      exact room
    · rw [early]
      exact buf_setBuf reserved task.key slice

theorem Sound.safely_put {part : Bytes}
    (found : s.threads[t]? = some (.put task slice off (part :: rest))) :
    Safely s t (.put task slice off (part :: rest)) ⟨s.shared.write slice.buffer off part,
      .put task slice (off + part.length) rest, []⟩ (some slice.buffer) none := by
  obtain ⟨unreferenced, unread⟩ := sound.apart t _ _ _ _ found
  obtain ⟨filling, unlocks⟩ := sound.threads t _ found
  obtain ⟨first, parts, rfl, content⟩ := filling.filled
  have frame := @frame_write s.shared slice.buffer first.flatten.length part
  have inside : first.flatten.length + part.length ≤ (s.shared.heap slice.buffer).length := by
    refine le_trans ?_ filling.room
    rw [Task.response, parts, flatten_append, flatten_cons, length_append, length_append]
    omega
  refine ⟨⟨nofun, nofun, ?_, forall_mem_nil _⟩, frame, ?_,
    fun u pc => sound.avoids found (beq_self_eq_true task.key) unread (some _) none
      (fun buf same => ?_) nofun, nofun,
    fun envelope mem => .inl ⟨mem, fun same => unreferenced.1 envelope mem (Option.some.inj same)⟩,
    fun _ => .inl, ?_⟩
  · intro task' slice' offset' rest' same
    obtain ⟨rfl, rfl, _, _⟩ := Pc.put.inj same
    exact apart_apply rfl unreferenced unread rfl rfl
  · intro same
    have owner := filling.owner
    rw [← Option.some.inj same, sound.nil.2.2] at owner
    cases owner
  · cases same
    exact ⟨filling.owner, unreferenced⟩
  · refine ⟨⟨filling.known, filling.owner, filling.length, ?_, ⟨first ++ [part], ?_, ?_, ?_⟩,
      filling.early⟩, unlocks⟩
    · rw [frame.length _ filling.known]
      exact filling.room
    · rw [parts, append_assoc, singleton_append]
    · simp
    · rw [heap_write, poke_eq inside, content, ← append_assoc, take_left' (by simp)]
      simp

theorem Sound.safely_assigned (found : s.threads[t]? = some (.put task slice off [])) :
    Safely s t (.put task slice off []) ⟨if task.early then s.shared
      else s.shared.setBuf task.key slice, .filled task, []⟩ none (some task.key) := by
  obtain ⟨_, unread⟩ := sound.apart t _ _ _ _ found
  obtain ⟨filling, unlocks⟩ := sound.threads t _ found
  obtain ⟨first, parts, isOffset, content⟩ := filling.filled
  rw [List.append_nil] at parts
  have whole : (s.shared.heap slice.buffer).take slice.length = task.response := by
    rw [filling.length, Task.response, parts, ← isOffset]
    exact content
  -- Both branches leave the slice in the item.
  have placed : ∀ after, after = (if task.early then s.shared else s.shared.setBuf task.key slice) →
      Frame s.shared after none (some task.key) ∧ (after.items task.key).buf = slice ∧
        after.output = s.shared.output ∧ after.socket = s.shared.socket ∧ BufOk after task.key := by
    rintro after rfl
    cases early : task.early with
    | true =>
      exact ⟨frame_setBuf_if false task.key slice, filling.early early, rfl, rfl,
        sound.bufs task.key⟩
    | false =>
      exact ⟨frame_setBuf_if true task.key slice, buf_setBuf _ _ _, rfl, rfl,
        bufOk_setBuf_if true filling.known filling.owner (filling.length.trans_le filling.room)
          (sound.bufs task.key)⟩
  obtain ⟨frame, buf, output, socket, bufOk⟩ := placed _ rfl
  refine ⟨Pc.Silent.kept trivial (forall_mem_nil _), frame, nofun,
    fun u pc => sound.avoids found (beq_self_eq_true task.key) unread none _ nofun
      fun _ same => Option.some.inj same, ?_, fun envelope mem => .inl ⟨output ▸ mem, nofun⟩,
    fun delivery mem => .inl (socket ▸ mem), ?_, unlocks⟩
  · intro key same
    cases same
    exact bufOk
  · rw [buf]
    refine ⟨filling.known.trans_le frame.grows, filling.length, ?_⟩
    rw [Shared.content, frame.heap _ filling.known (by simp)]
    exact whole

theorem Sound.safely_stamped {timing : Nat}
    (found : s.threads[t]? = some (.stamp key timing response))
    (permits : Permits s (.stamp key timing response)) : Safely s t (.stamp key timing response)
      ⟨s.shared.write (s.shared.items key).buf.buffer 0 (leBytes 8 timing),
        .load key response true, []⟩ (some (s.shared.items key).buf.buffer) none := by
  obtain ⟨unreferenced, holds⟩ := permits
  obtain ⟨rfl, tail, rfl, nonempty⟩ := sound.threads t _ found
  obtain ⟨known, owner, fits⟩ := sound.bufs .message
  rw [drop_left' (length_leBytes 8 timing)] at holds
  have length : (s.shared.items .message).buf.length = 8 + tail.length := by
    have size := congrArg List.length holds
    have pos := length_pos_of_ne_nil nonempty
    rw [length_drop, Shared.content, length_take, Nat.min_eq_left fits] at size
    omega
  have same : ((s.shared.heap (s.shared.items .message).buf.buffer).drop 8).take tail.length =
      tail := by
    rwa [Shared.content, length, drop_take, Nat.add_sub_cancel_left] at holds
  have owned : s.shared.owner (s.shared.items .message).buf.buffer = some .message := by
    rcases owner with zero | owner
    · rw [zero, sound.nil.2.1, length_nil] at fits
      omega
    · exact owner
  refine ⟨⟨(fun _ refers => by cases refers), (fun _ reads => by cases reads), (by simp),
    forall_mem_nil _⟩, frame_write _ _ _, ?_,
    fun u pc => sound.avoids found (beq_self_eq_true Key.message) sound.unread_message (some _)
      none (fun buf same => ?_) (by simp), (by simp),
    fun envelope mem => .inl ⟨mem, fun same => unreferenced.1 envelope mem (Option.some.inj same)⟩,
    fun _ => .inl, ⟨known, ?_, ?_⟩, (by simp)⟩
  · intro same
    rw [← Option.some.inj same, sound.nil.2.2] at owned
    cases owned
  · cases same
    exact ⟨owned, unreferenced⟩
  · exact length.trans (by simp)
  · refine (content_write s.shared (s.shared.items .message).buf 0 (leBytes 8 timing)).trans ?_
    rw [poke_eq (by rw [length_leBytes]; omega), take_zero, nil_append, length, take_append,
      length_leBytes, Nat.zero_add, Nat.add_sub_cancel_left, take_of_length_le (by simp), same]

theorem Sound.safely_unsubscribed {answer : Option Bytes}
    (found : s.threads[t]? = some (.inside req .message)) : Safely s t (.inside req .message)
      ⟨s.shared.setItem .message { s.shared.items .message with live := false, buf := ⟨0, 0⟩ },
        .unlocking .message answer, []⟩ none (some .message) := by
  refine ⟨Pc.Silent.kept trivial (forall_mem_nil _), frame_moved _ _, nofun,
    fun u pc => sound.avoids found (beq_self_eq_true Key.message) sound.unread_message none _ nofun
      fun _ same => Option.some.inj same, ?_,
    fun _ mem => .inl ⟨mem, nofun⟩, fun _ => .inl, trivial⟩
  intro key same
  cases same
  exact ⟨sound.nil.1, .inl rfl, Nat.zero_le _⟩

/-- A step writes only into buffers that nothing queued or in work refers to. -/
theorem Sound.step (found : s.threads[t]? = some old)
    (advanced : Advanced s t old move) (permits : Permits s old) : Sound (s.apply t move) := by
  have kept := advanced
  have threadOk := sound.threads t old found
  cases advanced with
  | taken => exact sound.apply found kept (sound.safely_pump found kept (.inl rfl) nofun)
  | copied | wrote =>
    exact sound.apply found kept (sound.safely_pump found kept (.inr ⟨_, _, rfl⟩) nofun)
  | reserved task reserved slice here =>
    exact sound.apply found kept (sound.safely_reserved found permits here)
  | put => exact sound.apply found kept (sound.safely_put found)
  | assigned => exact sound.apply found kept (sound.safely_assigned found)
  | stamped => exact sound.apply found kept (sound.safely_stamped found permits)
  | unsubscribed => exact sound.apply found kept (sound.safely_unsubscribed found)
  | sent => exact sound.apply found kept (sound.safely_sent found)
  | answered => exact sound.apply found kept safely_answered
  | filledSend task =>
    refine sound.apply found kept (Kept.safely ⟨nofun, nofun, nofun, forall_mem_nil _⟩
      (refl_frame _) (fun _ => .inl) (fun _ => .inl) ⟨threadOk.1, nofun⟩)
  | filledUnlock task finish =>
    have frame : Frame s.shared (s.shared.setLock task.key none) none none :=
      frame_setItem (by rfl)
    refine sound.apply found kept (Kept.safely ⟨nofun, fun _ => .inr, nofun, forall_mem_nil _⟩
      frame (fun _ => .inl) (fun _ => .inl) ⟨?_, fun _ => threadOk.2 finish⟩)
    rw [frame.buf _ nofun]
    exact threadOk.1.frame frame nofun
  | loaded key response held =>
    refine sound.apply found kept (Kept.safely ⟨fun buffer refers => ?_, nofun, nofun,
      forall_mem_nil _⟩ (refl_frame _) (fun _ => .inl) (fun _ => .inl) threadOk.1)
    exact .loaded key response held rfl (by simpa [Pc.refers] using refers)
  | spawned req =>
    exact sound.quiet found kept (refl_frame _) rfl rfl trivial trivial (by simp)
  | handled req key item next lock buf follows =>
    obtain ⟨nextOk, silent⟩ := follows.threadOk
    exact sound.quiet found kept (frame_setItem buf) rfl rfl nextOk silent (forall_mem_nil _)
  | found req key own =>
    exact sound.quiet found kept (refl_frame _) rfl rfl own trivial (forall_mem_nil _)
  | locked =>
    exact sound.quiet found kept (frame_setItem (by rfl)) rfl rfl threadOk trivial
      (forall_mem_nil _)
  | completed => exact sound.leave found kept (frame_setItem (by rfl)) rfl rfl trivial rfl
  | created req key =>
    have same : Frame s.shared (s.shared.setItem key
        { s.shared.items key with listed := true, live := true }) none none :=
      frame_setItem (by rfl)
    exact sound.leave found kept (.same rfl rfl rfl fun other => same.buf other nofun) rfl rfl
      trivial rfl
  | sendDropped | answerDropped =>
    exact sound.leave found kept (refl_frame _) rfl rfl (leaves_release _) rfl
  | unlocked key answer next ends | freed key answer next ends =>
    exact sound.leave found kept (frame_setItem (by rfl)) rfl rfl (leaves_of_ends ends) rfl
  | broken | refused | free | filledAnswer =>
    exact sound.leave found kept (refl_frame _) rfl rfl trivial rfl

end

theorem sound_opened : Sound opened where
  exclusive := by
    intro u pc key found
    match u with
    | 0 => cases found; exact nofun
    | 1 => cases found; exact nofun
    | u + 2 => cases found
  nil := ⟨Nat.one_pos, rfl, rfl⟩
  bufs := fun _ => ⟨Nat.one_pos, .inl rfl, le_rfl⟩
  queued := nofun
  written := nofun
  threads := by
    intro u pc found
    match u with
    | 0 => cases found; trivial
    | 1 => cases found; trivial
    | u + 2 => cases found
  apart := by
    intro u task slice off rest found
    match u with
    | 0 => cases found
    | 1 => cases found
    | u + 2 => cases found

theorem sound_of_reachable {controller : Controller} {capacity : Nat}
    (reached : (machine controller capacity).system.ReachableUnder KeepsBuffers s) : Sound s := by
  refine System.ReachableUnder.invariant (fun _ initial => ?_)
    (fun before label after sound met stepped => ?_) reached
  · rw [show _ = opened from initial]
    exact sound_opened
  · obtain ⟨old, move, found, moved, rfl⟩ := Machine.next_inv stepped
    exact sound.step found (advanced_of_advance moved) (met old found)

end

/-- In every run that keeps the messages under way, every message was written
with the bytes it had when it was queued, which are the header and the block of
its own request; and what was written so far of the present one is a part of
these. -/
theorem responses_written_as_queued (controller : Controller) (capacity : Nat) (s : State)
    (reached : (machine controller capacity).system.ReachableUnder KeepsBuffers s) :
    (∀ delivery ∈ s.shared.socket,
      delivery.written = delivery.enqueued ∧ delivery.enqueued = delivery.response) ∧
    ∀ envelope sent, .writing envelope sent ∈ s.threads →
      sent <+: envelope.enqueued ∧ envelope.enqueued = envelope.response := by
  have sound := sound_of_reachable reached
  refine ⟨sound.written, fun envelope sent member => ?_⟩
  obtain ⟨u, found⟩ := mem_iff_getElem?.mp member
  obtain ⟨⟨_, same⟩, isPrefix⟩ := sound.threads u _ found
  exact ⟨same ▸ isPrefix, same⟩

def steps (t n : Nat) : List (Nat × Choice) := List.replicate n (t, .go)

def writeOne : List (Nat × Choice) := [(1, .go), (1, .copy 1000), (1, .go)]

def firstBlock : List (Nat × Choice) :=
  [(0, .message .query), (2, .completed [1]), (2, .go)] ++ writeOne ++
    [(0, .message (.fetch 1)), (3, .go), (3, .go), (3, .block 0 [10, 20] [2])] ++ steps 3 2 ++
    writeOne

def sendBlock (t timing : Nat) : List (Nat × Choice) :=
  [(0, .message (.fetchBlock 1)), (t, .go), (t, .go), (t, .timing timing)] ++ steps t 9

def secondBlock : List (Nat × Choice) :=
  [(0, .message (.fetch 1)), (5, .go), (5, .go), (5, .block 0 [30, 40] [3])] ++ steps 5 2

/-- The buffer is used again after the first block was written. -/
theorem responses_written_as_queued_in_turn :
    ∃ s : State, (machine .ws 1).system.ReachableUnder KeepsBuffers s ∧
      s.shared.socket.map Delivery.response = [[1], [2], leBytes 8 5 ++ (leBytes 8 1 ++ [10, 20]),
        [3], leBytes 8 6 ++ (leBytes 8 1 ++ [30, 40])] ∧
      ∀ delivery ∈ s.shared.socket,
        delivery.written = delivery.enqueued ∧ delivery.enqueued = delivery.response := by
  obtain ⟨s, reached, responses⟩ :
      ∃ s : State, (machine .ws 1).system.ReachableUnder KeepsBuffers s ∧
        s.shared.socket.map Delivery.response = [[1], [2],
          leBytes 8 5 ++ (leBytes 8 1 ++ [10, 20]), [3],
          leBytes 8 6 ++ (leBytes 8 1 ++ [30, 40])] :=
    (machine .ws 1).system.exists_of_exec (.flatten [firstBlock, sendBlock 4 5, writeOne,
      secondBlock, writeOne, sendBlock 6 6, writeOne]) rfl (by decide +kernel)
  exact ⟨s, reached, responses, (responses_written_as_queued .ws 1 s reached).1⟩

def blockOverwritten : List (Nat × Choice) :=
  firstBlock ++ sendBlock 4 5 ++
    [(0, .message (.fetch 1)), (5, .go), (5, .go), (5, .block 0 [30, 40] [3]), (5, .go),
      (0, .message (.fetchBlock 1)), (6, .go), (6, .go), (6, .timing 6)] ++ steps 6 4 ++ writeOne

def rawOverwritten : List (Nat × Choice) :=
  [(0, .message .poll), (2, .go), (2, .go), (2, .answer [1])] ++ steps 2 2 ++ writeOne ++
    [(0, .message (.tmqFetchRawBlock 7 1)), (3, .go), (3, .go), (3, .raw 5 1 [10])] ++ steps 3 13 ++
    [(0, .message (.tmqFetchRawBlock 8 1)), (4, .go), (4, .go), (4, .raw 6 1 [20])] ++ steps 4 8 ++
    writeOne

def rawBlockConfused : List (Nat × Choice) :=
  [(0, .message .query), (2, .completed [1]), (2, .go)] ++ writeOne ++
    [(0, .message (.fetchRawBlock 7 1)), (3, .go), (3, .go), (3, .block 5 [10] [])] ++ steps 3 14 ++
    [(0, .message (.fetchRawBlock 8 1)), (4, .go), (4, .go), (4, .block 6 [20] [])] ++ steps 4 13 ++
    steps 3 2 ++ writeOne

/-- With an output channel of one message: the block of a result and the raw data
of a topic's message are written with the bytes of a later request, and a raw
block is queued with them. -/
theorem response_overwritten_in_queue :
    (∃ s : State, (machine .ws 1).system.Reachable s ∧ s.shared.socket = [⟨[1], [1], [1]⟩,
      ⟨[2], [2], [2]⟩, ⟨(fetchBlockTask 1 6 [30, 40]).response,
        (fetchBlockTask 1 5 [10, 20]).response, (fetchBlockTask 1 5 [10, 20]).response⟩]) ∧
    (∃ s : State, (machine .tmq 1).system.Reachable s ∧ s.shared.socket = [⟨[1], [1], [1]⟩,
      ⟨(tmqFetchRawBlockTask 8 1 6 1 [20]).response, (tmqFetchRawBlockTask 7 1 5 1 [10]).response,
        (tmqFetchRawBlockTask 7 1 5 1 [10]).response⟩]) ∧
    ∃ s : State, (machine .ws 1).system.Reachable s ∧ s.shared.socket = [⟨[1], [1], [1]⟩,
      ⟨(fetchRawBlockTask 8 1 6 [20]).response, (fetchRawBlockTask 8 1 6 [20]).response,
        (fetchRawBlockTask 7 1 5 [10]).response⟩] := by
  refine ⟨?_, ?_, ?_⟩
  · exact (machine .ws 1).system.exists_of_exec blockOverwritten rfl (by decide +kernel)
  · exact (machine .tmq 1).system.exists_of_exec rawOverwritten rfl (by decide +kernel)
  · exact (machine .ws 1).system.exists_of_exec rawBlockConfused rfl (by decide +kernel)

end TaosAdapter.Reply
