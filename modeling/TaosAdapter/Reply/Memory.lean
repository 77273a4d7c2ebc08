import TaosAdapter.Reply.Step

/-!
Owns: the locks and the memory of a connection under a step. A step respects
the lock of every item; `Frame` says which buffer and which slice it may have
changed, and what it left is still what it was: a slice carries its response, a
slice that is being filled holds the first parts of it.
-/

namespace TaosAdapter.Reply

open Lib

def Pc.holds : Pc → Key → Bool
  | .inside _ own, key | .stamp own _ _, key | .load own _ true, key
  | .sending _ _ (some own), key | .answering _ (some own), key | .unlocking own _, key =>
    own == key
  | .reserve task, key | .put task _ _ _, key | .filled task, key => task.key == key
  | _, _ => false

def Shared.lock (sh : Shared) (key : Key) : Option Nat := (sh.items key).lock

section

variable {s : State} {t : Nat} {old : Pc} {move : Move Shared Pc} {key : Key} (sh : Shared)

theorem lock_setItem {item : Item} (same : item.lock = (sh.items key).lock) (other : Key) :
    (sh.setItem key item).lock other = sh.lock other := by
  show (Function.update sh.items key item other).lock = (sh.items other).lock
  by_cases equal : other = key
  · subst equal
    rw [Function.update_self, same]
  · rw [Function.update_of_ne equal]

theorem lock_setLock (key : Key) (lock : Option Nat) (other : Key) :
    (sh.setLock key lock).lock other = if other = key then lock else sh.lock other := by
  show (Function.update sh.items key _ other).lock = _
  split
  next equal => rw [equal, Function.update_self]
  next ne =>
    rw [Function.update_of_ne ne]
    rfl

theorem lock_setBuf (key : Key) (buf : Slice) (other : Key) :
    (sh.setBuf key buf).lock other = sh.lock other :=
  lock_setItem sh (by rfl) other

theorem lock_reserve {sh reserved : Shared} {size : Nat} {slice : Slice}
    (here : sh.reserve key size = (reserved, slice)) : reserved.items = sh.items := by
  unfold Shared.reserve at here
  split at here
  · obtain ⟨rfl, _⟩ := Prod.mk.inj here
    rfl
  · obtain ⟨rfl, _⟩ := Prod.mk.inj here
    rfl

theorem holds_release (held : Option Key) (key : Key) :
    (release held).holds key = true → held = some key := by
  cases held with
  | none => exact nofun
  | some own => simp [release, Pc.holds]

theorem respects_unlock {next : Pc} (inside : old.holds key = true)
    (only : ∀ other, old.holds other = true → other = key)
    (outside : ∀ other, next.holds other = false) (other : Key) :
    Respects Pc.holds Shared.lock t old s.shared ⟨s.shared.setLock key none, next, []⟩ other := by
  by_cases equal : other = key
  · subst equal
    exact .leave inside (by rw [lock_setLock, if_pos rfl]) (outside _)
  · refine .keep (by rw [lock_setLock, if_neg equal]) fun held => ?_
    rw [outside] at held
    cases held

theorem Follows.holds {req : Request} {other : Key} {next : Pc} (follows : Follows req key next)
    (own : req.key = some key) (held : next.holds other = true) :
    (Pc.inside req key).holds other = true := by
  cases follows with
  | reserve task ownTask _ =>
    rw [own] at ownTask
    cases ownTask
    exact held
  | _ => exact held

theorem Advanced.respects (advanced : Advanced s t old move)
    (named : ∀ req key, old = .inside req key → req.key = some key) (key : Key) :
    Respects Pc.holds Shared.lock t old s.shared move key := by
  cases advanced with
  | locked req own free =>
    by_cases equal : key = own
    · subst equal
      exact .take free (by rw [lock_setLock, if_pos rfl])
    · refine .keep (by rw [lock_setLock, if_neg equal]) fun held => ?_
      exact absurd (by simpa [Pc.holds] using held) (Ne.symm equal)
  | handled req own item next lock _ follows =>
    exact .keep (lock_setItem _ lock key) (follows.holds (named _ _ rfl))
  | unsubscribed => exact .keep (lock_setItem _ (by rfl) key) id
  | reserved task reserved slice here =>
    refine .keep ?_ id
    have same : reserved.lock key = s.shared.lock key := by
      rw [Shared.lock, lock_reserve here, Shared.lock]
    dsimp only
    split
    · rw [lock_setBuf, same]
    · exact same
  | assigned =>
    refine .keep ?_ id
    dsimp only
    split
    · rfl
    · rw [lock_setBuf]
  | completed | filledUnlock =>
    exact respects_unlock (by simp [Pc.holds]) (by simp [Pc.holds]) (by simp [Pc.holds]) key
  | unlocked own _ next ends =>
    refine respects_unlock (by simp [Pc.holds]) (by simp [Pc.holds]) ?_ key
    rcases ends with rfl | ⟨bytes, rfl⟩ <;> simp [Pc.holds]
  | freed own _ next ends =>
    refine .keep (lock_setItem _ (by rfl) key) fun held => ?_
    rcases ends with rfl | ⟨bytes, rfl⟩ <;> simp [Pc.holds] at held
  | created => exact .keep (lock_setItem _ (by rfl) key) nofun
  | loaded own response held => cases held <;> exact .keep rfl id
  | sent | sendDropped | answered | answerDropped =>
    refine .keep rfl fun held => ?_
    obtain rfl := holds_release _ _ held
    simp [Pc.holds]
  | filledAnswer | filledSend | put | stamped => exact .keep rfl id
  | _ => exact .keep rfl (by simp [Pc.holds])

end

section

variable {sh after : Shared} {wrote : Option Nat} {moved : Option Key}

structure Frame (sh after : Shared) (wrote : Option Nat) (moved : Option Key) : Prop where
  grows : sh.allocated ≤ after.allocated
  heap : ∀ buffer < sh.allocated, some buffer ≠ wrote →
    after.heap buffer = sh.heap buffer
  length : ∀ buffer < sh.allocated,
    (after.heap buffer).length = (sh.heap buffer).length
  owner : ∀ buffer < sh.allocated, after.owner buffer = sh.owner buffer
  buf : ∀ key, some key ≠ moved → (after.items key).buf = (sh.items key).buf

structure Carries (sh : Shared) (slice : Slice) (response : Bytes) : Prop where
  known : slice.buffer < sh.allocated
  length : slice.length = response.length
  content : sh.content slice = response

structure BufOk (sh : Shared) (key : Key) : Prop where
  known : (sh.items key).buf.buffer < sh.allocated
  owner : (sh.items key).buf.buffer = 0 ∨
    sh.owner (sh.items key).buf.buffer = some key
  fits : (sh.items key).buf.length ≤ (sh.heap (sh.items key).buf.buffer).length

structure Filling (sh : Shared) (task : Task) (slice : Slice) (offset : Nat)
    (rest : List Bytes) : Prop where
  known : slice.buffer < sh.allocated
  owner : sh.owner slice.buffer = some task.key
  length : slice.length = task.response.length
  room : task.response.length ≤ (sh.heap slice.buffer).length
  filled : ∃ first, task.parts = first ++ rest ∧ offset = first.flatten.length ∧
    (sh.heap slice.buffer).take offset = first.flatten
  early : task.early = true → (sh.items task.key).buf = slice

def Task.Unlocks (task : Task) : Prop := task.finish = .unlockSend → task.key ≠ .message

def EnvelopeOk (sh : Shared) (envelope : Envelope) : Prop :=
  Carries sh envelope.slice envelope.response ∧ envelope.enqueued = envelope.response

def ThreadOk (sh : Shared) : Pc → Prop
  | .writing envelope sent => EnvelopeOk sh envelope ∧ sent <+: envelope.response
  | .locking request key | .inside request key => request.key = some key
  | .reserve task => task.Unlocks
  | .put task slice offset rest => Filling sh task slice offset rest ∧ task.Unlocks
  | .filled task => Carries sh (sh.items task.key).buf task.response ∧ task.Unlocks
  | .stamp key timing response =>
    key = .message ∧ ∃ tail, response = leBytes 8 timing ++ tail ∧ tail ≠ []
  | .load key response held => Carries sh (sh.items key).buf response ∧
      (held = false → key ≠ .message)
  | .sending slice response _ => Carries sh slice response
  | _ => True

def Avoids (sh : Shared) (wrote : Option Nat) (moved : Option Key) : Pc → Prop
  | .writing envelope _ => some envelope.slice.buffer ≠ wrote
  | .sending slice _ _ => some slice.buffer ≠ wrote
  | .put task slice _ _ => some slice.buffer ≠ wrote ∧ some task.key ≠ moved
  | .filled task => some (sh.items task.key).buf.buffer ≠ wrote ∧ some task.key ≠ moved
  | .load key _ _ => some (sh.items key).buf.buffer ≠ wrote ∧ some key ≠ moved
  | _ => True

variable {slice : Slice}

theorem Carries.frame (frame : Frame sh after wrote moved) {response : Bytes}
    (carries : Carries sh slice response) (other : some slice.buffer ≠ wrote) :
    Carries after slice response where
  known := lt_of_lt_of_le carries.known frame.grows
  length := carries.length
  content := by
    rw [Shared.content, frame.heap _ carries.known other]
    exact carries.content

theorem EnvelopeOk.frame (frame : Frame sh after wrote moved) {envelope : Envelope}
    (envelopeOk : EnvelopeOk sh envelope) (other : some envelope.slice.buffer ≠ wrote) :
    EnvelopeOk after envelope :=
  ⟨envelopeOk.1.frame frame other, envelopeOk.2⟩

theorem BufOk.frame (frame : Frame sh after wrote moved) {key : Key}
    (bufOk : BufOk sh key) (other : some key ≠ moved) : BufOk after key := by
  obtain ⟨known, owner, fits⟩ := bufOk
  have same := frame.buf key other
  refine ⟨?_, ?_, ?_⟩
  · rw [same]
    exact lt_of_lt_of_le known frame.grows
  · rw [same, frame.owner _ known]
    exact owner
  · rw [same, frame.length _ known]
    exact fits

theorem Filling.frame (frame : Frame sh after wrote moved) {task : Task} {off : Nat}
    {rest : List Bytes} (filling : Filling sh task slice off rest)
    (other : some slice.buffer ≠ wrote) (otherKey : some task.key ≠ moved) :
    Filling after task slice off rest := by
  have same := frame.heap _ filling.known other
  refine ⟨lt_of_lt_of_le filling.known frame.grows, ?_, filling.length, ?_, ?_, ?_⟩
  · rw [frame.owner _ filling.known]
    exact filling.owner
  · rw [same]
    exact filling.room
  · rw [same]
    exact filling.filled
  · rw [frame.buf _ otherKey]
    exact filling.early

theorem ThreadOk.frame (frame : Frame sh after wrote moved) {pc : Pc}
    (threadOk : ThreadOk sh pc) (avoids : Avoids sh wrote moved pc) : ThreadOk after pc := by
  cases pc with
  | writing envelope sent =>
    exact ⟨threadOk.1.frame frame avoids, threadOk.2⟩
  | put => exact ⟨threadOk.1.frame frame avoids.1 avoids.2, threadOk.2⟩
  | filled | load =>
    have same := frame.buf _ avoids.2
    exact ⟨same ▸ threadOk.1.frame frame avoids.1, threadOk.2⟩
  | sending => exact Carries.frame frame threadOk avoids
  | _ => exact threadOk

theorem Frame.same (heap : after.heap = sh.heap) (owner : after.owner = sh.owner)
    (allocated : after.allocated = sh.allocated)
    (buf : ∀ key, (after.items key).buf = (sh.items key).buf) : Frame sh after none none where
  grows := allocated.ge
  heap := fun _ _ _ => congrFun heap _
  length := fun _ _ => by rw [heap]
  owner := fun _ _ => congrFun owner _
  buf := fun key _ => buf key

theorem frame_setItem {key : Key} {item : Item} (buf : item.buf = (sh.items key).buf) :
    Frame sh (sh.setItem key item) none none := by
  refine .same rfl rfl rfl fun other => ?_
  show (Function.update sh.items key item other).buf = (sh.items other).buf
  by_cases equal : other = key
  · subst equal
    rw [Function.update_self, buf]
  · rw [Function.update_of_ne equal]

theorem frame_moved (key : Key) (item : Item) : Frame sh (sh.setItem key item) none (some key) where
  grows := le_refl _
  heap := fun _ _ _ => rfl
  length := fun _ _ => rfl
  owner := fun _ _ => rfl
  buf := fun other ne => by
    show (Function.update sh.items key item other).buf = (sh.items other).buf
    rw [Function.update_of_ne fun equal => ne (congrArg some equal)]

theorem frame_alloc (bytes : Bytes) (owner : Option Key) :
    Frame sh (sh.alloc bytes owner) none none where
  grows := Nat.le_succ _
  heap := fun _ below _ => Function.update_of_ne below.ne _ _
  length := fun _ below => congrArg List.length (Function.update_of_ne below.ne _ _)
  owner := fun _ below => Function.update_of_ne below.ne _ _
  buf := fun _ _ => rfl

theorem frame_write (buffer off : Nat) (bytes : Bytes) :
    Frame sh (sh.write buffer off bytes) (some buffer) none where
  grows := le_refl _
  heap := fun _ _ ne =>
    Function.update_of_ne (fun equal => ne (congrArg some equal)) _ _
  length := fun other _ => by
    show (Function.update sh.heap buffer _ other).length = _
    by_cases equal : other = buffer
    · subst equal
      rw [Function.update_self, length_poke]
    · rw [Function.update_of_ne equal]
  owner := fun _ _ => rfl
  buf := fun _ _ => rfl

theorem heap_write (sh : Shared) (buf off : Nat) (bytes : Bytes) :
    (sh.write buf off bytes).heap buf = poke (sh.heap buf) off bytes :=
  Function.update_self _ _ _

theorem content_write (sh : Shared) (slice : Slice) (off : Nat) (bytes : Bytes) :
    (sh.write slice.buffer off bytes).content slice =
      (poke (sh.heap slice.buffer) off bytes).take slice.length := by
  rw [Shared.content, heap_write]

end

end TaosAdapter.Reply
