import TaosAdapter.Lib.Bytes
import TaosAdapter.Lib.Loop

/-!
Owns: a buffered reader of lines, as in Go's package `bufio`, over a source that
hands out its bytes in chunks and reports its end together with the last bytes
or after them. `ReadSlice('\n')` and `ReadLine` depend on the text that is left,
on the size of the buffer and on how the end is reported, and not on the chunks.
-/

namespace TaosAdapter.Lib.Bufio

open List

structure Source where
  chunks : List Bytes
  given : ∀ chunk ∈ chunks, chunk ≠ []
  withLast : Bool

structure Reader where
  buffered : Bytes
  ended : Bool
  chunks : List Bytes
deriving DecidableEq

def Source.reader (source : Source) : Reader := ⟨[], false, source.chunks⟩

/-- The text the reader has not returned yet. -/
def Reader.remaining (reader : Reader) : Bytes := reader.buffered ++ reader.chunks.flatten

/-- Up to the first LF and with it; the whole text if there is none. -/
def firstLine : Bytes → Bytes
  | [] => []
  | byte :: rest => if byte = 10 then [byte] else byte :: firstLine rest

variable {text : Bytes}

theorem firstLine_append_of_mem (mem : 10 ∈ text) (rest : Bytes) :
    firstLine (text ++ rest) = firstLine text := by
  induction text with
  | nil => cases mem
  | cons byte text ih =>
    rw [cons_append, firstLine, firstLine]
    split
    · rfl
    · rename_i other
      have behind : 10 ∈ text := by
        rcases mem_cons.mp mem with same | behind
        · exact absurd same.symm other
        · exact behind
      rw [ih behind]

theorem firstLine_append (absent : 10 ∉ text) (rest : Bytes) :
    firstLine (text ++ rest) = text ++ firstLine rest := by
  induction text with
  | nil => rfl
  | cons byte text ih =>
    have other : byte ≠ 10 := fun same => absent (by simp [same])
    have behind : 10 ∉ text := fun mem => absent (by simp [mem])
    rw [cons_append, firstLine, if_neg other, ih behind, cons_append]

theorem firstLine_lf (rest : Bytes) : firstLine (10 :: rest) = [10] := by
  rw [firstLine, if_pos rfl]

theorem firstLine_of_not_mem (absent : 10 ∉ text) : firstLine text = text := by
  have whole := firstLine_append absent []
  simpa [firstLine] using whole

theorem firstLine_begins (text : Bytes) : firstLine text <+: text := by
  induction text with
  | nil => exact prefix_refl _
  | cons byte text ih =>
    rw [firstLine]
    split
    · exact ⟨text, rfl⟩
    · exact (prefix_cons_inj byte).mpr ih

/-- A text with an LF begins with a line. -/
theorem exists_line (mem : 10 ∈ text) :
    ∃ line rest : Bytes, 10 ∉ line ∧ text = line ++ 10 :: rest := by
  obtain ⟨line, rest, split, absent⟩ := eq_append_cons_of_mem mem
  exact ⟨line, rest, absent, split⟩

section

variable (size : Nat) (withLast : Bool) (reader : Reader)

/-- The bytes that still fit into the buffer. -/
def Reader.room : Nat := size - reader.buffered.length

/-- `fill`: one read of the source, into the room that is left in the buffer. -/
def fill : Reader :=
  match reader.chunks with
  | [] => { reader with ended := true }
  | chunk :: chunks =>
    if chunk.length ≤ reader.room size then
      ⟨reader.buffered ++ chunk, decide (chunks = []) && withLast, chunks⟩
    else
      ⟨reader.buffered ++ chunk.take (reader.room size), false,
        chunk.drop (reader.room size) :: chunks⟩

inductive SliceEnd where
  | line
  | full
  | eof
deriving DecidableEq

/-- The body of the loop of `ReadSlice('\n')`. -/
def sliceBody : Iteration Reader (Bytes × SliceEnd × Reader) :=
  if 10 ∈ reader.buffered then
    let line := firstLine reader.buffered
    .stop (line, .line, { reader with buffered := reader.buffered.drop line.length })
  else if reader.ended then
    .stop (reader.buffered, .eof, { reader with buffered := [], ended := false })
  else if size ≤ reader.buffered.length then
    .stop (reader.buffered, .full, { reader with buffered := [] })
  else .again (fill size withLast reader)

def sliceMeasure : Nat :=
  (size - reader.buffered.length) + reader.chunks.length + (if reader.ended then 0 else 1)

def readSlice : Option (Bytes × SliceEnd × Reader) :=
  loop (sliceBody size withLast) (sliceMeasure size reader + 1) reader

/-- What `ReadSlice` returns when this text is left. -/
def sliceOf (text : Bytes) : Bytes × SliceEnd :=
  if 10 ∈ text.take size then (firstLine text, .line)
  else if text.length < size ∨ (text.length = size ∧ withLast = true) then (text, .eof)
  else (text.take size, .full)

/-- The states a reader can be in between two calls. -/
structure Reader.Sound (reader : Reader) : Prop where
  given : ∀ chunk ∈ reader.chunks, chunk ≠ []
  fits : reader.buffered.length ≤ size
  endedLast : reader.ended = true → reader.chunks = []
  told : withLast = true → reader.chunks = [] → reader.ended = true ∨ reader.buffered = []
  later : withLast = false → reader.ended = true → reader.buffered.length < size

end

variable {size : Nat} {withLast : Bool}

theorem sound_reader (source : Source) : source.reader.Sound size source.withLast where
  given := source.given
  fits := Nat.zero_le _
  endedLast := by simp [Source.reader]
  told := fun _ _ => .inr rfl
  later := by simp [Source.reader]

theorem remaining_fill (reader : Reader) :
    (fill size withLast reader).remaining = reader.remaining := by
  rw [fill, Reader.remaining]
  split
  · rfl
  · rename_i chunk chunks shape
    split
    · simp [Reader.remaining, shape]
    · have whole := take_append_drop (reader.room size) chunk
      simp only [flatten_cons, append_assoc]
      rw [← append_assoc (chunk.take _), whole, Reader.remaining, shape, flatten_cons]

variable {reader : Reader}

theorem sound_fill (sound : reader.Sound size withLast) (room : reader.buffered.length < size) :
    (fill size withLast reader).Sound size withLast := by
  rw [fill]
  split
  · rename_i nothing
    exact { given := sound.given, fits := sound.fits, endedLast := fun _ => nothing
            told := fun _ _ => .inl rfl, later := fun _ _ => room }
  · rename_i chunk chunks shape
    have given := sound.given
    rw [shape] at given
    split
    · rename_i fits
      rw [Reader.room] at fits
      refine { given := fun other mem => given other (by simp [mem])
               fits := by simp only [length_append]; omega
               endedLast := ?_, told := ?_, later := ?_ }
      · simp +contextual
      · simp +contextual
      · simp +contextual
    · rename_i tooLong
      refine { given := ?_, fits := ?_, endedLast := by simp, told := by simp, later := by simp }
      · intro other mem
        rcases mem_cons.mp mem with same | behind
        · rw [same]
          exact fun nothing => tooLong (drop_eq_nil_iff.mp nothing)
        · exact given other (by simp [behind])
      · simp only [Reader.room, length_append, length_take]
        omega

theorem measure_fill (more : reader.ended = false) (room : reader.buffered.length < size) :
    sliceMeasure size (fill size withLast reader) < sliceMeasure size reader := by
  rw [fill]
  split
  · rename_i nothing
    simp [sliceMeasure, more]
  · rename_i chunk chunks shape
    split
    · simp only [sliceMeasure, shape, more, length_append, length_cons,
        Bool.false_eq_true, if_false]
      split <;> omega
    · rename_i tooLong
      simp only [Reader.room] at tooLong ⊢
      simp only [sliceMeasure, shape, more, length_append, length_cons, length_take,
        Bool.false_eq_true, if_false]
      omega

/-- The reader behind a slice: what is left, and that a full buffer was not the end if the
end is reported with the last bytes. -/
structure Behind (size : Nat) (withLast : Bool) (text : Bytes) (after : Reader) : Prop where
  sound : after.Sound size withLast
  left : after.remaining = text.drop (sliceOf size withLast text).1.length
  emptied : (sliceOf size withLast text).2 = .full → after.buffered = [] ∧ after.ended = false ∧
    (withLast = true → after.chunks ≠ [])

section

variable {reader : Reader} (sound : reader.Sound size withLast)

include sound

theorem slice_line (mem : 10 ∈ reader.buffered) :
    sliceOf size withLast reader.remaining = (firstLine reader.buffered, .line) := by
  have inside : 10 ∈ reader.remaining.take size := by
    rw [Reader.remaining, take_append]
    exact mem_append_left _ (by rwa [take_of_length_le sound.fits])
  rw [sliceOf, if_pos inside, Reader.remaining, firstLine_append_of_mem mem]

theorem slice_eof (absent : 10 ∉ reader.buffered) (ended : reader.ended = true) :
    sliceOf size withLast reader.remaining = (reader.buffered, .eof) := by
  have all : reader.remaining = reader.buffered := by
    rw [Reader.remaining, sound.endedLast ended]
    simp
  have notInside : 10 ∉ reader.buffered.take size :=
    fun mem => absent (mem_of_mem_take mem)
  have short : reader.buffered.length < size ∨
      (reader.buffered.length = size ∧ withLast = true) := by
    cases mode : withLast with
    | false => exact .inl (sound.later mode ended)
    | true =>
      have fits := sound.fits
      simp only [and_true]
      omega
  rw [all, sliceOf, if_neg notInside, if_pos short]

/-- A full buffer is not the end if the end comes with the last bytes. -/
theorem chunks_of_full (pos : 0 < size) (more : reader.ended = false)
    (full : size ≤ reader.buffered.length) (mode : withLast = true) : reader.chunks ≠ [] := by
  intro nothing
  rcases sound.told mode nothing with ended | empty
  · rw [more] at ended
    cases ended
  · rw [empty] at full
    exact absurd full (Nat.not_le_of_lt pos)

theorem slice_full (pos : 0 < size) (absent : 10 ∉ reader.buffered)
    (more : reader.ended = false) (full : size ≤ reader.buffered.length) :
    sliceOf size withLast reader.remaining = (reader.buffered, .full) := by
  have exactly : reader.buffered.length = size := Nat.le_antisymm sound.fits full
  have front : reader.remaining.take size = reader.buffered := by
    rw [Reader.remaining, ← exactly, take_left]
  have goesOn : ¬ (reader.remaining.length < size ∨
      (reader.remaining.length = size ∧ withLast = true)) := by
    rw [Reader.remaining, length_append]
    rintro (short | ⟨same, mode⟩)
    · omega
    · have left := chunks_of_full sound pos more full mode
      obtain ⟨chunk, chunks, shape⟩ := exists_cons_of_ne_nil left
      have some := length_pos_of_ne_nil (sound.given chunk (by simp [shape]))
      rw [shape, flatten_cons, length_append] at same
      omega
  rw [sliceOf, front, if_neg absent, if_neg goesOn]

theorem behind_line (mem : 10 ∈ reader.buffered) : Behind size withLast reader.remaining
      { reader with buffered := reader.buffered.drop (firstLine reader.buffered).length } := by
  have slice := slice_line sound mem
  have dropped : (reader.buffered.drop (firstLine reader.buffered).length).length ≤
      reader.buffered.length := by simp
  refine ⟨⟨sound.given, Nat.le_trans dropped sound.fits, sound.endedLast, ?_, ?_⟩, ?_, ?_⟩
  · intro mode nothing
    rcases sound.told mode nothing with ended | empty
    · exact .inl ended
    · exact .inr (by simp [empty])
  · intro mode ended
    exact Nat.lt_of_le_of_lt dropped (sound.later mode ended)
  · rw [slice, Reader.remaining, Reader.remaining,
      drop_append_of_le_length (firstLine_begins reader.buffered).length_le]
  · rw [slice]
    simp

theorem behind_eof (absent : 10 ∉ reader.buffered) (ended : reader.ended = true) :
    Behind size withLast reader.remaining { reader with buffered := [], ended := false } := by
  have slice := slice_eof sound absent ended
  refine ⟨⟨sound.given, Nat.zero_le _, by simp, fun _ _ => .inr rfl, by simp⟩, ?_, ?_⟩
  · rw [slice]
    simp [Reader.remaining, sound.endedLast ended]
  · rw [slice]
    simp

theorem behind_full (pos : 0 < size) (absent : 10 ∉ reader.buffered)
    (more : reader.ended = false) (full : size ≤ reader.buffered.length) :
    Behind size withLast reader.remaining { reader with buffered := [] } := by
  have slice := slice_full sound pos absent more full
  have left : withLast = true → reader.chunks ≠ [] := chunks_of_full sound pos more full
  refine ⟨⟨sound.given, Nat.zero_le _, sound.endedLast, fun _ _ => .inr rfl,
    fun _ ended => absurd ended (by simp [more])⟩, ?_, fun _ => ⟨rfl, more, left⟩⟩
  rw [slice]
  simp [Reader.remaining]

theorem loop_sliceBody (pos : 0 < size) {fuel : Nat} (enough : sliceMeasure size reader < fuel) :
    ∃ after, loop (sliceBody size withLast) fuel reader =
        some ((sliceOf size withLast reader.remaining).1,
          (sliceOf size withLast reader.remaining).2, after) ∧
      Behind size withLast reader.remaining after := by
  induction fuel generalizing reader with
  | zero => exact absurd enough (Nat.not_lt_zero _)
  | succ fuel ih =>
    by_cases mem : 10 ∈ reader.buffered
    · refine ⟨_, loop_stop ?_ (Nat.succ_pos _), behind_line sound mem⟩
      rw [slice_line sound mem, sliceBody, if_pos mem]
    · by_cases ended : reader.ended = true
      · refine ⟨_, loop_stop ?_ (Nat.succ_pos _), behind_eof sound mem ended⟩
        rw [slice_eof sound mem ended, sliceBody, if_neg mem, if_pos ended]
      · have more : reader.ended = false := by simpa using ended
        by_cases full : size ≤ reader.buffered.length
        · refine ⟨_, loop_stop ?_ (Nat.succ_pos _), behind_full sound pos mem more full⟩
          rw [slice_full sound pos mem more full, sliceBody, if_neg mem, if_neg ended, if_pos full]
        · have room : reader.buffered.length < size := by omega
          have decreases : sliceMeasure size (fill size withLast reader) < _ :=
            measure_fill more room
          obtain ⟨after, ends, behind⟩ := ih (sound_fill sound room) (by omega)
          rw [remaining_fill] at ends behind
          have goesOn : sliceBody size withLast reader = .again (fill size withLast reader) := by
            rw [sliceBody, if_neg mem, if_neg ended, if_neg full]
          exact ⟨after, loop_again goesOn ends (Nat.lt_succ_self _), behind⟩

theorem readSlice_eq (pos : 0 < size) : ∃ after, readSlice size withLast reader =
        some ((sliceOf size withLast reader.remaining).1,
          (sliceOf size withLast reader.remaining).2, after) ∧
      Behind size withLast reader.remaining after :=
  loop_sliceBody sound pos (Nat.lt_succ_self _)

end

/-- A slice is a line, or the rest of the text, or as much of it as the buffer holds. -/
theorem sliceOf_cases (size : Nat) (withLast : Bool) (text : Bytes) :
    (10 ∈ text ∧ sliceOf size withLast text = (firstLine text, .line)) ∨
    (10 ∉ text ∧ sliceOf size withLast text = (text, .eof) ∧
      (text.length < size ∨ (text.length = size ∧ withLast = true))) ∨
    (∃ front back, text = front ++ back ∧ front.length = size ∧ 10 ∉ front ∧
      sliceOf size withLast text = (front, .full) ∧ (back = [] → withLast = false)) := by
  by_cases mem : 10 ∈ text.take size
  · exact .inl ⟨mem_of_mem_take mem, if_pos mem⟩
  · by_cases short : text.length < size ∨ (text.length = size ∧ withLast = true)
    · have all : text.take size = text := take_of_length_le (by omega)
      refine .inr (.inl ⟨by rwa [all] at mem, ?_, short⟩)
      rw [sliceOf, if_neg mem, if_pos short]
    · refine .inr (.inr ⟨text.take size, text.drop size, (take_append_drop size text).symm,
        ?_, mem, ?_, ?_⟩)
      · rw [length_take]
        omega
      · rw [sliceOf, if_neg mem, if_neg short]
      · intro nothing
        have le := drop_eq_nil_iff.mp nothing
        cases withLast with
        | false => rfl
        | true => exact absurd (show _ ∨ _ by simp only [and_true]; omega) short

/-- A line without the LF, or the CR and the LF, at its end. -/
def dropLineEnd (line : Bytes) : Bytes :=
  if [13, 10] <:+ line then line.take (line.length - 2)
  else if [10] <:+ line then line.take (line.length - 1)
  else line

/-- `ReadLine`: a line or, with `true`, the beginning of a line that is longer than the
buffer; or the end of the input. A CR at the end of a full buffer is put back, since it
may belong to the end of the line. -/
def readLine (size : Nat) (withLast : Bool) (reader : Reader) :
    Option (Option (Bytes × Bool) × Reader) :=
  match readSlice size withLast reader with
  | none => none
  | some (line, .full, after) =>
    if [13] <:+ line then
      some (some (line.dropLast, true), { after with buffered := 13 :: after.buffered })
    else some (some (line, true), after)
  | some ([], _, after) => some (none, after)
  | some (line, _, after) => some (some (dropLineEnd line, false), after)

/-- One trailing CR is taken off. -/
def dropCR (line : Bytes) : Bytes := if [13] <:+ line then line.dropLast else line

variable {line front : Bytes}

theorem dropCR_append (given : [13] <:+ front → line ≠ []) :
    dropCR (front ++ line) = front ++ dropCR line := by
  rcases eq_nil_or_concat line with rfl | ⟨start, last, rfl⟩
  · have notCR : ¬ [13] <:+ front := fun isSuffix => given isSuffix rfl
    simp [dropCR, notCR]
  · have ends (text : Bytes) : [13] <:+ text ++ [last] ↔ last = 13 := by
      constructor
      · rintro ⟨before, same⟩
        exact (append_inj_right' same rfl |> List.cons.inj).1.symm
      · rintro rfl
        exact suffix_append _ _
    simp only [dropCR, concat_eq_append, ← append_assoc, ends]
    split
    · simp
    · exact append_assoc _ _ _

theorem dropLineEnd_lf (line : Bytes) : dropLineEnd (line ++ [10]) = dropCR line := by
  have both : [13, 10] <:+ line ++ [10] ↔ [13] <:+ line := by
    have shape : [13, 10] = [(13 : UInt8)] ++ [10] := rfl
    rw [shape]
    constructor
    · rintro ⟨before, same⟩
      rw [← append_assoc] at same
      exact ⟨before, append_cancel_right same⟩
    · rintro ⟨before, rfl⟩
      exact ⟨before, by simp⟩
  rw [dropLineEnd, dropCR]
  simp only [both]
  split
  · rename_i isSuffix
    obtain ⟨before, rfl⟩ := isSuffix
    simp
  · rw [if_pos (suffix_append _ _)]
    simp

theorem dropLineEnd_of_not_mem (absent : 10 ∉ line) : dropLineEnd line = line := by
  have notLF : ¬ [10] <:+ line := fun isSuffix => absent (isSuffix.subset (by simp))
  have notBoth : ¬ [13, 10] <:+ line := fun isSuffix => absent (isSuffix.subset (by simp))
  rw [dropLineEnd, if_neg notBoth, if_neg notLF]

/-- Putting a byte back into an emptied buffer. -/
theorem sound_unread {after : Reader} (pos : 0 < size) (behind : Behind size withLast text after)
    (full : (sliceOf size withLast text).2 = .full) (byte : UInt8) :
    Reader.Sound size withLast { after with buffered := byte :: after.buffered } := by
  obtain ⟨empty, more, left⟩ := behind.emptied full
  refine ⟨behind.sound.given, by simp [empty]; omega, behind.sound.endedLast, ?_, ?_⟩
  · exact fun mode nothing => absurd nothing (left mode)
  · exact fun _ ended => absurd ended (by simp [more])

/-- What `ReadLine` returns when `text` is left, and what it leaves. -/
inductive LineRead (size : Nat) (withLast : Bool) :
    Bytes → Option (Bytes × Bool) → Bytes → Prop where
  | line {line rest : Bytes} (absent : 10 ∉ line) :
      LineRead size withLast (line ++ 10 :: rest) (some (dropCR line, false)) rest
  | eof : LineRead size withLast [] none []
  | last {text : Bytes} (given : text ≠ []) (absent : 10 ∉ text)
      (short : text.length < size ∨ (text.length = size ∧ withLast = true)) :
      LineRead size withLast text (some (text, false)) []
  | piece {front back : Bytes} (full : front.length = size) (absent : 10 ∉ front)
      (notCR : ¬ [13] <:+ front) (later : back = [] → withLast = false) :
      LineRead size withLast (front ++ back) (some (front, true)) back
  | pieceCR {front back : Bytes} (full : front.length + 1 = size) (absent : 10 ∉ front) :
      LineRead size withLast (front ++ 13 :: back) (some (front, true)) (13 :: back)

theorem readLine_eq (sound : reader.Sound size withLast) (pos : 0 < size) :
    ∃ res after, readLine size withLast reader = some (res, after) ∧ after.Sound size withLast ∧
      LineRead size withLast reader.remaining res after.remaining := by
  obtain ⟨after, slice, behind⟩ := readSlice_eq sound pos
  have left := behind.left
  rcases sliceOf_cases size withLast reader.remaining with
    ⟨mem, whole⟩ | ⟨absent, whole, short⟩ | ⟨front, back, split, length, absent, whole, later⟩
  · rw [whole] at slice left
    obtain ⟨line, rest, absent, shape⟩ := exists_line mem
    have first : firstLine reader.remaining = line ++ [10] := by
      rw [shape, firstLine_append absent, firstLine_lf]
    rw [first] at slice left
    have leaves : after.remaining = rest := by
      rw [left, shape, append_cons line 10 rest]
      exact drop_left' rfl
    refine ⟨some (dropCR line, false), after, ?_, behind.sound, ?_⟩
    · obtain ⟨byte, others, isLine⟩ := exists_cons_of_ne_nil (show line ++ [10] ≠ [] by simp)
      rw [← dropLineEnd_lf, readLine, slice]
      simp only [isLine]
    · rw [shape, leaves]
      exact .line absent
  · rw [whole] at slice left
    have leaves : after.remaining = [] := by simpa using left
    cases nothing : reader.remaining with
    | nil =>
      rw [nothing] at slice
      refine ⟨none, after, by rw [readLine, slice], behind.sound, ?_⟩
      rw [leaves]
      exact .eof
    | cons byte others =>
      rw [← nothing]
      refine ⟨some (reader.remaining, false), after, ?_, behind.sound, ?_⟩
      · have kept := dropLineEnd_of_not_mem absent
        rw [nothing] at slice kept ⊢
        rw [readLine, slice]
        simp only [kept]
      · rw [leaves]
        exact .last (by simp [nothing]) absent short
  · have full : (sliceOf size withLast reader.remaining).2 = .full := by rw [whole]
    rw [whole] at slice left
    have leaves : after.remaining = back := by
      rw [left, split, drop_left]
    by_cases isCR : [13] <:+ front
    · obtain ⟨start, rfl⟩ := isCR
      refine ⟨some (start, true), { after with buffered := 13 :: after.buffered }, ?_,
        sound_unread pos behind full 13, ?_⟩
      · rw [readLine, slice]
        simp
      · have unread :
            Reader.remaining { after with buffered := 13 :: after.buffered } = 13 :: back := by
          rw [← leaves]
          rfl
        rw [unread, split, append_assoc]
        exact .pieceCR (by simpa using length)
          (fun mem => absent (mem_append_left _ mem))
    · refine ⟨some (front, true), after, ?_, behind.sound, ?_⟩
      · rw [readLine, slice]
        simp only [if_neg isCR]
      · rw [leaves, split]
        exact .piece length absent isCR later

variable {rest : Bytes}

/-- A front without LF of a text that begins with a line is a front of the line. -/
theorem front_of_line {back : Bytes} (absent : 10 ∉ front)
    (same : line ++ 10 :: rest = front ++ back) :
    ∃ more, line = front ++ more ∧ back = more ++ 10 :: rest := by
  rcases append_eq_append_iff.mp same with ⟨more, isFront, isRest⟩ | ⟨more, isLine, isBack⟩
  · cases more with
    | nil => exact ⟨[], by simpa using isFront.symm, by simpa using isRest.symm⟩
    | cons byte others =>
      have isLF : byte = 10 := (List.cons.inj isRest).1.symm
      exact absurd (by simp [isFront, isLF]) absent
  · exact ⟨more, isLine, isBack⟩

variable {res : Option (Bytes × Bool)} {after : Bytes}

/-- While a line is being read, `ReadLine` returns it or a piece of it. A piece ends with CR
only if the line goes on. -/
theorem LineRead.of_line (two : 2 ≤ size) (absent : 10 ∉ line)
    (read : LineRead size withLast (line ++ 10 :: rest) res after) :
    (res = some (dropCR line, false) ∧ after = rest) ∨
    ∃ front more, line = front ++ more ∧ front ≠ [] ∧ ([13] <:+ front → more ≠ []) ∧
      res = some (front, true) ∧ after = more ++ 10 :: rest := by
  generalize shape : line ++ 10 :: rest = text at read
  cases read with
  | @line other _ otherAbsent =>
    obtain ⟨more, isLine, isRest⟩ := front_of_line otherAbsent shape
    cases more with
    | nil =>
      rw [List.append_nil] at isLine
      exact .inl ⟨by rw [isLine], (List.cons.inj isRest).2⟩
    | cons byte more =>
      have isLF : byte = 10 := (List.cons.inj isRest).1.symm
      exact absurd (by simp [isLine, isLF]) absent
  | eof => exact absurd shape (by simp)
  | last _ noLF _ => exact absurd (by simp [← shape]) noLF
  | @piece front _ full noLF notCR _ =>
    obtain ⟨more, isLine, isBack⟩ := front_of_line noLF shape
    have given : front ≠ [] := ne_nil_of_length_pos (by omega)
    exact .inr ⟨front, more, isLine, given, fun isCR => absurd isCR notCR, rfl, isBack⟩
  | @pieceCR front back full noLF =>
    have noLFs : 10 ∉ front ++ [13] := by simp [noLF]
    rw [append_cons front] at shape
    obtain ⟨more, isLine, isBack⟩ := front_of_line noLFs shape
    have given : front ≠ [] := ne_nil_of_length_pos (by omega)
    exact .inr ⟨front, 13 :: more, by simpa using isLine, given, by simp, rfl, by simp [isBack]⟩

theorem LineRead.of_nil (pos : 0 < size) (read : LineRead size withLast [] res after) :
    res = none := by
  generalize shape : ([] : Bytes) = text at read
  cases read with
  | line | pieceCR => simp at shape
  | eof => rfl
  | last given => exact absurd shape.symm given
  | @piece front back full =>
    obtain ⟨rfl, _⟩ := append_eq_nil_iff.mp shape.symm
    exact absurd full (Nat.ne_of_lt pos)

end TaosAdapter.Lib.Bufio
