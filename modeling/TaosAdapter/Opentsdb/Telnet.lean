import TaosAdapter.Lib.Bufio

/-!
Contract: the lines that `insertTelnet` of `plugin/opentsdb/plugin.go` takes from
the body of a request and hands to the inserter.

Owns: the loop over `ReadLine` with the buffer `tmp` for pieces of a long line.

For a last line without LF that fills the buffer exactly, `ReadLine` says that it
is complete only if the end of the body is known by then; otherwise the loop is
left with the line still in `tmp`. A last line without LF also keeps its CR.
-/

namespace TaosAdapter.Opentsdb

open Lib Lib.Bufio List

structure TelnetState where
  rd : Reader
  tmp : Bytes
  lines : List Bytes
deriving DecidableEq

section

variable (size : Nat) (withLast : Bool)

/-- The body of the loop; nothing if the line was not read. -/
def telnetBody (state : TelnetState) : Iteration TelnetState (Option (List Bytes)) :=
  match readLine size withLast state.rd with
  | none => .stop none
  | some (none, _) => .stop (some state.lines)
  | some (some (l, hasNext), rd) =>
    let tmp := state.tmp ++ l
    if hasNext then .again { state with rd := rd, tmp := tmp }
    else .again { rd := rd, tmp := [], lines := state.lines ++ [tmp] }

/-- The lines handed to the inserter, with a buffer of `size` bytes. -/
def readLines (rd : Reader) : Option (List Bytes) :=
  (loop (telnetBody size withLast) (rd.remaining.length + 1) ⟨rd, [], []⟩).join

end

def defaultBufSize : Nat := 4096

def insertTelnetLines (body : Source) : Option (List Bytes) :=
  readLines defaultBufSize body.withLast body.reader

def lastPiece (body : Bytes) : Bytes := (body.splitOn 10).getLastD []

/-- The body split at LF, with the piece behind the last LF if it is not empty, and one
trailing CR taken off every line. -/
def bodyLines (body : Bytes) : List Bytes :=
  ((body.splitOn 10).dropLast ++ (if lastPiece body = [] then [] else [lastPiece body])).map dropCR

/-- The text is used up by full buffers, a CR at the end of one being left to the next. -/
inductive FullBuffers (size : Nat) : Bytes → Prop where
  | last {front : Bytes} (full : front.length = size) (notCR : ¬ [13] <:+ front) :
      FullBuffers size front
  | more {front back : Bytes} (full : front.length = size) (notCR : ¬ [13] <:+ front)
      (rest : FullBuffers size back) : FullBuffers size (front ++ back)
  | moreCR {front back : Bytes} (full : front.length + 1 = size)
      (rest : FullBuffers size (13 :: back)) : FullBuffers size (front ++ 13 :: back)

/-- The piece behind the last LF is empty; or it does not end with CR, and it does not fill
the buffers exactly unless the end of the body is reported with the last bytes. -/
def LastPieceRead (size : Nat) (withLast : Bool) (body : Bytes) : Prop :=
  lastPiece body = [] ∨
    (¬ [13] <:+ lastPiece body ∧ (withLast = true ∨ ¬ FullBuffers size (lastPiece body)))

variable {size : Nat}

theorem FullBuffers.length_le {text : Bytes} (full : FullBuffers size text) :
    size ≤ text.length := by
  cases full with
  | last full => omega
  | more full =>
    rw [length_append]
    omega
  | moreCR full =>
    rw [length_append, length_cons]
    omega

variable {front back : Bytes}

theorem fullBuffers_append_iff (full : front.length = size) (notCR : ¬ [13] <:+ front) :
    FullBuffers size (front ++ back) ↔ back = [] ∨ FullBuffers size back := by
  constructor
  · intro buffers
    generalize shape : front ++ back = text at buffers
    cases buffers with
    | last isFull =>
      have lengths := congrArg List.length shape
      rw [length_append] at lengths
      exact .inl (eq_nil_of_length_eq_zero (by omega))
    | more isFull _ rest =>
      obtain ⟨_, rfl⟩ := append_inj shape (by omega)
      exact .inr rest
    | @moreCR start others isFull rest =>
      rw [append_cons start] at shape
      obtain ⟨isFront, _⟩ := append_inj shape (by simp; omega)
      exact absurd (isFront ▸ suffix_append _ _) notCR
  · rintro (rfl | rest)
    · rw [List.append_nil]
      exact .last full notCR
    · exact .more full notCR rest

theorem fullBuffers_append_cr_iff (full : front.length + 1 = size) :
    FullBuffers size (front ++ 13 :: back) ↔ FullBuffers size (13 :: back) := by
  constructor
  · intro buffers
    generalize shape : front ++ 13 :: back = text at buffers
    cases buffers with
    | last isFull notCR =>
      have lengths := congrArg List.length shape
      rw [length_append, length_cons] at lengths
      obtain rfl : back = [] := eq_nil_of_length_eq_zero (by omega)
      exact absurd (shape ▸ suffix_append _ _) notCR
    | more isFull notCR rest =>
      rw [append_cons front] at shape
      obtain ⟨isFront, _⟩ := append_inj shape (by simp; omega)
      exact absurd (isFront ▸ suffix_append _ _) notCR
    | @moreCR start others isFull rest =>
      obtain ⟨_, same⟩ := append_inj shape (by omega)
      rw [same]
      exact rest
  · exact .moreCR full

theorem splitOn_line {line : Bytes} (absent : 10 ∉ line) (rest : Bytes) :
    (line ++ 10 :: rest).splitOn 10 = line :: rest.splitOn 10 := by
  apply splitOnP_append_cons_of_forall_mem
  · intro byte mem
    simp only [beq_eq_false_iff_ne]
    exact fun same => absent (same ▸ mem)
  · rfl

theorem lastPiece_line {line : Bytes} (absent : 10 ∉ line) (rest : Bytes) :
    lastPiece (line ++ 10 :: rest) = lastPiece rest := by
  obtain ⟨piece, pieces, shape⟩ := exists_cons_of_ne_nil (splitOn_ne_nil 10 rest)
  rw [lastPiece, lastPiece, splitOn_line absent, shape]
  simp

def endedLines (body : Bytes) : List Bytes := (body.splitOn 10).dropLast.map dropCR

theorem bodyLines_eq (body : Bytes) : bodyLines body =
      endedLines body ++ (if lastPiece body = [] then [] else [dropCR (lastPiece body)]) := by
  rw [bodyLines, map_append, endedLines]
  split
  · rfl
  · rfl

theorem endedLines_line {line : Bytes} (absent : 10 ∉ line) (rest : Bytes) :
    endedLines (line ++ 10 :: rest) = dropCR line :: endedLines rest := by
  have split := splitOn_ne_nil 10 rest
  rw [endedLines, endedLines, splitOn_line absent, dropLast_cons_of_ne_nil split]
  rfl

variable {body : Bytes}

theorem lastPiece_of_not_mem (absent : 10 ∉ body) : lastPiece body = body := by
  rw [lastPiece, splitOn_eq_singleton absent]
  rfl

theorem endedLines_of_not_mem (absent : 10 ∉ body) : endedLines body = [] := by
  rw [endedLines, splitOn_eq_singleton absent]
  rfl

section

variable {size : Nat} {withLast : Bool} {rd after : Reader} {tmp : Bytes}
  {lines yielded : List Bytes}

/-- The loop ends with these lines before the text is used up. -/
def Yields (size : Nat) (withLast : Bool) (rd : Reader) (tmp : Bytes) (lines yielded : List Bytes) :
    Prop :=
  loop (telnetBody size withLast) (rd.remaining.length + 1) ⟨rd, tmp, lines⟩ = some (some yielded)

theorem Yields.piece {piece : Bytes}
    (read : readLine size withLast rd = some (some (piece, true), after))
    (shorter : after.remaining.length < rd.remaining.length)
    (yields : Yields size withLast after (tmp ++ piece) lines yielded) :
    Yields size withLast rd tmp lines yielded := by
  refine loop_again ?_ yields (Nat.succ_lt_succ shorter)
  simp [telnetBody, read]

theorem Yields.line {piece : Bytes}
    (read : readLine size withLast rd = some (some (piece, false), after))
    (shorter : after.remaining.length < rd.remaining.length)
    (yields : Yields size withLast after [] (lines ++ [tmp ++ piece]) yielded) :
    Yields size withLast rd tmp lines yielded := by
  refine loop_again ?_ yields (Nat.succ_lt_succ shorter)
  simp [telnetBody, read]

theorem yields_end (sound : rd.Sound size withLast) (pos : 0 < size)
    (left : rd.remaining = []) : Yields size withLast rd tmp lines lines := by
  obtain ⟨res, after, read, _, isRead⟩ := readLine_eq sound pos
  rw [left] at isRead
  have nothing := isRead.of_nil pos
  exact loop_stop (by simp [telnetBody, read, nothing]) (Nat.succ_pos _)

theorem yields_line (two : 2 ≤ size) (sound : rd.Sound size withLast) {line rest : Bytes}
    (absent : 10 ∉ line) (left : rd.remaining = line ++ 10 :: rest)
    (goesOn : ∀ after : Reader, after.Sound size withLast → after.remaining = rest →
      Yields size withLast after [] (lines ++ [tmp ++ dropCR line]) yielded) :
    Yields size withLast rd tmp lines yielded := by
  induction length : line.length using Nat.strong_induction_on generalizing line rd tmp with
  | _ n ih =>
    obtain ⟨res, after, read, soundAfter, isRead⟩ := readLine_eq sound (by omega)
    rw [left] at isRead
    rcases isRead.of_line two absent with
      ⟨rfl, leaves⟩ | ⟨front, more, rfl, given, goesOnCR, rfl, leaves⟩
    · refine .line read ?_ (goesOn after soundAfter leaves)
      rw [leaves, left, length_append, length_cons]
      omega
    · have pos := length_pos_of_ne_nil given
      have noLF : 10 ∉ more := fun mem => absent (mem_append_right _ mem)
      have less : more.length < n := by
        rw [← length, length_append]
        omega
      refine .piece read ?_ (ih more.length less soundAfter noLF leaves ?_ rfl)
      · rw [leaves, left]
        simp only [length_append]
        omega
      · rw [append_assoc, ← dropCR_append goesOnCR]
        exact goesOn

/-- The last line without LF is lost if it fills the buffers exactly and the end of the body
comes later. -/
def Lost (size : Nat) (withLast : Bool) (tail : Bytes) : Prop :=
  FullBuffers size tail ∧ withLast = false

theorem yields_last (two : 2 ≤ size) (sound : rd.Sound size withLast) {tail : Bytes}
    (given : tail ≠ []) (absent : 10 ∉ tail) (left : rd.remaining = tail) :
    (Lost size withLast tail → Yields size withLast rd tmp lines lines) ∧
    (¬ Lost size withLast tail → Yields size withLast rd tmp lines (lines ++ [tmp ++ tail])) := by
  induction length : tail.length using Nat.strong_induction_on generalizing tail rd tmp with
  | _ n ih =>
    obtain ⟨res, after, read, soundAfter, isRead⟩ := readLine_eq sound (by omega)
    rw [left] at isRead
    generalize leaves : after.remaining = rest at isRead
    cases isRead with
    | line => simp at absent
    | eof => exact absurd rfl given
    | last _ _ short =>
      have kept : ¬ Lost size withLast tail := by
        rintro ⟨full, later⟩
        have le := full.length_le
        rcases short with less | ⟨_, mode⟩
        · omega
        · exact Bool.noConfusion (later.symm.trans mode)
      have shorter : after.remaining.length < rd.remaining.length := by
        rw [leaves, left]
        exact length_pos_of_ne_nil given
      exact ⟨fun lost => absurd lost kept,
        fun _ => .line read shorter (yields_end soundAfter (by omega) leaves)⟩
    | @piece front _ full _ notCR later =>
      have shorter : after.remaining.length < rd.remaining.length := by
        rw [leaves, left, length_append]
        omega
      have buffers : FullBuffers size (front ++ rest) ↔ _ := fullBuffers_append_iff full notCR
      by_cases nothing : rest = []
      · have lost : Lost size withLast (front ++ rest) :=
          ⟨buffers.mpr (.inl nothing), later nothing⟩
        exact ⟨fun _ => .piece read shorter (yields_end soundAfter (by omega)
          (leaves.trans nothing)), fun kept => absurd lost kept⟩
      · have noLF : 10 ∉ rest := fun mem => absent (mem_append_right _ mem)
        have lost : Lost size withLast (front ++ rest) ↔ Lost size withLast rest := by
          simp [Lost, buffers, nothing]
        obtain ⟨ifLost, ifKept⟩ :
            (_ → Yields size withLast after (tmp ++ front) lines lines) ∧ _ :=
          ih rest.length (by simp [← length]; omega) soundAfter nothing noLF
            leaves rfl
        rw [lost, ← append_assoc]
        exact ⟨fun isLost => .piece read shorter (ifLost isLost),
          fun kept => .piece read shorter (ifKept kept)⟩
    | @pieceCR front back full _ =>
      have shorter : after.remaining.length < rd.remaining.length := by
        rw [leaves, left, length_append]
        omega
      have noLF : 10 ∉ 13 :: back := fun mem => absent (mem_append_right _ mem)
      have lost :
          Lost size withLast (front ++ 13 :: back) ↔ Lost size withLast (13 :: back) := by
        rw [Lost, Lost, fullBuffers_append_cr_iff full]
      obtain ⟨ifLost, ifKept⟩ :
          (_ → Yields size withLast after (tmp ++ front) lines lines) ∧ _ :=
        ih (13 :: back).length (by rw [← length, length_append]; omega)
          soundAfter (cons_ne_nil _ _) noLF leaves rfl
      rw [lost, ← append_assoc]
      exact ⟨fun isLost => .piece read shorter (ifLost isLost),
        fun kept => .piece read shorter (ifKept kept)⟩

/-- What becomes of the piece behind the last LF. -/
def LastRead (size : Nat) (withLast : Bool) (piece : Bytes) (last : List Bytes) : Prop :=
  (piece = [] ∨ Lost size withLast piece → last = []) ∧
    (piece ≠ [] → ¬ Lost size withLast piece → last = [piece])

theorem exists_lastRead (size : Nat) (withLast : Bool) (piece : Bytes) :
    ∃ last, LastRead size withLast piece last := by
  by_cases gone : piece = [] ∨ Lost size withLast piece
  · exact ⟨[], fun _ => rfl, fun given kept => absurd gone (not_or.mpr ⟨given, kept⟩)⟩
  · exact ⟨[piece], fun isGone => absurd isGone gone, fun _ _ => rfl⟩

variable {last : List Bytes}

theorem yields_body (two : 2 ≤ size) (sound : rd.Sound size withLast) {body : Bytes}
    (left : rd.remaining = body) (isLast : LastRead size withLast (lastPiece body) last) :
    Yields size withLast rd [] lines (lines ++ (endedLines body ++ last)) := by
  induction length : body.length using Nat.strong_induction_on generalizing body rd lines with
  | _ n ih =>
    by_cases mem : 10 ∈ body
    · obtain ⟨line, rest, absent, rfl⟩ := exists_line mem
      rw [lastPiece_line absent] at isLast
      refine yields_line two sound absent left fun after soundAfter leaves => ?_
      have less : rest.length < n := by
        rw [← length, length_append, length_cons]
        omega
      have others : Yields size withLast after [] (lines ++ [dropCR line]) _ :=
        ih rest.length less soundAfter leaves isLast rfl
      rw [endedLines_line absent]
      simpa using others
    · rw [lastPiece_of_not_mem mem] at isLast
      rw [endedLines_of_not_mem mem, nil_append]
      by_cases nothing : body = []
      · rw [isLast.1 (.inl nothing), List.append_nil]
        exact yields_end sound (by omega) (left.trans nothing)
      · have ends : (_ → Yields size withLast rd [] lines lines) ∧ _ :=
          yields_last two sound nothing mem left
        by_cases lost : Lost size withLast body
        · rw [isLast.1 (.inr lost), List.append_nil]
          exact ends.1 lost
        · rw [isLast.2 nothing lost]
          exact ends.2 lost

theorem readLines_eq (two : 2 ≤ size) (sound : rd.Sound size withLast)
    (isLast : LastRead size withLast (lastPiece rd.remaining) last) :
    readLines size withLast rd = some (endedLines rd.remaining ++ last) := by
  have yields : Yields size withLast rd [] [] _ := yields_body two sound rfl isLast
  rw [readLines, yields]
  rfl

theorem dropCR_eq_iff (line : Bytes) : dropCR line = line ↔ ¬ [13] <:+ line := by
  rw [dropCR]
  split
  · rename_i isCR
    obtain ⟨start, rfl⟩ := isCR
    simp
  · rename_i notCR
    exact iff_of_true rfl notCR

theorem lastRead_iff {piece : Bytes} (isLast : LastRead size withLast piece last) :
    last = (if piece = [] then [] else [dropCR piece]) ↔
      piece = [] ∨ (¬ [13] <:+ piece ∧ (withLast = true ∨ ¬ FullBuffers size piece)) := by
  by_cases nothing : piece = []
  · simp [nothing, isLast.1 (.inl nothing)]
  · rw [if_neg nothing]
    by_cases lost : Lost size withLast piece
    · rw [isLast.1 (.inr lost)]
      simp [nothing, lost.1, lost.2]
    · have kept : withLast = true ∨ ¬ FullBuffers size piece := by
        rw [Lost, not_and_or] at lost
        simpa [or_comm] using lost
      rw [isLast.2 nothing lost, List.cons.injEq, eq_comm, dropCR_eq_iff]
      simp [nothing, kept]

theorem readLines_iff (two : 2 ≤ size) (sound : rd.Sound size withLast) :
    readLines size withLast rd = some (bodyLines rd.remaining) ↔
      LastPieceRead size withLast rd.remaining := by
  obtain ⟨last, isLast⟩ := exists_lastRead size withLast (lastPiece rd.remaining)
  rw [readLines_eq two sound isLast, bodyLines_eq, Option.some.injEq, append_cancel_left_eq,
    lastRead_iff isLast]
  rfl

end

/-- The lines handed to the inserter are those of the body exactly if the piece behind the last
LF is empty, or does not end with CR and does not fill the buffers exactly while the end of the
body is reported after the last bytes. -/
theorem telnet_lines_iff (body : Source) :
    insertTelnetLines body = some (bodyLines body.chunks.flatten) ↔
      LastPieceRead defaultBufSize body.withLast body.chunks.flatten :=
  readLines_iff (by decide) (sound_reader body)

/-- A body of one line without LF, in one chunk, with the end reported afterwards. -/
def oneLine (line : Bytes) (given : line ≠ []) : Source where
  chunks := [line]
  given := by simpa using given
  withLast := false

theorem oneLine_lost {line : Bytes} (given : line ≠ []) (absent : 10 ∉ line)
    (full : FullBuffers defaultBufSize line) :
    insertTelnetLines (oneLine line given) = some [] ∧ bodyLines line ≠ [] := by
  have text : (oneLine line given).reader.remaining = line := by
    simp [oneLine, Source.reader, Reader.remaining]
  have isLast :
      LastRead defaultBufSize false (lastPiece (oneLine line given).reader.remaining) [] := by
    rw [text, lastPiece_of_not_mem absent]
    exact ⟨fun _ => rfl, fun _ kept => absurd ⟨full, rfl⟩ kept⟩
  have read := readLines_eq (by decide) (sound_reader (oneLine line given)) isLast
  rw [text, endedLines_of_not_mem absent] at read
  refine ⟨read, ?_⟩
  rw [bodyLines_eq, lastPiece_of_not_mem absent, if_neg given]
  simp

/-- A line of 4096 bytes without LF is lost. -/
theorem full_line_lost :
    ∃ given, insertTelnetLines (oneLine (List.replicate defaultBufSize 97) given) ≠
      some (bodyLines (List.replicate defaultBufSize 97)) := by
  have given : List.replicate defaultBufSize (97 : UInt8) ≠ [] := by
    rw [Ne, replicate_eq_nil_iff]
    decide
  have absent {byte : UInt8} (other : byte ≠ 97) : byte ∉ List.replicate defaultBufSize 97 :=
    fun member => other (eq_of_mem_replicate member)
  have full : FullBuffers defaultBufSize (List.replicate defaultBufSize 97) :=
    .last length_replicate fun isCR =>
      absent (by decide) (isCR.subset (mem_singleton_self 13))
  obtain ⟨lost, given'⟩ := oneLine_lost given (absent (by decide)) full
  exact ⟨given, fun same => given' (Option.some.inj (lost.symm.trans same)).symm⟩

end TaosAdapter.Opentsdb
