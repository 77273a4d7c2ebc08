import TaosAdapter.Csv.Reader
import TaosAdapter.Lib.Json

/-!
Owns: the texts that stand for a list of records, and that the reader gives the
records back, whatever the size of its buffer and the chunks of its source.

The loop over the fields is followed along the text behind the current point:
`At` says that the current line is the first line of that text and that the
source still holds the rest. Every pass through the loop takes something off the
front of it.
-/

namespace TaosAdapter.Csv

open Lib Lib.Bufio List Option

def doubled (text : Bytes) : Bytes :=
  text.flatMap fun byte => if byte = 34 then [34, 34] else [byte]

def Plain (text : Bytes) : Prop :=
  ∀ byte ∈ text, byte ≠ 44 ∧ byte ≠ 34 ∧ byte ≠ 13 ∧ byte ≠ 10

inductive FieldText : Option Bytes → Bytes → Prop where
  | nil : FieldText none []
  | plain {text : Bytes} (given : text ≠ []) (plain : Plain text) : FieldText (some text) text
  | quoted (text : Bytes) : FieldText (some text) (34 :: (doubled text ++ [34]))

inductive LineEnd : Bytes → Prop where
  | lf : LineEnd [10]
  | crlf : LineEnd [13, 10]

inductive RecordText : List (Option Bytes) → Bytes → Prop where
  | mk {fields : List (Option Bytes)} {texts : List Bytes} {lineEnd : Bytes}
      (written : List.Forall₂ FieldText fields texts) (ends : LineEnd lineEnd) :
      RecordText fields (joined texts ++ lineEnd)

/-- The text of a table: records of `k` fields, none of them an empty line, one after the
other; the first field is quoted if it starts with a byte order mark. -/
structure TableText (k : Nat) (records : List (List (Option Bytes))) (text : Bytes) : Prop where
  fields : 1 ≤ k
  sameLength : ∀ record ∈ records, record.length = k
  notEmpty : ∀ record ∈ records, record ≠ [none]
  written : ∃ texts, List.Forall₂ RecordText records texts ∧ texts.flatten = text
  noMark : ¬ bom <+: text

section

variable {size fuel : Nat} {withLast : Bool} {r : Reader}

theorem loop_rawLineBody (sound : r.Sound size withLast) (pos : 0 < size) (rawBuffer : Bytes)
    (enough : r.remaining.length + 1 < fuel) :
    ∃ after, loop (rawLineBody size withLast) fuel (rawBuffer, r) =
        some (some (rawBuffer ++ firstLine r.remaining, decide (10 ∉ r.remaining), after)) ∧
      after.Sound size withLast ∧
      after.remaining = r.remaining.drop (firstLine r.remaining).length := by
  induction fuel generalizing r rawBuffer with
  | zero => exact absurd enough (Nat.not_lt_zero _)
  | succ fuel ih =>
    obtain ⟨after, slice, behind⟩ := readSlice_eq sound pos
    have left := behind.left
    rcases sliceOf_cases size withLast r.remaining with
      ⟨mem, whole⟩ | ⟨absent, whole, _⟩ | ⟨front, back, split, length, absent, whole, _⟩
    · rw [whole] at slice left
      refine ⟨after, loop_stop ?_ (Nat.succ_pos _), behind.sound, left⟩
      simp only [rawLineBody, slice, mem, not_true_eq_false, decide_false]
    · rw [whole] at slice left
      have line := firstLine_of_not_mem absent
      refine ⟨after, loop_stop ?_ (Nat.succ_pos _), behind.sound, by rw [line]; exact left⟩
      simp only [rawLineBody, slice, line, absent, not_false_eq_true, decide_true]
    · rw [whole] at slice left
      rw [split] at left enough ⊢
      rw [drop_left] at left
      rw [length_append] at enough
      obtain ⟨last, ends, lastSound, lastLeft⟩ :=
        ih behind.sound (rawBuffer ++ front) (by rw [left]; omega)
      have goesOn : rawLineBody size withLast (rawBuffer, r) =
          .again (rawBuffer ++ front, after) := by
        simp only [rawLineBody, slice]
      have lines := firstLine_append absent back
      refine ⟨last, loop_again goesOn ?_ (Nat.lt_succ_self _), lastSound, ?_⟩
      · rw [ends, left, lines, append_assoc]
        simp [absent]
      · rw [lastLeft, left, lines, length_append, drop_append]
        simp

theorem rawLine_eq (sound : r.Sound size withLast) (pos : 0 < size) :
    ∃ after, rawLine size withLast r =
        some (firstLine r.remaining, decide (10 ∉ r.remaining), after) ∧ after.Sound size withLast ∧
      after.remaining = r.remaining.drop (firstLine r.remaining).length := by
  obtain ⟨after, ends, rest⟩ := loop_rawLineBody sound pos [] (Nat.lt_succ_self _)
  exact ⟨after, by rw [rawLine, ends]; rfl, rest⟩

variable {state : State}

theorem readLine_line (sound : state.r.Sound size withLast) (pos : 0 < size)
    (mem : 10 ∈ state.r.remaining) (noMark : state.isFirstLine = true → ¬ bom <+: state.r.remaining)
    : ∃ r, readLine size withLast state = some (firstLine state.r.remaining, false,
          { state with r := r, numLine := state.numLine + 1, isFirstLine := false }) ∧
      r.Sound size withLast ∧
      r.remaining = state.r.remaining.drop (firstLine state.r.remaining).length := by
  obtain ⟨r, raw, soundAfter, rest⟩ := rawLine_eq sound pos
  refine ⟨r, ?_, soundAfter, rest⟩
  have notMarked : ¬ (state.isFirstLine = true ∧ bom <+: firstLine state.r.remaining) :=
    fun marked => noMark marked.1 (marked.2.trans (firstLine_begins _))
  simp [readLine, raw, mem, stripBom, notMarked]

theorem readLine_end (sound : state.r.Sound size withLast) (pos : 0 < size)
    (nothing : state.r.remaining = []) :
    ∃ after, readLine size withLast state = some ([], true, after) := by
  obtain ⟨r, raw, _, _⟩ := rawLine_eq sound pos
  have noMark : stripBom state.isFirstLine [] = [] := by simp [stripBom]
  exact ⟨_, by simp [readLine, raw, nothing, firstLine, noMark]; rfl⟩

structure Done (size : Nat) (withLast : Bool) (count : Nat) (text recordBuffer : Bytes)
    (fieldIndexes : List Int) (p : Parse) : Prop where
  sound : p.state.r.Sound size withLast
  rest : p.state.r.remaining = text
  later : p.state.isFirstLine = false
  count : p.state.fieldsPerRecord = count
  recordBuffer : p.recordBuffer = recordBuffer
  fieldIndexes : p.fieldIndexes = fieldIndexes

structure At (size : Nat) (withLast : Bool) (count : Nat) (text recordBuffer : Bytes)
    (fieldIndexes : List Int) (quoted : Bool) (p : Parse) : Prop extends
    Done size withLast count (text.drop (firstLine text).length) recordBuffer fieldIndexes p where
  line : p.line = firstLine text
  quoted : p.quoted = quoted

variable (recLine : Nat) {count : Nat} {text buf front : Bytes} {indexes : List Int} {quoted : Bool}
  {p : Parse}

theorem At.line_append (absent : 10 ∉ front)
    (here : At size withLast count (front ++ text) buf indexes quoted p) :
    p.line = front ++ firstLine text ∧ p.state.r.remaining = text.drop (firstLine text).length := by
  have lines := firstLine_append absent text
  refine ⟨here.line.trans lines, ?_⟩
  rw [here.rest, lines, length_append, drop_append]
  simp

variable {byte : UInt8}

theorem idxOf?_append_cons (absent : byte ∉ front) (rest : Bytes) :
    (front ++ byte :: rest).idxOf? byte = some front.length := by
  induction front with
  | nil => simp [List.idxOf?_cons]
  | cons first front ih =>
    have other : first ≠ byte := fun same => absent (by simp [same])
    have behind := ih fun mem => absent (by simp [mem])
    simp [List.idxOf?_cons, other, behind]

theorem drop_append_cons (front : Bytes) (byte : UInt8) (rest : Bytes) :
    (front ++ byte :: rest).drop (front.length + 1) = rest := by
  rw [append_cons]
  exact drop_left' (by simp)

theorem lengthNL_lf (noCR : 13 ∉ front) : lengthNL (front ++ [10]) = 1 := by
  have notBoth : ¬ [13, 10] <:+ front ++ [10] := by
    rintro ⟨before, same⟩
    have shorter : before ++ [13] = front := by
      have both : (before ++ [13]) ++ [10] = front ++ [10] := by simpa using same
      exact append_cancel_right both
    exact noCR (by simp [← shorter])
  rw [lengthNL, if_neg notBoth, if_pos (suffix_append _ _)]

theorem lengthNL_crlf (front : Bytes) : lengthNL (front ++ [13, 10]) = 2 := by
  rw [lengthNL, if_pos (suffix_append _ _)]

variable {lineEnd : Bytes}

theorem LineEnd.lengthNL_append (ends : LineEnd lineEnd) (noCR : 13 ∉ front) :
    lengthNL (front ++ lineEnd) = lineEnd.length := by
  cases ends with
  | lf => exact lengthNL_lf noCR
  | crlf => exact lengthNL_crlf front

theorem LineEnd.firstLine (ends : LineEnd lineEnd) (text : Bytes) :
    firstLine (lineEnd ++ text) = lineEnd := by
  cases ends with
  | lf => exact firstLine_lf text
  | crlf => simp [Bufio.firstLine]

theorem LineEnd.not_mem (ends : LineEnd lineEnd) : 44 ∉ lineEnd ∧ 34 ∉ lineEnd := by
  cases ends with
  | lf | crlf => decide

def plainIndex (buf field : Bytes) : Int :=
  if field = [] then -1 else (buf ++ field).length

theorem Plain.absent {field : Bytes} (plain : Plain field) :
    44 ∉ field ∧ 34 ∉ field ∧ 13 ∉ field ∧ 10 ∉ field :=
  ⟨fun mem => (plain _ mem).1 rfl, fun mem => (plain _ mem).2.1 rfl,
    fun mem => (plain _ mem).2.2.1 rfl, fun mem => (plain _ mem).2.2.2 rfl⟩

theorem head?_append_ne {back : Bytes} (absent : byte ∉ front) (behind : back.head? ≠ some byte) :
    (front ++ back).head? ≠ some byte := by
  cases front with
  | nil => exact behind
  | cons first front =>
    intro same
    exact absent (by simp [Option.some.inj same])

theorem parseBody_plain {field : Bytes} (plain : Plain field)
    (here : At size withLast count (field ++ 44 :: text) buf indexes false p) :
    ∃ next, parseBody size withLast recLine p = .again next ∧
      At size withLast count text (buf ++ field) (indexes ++ [plainIndex buf field]) false
        next := by
  obtain ⟨noComma, noQuote, _, noLF⟩ := plain.absent
  rw [append_cons] at here
  obtain ⟨line, rest⟩ := here.line_append (by simp [noLF])
  rw [← append_cons] at line
  have notOpening : p.line.head? ≠ some 34 := by
    rw [line]
    exact head?_append_ne noQuote (by simp)
  refine ⟨{ p with
    line := firstLine text, posCol := p.posCol + field.length + 1
    recordBuffer := p.recordBuffer ++ field
    fieldIndexes := p.fieldIndexes ++ [plainIndex p.recordBuffer field] }, ?_, ?_⟩
  · rw [parseBody, if_neg (ne_true_of_eq_false here.quoted), if_neg notOpening, parsePlain]
    simp only [line, idxOf?_append_cons noComma, take_left,
      List.idxOf?_eq_none_iff.mpr noQuote, drop_append_cons, plainIndex]
  · exact
      { here with
        line := rfl, rest := rest, recordBuffer := by rw [here.recordBuffer]
        fieldIndexes := by rw [here.fieldIndexes, here.recordBuffer] }

theorem parseBody_plain_end {field : Bytes} (plain : Plain field) (ends : LineEnd lineEnd)
    (here : At size withLast count (field ++ (lineEnd ++ text)) buf indexes false p) :
    ∃ next, parseBody size withLast recLine p = .stop (some (next, none)) ∧
      Done size withLast count text (buf ++ field) (indexes ++ [plainIndex buf field]) next := by
  obtain ⟨noComma, noQuote, noCR, noLF⟩ := plain.absent
  obtain ⟨line, rest⟩ := here.line_append noLF
  rw [ends.firstLine] at line rest
  rw [drop_left] at rest
  have notOpening : p.line.head? ≠ some 34 := by
    rw [line]
    refine head?_append_ne noQuote fun same => ends.not_mem.2 (mem_of_mem_head? same)
  have noCommas : p.line.idxOf? 44 = none := by
    rw [line, List.idxOf?_eq_none_iff]
    simp [noComma, ends.not_mem.1]
  have cut : p.line.take (p.line.length - lengthNL p.line) = field := by
    rw [line, ends.lengthNL_append noCR, length_append, Nat.add_sub_cancel, take_left]
  refine ⟨{ p with
    recordBuffer := p.recordBuffer ++ field
    fieldIndexes := p.fieldIndexes ++ [plainIndex p.recordBuffer field] }, ?_, ?_⟩
  · rw [parseBody, if_neg (ne_true_of_eq_false here.quoted), if_neg notOpening, parsePlain]
    simp only [noCommas, cut, List.idxOf?_eq_none_iff.mpr noQuote, plainIndex]
  · exact
      { here.toDone with
        rest := rest, recordBuffer := by rw [here.recordBuffer]
        fieldIndexes := by rw [here.fieldIndexes, here.recordBuffer] }

theorem parseBody_opening (here : At size withLast count (34 :: text) buf indexes false p) :
    ∃ next, parseBody size withLast recLine p = .again next ∧
      At size withLast count text buf indexes true next := by
  obtain ⟨line, rest⟩ := At.line_append (show 10 ∉ [(34 : UInt8)] by decide) here
  have opening : p.line.head? = some 34 := by
    rw [line]
    rfl
  refine ⟨{ p with line := firstLine text, posCol := p.posCol + 1, quoted := true }, ?_, ?_⟩
  · rw [parseBody, if_neg (ne_true_of_eq_false here.quoted), if_pos opening, line]
    rfl
  · exact { here with line := rfl, rest := rest, quoted := rfl }

def Unbroken (front : Bytes) : Prop := 34 ∉ front ∧ 10 ∉ front

section

variable (unbroken : Unbroken front)

include unbroken

theorem parseBody_quote (here : At size withLast count (front ++ 34 :: text) buf indexes true p) :
    ∃ next, parseBody size withLast recLine p = parseAfterQuote recLine next ∧
      At size withLast count text (buf ++ front) indexes true next := by
  rw [append_cons] at here
  obtain ⟨line, rest⟩ := here.line_append (by simp [unbroken.2])
  rw [← append_cons] at line
  refine ⟨{ p with
    recordBuffer := p.recordBuffer ++ front, line := firstLine text
    posCol := p.posCol + front.length + 1 }, ?_, ?_⟩
  · rw [parseBody, if_pos here.quoted, parseQuoted]
    simp only [line, idxOf?_append_cons unbroken.1, take_left, drop_append_cons]
  · exact { here with line := rfl, rest := rest, recordBuffer := by rw [here.recordBuffer] }

theorem parseBody_quote_quote
    (here : At size withLast count (front ++ 34 :: 34 :: text) buf indexes true p) :
    ∃ next, parseBody size withLast recLine p = .again next ∧
      At size withLast count text (buf ++ front ++ [34]) indexes true next := by
  obtain ⟨q, goesOn, atQuote⟩ := parseBody_quote recLine unbroken here
  obtain ⟨line, rest⟩ := At.line_append (show 10 ∉ [(34 : UInt8)] by decide) atQuote
  have second : q.line.head? = some 34 := by
    rw [line]
    rfl
  refine ⟨{ q with
    recordBuffer := q.recordBuffer ++ [34], line := firstLine text, posCol := q.posCol + 1 },
    ?_, ?_⟩
  · rw [goesOn, parseAfterQuote, if_pos second, line]
    rfl
  · exact { atQuote with line := rfl, rest := rest, recordBuffer := by rw [atQuote.recordBuffer] }

theorem parseBody_closing
    (here : At size withLast count (front ++ 34 :: 44 :: text) buf indexes true p) :
    ∃ next, parseBody size withLast recLine p = .again next ∧
      At size withLast count text (buf ++ front)
        (indexes ++ [((buf ++ front).length : Int)]) false next := by
  obtain ⟨q, goesOn, atComma⟩ := parseBody_quote recLine unbroken here
  obtain ⟨line, rest⟩ := At.line_append (show 10 ∉ [(44 : UInt8)] by decide) atComma
  have comma : q.line.head? = some 44 := by
    rw [line]
    rfl
  have notQuote : q.line.head? ≠ some 34 := by
    rw [comma]
    decide
  refine ⟨{ q.endField with
    line := firstLine text, posCol := q.posCol + 1, quoted := false }, ?_, ?_⟩
  · rw [goesOn, parseAfterQuote, if_neg notQuote, if_pos comma, line]
    rfl
  · exact
      { atComma with
        line := rfl, rest := rest, quoted := rfl
        fieldIndexes := by simp only [Parse.endField, atComma.fieldIndexes, atComma.recordBuffer] }

theorem parseBody_closing_end (ends : LineEnd lineEnd)
    (here : At size withLast count (front ++ 34 :: (lineEnd ++ text)) buf indexes true p) :
    ∃ next, parseBody size withLast recLine p = .stop (some (next, none)) ∧
      Done size withLast count text (buf ++ front)
        (indexes ++ [((buf ++ front).length : Int)]) next := by
  obtain ⟨q, goesOn, atEnd⟩ := parseBody_quote recLine unbroken here
  have line := atEnd.line
  have rest := atEnd.rest
  rw [ends.firstLine] at line rest
  rw [drop_left] at rest
  have notQuote : q.line.head? ≠ some 34 := by
    rw [line]
    exact fun same => ends.not_mem.2 (mem_of_mem_head? same)
  have notComma : q.line.head? ≠ some 44 := by
    rw [line]
    exact fun same => ends.not_mem.1 (mem_of_mem_head? same)
  have whole : lengthNL q.line = q.line.length := by
    rw [line]
    exact ends.lengthNL_append (show 13 ∉ ([] : Bytes) by simp)
  refine ⟨q.endField, ?_, ?_⟩
  · rw [goesOn, parseAfterQuote, if_neg notQuote, if_neg notComma, if_pos whole]
  · exact
      { atEnd.toDone with
        rest := rest
        fieldIndexes := by simp only [Parse.endField, atEnd.fieldIndexes, atEnd.recordBuffer] }

end

theorem parseBody_nextLine (pos : 0 < size) (unbroken : Unbroken front) (more : 10 ∈ text)
    (here : At size withLast count (front ++ 10 :: text) buf indexes true p) :
    ∃ next, parseBody size withLast recLine p = .again next ∧
      At size withLast count text (buf ++ front ++ [10]) indexes true next := by
  obtain ⟨line, rest⟩ := here.line_append unbroken.2
  rw [firstLine_lf] at line rest
  have left : p.state.r.remaining = text := rest
  have noQuote : p.line.idxOf? 34 = none := by
    rw [line, List.idxOf?_eq_none_iff]
    simp [unbroken.1]
  have some : p.line ≠ [] := by simp [line]
  obtain ⟨r, read, sound, behind⟩ := readLine_line here.sound pos (left ▸ more)
    (fun first => absurd first (by simp [here.later]))
  refine ⟨{ p with
    state := { p.state with r := r, numLine := p.state.numLine + 1, isFirstLine := false }
    line := firstLine p.state.r.remaining
    recordBuffer := p.recordBuffer ++ p.line
    posLine := if firstLine p.state.r.remaining ≠ [] then p.posLine + 1 else p.posLine
    posCol := if firstLine p.state.r.remaining ≠ [] then 1 else p.posCol + p.line.length }, ?_, ?_⟩
  · rw [parseBody, if_pos here.quoted, parseQuoted, noQuote]
    simp only [if_pos some, parseNextLine, read]
  · exact
      { here with
        sound := sound, line := by rw [left], rest := by rw [behind, left], later := rfl
        recordBuffer := by rw [here.recordBuffer, line, append_assoc] }

def Finishes (size : Nat) (withLast : Bool) (recLine : Nat) (text : Bytes) (p : Parse)
    (Wanted : Parse → Prop) : Prop :=
  ∃ last, loop (parseBody size withLast recLine) (text.length + 1) p = some (some (last, none)) ∧
    Wanted last

variable {recLine} {Wanted : Parse → Prop}

theorem Finishes.again {next : Parse} {after : Bytes}
    (goesOn : parseBody size withLast recLine p = .again next)
    (finishes : Finishes size withLast recLine after next Wanted)
    (shorter : after.length < text.length) : Finishes size withLast recLine text p Wanted := by
  obtain ⟨last, ends, wanted⟩ := finishes
  exact ⟨last, loop_again goesOn ends (Nat.succ_lt_succ shorter), wanted⟩

theorem Finishes.stop {last : Parse}
    (stops : parseBody size withLast recLine p = .stop (some (last, none))) (wanted : Wanted last) :
    Finishes size withLast recLine text p Wanted :=
  ⟨last, loop_stop stops (Nat.succ_pos _), wanted⟩

theorem doubled_append (front back : Bytes) :
    doubled (front ++ back) = doubled front ++ doubled back :=
  flatMap_append

theorem Unbroken.doubled (unbroken : Unbroken front) : doubled front = front := by
  induction front with
  | nil => rfl
  | cons byte front ih =>
    have notQuote : byte ≠ 34 := fun same => unbroken.1 (by simp [same])
    have rest := ih
      ⟨fun mem => unbroken.1 (by simp [mem]), fun mem => unbroken.2 (by simp [mem])⟩
    show (if byte = 34 then _ else _) ++ Csv.doubled front = _
    rw [if_neg notQuote, rest, singleton_append]

theorem unbroken_or_split (content : Bytes) : Unbroken content ∨ ∃ front byte back,
      content = front ++ byte :: back ∧ Unbroken front ∧ (byte = 34 ∨ byte = 10) := by
  induction content with
  | nil => exact .inl ⟨by simp, by simp⟩
  | cons first content ih =>
    by_cases special : first = 34 ∨ first = 10
    · exact .inr ⟨[], first, content, rfl, ⟨by simp, by simp⟩, special⟩
    · obtain ⟨notQuote, notLF⟩ := not_or.mp special
      have extend {front : Bytes} (unbroken : Unbroken front) : Unbroken (first :: front) :=
        ⟨by simpa [Ne.symm notQuote] using unbroken.1, by simpa [Ne.symm notLF] using unbroken.2⟩
      rcases ih with unbroken | ⟨front, byte, back, rfl, unbroken, isSpecial⟩
      · exact .inl (extend unbroken)
      · exact .inr ⟨first :: front, byte, back, rfl, extend unbroken, isSpecial⟩

theorem finishes_quoted (pos : 0 < size) {content : Bytes} (more : 10 ∈ text)
    (here : At size withLast count (doubled content ++ 34 :: text) buf indexes true p)
    (closes : ∀ (front begun : Bytes) (q : Parse), Unbroken front →
      begun ++ front = buf ++ content →
      At size withLast count (front ++ 34 :: text) begun indexes true q →
        Finishes size withLast recLine (front ++ 34 :: text) q Wanted) :
    Finishes size withLast recLine (doubled content ++ 34 :: text) p Wanted := by
  induction length : content.length using Nat.strong_induction_on generalizing content buf p with
  | _ n ih =>
    rcases unbroken_or_split content with unbroken | ⟨front, byte, back, rfl, unbroken, special⟩
    · rw [unbroken.doubled] at here ⊢
      exact closes content buf p unbroken rfl here
    · have shorter : back.length < n := by
        rw [← length, length_append, length_cons]
        omega
      rw [doubled_append, unbroken.doubled] at here ⊢
      rcases special with rfl | rfl
      · have split : front ++ doubled (34 :: back) ++ 34 :: text =
            front ++ 34 :: 34 :: (doubled back ++ 34 :: text) := by
          simp [doubled]
        rw [split] at here ⊢
        obtain ⟨next, goesOn, atBack⟩ := parseBody_quote_quote recLine unbroken here
        refine .again goesOn (ih _ shorter atBack ?_ rfl) ?_
        · intro rest begun q isUnbroken whole
          exact closes rest begun q isUnbroken (by simpa using whole)
        · simp only [length_append, length_cons]
          omega
      · have split : front ++ doubled (10 :: back) ++ 34 :: text =
            front ++ 10 :: (doubled back ++ 34 :: text) := by
          simp [doubled]
        rw [split] at here ⊢
        obtain ⟨next, goesOn, atBack⟩ :=
          parseBody_nextLine recLine pos unbroken (by simp [more]) here
        refine .again goesOn (ih _ shorter atBack ?_ rfl) ?_
        · intro rest begun q isUnbroken whole
          exact closes rest begun q isUnbroken (by simpa using whole)
        · simp only [length_append, length_cons]
          omega

def content (field : Option Bytes) : Bytes := field.getD []

def indexOf (start : Nat) : Option Bytes → Int
  | none => -1
  | some text => (start + text.length : Nat)

def indexesFrom (start : Nat) : List (Option Bytes) → List Int
  | [] => []
  | field :: fields => indexOf start field :: indexesFrom (start + (content field).length) fields

theorem plain_nil : Plain [] := by simp [Plain]

variable {written : Bytes} {field : Option Bytes}

theorem finishes_field (pos : 0 < size) (isText : FieldText field written) (more : 10 ∈ text)
    (here : At size withLast count (written ++ 44 :: text) buf indexes false p)
    (goesOn : ∀ q, At size withLast count text (buf ++ content field)
      (indexes ++ [indexOf buf.length field]) false q →
        Finishes size withLast recLine text q Wanted) :
    Finishes size withLast recLine (written ++ 44 :: text) p Wanted := by
  cases isText with
  | nil =>
    obtain ⟨next, again, atNext⟩ := parseBody_plain recLine plain_nil here
    exact .again again (goesOn next atNext) (by simp)
  | @plain value given plain =>
    obtain ⟨next, again, atNext⟩ := parseBody_plain recLine plain here
    rw [plainIndex, if_neg given, length_append] at atNext
    exact .again again (goesOn next atNext) (by simp; omega)
  | quoted value =>
    have split : (34 :: (doubled value ++ [34])) ++ 44 :: text =
        34 :: (doubled value ++ 34 :: 44 :: text) := by simp
    rw [split] at here ⊢
    obtain ⟨opened, opens, inside⟩ := parseBody_opening recLine here
    refine .again opens (finishes_quoted pos (by simp [more]) inside ?_) (by simp)
    intro front begun q unbroken whole atQuote
    obtain ⟨next, again, atNext⟩ := parseBody_closing recLine unbroken atQuote
    rw [whole, length_append] at atNext
    exact .again again (goesOn next atNext) (by simp; omega)

theorem finishes_last (pos : 0 < size) (isText : FieldText field written) (ends : LineEnd lineEnd)
    (here : At size withLast count (written ++ (lineEnd ++ text)) buf indexes false p) :
    Finishes size withLast recLine (written ++ (lineEnd ++ text)) p
      (Done size withLast count text (buf ++ content field)
        (indexes ++ [indexOf buf.length field])) := by
  cases isText with
  | nil =>
    obtain ⟨last, stops, done⟩ := parseBody_plain_end recLine plain_nil ends here
    exact .stop stops done
  | @plain value given plain =>
    obtain ⟨last, stops, done⟩ := parseBody_plain_end recLine plain ends here
    rw [plainIndex, if_neg given, length_append] at done
    exact .stop stops done
  | quoted value =>
    have split : (34 :: (doubled value ++ [34])) ++ (lineEnd ++ text) =
        34 :: (doubled value ++ 34 :: (lineEnd ++ text)) := by simp
    have more : 10 ∈ lineEnd ++ text := by
      cases ends with
      | lf | crlf => simp
    rw [split] at here ⊢
    obtain ⟨opened, opens, inside⟩ := parseBody_opening recLine here
    refine .again opens (finishes_quoted pos more inside ?_) (by simp)
    intro front begun q unbroken whole atQuote
    obtain ⟨last, stops, done⟩ := parseBody_closing_end recLine unbroken ends atQuote
    rw [whole, length_append] at done
    exact .stop stops done

theorem LineEnd.mem (ends : LineEnd lineEnd) : 10 ∈ lineEnd := by
  cases ends with
  | lf | crlf => decide

variable {fields : List (Option Bytes)} {texts : List Bytes}

theorem finishes_fields (pos : 0 < size) (written : List.Forall₂ FieldText fields texts)
    (some : fields ≠ []) (ends : LineEnd lineEnd)
    (here : At size withLast count (joined texts ++ (lineEnd ++ text)) buf indexes false p) :
    Finishes size withLast recLine (joined texts ++ (lineEnd ++ text)) p
      (Done size withLast count text (buf ++ fields.flatMap content)
        (indexes ++ indexesFrom buf.length fields)) := by
  induction written generalizing buf indexes p with
  | nil => exact absurd rfl some
  | @cons field first fields texts isText others ih =>
    cases others with
    | nil =>
      show Finishes size withLast recLine (first ++ (lineEnd ++ text)) p _
      simpa [indexesFrom] using finishes_last pos isText ends here
    | @cons next second fields texts isNext others =>
      have split : joined (first :: second :: texts) ++ (lineEnd ++ text) =
          first ++ 44 :: (joined (second :: texts) ++ (lineEnd ++ text)) := by
        simp [joined]
      rw [split] at here ⊢
      refine finishes_field pos isText (by simp [ends.mem]) here fun q atNext => ?_
      have rest := ih (cons_ne_nil _ _) atNext
      simpa [indexesFrom, append_assoc] using rest

theorem cutFields_indexesFrom (front : Bytes) (fields : List (Option Bytes)) :
    cutFields (front ++ fields.flatMap content) front.length (indexesFrom front.length fields) =
      fields := by
  induction fields generalizing front with
  | nil => rfl
  | cons field fields ih =>
    have rest := ih (front ++ content field)
    rw [append_assoc, ← flatMap_cons, length_append] at rest
    cases field with
    | none => simpa [indexesFrom, indexOf, cutFields, content] using rest
    | some value =>
      have idx : indexOf front.length (some value) = ((front.length + value.length : Nat) : Int) :=
        rfl
      have notNil : ((front.length + value.length : Nat) : Int) ≠ -1 := by omega
      have cut : ((front ++ (some value :: fields).flatMap content).take
          (front.length + value.length)).drop front.length = value := by
        rw [flatMap_cons, ← append_assoc, content, getD_some, ← length_append, take_left, drop_left]
      rw [indexesFrom, idx, cutFields, if_neg notNil, Int.toNat_natCast, cut]
      exact congrArg _ rest

theorem head_of_blank {line : Bytes} (blank : line.length = lengthNL line) :
    ∀ byte ∈ line.head?, byte = 10 ∨ byte = 13 := by
  rw [lengthNL] at blank
  split at blank
  · rename_i isSuffix
    obtain rfl := isSuffix.eq_of_length (by simp [blank])
    simp
  · split at blank
    · rename_i isSuffix
      obtain rfl := isSuffix.eq_of_length (by simp [blank])
      simp
    · obtain rfl := eq_nil_of_length_eq_zero blank
      simp

theorem FieldText.head (isText : FieldText field written) :
    ∀ byte ∈ written.head?, byte ≠ 10 ∧ byte ≠ 13 := by
  cases isText with
  | nil | quoted => simp
  | @plain _ given plain =>
    intro byte isHead
    have isPlain := plain byte (mem_of_mem_head? isHead)
    exact ⟨isPlain.2.2.2, isPlain.2.2.1⟩

theorem RecordText.head (isText : RecordText fields written) (some : fields ≠ [])
    (notEmpty : fields ≠ [none]) (text : Bytes) :
    ∃ byte rest, written ++ text = byte :: rest ∧ byte ≠ 10 ∧ byte ≠ 13 := by
  obtain ⟨written, ends⟩ := isText
  cases written with
  | nil => exact absurd rfl some
  | @cons field first fields texts isField others =>
    cases shape : first with
    | cons byte rest =>
      have isHead := isField.head byte (by simp [shape])
      cases texts with
      | nil | cons => exact ⟨byte, _, rfl, isHead⟩
    | nil =>
      subst shape
      cases others with
      | nil =>
        cases isField with
        | nil => exact absurd rfl notEmpty
        | plain given => exact absurd rfl given
      | cons isNext others => exact ⟨44, _, rfl, by decide⟩

theorem RecordText.mem (isText : RecordText fields written) : 10 ∈ written := by
  obtain ⟨_, ends⟩ := isText
  exact mem_append_right _ ends.mem

structure Between (size : Nat) (withLast : Bool) (text : Bytes) (state : State) : Prop where
  sound : state.r.Sound size withLast
  rest : state.r.remaining = text
  noMark : state.isFirstLine = true → ¬ bom <+: text

theorem skip_record (pos : 0 < size) (isText : RecordText fields written) (some : fields ≠ [])
    (notEmpty : fields ≠ [none]) (between : Between size withLast (written ++ text) state)
    (enough : 0 < fuel) : ∃ after, loop (skipBody size withLast) fuel state =
        Option.some (Option.some (firstLine (written ++ text), false, after)) ∧
      after.r.Sound size withLast ∧
      after.r.remaining = (written ++ text).drop (firstLine (written ++ text)).length ∧
      after.isFirstLine = false ∧ after.fieldsPerRecord = state.fieldsPerRecord := by
  have rest := between.rest
  have mem : 10 ∈ written ++ text := mem_append_left _ isText.mem
  obtain ⟨r, read, sound, behind⟩ := readLine_line between.sound pos (rest ▸ mem)
    (fun first => rest ▸ between.noMark first)
  rw [rest] at read behind
  obtain ⟨byte, others, shape, notLF, notCR⟩ := isText.head some notEmpty text
  have notBlank :
      ¬ (firstLine (written ++ text)).length = lengthNL (firstLine (written ++ text)) := by
    intro blank
    have isHead := head_of_blank blank byte (by rw [shape, firstLine, if_neg notLF]; rfl)
    exact isHead.elim notLF notCR
  refine ⟨{ state with r := r, numLine := state.numLine + 1, isFirstLine := false },
    loop_stop ?_ enough, sound, behind, rfl, rfl⟩
  rw [skipBody, read]
  simp only [notBlank, and_false, if_false]

theorem checkCount_same {recLine : Nat}
    (counted : state.fieldsPerRecord = 0 ∨ state.fieldsPerRecord = fields.length) :
    checkCount state recLine fields none =
      (.record fields none, { state with fieldsPerRecord := fields.length }) := by
  rw [checkCount]
  split
  · rename_i set
    have same : state.fieldsPerRecord = fields.length := by omega
    simp [← same]
  · rfl

theorem readRecord_record (pos : 0 < size) (isText : RecordText fields written) (some : fields ≠ [])
    (notEmpty : fields ≠ [none])
    (counted : state.fieldsPerRecord = 0 ∨ state.fieldsPerRecord = fields.length)
    (between : Between size withLast (written ++ text) state) :
    ∃ after, readRecord size withLast state = Option.some (.record fields none, after) ∧
      Between size withLast text after ∧ after.fieldsPerRecord = fields.length := by
  obtain ⟨begun, skips, sound, rest, later, sameCount⟩ :=
    skip_record pos isText some notEmpty between (Nat.succ_pos (state.r.remaining.length + 1))
  cases isText with
  | @mk texts lineEnd isWritten ends =>
    rw [append_assoc] at skips rest
    have here : At size withLast state.fieldsPerRecord (joined texts ++ (lineEnd ++ text)) [] []
        false
        { state := begun, line := firstLine (joined texts ++ (lineEnd ++ text))
          posLine := begun.numLine, posCol := 1, recordBuffer := [], fieldIndexes := []
          quoted := false } :=
      { sound := sound, line := rfl, rest := rest, later := later, count := sameCount
        recordBuffer := rfl, fieldIndexes := rfl, quoted := rfl }
    have fuel : (firstLine (joined texts ++ (lineEnd ++ text))).length +
        begun.r.remaining.length = (joined texts ++ (lineEnd ++ text)).length := by
      have le := (firstLine_begins (joined texts ++ (lineEnd ++ text))).length_le
      rw [rest, length_drop]
      omega
    obtain ⟨last, parses, done⟩ : Finishes size withLast begun.numLine _ _ _ :=
      finishes_fields pos isWritten some ends here
    have fields_eq : cutFields last.recordBuffer 0 last.fieldIndexes = fields := by
      rw [done.recordBuffer, done.fieldIndexes]
      exact cutFields_indexesFrom [] fields
    have sameCounted := counted
    rw [← done.count] at sameCounted
    refine ⟨{ last.state with fieldsPerRecord := fields.length }, ?_,
      ⟨done.sound, done.rest, fun first => absurd first (by simp [done.later])⟩, rfl⟩
    rw [readRecord, skips]
    simp only [join_some, bind_eq_bind, bind_some, fuel, parses, fields_eq,
      checkCount_same sameCounted, Bool.false_eq_true, if_false]

theorem readRecord_end (pos : 0 < size) (between : Between size withLast [] state) :
    ∃ after, readRecord size withLast state = some (.eof, after) := by
  obtain ⟨after, read⟩ := readLine_end between.sound pos between.rest
  have stops : skipBody size withLast state = .stop (some ([], true, after)) := by
    simp [skipBody, read]
  have skips := loop_stop stops (Nat.succ_pos (state.r.remaining.length + 1))
  exact ⟨after, by simp [readRecord, skips]⟩

theorem reads_records {k : Nat} (pos : 0 < size) {records : List (List (Option Bytes))}
    (isText : List.Forall₂ RecordText records texts) (fields : 1 ≤ k)
    (sameLength : ∀ record ∈ records, record.length = k)
    (notEmpty : ∀ record ∈ records, record ≠ [none])
    (counted : state.fieldsPerRecord = 0 ∨ state.fieldsPerRecord = k)
    (between : Between size withLast texts.flatten state) :
    reads size withLast (records.length + 1) state =
      some (records.map (fun record => .record record none) ++ [.eof]) := by
  induction isText generalizing state with
  | nil =>
    obtain ⟨after, read⟩ := readRecord_end pos between
    simp [reads, read]
  | @cons record written records texts isRecord others ih =>
    have length := sameLength record (by simp)
    have some : record ≠ [] := by
      rintro rfl
      simp at length
      omega
    obtain ⟨after, read, behind, count⟩ := readRecord_record pos isRecord some
      (notEmpty record (by simp)) (by rwa [length]) between
    have rest := ih (fun other mem => sameLength other (by simp [mem]))
      (fun other mem => notEmpty other (by simp [mem])) (.inr (count.trans length)) behind
    rw [length_cons, reads, read]
    simp only [bind_eq_bind, bind_some, rest, map_cons, cons_append]

end

/-- Reading the text of a table gives its records and then the end, whatever the size of the
buffer, the chunks of the source and the way it reports its end. -/
theorem table_read_back (size : Nat) (positive : 0 < size) (source : Source) (k : Nat)
    (records : List (List (Option Bytes))) (isText : TableText k records source.chunks.flatten) :
    reads size source.withLast (records.length + 1) (newReader source) =
      some (records.map (fun record => .record record none) ++ [.eof]) := by
  obtain ⟨texts, written, whole⟩ := isText.written
  apply reads_records positive written isText.fields isText.sameLength isText.notEmpty (.inl rfl)
  exact {
    sound := sound_reader source
    rest := whole.symm
    noMark := fun _ => whole ▸ isText.noMark }

def twoRecords : Source where
  chunks := [[34, 97, 10], [34, 44, 13, 10, 98], [44, 34, 99, 34, 34, 34, 10]]
  given := by decide
  withLast := true

theorem table_read_back_two : reads 16 true 3 (newReader twoRecords) =
    some [.record [some [97, 10], none] none, .record [some [98], some [99, 34]] none, .eof] := by
  have first : RecordText [some [97, 10], none] ([34, 97, 10, 34, 44] ++ [13, 10]) :=
    .mk (.cons (.quoted [97, 10]) (.cons .nil .nil)) .crlf
  have second : RecordText [some [98], some [99, 34]] ([98, 44, 34, 99, 34, 34, 34] ++ [10]) :=
    .mk (.cons (.plain (by decide) (by simp [Plain])) (.cons (.quoted [99, 34]) .nil)) .lf
  have isText : TableText 2 [[some [97, 10], none], [some [98], some [99, 34]]]
      twoRecords.chunks.flatten :=
    { fields := by decide, sameLength := by decide, notEmpty := by decide
      written := ⟨_, .cons first (.cons second .nil), rfl⟩, noMark := by decide }
  exact table_read_back 16 (by decide) twoRecords 2 _ isText

end TaosAdapter.Csv
