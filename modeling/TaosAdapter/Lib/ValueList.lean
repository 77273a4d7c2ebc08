import TaosAdapter.Lib.Json

/-!
Owns: a lexer for a list of values in parentheses, as it stands behind the word
`values` of an insert statement. A value is a literal in single quotes, in which
a backslash escapes the next byte, or a word of bytes that mean nothing else.
-/

namespace TaosAdapter.Lib

open List Option

/-- Blanks and control bytes end a word, and so do the bytes that quote, separate
or group. -/
def isWordByte (byte : UInt8) : Bool :=
  32 < byte && byte != 34 && byte != 39 && byte != 40 && byte != 41 && byte != 44 && byte != 59 &&
    byte != 92 && byte != 96 && byte != 127

inductive Lexeme where
  | literal (text : Bytes)
  | word (text : Bytes)
deriving DecidableEq

structure SqlValue where
  source : Bytes
  lexeme : Lexeme
deriving DecidableEq

/-- A literal behind its opening quote: its source with the closing quote, its
text, and what follows it. -/
def lexLiteral : Bytes → Option (Bytes × Bytes × Bytes)
  | [] => none
  | byte :: rest =>
    if byte = 39 then some ([39], [], rest)
    else if byte = 92 then
      match rest with
      | [] => none
      | escaped :: rest =>
        (lexLiteral rest).map fun (source, text, rest) =>
          (92 :: escaped :: source, escaped :: text, rest)
    else
      (lexLiteral rest).map fun (source, text, rest) => (byte :: source, byte :: text, rest)

def lexWord (text : Bytes) : Option (SqlValue × Bytes) :=
  let taken := text.takeWhile isWordByte
  if taken = [] then none else some (⟨taken, .word taken⟩, text.dropWhile isWordByte)

def lexValue : Bytes → Option (SqlValue × Bytes)
  | [] => none
  | byte :: rest =>
    if byte = 39 then
      (lexLiteral rest).map fun (source, text, rest) => (⟨39 :: source, .literal text⟩, rest)
    else lexWord (byte :: rest)

/-- Values with commas between them up to the closing parenthesis, and what
follows it; every value takes one unit of fuel. -/
def lexValues : Nat → Bytes → Option (List SqlValue × Bytes)
  | 0, _ => none
  | fuel + 1, text =>
    match lexValue text with
    | none => none
    | some (_, []) => none
    | some (value, byte :: rest) =>
      if byte = 44 then
        (lexValues fuel rest).map fun (values, rest) => (value :: values, rest)
      else if byte = 41 then some ([value], rest)
      else none

/-- The values of a text that is one tuple and nothing else. -/
def splitTuple : Bytes → Option (List SqlValue)
  | [] => none
  | byte :: rest =>
    if byte = 40 then
      if rest = [41] then some []
      else
        match lexValues rest.length rest with
        | some (values, []) => some values
        | _ => none
    else none

/-- The text is one value and nothing else. -/
def OneValue (text : Bytes) : Prop := ∃ value, lexValue text = some (value, [])

/-- The value is what its source is read as. -/
def SqlValue.Alone (value : SqlValue) : Prop := lexValue value.source = some (value, [])

theorem lexLiteral_escape (escaped : UInt8) (rest : Bytes) : lexLiteral (92 :: escaped :: rest) =
      (lexLiteral rest).map fun (source, text, rest) =>
        (92 :: escaped :: source, escaped :: text, rest) := by
  rw [lexLiteral]
  rfl

theorem lexLiteral_plain {byte : UInt8} (notQuote : byte ≠ 39) (notBackslash : byte ≠ 92)
    (rest : Bytes) : lexLiteral (byte :: rest) =
      (lexLiteral rest).map fun (source, text, rest) => (byte :: source, byte :: text, rest) := by
  rw [lexLiteral.eq_def]
  simp only [if_neg notQuote, if_neg notBackslash]

variable {input rest text : Bytes}

/-- A literal is read from its source alone, whatever follows it. -/
theorem lexLiteral_source {source : Bytes} (lexed : lexLiteral input = some (source, text, rest)) :
    input = source ++ rest ∧
      ∀ behind, lexLiteral (source ++ behind) = some (source, text, behind) := by
  fun_induction lexLiteral input generalizing source text rest with
  | case1 => simp at lexed
  | case2 following =>
    obtain ⟨rfl, rfl, rfl⟩ : [39] = source ∧ [] = text ∧ following = rest := by
      simpa using lexed
    exact ⟨rfl, fun behind => by rw [lexLiteral.eq_def]; rfl⟩
  | case3 => simp at lexed
  | case4 escaped following _ ih =>
    obtain ⟨⟨source, text, rest⟩, inner, same⟩ := map_eq_some_iff.mp lexed
    obtain ⟨rfl, rfl, rfl⟩ := same
    obtain ⟨split, again⟩ := ih inner
    refine ⟨by rw [split]; rfl, fun behind => ?_⟩
    rw [cons_append, cons_append, lexLiteral_escape, again behind]
    rfl
  | case5 byte following notQuote notBackslash ih =>
    obtain ⟨⟨source, text, rest⟩, inner, same⟩ := map_eq_some_iff.mp lexed
    obtain ⟨rfl, rfl, rfl⟩ := same
    obtain ⟨split, again⟩ := ih inner
    refine ⟨by rw [split]; rfl, fun behind => ?_⟩
    rw [cons_append, lexLiteral_plain notQuote notBackslash, again behind]
    rfl

theorem lexValue_quote (rest : Bytes) : lexValue (39 :: rest) =
      (lexLiteral rest).map fun (source, text, rest) => (⟨39 :: source, .literal text⟩, rest) := by
  rw [lexValue, if_pos rfl]

theorem lexWord_append {taken : Bytes} (some : taken ≠ [])
    (words : ∀ byte ∈ taken, isWordByte byte = true) {behind : Bytes}
    (ends : ∀ byte ∈ behind.head?, isWordByte byte = false) :
    lexWord (taken ++ behind) = Option.some (⟨taken, .word taken⟩, behind) := by
  have stops : behind.takeWhile isWordByte = [] ∧ behind.dropWhile isWordByte = behind := by
    cases behind with
    | nil => exact ⟨rfl, rfl⟩
    | cons byte rest => simp [ends byte rfl]
  simp only [lexWord, takeWhile_append_of_pos words, dropWhile_append_of_pos words,
    stops.1, stops.2, List.append_nil, if_neg some]

variable {value : SqlValue}

/-- A value is read from its source alone, whatever follows it that ends a word. -/
theorem lexValue_source (lexed : lexValue input = some (value, rest)) :
    input = value.source ++ rest ∧ value.source ≠ [] ∧
      ∀ behind : Bytes, (∀ byte ∈ behind.head?, isWordByte byte = false) →
        lexValue (value.source ++ behind) = some (value, behind) := by
  cases input with
  | nil => simp [lexValue] at lexed
  | cons byte following =>
    by_cases quote : byte = 39
    · subst quote
      rw [lexValue_quote] at lexed
      obtain ⟨⟨source, text, rest⟩, inner, same⟩ := map_eq_some_iff.mp lexed
      obtain ⟨rfl, rfl⟩ := same
      obtain ⟨split, again⟩ := lexLiteral_source inner
      refine ⟨by rw [split]; rfl, cons_ne_nil _ _, fun behind _ => ?_⟩
      rw [cons_append, lexValue_quote, again behind]
      rfl
    · rw [lexValue, if_neg quote] at lexed
      have isWord : (byte :: following).takeWhile isWordByte ++
          (byte :: following).dropWhile isWordByte = byte :: following :=
        takeWhile_append_dropWhile
      have words : ∀ other ∈ (byte :: following).takeWhile isWordByte, isWordByte other = true :=
        all_eq_true.mp all_takeWhile
      simp only [lexWord] at lexed
      split at lexed
      · simp at lexed
      · rename_i taken
        obtain ⟨rfl, rfl⟩ : _ ∧ _ := by simpa using lexed
        refine ⟨isWord.symm, taken, fun behind ends => ?_⟩
        have whole := lexWord_append taken words ends
        obtain ⟨first, others, shape⟩ := exists_cons_of_ne_nil taken
        have sameFirst : first = byte := by
          rw [takeWhile_cons] at shape
          split at shape
          · exact (List.cons.inj shape).1.symm
          · simp at shape
        rw [shape] at whole ⊢
        rw [cons_append, lexValue, if_neg (sameFirst ▸ quote), ← cons_append, whole]

theorem SqlValue.alone_of_lexed (lexed : lexValue input = some (value, rest)) : value.Alone := by
  have again := (lexValue_source lexed).2.2 [] (by simp)
  rwa [List.append_nil] at again

theorem oneValue_iff : OneValue text ↔ ∃ value : SqlValue, value.source = text ∧ value.Alone := by
  constructor
  · rintro ⟨value, lexed⟩
    have split := (lexValue_source lexed).1
    rw [List.append_nil] at split
    exact ⟨value, split.symm, SqlValue.alone_of_lexed lexed⟩
  · rintro ⟨value, rfl, alone⟩
    exact ⟨value, alone⟩

variable {values : List SqlValue} {fuel : Nat}

theorem lexValues_split (lexed : lexValues fuel input = some (values, rest)) :
    values ≠ [] ∧ input = joined (values.map SqlValue.source) ++ 41 :: rest ∧
      ∀ value ∈ values, value.Alone := by
  induction fuel generalizing input rest values with
  | zero => simp [lexValues] at lexed
  | succ fuel ih =>
    rw [lexValues] at lexed
    split at lexed
    · simp at lexed
    · simp at lexed
    · rename_i first byte following found
      have firstSplit := (lexValue_source found).1
      have firstAlone := SqlValue.alone_of_lexed found
      split at lexed
      · rename_i comma
        obtain ⟨⟨others, behind⟩, inner, same⟩ := map_eq_some_iff.mp lexed
        obtain ⟨rfl, rfl⟩ := same
        obtain ⟨more, othersSplit, othersAlone⟩ := ih inner
        refine ⟨cons_ne_nil _ _, ?_, ?_⟩
        · rw [map_cons, joined_cons _ (by simpa using more), firstSplit, othersSplit, comma]
          simp
        · simpa using ⟨firstAlone, othersAlone⟩
      · split at lexed
        · rename_i closing
          obtain ⟨rfl, rfl⟩ : [first] = values ∧ following = rest := by simpa using lexed
          refine ⟨cons_ne_nil _ _, ?_, by simpa using firstAlone⟩
          rw [firstSplit, closing]
          rfl
        · simp at lexed

theorem lexValues_joined {first : SqlValue} (rest : Bytes) (firstAlone : first.Alone)
    (alone : ∀ value ∈ values, value.Alone) (enough : values.length < fuel) :
    lexValues fuel (joined ((first :: values).map SqlValue.source) ++ 41 :: rest) =
      some (first :: values, rest) := by
  induction values generalizing first fuel with
  | nil =>
    obtain ⟨fuel, rfl⟩ := Nat.exists_eq_add_of_lt enough
    have found := (lexValue_source firstAlone).2.2 (41 :: rest) (by simp; decide)
    simp [lexValues, joined, found]
  | cons next values ih =>
    cases fuel with
    | zero => simp at enough
    | succ fuel =>
      have others := ih (alone next (by simp))
        (fun value mem => alone value (by simp [mem])) (by simpa using enough)
      have found := (lexValue_source firstAlone).2.2
        (44 :: (joined ((next :: values).map SqlValue.source) ++ 41 :: rest)) (by simp; decide)
      rw [map_cons, joined_cons _ (by simp), append_assoc, cons_append, lexValues, found]
      simp only [if_pos, others, map_some]

theorem length_le_joined (alone : ∀ value ∈ values, value.Alone) :
    values.length ≤ (joined (values.map SqlValue.source)).length := by
  induction values with
  | nil => simp
  | cons first values ih =>
    have others := ih fun value mem => alone value (by simp [mem])
    have pos := length_pos_of_ne_nil (lexValue_source (alone first (by simp))).2.1
    cases values with
    | nil => exact pos
    | cons next values =>
      rw [map_cons, joined_cons _ (by simp), length_append]
      simp only [length_cons] at others ⊢
      omega

/-- A text splits into values exactly if it is their sources with commas between
them, and each source alone is read as its value. -/
theorem splitTuple_eq_some_iff : splitTuple text = some values ↔
      text = 40 :: (joined (values.map SqlValue.source) ++ [41]) ∧
        ∀ value ∈ values, value.Alone := by
  constructor
  · intro split
    cases text with
    | nil => simp [splitTuple] at split
    | cons byte rest =>
      rw [splitTuple] at split
      split at split
      · rename_i opening
        split at split
        · rename_i empty
          obtain rfl : [] = values := by simpa using split
          exact ⟨by rw [opening, empty]; rfl, by simp⟩
        · split at split
          · rename_i found lexed
            obtain rfl : found = values := by simpa using split
            obtain ⟨_, shape, alone⟩ := lexValues_split lexed
            exact ⟨by rw [opening, shape], alone⟩
          · simp at split
      · simp at split
  · rintro ⟨rfl, alone⟩
    cases values with
    | nil => rfl
    | cons first values =>
      have enough := length_le_joined alone
      have lexed := lexValues_joined [] (alone first (by simp))
        (fun value mem => alone value (by simp [mem]))
        (show values.length < (joined ((first :: values).map SqlValue.source) ++ [41]).length by
          simp only [length_append, length_cons] at enough ⊢
          omega)
      have longer : joined ((first :: values).map SqlValue.source) ++ [41] ≠ [41] := by
        intro same
        have lengths := congrArg List.length same
        simp only [length_append, length_cons] at lengths enough
        omega
      rw [splitTuple, if_pos rfl, if_neg longer, lexed]

end TaosAdapter.Lib
