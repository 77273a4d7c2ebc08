import TaosAdapter.Lib.Utf8

/-!
Owns: JSON values and the grammar of their texts, as byte strings in UTF-8. A
text may have blanks wherever the grammar has them; a number is known by its
literal, and a string by its UTF-16 code units, which is what its escapes name
and lets a surrogate stand alone. The joining rules build the text of an array or an object from the
texts of its parts, without blanks.
-/

namespace TaosAdapter.Lib

open List

inductive Json where
  | null
  | bool (value : Bool)
  | number (literal : Bytes)
  | string (units : List Nat)
  | array (items : List Json)
  | object (members : List (List Nat × Json))

def ascii (text : String) : Bytes := utf8Encode text.toList

def Blank (bytes : Bytes) : Prop := ∀ byte ∈ bytes, byte = 32 ∨ byte = 9 ∨ byte = 10 ∨ byte = 13

def IsDigit (byte : UInt8) : Prop := 48 ≤ byte ∧ byte ≤ 57

inductive Whole : Bytes → Prop
  | zero : Whole [48]
  | positive {first : UInt8} {rest : Bytes} (isFirst : 49 ≤ first ∧ first ≤ 57)
      (digits : ∀ digit ∈ rest, IsDigit digit) : Whole (first :: rest)

inductive Fraction : Bytes → Prop
  | none : Fraction []
  | some {digits : Bytes} (nonempty : digits ≠ []) (isDigits : ∀ digit ∈ digits, IsDigit digit) :
      Fraction (46 :: digits)

inductive Exponent : Bytes → Prop
  | none : Exponent []
  | some {mark : UInt8} {sign digits : Bytes} (isMark : mark = 101 ∨ mark = 69)
      (isSign : sign = [] ∨ sign = [43] ∨ sign = [45]) (nonempty : digits ≠ [])
      (isDigits : ∀ digit ∈ digits, IsDigit digit) : Exponent (mark :: (sign ++ digits))

inductive IsNumber : Bytes → Prop
  | mk {sign whole fraction exponent : Bytes} (isSign : sign = [] ∨ sign = [45])
      (isWhole : Whole whole) (isFraction : Fraction fraction) (isExponent : Exponent exponent) :
      IsNumber (sign ++ (whole ++ (fraction ++ exponent)))

/-- The number a row of digits stands for. -/
def decimalValue (digits : Bytes) : Nat :=
  digits.foldl (fun value digit => value * 10 + (digit.toNat - 48)) 0

/-- The literal of a natural number. -/
def Numeral (value : Nat) (literal : Bytes) : Prop := Whole literal ∧ decimalValue literal = value

/-- The code units of a character. -/
def utf16EncodeChar (character : Char) : List Nat :=
  if character.toNat < 0x10000 then [character.toNat]
  else [0xd800 + (character.toNat - 0x10000) / 0x400, 0xdc00 + (character.toNat - 0x10000) % 0x400]

def utf16Encode (text : List Char) : List Nat := text.flatMap utf16EncodeChar

/-- The code units with an escape of two bytes, and its second byte. -/
def shortEscapes : List (Nat × UInt8) :=
  [(34, 34), (92, 92), (47, 47), (8, 98), (12, 102), (10, 110), (13, 114), (9, 116)]

/-- The value of a hexadecimal digit. -/
def hexValue (digit : UInt8) : Option Nat :=
  if 48 ≤ digit ∧ digit ≤ 57 then some (digit.toNat - 48)
  else if 65 ≤ digit ∧ digit ≤ 70 then some (digit.toNat - 55)
  else if 97 ≤ digit ∧ digit ≤ 102 then some (digit.toNat - 87)
  else none

/-- The number of four hexadecimal digits. -/
def hexQuad (a b c d : UInt8) : Option Nat := do
  let a ← hexValue a
  let b ← hexValue b
  let c ← hexValue c
  let d ← hexValue d
  return ((a * 16 + b) * 16 + c) * 16 + d

inductive StringItem : List Nat → Bytes → Prop
  | plain {character : Char} (visible : 32 ≤ character.toNat) (notQuote : character ≠ '"')
      (notBackslash : character ≠ '\\') :
      StringItem (utf16EncodeChar character) (String.utf8EncodeChar character)
  | short {unit : Nat} {letter : UInt8} (known : (unit, letter) ∈ shortEscapes) :
      StringItem [unit] [92, letter]
  | unicode {unit : Nat} {a b c d : UInt8} (value : hexQuad a b c d = some unit) :
      StringItem [unit] [92, 117, a, b, c, d]

/-- What stands between the quotes of a string. -/
inductive StringBody : List Nat → Bytes → Prop
  | nil : StringBody [] []
  | cons {item units : List Nat} {text rest : Bytes} (first : StringItem item text)
      (others : StringBody units rest) : StringBody (item ++ units) (text ++ rest)

def quoted (body : Bytes) : Bytes := 34 :: (body ++ [34])

mutual

inductive JsonText : Json → Bytes → Prop
  | null : JsonText .null (ascii "null")
  | true : JsonText (.bool true) (ascii "true")
  | false : JsonText (.bool false) (ascii "false")
  | number {literal : Bytes} (isNumber : IsNumber literal) : JsonText (.number literal) literal
  | string {units : List Nat} {body : Bytes} (isBody : StringBody units body) :
      JsonText (.string units) (quoted body)
  | emptyArray {blank : Bytes} (isBlank : Blank blank) :
      JsonText (.array []) (91 :: (blank ++ [93]))
  | array {items : List Json} {body : Bytes} (elements : JsonElements items body) :
      JsonText (.array items) (91 :: (body ++ [93]))
  | emptyObject {blank : Bytes} (isBlank : Blank blank) :
      JsonText (.object []) (123 :: (blank ++ [125]))
  | object {members : List (List Nat × Json)} {body : Bytes}
      (isMembers : JsonMembers members body) :
      JsonText (.object members) (123 :: (body ++ [125]))

/-- A value between blanks. -/
inductive JsonElement : Json → Bytes → Prop
  | mk {value : Json} {before text after : Bytes} (blankBefore : Blank before)
      (isText : JsonText value text) (blankAfter : Blank after) :
      JsonElement value (before ++ (text ++ after))

inductive JsonElements : List Json → Bytes → Prop
  | last {value : Json} {text : Bytes} (element : JsonElement value text) :
      JsonElements [value] text
  | more {value : Json} {values : List Json} {text rest : Bytes} (element : JsonElement value text)
      (others : JsonElements values rest) : JsonElements (value :: values) (text ++ 44 :: rest)

inductive JsonMember : List Nat × Json → Bytes → Prop
  | mk {name : List Nat} {value : Json} {before key between text : Bytes}
      (blankBefore : Blank before) (isKey : StringBody name key) (blankBetween : Blank between)
      (element : JsonElement value text) :
      JsonMember (name, value) (before ++ (quoted key ++ (between ++ 58 :: text)))

inductive JsonMembers : List (List Nat × Json) → Bytes → Prop
  | last {entry : List Nat × Json} {text : Bytes} (isMember : JsonMember entry text) :
      JsonMembers [entry] text
  | more {entry : List Nat × Json} {entries : List (List Nat × Json)} {text rest : Bytes}
      (isMember : JsonMember entry text) (others : JsonMembers entries rest) :
      JsonMembers (entry :: entries) (text ++ 44 :: rest)

end

/-- A document: one value between blanks. -/
abbrev JsonDocument := JsonElement

variable {literal : Bytes}

theorem Numeral.isNumber {value : Nat} (numeral : Numeral value literal) : IsNumber literal := by
  have unsigned := IsNumber.mk (.inl rfl) numeral.1 .none .none
  rwa [List.append_nil, List.append_nil, nil_append] at unsigned

theorem Numeral.isNumber_neg {value : Nat} (numeral : Numeral value literal) :
    IsNumber (45 :: literal) := by
  have signed := IsNumber.mk (.inr rfl) numeral.1 .none .none
  rwa [List.append_nil, List.append_nil] at signed

/-- Further digits behind a number that is not zero. -/
theorem Whole.append {digits : Bytes} (whole : Whole literal) (pos : decimalValue literal ≠ 0)
    (areDigits : ∀ digit ∈ digits, IsDigit digit) : Whole (literal ++ digits) := by
  cases whole with
  | zero => exact absurd rfl pos
  | positive isFirst rest =>
    rw [cons_append]
    refine .positive isFirst fun digit mem => ?_
    rcases mem_append.mp mem with inside | later
    · exact rest digit inside
    · exact areDigits digit later

theorem IsNumber.first (isNumber : IsNumber literal) :
    ∃ first rest, literal = first :: rest ∧ first ≠ 34 := by
  obtain ⟨isSign, isWhole, _, _⟩ := isNumber
  rcases isSign with rfl | rfl
  · cases isWhole with
    | zero => exact ⟨48, _, rfl, by decide⟩
    | positive isFirst _ =>
      refine ⟨_, _, rfl, ?_⟩
      rintro rfl
      exact absurd isFirst.1 (by decide)
  · exact ⟨45, _, rfl, by decide⟩

variable {value : Json} {text : Bytes}

/-- A value has a text, and it starts with a quote only if it is a string. -/
theorem JsonText.first (isText : JsonText value text) : ∃ first rest, text = first :: rest ∧
      (first ≠ 34 ∨ ∃ units body, text = quoted body ∧ StringBody units body) := by
  cases isText with
  | null => exact ⟨110, _, rfl, .inl (by decide)⟩
  | true => exact ⟨116, _, rfl, .inl (by decide)⟩
  | false => exact ⟨102, _, rfl, .inl (by decide)⟩
  | number isNumber =>
    obtain ⟨first, rest, split, notQuote⟩ := isNumber.first
    exact ⟨first, rest, split, .inl notQuote⟩
  | string isBody => exact ⟨34, _, rfl, .inr ⟨_, _, rfl, isBody⟩⟩
  | emptyArray _ | array _ => exact ⟨91, _, rfl, .inl (by decide)⟩
  | emptyObject _ | object _ => exact ⟨123, _, rfl, .inl (by decide)⟩

theorem JsonElement.ne_nil (element : JsonElement value text) : text ≠ [] := by
  obtain ⟨_, isText, _⟩ := element
  obtain ⟨first, rest, split, _⟩ := isText.first
  rw [split]
  simp

theorem ne_quote_of_blank {bytes : Bytes} (isBlank : Blank bytes) : (34 : UInt8) ∉ bytes := by
  intro mem
  rcases isBlank 34 mem with h | h | h | h
  all_goals exact absurd h (by decide)

/-- What stands between two quotes is a value only if it is the body of a string. -/
theorem stringBody_of_element {body : Bytes} (element : JsonElement value (quoted body)) :
    ∃ units, StringBody units body := by
  generalize isQuoted : quoted body = whole at element
  obtain ⟨blankBefore, isText, blankAfter⟩ := element
  rename_i before text after
  obtain ⟨first, rest, split, isString⟩ := isText.first
  have noBefore : before = [] := by
    cases before with
    | nil => rfl
    | cons byte before =>
      rw [quoted, cons_append] at isQuoted
      rw [← (List.cons.inj isQuoted).1] at blankBefore
      exact absurd mem_cons_self (ne_quote_of_blank blankBefore)
  subst noBefore
  rw [nil_append] at isQuoted
  have isQuote : first = 34 := by
    rw [split, quoted, cons_append] at isQuoted
    exact (List.cons.inj isQuoted).1.symm
  obtain ⟨units, inner, quotes, isBody⟩ := isString.resolve_left (not_not.mpr isQuote)
  have noAfter : after = [] := by
    rcases eq_nil_or_concat after with rfl | ⟨others, last, rfl⟩
    · rfl
    · exfalso
      rw [quoted, ← cons_append, concat_eq_append, ← append_assoc] at isQuoted
      rw [concat_eq_append, ← (List.cons.inj (append_inj' isQuoted rfl).2).1]
        at blankAfter
      exact absurd (mem_append_right _ mem_cons_self) (ne_quote_of_blank blankAfter)
  rw [noAfter, List.append_nil, quotes, quoted, quoted] at isQuoted
  have same := append_cancel_right (List.cons.inj isQuoted).2
  exact ⟨units, same ▸ isBody⟩

theorem blank_nil : Blank [] := by
  intro byte mem
  cases mem

theorem JsonText.element (isText : JsonText value text) : JsonElement value text := by
  have padded := JsonElement.mk blank_nil isText blank_nil
  rwa [nil_append, List.append_nil] at padded

/-- The texts of the parts with commas between them. -/
def joined : List Bytes → Bytes
  | [] => []
  | [text] => text
  | text :: next :: texts => text ++ 44 :: joined (next :: texts)

variable {texts : List Bytes}

theorem joined_cons (text : Bytes) (more : texts ≠ []) :
    joined (text :: texts) = text ++ 44 :: joined texts := by
  cases texts with
  | nil => exact absurd rfl more
  | cons next texts => rfl

theorem joined_append {first second : List Bytes} (some : first ≠ []) (more : second ≠ []) :
    joined (first ++ second) = joined first ++ 44 :: joined second := by
  induction first with
  | nil => exact absurd rfl some
  | cons text first ih =>
    cases first with
    | nil => exact joined_cons text more
    | cons next first =>
      have rest := ih (cons_ne_nil next first)
      have split := joined_cons text (cons_ne_nil next first)
      rw [cons_append, joined_cons text (by simp), rest, split, append_assoc, cons_append]

variable {values : List Json}

theorem jsonElements_joined (element : JsonElement value text)
    (elements : List.Forall₂ JsonElement values texts) :
    JsonElements (value :: values) (joined (text :: texts)) := by
  induction elements generalizing value text with
  | nil => exact .last element
  | cons next _ ih => exact .more element (ih next)

theorem jsonText_array (elements : List.Forall₂ JsonElement values texts) :
    JsonText (.array values) (91 :: (joined texts ++ [93])) := by
  cases elements with
  | nil => exact .emptyArray blank_nil
  | cons first others => exact .array (jsonElements_joined first others)

/-- A member without blanks. -/
def memberText (key text : Bytes) : Bytes := quoted key ++ 58 :: text

theorem jsonMember_memberText {name : List Nat} {key : Bytes} (isKey : StringBody name key)
    (element : JsonElement value text) : JsonMember (name, value) (memberText key text) := by
  have padded := JsonMember.mk blank_nil isKey blank_nil element
  exact padded

variable {entries : List (List Nat × Json)}

theorem jsonMembers_joined {entry : List Nat × Json} (isMember : JsonMember entry text)
    (areMembers : List.Forall₂ JsonMember entries texts) :
    JsonMembers (entry :: entries) (joined (text :: texts)) := by
  induction areMembers generalizing entry text with
  | nil => exact .last isMember
  | cons next _ ih => exact .more isMember (ih next)

theorem jsonText_object (areMembers : List.Forall₂ JsonMember entries texts) :
    JsonText (.object entries) (123 :: (joined texts ++ [125])) := by
  cases areMembers with
  | nil => exact .emptyObject blank_nil
  | cons first others => exact .object (jsonMembers_joined first others)

end TaosAdapter.Lib
