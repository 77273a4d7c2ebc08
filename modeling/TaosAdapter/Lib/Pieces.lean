import TaosAdapter.Lib.Json

/-!
Contract: a statement as its literals and the bytes between them.

Owns: the lexer, in which a backslash escapes the next byte of a literal, and the
texts that it reads alone, whatever follows them.
-/

namespace TaosAdapter.Lib

inductive Piece where
  | byte (byte : UInt8)
  | literal (text : Bytes)
deriving DecidableEq

/-- The pieces of a text; the first argument is what was read of an open literal. -/
def lexPieces : Option Bytes → Bytes → Option (List Piece)
  | none, [] => some []
  | some _, [] => none
  | none, byte :: rest =>
    if byte = 39 then lexPieces (some []) rest else (lexPieces none rest).map (.byte byte :: ·)
  | some text, byte :: rest =>
    if byte = 39 then (lexPieces none rest).map (.literal text :: ·)
    else if byte = 92 then
      match rest with
      | [] => none
      | escaped :: rest => lexPieces (some (text ++ [escaped])) rest
    else lexPieces (some (text ++ [byte])) rest

def plainPieces (text : Bytes) : List Piece := text.map .byte

/-- The text is read as these pieces and ends outside of a literal. -/
def Lexed (text : Bytes) (pieces : List Piece) : Prop :=
  ∀ rest, lexPieces none (text ++ rest) = (lexPieces none rest).map (pieces ++ ·)

namespace Lexed

variable {text : Bytes} {pieces : List Piece}

theorem eq (lexed : Lexed text pieces) : lexPieces none text = some pieces := by
  simpa [lexPieces] using lexed []

theorem append {first second : Bytes} {others : List Piece} (lexed : Lexed first pieces)
    (lexedOther : Lexed second others) : Lexed (first ++ second) (pieces ++ others) := by
  intro rest
  rw [List.append_assoc, lexed, lexedOther, Option.map_map]
  simp [Function.comp_def]

theorem plain (noQuote : (39 : UInt8) ∉ text) : Lexed text (plainPieces text) := by
  intro rest
  induction text with
  | nil => simp [plainPieces]
  | cons byte text ih =>
    obtain ⟨notQuote, noQuote⟩ : ¬ byte = 39 ∧ (39 : UInt8) ∉ text := by
      simpa [eq_comm (a := byte)] using noQuote
    simp [lexPieces, notQuote, ih noQuote, plainPieces, Function.comp_def]

theorem flatMap {Item : Type} {text : Item → Bytes} {pieces : Item → List Piece}
    {items : List Item} (lexed : ∀ item ∈ items, Lexed (text item) (pieces item)) :
    Lexed (items.flatMap text) (items.flatMap pieces) := by
  induction items with
  | nil => intro rest; simp
  | cons item items ih =>
    have tail := ih fun other among => lexed other (List.mem_cons_of_mem _ among)
    exact (lexed item (by simp)).append tail

/-- A literal between its quotes, if its source is read as its text. -/
theorem quoted {source : Bytes} (read : ∀ before rest, lexPieces (some before) (source ++ rest) =
      lexPieces (some (before ++ text)) rest) : Lexed (39 :: (source ++ [39])) [.literal text] := by
  intro rest
  have opened : lexPieces none (39 :: (source ++ [39]) ++ rest) =
      lexPieces (some text) (39 :: rest) := by
    simp [lexPieces, read]
  rw [opened, lexPieces.eq_def]
  rfl

end Lexed

end TaosAdapter.Lib
