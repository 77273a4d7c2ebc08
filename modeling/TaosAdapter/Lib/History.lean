import Mathlib.Data.List.Induction

/-!
Owns: histories as lists of events in the order they happened, and the property
that every event is allowed by the events before it. It is proved event by
event, as the history grows.
-/

namespace TaosAdapter.Lib

open List

variable {Event : Type} {allowed : List Event → Event → Prop} {history : List Event}

/-- Every event of the history is allowed by what came before it. -/
def Justified (allowed : List Event → Event → Prop) (history : List Event) : Prop :=
  ∀ before event after, history = before ++ event :: after → allowed before event

theorem Justified.nil : Justified allowed ([] : List Event) := by
  intro before event after split
  simp at split

/-- The last event of a history, or one before it. -/
theorem append_singleton_split {last event : Event} {before after : List Event}
    (split : history ++ [last] = before ++ event :: after) :
    (before = history ∧ event = last) ∨ ∃ rest, history = before ++ event :: rest := by
  induction after using List.reverseRecOn with
  | nil =>
    obtain ⟨same, lastSame⟩ := append_inj' split rfl
    exact .inl ⟨same.symm, (singleton_inj.mp lastSame).symm⟩
  | append_singleton rest final _ =>
    have reordered : history ++ [last] = (before ++ event :: rest) ++ [final] := by
      rw [split]
      simp
    exact .inr ⟨rest, (append_inj' reordered rfl).1⟩

theorem Justified.snoc {event : Event} (justified : Justified allowed history)
    (allows : allowed history event) : Justified allowed (history ++ [event]) := by
  intro before entry after split
  rcases append_singleton_split split with ⟨rfl, rfl⟩ | ⟨rest, earlier⟩
  · exact allows
  · exact justified before entry rest earlier

end TaosAdapter.Lib
