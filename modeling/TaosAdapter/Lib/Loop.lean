import Mathlib.Data.List.Basic

/-!
Owns: loops whose body says whether to go on or to stop, run with fuel.
-/

namespace TaosAdapter.Lib

/-- What a pass through the body of a loop comes to. -/
inductive Iteration (State Result : Type) where
  | again (state : State)
  | stop (result : Result)
deriving DecidableEq

variable {State Result : Type} {body : State → Iteration State Result}

/-- Nothing if the loop has not stopped after that many passes. -/
def loop (body : State → Iteration State Result) : Nat → State → Option Result
  | 0, _ => none
  | fuel + 1, state =>
    match body state with
    | .again next => loop body fuel next
    | .stop result => some result

variable {state : State} {res : Result} {fuel : Nat}

theorem loop_stop (stops : body state = .stop res) (enough : 0 < fuel) :
    loop body fuel state = some res := by
  cases fuel with
  | zero => exact absurd enough (Nat.lt_irrefl 0)
  | succ fuel => rw [loop, stops]

variable {more : Nat}

theorem loop_more (ends : loop body fuel state = some res) (le : fuel ≤ more) :
    loop body more state = some res := by
  induction fuel generalizing state more with
  | zero => cases ends
  | succ fuel ih =>
    obtain ⟨more, rfl⟩ : ∃ less, more = less + 1 := ⟨more - 1, by omega⟩
    rw [loop] at ends ⊢
    split at ends
    · exact ih ends (by omega)
    · exact ends

theorem loop_again {next : State} (goesOn : body state = .again next)
    (ends : loop body fuel next = some res) (lt : fuel < more) :
    loop body more state = some res := by
  cases more with
  | zero => exact absurd lt (Nat.not_lt_zero _)
  | succ more =>
    rw [loop, goesOn]
    exact loop_more ends (by omega)

end TaosAdapter.Lib
