import Mathlib.Data.List.Basic

/-!
Owns: results of code that may return an error, panic, or touch memory it does
not own, and counted loops over a list with an accumulator, with their
invariant rule.
-/

namespace TaosAdapter.Lib

open List

inductive Outcome (Error Value : Type) where
  | ok (value : Value)
  | error (reason : Error)
  | panic
  | fault
deriving DecidableEq

namespace Outcome

variable {Error Value Next : Type}

def bind (outcome : Outcome Error Value) (continuation : Value → Outcome Error Next) :
    Outcome Error Next :=
  match outcome with
  | ok value => continuation value
  | error reason => error reason
  | panic => panic
  | fault => fault

instance : Monad (Outcome Error) where
  pure := ok
  bind := bind

@[simp] theorem pure_eq (value : Value) : (pure value : Outcome Error Value) = ok value := rfl

@[simp] theorem ok_bind (value : Value) (next : Value → Outcome Error Next) :
    (ok value >>= next) = next value := rfl

@[simp] theorem error_bind (reason : Error) (next : Value → Outcome Error Next) :
    (error reason >>= next) = error reason := rfl

@[simp] theorem panic_bind (next : Value → Outcome Error Next) :
    ((panic : Outcome Error Value) >>= next) = panic := rfl

@[simp] theorem fault_bind (next : Value → Outcome Error Next) :
    ((fault : Outcome Error Value) >>= next) = fault := rfl

instance : LawfulMonad (Outcome Error) :=
  LawfulMonad.mk' (Outcome Error)
    (by
      intro _ outcome
      cases outcome with
      | ok | error | panic => rfl
      | fault => rfl)
    (fun _ _ => rfl)
    (by
      intro _ _ _ outcome _ _
      cases outcome with
      | ok | error | panic => rfl
      | fault => rfl)

variable {outcome : Outcome Error Value} {next : Value → Outcome Error Next}

theorem bind_eq_ok {res : Next} : (outcome >>= next) = ok res ↔
      ∃ value, outcome = ok value ∧ next value = ok res := by
  cases outcome with
  | ok | error | panic | fault => simp

variable {value : Value → Next}

theorem bind_ok_eq_error {reason : Error} :
    (outcome >>= fun res => ok (value res)) = error reason ↔ outcome = error reason := by
  cases outcome with
  | ok | error | panic | fault => simp

/-- A missing value is a read outside the memory. -/
def ofRead : Option Value → Outcome Error Value
  | some value => ok value
  | none => fault

@[simp] theorem ofRead_some (value : Value) :
    (ofRead (some value) : Outcome Error Value) = ok value := rfl

@[simp] theorem ofRead_none : (ofRead none : Outcome Error Value) = fault := rfl

def ofExcept : Except Error Value → Outcome Error Value
  | .ok value => ok value
  | .error reason => error reason

/-- A computation without errors among computations with errors. -/
def widen : Outcome Empty Value → Outcome Error Value
  | ok value => ok value
  | panic => panic
  | fault => fault

/-- The computation comes to an end of its own, with a result or an error. -/
def Answered : Outcome Error Value → Prop
  | ok _ => True
  | error _ => True
  | panic => False
  | fault => False

instance (outcome : Outcome Error Value) : Decidable outcome.Answered :=
  match outcome with
  | ok _ => isTrue trivial
  | error _ => isTrue trivial
  | panic => isFalse id
  | fault => isFalse id

@[simp] theorem answered_ok (value : Value) : (ok value : Outcome Error Value).Answered := trivial

@[simp] theorem answered_error (reason : Error) :
    (error reason : Outcome Error Value).Answered := trivial

@[simp] theorem not_answered_panic : ¬ (panic : Outcome Error Value).Answered := id

@[simp] theorem not_answered_fault : ¬ (fault : Outcome Error Value).Answered := id

variable {Later : Prop}

/-- A condition on what follows that does not depend on the value. -/
theorem answered_bind_iff_of_forall {outcome : Outcome Empty Value}
    {next : Value → Outcome Empty Next} (later : ∀ value, (next value).Answered ↔ Later) :
    (outcome >>= next).Answered ↔ outcome.Answered ∧ Later := by
  cases outcome with
  | ok value => simp [later]
  | error reason => cases reason
  | panic | fault => simp

theorem answered_widen_bind_iff_of_forall {outcome : Outcome Empty Value}
    (later : ∀ value, (next value).Answered ↔ Later) :
    (widen outcome >>= next).Answered ↔ outcome.Answered ∧ Later := by
  cases outcome with
  | ok value => simp [widen, later]
  | error reason => cases reason
  | panic | fault => simp [widen]

@[simp] theorem answered_bind_ok :
    (outcome >>= fun res => ok (value res)).Answered ↔ outcome.Answered := by
  cases outcome with
  | ok | error | panic | fault => exact Iff.rfl

@[simp] theorem answered_widen {outcome : Outcome Empty Value} :
    (widen outcome : Outcome Error Value).Answered ↔ outcome.Answered := by
  cases outcome with
  | ok | panic | fault => exact Iff.rfl
  | error reason => cases reason

/-- Which inputs a computation answers with a value, and which with an error. -/
structure Verdict (outcome : Outcome Error Value) (Passes Fails : Prop) : Prop where
  ok : (∃ value, outcome = .ok value) ↔ Passes
  error : (∃ reason, outcome = .error reason) ↔ Fails

theorem Verdict.bind_ok {Passes Fails : Prop} (verdict : outcome.Verdict Passes Fails)
    (value : Value → Next) : (outcome >>= fun res => .ok (value res)).Verdict Passes Fails := by
  obtain ⟨passed, failed⟩ := verdict
  rw [← passed, ← failed]
  cases outcome <;> exact ⟨by simp, by simp⟩

end Outcome

section

variable {Error Item Acc : Type}

/-- `for i := index; i < index + count; i++` over `items[i]`: too short a list
panics when its end is reached. -/
def eachItem (body : Nat → Item → Acc → Outcome Error Acc) :
    Nat → Nat → List Item → Acc → Outcome Error Acc
  | 0, _, _, acc => .ok acc
  | _ + 1, _, [], _ => .panic
  | count + 1, index, item :: items, acc => do
      eachItem body count (index + 1) items (← body index item acc)

variable {items : List Item}

/-- The invariant rule: the body takes the invariant from each index to the
next, so the loop ends with the invariant at the last index. -/
theorem eachItem_ok (body : Nat → Item → Acc → Outcome Error Acc) (Invariant : Nat → Acc → Prop)
    {idx : Nat} {acc : Acc} (initially : Invariant idx acc)
    (preserved : ∀ off item acc, items[off]? = some item → Invariant (idx + off) acc →
        ∃ next, body (idx + off) item acc = .ok next ∧ Invariant (idx + off + 1) next) :
    ∃ last, eachItem body items.length idx items acc = .ok last ∧
      Invariant (idx + items.length) last := by
  induction items generalizing idx acc with
  | nil => exact ⟨acc, rfl, initially⟩
  | cons item items ih =>
    obtain ⟨next, stepped, holds⟩ := preserved 0 item acc rfl initially
    have later : ∀ off item acc, items[off]? = some item → Invariant (idx + 1 + off) acc →
          ∃ next, body (idx + 1 + off) item acc = .ok next ∧
            Invariant (idx + 1 + off + 1) next := by
      intro off item acc found holds
      have shift : idx + 1 + off = idx + (off + 1) := by omega
      rw [shift] at holds ⊢
      exact preserved (off + 1) item acc found holds
    obtain ⟨last, finished, final⟩ := ih holds later
    refine ⟨last, ?_, ?_⟩
    · rw [length_cons, eachItem]
      have stepped' : body idx item acc = .ok next := stepped
      rw [stepped', Outcome.ok_bind]
      exact finished
    · have shift : idx + (item :: items).length = idx + 1 + items.length := by
        rw [length_cons]
        omega
      rw [shift]
      exact final

/-- A loop that ends passed every iteration: what an iteration needs of its item
held for each of them. -/
theorem forall_of_eachItem_ok (body : Nat → Item → Acc → Outcome Error Acc) (Invariant : Acc → Prop)
    (Needs : Nat → Item → Prop) {idx : Nat} {acc last : Acc} (initially : Invariant acc)
    (preserved : ∀ i item acc next, Invariant acc → body i item acc = .ok next →
      Needs i item ∧ Invariant next)
    (finished : eachItem body items.length idx items acc = .ok last) :
    ∀ off item, items[off]? = some item → Needs (idx + off) item := by
  induction items generalizing idx acc with
  | nil => nofun
  | cons head tail ih =>
    rw [length_cons, eachItem] at finished
    obtain ⟨next, stepped, rest⟩ := Outcome.bind_eq_ok.mp finished
    obtain ⟨needed, holds⟩ := preserved idx head acc next initially stepped
    intro off item found
    cases off with
    | zero =>
      cases found
      exact needed
    | succ off =>
      have later := ih holds rest off item found
      rwa [Nat.add_right_comm, Nat.add_assoc] at later

/-- What holds for the passes of a loop, by the first pass and the later ones. -/
theorem forall_pass_succ (Holds : Nat → Prop) (count idx : Nat) :
    (∀ off < count + 1, Holds (idx + off)) ↔
      Holds idx ∧ ∀ off < count, Holds (idx + 1 + off) := by
  simp only [Nat.forall_lt_succ_left, Nat.add_zero, Nat.add_assoc, Nat.add_comm 1]

/-! Loops whose iterations pass or fail by their item alone. -/

variable (Passes Fails : Item → Prop)

/-- There are `count` items, and all of them pass. -/
def AllPass (count : Nat) (items : List Item) : Prop :=
  ∀ k < count, ∃ item, items[k]? = some item ∧ Passes item

/-- One of the first `count` items fails, and those before it pass. -/
def FirstFailure (count : Nat) (items : List Item) : Prop :=
  ∃ k < count, (∃ item, items[k]? = some item ∧ Fails item) ∧ AllPass Passes k items

variable {Passes Fails}

/-- The verdict on a loop from those on its iterations. -/
theorem eachItem_verdict {body : Nat → Item → Acc → Outcome Error Acc}
    (verdict : ∀ i item acc, (body i item acc).Verdict (Passes item) (Fails item))
    (count idx : Nat) (items : List Item) (acc : Acc) :
    (eachItem body count idx items acc).Verdict (AllPass Passes count items)
      (FirstFailure Passes Fails count items) := by
  induction count generalizing idx items acc with
  | zero => exact ⟨iff_of_true ⟨acc, rfl⟩ nofun, iff_of_false nofun nofun⟩
  | succ count ih =>
    simp only [AllPass, FirstFailure, Nat.forall_lt_succ_left, Nat.exists_lt_succ_left] at *
    cases items with
    | nil => exact ⟨by simp [eachItem], by simp [eachItem]⟩
    | cons item items =>
      obtain ⟨passed, failed⟩ := verdict idx item acc
      simp only [eachItem, List.getElem?_cons_zero, List.getElem?_cons_succ,
        Option.some.injEq, exists_eq_left', ← passed, ← failed]
      cases body idx item acc with
      | ok next => simpa using ih (idx + 1) items next
      | error | panic | fault => exact ⟨by simp, by simp⟩

end

end TaosAdapter.Lib
