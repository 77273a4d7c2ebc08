import TaosAdapter.Lib.Outcome

/-!
Owns: the exact description of a computation that may fault. `Settles` says
under which condition the computation stays inside its memory, under which
further condition it passes its own checks, and what it then returns. The rules
follow the shape of the program; a counted loop stays inside its memory when
each iteration does that the passed ones before it lead to.
-/

namespace TaosAdapter.Lib

variable {Error Value Next Acc : Type}

inductive Settles (outcome : Outcome Error Value) (Defined Passes : Prop) (value : Value) :
    Prop where
  | fault (undefined : ¬ Defined) (here : outcome = .fault)
  | error (defined : Defined) (rejected : ¬ Passes) (reason : Error)
      (here : outcome = .error reason)
  | ok (defined : Defined) (passes : Passes) (here : outcome = .ok value)

theorem settles_ok (value : Value) : Settles (.ok value : Outcome Error Value) True True value :=
  .ok trivial trivial rfl

theorem settles_read (read : Option Value) (default : Value) :
    Settles (.ofRead read : Outcome Error Value) (read.isSome = true) True (read.getD default) := by
  cases read with
  | none => exact .fault (by simp) rfl
  | some value => exact .ok rfl trivial rfl

namespace Settles

variable {outcome : Outcome Error Value} {Defined Passes Defined' Passes' : Prop}
  {value value' : Value}

theorem of_iff (settles : Settles outcome Defined Passes value) (defined : Defined ↔ Defined')
    (passes : Defined → (Passes ↔ Passes')) (same : Defined → Passes → value = value') :
    Settles outcome Defined' Passes' value' := by
  cases settles with
  | fault undefined here => exact .fault (fun holds => undefined (defined.mpr holds)) here
  | error isDefined rejected reason here =>
    exact .error (defined.mp isDefined)
      (fun holds => rejected ((passes isDefined).mpr holds)) reason here
  | ok isDefined passed here =>
    exact .ok (defined.mp isDefined) ((passes isDefined).mp passed)
      (by rw [here, same isDefined passed])

variable {continuation : Value → Outcome Error Next} {next : Next}

theorem bind (first : Settles outcome Defined Passes value)
    (second : Defined → Passes → Settles (continuation value) Defined' Passes' next) :
    Settles (outcome >>= continuation) (Defined ∧ (Passes → Defined')) (Passes ∧ Passes') next := by
  cases first with
  | fault undefined here =>
    rw [here]
    exact .fault (fun both => undefined both.1) rfl
  | error isDefined rejected reason here =>
    rw [here]
    exact .error ⟨isDefined, fun passes => absurd passes rejected⟩
      (fun both => rejected both.1) reason rfl
  | ok isDefined passed here =>
    rw [here, Outcome.ok_bind]
    exact (second isDefined passed).of_iff
      ⟨fun defined => ⟨isDefined, fun _ => defined⟩, fun both => both.2 passed⟩
      (fun _ => ⟨fun passes => ⟨passed, passes⟩, fun both => both.2⟩) (fun _ _ => rfl)

/-- After a computation without checks. -/
theorem after (first : Settles outcome Defined True value)
    (second : Defined → Settles (continuation value) Defined' Passes' next) :
    Settles (outcome >>= continuation) (Defined ∧ Defined') Passes' next :=
  (first.bind fun defined _ => second defined).of_iff (by simp) (by simp) (fun _ _ => rfl)

/-- A check that rejects. -/
theorem guard {rejects : Prop} [Decidable rejects] (reason : Error)
    (settles : ¬ rejects → Settles outcome Defined Passes value) :
    Settles (if rejects then .error reason else outcome) (¬ rejects → Defined)
      (¬ rejects ∧ Passes) value := by
  by_cases rejected : rejects
  · rw [if_pos rejected]
    exact .error (fun accepted => absurd rejected accepted) (fun both => both.1 rejected) reason rfl
  · rw [if_neg rejected]
    exact (settles rejected).of_iff ⟨fun defined _ => defined, fun defined => defined rejected⟩
      (fun _ => ⟨fun passes => ⟨rejected, passes⟩, fun both => both.2⟩) (fun _ _ => rfl)

/-- An access to an array. -/
theorem access {inside : Prop} [Decidable inside]
    (settles : inside → Settles outcome Defined Passes value) :
    Settles (if inside then outcome else .fault) (inside ∧ Defined) Passes value := by
  by_cases within : inside
  · rw [if_pos within]
    exact (settles within).of_iff ⟨fun defined => ⟨within, defined⟩, fun both => both.2⟩
      (fun _ => Iff.rfl) (fun _ _ => rfl)
  · rw [if_neg within]
    exact .fault (fun both => within both.1) rfl

variable {needed : Prop}

/-- A computation that is made only under a condition. -/
theorem when [Decidable needed] (settles : needed → Settles outcome Defined Passes value) :
    Settles (if needed then outcome else .ok value) (needed → Defined) (needed → Passes) value := by
  by_cases isNeeded : needed
  · rw [if_pos isNeeded]
    exact (settles isNeeded).of_iff ⟨fun defined _ => defined, fun defined => defined isNeeded⟩
      (fun _ => ⟨fun passes _ => passes, fun passes => passes isNeeded⟩) (fun _ _ => rfl)
  · rw [if_neg isNeeded]
    exact .ok (fun holds => absurd holds isNeeded) (fun holds => absurd holds isNeeded) rfl

/-- A value that is computed only under a condition. -/
theorem optional [Decidable needed] (settles : needed → Settles outcome Defined Passes value) :
    Settles (if needed then outcome >>= fun value => .ok (some value) else .ok none)
      (needed → Defined) (needed → Passes) (if needed then some value else none) := by
  by_cases isNeeded : needed
  · rw [if_pos isNeeded, if_pos isNeeded]
    exact ((settles isNeeded).bind fun _ _ => settles_ok (some value)).of_iff
      ⟨fun both _ => both.1, fun defined => ⟨defined isNeeded, fun _ => trivial⟩⟩
      (fun _ => ⟨fun both _ => both.1, fun passes => ⟨passes isNeeded, trivial⟩⟩) (fun _ _ => rfl)
  · rw [if_neg isNeeded, if_neg isNeeded]
    exact .ok (fun holds => absurd holds isNeeded) (fun holds => absurd holds isNeeded) rfl

theorem eq_ok (settles : Settles outcome Defined Passes value) (defined : Defined)
    (passes : Passes) : outcome = .ok value := by
  cases settles with
  | fault undefined here => exact absurd defined undefined
  | error isDefined rejected reason here => exact absurd passes rejected
  | ok isDefined passed here => exact here

end Settles

/-- `for (i = index; i < index + count; i++)`. -/
def counted (body : Nat → Acc → Outcome Error Acc) : Nat → Nat → Acc → Outcome Error Acc
  | 0, _, acc => .ok acc
  | count + 1, index, acc => do counted body count (index + 1) (← body index acc)

/-- The loop rule: the state before an iteration is a function of its index as
long as the iterations pass, and an iteration is only looked at after those
before it have passed. -/
theorem settles_counted_from {body : Nat → Acc → Outcome Error Acc} (state : Nat → Acc)
    (Defined Passes : Nat → Prop) (count idx : Nat) (iteration : ∀ i, idx ≤ i → i < idx + count →
      (∀ j, idx ≤ j → j < i → Defined j ∧ Passes j) →
        Settles (body i (state i)) (Defined i) (Passes i) (state (i + 1))) :
    Settles (counted body count idx (state idx))
      (∀ i, idx ≤ i → i < idx + count → (∀ j, idx ≤ j → j < i → Passes j) → Defined i)
      (∀ i, idx ≤ i → i < idx + count → Passes i) (state (idx + count)) := by
  induction count generalizing idx with
  | zero => exact .ok (fun i _ _ => by omega) (fun i _ _ => by omega) rfl
  | succ count ih =>
    have first := iteration idx (Nat.le_refl _) (by omega) fun j low high => by omega
    refine (first.bind fun defined passes => ih (idx + 1) fun i low high before => iteration i
      (by omega) (by omega) fun j lowJ highJ => ?_).of_iff
      ⟨?_, ?_⟩ (fun _ => ⟨?_, ?_⟩) (fun _ _ => ?_)
    · rcases Nat.eq_or_lt_of_le lowJ with rfl | above
      · exact ⟨defined, passes⟩
      · exact before j above highJ
    · rintro ⟨defined, later⟩ i low high before
      rcases Nat.eq_or_lt_of_le low with rfl | above
      · exact defined
      · exact later (before idx (Nat.le_refl _) above) i above (by omega)
          fun j lowJ highJ => before j (by omega) highJ
    · intro all
      refine ⟨all idx (Nat.le_refl _) (by omega) fun j low high => by omega, ?_⟩
      intro passes i low high before
      refine all i (by omega) (by omega) fun j lowJ highJ => ?_
      rcases Nat.eq_or_lt_of_le lowJ with rfl | above
      · exact passes
      · exact before j above highJ
    · rintro ⟨passes, later⟩ i low high
      rcases Nat.eq_or_lt_of_le low with rfl | above
      · exact passes
      · exact later i above (by omega)
    · intro all
      exact ⟨all idx (Nat.le_refl _) (by omega), fun i low high => all i (by omega) (by omega)⟩
    · rw [Nat.add_assoc, Nat.add_comm 1]

/-- The loop rule for a loop that starts at zero. -/
theorem settles_counted (body : Nat → Acc → Outcome Error Acc) (state : Nat → Acc)
    (Defined Passes : Nat → Prop) (count : Nat)
    (iteration : ∀ i < count, (∀ j < i, Defined j ∧ Passes j) →
      Settles (body i (state i)) (Defined i) (Passes i) (state (i + 1))) :
    Settles (counted body count 0 (state 0)) (∀ i < count, (∀ j < i, Passes j) → Defined i)
      (∀ i < count, Passes i) (state count) := by
  have loop := settles_counted_from state Defined Passes count 0 fun i _ high before =>
    iteration i (by omega) fun j => before j (Nat.zero_le _)
  rw [Nat.zero_add] at loop
  exact loop.of_iff
    ⟨fun all i high before => all i (Nat.zero_le _) high fun j _ => before j,
      fun all i _ high before => all i high fun j => before j (Nat.zero_le _)⟩
    (fun _ => ⟨fun all i high => all i (Nat.zero_le _) high, fun all i _ high => all i high⟩)
    (fun _ _ => rfl)

section

variable (Passes Defined : Nat → Prop) {outer inner : Nat}

/-- Pairs of an outer and an inner index are the indices of one loop. -/
theorem forall_nested_iff :
    (∀ i < outer, ∀ j < inner, Passes (i * inner + j)) ↔ ∀ k < outer * inner, Passes k := by
  constructor
  · intro all k high
    have pos : 0 < inner := Nat.pos_of_ne_zero fun zero => by simp [zero] at high
    have whole := Nat.div_add_mod' k inner
    rw [← whole]
    exact all _ (Nat.div_lt_of_lt_mul (Nat.mul_comm outer inner ▸ high)) _ (Nat.mod_lt k pos)
  · intro all i highI j highJ
    have row : (i + 1) * inner ≤ outer * inner := Nat.mul_le_mul_right inner highI
    rw [Nat.add_mul] at row
    exact all _ (by omega)

/-- What is required of an iteration that the passed ones lead to, in the two
loops and in one. -/
theorem forall_nested_before_iff : (∀ i < outer, (∀ i' < i, ∀ j < inner, Passes (i' * inner + j)) →
      ∀ j < inner, (∀ j' < j, Passes (i * inner + j')) → Defined (i * inner + j)) ↔
        ∀ k < outer * inner, (∀ k' < k, Passes k') → Defined k := by
  refine Iff.trans ?_ (forall_nested_iff (fun k => (∀ k' < k, Passes k') → Defined k))
  constructor
  · intro all i highI j highJ before
    refine all i highI ?_ j highJ fun j' highJ' => before _ (by omega)
    exact (forall_nested_iff Passes).mpr fun k high => before k (by omega)
  · intro all i highI rows j highJ cells
    refine all i highI j highJ fun k high => ?_
    by_cases above : k < i * inner
    · exact (forall_nested_iff Passes).mp rows k above
    · have cell := cells (k - i * inner) (by omega)
      rwa [Nat.add_sub_cancel' (by omega)] at cell

end

end TaosAdapter.Lib
