import Mathlib.Logic.Relation

/-!
Owns: executable transition systems, the states reached by runs whose every
step meets a condition, the induction rule for invariants of such runs, and
the bridge from an evaluated list of labels to reachability.

A condition on runs is a relation between the state before a step and the
label of that step. `Reachable` is the case of the trivial condition.
-/

namespace TaosAdapter.Lib

/-- Initial states and an executable step: `none` means that the label is not
enabled in that state. -/
structure System (State Label : Type) where
  initial : State → Prop
  next : State → Label → Option State

namespace System

variable {State Label : Type} (system : System State Label)

/-- States reached by runs whose every step meets `condition`. -/
inductive ReachableUnder (condition : State → Label → Prop) : State → Prop where
  | start {state} (initial : system.initial state) : ReachableUnder condition state
  | step {before after label} (reached : ReachableUnder condition before)
      (met : condition before label) (stepped : system.next before label = some after) :
      ReachableUnder condition after

/-- States reached by any run. -/
def Reachable : State → Prop :=
  system.ReachableUnder fun _ _ => True

/-- One step under any label. -/
def Steps (before after : State) : Prop :=
  ∃ label, system.next before label = some after

/-- What may still happen after a state. -/
def Continues : State → State → Prop :=
  Relation.ReflTransGen system.Steps

variable {system}

/-- The induction rule of guarded runs: the invariant may use the condition of
the step it crosses. -/
theorem ReachableUnder.invariant {condition : State → Label → Prop} {Invariant : State → Prop}
    (initially : ∀ state, system.initial state → Invariant state)
    (preserved : ∀ before label after, Invariant before → condition before label →
      system.next before label = some after → Invariant after)
    {state : State} (reached : system.ReachableUnder condition state) : Invariant state := by
  induction reached with
  | start initial => exact initially _ initial
  | step _ met stepped ih =>
    exact preserved _ _ _ ih met stepped

/-- A stronger condition reaches fewer states. -/
theorem ReachableUnder.mono {strong weak : State → Label → Prop}
    (implied : ∀ state label, strong state label → weak state label)
    {state : State} (reached : system.ReachableUnder strong state) :
    system.ReachableUnder weak state := by
  induction reached with
  | start initial => exact .start initial
  | step _ met stepped ih =>
    exact .step ih (implied _ _ met) stepped

theorem ReachableUnder.reachable {condition : State → Label → Prop}
    {state : State} (reached : system.ReachableUnder condition state) : system.Reachable state :=
  reached.mono fun _ _ _ => trivial

/-- The induction rule of unrestricted runs. -/
theorem Reachable.invariant {Invariant : State → Prop}
    (initially : ∀ state, system.initial state → Invariant state)
    (preserved : ∀ before label after, Invariant before →
      system.next before label = some after → Invariant after)
    {state : State} (reached : system.Reachable state) : Invariant state :=
  ReachableUnder.invariant initially
    (fun before label after holds _ stepped =>
      preserved before label after holds stepped) reached

/-- A property kept by every step survives every continuation. -/
theorem Continues.invariant {Invariant : State → Prop}
    (preserved : ∀ before label after, Invariant before →
      system.next before label = some after → Invariant after)
    {before after : State} (continues : system.Continues before after) (holds : Invariant before) :
    Invariant after := by
  induction continues with
  | refl => exact holds
  | tail _ last ih =>
    obtain ⟨label, stepped⟩ := last
    exact preserved _ _ _ ih stepped

variable (system)

/-- Evaluate a run whose every step is checked against a decidable condition. -/
def exec (condition : State → Label → Prop) [∀ state label, Decidable (condition state label)] :
    State → List Label → Option State
  | state, [] => some state
  | state, label :: labels =>
    if condition state label then
      match system.next state label with
      | some after => exec condition after labels
      | none => none
    else none

variable {system}

theorem ReachableUnder.exec {condition : State → Label → Prop}
    [∀ state label, Decidable (condition state label)] {labels : List Label} {before after : State}
    (reached : system.ReachableUnder condition before)
    (evaluated : system.exec condition before labels = some after) :
    system.ReachableUnder condition after := by
  induction labels generalizing before with
  | nil =>
    obtain rfl : before = after := Option.some.inj evaluated
    exact reached
  | cons label labels ih =>
    rw [System.exec] at evaluated
    split at evaluated
    · rename_i met
      split at evaluated
      · rename_i middle stepped
        exact ih (reached.step met stepped) evaluated
      · cases evaluated
    · cases evaluated

variable (system)

/-- A checked run from an initial state reaches its last state. -/
theorem reachableUnder_of_exec (condition : State → Label → Prop)
    [∀ state label, Decidable (condition state label)]
    (labels : List Label) {first last : State} (initial : system.initial first)
    (evaluated : system.exec condition first labels = some last) :
    system.ReachableUnder condition last :=
  (ReachableUnder.start initial).exec evaluated

/-- A checked run whose last state has a property reaches such a state. -/
theorem exists_of_exec {condition : State → Label → Prop}
    [∀ state label, Decidable (condition state label)] (labels : List Label)
    {Property : State → Prop} [DecidablePred Property] {first : State}
    (initial : system.initial first)
    (evaluated : (system.exec condition first labels).any (fun state => Property state) = true) :
    ∃ state, system.ReachableUnder condition state ∧ Property state := by
  obtain ⟨last, ends, holds⟩ := (Option.any_eq_true _ _).mp evaluated
  exact ⟨last, system.reachableUnder_of_exec condition labels initial ends, of_decide_eq_true holds⟩

theorem reachable_of_exec (labels : List Label) {first last : State}
    (initial : system.initial first)
    (evaluated : system.exec (fun _ _ => True) first labels = some last) : system.Reachable last :=
  system.reachableUnder_of_exec _ labels initial evaluated

end System

end TaosAdapter.Lib
