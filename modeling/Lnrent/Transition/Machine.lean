/-
**Runs of a labelled machine.** A machine is a start state and a total step function; what its
environment decides is part of the action. The module has the two rules every development over it
uses:

* `Machine.invariant` — what the start has and every step keeps holds after every run;
* `Machine.invariant_of_meets` — the same for the runs whose every step meets a condition;
* `Machine.holds_iff_meets` — a property that a step keeps exactly when it meets the condition.
-/

import Mathlib.Logic.Basic
import Mathlib.Tactic

namespace Transition

/-- **A machine**: where it starts and what each action does. -/
structure Machine (State Action : Type) where
  start : State
  step : State → Action → State

namespace Machine

variable {State Action : Type}

/-- The state after a list of actions. -/
def runFrom (machine : Machine State Action) : State → List Action → State
  | state, [] => state
  | state, action :: rest => machine.runFrom (machine.step state action) rest

/-- The state after a run from the start. -/
def run (machine : Machine State Action) (actions : List Action) : State :=
  machine.runFrom machine.start actions

/-- Every step of the run meets the condition in the state it is taken in. -/
def MeetsFrom (machine : Machine State Action) (condition : State → Action → Prop) :
    State → List Action → Prop
  | _, [] => True
  | state, action :: rest =>
      condition state action ∧ machine.MeetsFrom condition (machine.step state action) rest

/-- Every step of a run from the start meets the condition. -/
def Meets (machine : Machine State Action) (condition : State → Action → Prop)
    (actions : List Action) : Prop :=
  machine.MeetsFrom condition machine.start actions

instance (machine : Machine State Action) (condition : State → Action → Prop)
    [∀ state action, Decidable (condition state action)] (state : State) (actions : List Action) :
    Decidable (machine.MeetsFrom condition state actions) :=
  match actions with
  | [] => .isTrue trivial
  | action :: rest =>
      have : Decidable (machine.MeetsFrom condition (machine.step state action) rest) :=
        instDecidableMeetsFrom machine condition (machine.step state action) rest
      inferInstanceAs (Decidable (_ ∧ _))

instance (machine : Machine State Action) (condition : State → Action → Prop)
    [∀ state action, Decidable (condition state action)] (actions : List Action) :
    Decidable (machine.Meets condition actions) :=
  inferInstanceAs (Decidable (machine.MeetsFrom condition machine.start actions))

theorem runFrom_append (machine : Machine State Action) (first second : List Action) :
    ∀ state, machine.runFrom state (first ++ second) =
      machine.runFrom (machine.runFrom state first) second := by
  induction first with
  | nil => exact fun _ => rfl
  | cons action rest ih => exact fun state => ih _

theorem meetsFrom_append (machine : Machine State Action) {condition : State → Action → Prop}
    (first second : List Action) :
    ∀ state, machine.MeetsFrom condition state (first ++ second) ↔
      machine.MeetsFrom condition state first ∧
        machine.MeetsFrom condition (machine.runFrom state first) second := by
  induction first with
  | nil => exact fun _ => (iff_of_eq (true_and _)).symm
  | cons action rest ih =>
      intro state
      exact (and_congr_right fun _ => ih _).trans and_assoc.symm

theorem invariant_from (machine : Machine State Action) {condition : State → Action → Prop}
    {invariant : State → Prop}
    (keeps : ∀ state action, condition state action → invariant state →
      invariant (machine.step state action)) :
    ∀ (actions : List Action) (state : State), machine.MeetsFrom condition state actions →
      invariant state → invariant (machine.runFrom state actions) := by
  intro actions
  induction actions with
  | nil => exact fun _ _ holds => holds
  | cons action rest ih =>
      intro state meets holds
      exact ih _ meets.2 (keeps state action meets.1 holds)

/-- **The invariant rule for conditioned runs.** -/
theorem invariant_of_meets (machine : Machine State Action)
    {condition : State → Action → Prop} {invariant : State → Prop}
    (start : invariant machine.start)
    (keeps : ∀ state action, condition state action → invariant state →
      invariant (machine.step state action))
    (actions : List Action) (meets : machine.Meets condition actions) :
    invariant (machine.run actions) :=
  machine.invariant_from keeps actions machine.start meets start

/-- Two conditions are met together. -/
theorem meetsFrom_and (machine : Machine State Action) {first second : State → Action → Prop} :
    ∀ (actions : List Action) (state : State), machine.MeetsFrom first state actions →
      machine.MeetsFrom second state actions →
      machine.MeetsFrom (fun state action => first state action ∧ second state action) state
        actions := by
  intro actions
  induction actions with
  | nil => exact fun _ _ _ => trivial
  | cons action rest ih =>
      intro state one two
      exact ⟨⟨one.1, two.1⟩, ih _ one.2 two.2⟩

theorem meetsFrom_true (machine : Machine State Action) :
    ∀ (actions : List Action) (state : State),
      machine.MeetsFrom (fun _ _ => True) state actions := by
  intro actions
  induction actions with
  | nil => exact fun _ => trivial
  | cons action rest ih => exact fun state => ⟨trivial, ih _⟩

/-- **The invariant rule.** -/
theorem invariant (machine : Machine State Action) {invariant : State → Prop}
    (start : invariant machine.start)
    (keeps : ∀ state action, invariant state → invariant (machine.step state action))
    (actions : List Action) : invariant (machine.run actions) :=
  machine.invariant_of_meets start (fun state action _ => keeps state action) actions
    (machine.meetsFrom_true actions machine.start)

/-- **The rule for exact conditions**: a property that once lost is never regained, and that a step
keeps exactly when it meets the condition, holds after the runs whose every step meets it. -/
theorem holds_iff_meets (machine : Machine State Action) {condition : State → Action → Prop}
    (always property : State → Prop) (known : always machine.start)
    (keeps : ∀ state action, always state → always (machine.step state action))
    (exact : ∀ state action, always state →
      (property (machine.step state action) ↔ property state ∧ condition state action))
    (start : property machine.start) (actions : List Action) :
    property (machine.run actions) ↔ machine.Meets condition actions := by
  have general : ∀ (actions : List Action) (state : State), always state →
      (property (machine.runFrom state actions) ↔
        property state ∧ machine.MeetsFrom condition state actions) := by
    intro actions
    induction actions with
    | nil => exact fun state _ => (and_iff_left trivial).symm
    | cons action rest ih =>
        intro state holds
        refine (ih _ (keeps state action holds)).trans ?_
        rw [exact state action holds, and_assoc]
        rfl
  exact (general actions machine.start known).trans (and_iff_right start)

end Machine

end Transition
