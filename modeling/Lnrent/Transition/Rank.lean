/-
**Ranked runs.** A rank that no step of a run raises, and that every marked step lowers, bounds the
marked steps the run can take before its rank is gone.

* `Machine.AtLeast` — a run takes at least so many marked steps;
* `Machine.rank_gone` — **the rule**: a run with as many marked steps as its start has rank comes
  through a state of rank zero.
-/

import Lnrent.Transition.Machine

namespace Transition.Machine

variable {State Action : Type}

/-- At least so many steps of the run are marked. -/
def AtLeast (machine : Machine State Action) (mark : State → Action → Prop) :
    ℕ → State → List Action → Prop
  | count, _, [] => count = 0
  | count, state, action :: rest =>
      machine.AtLeast mark count (machine.step state action) rest ∨
        mark state action ∧ machine.AtLeast mark (count - 1) (machine.step state action) rest

instance (machine : Machine State Action) (mark : State → Action → Prop)
    [∀ state action, Decidable (mark state action)] (count : ℕ) (state : State)
    (actions : List Action) : Decidable (machine.AtLeast mark count state actions) :=
  match actions with
  | [] => inferInstanceAs (Decidable (count = 0))
  | action :: rest =>
      have : Decidable (machine.AtLeast mark count (machine.step state action) rest) :=
        instDecidableAtLeast machine mark count (machine.step state action) rest
      have : Decidable (machine.AtLeast mark (count - 1) (machine.step state action) rest) :=
        instDecidableAtLeast machine mark (count - 1) (machine.step state action) rest
      inferInstanceAs (Decidable (_ ∨ _ ∧ _))

variable {machine : Machine State Action} {mark condition : State → Action → Prop}

/-- A smaller count is reached sooner. -/
theorem AtLeast.mono {fewer count : ℕ} (least : fewer ≤ count) {actions : List Action} {state : State}
    (marked : machine.AtLeast mark count state actions) :
    machine.AtLeast mark fewer state actions := by
  induction actions generalizing fewer count state with
  | nil => exact Nat.le_zero.mp (least.trans (le_of_eq marked))
  | cons action rest ih =>
      rcases marked with later | ⟨first, later⟩
      · exact .inl (ih least later)
      · exact .inr ⟨first, ih (Nat.sub_le_sub_right least 1) later⟩

/-- **The rank rule.** While it is not gone, no step raises the rank, and a marked step lowers it. -/
theorem rank_gone (invariant : State → Prop) (rank : State → ℕ)
    (keeps : ∀ state action, condition state action → invariant state → rank state ≠ 0 →
      invariant (machine.step state action))
    (level : ∀ state action, condition state action → invariant state → rank state ≠ 0 →
      rank (machine.step state action) ≤ rank state)
    (falls : ∀ state action, condition state action → invariant state → rank state ≠ 0 →
      mark state action → rank (machine.step state action) < rank state) :
    ∀ (actions : List Action) (state : State), machine.MeetsFrom condition state actions →
      invariant state → machine.AtLeast mark (rank state) state actions →
      ∃ first rest, actions = first ++ rest ∧ rank (machine.runFrom state first) = 0 ∧
        invariant (machine.runFrom state first) := by
  intro actions
  induction actions with
  | nil => exact fun state _ holds marked => ⟨[], [], rfl, marked, holds⟩
  | cons action rest ih =>
      intro state meets holds marked
      by_cases gone : rank state = 0
      · exact ⟨[], action :: rest, rfl, gone, holds⟩
      · obtain ⟨now, later⟩ := meets
        have next : machine.AtLeast mark (rank (machine.step state action)) (machine.step state action)
            rest := by
          rcases marked with marked | ⟨first, marked⟩
          · exact marked.mono (level state action now holds gone)
          · exact marked.mono (Nat.le_sub_one_of_lt (falls state action now holds gone first))
        obtain ⟨first, last, split, zero⟩ := ih _ later (keeps state action now holds gone) next
        exact ⟨action :: first, last, by rw [split, List.cons_append], zero⟩

end Transition.Machine
