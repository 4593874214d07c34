/-
**Time spent.** A history is the list of the stretches of time a system went through, each with a
label for how it went through it. The module counts the time since a given instant that the stretches
of one kind take up.

* `Stretch.after`, `spent` — what the stretches take up; `Until` — none reaches past an instant;
* `spent_nonneg`, `spent_eq_zero` — the bounds a count starts from.
-/

import Mathlib.Tactic

namespace Transition

/-- A stretch of time with its label. -/
structure Stretch (L : Type) where
  start : ℤ
  stop : ℤ
  label : L

variable {L : Type}

/-- The part of a stretch that lies after an instant. -/
def Stretch.after (stretch : Stretch L) (since : ℤ) : ℤ :=
  max 0 (stretch.stop - max stretch.start since)

/-- **The time since an instant** that the counted stretches take up. -/
def spent (counts : L → Prop) [DecidablePred counts] (since : ℤ) : List (Stretch L) → ℤ
  | [] => 0
  | stretch :: earlier =>
      (if counts stretch.label then stretch.after since else 0) + spent counts since earlier

/-- No stretch reaches past the instant. -/
def Until (instant : ℤ) (history : List (Stretch L)) : Prop :=
  ∀ stretch ∈ history, stretch.stop ≤ instant

theorem until_nil (instant : ℤ) : Until instant ([] : List (Stretch L)) := by
  simp [Until]

theorem until_cons {instant : ℤ} {stretch : Stretch L} {earlier : List (Stretch L)} :
    Until instant (stretch :: earlier) ↔ stretch.stop ≤ instant ∧ Until instant earlier := by
  simp [Until]

theorem Until.mono {instant later : ℤ} {history : List (Stretch L)} (before : Until instant history)
    (least : instant ≤ later) : Until later history :=
  fun stretch member => (before stretch member).trans least

section Count

variable (counts : L → Prop) [DecidablePred counts]

theorem spent_nonneg (since : ℤ) : ∀ history : List (Stretch L), 0 ≤ spent counts since history := by
  intro history
  induction history with
  | nil => exact le_rfl
  | cons stretch earlier ih =>
      unfold spent
      have part : 0 ≤ if counts stretch.label then stretch.after since else 0 := by
        split_ifs
        · exact le_max_left _ _
        · exact le_rfl
      exact add_nonneg part ih

/-- Nothing is counted since an instant that no stretch reaches past. -/
theorem spent_eq_zero {since : ℤ} :
    ∀ {history : List (Stretch L)}, Until since history → spent counts since history = 0 := by
  intro history
  induction history with
  | nil => exact fun _ => rfl
  | cons stretch earlier ih =>
      intro before
      obtain ⟨least, rest⟩ := until_cons.mp before
      have part : stretch.after since = 0 := by
        unfold Stretch.after
        omega
      unfold spent
      rw [part, ih rest, ite_self, add_zero]

end Count

end Transition
