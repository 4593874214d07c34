/-
**Cadence.** Attempts come at arbitrary times, and one that succeeds silences the next ones for a gap.

* `admitted` — the times of the attempts that got through;
* `admitted_spaced` — two of them are a gap apart;
* `admitted_complete` — an attempt that would succeed gets through, unless the last one that did is
  less than a gap before it.
-/

import Mathlib.Data.List.Chain
import Mathlib.Tactic

namespace Transition

/-- An attempt: when it is made, and whether it succeeds if it is let through. -/
structure Attempt where
  time : ℤ
  succeeds : Bool

/-- The last time does not silence the given one. -/
def Admits (gap : ℤ) (last : Option ℤ) (time : ℤ) : Prop :=
  ∀ earlier ∈ last, earlier + gap ≤ time

instance (gap : ℤ) (last : Option ℤ) (time : ℤ) : Decidable (Admits gap last time) :=
  match last with
  | none => .isTrue nofun
  | some earlier => decidable_of_iff (earlier + gap ≤ time) (by simp [Admits])

/-- **What got through**, from the last time before. -/
def admitted (gap : ℤ) : Option ℤ → List Attempt → List ℤ
  | _, [] => []
  | last, attempt :: rest =>
      if Admits gap last attempt.time ∧ attempt.succeeds = true then
        attempt.time :: admitted gap (some attempt.time) rest
      else admitted gap last rest

/-- The last time after the attempts. -/
def lastOf (gap : ℤ) (last : Option ℤ) (attempts : List Attempt) : Option ℤ :=
  (admitted gap last attempts).getLast?.or last

theorem admitted_append (gap : ℤ) (first second : List Attempt) :
    ∀ last, admitted gap last (first ++ second) =
      admitted gap last first ++ admitted gap (lastOf gap last first) second := by
  induction first with
  | nil => exact fun _ => rfl
  | cons attempt rest ih =>
      intro last
      simp only [List.cons_append, admitted, lastOf]
      split_ifs with through
      · rw [ih, List.cons_append, List.getLast?_cons]
        congr 2
        unfold lastOf
        cases (admitted gap (some attempt.time) rest).getLast? <;> rfl
      · exact ih last

/-- **Two that got through are a gap apart.** -/
theorem admitted_spaced (gap : ℤ) (attempts : List Attempt) :
    ∀ last, (last.toList ++ admitted gap last attempts).IsChain fun early late =>
      early + gap ≤ late := by
  induction attempts with
  | nil =>
      intro last
      cases last with
      | none => exact List.isChain_nil
      | some time => exact List.isChain_singleton _
  | cons attempt rest ih =>
      intro last
      simp only [admitted]
      split_ifs with through
      · have later := ih (some attempt.time)
        cases last with
        | none => exact later
        | some time =>
            exact List.isChain_cons_cons.mpr ⟨through.1 time rfl, later⟩
      · exact ih last

/-- **Nothing else is silenced.** -/
theorem admitted_complete (gap : ℤ) (before after : List Attempt) (attempt : Attempt)
    (succeeds : attempt.succeeds = true) :
    admitted gap none (before ++ attempt :: after) =
        admitted gap none before ++ attempt.time :: admitted gap (some attempt.time) after ∨
      ∃ last ∈ (admitted gap none before).getLast?, attempt.time < last + gap := by
  rw [admitted_append]
  have same : lastOf gap none before = (admitted gap none before).getLast? := Option.or_none
  rw [same]
  by_cases admits : Admits gap (admitted gap none before).getLast? attempt.time
  · left
    rw [admitted, if_pos ⟨admits, succeeds⟩]
  · right
    unfold Admits at admits
    push Not at admits
    exact admits

end Transition
