/-
**The greatest number that fits.** Two searches below a bound: halving, for a condition that holds of
everything below what it holds of; and step by step downwards, for a price that may be anything.

* `bisect`, `bisect_isGreatest` — halving, with the upper middle;
* `descend`, `descend_ok`, `descend_answers` — downwards, where the price may also fail.
-/

import Mathlib.Order.Bounds.Basic
import Mathlib.Tactic

namespace Search

/-! ### Halving -/

/-- The upper middle of two bounds decides which half is left. -/
def bisect (fits : ℕ → Bool) (lo hi : ℕ) : ℕ :=
  if lo < hi then
    if fits (hi - (hi - lo) / 2) then bisect fits (hi - (hi - lo) / 2) hi
    else bisect fits lo (hi - (hi - lo) / 2 - 1)
  else lo
termination_by hi - lo

/-- **Halving finds the greatest number that fits**, when what fits is closed downwards. -/
theorem bisect_isGreatest {fits : ℕ → Bool}
    (closed : ∀ small large, small ≤ large → fits large = true → fits small = true) (lo hi : ℕ)
    (ordered : lo ≤ hi) (low : fits lo = true) :
    IsGreatest {number | number ≤ hi ∧ fits number = true} (bisect fits lo hi) := by
  induction lo, hi using bisect.induct fits with
  | case1 lo hi apart fitting ih =>
      rw [bisect, if_pos apart, if_pos fitting]
      exact ih (Nat.sub_le _ _) fitting
  | case2 lo hi apart exceeding ih =>
      rw [bisect, if_pos apart, if_neg exceeding]
      obtain ⟨⟨below, fitting⟩, greatest⟩ := ih (by omega) low
      refine ⟨⟨by omega, fitting⟩, fun number ⟨bounded, fits_⟩ => greatest ⟨?_, fits_⟩⟩
      by_contra above
      exact exceeding (closed _ number (by omega) fits_)
  | case3 lo hi met =>
      rw [bisect, if_neg met]
      exact ⟨⟨ordered, low⟩, fun number ⟨bounded, _⟩ => by omega⟩

/-! ### Downwards -/

section Descend

variable {Problem : Type} {price : ℕ → Except Problem ℕ} {cap : ℕ}

/-- From a number down to the first one whose price fits the cap; nothing is below zero. -/
def descend (price : ℕ → Except Problem ℕ) (cap : ℕ) : ℕ → Except Problem ℕ
  | 0 =>
      match price 0 with
      | .error problem => .error problem
      | .ok _ => .ok 0
  | number + 1 =>
      match price (number + 1) with
      | .error problem => .error problem
      | .ok cost => if cost ≤ cap then .ok (number + 1) else descend price cap number

/-- The number found, and the prices of those that were passed over. -/
theorem descend_ok (start : ℕ) {found : ℕ} (done : descend price cap start = .ok found) :
    found ≤ start ∧ (found = 0 ∨ ∃ cost, price found = .ok cost ∧ cost ≤ cap) ∧
      ∀ number, found < number → number ≤ start → ∃ cost, price number = .ok cost ∧ cap < cost := by
  induction start with
  | zero =>
      unfold descend at done
      split at done
      · cases done
      · cases done
        exact ⟨le_rfl, .inl rfl, fun number above below => absurd above (by omega)⟩
  | succ start ih =>
      unfold descend at done
      split at done
      · cases done
      · rename_i cost priced
        by_cases fits : cost ≤ cap
        · rw [if_pos fits] at done
          cases done
          exact ⟨le_rfl, .inr ⟨cost, priced, fits⟩, fun number above below => absurd above (by omega)⟩
        · rw [if_neg fits] at done
          obtain ⟨below, fitting, passed⟩ := ih done
          refine ⟨by omega, fitting, fun number above bounded => ?_⟩
          rcases Nat.lt_or_ge start number with last | earlier
          · have same : number = start + 1 := by omega
            rw [same]
            exact ⟨cost, priced, by omega⟩
          · exact passed number above earlier

/-- Where every price is answered, a number is found. -/
theorem descend_answers (start : ℕ) (answers : ∀ number ≤ start, ∃ cost, price number = .ok cost) :
    ∃ found, descend price cap start = .ok found := by
  induction start with
  | zero =>
      obtain ⟨cost, priced⟩ := answers 0 le_rfl
      exact ⟨0, by rw [descend, priced]⟩
  | succ start ih =>
      obtain ⟨cost, priced⟩ := answers (start + 1) le_rfl
      unfold descend
      rw [priced]
      by_cases fits : cost ≤ cap
      · exact ⟨start + 1, if_pos fits⟩
      · obtain ⟨found, rest⟩ := ih fun number below => answers number (by omega)
        exact ⟨found, (if_neg fits).trans rest⟩

end Descend

end Search
