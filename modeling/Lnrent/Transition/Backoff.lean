/-
**Capped backoff.** Something is started again and again, each time after a delay that doubles up to a
cap, and that is set back to its base after a start that held for as long as the cap.

* `Paced` — the delay before the next start, and the times of the starts so far;
* `Paced.apart` — **the rate**: once the doubled base reaches the cap, so many starts in a row take at
  least the cap.
-/

import Mathlib.Data.List.Chain
import Mathlib.Tactic

namespace Transition

/-- **Starts under capped backoff**, the newest first, with the delay before the next one. -/
inductive Paced (base cap : ℕ) : ℕ → List ℕ → Prop where
  | none : Paced base cap base []
  | first (start : ℕ) : Paced base cap base [start]
  /-- The delay that was used is the one that had grown, or the base after a start that held. -/
  | next {delay used start last : ℕ} {earlier : List ℕ} (paced : Paced base cap delay (last :: earlier))
      (reset : used = delay ∨ used = base ∧ last + cap ≤ start) (waited : last + used ≤ start) :
      Paced base cap (min (used * 2) cap) (start :: last :: earlier)

variable {base cap delay start earlier : ℕ} {starts : List ℕ}

namespace Paced

/-- The delay never falls below the base, unless the cap is smaller. -/
theorem le_delay (paced : Paced base cap delay starts) : min base cap ≤ delay := by
  induction paced with
  | none | first => exact min_le_left _ _
  | next _ reset _ ih =>
      refine le_min ?_ (min_le_right _ _)
      rcases reset with rfl | ⟨rfl, -⟩
      · exact ih.trans (Nat.le_mul_of_pos_right _ two_pos)
      · exact (min_le_left _ _).trans (Nat.le_mul_of_pos_right _ two_pos)

/-- The earlier starts were paced as well. -/
theorem tail (paced : Paced base cap delay (start :: starts)) : ∃ delay, Paced base cap delay starts := by
  cases paced with
  | first => exact ⟨base, .none⟩
  | @next delay _ _ _ _ paced => exact ⟨delay, paced⟩

/-- No start is later than the newest one. -/
theorem newest (paced : Paced base cap delay (start :: starts)) {index : ℕ}
    (found : (start :: starts)[index]? = some earlier) : earlier ≤ start := by
  induction index generalizing start starts delay with
  | zero => exact (Option.some.inj found).ge
  | succ index ih =>
      cases paced with
      | first => simp at found
      | next paced _ waited => exact (ih paced found).trans ((Nat.le_add_right _ _).trans waited)

/-- **The delay grows**: after so many starts it is the base doubled as often, unless one of them
held. -/
theorem grows (paced : Paced base cap delay (start :: starts)) {index : ℕ}
    (found : (start :: starts)[index]? = some earlier) :
    earlier + cap ≤ start ∨ min (base * 2 ^ index) cap ≤ delay := by
  induction index generalizing start starts delay with
  | zero =>
      right
      simpa only [pow_zero, mul_one] using paced.le_delay
  | succ index ih =>
      cases paced with
      | first => simp at found
      | @next delay used _ last _ paced reset waited =>
          have through : last ≤ start := (Nat.le_add_right _ _).trans waited
          rcases ih paced found with held | grown
          · exact .inl (held.trans through)
          · rcases reset with rfl | ⟨-, held⟩
            · right
              refine le_min ?_ (min_le_right _ _)
              calc min (base * 2 ^ (index + 1)) cap
                  ≤ min (base * 2 ^ index) cap * 2 := by
                    rw [pow_succ, ← mul_assoc]
                    omega
                _ ≤ used * 2 := Nat.mul_le_mul_right 2 grown
            · exact .inl ((Nat.add_le_add_right (paced.newest found) cap).trans held)

/-- **The rate of the starts.** -/
theorem apart (paced : Paced base cap delay starts) {doublings : ℕ} (reached : cap ≤ base * 2 ^ doublings)
    {index : ℕ} (found : starts[index]? = some start)
    (before : starts[index + (doublings + 1)]? = some earlier) : earlier + cap ≤ start := by
  induction index generalizing starts delay with
  | zero =>
      cases paced with
      | none | first => simp at before
      | @next delay used newest last _ paced reset waited =>
          obtain rfl := Option.some.inj found
          rw [zero_add, List.getElem?_cons_succ] at before
          have order : earlier ≤ last := paced.newest before
          have through : last ≤ newest := (Nat.le_add_right _ _).trans waited
          rcases paced.grows before with held | grown
          · exact held.trans through
          · rcases reset with rfl | ⟨-, held⟩
            · rw [min_eq_right reached] at grown
              exact (Nat.add_le_add order grown).trans waited
            · exact (Nat.add_le_add_right order cap).trans held
  | succ index ih =>
      cases paced with
      | none | first => simp at found
      | next paced =>
          rw [Nat.succ_add, List.getElem?_cons_succ] at before
          exact ih paced found before

end Paced

end Transition
