/-
**Edge-triggered watching.** A watch sees one tick after the other. In a stretch of dark ticks it
announces the tick the stretch began with, once, at the first tick that confirms it.

* `Watch`, `watch` — the loop, with what it remembers of the stretch it is in;
* `alertOf` — what a whole stretch is worth;
* `watch_eq` — **the loop announces exactly what the maximal dark stretches are worth.**
-/

import Mathlib.Data.List.Basic
import Mathlib.Tactic

namespace Transition

/-- **A watch** over ticks: which are dark, the time of each, and which confirm a stretch that began at
a given time. -/
structure Watch (τ : Type) where
  dark : τ → Bool
  time : τ → ℤ
  confirms : ℤ → τ → Bool

namespace Watch

variable {τ : Type} (watching : Watch τ)

/-- The stretch a watch is in: when it began, and whether it was announced. -/
abbrev Stretching := Option (ℤ × Bool)

/-- **The loop**: the beginnings it announces. -/
def watch : Stretching → List τ → List ℤ
  | _, [] => []
  | stretch, tick :: rest =>
      if watching.dark tick then
        let onset := (stretch.map Prod.fst).getD (watching.time tick)
        let fired := (stretch.map Prod.snd).getD false
        if fired = false ∧ watching.confirms onset tick = true then
          onset :: watch (some (onset, true)) rest
        else watch (some (onset, fired)) rest
      else watch none rest

/-- **What a stretch is worth**: its beginning, if one of its ticks confirms it. -/
def alertOf (stretch : List τ) : Option ℤ :=
  stretch.head?.bind fun first =>
    if stretch.any (watching.confirms (watching.time first)) then some (watching.time first) else none

/-- What the watch remembers after a stretch. -/
def remembered (stretch : List τ) : Stretching :=
  stretch.head?.map fun first =>
    (watching.time first, stretch.any (watching.confirms (watching.time first)))

/-- What a remembered stretch was announced as. -/
def announcedAs (stretch : Stretching) : Option ℤ :=
  stretch.bind fun pair => if pair.2 = true then some pair.1 else none

theorem alertOf_eq (stretch : List τ) :
    watching.alertOf stretch = announcedAs (watching.remembered stretch) := by
  unfold alertOf announcedAs remembered
  cases stretch <;> rfl

/-- A stretch that goes on. -/
theorem remembered_snoc (stretch : List τ) (tick : τ) :
    watching.remembered (stretch ++ [tick]) =
      let onset := ((watching.remembered stretch).map Prod.fst).getD (watching.time tick)
      let fired := ((watching.remembered stretch).map Prod.snd).getD false
      some (onset, fired || watching.confirms onset tick) := by
  unfold remembered
  cases stretch with
  | nil => simp
  | cons first later => simp [List.any_append, Bool.or_assoc]

theorem watch_prepend (ticks : List τ) :
    ∀ earlier : List τ,
      (List.splitOnPPrepend (fun tick => !watching.dark tick) ticks earlier).filterMap
          watching.alertOf =
        (announcedAs (watching.remembered earlier.reverse)).toList ++
          watching.watch (watching.remembered earlier.reverse) ticks := by
  induction ticks with
  | nil =>
      intro earlier
      rw [List.splitOnPPrepend_nil, watch, List.append_nil, List.filterMap_cons, alertOf_eq]
      cases announcedAs (watching.remembered earlier.reverse) <;> rfl
  | cons tick rest ih =>
      intro earlier
      cases dark : watching.dark tick with
      | false =>
          rw [List.splitOnPPrepend_cons_pos (by simp [dark]), List.filterMap_cons,
            ← List.splitOnPPrepend_nil_right, ih, alertOf_eq]
          simp only [watch, dark, Bool.false_eq_true, if_false]
          cases announcedAs (watching.remembered earlier.reverse) <;> rfl
      | true =>
          rw [List.splitOnPPrepend_cons_neg (by simp [dark]), ih, List.reverse_cons,
            remembered_snoc]
          simp only [watch, dark, if_true]
          cases watching.remembered earlier.reverse with
          | none =>
              cases confirmed : watching.confirms (watching.time tick) tick <;>
                simp [announcedAs, confirmed]
          | some pair =>
              obtain ⟨onset, fired⟩ := pair
              cases fired <;> cases confirmed : watching.confirms onset tick <;>
                simp [announcedAs, confirmed]

/-- **The loop announces exactly what the maximal dark stretches are worth**, in their order. -/
theorem watch_eq (ticks : List τ) :
    watching.watch none ticks =
      (ticks.splitOnP fun tick => !watching.dark tick).filterMap watching.alertOf :=
  (watching.watch_prepend ticks []).symm

end Watch

end Transition
