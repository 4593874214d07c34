/-
**The first value of each key** of a list, beside keys that were seen before.

* `firsts` — the values that are first of their key, in the order of the list;
* `firsts_nodup`, `firsts_represents` — each key once, and every key of the list;
* `firsts_leads` — in a sorted list they are the least of their key.
-/

import Mathlib.Data.List.Basic
import Mathlib.Tactic

namespace Relational

variable {κ β : Type} [DecidableEq κ]

/-- **The values that are first of their key.** -/
def firsts (key : β → κ) : List κ → List β → List β
  | _, [] => []
  | seen, value :: rest =>
      if key value ∈ seen then firsts key seen rest
      else value :: firsts key (key value :: seen) rest

section Firsts

variable {key : β → κ}

theorem firsts_sublist (list : List β) : ∀ seen, (firsts key seen list).Sublist list := by
  induction list with
  | nil => exact fun _ => .slnil
  | cons value rest ih =>
      intro seen
      unfold firsts
      split_ifs
      · exact (ih seen).cons value
      · exact (ih _).cons_cons value

/-- None of them was seen. -/
theorem firsts_fresh (list : List β) : ∀ seen, ∀ value ∈ firsts key seen list, key value ∉ seen := by
  induction list with
  | nil => exact fun _ _ member => absurd member List.not_mem_nil
  | cons first rest ih =>
      intro seen value member
      unfold firsts at member
      split_ifs at member with known
      · exact ih seen value member
      · rcases List.mem_cons.mp member with rfl | later
        · exact known
        · exact fun old => ih _ value later (List.mem_cons_of_mem _ old)

/-- **Each key stands once.** -/
theorem firsts_nodup (list : List β) : ∀ seen, ((firsts key seen list).map key).Nodup := by
  induction list with
  | nil => exact fun _ => List.nodup_nil
  | cons first rest ih =>
      intro seen
      unfold firsts
      split_ifs
      · exact ih seen
      · refine List.nodup_cons.mpr ⟨fun member => ?_, ih _⟩
        obtain ⟨other, later, same⟩ := List.mem_map.mp member
        exact firsts_fresh rest _ other later (same ▸ List.mem_cons_self)

/-- **Every key stands**, or was seen. -/
theorem firsts_represents (list : List β) : ∀ seen, ∀ value ∈ list,
    key value ∈ seen ∨ ∃ first ∈ firsts key seen list, key first = key value := by
  induction list with
  | nil => exact fun _ _ member => absurd member List.not_mem_nil
  | cons first rest ih =>
      intro seen value member
      unfold firsts
      split_ifs with known
      · rcases List.mem_cons.mp member with rfl | later
        · exact .inl known
        · exact ih seen value later
      · rcases List.mem_cons.mp member with rfl | later
        · exact .inr ⟨value, List.mem_cons_self, rfl⟩
        · rcases ih (key first :: seen) value later with old | ⟨other, found, same⟩
          · rcases List.mem_cons.mp old with same | old
            · exact .inr ⟨first, List.mem_cons_self, same.symm⟩
            · exact .inl old
          · exact .inr ⟨other, List.mem_cons_of_mem _ found, same⟩

/-- **In a sorted list each is the least of its key.** -/
theorem firsts_leads {least : β → β → Prop} (refl : ∀ value, least value value) (list : List β) :
    ∀ seen, list.Pairwise least → ∀ first ∈ firsts key seen list, ∀ value ∈ list,
      key value = key first → least first value := by
  induction list with
  | nil => exact fun _ _ _ member => absurd member List.not_mem_nil
  | cons head rest ih =>
      intro seen sorted first member value listed same
      obtain ⟨before, sorted⟩ := List.pairwise_cons.mp sorted
      unfold firsts at member
      split_ifs at member with known
      · rcases List.mem_cons.mp listed with rfl | later
        · exact absurd (same ▸ known) (firsts_fresh rest seen first member)
        · exact ih seen sorted first member value later same
      · rcases List.mem_cons.mp member with rfl | chosen
        · rcases List.mem_cons.mp listed with rfl | later
          · exact refl _
          · exact before value later
        · rcases List.mem_cons.mp listed with rfl | later
          · exact absurd (same ▸ List.mem_cons_self) (firsts_fresh rest _ first chosen)
          · exact ih _ sorted first chosen value later same

end Firsts

end Relational
