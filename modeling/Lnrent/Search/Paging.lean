/-
**Paging through a finite set from its newest element on.**

* `Newest` — an answer that holds as many of a set's newest elements as a limit allows;
* `chunks` — a list in pieces of a fixed size, the last one shorter.
-/

import Mathlib.Data.Finset.Card
import Mathlib.Tactic

namespace Search

/-! ### The newest elements -/

section Newest

variable {α : Type} {time : α → ℕ} {limit : ℕ} {from_ : Finset α} {answer : List α}

/-- **The newest elements of a set**, up to a limit; which of two of one time is free. -/
structure Newest (time : α → ℕ) (limit : ℕ) (from_ : Finset α) (answer : List α) : Prop where
  nodup : answer.Nodup
  subset : ∀ one ∈ answer, one ∈ from_
  length : answer.length = min limit from_.card
  newest : ∀ one ∈ answer, ∀ other ∈ from_, time one < time other → other ∈ answer

/-- An answer below the limit is everything. -/
theorem Newest.all [DecidableEq α] (newest : Newest time limit from_ answer)
    (short : answer.length < limit) : ∀ one ∈ from_, one ∈ answer := by
  have card : answer.toFinset.card = answer.length := List.toFinset_card_of_nodup newest.nodup
  have same : answer.toFinset = from_ := by
    refine Finset.eq_of_subset_of_card_le (fun one member => ?_) ?_
    · exact newest.subset one (List.mem_toFinset.mp member)
    · have length := newest.length
      omega
  intro one member
  rw [← same] at member
  exact List.mem_toFinset.mp member

/-- An answer is everything exactly if the limit allows it. -/
theorem Newest.all_iff [DecidableEq α] (newest : Newest time limit from_ answer) :
    (∀ one ∈ from_, one ∈ answer) ↔ from_.card ≤ limit := by
  have card : answer.toFinset.card = answer.length := List.toFinset_card_of_nodup newest.nodup
  have length := newest.length
  constructor
  · intro all
    have below : from_.card ≤ answer.toFinset.card :=
      Finset.card_le_card fun one member => List.mem_toFinset.mpr (all one member)
    omega
  · intro fits one member
    have same : answer.toFinset = from_ := by
      refine Finset.eq_of_subset_of_card_le (fun one member => ?_) (by omega)
      exact newest.subset one (List.mem_toFinset.mp member)
    rw [← same] at member
    exact List.mem_toFinset.mp member

/-- The first of a list from the newest on. -/
theorem newest_take [DecidableEq α] {list : List α} (nodup : list.Nodup)
    (sorted : list.Pairwise fun one other => time other ≤ time one) (limit : ℕ) :
    Newest time limit list.toFinset (list.take limit) where
  nodup := nodup.sublist (List.take_sublist _ _)
  subset one member := List.mem_toFinset.mpr (List.mem_of_mem_take member)
  length := by rw [List.length_take, List.toFinset_card_of_nodup nodup]
  newest one member other here newer := by
    have split : other ∈ list.take limit ++ list.drop limit := by
      rw [List.take_append_drop]
      exact List.mem_toFinset.mp here
    rcases List.mem_append.mp split with taken | dropped
    · exact taken
    · rw [← List.take_append_drop limit list] at sorted
      have older := (List.pairwise_append.mp sorted).2.2 one member other dropped
      omega

end Newest

/-! ### Pieces -/

section Chunks

variable {α : Type}

/-- At most so many pieces of a list. -/
def chunksFrom (size : ℕ) : ℕ → List α → List (List α)
  | 0, _ => []
  | _ + 1, [] => []
  | fuel + 1, one :: rest =>
      (one :: rest).take size :: chunksFrom size fuel ((one :: rest).drop size)

/-- **The pieces of a list.** -/
def chunks (size : ℕ) (list : List α) : List (List α) := chunksFrom size list.length list

theorem flatten_chunksFrom {size : ℕ} (positive : 0 < size) (fuel : ℕ) :
    ∀ list : List α, list.length ≤ fuel → (chunksFrom size fuel list).flatten = list := by
  induction fuel with
  | zero =>
      intro list short
      rw [List.length_eq_zero_iff.mp (Nat.le_zero.mp short)]
      rfl
  | succ fuel ih =>
      intro list short
      cases list with
      | nil => rfl
      | cons one rest =>
          rw [chunksFrom, List.flatten_cons, ih, List.take_append_drop]
          rw [List.length_drop]
          omega

/-- The pieces together are the list. -/
theorem flatten_chunks {size : ℕ} (positive : 0 < size) (list : List α) :
    (chunks size list).flatten = list :=
  flatten_chunksFrom positive list.length list le_rfl

theorem length_le_of_mem_chunksFrom (size fuel : ℕ) :
    ∀ list : List α, ∀ chunk ∈ chunksFrom size fuel list, chunk.length ≤ min size list.length := by
  induction fuel with
  | zero => exact fun list chunk member => absurd member List.not_mem_nil
  | succ fuel ih =>
      intro list chunk member
      cases list with
      | nil => exact absurd member List.not_mem_nil
      | cons one rest =>
          rcases List.mem_cons.mp member with rfl | later
          · rw [List.length_take]
          · have below := ih _ chunk later
            rw [List.length_drop] at below
            omega

/-- No piece is longer than the size, or than the list. -/
theorem length_le_of_mem_chunks {size : ℕ} {list chunk : List α} (member : chunk ∈ chunks size list) :
    chunk.length ≤ min size list.length :=
  length_le_of_mem_chunksFrom size list.length list chunk member

/-- The first piece is as long as can be. -/
theorem head_chunks (size : ℕ) {list : List α} (some_ : list ≠ []) :
    ∃ rest, chunks size list = list.take size :: rest := by
  cases list with
  | nil => exact absurd rfl some_
  | cons one rest => exact ⟨_, rfl⟩

end Chunks

end Search
