/-
**Trails.** The rows of a journal that satisfy a condition, oldest first.

* `Journal.select` — the trail, and how an append extends it;
* `select_delete_suffix` — a delete that keeps, with every selected row, all later selected ones,
  cuts the trail at the front;
* `chain_carries` — what a link of a chain carries on, all of the chain has.
-/

import Lnrent.Relational.Journal

namespace Relational

/-! ### Lists -/

section Lists

variable {α β : Type} {first second : α → Option β}

/-- A second read that only skips entries, and none behind an entry it found, reads a suffix. -/
theorem filterMap_suffix :
    ∀ {entries : List α},
      (∀ entry ∈ entries, ∀ value, first entry = some value → second entry = some value) →
      (entries.Pairwise fun early late => ∀ value, first early = some value →
        first late = second late) →
      entries.filterMap first <:+ entries.filterMap second := by
  intro entries
  induction entries with
  | nil => exact fun _ _ => List.suffix_rfl
  | cons entry rest ih =>
      intro carried closed
      obtain ⟨head, tail⟩ := List.pairwise_cons.mp closed
      have restSuffix := ih (fun other member => carried other (List.mem_cons_of_mem _ member)) tail
      cases found : first entry with
      | some value =>
          have same : rest.filterMap first = rest.filterMap second :=
            List.filterMap_congr fun late member => head late member value found
          rw [List.filterMap_cons_some found,
            List.filterMap_cons_some (carried entry List.mem_cons_self value found), same]
      | none =>
          rw [List.filterMap_cons_none found]
          refine restSuffix.trans ?_
          cases found' : second entry with
          | none =>
              rw [List.filterMap_cons_none found']
          | some value =>
              rw [List.filterMap_cons_some found']
              exact List.suffix_cons _ _

/-- **What a link carries on**, beside a condition on the rest, the whole rest of a chain has. -/
theorem chain_carries {link : α → α → Prop} {holds beside : α → Prop}
    (carries : ∀ early late, link early late → holds early → beside late → holds late) :
    ∀ {rest : List α} {start : α}, List.IsChain link (start :: rest) → holds start →
      (∀ entry ∈ rest, beside entry) → ∀ entry ∈ rest, holds entry := by
  intro rest
  induction rest with
  | nil => exact fun _ _ _ entry member => absurd member List.not_mem_nil
  | cons entry rest ih =>
      intro start chain known condition other member
      obtain ⟨linked, chain⟩ := List.isChain_cons_cons.mp chain
      have next := carries start entry linked known (condition entry List.mem_cons_self)
      rcases List.mem_cons.mp member with rfl | later
      · exact next
      · exact ih chain next (fun other member => condition other (List.mem_cons_of_mem _ member))
          other later

end Lists

/-! ### Selected rows -/

namespace Journal

variable {ε : Type} (condition : ε → Prop) [DecidablePred condition]

/-- The row under a key, if it satisfies the condition. -/
def selected (journal : Journal ε) (key : ℕ) : Option ε :=
  (journal.rows.row key).filter fun row => decide (condition row)

/-- **The trail**: the rows that satisfy the condition, oldest first. -/
def select (journal : Journal ε) : List ε :=
  (List.range (journal.last + 1)).filterMap (journal.selected condition)

variable {condition}

theorem selected_eq_some {journal : Journal ε} {key : ℕ} {row : ε} :
    journal.selected condition key = some row ↔ journal.rows.row key = some row ∧ condition row := by
  unfold selected
  rw [Option.filter_eq_some_iff, decide_eq_true_iff]

theorem mem_select {journal : Journal ε} {row : ε} :
    row ∈ journal.select condition ↔ ∃ key, journal.rows.row key = some row ∧ condition row := by
  unfold select
  simp only [List.mem_filterMap, List.mem_range, selected_eq_some]
  constructor
  · rintro ⟨key, -, found⟩
    exact ⟨key, found⟩
  · rintro ⟨key, found, holds⟩
    exact ⟨key, Nat.lt_succ_of_le (journal.le_last found), found, holds⟩

/-- An append extends the trail by the new row, if that satisfies the condition. -/
theorem select_append (journal : Journal ε) (row : ε) :
    (journal.append row).select condition =
      journal.select condition ++ if condition row then [row] else [] := by
  unfold select
  rw [append_last, List.range_succ, List.filterMap_append]
  congr 1
  · refine List.filterMap_congr fun key member => ?_
    have upper := List.mem_range.mp member
    unfold selected
    rw [append_row, if_neg (by omega)]
  · have new : (journal.append row).selected condition (journal.last + 1) =
        if condition row then some row else none := by
      unfold selected
      rw [append_row, if_pos rfl]
      by_cases holds : condition row
      · rw [if_pos holds, Option.filter_some_pos (by simpa using holds)]
      · rw [if_neg holds, Option.filter_some_neg (by simpa using holds)]
    by_cases holds : condition row
    · rw [if_pos holds] at new ⊢
      rw [List.filterMap_cons_some new, List.filterMap_nil]
    · rw [if_neg holds] at new ⊢
      rw [List.filterMap_cons_none new, List.filterMap_nil]

/-- **A selected row in its trail**: behind it stand the selected rows with larger keys. -/
theorem select_split {journal : Journal ε} {key : ℕ} {row : ε}
    (found : journal.rows.row key = some row) (holds : condition row) :
    ∃ before after, journal.select condition = before ++ row :: after ∧
      ∀ other, other ∈ after ↔
        ∃ later, key < later ∧ journal.rows.row later = some other ∧ condition other := by
  have bounded := journal.le_last found
  have cut : List.range (journal.last + 1) =
      List.range key ++ key :: List.range' (key + 1) (journal.last - key) := by
    rw [List.range_eq_range', List.range_eq_range', ← List.range'_succ,
      show journal.last + 1 = key + (journal.last - key + 1) by omega, ← List.range'_append_1,
      Nat.zero_add]
  refine ⟨(List.range key).filterMap (journal.selected condition),
    (List.range' (key + 1) (journal.last - key)).filterMap (journal.selected condition), ?_, ?_⟩
  · unfold select
    rw [cut, List.filterMap_append,
      List.filterMap_cons_some (selected_eq_some.mpr ⟨found, holds⟩)]
  · intro other
    simp only [List.mem_filterMap, List.mem_range'_1, selected_eq_some]
    constructor
    · rintro ⟨later, ⟨least, -⟩, found'⟩
      exact ⟨later, least, found'⟩
    · rintro ⟨later, least, found', holds'⟩
      have bounded' := journal.le_last found'
      exact ⟨later, ⟨least, by omega⟩, found', holds'⟩

/-- **A delete that cuts at the front**: with a selected row it keeps all later selected ones. -/
theorem select_delete_suffix (journal : Journal ε) (gone : ℕ → ε → Prop)
    [∀ key row, Decidable (gone key row)]
    (closed : ∀ early late row other, early < late → journal.rows.row early = some row →
      condition row → ¬ gone early row → journal.rows.row late = some other → condition other →
      ¬ gone late other) :
    (journal.delete gone).select condition <:+ journal.select condition := by
  have kept : ∀ key row, (journal.delete gone).selected condition key = some row ↔
      (journal.rows.row key = some row ∧ ¬ gone key row) ∧ condition row := by
    intro key row
    rw [selected_eq_some, delete_rows, Table.delete_row_eq_some]
  unfold select
  rw [delete_last]
  refine filterMap_suffix (fun key _ row found => ?_) ?_
  · obtain ⟨⟨found, -⟩, holds⟩ := (kept key row).mp found
    exact selected_eq_some.mpr ⟨found, holds⟩
  · refine List.pairwise_lt_range.imp fun {early late} before row found => ?_
    obtain ⟨⟨found, stays⟩, holds⟩ := (kept early row).mp found
    refine Option.ext fun other => ?_
    rw [kept, selected_eq_some]
    refine ⟨fun survives => ⟨survives.1.1, survives.2⟩, fun ⟨found', holds'⟩ => ?_⟩
    exact ⟨⟨found', closed early late row other before found holds stays found' holds'⟩, holds'⟩

end Journal

end Relational
