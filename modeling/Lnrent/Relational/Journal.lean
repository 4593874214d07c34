/-
**Append-only journals with an autoincrement key.** A journal is a table keyed by sequence numbers
together with the last number handed out; deleting rows never lowers that number, so a later row
always carries a larger one than every row before it.
-/

import Lnrent.Relational.Table

namespace Relational

/-- **A journal.** No row lies past the last sequence number handed out. -/
structure Journal (ε : Type) where
  rows : Table ℕ ε
  last : ℕ
  bounded : ∀ key ∈ rows.keys, key ≤ last

namespace Journal

variable {ε : Type}

/-- The journal that never held a row. -/
def empty : Journal ε where
  rows := Table.empty
  last := 0
  bounded := by simp [Table.empty]

theorem row_eq_none_of_last_lt (journal : Journal ε) {key : ℕ} (past : journal.last < key) :
    journal.rows.row key = none := by
  by_contra present
  have member : key ∈ journal.rows.keys :=
    (journal.rows.mem_keys key).mpr (Option.isSome_iff_ne_none.mpr present)
  have least := journal.bounded key member
  omega

theorem le_last (journal : Journal ε) {key : ℕ} {event : ε}
    (found : journal.rows.row key = some event) : key ≤ journal.last :=
  journal.bounded key ((journal.rows.mem_keys key).mpr (by simp [found]))

/-- Append one row under the next sequence number. -/
def append (journal : Journal ε) (event : ε) : Journal ε where
  rows := journal.rows.put (journal.last + 1) event
  last := journal.last + 1
  bounded key member := by
    rcases Finset.mem_insert.mp member with rfl | old
    · exact le_rfl
    · exact (journal.bounded key old).trans (Nat.le_succ _)

@[simp]
theorem append_last (journal : Journal ε) (event : ε) :
    (journal.append event).last = journal.last + 1 := rfl

theorem append_row (journal : Journal ε) (event : ε) (key : ℕ) :
    (journal.append event).rows.row key =
      if key = journal.last + 1 then some event else journal.rows.row key := rfl

/-- A row of the extended journal is the new one or an old one. -/
theorem append_row_eq_some (journal : Journal ε) (event other : ε) (key : ℕ) :
    (journal.append event).rows.row key = some other ↔
      (key = journal.last + 1 ∧ other = event) ∨ journal.rows.row key = some other := by
  rw [append_row]
  by_cases new : key = journal.last + 1
  · subst new
    rw [if_pos rfl, journal.row_eq_none_of_last_lt (Nat.lt_succ_self _)]
    simp [eq_comm]
  · rw [if_neg new]
    simp [new]

/-- Every old row survives an append. -/
theorem append_row_of_some (journal : Journal ε) (event : ε) {key : ℕ} {other : ε}
    (found : journal.rows.row key = some other) :
    (journal.append event).rows.row key = some other :=
  (journal.append_row_eq_some event other key).mpr (.inr found)

/-- `DELETE … WHERE` on the journal; the sequence number stays. -/
def delete (journal : Journal ε) (condition : ℕ → ε → Prop)
    [∀ key row, Decidable (condition key row)] : Journal ε where
  rows := journal.rows.delete condition
  last := journal.last
  bounded key member := journal.bounded key (Finset.mem_of_mem_filter key member)

/-- `UPDATE … WHERE` on the journal. -/
def update (journal : Journal ε) (condition : ℕ → ε → Prop)
    [∀ key row, Decidable (condition key row)] (change : ε → ε) : Journal ε where
  rows := journal.rows.update condition change
  last := journal.last
  bounded key member := journal.bounded key (Finset.mem_of_mem_filter key member)

theorem update_row (journal : Journal ε) (condition : ℕ → ε → Prop)
    [∀ key row, Decidable (condition key row)] (change : ε → ε) (key : ℕ) :
    (journal.update condition change).rows.row key =
      (journal.rows.row key).map fun row => if condition key row then change row else row :=
  journal.rows.update_row condition change key

@[simp]
theorem delete_last (journal : Journal ε) (condition : ℕ → ε → Prop)
    [∀ key row, Decidable (condition key row)] : (journal.delete condition).last = journal.last :=
  rfl

@[simp]
theorem delete_rows (journal : Journal ε) (condition : ℕ → ε → Prop)
    [∀ key row, Decidable (condition key row)] :
    (journal.delete condition).rows = journal.rows.delete condition :=
  rfl

end Journal

/-! ### Reading a journal entry by entry -/

section Reads

variable {α β : Type} {first second : α → Option β}

/-- A read that finds whatever another one finds is no shorter. -/
theorem length_filterMap_le :
    ∀ {entries : List α},
      (∀ entry ∈ entries, ∀ value, first entry = some value → second entry = some value) →
      (entries.filterMap first).length ≤ (entries.filterMap second).length := by
  intro entries
  induction entries with
  | nil => exact fun _ => le_rfl
  | cons entry rest ih =>
      intro carried
      have least := ih fun other member => carried other (List.mem_cons_of_mem _ member)
      cases found : first entry with
      | some value =>
          rw [List.filterMap_cons_some found,
            List.filterMap_cons_some (carried entry List.mem_cons_self value found)]
          exact Nat.succ_le_succ least
      | none =>
          rw [List.filterMap_cons_none found]
          cases found' : second entry with
          | none => rwa [List.filterMap_cons_none found']
          | some value =>
              rw [List.filterMap_cons_some found']
              exact least.trans (Nat.le_succ _)

/-- **Two reads of one list**, of which the second finds whatever the first does, have the same
result exactly when they agree on every entry. -/
theorem filterMap_eq_iff :
    ∀ {entries : List α},
      (∀ entry ∈ entries, ∀ value, first entry = some value → second entry = some value) →
      (entries.filterMap first = entries.filterMap second ↔
        ∀ entry ∈ entries, first entry = second entry) := by
  intro entries
  induction entries with
  | nil => simp
  | cons entry rest ih =>
      intro carried
      have restCarried : ∀ other ∈ rest, ∀ value, first other = some value →
          second other = some value :=
        fun other member => carried other (List.mem_cons_of_mem _ member)
      refine ⟨fun same => ?_, fun same => List.filterMap_congr same⟩
      cases found : first entry with
      | some value =>
          have found' := carried entry List.mem_cons_self value found
          rw [List.filterMap_cons_some found, List.filterMap_cons_some found'] at same
          have tail := (ih restCarried).mp (List.cons.inj same).2
          intro other member
          rcases List.mem_cons.mp member with rfl | old
          · rw [found, found']
          · exact tail other old
      | none =>
          cases found' : second entry with
          | none =>
              rw [List.filterMap_cons_none found, List.filterMap_cons_none found'] at same
              have tail := (ih restCarried).mp same
              intro other member
              rcases List.mem_cons.mp member with rfl | old
              · rw [found, found']
              · exact tail other old
          | some value =>
              -- the second read is longer then
              rw [List.filterMap_cons_none found, List.filterMap_cons_some found'] at same
              have length := congrArg List.length same
              have least := length_filterMap_le restCarried
              rw [List.length_cons] at length
              omega

end Reads

end Relational
