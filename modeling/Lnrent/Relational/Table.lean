/-
**Finite tables.** A table is a partial map from primary keys to rows with finitely many keys. The
module fixes the statements a relational store runs on one table and the facts the developments
over it use:

* `Table.put` — insert or replace one row;
* `Table.rewrite` — one pass that updates and deletes rows, each by its own key and content;
* `Table.Any` — an existential query, decidable when its condition is;
* `Table.sum` — an aggregate, with `sum_except`, a sum without one row, the comparison `sum_le_sum`, and
  `sum_put_le` for a write of one row.
-/

import Mathlib.Algebra.BigOperators.Group.Finset.Basic
import Mathlib.Algebra.Order.BigOperators.Group.Finset
import Mathlib.Data.Finset.Max
import Mathlib.Tactic

set_option linter.unusedSectionVars false

namespace Relational

/-- **A finite table.** The keys are exactly those that carry a row. -/
structure Table (κ ρ : Type) where
  row : κ → Option ρ
  keys : Finset κ
  mem_keys : ∀ key, key ∈ keys ↔ (row key).isSome

namespace Table

variable {κ ρ : Type} [DecidableEq κ]

/-- A table is determined by its rows. -/
@[ext]
theorem ext {first second : Table κ ρ} (same : ∀ key, first.row key = second.row key) :
    first = second := by
  obtain ⟨row, keys, member⟩ := first
  obtain ⟨row', keys', member'⟩ := second
  obtain rfl : row = row' := funext same
  obtain rfl : keys = keys' := by
    ext key
    rw [member, member']
  rfl

/-! ### Statements -/

/-- The table without rows. -/
def empty : Table κ ρ where
  row _ := none
  keys := ∅
  mem_keys key := by simp

@[simp]
theorem empty_row (key : κ) : (empty : Table κ ρ).row key = none := rfl

/-- Insert a row, or replace the row of that key. -/
def put (table : Table κ ρ) (key : κ) (value : ρ) : Table κ ρ where
  row other := if other = key then some value else table.row other
  keys := insert key table.keys
  mem_keys other := by
    by_cases same : other = key
    · simp [same]
    · simp [same, table.mem_keys]

theorem put_row (table : Table κ ρ) (key other : κ) (value : ρ) :
    (table.put key value).row other = if other = key then some value else table.row other := rfl

@[simp]
theorem put_row_self (table : Table κ ρ) (key : κ) (value : ρ) :
    (table.put key value).row key = some value := by
  simp [put_row]

@[simp]
theorem put_row_other (table : Table κ ρ) {key other : κ} (value : ρ) (different : other ≠ key) :
    (table.put key value).row other = table.row other := by
  simp [put_row, different]

/-- One pass over the table: each row is replaced, or deleted where the answer is `none`. -/
def rewrite (table : Table κ ρ) (change : κ → ρ → Option ρ) : Table κ ρ where
  row key := (table.row key).bind (change key)
  keys := table.keys.filter fun key => ((table.row key).bind (change key)).isSome
  mem_keys key := by
    rw [Finset.mem_filter, table.mem_keys]
    cases table.row key <;> simp

@[simp]
theorem rewrite_row (table : Table κ ρ) (change : κ → ρ → Option ρ) (key : κ) :
    (table.rewrite change).row key = (table.row key).bind (change key) := rfl

/-- `UPDATE … WHERE`: the rows that meet the condition are replaced. -/
def update (table : Table κ ρ) (condition : κ → ρ → Prop)
    [∀ key row, Decidable (condition key row)] (change : ρ → ρ) : Table κ ρ :=
  table.rewrite fun key row => some (if condition key row then change row else row)

@[simp]
theorem update_row (table : Table κ ρ) (condition : κ → ρ → Prop)
    [∀ key row, Decidable (condition key row)] (change : ρ → ρ) (key : κ) :
    (table.update condition change).row key =
      (table.row key).map fun row => if condition key row then change row else row := by
  unfold update
  rw [rewrite_row]
  cases table.row key <;> rfl

/-- `DELETE … WHERE`: the rows that meet the condition are removed. -/
def delete (table : Table κ ρ) (condition : κ → ρ → Prop)
    [∀ key row, Decidable (condition key row)] : Table κ ρ :=
  table.rewrite fun key row => if condition key row then none else some row

theorem delete_row_eq_some (table : Table κ ρ) (condition : κ → ρ → Prop)
    [∀ key row, Decidable (condition key row)] (key : κ) (value : ρ) :
    (table.delete condition).row key = some value ↔
      table.row key = some value ∧ ¬ condition key value := by
  unfold delete
  rw [rewrite_row]
  cases found : table.row key with
  | none => simp
  | some row =>
      by_cases holds : condition key row
      · simp only [Option.bind_some, if_pos holds, Option.some.injEq, reduceCtorEq, false_iff,
          not_and, not_not]
        rintro rfl
        exact holds
      · simp only [Option.bind_some, if_neg holds, Option.some.injEq]
        constructor
        · rintro rfl
          exact ⟨rfl, holds⟩
        · exact fun pair => pair.1

theorem delete_row_eq_none (table : Table κ ρ) (condition : κ → ρ → Prop)
    [∀ key row, Decidable (condition key row)] (key : κ) :
    (table.delete condition).row key = none ↔
      ∀ value, table.row key = some value → condition key value := by
  unfold delete
  rw [rewrite_row]
  cases found : table.row key with
  | none => simp
  | some row =>
      by_cases holds : condition key row
      · simp [holds]
      · simp [holds]

/-- Deleting one key. -/
theorem delete_row_self (table : Table κ ρ) (key : κ) :
    (table.delete fun other _ => other = key).row key = none :=
  (table.delete_row_eq_none _ key).mpr fun _ _ => rfl

theorem delete_row_other (table : Table κ ρ) {key other : κ} (different : other ≠ key) :
    (table.delete fun found _ => found = key).row other = table.row other :=
  Option.ext fun row => (table.delete_row_eq_some _ other row).trans (and_iff_left different)

/-- Replace one row, or remove it. -/
def assign (table : Table κ ρ) (key : κ) : Option ρ → Table κ ρ
  | some value => table.put key value
  | none => table.delete fun other _ => other = key

@[simp]
theorem assign_row_self (table : Table κ ρ) (key : κ) (value : Option ρ) :
    (table.assign key value).row key = value := by
  cases value with
  | none => exact table.delete_row_self key
  | some value => exact table.put_row_self key value

theorem assign_row_other (table : Table κ ρ) {key other : κ} (value : Option ρ)
    (different : other ≠ key) : (table.assign key value).row other = table.row other := by
  cases value with
  | none => exact table.delete_row_other different
  | some value => exact table.put_row_other value different

/-! ### Queries -/

/-- `EXISTS`: some row meets the condition. -/
def Any (table : Table κ ρ) (condition : κ → ρ → Prop) : Prop :=
  ∃ key value, table.row key = some value ∧ condition key value

instance (table : Table κ ρ) (condition : κ → ρ → Prop)
    [∀ key row, Decidable (condition key row)] : Decidable (table.Any condition) :=
  decidable_of_iff
    (∃ key ∈ table.keys, (table.row key).any (fun value => decide (condition key value)) = true) (by
      constructor
      · rintro ⟨key, -, holds⟩
        cases found : table.row key with
        | none => simp [found] at holds
        | some value =>
            refine ⟨key, value, found, ?_⟩
            simpa [found] using holds
      · rintro ⟨key, value, found, holds⟩
        refine ⟨key, (table.mem_keys key).mpr (by simp [found]), ?_⟩
        simpa [found] using holds)

/-! ### Aggregates -/

section Aggregate

variable {M : Type}

/-- `SUM`: the total weight of the rows. -/
def sum [AddCommMonoid M] (table : Table κ ρ) (weight : κ → ρ → M) : M :=
  ∑ key ∈ table.keys, (table.row key).elim 0 (weight key)

variable [AddCommMonoid M]

/-- The total may be taken over any set that contains the keys. -/
theorem sum_eq_of_subset (table : Table κ ρ) (weight : κ → ρ → M) {wide : Finset κ}
    (inside : table.keys ⊆ wide) :
    table.sum weight = ∑ key ∈ wide, (table.row key).elim 0 (weight key) := by
  unfold sum
  refine Finset.sum_subset inside fun key _ outside => ?_
  have absent : table.row key = none := by
    rw [table.mem_keys] at outside
    simpa using outside
  rw [absent]
  rfl

@[simp]
theorem sum_empty (weight : κ → ρ → M) : (empty : Table κ ρ).sum weight = 0 := rfl

/-- Two tables whose keys carry the same weights have the same total. -/
theorem sum_congr {ρ' : Type} {first : Table κ ρ} {second : Table κ ρ'} {weight : κ → ρ → M}
    {weight' : κ → ρ' → M}
    (same : ∀ key, (first.row key).elim 0 (weight key) = (second.row key).elim 0 (weight' key)) :
    first.sum weight = second.sum weight' := by
  have left : first.keys ⊆ first.keys ∪ second.keys := Finset.subset_union_left
  have right : second.keys ⊆ first.keys ∪ second.keys := Finset.subset_union_right
  rw [first.sum_eq_of_subset weight left, second.sum_eq_of_subset weight' right]
  exact Finset.sum_congr rfl fun key _ => same key

/-- The total is that of every other key, and the weight of this one. -/
theorem sum_except (table : Table κ ρ) (weight : κ → ρ → M) (key : κ) :
    (table.sum fun other row => if other = key then 0 else weight other row) +
      (table.row key).elim 0 (weight key) = table.sum weight := by
  have wide : table.keys ⊆ insert key table.keys := Finset.subset_insert key table.keys
  rw [table.sum_eq_of_subset _ wide, table.sum_eq_of_subset weight wide,
    ← Finset.add_sum_erase _ _ (Finset.mem_insert_self key table.keys),
    ← Finset.add_sum_erase (insert key table.keys) (fun other => (table.row other).elim 0 _)
      (Finset.mem_insert_self key table.keys)]
  have rest : ∑ other ∈ (insert key table.keys).erase key,
        (table.row other).elim 0 (fun row => if other = key then 0 else weight other row) =
      ∑ other ∈ (insert key table.keys).erase key, (table.row other).elim 0 (weight other) :=
    Finset.sum_congr rfl fun other member => by
      simp only [if_neg (Finset.ne_of_mem_erase member)]
  have own : (table.row key).elim 0 (fun row => if key = key then 0 else weight key row) = 0 := by
    cases table.row key with
    | none => rfl
    | some row => exact if_pos rfl
  rw [rest, own, zero_add, add_comm]

variable [PartialOrder M] [IsOrderedAddMonoid M]

/-- A table that carries no more weight under any key has no larger total. -/
theorem sum_le_sum {ρ' : Type} {first : Table κ ρ} {second : Table κ ρ'} {weight : κ → ρ → M}
    {weight' : κ → ρ' → M}
    (least : ∀ key, (first.row key).elim 0 (weight key) ≤ (second.row key).elim 0 (weight' key)) :
    first.sum weight ≤ second.sum weight' := by
  have left : first.keys ⊆ first.keys ∪ second.keys := Finset.subset_union_left
  have right : second.keys ⊆ first.keys ∪ second.keys := Finset.subset_union_right
  rw [first.sum_eq_of_subset weight left, second.sum_eq_of_subset weight' right]
  exact Finset.sum_le_sum fun key _ => least key

/-- Writing one row adds at most what the row weighs more than the one it replaces. -/
theorem sum_put_le (table : Table κ ρ) (weight : κ → ρ → M) {key : κ} {value : ρ} {more : M}
    (least : weight key value ≤ (table.row key).elim 0 (weight key) + more) :
    (table.put key value).sum weight ≤ table.sum weight + more := by
  have rest : ((table.put key value).sum fun other row => if other = key then 0 else weight other row) =
      table.sum fun other row => if other = key then 0 else weight other row := by
    refine sum_congr fun other => ?_
    by_cases own : other = key
    · subst own
      rw [put_row_self, Option.elim_some, if_pos rfl]
      cases table.row other with
      | none => rfl
      | some row => exact (if_pos rfl).symm
    · rw [put_row_other _ _ own]
  rw [← sum_except _ weight key, ← sum_except table weight key, rest, put_row_self, Option.elim_some,
    add_assoc]
  exact add_le_add_right least _

end Aggregate

end Table

end Relational
