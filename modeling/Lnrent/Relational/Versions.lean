/-
**Versioned rows.** A list of keyed rows, newest first, that never loses one: a key may carry several
rows, and its latest is the one that was inserted last. Rows are identified by a column of their own.

* `latest` — `WHERE key = … ORDER BY rowid DESC LIMIT 1`;
* `upsert` — `INSERT … ON CONFLICT(ident) DO UPDATE`: a row of that identity is replaced in its place;
* `latest_upsert_self`, `latest_upsert_other`, `mem_upsert` — the rules.
-/

import Mathlib.Data.List.Basic
import Mathlib.Tactic

set_option linter.unusedSectionVars false

namespace Relational.Versions

variable {κ ρ ι : Type} [DecidableEq κ] [DecidableEq ι]

/-- The latest row of a key. -/
def latest (rows : List (κ × ρ)) (key : κ) : Option ρ :=
  (rows.find? fun row => row.1 = key).map Prod.snd

/-- Replace the row of the same identity in its place, or insert a row. -/
def upsert (ident : ρ → ι) (rows : List (κ × ρ)) (key : κ) (value : ρ) : List (κ × ρ) :=
  if ∃ row ∈ rows, ident row.2 = ident value then
    rows.map fun row => if ident row.2 = ident value then (key, value) else row
  else (key, value) :: rows

/-! ### The latest row -/

theorem mem_of_latest {rows : List (κ × ρ)} {key : κ} {value : ρ}
    (found : latest rows key = some value) : (key, value) ∈ rows := by
  obtain ⟨⟨key', value'⟩, isFound, rfl⟩ := Option.map_eq_some_iff.mp found
  obtain rfl : key' = key := by simpa using List.find?_some isFound
  exact List.mem_of_find?_eq_some isFound

theorem latest_eq_none {rows : List (κ × ρ)} {key : κ} :
    latest rows key = none ↔ ∀ value, (key, value) ∉ rows := by
  rw [latest, Option.map_eq_none_iff, List.find?_eq_none]
  constructor
  · intro absent value member
    simpa using absent (key, value) member
  · rintro absent ⟨key', value⟩ member same
    obtain rfl : key' = key := by simpa using same
    exact absent value member

theorem exists_latest {rows : List (κ × ρ)} {key : κ} {value : ρ} (member : (key, value) ∈ rows) :
    ∃ newest, latest rows key = some newest := by
  cases found : latest rows key with
  | some newest => exact ⟨newest, rfl⟩
  | none => exact absurd member (latest_eq_none.mp found value)

@[simp]
theorem latest_cons_self (rows : List (κ × ρ)) (key : κ) (value : ρ) :
    latest ((key, value) :: rows) key = some value := by
  simp [latest]

theorem latest_cons_other (rows : List (κ × ρ)) {key other : κ} (value : ρ) (different : other ≠ key) :
    latest ((key, value) :: rows) other = latest rows other := by
  simp [latest, different.symm]

/-! ### After an upsert -/

section Upsert

variable {ident : ρ → ι} {rows : List (κ × ρ)} {key : κ} {value : ρ}

/-- **The rows after an upsert** are the new one and those of other identities. -/
theorem mem_upsert (key' : κ) (value' : ρ) :
    (key', value') ∈ upsert ident rows key value ↔
      (key', value') = (key, value) ∨ (key', value') ∈ rows ∧ ident value' ≠ ident value := by
  unfold upsert
  split_ifs with present
  · rw [List.mem_map]
    constructor
    · rintro ⟨row, member, result⟩
      split_ifs at result with same
      · exact .inl result.symm
      · subst result
        exact .inr ⟨member, same⟩
    · rintro (same | ⟨member, different⟩)
      · obtain ⟨row, member, known⟩ := present
        exact ⟨row, member, by rw [if_pos known, same]⟩
      · exact ⟨_, member, if_neg different⟩
  · rw [List.mem_cons]
    refine or_congr_right ⟨fun member => ⟨member, fun same => present ⟨_, member, same⟩⟩, And.left⟩

/-- A replacement keeps the key of the row it replaces. -/
theorem latest_replace (owned : ∀ row ∈ rows, ident row.2 = ident value → row.1 = key) (other : κ) :
    latest (rows.map fun row => if ident row.2 = ident value then (key, value) else row) other =
      (latest rows other).map fun old => if ident old = ident value then value else old := by
  induction rows with
  | nil => rfl
  | cons row rest ih =>
      have later := ih fun row member => owned row (List.mem_cons_of_mem _ member)
      by_cases same : ident row.2 = ident value
      · have here : row.1 = key := owned row List.mem_cons_self same
        by_cases asked : key = other
        · subst asked
          simp [latest, same, here]
        · simp only [latest, List.map_cons, if_pos same, List.find?_cons, here, asked, decide_false]
          exact later
      · by_cases asked : row.1 = other
        · simp [latest, same, asked]
        · simp only [latest, List.map_cons, if_neg same, List.find?_cons, asked, decide_false]
          exact later

/-- **The upserted row is the latest of its key** when it is new, or when it was the latest. -/
theorem latest_upsert_self (owned : ∀ row ∈ rows, ident row.2 = ident value → row.1 = key)
    (current : ∀ row ∈ rows, ident row.2 = ident value →
      (latest rows key).map ident = some (ident value)) :
    latest (upsert ident rows key value) key = some value := by
  unfold upsert
  split_ifs with present
  · obtain ⟨row, member, same⟩ := present
    obtain ⟨old, found, known⟩ := Option.map_eq_some_iff.mp (current row member same)
    rw [latest_replace owned, found, Option.map_some, if_pos known]
  · exact latest_cons_self rows key value

/-- **The other keys keep their latest row.** -/
theorem latest_upsert_other (owned : ∀ row ∈ rows, ident row.2 = ident value → row.1 = key) {other : κ}
    (different : other ≠ key) : latest (upsert ident rows key value) other = latest rows other := by
  unfold upsert
  split_ifs with present
  · rw [latest_replace owned]
    cases found : latest rows other with
    | none => rfl
    | some old =>
        rw [Option.map_some, if_neg]
        intro same
        exact different (owned (other, old) (mem_of_latest found) same)
  · exact latest_cons_other rows value different

end Upsert

end Relational.Versions
