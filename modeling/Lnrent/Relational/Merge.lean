/-
**Merging queries by key.** Rows of several queries are collected into one list, where the first row of
a key wins. A query is scanned key by key, in an order that is not fixed here.

* `Scan`, `Scan.sum_map` — the keys of a query, each once, in some order;
* `Merge`, `Merge.scan` — the list under construction, with the keys it has;
* `Merge.mem_scan`, `Merge.mem_seen_scan` — what a scan adds.
-/

import Lnrent.Relational.Table

namespace Relational

variable {κ ρ : Type} [DecidableEq κ]

/-- **The keys of a query**, in the order its rows come in. -/
structure Scan (keys : Finset κ) where
  order : List κ
  nodup : order.Nodup
  toFinset_order : order.toFinset = keys

theorem Scan.mem_order {keys : Finset κ} (scan : Scan keys) (key : κ) :
    key ∈ scan.order ↔ key ∈ keys := by
  rw [← List.mem_toFinset, scan.toFinset_order]

/-- A total over the rows of a query does not depend on their order. -/
theorem Scan.sum_map {keys : Finset κ} (scan : Scan keys) (weight : κ → ℕ) :
    (scan.order.map weight).sum = ∑ key ∈ keys, weight key := by
  rw [← List.sum_toFinset weight scan.nodup, scan.toFinset_order]

/-! ### The list -/

/-- **A list with one row for each key**, and the keys it has. -/
structure Merge (κ ρ : Type) [DecidableEq κ] where
  seen : Finset κ
  rows : List (κ × ρ)
  mem_seen : ∀ key, key ∈ seen ↔ ∃ value, (key, value) ∈ rows
  nodup : (rows.map Prod.fst).Nodup

namespace Merge

def empty : Merge κ ρ where
  seen := ∅
  rows := []
  mem_seen key := by simp
  nodup := List.nodup_nil

/-- A row is added unless its key has one. -/
def insert (merge : Merge κ ρ) (key : κ) (value : ρ) : Merge κ ρ :=
  if seen : key ∈ merge.seen then merge
  else
    { seen := Insert.insert key merge.seen
      rows := merge.rows ++ [(key, value)]
      mem_seen := fun other => by
        rw [Finset.mem_insert, merge.mem_seen]
        simp only [List.mem_append, List.mem_singleton, Prod.mk.injEq]
        constructor
        · rintro (rfl | ⟨old, member⟩)
          · exact ⟨value, .inr ⟨rfl, rfl⟩⟩
          · exact ⟨old, .inl member⟩
        · rintro ⟨old, member | ⟨rfl, -⟩⟩
          · exact .inr ⟨old, member⟩
          · exact .inl rfl
      nodup := by
        rw [List.map_append, List.nodup_append]
        refine ⟨merge.nodup, List.nodup_singleton _, fun other old new added same => ?_⟩
        have own : new = key := List.mem_singleton.mp added
        obtain ⟨⟨held, value'⟩, member, rfl⟩ := List.mem_map.mp old
        have isKey : held = key := same.trans own
        exact seen ((merge.mem_seen key).mpr ⟨value', by rw [← isKey]; exact member⟩) }

/-- A row that the query dropped adds nothing. -/
def offer (merge : Merge κ ρ) (key : κ) : Option ρ → Merge κ ρ
  | none => merge
  | some value => merge.insert key value

/-- The rows of one query. -/
def scan (merge : Merge κ ρ) (order : List κ) (row : κ → Option ρ) : Merge κ ρ :=
  order.foldl (fun merge key => merge.offer key (row key)) merge

theorem mem_offer (merge : Merge κ ρ) (key : κ) (value : Option ρ) (other : κ) (kept : ρ) :
    (other, kept) ∈ (merge.offer key value).rows ↔
      (other, kept) ∈ merge.rows ∨ other = key ∧ key ∉ merge.seen ∧ value = some kept := by
  cases value with
  | none => simp [offer]
  | some value =>
      unfold offer insert
      split_ifs with seen
      · simp [seen]
      · simp only [List.mem_append, List.mem_singleton, Prod.mk.injEq, Option.some.injEq]
        constructor
        · rintro (old | ⟨rfl, rfl⟩)
          · exact .inl old
          · exact .inr ⟨rfl, seen, rfl⟩
        · rintro (old | ⟨rfl, -, rfl⟩)
          · exact .inl old
          · exact .inr ⟨rfl, rfl⟩

theorem mem_seen_offer (merge : Merge κ ρ) (key : κ) (value : Option ρ) (other : κ) :
    other ∈ (merge.offer key value).seen ↔ other ∈ merge.seen ∨ other = key ∧ value ≠ none := by
  cases value with
  | none => simp [offer]
  | some value =>
      unfold offer insert
      split_ifs with seen
      · constructor
        · exact .inl
        · rintro (old | ⟨rfl, -⟩)
          · exact old
          · exact seen
      · rw [Finset.mem_insert, or_comm]
        simp

/-- **What a scan adds**: the rows of the query whose keys had none. -/
theorem mem_scan (row : κ → Option ρ) (other : κ) (kept : ρ) :
    ∀ (order : List κ) (merge : Merge κ ρ), (other, kept) ∈ (merge.scan order row).rows ↔
      (other, kept) ∈ merge.rows ∨ other ∉ merge.seen ∧ other ∈ order ∧ row other = some kept := by
  intro order
  induction order with
  | nil => simp [scan]
  | cons key rest ih =>
      intro merge
      show (other, kept) ∈ ((merge.offer key (row key)).scan rest row).rows ↔ _
      rw [ih, mem_offer, mem_seen_offer, List.mem_cons]
      by_cases same : other = key
      · subst same
        by_cases seen : other ∈ merge.seen
        · simp [seen]
        · cases found : row other with
          | none => simp [seen]
          | some value => simp [seen]
      · simp [same]

/-- **The keys after a scan.** -/
theorem mem_seen_scan (row : κ → Option ρ) (merge : Merge κ ρ) (order : List κ) (other : κ) :
    other ∈ (merge.scan order row).seen ↔
      other ∈ merge.seen ∨ other ∈ order ∧ row other ≠ none := by
  rw [Merge.mem_seen]
  simp only [mem_scan]
  constructor
  · rintro ⟨value, old | ⟨-, member, found⟩⟩
    · exact .inl ((merge.mem_seen other).mpr ⟨value, old⟩)
    · exact .inr ⟨member, by rw [found]; nofun⟩
  · intro known
    by_cases seen : other ∈ merge.seen
    · obtain ⟨value, old⟩ := (merge.mem_seen other).mp seen
      exact ⟨value, .inl old⟩
    · obtain ⟨member, some_⟩ := known.resolve_left seen
      obtain ⟨value, found⟩ := Option.ne_none_iff_exists'.mp some_
      exact ⟨value, .inr ⟨seen, member, found⟩⟩

end Merge

end Relational
