/-
**Rosters.** Tasks that are only ever added, each known by its place in the list: what one entry's
change and one new entry do to the others and to a count over all.

* `roster_set`, `roster_append` — an entry of the new list comes from the old one, or is the new one;
* `countP_roster_set` — the count moves by the changed entry alone.
-/

import Mathlib.Data.List.Basic
import Mathlib.Tactic

namespace Transition

variable {Entry : Type} {entries : List Entry} {id other : ℕ} {old new found : Entry}

/-- The entries after one was changed. -/
theorem roster_set (at_ : (entries.set id new)[other]? = some found) :
    other = id ∧ found = new ∨ other ≠ id ∧ entries[other]? = some found := by
  rw [List.getElem?_set] at at_
  by_cases same : id = other
  · rw [if_pos same] at at_
    split_ifs at at_
    exact .inl ⟨same.symm, (Option.some.inj at_).symm⟩
  · rw [if_neg same] at at_
    exact .inr ⟨fun is => same is.symm, at_⟩

/-- The entries after one was added. -/
theorem roster_append (at_ : (entries ++ [new])[other]? = some found) :
    entries[other]? = some found ∨ other = entries.length ∧ found = new := by
  rcases Nat.lt_or_ge other entries.length with below | above
  · rw [List.getElem?_append_left below] at at_
    exact .inl at_
  · rw [List.getElem?_append_right above, List.getElem?_singleton] at at_
    split_ifs at at_ with zero
    exact .inr ⟨by omega, (Option.some.inj at_).symm⟩

theorem roster_lt (at_ : entries[id]? = some old) : id < entries.length :=
  (List.getElem?_eq_some_iff.mp at_).1

/-- The old entries, after one was added. -/
theorem roster_append_old (at_ : entries[id]? = some old) :
    (entries ++ [new])[id]? = some old :=
  (List.getElem?_append_left (roster_lt at_)).trans at_

/-- The changed entry. -/
theorem roster_set_self (at_ : entries[id]? = some old) :
    (entries.set id new)[id]? = some new :=
  List.getElem?_set_self (roster_lt at_)

/-- The other entries. -/
theorem roster_set_other (different : other ≠ id) :
    (entries.set id new)[other]? = entries[other]? :=
  List.getElem?_set_ne different.symm

/-- **A count after one entry was changed.** -/
theorem countP_roster_set (counted : Entry → Bool) (new : Entry) (at_ : entries[id]? = some old) :
    (entries.set id new).countP counted + (if counted old then 1 else 0) =
      entries.countP counted + (if counted new then 1 else 0) := by
  obtain ⟨below, is⟩ := List.getElem?_eq_some_iff.mp at_
  have among : (if counted old then 1 else 0) ≤ entries.countP counted := by
    split_ifs with marked
    · exact List.countP_pos_iff.mpr ⟨old, List.mem_of_getElem? at_, marked⟩
    · exact Nat.zero_le _
  rw [List.countP_set below, is]
  omega

end Transition
