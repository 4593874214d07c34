/-
**Chains kept by their links.** A list of distinct keys is stored as a first and a last key and, for
every key, the one before and the one after it; nothing else holds the list.

* `Links`, `Links.unlink`, `Links.append` — the pointers, and the two operations, which repair
  whichever of the four ends they touch;
* `Chained` — **the pointers are those of the list**, in both directions;
* `Chained.unlink`, `Chained.append` — the operations take a key out of the list and put one at its
  end;
* `recent` — the last distinct keys of a history, and how one more access changes them.
-/

import Mathlib.Data.List.Dedup
import Mathlib.Data.List.DropRight
import Mathlib.Tactic

set_option linter.unusedSectionVars false

namespace Recency

variable {κ : Type} [DecidableEq κ]

/-! ### Links -/

/-- The pointers of a chain. -/
structure Links (κ : Type) where
  head : Option κ
  tail : Option κ
  prev : κ → Option κ
  next : κ → Option κ

namespace Links

/-- Take a key out: its neighbours, or the ends, are joined, and its own pointers cleared. -/
def unlink (links : Links κ) (key : κ) : Links κ where
  head := if links.prev key = none ∧ links.head = some key then links.next key else links.head
  tail := if links.next key = none ∧ links.tail = some key then links.prev key else links.tail
  prev other :=
    if other = key then none
    else if links.next key = some other then links.prev key
    else links.prev other
  next other :=
    if other = key then none
    else if links.prev key = some other then links.next key
    else links.next other

/-- Put a key at the end. -/
def append (links : Links κ) (key : κ) : Links κ where
  head := if links.tail = none then some key else links.head
  tail := some key
  prev other := if other = key then links.tail else links.prev other
  next other :=
    if other = key then none
    else if links.tail = some other then some key
    else links.next other

end Links

/-! ### Chains -/

/-- **The pointers are those of the list.** -/
structure Chained (chain : List κ) (links : Links κ) : Prop where
  nodup : chain.Nodup
  head : links.head = chain.head?
  tail : links.tail = chain.getLast?
  around : ∀ before key after, chain = before ++ key :: after →
    links.prev key = before.getLast? ∧ links.next key = after.head?

theorem Chained.empty {links : Links κ} (head : links.head = none) (tail : links.tail = none) :
    Chained [] links where
  nodup := List.nodup_nil
  head := head
  tail := tail
  around before key after split := by simp at split

variable {chain before after : List κ} {links : Links κ} {key : κ}

/-- Only the pointers of the keys in the list count. -/
theorem Chained.congr {other : Links κ} (chained : Chained chain links)
    (head : other.head = links.head) (tail : other.tail = links.tail)
    (around : ∀ key ∈ chain, other.prev key = links.prev key ∧ other.next key = links.next key) :
    Chained chain other where
  nodup := chained.nodup
  head := head.trans chained.head
  tail := tail.trans chained.tail
  around before key after split := by
    have member : key ∈ chain := by simp [split]
    obtain ⟨prev, next⟩ := around key member
    rw [prev, next]
    exact chained.around before key after split

theorem Chained.ends (chained : Chained chain links) (split : chain = before ++ key :: after) :
    (links.prev key = none ∧ links.head = some key ↔ before = []) ∧
      (links.next key = none ∧ links.tail = some key ↔ after = []) := by
  obtain ⟨prev, next⟩ := chained.around before key after split
  rw [prev, next, chained.head, chained.tail, split]
  refine ⟨⟨fun here => List.getLast?_eq_none_iff.mp here.1, ?_⟩,
    ⟨fun here => List.head?_eq_none_iff.mp here.1, ?_⟩⟩
  · rintro rfl
    exact ⟨rfl, rfl⟩
  · rintro rfl
    exact ⟨rfl, by simp⟩

/-- Nothing comes after the last key. -/
theorem Chained.last (chained : Chained chain links) (split : chain = before ++ key :: after)
    (last : links.tail = some key) : after = [] := by
  by_contra nonempty
  have found : after.getLast? = some key := by
    rw [← last, chained.tail, split, List.append_cons, List.getLast?_append_of_ne_nil _ nonempty]
  have nodup : (before ++ key :: after).Nodup := split ▸ chained.nodup
  exact (List.nodup_cons.mp (List.nodup_append.mp nodup).2.1).1 (List.mem_of_getLast? found)

/-- A key of two lists put together is in one of them. -/
theorem cut_append {earlier later : List κ} {other : κ}
    (cut : before ++ after = earlier ++ other :: later) :
    (∃ middle, earlier = before ++ middle ∧ after = middle ++ other :: later) ∨
      ∃ middle, before = earlier ++ other :: middle ∧ later = middle ++ after := by
  rcases List.append_eq_append_iff.mp cut with ⟨middle, left, right⟩ | ⟨middle, left, right⟩
  · exact .inl ⟨middle, left, right⟩
  · cases middle with
    | nil => exact .inl ⟨[], by simpa using left.symm, by simpa using right.symm⟩
    | cons head middle =>
        obtain ⟨rfl, rfl⟩ := List.cons.inj right
        exact .inr ⟨middle, left, rfl⟩

/-- What comes before a key, when the keys before `middle` change. -/
theorem before_of_head {earlier middle later gone : List κ} {other : κ}
    (nodup : (middle ++ other :: later).Nodup) :
    (if (middle ++ other :: later).head? = some other then earlier.getLast?
      else (gone ++ middle).getLast?) = (earlier ++ middle).getLast? := by
  cases middle with
  | nil => simp
  | cons head middle =>
      have apart : head ≠ other := by
        rintro rfl
        exact (List.nodup_cons.mp nodup).1 (by simp)
      simp [apart, List.getLast?_append, List.getLast?_cons]

/-- What comes after a key, when the keys after `middle` change. -/
theorem after_of_last {earlier middle gone rest : List κ} {other : κ}
    (nodup : (earlier ++ other :: middle).Nodup) :
    (if (earlier ++ other :: middle).getLast? = some other then rest.head?
      else (middle ++ gone).head?) = (middle ++ rest).head? := by
  cases middle using List.reverseRecOn with
  | nil => simp
  | append_singleton middle last =>
      have apart : last ≠ other := by
        rintro rfl
        exact (List.nodup_cons.mp (List.nodup_append.mp nodup).2.1).1 (by simp)
      simp [apart, List.getLast?_append, List.getLast?_cons, List.head?_append]

/-- **Taking a key out.** -/
theorem Chained.unlink (chained : Chained chain links) (split : chain = before ++ key :: after) :
    Chained (before ++ after) (links.unlink key) := by
  obtain ⟨prev, next⟩ := chained.around before key after split
  obtain ⟨first, last⟩ := chained.ends split
  have nodup : (before ++ key :: after).Nodup := split ▸ chained.nodup
  obtain ⟨distinct, rest, apart⟩ := List.nodup_append.mp nodup
  obtain ⟨fresh, distinct'⟩ := List.nodup_cons.mp rest
  have disjoint : ∀ one ∈ before, ∀ two ∈ after, one ≠ two := fun one left two right =>
    apart one left two (List.mem_cons_of_mem _ right)
  constructor
  · exact List.nodup_append.mpr ⟨distinct, distinct', disjoint⟩
  · show (if _ then links.next key else links.head) = _
    by_cases none : before = []
    · rw [if_pos (first.mpr none), next, none, List.nil_append]
    · rw [if_neg (mt first.mp none), chained.head, split, List.head?_append_of_ne_nil _ none,
        List.head?_append_of_ne_nil _ none]
  · show (if _ then links.prev key else links.tail) = _
    by_cases none : after = []
    · rw [if_pos (last.mpr none), prev, none, List.append_nil]
    · rw [if_neg (mt last.mp none), chained.tail, split, List.getLast?_append_of_ne_nil _ none,
        List.append_cons, List.getLast?_append_of_ne_nil _ none]
  · intro earlier other later cut
    show (if other = key then none else if links.next key = some other then links.prev key
        else links.prev other) = _ ∧
      (if other = key then none else if links.prev key = some other then links.next key
        else links.next other) = _
    rcases cut_append cut with ⟨middle, rfl, rfl⟩ | ⟨middle, rfl, rfl⟩
    · obtain ⟨before', after'⟩ := chained.around (before ++ key :: middle) other later
        (by rw [split, List.append_assoc, List.cons_append])
      have among : other ∈ middle ++ other :: later := by simp
      have unequal : other ≠ key := fun same => fresh (same ▸ among)
      have unbefore : before.getLast? ≠ some other := fun found =>
        disjoint other (List.mem_of_getLast? found) other among rfl
      rw [if_neg unequal, if_neg unequal, prev, if_neg unbefore, next, before', after']
      refine ⟨?_, rfl⟩
      rw [List.append_cons before, before_of_head distinct']
    · obtain ⟨before', after'⟩ := chained.around earlier other (middle ++ key :: after)
        (by rw [split, List.append_assoc, List.cons_append])
      have among : other ∈ earlier ++ other :: middle := by simp
      have unequal : other ≠ key := apart other among key List.mem_cons_self
      have unafter : after.head? ≠ some other := fun found =>
        disjoint other among other (List.mem_of_head? found) rfl
      rw [if_neg unequal, if_neg unequal, prev, next, if_neg unafter, before', after']
      exact ⟨rfl, after_of_last distinct⟩

/-- **Putting a key at the end.** -/
theorem Chained.append (chained : Chained chain links) (fresh : key ∉ chain) :
    Chained (chain ++ [key]) (links.append key) := by
  have nodup : (chain ++ [key]).Nodup :=
    List.nodup_append.mpr ⟨chained.nodup, List.nodup_singleton key, by
      rintro one left two right rfl
      exact fresh (List.mem_singleton.mp right ▸ left)⟩
  constructor
  · exact nodup
  · show (if links.tail = none then some key else links.head) = _
    rw [chained.tail, chained.head]
    cases chain with
    | nil => rfl
    | cons head rest => simp
  · show some key = _
    simp
  · intro earlier other later cut
    show (if other = key then links.tail else links.prev other) = _ ∧
      (if other = key then none else if links.tail = some other then some key
        else links.next other) = _
    rcases cut_append cut with ⟨middle, rfl, same⟩ | ⟨middle, rfl, rfl⟩
    · have nil : middle = [] := by
        cases middle with
        | nil => rfl
        | cons head middle => simp at same
      subst nil
      obtain ⟨rfl, rfl⟩ : key = other ∧ [] = later := List.cons.inj same
      rw [if_pos rfl, if_pos rfl, chained.tail, List.append_nil]
      exact ⟨rfl, rfl⟩
    · obtain ⟨before, after⟩ := chained.around earlier other middle rfl
      have among : other ∈ earlier ++ other :: middle := by simp
      have unequal : other ≠ key := fun same => fresh (same ▸ among)
      rw [if_neg unequal, if_neg unequal, before, after, chained.tail]
      have following : (if (earlier ++ other :: middle).getLast? = some other then [key].head?
          else (middle ++ []).head?) = (middle ++ [key]).head? := after_of_last chained.nodup
      rw [List.append_nil] at following
      exact ⟨rfl, following⟩

/-! ### The last keys of a history -/

/-- **The last `limit` distinct keys** of a history, each where it came last. -/
def recent (limit : ℕ) (history : List κ) : List κ := history.dedup.rtake limit

/-- One more access: the key goes to the end, and the first is dropped if there are too many. -/
def touch (limit : ℕ) (chain : List κ) (key : κ) : List κ :=
  (chain.erase key ++ [key]).rtake limit

theorem dedup_concat (history : List κ) (key : κ) :
    (history ++ [key]).dedup = history.dedup.erase key ++ [key] := by
  induction history with
  | nil => simp
  | cons head history ih =>
      rw [List.cons_append]
      by_cases among : head ∈ history
      · rw [List.dedup_cons_of_mem (List.mem_append_left _ among), ih, List.dedup_cons_of_mem among]
      · rw [List.dedup_cons_of_notMem among]
        by_cases same : head = key
        · subst same
          have absent : head ∉ history.dedup := mt List.mem_dedup.mp among
          rw [List.dedup_cons_of_mem (by simp), ih, List.erase_cons_head,
            List.erase_of_not_mem absent]
        · have absent : head ∉ history ++ [key] := by simp [among, same]
          rw [List.dedup_cons_of_notMem absent, ih, List.erase_cons_tail (by simpa using same),
            List.cons_append]

theorem rtake_append {limit : ℕ} {front back : List κ} (enough : limit ≤ back.length) :
    (front ++ back).rtake limit = back.rtake limit := by
  have skipped : (front ++ back).length - limit = front.length + (back.length - limit) := by
    rw [List.length_append]
    omega
  rw [List.rtake, skipped, List.drop_append]
  simp [List.rtake]

/-- A key erased before or after the cut, once it is put at the end. -/
theorem rtake_erase (limit : ℕ) (keys : List κ) (key : κ) (nodup : keys.Nodup) :
    ((keys.rtake limit).erase key ++ [key]).rtake limit = (keys.erase key ++ [key]).rtake limit := by
  cases limit with
  | zero => rw [List.rtake_zero, List.rtake_zero]
  | succ limit =>
      rw [List.rtake_concat_succ, List.rtake_concat_succ]
      by_cases short : keys.length ≤ limit + 1
      · have whole : keys.rtake (limit + 1) = keys := by
          rw [List.rtake, Nat.sub_eq_zero_of_le short, List.drop_zero]
        rw [whole]
      · have cut : keys.take (keys.length - (limit + 1)) ++ keys.rtake (limit + 1) = keys :=
          List.take_append_drop _ _
        have full : (keys.rtake (limit + 1)).length = limit + 1 := by
          rw [List.rtake, List.length_drop]
          omega
        generalize keys.take (keys.length - (limit + 1)) = front at cut
        generalize keys.rtake (limit + 1) = back at cut full
        subst cut
        by_cases inside : key ∈ back
        · have outside : key ∉ front := fun also =>
            (List.nodup_append.mp nodup).2.2 key also key inside rfl
          rw [List.erase_append_right _ outside, rtake_append]
          rw [List.length_erase_of_mem inside, full]
          omega
        · rw [List.erase_of_not_mem inside]
          by_cases early : key ∈ front
          · rw [List.erase_append_left _ early, rtake_append (by omega)]
          · rw [List.erase_append_right _ early, List.erase_of_not_mem inside,
              rtake_append (by omega)]

theorem recent_nil (limit : ℕ) : recent limit ([] : List κ) = [] := List.rtake_nil limit

/-- **One more access.** -/
theorem recent_concat (limit : ℕ) (history : List κ) (key : κ) :
    recent limit (history ++ [key]) = touch limit (recent limit history) key := by
  rw [recent, dedup_concat, touch, recent, rtake_erase limit _ key history.nodup_dedup]

theorem recent_length (limit : ℕ) (history : List κ) : (recent limit history).length ≤ limit := by
  rw [recent, List.rtake, List.length_drop]
  omega

/-- A key that is already there goes to the end, and nothing is dropped. -/
theorem touch_of_mem {limit : ℕ} (short : chain.length ≤ limit) (member : key ∈ chain) :
    touch limit chain key = chain.erase key ++ [key] := by
  have one : (chain.erase key ++ [key]).length = chain.length := by
    have some : 0 < chain.length := List.length_pos_of_mem member
    rw [List.length_append, List.length_erase_of_mem member, List.length_singleton]
    omega
  rw [touch, List.rtake, one, Nat.sub_eq_zero_of_le short, List.drop_zero]

theorem touch_of_notMem {limit : ℕ} (fresh : key ∉ chain) :
    touch limit chain key = (chain ++ [key]).rtake limit := by
  rw [touch, List.erase_of_not_mem fresh]

end Recency
