/-
**The inbound rate limiter keeps its chain and its budget.**

* `InboundRateLimiter.links`, `InboundRateLimiter.purse` — the limiter seen as a chain, and as what each sender has;
* `Kept` — the buckets are those of a chain, in its order;
* `unlinkLru_links`, `linkLruTail_links` — the two repairs are the library's;
* `Kept.check` — one check, and `run_spec` — **what any sequence of checks leaves**;
* `limiter_sound` — the chain is the senders checked last, in that order; no new sender is dropped;
  and no sender is admitted more often than its budget allows.
-/

import Lnrent.Daemon.RateLimiter
import Lnrent.Recency.Chain

set_option linter.unusedSectionVars false

namespace Lnrent.RateLimiter

open Relational Recency

variable {PublicKey : Type} [DecidableEq PublicKey]

namespace InboundRateLimiter

/-! ### Two views of the limiter -/

/-- The chain's pointers. -/
def links (limiter : InboundRateLimiter PublicKey) : Links PublicKey where
  head := limiter.lruHead
  tail := limiter.lruTail
  prev key := (limiter.buckets.row key).bind Bucket.lruPrev
  next key := (limiter.buckets.row key).bind Bucket.lruNext

/-- What is not the chain's: the knobs, and every sender's tokens with the time of their refill. -/
structure Accounts (PublicKey : Type) where
  capacity : ℚ
  refillPerSec : ℚ
  purse : PublicKey → Option (ℚ × ℚ)

def accounts (limiter : InboundRateLimiter PublicKey) : Accounts PublicKey where
  capacity := limiter.capacity
  refillPerSec := limiter.refillPerSec
  purse key := (limiter.buckets.row key).map fun bucket => (bucket.tokens, bucket.lastRefill)

variable {limiter next : InboundRateLimiter PublicKey} {chain : List PublicKey} {key : PublicKey}

theorem purse_isSome : (limiter.accounts.purse key).isSome = (limiter.buckets.row key).isSome :=
  Option.isSome_map

theorem row_isSome (same : limiter.accounts = next.accounts) (key : PublicKey) :
    (limiter.buckets.row key).isSome = (next.buckets.row key).isSome := by
  rw [← purse_isSome, same, purse_isSome]

theorem accounts_update {change : Bucket PublicKey → Bucket PublicKey}
    (same : ∀ bucket, (change bucket).tokens = bucket.tokens ∧
      (change bucket).lastRefill = bucket.lastRefill) :
    { limiter with
      buckets := limiter.buckets.update (fun found _ => found = key) change }.accounts =
      limiter.accounts := by
  have purse : ∀ other, ((limiter.buckets.update (fun found _ => found = key) change).row other).map
      (fun bucket => (bucket.tokens, bucket.lastRefill)) =
        (limiter.buckets.row other).map fun bucket => (bucket.tokens, bucket.lastRefill) := by
    intro other
    rw [Table.update_row, Option.map_map]
    cases limiter.buckets.row other with
    | none => rfl
    | some bucket =>
        by_cases here : other = key
        · simp [here, same]
        · simp [here]
  show Accounts.mk limiter.capacity limiter.refillPerSec _ = Accounts.mk _ _ _
  rw [funext purse]

@[simp]
theorem setPrev_accounts (key : PublicKey) (prev : Option PublicKey) :
    (limiter.setPrev key prev).accounts = limiter.accounts :=
  accounts_update fun _ => ⟨rfl, rfl⟩

@[simp]
theorem setNext_accounts (key : PublicKey) (next : Option PublicKey) :
    (limiter.setNext key next).accounts = limiter.accounts :=
  accounts_update fun _ => ⟨rfl, rfl⟩

@[simp]
theorem joinNext_accounts (sender : PublicKey) (prev next : Option PublicKey) :
    (limiter.joinNext sender prev next).accounts = limiter.accounts := by
  unfold joinNext
  cases prev with
  | some prev => exact setNext_accounts prev next
  | none =>
      show (if limiter.lruHead = some sender then _ else _ : InboundRateLimiter PublicKey).accounts = _
      split_ifs <;> rfl

@[simp]
theorem joinPrev_accounts (sender : PublicKey) (prev next : Option PublicKey) :
    (limiter.joinPrev sender prev next).accounts = limiter.accounts := by
  unfold joinPrev
  cases next with
  | some next => exact setPrev_accounts next prev
  | none =>
      show (if limiter.lruTail = some sender then _ else _ : InboundRateLimiter PublicKey).accounts = _
      split_ifs <;> rfl

/-- **Taking a sender out of the chain** leaves the accounts. -/
@[simp]
theorem unlinkLru_accounts (sender : PublicKey) :
    (limiter.unlinkLru sender).accounts = limiter.accounts := by
  unfold unlinkLru
  cases limiter.buckets.row sender with
  | none => rfl
  | some bucket => simp

/-- **Putting one at its end** leaves them too. -/
@[simp]
theorem linkLruTail_accounts (sender : PublicKey) :
    (limiter.linkLruTail sender).accounts = limiter.accounts := by
  show (((limiter.joinTail sender).setPrev sender limiter.lruTail).setNext sender none).accounts = _
  rw [setNext_accounts, setPrev_accounts]
  unfold joinTail
  cases limiter.lruTail with
  | some tail => exact setNext_accounts tail _
  | none => rfl

/-! ### The repairs are the library's -/

theorem setPrev_links (held : (limiter.buckets.row key).isSome) (prev : Option PublicKey) :
    (limiter.setPrev key prev).links = { limiter.links with
      prev := fun other => if other = key then prev else limiter.links.prev other } := by
  have pointers : ∀ other,
      ((limiter.setPrev key prev).buckets.row other).bind Bucket.lruPrev =
          (if other = key then prev else limiter.links.prev other) ∧
        ((limiter.setPrev key prev).buckets.row other).bind Bucket.lruNext =
          limiter.links.next other := by
    intro other
    simp only [setPrev, Table.update_row, links]
    by_cases here : other = key
    · subst here
      obtain ⟨bucket, found⟩ := Option.isSome_iff_exists.mp held
      simp [found]
    · cases limiter.buckets.row other <;> simp [here]
  show Links.mk limiter.lruHead limiter.lruTail _ _ = Links.mk _ _ _ _
  rw [funext fun other => (pointers other).1, funext fun other => (pointers other).2]
  rfl

theorem setNext_links (held : (limiter.buckets.row key).isSome) (next : Option PublicKey) :
    (limiter.setNext key next).links = { limiter.links with
      next := fun other => if other = key then next else limiter.links.next other } := by
  have pointers : ∀ other,
      ((limiter.setNext key next).buckets.row other).bind Bucket.lruPrev =
          limiter.links.prev other ∧
        ((limiter.setNext key next).buckets.row other).bind Bucket.lruNext =
          (if other = key then next else limiter.links.next other) := by
    intro other
    simp only [setNext, Table.update_row, links]
    by_cases here : other = key
    · subst here
      obtain ⟨bucket, found⟩ := Option.isSome_iff_exists.mp held
      simp [found]
    · cases limiter.buckets.row other <;> simp [here]
  show Links.mk limiter.lruHead limiter.lruTail _ _ = Links.mk _ _ _ _
  rw [funext fun other => (pointers other).1, funext fun other => (pointers other).2]
  rfl

theorem joinNext_links (sender : PublicKey) {prev : Option PublicKey} (next : Option PublicKey)
    (held : ∀ key ∈ prev, (limiter.buckets.row key).isSome) :
    (limiter.joinNext sender prev next).links = { limiter.links with
      head := if prev = none ∧ limiter.links.head = some sender then next else limiter.links.head
      next := fun other => if prev = some other then next else limiter.links.next other } := by
  cases prev with
  | some key =>
      refine (setNext_links (held key rfl) next).trans ?_
      simp [eq_comm]
  | none =>
      unfold joinNext
      by_cases first : limiter.lruHead = some sender
      · simp [first, links]
      · simp [first, links]

theorem joinPrev_links (sender : PublicKey) (prev : Option PublicKey) {next : Option PublicKey}
    (held : ∀ key ∈ next, (limiter.buckets.row key).isSome) :
    (limiter.joinPrev sender prev next).links = { limiter.links with
      tail := if next = none ∧ limiter.links.tail = some sender then prev else limiter.links.tail
      prev := fun other => if next = some other then prev else limiter.links.prev other } := by
  cases next with
  | some key =>
      refine (setPrev_links (held key rfl) prev).trans ?_
      simp [eq_comm]
  | none =>
      unfold joinPrev
      by_cases last : limiter.lruTail = some sender
      · simp [last, links]
      · simp [last, links]

/-- **Taking a sender out of the chain.** -/
theorem unlinkLru_links (sender : PublicKey) (held : (limiter.buckets.row sender).isSome)
    (before : ∀ key ∈ limiter.links.prev sender, (limiter.buckets.row key).isSome)
    (after : ∀ key ∈ limiter.links.next sender, (limiter.buckets.row key).isSome) :
    (limiter.unlinkLru sender).links = limiter.links.unlink sender := by
  obtain ⟨bucket, found⟩ := Option.isSome_iff_exists.mp held
  have prev : limiter.links.prev sender = bucket.lruPrev := by simp [links, found]
  have next : limiter.links.next sender = bucket.lruNext := by simp [links, found]
  rw [prev] at before
  rw [next] at after
  unfold unlinkLru
  rw [found]
  show ((((limiter.joinNext sender bucket.lruPrev bucket.lruNext).joinPrev sender bucket.lruPrev
    bucket.lruNext).setPrev sender none).setNext sender none).links = _
  have kept : ∀ key, ((limiter.joinNext sender bucket.lruPrev bucket.lruNext).buckets.row key).isSome =
      (limiter.buckets.row key).isSome := row_isSome (joinNext_accounts sender _ _)
  have kept' : ∀ key, (((limiter.joinNext sender bucket.lruPrev bucket.lruNext).joinPrev sender
      bucket.lruPrev bucket.lruNext).buckets.row key).isSome = (limiter.buckets.row key).isSome :=
    row_isSome ((joinPrev_accounts sender _ _).trans (joinNext_accounts sender _ _))
  rw [setNext_links ((row_isSome (setPrev_accounts sender none) sender).trans
      ((kept' sender).trans held)), setPrev_links ((kept' sender).trans held),
    joinPrev_links sender _ fun key among => (kept key).trans (after key among),
    joinNext_links sender _ before]
  simp only [Links.unlink, prev, next]

/-- **Putting a sender at the end of the chain.** -/
theorem linkLruTail_links (sender : PublicKey) (held : (limiter.buckets.row sender).isSome)
    (last : ∀ key ∈ limiter.links.tail, (limiter.buckets.row key).isSome) :
    (limiter.linkLruTail sender).links = limiter.links.append sender := by
  have joined : (limiter.joinTail sender).links = { limiter.links with
      head := if limiter.links.tail = none then some sender else limiter.links.head
      next := fun other => if limiter.links.tail = some other then some sender
        else limiter.links.next other } := by
    unfold joinTail
    cases tail : limiter.lruTail with
    | none => simp [links, tail]
    | some key =>
        refine (setNext_links (last key tail) (some sender)).trans ?_
        simp [links, tail, eq_comm]
  have kept : (limiter.joinTail sender).accounts = limiter.accounts := by
    unfold joinTail
    cases limiter.lruTail with
    | none => rfl
    | some key => exact setNext_accounts key _
  have here : ((limiter.joinTail sender).buckets.row sender).isSome :=
    (row_isSome kept sender).trans held
  have repaired : (((limiter.joinTail sender).setPrev sender limiter.lruTail).setNext sender
      none).links = { limiter.links with
        head := if limiter.links.tail = none then some sender else limiter.links.head
        prev := fun other => if other = sender then limiter.links.tail else limiter.links.prev other
        next := fun other => if other = sender then none
          else if limiter.links.tail = some other then some sender
          else limiter.links.next other } := by
    rw [setNext_links ((row_isSome (setPrev_accounts sender _) sender).trans here),
      setPrev_links here, joined]
    rfl
  show { (((limiter.joinTail sender).setPrev sender limiter.lruTail).setNext sender none).links with
    tail := some sender } = _
  rw [repaired]
  rfl

/-! ### The buckets of a chain -/

/-- **The buckets are those of a chain**, in its order. -/
structure Kept (chain : List PublicKey) (limiter : InboundRateLimiter PublicKey) : Prop where
  chained : Chained chain limiter.links
  keys : ∀ key, key ∈ chain ↔ (limiter.buckets.row key).isSome

theorem Kept.card (kept : Kept chain limiter) : limiter.buckets.keys.card = chain.length := by
  have same : limiter.buckets.keys = chain.toFinset := by
    ext key
    rw [limiter.buckets.mem_keys, List.mem_toFinset, kept.keys]
  rw [same, List.toFinset_card_of_nodup kept.chained.nodup]

theorem Kept.unlinkLru {before after : List PublicKey} (kept : Kept chain limiter)
    (split : chain = before ++ key :: after) :
    (limiter.unlinkLru key).links = limiter.links.unlink key := by
  obtain ⟨prev, next⟩ := kept.chained.around before key after split
  refine unlinkLru_links key ((kept.keys key).mp (by simp [split])) (fun other among => ?_)
    fun other among => ?_
  · rw [prev] at among
    exact (kept.keys other).mp (by simp [split, List.mem_of_getLast? among])
  · rw [next] at among
    exact (kept.keys other).mp (by simp [split, List.mem_of_head? among])

/-- **A sender that is there goes to the end.** -/
theorem Kept.touchLru (kept : Kept chain limiter) (member : key ∈ chain) :
    Kept (chain.erase key ++ [key]) (limiter.touchLru key) ∧
      (limiter.touchLru key).accounts = limiter.accounts := by
  obtain ⟨before, after, split⟩ := List.append_of_mem member
  have absent : key ∉ before := fun early => by
    have nodup := split ▸ kept.chained.nodup
    exact (List.nodup_append.mp nodup).2.2 key early key List.mem_cons_self rfl
  have erased : chain.erase key = before ++ after := by
    rw [split, List.erase_append_right _ absent, List.erase_cons_head]
  unfold InboundRateLimiter.touchLru
  by_cases last : limiter.lruTail = some key
  · have none : after = [] := kept.chained.last split last
    rw [if_pos last, erased, none, List.append_nil, ← none, ← split]
    exact ⟨kept, rfl⟩
  · rw [if_neg last, erased, linkLruTail_accounts, unlinkLru_accounts]
    refine ⟨?_, rfl⟩
    have rows : ∀ other, ((limiter.unlinkLru key).buckets.row other).isSome =
        (limiter.buckets.row other).isSome := row_isSome (unlinkLru_accounts key)
    have unlinked : Chained (before ++ after) (limiter.unlinkLru key).links :=
      kept.unlinkLru split ▸ kept.chained.unlink split
    have fresh : key ∉ before ++ after := erased ▸ kept.chained.nodup.not_mem_erase
    have among : ∀ other, other ∈ before ++ after → other ∈ chain := fun other there => by
      rw [← erased] at there
      exact List.mem_of_mem_erase there
    constructor
    · rw [linkLruTail_links key ((rows key).trans ((kept.keys key).mp member)) fun other tail =>
        (rows other).trans ((kept.keys other).mp
          (among other (List.mem_of_getLast? (unlinked.tail.symm.trans tail))))]
      exact unlinked.append fresh
    · intro other
      rw [row_isSome (linkLruTail_accounts key), rows, ← kept.keys, split]
      simp only [List.mem_append, List.mem_cons]
      tauto

/-! ### New senders -/

theorem put_accounts (bucket : Bucket PublicKey) :
    (limiter.put key bucket).accounts = { limiter.accounts with
      purse := Function.update limiter.accounts.purse key (some (bucket.tokens, bucket.lastRefill)) } := by
  have purse : ∀ other, ((limiter.put key bucket).buckets.row other).map
      (fun bucket => (bucket.tokens, bucket.lastRefill)) =
        Function.update limiter.accounts.purse key (some (bucket.tokens, bucket.lastRefill)) other := by
    intro other
    rw [put, Table.put_row]
    by_cases here : other = key
    · subst here
      simp
    · simp [here, accounts]
  show Accounts.mk limiter.capacity limiter.refillPerSec _ = Accounts.mk _ _ _
  rw [funext purse]
  rfl

/-- **A new sender comes last.** -/
theorem Kept.enter (kept : Kept chain limiter) (fresh : key ∉ chain) (tokens now : ℚ) :
    Kept (chain ++ [key]) ((limiter.put key ⟨tokens, now, none, none⟩).linkLruTail key) := by
  have row : ∀ other, ((limiter.put key ⟨tokens, now, none, none⟩).buckets.row other).isSome ↔
      other = key ∨ other ∈ chain := by
    intro other
    rw [put, Table.put_row, kept.keys]
    by_cases here : other = key <;> simp [here]
  have chained : Chained chain (limiter.put key ⟨tokens, now, none, none⟩).links := by
    refine kept.chained.congr rfl rfl fun other member => ?_
    have different : other ≠ key := fun same => fresh (same ▸ member)
    simp [links, put, Table.put_row, different]
  constructor
  · rw [linkLruTail_links key ((row key).mpr (.inl rfl)) fun other tail =>
      (row other).mpr (.inr (List.mem_of_getLast? (chained.tail.symm.trans tail)))]
    exact chained.append fresh
  · intro other
    rw [row_isSome (linkLruTail_accounts key), row]
    simp only [List.mem_append, List.mem_singleton]
    tauto

/-- **The head is dropped.** -/
theorem Kept.evict {head : PublicKey} {rest : List PublicKey} (kept : Kept (head :: rest) limiter) :
    Kept rest ((limiter.unlinkLru head).remove head) := by
  have split : head :: rest = [] ++ head :: rest := rfl
  have unlinked : Chained rest (limiter.unlinkLru head).links :=
    kept.unlinkLru split ▸ kept.chained.unlink split
  have fresh : head ∉ rest := (List.nodup_cons.mp kept.chained.nodup).1
  constructor
  · refine unlinked.congr rfl rfl fun other member => ?_
    have different : other ≠ head := fun same => fresh (same ▸ member)
    show (((limiter.unlinkLru head).buckets.delete fun found _ => found = head).row other).bind _ = _ ∧
      (((limiter.unlinkLru head).buckets.delete fun found _ => found = head).row other).bind _ = _
    rw [Table.delete_row_other _ different]
    exact ⟨rfl, rfl⟩
  · intro other
    by_cases here : other = head
    · subst here
      simp [fresh, remove, Table.delete_row_self]
    · rw [remove, Table.delete_row_other _ here, row_isSome (unlinkLru_accounts head), ← kept.keys]
      simp [here]

/-! ### One check -/

/-- **The knobs stay, and so does what these senders have.** -/
structure Spares (keys : List PublicKey) (before after : Accounts PublicKey) : Prop where
  capacity : after.capacity = before.capacity
  refillPerSec : after.refillPerSec = before.refillPerSec
  purse : ∀ key ∈ keys, after.purse key = before.purse key

theorem Spares.of_eq {keys : List PublicKey} {before after : Accounts PublicKey}
    (same : after = before) : Spares keys before after :=
  ⟨same ▸ rfl, same ▸ rfl, fun _ _ => same ▸ rfl⟩

theorem Spares.trans {keys : List PublicKey} {first second third : Accounts PublicKey}
    (one : Spares keys first second) (two : Spares keys second third) : Spares keys first third :=
  ⟨two.capacity.trans one.capacity, two.refillPerSec.trans one.refillPerSec,
    fun key member => (two.purse key member).trans (one.purse key member)⟩

theorem Spares.mono {keys fewer : List PublicKey} {before after : Accounts PublicKey}
    (spares : Spares keys before after) (subset : ∀ key ∈ fewer, key ∈ keys) :
    Spares fewer before after :=
  ⟨spares.capacity, spares.refillPerSec, fun key member => spares.purse key (subset key member)⟩

theorem remove_spares {keys : List PublicKey} (absent : key ∉ keys) :
    Spares keys limiter.accounts (limiter.remove key).accounts := by
  refine ⟨rfl, rfl, fun other member => ?_⟩
  have different : other ≠ key := fun same => absent (same ▸ member)
  show ((limiter.buckets.delete fun found _ => found = key).row other).map _ = _
  rw [Table.delete_row_other _ different]
  rfl

theorem put_spares {keys : List PublicKey} (absent : key ∉ keys) (bucket : Bucket PublicKey) :
    Spares keys limiter.accounts (limiter.put key bucket).accounts := by
  rw [put_accounts]
  refine ⟨rfl, rfl, fun other member => Function.update_of_ne ?_ _ _⟩
  rintro rfl
  exact absent member

/-- **The loop ends**, and leaves the buckets of the last senders. -/
theorem Kept.evictExcess : ∀ {fuel : ℕ} {chain : List PublicKey}
    {limiter : InboundRateLimiter PublicKey}, Kept chain limiter → chain.length < fuel →
    ∃ next, evictExcess fuel limiter = some next ∧
      Kept (chain.rtake inboundRateLruCapacity) next ∧
      Spares (chain.rtake inboundRateLruCapacity) limiter.accounts next.accounts := by
  intro fuel
  induction fuel with
  | zero => exact fun _ small => absurd small (Nat.not_lt_zero _)
  | succ fuel ih =>
      intro chain limiter kept small
      rw [InboundRateLimiter.evictExcess, kept.card]
      by_cases excess : inboundRateLruCapacity < chain.length
      · rw [if_pos excess]
        obtain ⟨head, rest, rfl⟩ := List.exists_cons_of_length_pos (Nat.zero_lt_of_lt excess)
        have first : limiter.lruHead = some head := kept.chained.head
        have cut : ([head] ++ rest).rtake inboundRateLruCapacity = rest.rtake inboundRateLruCapacity :=
          rtake_append (by simpa using Nat.lt_succ_iff.mp excess)
        have fresh : head ∉ rest := (List.nodup_cons.mp kept.chained.nodup).1
        obtain ⟨next, ends, kept', spares⟩ := ih kept.evict (by simpa using small)
        rw [first, ← List.singleton_append, cut]
        refine ⟨next, ends, kept', .trans ?_ spares⟩
        have dropped : Spares rest limiter.accounts
            ((limiter.unlinkLru head).remove head).accounts :=
          (Spares.of_eq (unlinkLru_accounts head)).trans (remove_spares fresh)
        exact dropped.mono fun key member => List.mem_of_mem_drop member
      · rw [if_neg excess]
        have whole : chain.rtake inboundRateLruCapacity = chain := by
          rw [List.rtake, Nat.sub_eq_zero_of_le (not_lt.mp excess), List.drop_zero]
        exact ⟨limiter, rfl, whole.symm ▸ kept, .of_eq rfl⟩

/-- The tokens a sender is checked against. -/
def Accounts.balance (accounts : Accounts PublicKey) (sender : PublicKey) (now : ℚ) : ℚ :=
  match accounts.purse sender with
  | none => accounts.capacity
  | some (tokens, lastRefill) =>
      min (tokens + max (now - lastRefill) 0 * accounts.refillPerSec) accounts.capacity

/-- **What a check makes of the accounts**: the sender's balance is stored, less the token spent. -/
structure Charged (sender : PublicKey) (now : ℚ) (chain : List PublicKey) (admitted : Bool)
    (before after : Accounts PublicKey) : Prop where
  decided : admitted = decide (1 ≤ before.balance sender now)
  spares : Spares (chain.erase sender) before after
  purse : after.purse sender =
    some (before.balance sender now - if admitted then 1 else 0, now)

theorem Kept.spend (kept : Kept chain limiter) {sender : PublicKey} (member : sender ∈ chain)
    (now : ℚ) :
    ∃ admitted next, limiter.spend sender now = some (admitted, next) ∧ Kept chain next ∧
      Charged sender now chain admitted limiter.accounts next.accounts := by
  obtain ⟨bucket, found⟩ := Option.isSome_iff_exists.mp ((kept.keys sender).mp member)
  have balance : limiter.refilled bucket now = limiter.accounts.balance sender now := by
    simp [refilled, Accounts.balance, accounts, found]
  have stored : ∀ tokens, Kept chain (limiter.put sender { bucket with tokens, lastRefill := now }) := by
    intro tokens
    refine ⟨kept.chained.congr rfl rfl fun key _ => ?_, fun key => ?_⟩
    · by_cases here : key = sender
      · subst here
        simp [links, put, found]
      · simp [links, put, Table.put_row, here]
    · rw [kept.keys, put, Table.put_row]
      by_cases here : key = sender
      · subst here
        simp [found]
      · simp [here]
  have spares : ∀ bucket, Spares (chain.erase sender) limiter.accounts
      (limiter.put sender bucket).accounts := put_spares kept.chained.nodup.not_mem_erase
  unfold InboundRateLimiter.spend
  rw [found]
  by_cases enough : 1 ≤ limiter.refilled bucket now
  · refine ⟨true, _, if_pos enough, stored _, ⟨?_, spares _, ?_⟩⟩
    · simpa [balance] using enough
    · rw [put_accounts, balance]
      simp
  · refine ⟨false, _, if_neg enough, stored _, ⟨?_, spares _, ?_⟩⟩
    · simpa [balance] using enough
    · rw [put_accounts, balance]
      simp

/-- **A new sender's bucket** is full, and is not the one that is dropped. -/
theorem Kept.insertBucket (kept : Kept chain limiter) {sender : PublicKey} (fresh : sender ∉ chain)
    (tokens now : ℚ) :
    ∃ next, limiter.insertBucket sender tokens now = some next ∧
      Kept (touch inboundRateLruCapacity chain sender) next ∧
      Spares ((touch inboundRateLruCapacity chain sender).erase sender) limiter.accounts
        next.accounts ∧
      next.accounts.purse sender = some (tokens, now) := by
  rw [touch_of_notMem fresh]
  have rounds : (chain ++ [sender]).length < limiter.buckets.keys.card + 2 := by
    rw [kept.card, List.length_append]
    simp
  obtain ⟨next, ends, kept', spares⟩ := (kept.enter fresh tokens now).evictExcess rounds
  rw [linkLruTail_accounts] at spares
  have absent : sender ∉ ((chain ++ [sender]).rtake inboundRateLruCapacity).erase sender :=
    kept'.chained.nodup.not_mem_erase
  have there : sender ∈ (chain ++ [sender]).rtake inboundRateLruCapacity := by
    rw [inboundRateLruCapacity, negativeCacheCapacity, List.rtake_concat_succ]
    simp
  refine ⟨next, ends, kept', (put_spares absent _).trans (spares.mono fun key member =>
    List.mem_of_mem_erase member), (spares.purse sender there).trans ?_⟩
  rw [put_accounts]
  simp

theorem mem_touch {limit : ℕ} (room : 0 < limit) (chain : List PublicKey) (key : PublicKey) :
    key ∈ touch limit chain key := by
  obtain ⟨less, rfl⟩ := Nat.exists_eq_succ_of_ne_zero room.ne'
  rw [touch, List.rtake_concat_succ]
  simp

/-- **One check**: the sender goes to the end of the chain, the head is dropped if there are too many,
and the balance decides. -/
theorem Kept.check (kept : Kept chain limiter) (short : chain.length ≤ inboundRateLruCapacity)
    (able : 1 ≤ limiter.capacity) (sender : PublicKey) (now : ℚ) :
    ∃ admitted next, limiter.check sender now = some (admitted, next) ∧
      Kept (touch inboundRateLruCapacity chain sender) next ∧
      Charged sender now (touch inboundRateLruCapacity chain sender) admitted limiter.accounts
        next.accounts := by
  rw [InboundRateLimiter.check, if_neg (not_lt.mpr able)]
  by_cases member : sender ∈ chain
  · rw [if_pos ((kept.keys sender).mp member), touch_of_mem short member]
    obtain ⟨touched, same⟩ := kept.touchLru member
    have there : sender ∈ chain.erase sender ++ [sender] := by simp
    obtain ⟨admitted, next, spent, kept', charged⟩ := touched.spend there now
    exact ⟨admitted, next, spent, kept', same ▸ charged⟩
  · have absent : ¬ (limiter.buckets.row sender).isSome := mt (kept.keys sender).mpr member
    rw [if_neg absent]
    obtain ⟨inserted, ends, kept', spares, purse⟩ := kept.insertBucket member limiter.capacity now
    have last : inserted.lruTail = some sender := by
      refine kept'.chained.tail.trans ?_
      rw [touch, inboundRateLruCapacity, negativeCacheCapacity, List.rtake_concat_succ]
      simp
    have untouched : inserted.touchLru sender = inserted := if_pos last
    obtain ⟨admitted, next, spent, kept'', charged⟩ :=
      kept'.spend (mem_touch (by decide) chain sender) now
    rw [ends]
    refine ⟨admitted, next, ?_, kept'', ?_⟩
    · show (inserted.touchLru sender).spend sender now = _
      rw [untouched, spent]
    · have unknown : limiter.accounts.purse sender = none := by
        have missing : (limiter.accounts.purse sender).isSome = _ := purse_isSome
        simpa [absent] using missing
      have balance : inserted.accounts.balance sender now = limiter.accounts.balance sender now := by
        have full : limiter.accounts.capacity = limiter.capacity := rfl
        simp [Accounts.balance, purse, unknown, spares.capacity, full]
      obtain ⟨decided, rest, stored⟩ := charged
      exact ⟨balance ▸ decided, spares.trans rest, balance ▸ stored⟩

/-! ### Runs -/

/-- One check of a run, with the senders that have a bucket before and after it. -/
structure Checked (PublicKey : Type) where
  sender : PublicKey
  now : ℚ
  admitted : Bool
  before : Finset PublicKey
  after : Finset PublicKey

/-- **A sequence of checks**, each with its answer. -/
def run : InboundRateLimiter PublicKey → List (PublicKey × ℚ) →
    Option (InboundRateLimiter PublicKey × List (Checked PublicKey))
  | limiter, [] => some (limiter, [])
  | limiter, (sender, now) :: rest =>
      (limiter.check sender now).bind fun (admitted, next) =>
        (run next rest).map fun (last, checked) =>
          (last, ⟨sender, now, admitted, limiter.buckets.keys, next.buckets.keys⟩ :: checked)

/-- The checks of a run, as the accounts see them. -/
inductive Trace : Accounts PublicKey → List (Checked PublicKey) → Prop where
  | done (accounts : Accounts PublicKey) : Trace accounts []
  | check {before after : Accounts PublicKey} {chain : List PublicKey} {first : Checked PublicKey}
      {rest : List (Checked PublicKey)}
      (charged : Charged first.sender first.now chain first.admitted before after)
      (early : ∀ key, key ∈ first.before ↔ (before.purse key).isSome)
      (late : ∀ key, key ∈ first.after ↔ (after.purse key).isSome)
      (chained : ∀ key, key ∈ first.after ↔ key ∈ chain)
      (member : first.sender ∈ chain)
      (following : Trace after rest) : Trace before (first :: rest)

theorem mem_keys : key ∈ limiter.buckets.keys ↔ (limiter.accounts.purse key).isSome := by
  rw [limiter.buckets.mem_keys, purse_isSome]

/-- **What any sequence of checks leaves.** -/
theorem run_spec : ∀ (checks : List (PublicKey × ℚ)) (history : List PublicKey)
    (limiter : InboundRateLimiter PublicKey),
    Kept (recent inboundRateLruCapacity history) limiter → 1 ≤ limiter.capacity →
    ∃ last checked, run limiter checks = some (last, checked) ∧
      Kept (recent inboundRateLruCapacity (history ++ checks.map Prod.fst)) last ∧
      Trace limiter.accounts checked ∧
      checked.map (fun entry => (entry.sender, entry.now)) = checks := by
  intro checks
  induction checks with
  | nil =>
      intro history limiter kept _
      exact ⟨limiter, [], rfl, by simpa using kept, .done _, rfl⟩
  | cons check rest ih =>
      obtain ⟨sender, now⟩ := check
      intro history limiter kept able
      obtain ⟨admitted, next, answered, kept', charged⟩ :=
        kept.check (recent_length _ _) able sender now
      have able' : 1 ≤ next.capacity := able.trans_eq charged.spares.capacity.symm
      have same := kept'
      rw [← recent_concat] at same
      obtain ⟨last, checked, ran, kept'', trace, checks⟩ := ih (history ++ [sender]) next same able'
      refine ⟨last, ⟨sender, now, admitted, limiter.buckets.keys, next.buckets.keys⟩ :: checked, ?_,
        by simpa using kept'', ?_, by simp [checks]⟩
      · rw [run, answered]
        simp [ran]
      · exact .check charged (fun key => mem_keys) (fun key => mem_keys)
          (fun key => (next.buckets.mem_keys key).trans (kept'.keys key).symm)
          (mem_touch (by decide) _ sender) trace

/-- The sender of a check has a bucket after it. -/
theorem Trace.sender_mem {accounts : Accounts PublicKey} {checked : List (Checked PublicKey)}
    (trace : Trace accounts checked) : ∀ entry ∈ checked, entry.sender ∈ entry.after := by
  induction trace with
  | done => exact fun entry member => absurd member List.not_mem_nil
  | check _ _ _ chained member _ ih =>
      intro entry among
      rcases List.mem_cons.mp among with rfl | among
      · exact (chained _).mpr member
      · exact ih entry among

/-! ### The budget -/

/-- A check after which a sender has no bucket any more. -/
def Evicts (sender : PublicKey) (entry : Checked PublicKey) : Prop :=
  sender ∈ entry.before ∧ sender ∉ entry.after

/-- How often the sender was admitted in an interval. -/
def admissions (sender : PublicKey) (since until_ : ℚ) (checked : List (Checked PublicKey)) : ℕ :=
  checked.countP fun entry =>
    entry.sender = sender ∧ since ≤ entry.now ∧ entry.now ≤ until_ ∧ entry.admitted = true

section Budget

variable {sender : PublicKey} {since until_ : ℚ} {entry : Checked PublicKey}
  {checked : List (Checked PublicKey)} {before after accounts : Accounts PublicKey}

theorem admissions_late (late : ∀ entry ∈ checked, until_ < entry.now) :
    admissions sender since until_ checked = 0 := by
  refine List.countP_eq_zero.mpr fun entry member counted => ?_
  have inside : entry.now ≤ until_ := (of_decide_eq_true counted).2.2.1
  exact absurd (late entry member) (not_lt.mpr inside)

theorem admissions_other (other : entry.sender ≠ sender ∨ entry.now < since) :
    admissions sender since until_ (entry :: checked) = admissions sender since until_ checked := by
  refine List.countP_cons_of_neg ?_
  simp only [decide_eq_true_eq]
  rintro ⟨same, begun, -⟩
  rcases other with different | early
  · exact different same
  · exact absurd early (not_lt.mpr begun)

theorem admissions_own (own : entry.sender = sender) (begun : since ≤ entry.now)
    (inside : entry.now ≤ until_) :
    (admissions sender since until_ (entry :: checked) : ℚ) =
      (if entry.admitted then 1 else 0) + admissions sender since until_ checked := by
  unfold admissions
  rw [List.countP_cons]
  by_cases admitted : entry.admitted = true
  · simp [own, begun, inside, admitted, add_comm]
  · simp [admitted]

/-- Nothing is owed. -/
structure Solvent (accounts : Accounts PublicKey) : Prop where
  capacity : 0 ≤ accounts.capacity
  refillPerSec : 0 ≤ accounts.refillPerSec
  purse : ∀ key tokens lastRefill, accounts.purse key = some (tokens, lastRefill) → 0 ≤ tokens

theorem balance_le_capacity (now : ℚ) : accounts.balance sender now ≤ accounts.capacity := by
  unfold Accounts.balance
  cases accounts.purse sender with
  | none => exact le_rfl
  | some held => exact min_le_right _ _

theorem Solvent.balance_nonneg (solvent : Solvent accounts) (now : ℚ) :
    0 ≤ accounts.balance sender now := by
  unfold Accounts.balance
  cases found : accounts.purse sender with
  | none => exact solvent.capacity
  | some held =>
      have tokens := solvent.purse sender held.1 held.2 found
      have gained := mul_nonneg (le_max_right (now - held.2) 0) solvent.refillPerSec
      exact le_min (add_nonneg tokens gained) solvent.capacity

/-- A balance has grown by the refill since the last one, at most. -/
theorem balance_le {tokens lastRefill now : ℚ}
    (known : accounts.purse sender = some (tokens, lastRefill)) (later : lastRefill ≤ now) :
    accounts.balance sender now ≤ tokens + (now - lastRefill) * accounts.refillPerSec := by
  unfold Accounts.balance
  rw [known]
  refine (min_le_left _ _).trans_eq ?_
  rw [max_eq_left (sub_nonneg.mpr later)]

/-- What is left after a check is not negative. -/
theorem Charged.left_nonneg {chain : List PublicKey} {admitted : Bool} {now : ℚ}
    (charged : Charged sender now chain admitted before after) (solvent : Solvent before) :
    0 ≤ before.balance sender now - if admitted then 1 else 0 := by
  have decided := charged.decided
  cases admitted with
  | true =>
      have enough : 1 ≤ before.balance sender now := of_decide_eq_true decided.symm
      simpa using enough
  | false => simpa using solvent.balance_nonneg now

theorem Charged.solvent {chain : List PublicKey} {admitted : Bool} {now : ℚ}
    (charged : Charged sender now chain admitted before after) (solvent : Solvent before)
    (keys : ∀ key, (after.purse key).isSome → key ∈ chain) : Solvent after := by
  refine ⟨charged.spares.capacity ▸ solvent.capacity,
    charged.spares.refillPerSec ▸ solvent.refillPerSec, fun key tokens lastRefill found => ?_⟩
  by_cases own : key = sender
  · subst own
    obtain ⟨rfl, -⟩ := Prod.mk.inj (Option.some.inj (charged.purse.symm.trans found))
    exact charged.left_nonneg solvent
  · have among : key ∈ chain.erase sender :=
      (List.mem_erase_of_ne own).mpr (keys key (by rw [found]; rfl))
    exact solvent.purse key tokens lastRefill ((charged.spares.purse key among).symm.trans found)

/-- **From a check of the sender on**: its admissions are paid from what it has and what is refilled,
as long as its bucket is not dropped. -/
theorem Trace.admissions_le_purse (trace : Trace accounts checked) :
    ∀ {tokens lastRefill : ℚ}, accounts.purse sender = some (tokens, lastRefill) →
      Solvent accounts → checked.Pairwise (fun first second => first.now ≤ second.now) →
      (∀ entry ∈ checked, lastRefill ≤ entry.now) → since ≤ lastRefill → lastRefill ≤ until_ →
      (∀ entry ∈ checked, since ≤ entry.now → entry.now ≤ until_ → ¬ Evicts sender entry) →
      (admissions sender since until_ checked : ℚ) ≤
        tokens + (until_ - lastRefill) * accounts.refillPerSec := by
  induction trace with
  | done accounts =>
      intro tokens lastRefill known solvent _ _ _ inside _
      have refill := mul_nonneg (sub_nonneg.mpr inside) solvent.refillPerSec
      exact (Nat.cast_zero.trans_le (add_nonneg (solvent.purse _ _ _ known) refill))
  | @check before after chain first rest charged early late chained member following ih =>
      intro tokens lastRefill known solvent ordered later begun inside kept
      obtain ⟨ahead, ordered'⟩ := List.pairwise_cons.mp ordered
      have here : lastRefill ≤ first.now := later first List.mem_cons_self
      by_cases over_ : until_ < first.now
      · have late : ∀ entry ∈ first :: rest, until_ < entry.now := by
          intro entry among
          rcases List.mem_cons.mp among with rfl | among
          · exact over_
          · exact over_.trans_le (ahead entry among)
        rw [admissions_late late, Nat.cast_zero]
        exact add_nonneg (solvent.purse _ _ _ known)
          (mul_nonneg (sub_nonneg.mpr inside) solvent.refillPerSec)
      · have within : first.now ≤ until_ := not_lt.mp over_
        have solvent' : Solvent after := charged.solvent solvent fun key found =>
          (chained key).mp ((late key).mpr found)
        have kept' := fun entry among => kept entry (List.mem_cons_of_mem _ among)
        by_cases own : first.sender = sender
        · subst own
          have rest_le := ih charged.purse solvent' ordered' ahead (begun.trans here) within kept'
          have grown := balance_le known here
          rw [charged.spares.refillPerSec] at rest_le
          rw [admissions_own rfl (begun.trans here) within]
          linarith
        · have there : sender ∈ first.after := by
            by_contra gone
            have held : sender ∈ first.before := (early sender).mpr (by rw [known]; rfl)
            exact kept first List.mem_cons_self (begun.trans here) within ⟨held, gone⟩
          have among : sender ∈ chain.erase first.sender :=
            (List.mem_erase_of_ne (Ne.symm own)).mpr ((chained sender).mp there)
          have rest_le := ih ((charged.spares.purse sender among).trans known) solvent' ordered'
            (fun entry among => later entry (List.mem_cons_of_mem _ among)) begun inside kept'
          rw [charged.spares.refillPerSec] at rest_le
          rw [admissions_other (.inl own)]
          exact rest_le

/-- **The budget of an interval.** -/
theorem Trace.admissions_le (trace : Trace accounts checked) (interval : since ≤ until_) :
    Solvent accounts → checked.Pairwise (fun first second => first.now ≤ second.now) →
      (∀ entry ∈ checked, since ≤ entry.now → entry.now ≤ until_ → ¬ Evicts sender entry) →
      (admissions sender since until_ checked : ℚ) ≤
        accounts.capacity + (until_ - since) * accounts.refillPerSec := by
  induction trace with
  | done accounts =>
      intro solvent _ _
      have refill := mul_nonneg (sub_nonneg.mpr interval) solvent.refillPerSec
      exact (Nat.cast_zero.trans_le (add_nonneg solvent.capacity refill))
  | @check before after chain first rest charged early late chained member following ih =>
      intro solvent ordered kept
      obtain ⟨ahead, ordered'⟩ := List.pairwise_cons.mp ordered
      have solvent' : Solvent after := charged.solvent solvent fun key found =>
        (chained key).mp ((late key).mpr found)
      have kept' := fun entry among => kept entry (List.mem_cons_of_mem _ among)
      have refill := mul_nonneg (sub_nonneg.mpr interval) solvent.refillPerSec
      have rest_le := ih solvent' ordered' kept'
      rw [charged.spares.capacity, charged.spares.refillPerSec] at rest_le
      by_cases early : first.now < since
      · rw [admissions_other (.inr early)]
        exact rest_le
      · have begun : since ≤ first.now := not_lt.mp early
        by_cases over_ : until_ < first.now
        · have late : ∀ entry ∈ first :: rest, until_ < entry.now := by
            intro entry among
            rcases List.mem_cons.mp among with rfl | among
            · exact over_
            · exact over_.trans_le (ahead entry among)
          rw [admissions_late late, Nat.cast_zero]
          exact add_nonneg solvent.capacity refill
        · have within : first.now ≤ until_ := not_lt.mp over_
          by_cases own : first.sender = sender
          · subst own
            have paid := following.admissions_le_purse charged.purse solvent' ordered' ahead begun
              within kept'
            have full : before.balance first.sender first.now ≤ before.capacity :=
              balance_le_capacity first.now
            have sooner : (until_ - first.now) * before.refillPerSec ≤
                (until_ - since) * before.refillPerSec :=
              mul_le_mul_of_nonneg_right (by linarith) solvent.refillPerSec
            rw [charged.spares.refillPerSec] at paid
            rw [admissions_own rfl begun within]
            linarith
          · rw [admissions_other (.inl own)]
            exact rest_le

end Budget

/-! ### The limiter -/

/-- A limiter without capacity admits nothing and holds nothing. -/
theorem run_closed (closed : limiter.capacity < 1) : ∀ checks : List (PublicKey × ℚ),
    run limiter checks = some (limiter, checks.map fun check =>
      ⟨check.1, check.2, false, limiter.buckets.keys, limiter.buckets.keys⟩) := by
  intro checks
  induction checks with
  | nil => rfl
  | cons check rest ih =>
      have answered : limiter.check check.1 check.2 = some (false, limiter) := if_pos closed
      rw [run, answered]
      show Option.map _ (run limiter rest) = _
      rw [ih]
      rfl

theorem kept_new (capacity refillPerMin : UInt32) :
    Kept ([] : List PublicKey) (new capacity refillPerMin) where
  chained := Chained.empty rfl rfl
  keys key := by simp [new]

theorem solvent_new (capacity refillPerMin : UInt32) :
    Solvent (new capacity refillPerMin : InboundRateLimiter PublicKey).accounts where
  capacity := Nat.cast_nonneg _
  refillPerSec := div_nonneg (Nat.cast_nonneg _) (by norm_num)
  purse key tokens lastRefill found := by simp [accounts, new] at found

/-- **A limiter keeps its chain and its budget.** After any sequence of checks at nondecreasing times
the chain lists the senders checked last, in that order, and these are the senders with a bucket; there
are no more of them than allowed; the sender of a check has a bucket after it; and a sender whose bucket
is not dropped in an interval is admitted in it at most as often as a full bucket and the refill
allow. -/
theorem limiter_sound (capacity refillPerMin : UInt32) (checks : List (PublicKey × ℚ))
    (ordered : checks.Pairwise fun first second => first.2 ≤ second.2) :
    ∃ limiter checked, run (new capacity refillPerMin) checks = some (limiter, checked) ∧
      (∃ chain, Chained chain limiter.links ∧
        (∀ key, key ∈ chain ↔ (limiter.buckets.row key).isSome) ∧
        chain = recent inboundRateLruCapacity (if capacity = 0 then [] else checks.map Prod.fst)) ∧
      limiter.buckets.keys.card ≤ inboundRateLruCapacity ∧
      (capacity ≠ 0 → ∀ entry ∈ checked, entry.sender ∈ entry.after) ∧
      ∀ sender since until_, since ≤ until_ →
        (∀ entry ∈ checked, since ≤ entry.now → entry.now ≤ until_ → ¬ Evicts sender entry) →
        (admissions sender since until_ checked : ℚ) ≤
          capacity.toNat + refillPerMin.toNat / 60 * (until_ - since) := by
  by_cases closed : capacity = 0
  · subst closed
    have few : (new 0 refillPerMin : InboundRateLimiter PublicKey).capacity < 1 := by
      simp [new]
    refine ⟨_, _, run_closed few checks, ⟨[], (kept_new 0 refillPerMin).chained,
      (kept_new 0 refillPerMin).keys, ?_⟩, ?_, fun open_ => absurd rfl open_, ?_⟩
    · rw [if_pos rfl, recent_nil]
    · rw [(kept_new 0 refillPerMin).card]
      exact Nat.zero_le _
    · intro sender since until_ interval _
      have none : admissions sender since until_ (checks.map fun check =>
          (⟨check.1, check.2, false, (new 0 refillPerMin : InboundRateLimiter PublicKey).buckets.keys,
            (new 0 refillPerMin : InboundRateLimiter PublicKey).buckets.keys⟩ :
              Checked PublicKey)) = 0 := by
        refine List.countP_eq_zero.mpr fun entry member => ?_
        obtain ⟨check, -, rfl⟩ := List.mem_map.mp member
        simp
      rw [none, Nat.cast_zero]
      have refill : (0 : ℚ) ≤ refillPerMin.toNat / 60 := div_nonneg (Nat.cast_nonneg _) (by norm_num)
      exact add_nonneg (Nat.cast_nonneg _) (mul_nonneg refill (sub_nonneg.mpr interval))
  · have able : 1 ≤ (new capacity refillPerMin : InboundRateLimiter PublicKey).capacity := by
      have positive : 0 < capacity.toNat := Nat.pos_of_ne_zero fun zero =>
        closed (UInt32.toNat_inj.mp zero)
      show (1 : ℚ) ≤ (capacity.toNat : ℚ)
      exact_mod_cast positive
    have start : Kept (recent inboundRateLruCapacity ([] : List PublicKey))
        (new capacity refillPerMin) := by
      rw [recent_nil]
      exact kept_new capacity refillPerMin
    obtain ⟨last, checked, ran, kept, trace, same⟩ := run_spec checks [] _ start able
    refine ⟨last, checked, ran, ⟨_, kept.chained, kept.keys, by rw [if_neg closed, List.nil_append]⟩,
      ?_, fun _ => trace.sender_mem, ?_⟩
    · rw [kept.card]
      exact recent_length _ _
    · intro sender since until_ interval retained
      have times : checked.Pairwise fun first second => first.now ≤ second.now := by
        rw [← same] at ordered
        have times := List.pairwise_map.mp ordered
        exact times
      have bound := trace.admissions_le interval (solvent_new capacity refillPerMin) times retained
      rw [mul_comm] at bound
      exact bound

/-- **Four checks of one sender with a capacity of two**: the third finds the bucket empty, a minute
later it is filled again. -/
theorem limiter_sound_refills :
    ∃ limiter checked, run (new 2 6) [(1, 0), (1, 0), (1, 0), (1, 60)] = some (limiter, checked) ∧
      checked.map Checked.admitted = [true, true, false, true] ∧
      (admissions 1 0 60 checked : ℚ) ≤
        (2 : UInt32).toNat + (6 : UInt32).toNat / 60 * (60 - 0) := by
  have answers : (run (new 2 6) [(1, 0), (1, 0), (1, 0), (1, 60)]).map (fun result =>
      result.2.map fun entry => (entry.admitted, decide ((1 : ℕ) ∈ entry.after))) =
        some [(true, true), (true, true), (false, true), (true, true)] := by decide +kernel
  obtain ⟨limiter, checked, ran, -, -, -, budget⟩ :=
    limiter_sound 2 6 [((1 : ℕ), (0 : ℚ)), (1, 0), (1, 0), (1, 60)] (by decide)
  rw [ran] at answers
  have answers := Option.some.inj answers
  refine ⟨limiter, checked, ran, ?_, budget 1 0 60 (by norm_num) fun entry member _ _ evicted => ?_⟩
  · have admitted := congrArg (List.map Prod.fst) answers
    simpa [List.map_map, Function.comp_def] using admitted
  · have listed := List.mem_map_of_mem
      (f := fun entry : Checked ℕ => (entry.admitted, decide (1 ∈ entry.after))) member
    have answered : checked.map (fun entry => (entry.admitted, decide ((1 : ℕ) ∈ entry.after))) =
      [(true, true), (true, true), (false, true), (true, true)] := answers
    rw [answered] at listed
    have gone : decide (1 ∈ entry.after) = false := decide_eq_false evicted.2
    simp [gone] at listed

end InboundRateLimiter

end Lnrent.RateLimiter
