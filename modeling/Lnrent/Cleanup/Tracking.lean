/-
**The resource is tracked.** Any number of drives and recovery passes of one subscription interleave,
with hooks that fail, other modules' transactions and crashes.

* `Moved` — everything a step of a task can do;
* `Steady`, `Names` — a cleanup entry means that the order left PROVISIONING without a live instance,
  and every cleanup a task works on has its entry;
* `Hooked`, `Untracked`, `Accounted` — where nothing tracks the resource, a drive that ran its hook is
  still on its way to its transaction;
* `Attentive` — no such drive is cut off when it is the last one to know of the resource;
* `resource_tracked` — **no resource is leaked, and none of a live instance is destroyed**;
* `crash_leaks` — two drives and a crash after which nothing tracks the resource.
-/

import Lnrent.Daemon.Provisioner

namespace Lnrent.Cleanup

open Relational Transition Provision Provisioner

/-! ### What tracks the resource -/

/-- A pending entry of the subscription, open or done. -/
def PendingEntry (store : Store) (id : OrderId) (key : ℕ) : Prop :=
  ∃ event, store.eventLog.rows.row key = some event ∧ event.subscriptionId = some id ∧
    event.kind = .provisionCleanupPending

/-- The order left PROVISIONING, and no live instance row is left of it. -/
structure Left (store : Store) (id : OrderId) : Prop where
  provisioning : ¬ Provisioning store id
  live : ¬ HasLiveInstance store id

theorem openCleanup_iff {store : Store} {id : OrderId} {key : ℕ} :
    OpenCleanup store id key ↔ PendingEntry store id key ∧ ¬ CleanupDone store key (some id) := by
  unfold OpenCleanup PendingEntry
  constructor
  · rintro ⟨event, found, owner, kind, done⟩
    exact ⟨⟨event, found, owner, kind⟩, done⟩
  · rintro ⟨⟨event, found, owner, kind⟩, done⟩
    exact ⟨event, found, owner, kind, done⟩

/-- **The invariant of the store.** -/
structure Steady (id : OrderId) (store : Store) : Prop where
  left : ∀ key, PendingEntry store id key → Left store id
  waiting : Provisioning store id → ¬ HasLiveInstance store id
  done : ∀ key, CleanupDone store key (some id) → key ≤ store.eventLog.last

/-- **Where a run begins**: no cleanup of the subscription was ever journaled, and an order that is
PROVISIONING has no instance yet. -/
structure Uncleaned (store : Store) (id : OrderId) : Prop where
  entries : ∀ key event, store.eventLog.rows.row key = some event → ¬ IsCleanup id event
  waiting : Provisioning store id → ¬ HasLiveInstance store id

theorem Uncleaned.steady {store : Store} {id : OrderId} (uncleaned : Uncleaned store id) :
    Steady id store where
  left key pending := by
    obtain ⟨event, found, owner, kind⟩ := pending
    exact absurd ⟨owner, .inl kind⟩ (uncleaned.entries key event found)
  waiting := uncleaned.waiting
  done key done := by
    obtain ⟨other, event, found, owner, -, kind, -⟩ := done
    exact absurd ⟨owner, .inr kind⟩ (uncleaned.entries other event found)

/-! ### Journal entries -/

section Journal

variable {before after : Store} {id : OrderId} {event : EventRow} {key : ℕ}

theorem pendingEntry_append (journal : after.eventLog = before.eventLog.append event) :
    PendingEntry after id key ↔ PendingEntry before id key ∨
      key = before.eventLog.last + 1 ∧ event.subscriptionId = some id ∧
        event.kind = .provisionCleanupPending := by
  unfold PendingEntry
  simp only [journal, Journal.append_row_eq_some]
  constructor
  · rintro ⟨entry, ⟨rfl, rfl⟩ | found, rest⟩
    · exact .inr ⟨rfl, rest⟩
    · exact .inl ⟨entry, found, rest⟩
  · rintro (⟨entry, found, rest⟩ | ⟨rfl, rest⟩)
    · exact ⟨entry, .inr found, rest⟩
    · exact ⟨event, .inl ⟨rfl, rfl⟩, rest⟩

theorem cleanupDone_append (journal : after.eventLog = before.eventLog.append event) :
    CleanupDone after key (some id) ↔ CleanupDone before key (some id) ∨
      event.subscriptionId = some id ∧ event.kind = .provisionCleanupDone ∧
        event.detail = cleanupDoneDetail key := by
  unfold CleanupDone Table.Any
  simp only [journal, Journal.append_row_eq_some]
  constructor
  · rintro ⟨other, entry, ⟨rfl, rfl⟩ | found, owner, known, rest⟩
    · exact .inr ⟨owner, rest⟩
    · exact .inl ⟨other, entry, found, owner, known, rest⟩
  · rintro (⟨other, entry, found, rest⟩ | ⟨owner, rest⟩)
    · exact ⟨other, entry, .inr found, rest⟩
    · exact ⟨_, event, .inl ⟨rfl, rfl⟩, owner, nofun, rest⟩

theorem cleanupDoneDetail_injective {first second : ℕ}
    (same : cleanupDoneDetail first = cleanupDoneDetail second) : first = second := by
  simpa [cleanupDoneDetail] using same

end Journal

/-- The cleanup entries of the subscription are as before. -/
structure SameEntries (id : OrderId) (before after : Store) : Prop where
  pending : ∀ key, PendingEntry after id key ↔ PendingEntry before id key
  done : ∀ key, CleanupDone after key (some id) ↔ CleanupDone before key (some id)
  last : before.eventLog.last ≤ after.eventLog.last

section SameEntries

variable {id : OrderId} {before between after : Store}

theorem SameEntries.of_log (same : after.eventLog = before.eventLog) : SameEntries id before after where
  pending key := by
    unfold PendingEntry
    rw [same]
  done key := by
    unfold CleanupDone
    rw [same]
  last := same.symm ▸ le_rfl

theorem SameEntries.trans (first : SameEntries id before between)
    (second : SameEntries id between after) : SameEntries id before after where
  pending key := (second.pending key).trans (first.pending key)
  done key := (second.done key).trans (first.done key)
  last := first.last.trans second.last

/-- An entry of something else. -/
theorem SameEntries.append {event : EventRow} (journal : after.eventLog = before.eventLog.append event)
    (other : ¬ IsCleanup id event) : SameEntries id before after where
  pending key := (pendingEntry_append journal).trans
    (or_iff_left fun new => other ⟨new.2.1, .inl new.2.2⟩)
  done key := (cleanupDone_append journal).trans
    (or_iff_left fun new => other ⟨new.1, .inr new.2.1⟩)
  last := by
    rw [journal]
    exact Nat.le_succ _

/-- A write to other tables, and one entry of something else. -/
theorem SameEntries.log (base : Store) (kind : EventKind) (detail : Detail) (now : ℤ)
    (same : base.eventLog = before.eventLog)
    (other : kind ≠ .provisionCleanupPending ∧ kind ≠ .provisionCleanupDone) :
    SameEntries id before (base.log (some id) kind detail now) := by
  have logged : SameEntries id base (base.log (some id) kind detail now) :=
    .append rfl fun cleanup => cleanup.2.elim other.1 other.2
  exact (SameEntries.of_log same).trans logged

theorem Elsewhere.sameEntries (elsewhere : Elsewhere id before after) : SameEntries id before after where
  pending key := by
    constructor
    · rintro ⟨event, found, owner, kind⟩
      exact ⟨event, (elsewhere.cleanups key event ⟨owner, .inl kind⟩).mp found, owner, kind⟩
    · rintro ⟨event, found, owner, kind⟩
      exact ⟨event, (elsewhere.cleanups key event ⟨owner, .inl kind⟩).mpr found, owner, kind⟩
  done key := by
    constructor
    · rintro ⟨other, event, found, owner, known, kind, detail⟩
      exact ⟨other, event, (elsewhere.cleanups other event ⟨owner, .inr kind⟩).mp found, owner, known,
        kind, detail⟩
    · rintro ⟨other, event, found, owner, known, kind, detail⟩
      exact ⟨other, event, (elsewhere.cleanups other event ⟨owner, .inr kind⟩).mpr found, owner, known,
        kind, detail⟩
  last := elsewhere.last

theorem SameEntries.openCleanup (same : SameEntries id before after) (key : ℕ) :
    OpenCleanup after id key ↔ OpenCleanup before id key := by
  rw [openCleanup_iff, openCleanup_iff, same.pending, same.done]

theorem Steady.same (steady : Steady id before) (same : SameEntries id before after)
    (left : Left before id → Left after id)
    (waiting : Provisioning after id → ¬ HasLiveInstance after id) : Steady id after where
  left key pending := left (steady.left key ((same.pending key).mp pending))
  waiting := waiting
  done key done := (steady.done key ((same.done key).mp done)).trans same.last

end SameEntries

/-! ### What the transactions do -/

section Transactions

variable {store after : Store} {id : OrderId} {paidThrough softDate now : ℤ}

theorem left_congr (subscription : after.subscription = store.subscription)
    (instances : after.instance_ = store.instance_) : Left after id ↔ Left store id := by
  have provisioning : Provisioning after id ↔ Provisioning store id := by
    unfold Provisioning
    rw [subscription]
  have live : HasLiveInstance after id ↔ HasLiveInstance store id := by
    unfold HasLiveInstance
    rw [subscription, instances]
  exact ⟨fun left => ⟨mt provisioning.mpr left.provisioning, mt live.mpr left.live⟩,
    fun left => ⟨mt provisioning.mp left.provisioning, mt live.mp left.live⟩⟩

/-- **A cleanup entry of an order that left**: it is open, and gets the next key. -/
theorem cleanupPending_spec (steady : Steady id store) (left : Left store id) (now : ℤ) :
    Steady id (cleanupPending store id now) ∧ Left (cleanupPending store id now) id ∧
      OpenCleanup (cleanupPending store id now) id (store.eventLog.last + 1) ∧
      ∀ key, PendingEntry store id key → PendingEntry (cleanupPending store id now) id key := by
  have journal : (cleanupPending store id now).eventLog = store.eventLog.append
      ⟨some id, .provisionCleanupPending, {}, now⟩ := rfl
  have left' : Left (cleanupPending store id now) id := (@left_congr store (cleanupPending store id now) id rfl rfl).mpr left
  have done : ∀ key, CleanupDone (cleanupPending store id now) key (some id) →
      CleanupDone store key (some id) := fun key done =>
    ((cleanupDone_append journal).mp done).resolve_right fun new => absurd new.2.1 nofun
  refine ⟨⟨fun _ _ => left', fun waits => absurd waits left'.provisioning, fun key isDone => ?_⟩, left',
    openCleanup_iff.mpr ⟨(pendingEntry_append journal).mpr (.inr ⟨rfl, rfl, rfl⟩), fun isDone => ?_⟩,
    fun key pending => (pendingEntry_append journal).mpr (.inl pending)⟩
  · exact (steady.done key (done key isDone)).trans (Nat.le_succ _)
  · exact absurd (steady.done _ (done _ isDone)) (Nat.not_succ_le_self _)

/-- An `ActiveWrite` that is refused by a constraint found the order PROVISIONING. -/
theorem activeWrite_none (refused : activeWrite store id paidThrough softDate now = none) :
    Provisioning store id := by
  by_contra other
  unfold activeWrite at refused
  cases found : store.subscription.row id with
  | none => simp [found] at refused
  | some row =>
      have moved : row.state ≠ .provisioning := fun state => other (by simp [Provisioning, found, state])
      simp [found, moved] at refused

/-- **What `ActiveWrite` did**: it activated a waiting order, found its hold lost, or lost the swap. -/
theorem activeWrite_some {outcome : ActiveOutcome}
    (committed : activeWrite store id paidThrough softDate now = some (outcome, after)) :
    (outcome = .activated ∧ ¬ Provisioning after id ∧ HasLiveInstance after id ∧
        Provisioning store id ∧ SameEntries id store after) ∨
      (outcome = .capacityHoldLost ∧ after = store) ∨
      (outcome = .lost ∧ ¬ Provisioning store id ∧ after = claimCleanupIfUnowned store id now) := by
  unfold activeWrite at committed
  cases found : store.subscription.row id with
  | none =>
      simp only [found, Option.some.injEq, Prod.mk.injEq] at committed
      exact .inr (.inr ⟨committed.1.symm, by simp [Provisioning, found], committed.2.symm⟩)
  | some row =>
      by_cases provisioning : row.state = .provisioning
      · simp only [found, provisioning, ne_eq, not_true_eq_false, if_false] at committed
        split at committed
        · simp only [Option.some.injEq, Prod.mk.injEq] at committed
          exact .inr (.inl ⟨committed.1.symm, committed.2.symm⟩)
        · rename_i consumed isConsumed
          split_ifs at committed
          simp only [Option.some.injEq, Prod.mk.injEq] at committed
          obtain ⟨rfl, rfl⟩ := committed
          obtain ⟨held, -, -, rfl⟩ := Reservation.consumeTxn_cases isConsumed
          refine .inl ⟨rfl, ?_, ?_, by simp [Provisioning, found, provisioning], ?_⟩
          · simp [Provisioning, Store.log, activated]
          · exact ⟨_, Table.put_row_self _ _ _, id, rfl, _, Table.put_row_self _ _ _, rfl, by simp⟩
          · exact (SameEntries.log _ .reserveConsume {} now rfl (by simp)).trans
              (.log _ .provisionActive {} now rfl (by simp))
      · simp only [found, provisioning, ne_eq, not_false_eq_true, if_true, Option.some.injEq,
          Prod.mk.injEq] at committed
        exact .inr (.inr ⟨committed.1.symm, by simp [Provisioning, found, provisioning],
          committed.2.symm⟩)

/-- **What `RefundDueWrite` did** to a waiting order. -/
theorem refundDueWrite_spec {target : Target} (steady : Steady id store)
    (waits : Provisioning store id) :
    Steady id (refundDueWrite store id target now) ∧
      OpenCleanup (refundDueWrite store id target now) id (store.eventLog.last + 1) ∧
      ∀ key, PendingEntry store id key → PendingEntry (refundDueWrite store id target now) id key := by
  obtain ⟨row, found, provisioning⟩ := Option.map_eq_some_iff.mp waits
  let moved : Store := (Capture.insertRefundAttemptTxn { store with
    subscription := store.subscription.put id
      { row with state := .refundDue, nextDeadline := none, updatedAt := now } } (some id)
    target.refundDest target.orderExternalId target.orderAmountSat).2
  have written : refundDueWrite store id target now =
      (cleanupPending moved id now).log (some id) .provisionFailed {} now := by
    unfold refundDueWrite
    simp only [found, provisioning, ne_eq, not_true_eq_false, if_false]
    rfl
  have journal : moved.eventLog = store.eventLog := (Capture.insertRefundAttemptTxn_frame ..).2.1
  have entries : SameEntries id store moved := .of_log journal
  have frame : moved.subscription = store.subscription.put id
      { row with state := .refundDue, nextDeadline := none, updatedAt := now } ∧
      moved.instance_ = store.instance_ :=
    ⟨(Capture.insertRefundAttemptTxn_frame ..).1.subscription,
      (Capture.insertRefundAttemptTxn_frame ..).1.instance_⟩
  have left : Left moved id := by
    refine ⟨?_, fun live => steady.waiting waits ?_⟩
    · simp [Provisioning, frame.1]
    · obtain ⟨row', found', rest⟩ := live
      rw [frame.1, Table.put_row_self] at found'
      cases found'
      rw [frame.2] at rest
      exact ⟨row, found, rest⟩
  have same : SameEntries id (cleanupPending moved id now)
      ((cleanupPending moved id now).log (some id) .provisionFailed {} now) :=
    .log _ _ _ _ rfl ⟨nofun, nofun⟩
  have steadyMoved : Steady id moved :=
    steady.same entries (fun _ => left) fun waits => absurd waits left.provisioning
  obtain ⟨kept, left', opened, pending⟩ := cleanupPending_spec steadyMoved left now
  rw [written]
  have left'' := (@left_congr (cleanupPending moved id now)
    ((cleanupPending moved id now).log (some id) .provisionFailed {} now) id rfl rfl).mpr left'
  refine ⟨kept.same same (fun _ => left'') fun waits => absurd waits left''.provisioning, ?_,
    fun key old => ?_⟩
  · rw [← journal]
    exact (same.openCleanup _).mpr opened
  · exact (same.pending key).mpr (pending key ((entries.pending key).mpr old))

/-- The swap of `RefundDueWrite` is lost by an order that left. -/
theorem refundDueWrite_lost {target : Target} (left : ¬ Provisioning store id) :
    refundDueWrite store id target now = claimCleanupIfUnowned store id now ∧
      refundDueIntent store id = cleanupIntent store id := by
  refine ⟨?_, if_neg left⟩
  unfold refundDueWrite
  cases found : store.subscription.row id with
  | none => rfl
  | some row =>
      have moved : row.state ≠ .provisioning := fun state => left (by simp [Provisioning, found, state])
      simp only [if_pos moved]

/-- **A done entry**: every other cleanup stays open, and all entries stay. -/
theorem finishFailedCleanup_spec {event : ℕ} (steady : Steady id store) (now : ℤ) :
    Steady id (finishFailedCleanup store event id now) ∧
      (Left (finishFailedCleanup store event id now) id ↔ Left store id) ∧
      (∀ key, PendingEntry store id key → PendingEntry (finishFailedCleanup store event id now) id key) ∧
      ∀ key, key ≠ event → OpenCleanup store id key →
        OpenCleanup (finishFailedCleanup store event id now) id key := by
  unfold finishFailedCleanup
  cases found : store.eventLog.rows.row event with
  | none => exact ⟨steady, .rfl, fun _ old => old, fun _ _ isOpen => isOpen⟩
  | some entry =>
      simp only
      split_ifs with isOpen
      · have journal : (store.log (some id) .provisionCleanupDone (cleanupDoneDetail event) now).eventLog =
            store.eventLog.append ⟨some id, .provisionCleanupDone, cleanupDoneDetail event, now⟩ := rfl
        have left := @left_congr store (store.log (some id) .provisionCleanupDone
          (cleanupDoneDetail event) now) id rfl rfl
        have pending : ∀ key, PendingEntry (store.log (some id) .provisionCleanupDone
            (cleanupDoneDetail event) now) id key ↔ PendingEntry store id key := fun key =>
          (pendingEntry_append journal).trans (or_iff_left fun new => absurd new.2.2 nofun)
        refine ⟨⟨fun key old => left.mpr (steady.left key ((pending key).mp old)), steady.waiting,
          fun key isDone => ?_⟩, left, fun key => (pending key).mpr, fun key other isOpen => ?_⟩
        · obtain old | ⟨-, -, same⟩ := (cleanupDone_append journal).mp isDone
          · exact (steady.done key old).trans (Nat.le_succ _)
          · obtain rfl := cleanupDoneDetail_injective same
            exact (store.eventLog.le_last found).trans (Nat.le_succ _)
        · obtain ⟨old, notDone⟩ := openCleanup_iff.mp isOpen
          refine openCleanup_iff.mpr ⟨(pending key).mpr old, fun isDone => ?_⟩
          obtain done | ⟨-, -, same⟩ := (cleanupDone_append journal).mp isDone
          · exact notDone done
          · exact other (cleanupDoneDetail_injective same).symm
      · exact ⟨steady, .rfl, fun _ old => old, fun _ _ isOpen => isOpen⟩

end Transactions

/-! ### What a step of a task does -/

/-- **The drive has run its hook**, and its transaction is still to come. -/
def Hooked : Phase → Prop
  | .provisioning _ failed => 0 < failed
  | .provisioned .. | .activating _ | .failing _ => True
  | _ => False

instance : DecidablePred Hooked
  | .provisioning _ failed => inferInstanceAs (Decidable (0 < failed))
  | .provisioned .. | .activating _ | .failing _ => .isTrue trivial
  | .scanning | .loading | .cleaning .. | .finishing .. | .listing => .isFalse not_false

/-- The task removed the resource, and is about to close the entry. -/
def Finishes (key : ℕ) : Phase → Prop
  | .finishing event _ => event = key
  | _ => False

instance (key : ℕ) : DecidablePred (Finishes key)
  | .finishing event _ => inferInstanceAs (Decidable (event = key))
  | .scanning | .loading | .provisioning .. | .provisioned .. | .activating _ | .failing _
  | .cleaning .. | .listing => .isFalse not_false

/-- The task has the cleanup of the entry to do. -/
def Names (key : ℕ) : Phase → Prop
  | .cleaning event pass | .finishing event pass =>
      key = event ∨ ∃ rest, pass = some rest ∧ key ∈ rest
  | _ => False

/-- What is left of a task afterwards has no hook behind it and no entry to close, and no cleanup but
those it had. -/
structure Quiet (phase : Phase) (next : Option Phase) : Prop where
  hooked : ∀ after, next = some after → ¬ Hooked after
  finishes : ∀ after, next = some after → ∀ key, ¬ Finishes key after
  names : ∀ after, next = some after → ∀ key, Names key after → Names key phase

theorem quiet_none (phase : Phase) : Quiet phase none := by
  refine ⟨?_, ?_, ?_⟩ <;> rintro _ ⟨⟩

/-- The task goes on to a phase of its own. -/
theorem quiet_some {phase after : Phase} (hooked : ¬ Hooked after)
    (finishes : ∀ key, ¬ Finishes key after) (names : ∀ key, Names key after → Names key phase) :
    Quiet phase (some after) := by
  refine ⟨?_, ?_, ?_⟩ <;> rintro _ ⟨⟩
  · exact hooked
  · exact finishes
  · exact names

theorem quiet_ended (phase : Phase) (recovering : Bool) : Quiet phase (ended recovering) := by
  cases recovering with
  | true => exact quiet_some not_false (fun _ => not_false) fun _ => False.elim
  | false => exact quiet_none phase

theorem quiet_cleaned {phase : Phase} {pass : Option (List ℕ)} (recovering : Bool)
    (named : ∀ rest, pass = some rest → ∀ key ∈ rest, Names key phase) :
    Quiet phase (cleaned recovering pass) := by
  match pass with
  | none => exact quiet_ended phase recovering
  | some [] => exact quiet_none phase
  | some (event :: rest) =>
      refine quiet_some not_false (fun _ => not_false) ?_
      rintro key (rfl | ⟨_, ⟨⟩, member⟩)
      · exact named _ rfl _ List.mem_cons_self
      · exact named _ rfl _ (List.mem_cons_of_mem _ member)

/-- The next transaction of the drive decides who owns the resource. -/
def Deciding : Phase → Prop
  | .activating _ | .failing _ => True
  | _ => False

instance : DecidablePred Deciding
  | .activating _ | .failing _ => .isTrue trivial
  | .scanning | .loading | .provisioning .. | .provisioned .. | .cleaning .. | .finishing ..
  | .listing => .isFalse not_false

/-- **Everything a step of a task can do.** -/
inductive Moved (id : OrderId) (shared : Shared) (answer : Answer) :
    Phase → Shared → Option Phase → Prop where
  /-- It read, or ended, before any hook ran. -/
  | read {phase : Phase} {next : Option Phase} (idle : ¬ Hooked phase) (open_ : ∀ key, ¬ Finishes key phase)
      (quiet : Quiet phase next) : Moved id shared answer phase shared next
  | made (loaded : Loaded) (failed : ℕ) : Moved id shared answer (.provisioning loaded failed)
      { shared with resource := true } (some (.provisioned loaded failed))
  /-- The hook reported, or the hold turned out lost: the drive still has its transaction to do. -/
  | on {phase next : Phase} (was : Hooked phase) (stays : Hooked next) :
      Moved id shared answer phase shared (some next)
  | cut {phase : Phase} {next : Option Phase} (deciding : Deciding phase)
      (failed : answer.storeError = true) (quiet : Quiet phase next) :
      Moved id shared answer phase shared next
  /-- The transaction left the store alone, since the order waits, or its instance is live. -/
  | owned {phase : Phase} {next : Option Phase} (deciding : Deciding phase)
      (tracked : ¬ Left shared.store id) (quiet : Quiet phase next) :
      Moved id shared answer phase shared next
  | activated {phase : Phase} {next : Option Phase} {store : Store} (deciding : Deciding phase)
      (waited : Provisioning shared.store id) (moved : ¬ Provisioning store id)
      (live : HasLiveInstance store id) (entries : SameEntries id shared.store store)
      (quiet : Quiet phase next) : Moved id shared answer phase { shared with store } next
  | claimed {phase : Phase} (now : ℤ) (deciding : Deciding phase) (left : Left shared.store id) :
      Moved id shared answer phase { shared with store := cleanupPending shared.store id now }
        (some (.cleaning (shared.store.eventLog.last + 1) none))
  | refunded {phase : Phase} (target : Target) (now : ℤ) (deciding : Deciding phase)
      (waited : Provisioning shared.store id) :
      Moved id shared answer phase
        { shared with store := refundDueWrite shared.store id target now }
        (some (.cleaning (shared.store.eventLog.last + 1) none))
  | purged (event : ℕ) (pass : Option (List ℕ)) : Moved id shared answer (.cleaning event pass)
      { shared with resource := false } (some (.finishing event pass))
  | unpurged {event : ℕ} {pass : Option (List ℕ)} {next : Option Phase} {resource : Bool}
      (less : resource = true → shared.resource = true) (quiet : Quiet (.cleaning event pass) next) :
      Moved id shared answer (.cleaning event pass) { shared with resource } next
  | unfinished {event : ℕ} {pass : Option (List ℕ)} {next : Option Phase}
      (quiet : Quiet (.finishing event pass) next) :
      Moved id shared answer (.finishing event pass) shared next
  | finished {event : ℕ} {pass : Option (List ℕ)} {next : Option Phase} (now : ℤ)
      (quiet : Quiet (.finishing event pass) next) :
      Moved id shared answer (.finishing event pass)
        { shared with store := finishFailedCleanup shared.store event id now } next
  /-- A pass listed its entries. -/
  | listed {next : Phase} (hooked : ¬ Hooked next) (finishes : ∀ key, ¬ Finishes key next)
      (names : ∀ key, Names key next → PendingEntry shared.store id key) :
      Moved id shared answer .listing shared (some next)

theorem mem_openCleanups {store : Store} {id : OrderId} {key : ℕ}
    (member : key ∈ openCleanups store id) : OpenCleanup store id key :=
  (Finset.mem_filter.mp ((Finset.mem_sort _).mp member)).2

/-- The intent of a lost swap, and what the drive does with it. -/
theorem moved_lost {id : OrderId} {shared : Shared} {answer : Answer} {phase : Phase}
    (recovering : Bool) (deciding : Deciding phase) (left : ¬ Provisioning shared.store id) (now : ℤ) :
    Moved id shared answer phase
      { shared with store := claimCleanupIfUnowned shared.store id now }
      (intended recovering (cleanupIntent shared.store id)) := by
  unfold claimCleanupIfUnowned cleanupIntent
  split_ifs with live
  · exact .owned deciding (fun gone => gone.live live) (quiet_ended _ _)
  · exact .claimed now deciding ⟨left, live⟩

/-- **Every step of a task** does one of these. -/
theorem advance_moved (recipe : Recipe) (id : OrderId) (shared : Shared) (recovering : Bool)
    (answer : Answer) (phase : Phase) :
    Moved id shared answer phase (advance recipe id shared recovering answer phase).1
      (advance recipe id shared recovering answer phase).2 := by
  cases phase with
  | scanning =>
      simp only [advance]
      split_ifs
      · exact .read not_false (fun _ => not_false) (quiet_none _)
      · exact .read not_false (fun _ => not_false)
          (quiet_some not_false (fun _ => not_false) fun _ => False.elim)
      · exact .read not_false (fun _ => not_false) (quiet_ended _ true)
  | loading =>
      have skipped : Moved id shared answer .loading shared (ended recovering) :=
        .read not_false (fun _ => not_false) (quiet_ended _ _)
      cases failed : answer.storeError with
      | true => simpa only [advance, failed, if_true] using skipped
      | false =>
          cases loaded : loadTarget shared.store id answer.order with
          | none => simpa [advance, failed, loaded] using skipped
          | some target =>
              by_cases other : target.state ≠ .provisioning ∨ ¬ Driven recipe shared.store id
              · simpa [advance, failed, loaded, other] using skipped
              · cases settled : target.settledAt with
                | none => simpa [advance, failed, loaded, other, settled] using skipped
                | some settledAt =>
                    simp only [advance, failed, loaded, if_neg other, settled]
                    exact .read not_false (fun _ => not_false)
                      (quiet_some (Nat.lt_irrefl 0) (fun _ => not_false) fun _ => False.elim)
  | provisioning loaded failed => exact .made loaded failed
  | provisioned loaded failed =>
      simp only [advance]
      split_ifs
      · exact .on trivial trivial
      · exact .on trivial (Nat.succ_pos _)
      · exact .on trivial trivial
  | activating loaded =>
      cases failed : answer.storeError with
      | true =>
          simp only [advance, failed, if_true]
          exact .cut trivial failed (quiet_ended _ _)
      | false =>
          simp only [advance, failed]
          cases committed : activeWrite shared.store id (loaded.settledAt + loaded.target.periodS)
              (loaded.settledAt + loaded.target.periodS - loaded.target.renewLeadS) answer.now with
          | none =>
              simp only
              exact .owned trivial (fun left => left.provisioning (activeWrite_none committed))
                (quiet_ended _ _)
          | some result =>
              obtain ⟨outcome, store⟩ := result
              obtain ⟨rfl, moved, live, waited, entries⟩ | ⟨rfl, rfl⟩ | ⟨rfl, left, rfl⟩ :=
                activeWrite_some committed
              · exact .activated trivial waited moved live entries (quiet_ended _ _)
              · exact .on trivial trivial
              · exact @moved_lost id shared answer (.activating loaded) recovering trivial left answer.now
  | failing loaded =>
      cases failed : answer.storeError with
      | true =>
          simp only [advance, failed, if_true]
          exact .cut trivial failed (quiet_ended _ _)
      | false =>
          simp only [advance, failed]
          by_cases waits : Provisioning shared.store id
          · have intent : refundDueIntent shared.store id =
                .pending (shared.store.eventLog.last + 1) := if_pos waits
            rw [intent]
            exact .refunded loaded.target answer.now trivial waits
          · obtain ⟨written, intent⟩ := @refundDueWrite_lost shared.store id answer.now loaded.target waits
            rw [written, intent]
            exact @moved_lost id shared answer (.failing loaded) recovering trivial waits answer.now
  | cleaning event pass =>
      cases gone : answer.destroyed with
      | true =>
          simp only [advance, gone, if_true]
          exact .purged event pass
      | false =>
          simp only [advance, gone]
          refine .unpurged (fun both => (Bool.and_eq_true_iff.mp both).1) (quiet_cleaned _ ?_)
          exact fun rest same key named => .inr ⟨rest, same, named⟩
  | finishing event pass =>
      have later : ∀ rest, pass = some rest → ∀ key ∈ rest, Names key (.finishing event pass) :=
        fun rest same key named => .inr ⟨rest, same, named⟩
      cases failed : answer.storeError with
      | true =>
          simp only [advance, failed, if_true]
          refine .unfinished ?_
          cases pass with
          | none => exact quiet_ended _ _
          | some rest => exact quiet_none _
      | false =>
          simp only [advance, failed]
          exact .finished answer.now (quiet_cleaned _ later)
  | listing =>
      simp only [advance]
      split_ifs with failed
      · exact .read not_false (fun _ => not_false) (quiet_none _)
      · have named := fun key => @mem_openCleanups shared.store id key
        match openCleanups shared.store id, named with
        | [], _ => exact .read not_false (fun _ => not_false) (quiet_none _)
        | event :: rest, named =>
            refine .listed not_false (fun _ => not_false) ?_
            rintro key (rfl | ⟨_, ⟨⟩, member⟩)
            · exact (openCleanup_iff.mp (named _ List.mem_cons_self)).1
            · exact (openCleanup_iff.mp (named _ (List.mem_cons_of_mem _ member))).1

/-! ### The cleanups of the tasks -/

/-- Every cleanup the task works on has its entry. -/
def Knows (id : OrderId) (shared : Shared) (_ : ℕ) (thread : Thread) : Prop :=
  ∀ key, Names key thread.phase → PendingEntry shared.store id key

/-- What a step leaves behind. -/
structure Owes (id : OrderId) (shared after : Shared) (next : Option Phase) : Prop where
  steady : Steady id after.store
  kept : ∀ key, PendingEntry shared.store id key → PendingEntry after.store id key
  names : ∀ phase, next = some phase → ∀ key, Names key phase → PendingEntry after.store id key

theorem moved_owes {id : OrderId} {shared after : Shared} {answer : Answer} {phase : Phase}
    {next : Option Phase} (moved : Moved id shared answer phase after next)
    (steady : Steady id shared.store)
    (named : ∀ key, Names key phase → PendingEntry shared.store id key) : Owes id shared after next := by
  have quietly : ∀ {resource : Bool}, Quiet phase next →
      Owes id shared { shared with resource := resource } next := fun quiet =>
    ⟨steady, fun _ pending => pending, fun after is key names => named key (quiet.names after is key names)⟩
  cases moved with
  | read idle open_ quiet => exact quietly quiet
  | cut deciding failed quiet => exact quietly quiet
  | owned deciding tracked quiet => exact quietly quiet
  | unpurged less quiet => exact quietly quiet
  | unfinished quiet => exact quietly quiet
  | made loaded failed =>
      refine ⟨steady, fun _ pending => pending, ?_⟩
      rintro _ ⟨⟩ key names
      exact names.elim
  | @on phase after was stays =>
      refine ⟨steady, fun _ pending => pending, ?_⟩
      rintro _ ⟨⟩ key names
      cases after with
      | cleaning | finishing => exact stays.elim
      | _ => exact names.elim
  | activated deciding waited left live entries quiet =>
      refine ⟨steady.same entries (fun gone => absurd waited gone.provisioning)
        fun waits => absurd waits left, fun key => (entries.pending key).mpr, fun after is key names => ?_⟩
      exact (entries.pending key).mpr (named key (quiet.names after is key names))
  | claimed now deciding left =>
      obtain ⟨steady', -, isOpen, kept⟩ := cleanupPending_spec steady left now
      refine ⟨steady', kept, ?_⟩
      rintro _ ⟨⟩ key (rfl | ⟨_, ⟨⟩, _⟩)
      exact (openCleanup_iff.mp isOpen).1
  | refunded target now deciding waited =>
      obtain ⟨steady', isOpen, kept⟩ := @refundDueWrite_spec shared.store id now target steady waited
      refine ⟨steady', kept, ?_⟩
      rintro _ ⟨⟩ key (rfl | ⟨_, ⟨⟩, _⟩)
      exact (openCleanup_iff.mp isOpen).1
  | purged event pass =>
      refine ⟨steady, fun _ pending => pending, ?_⟩
      rintro _ ⟨⟩ key names
      exact named key names
  | finished now quiet =>
      obtain ⟨steady', -, kept, -⟩ := finishFailedCleanup_spec steady now
      exact ⟨steady', kept, fun after is key names => kept key (named key (quiet.names after is key names))⟩
  | listed hooked finishes names =>
      refine ⟨steady, fun _ pending => pending, ?_⟩
      rintro _ ⟨⟩ key named
      exact names key named

/-- **The proof outline** of the provisioner. -/
theorem provisioner_outline (recipe : Recipe) {id : OrderId} {store : Store}
    (uncleaned : Uncleaned store id) :
    Outline (fun _ shared => Steady id shared.store) (Knows id) (provisioner recipe id store)
      fun _ _ => True where
  start := uncleaned.steady
  spawn pool request _ asserted := by
    refine ⟨asserted.invariant, ?_, fun other sibling _ found => asserted.thread other sibling found⟩
    rintro _ ⟨⟩ key names
    cases request <;> exact names.elim
  advance pool task thread answer _ asserted found := by
    have owes := moved_owes
      (advance_moved recipe id pool.shared thread.recovering answer thread.phase) asserted.invariant
      (asserted.thread task thread found)
    refine ⟨owes.steady, fun next is key names => ?_, fun other sibling _ here key names => ?_⟩
    · obtain ⟨phase, isNext, rfl⟩ := Option.map_eq_some_iff.mp is
      exact owes.names phase isNext key names
    · exact owes.kept key (asserted.thread other sibling here key names)
  drop pool task thread _ asserted _ :=
    ⟨asserted.invariant, fun _ is => (by cases is), fun other sibling _ found =>
      asserted.thread other sibling found⟩
  environment pool other _ asserted := by
    have elsewhere := other.elsewhere pool.shared.store
    have entries := Elsewhere.sameEntries elsewhere
    have steady : Steady id pool.shared.store := asserted.invariant
    refine ⟨steady.same entries (fun left => ⟨mt elsewhere.provisioning.mp left.provisioning,
      mt elsewhere.live.mp left.live⟩) fun waits live => ?_, fun task thread found key names => ?_⟩
    · exact steady.waiting (elsewhere.provisioning.mp waits) (elsewhere.live.mp live)
    · exact (entries.pending key).mpr (asserted.thread task thread found key names)
  crash pool _ asserted := asserted.invariant

/-! ### Where nothing tracks the resource -/

/-- The resource exists, and neither the order nor a live instance row stands for it. -/
structure Untracked (id : OrderId) (shared : Shared) : Prop where
  resource : shared.resource = true
  left : Left shared.store id

/-- **An untracked resource has a drive on its way**, or an open cleanup that will run again. -/
def Accounted (id : OrderId) (pool : Pool Shared Thread) : Prop :=
  Untracked id pool.shared →
    (∀ key, OpenCleanup pool.shared.store id key →
      ∃ task thread, pool.threads.row task = some thread ∧ Finishes key thread.phase) →
    ∃ task thread, pool.threads.row task = some thread ∧ Hooked thread.phase

/-- The task goes on after the choice. -/
def Survives {Event : Type} (task : ℕ) : Schedule Request Answer Event → Prop
  | .crash => False
  | .drop other | .advance other _ => task ≠ other
  | _ => True

instance {Event : Type} (task : ℕ) (choice : Schedule Request Answer Event) :
    Decidable (Survives task choice) :=
  match choice with
  | .crash => .isFalse not_false
  | .drop other | .advance other _ => inferInstanceAs (Decidable (task ≠ other))
  | .spawn _ | .environment _ => .isTrue trivial

/-- **The choice cuts a drive off** between its hook and its transaction: a crash, a cancelled task, or
an error of the store. -/
def Cuts {Event : Type} (pool : Pool Shared Thread) : Schedule Request Answer Event → Prop
  | .crash => pool.threads.Any fun _ thread => Hooked thread.phase
  | .drop task => ∃ thread, pool.threads.row task = some thread ∧ Hooked thread.phase
  | .advance task answer => answer.storeError = true ∧
      ∃ thread, pool.threads.row task = some thread ∧ Deciding thread.phase
  | _ => False

/-- **No drive is cut off that is the last to know of the resource**: it does not exist, or the order
waits or is live, or a cleanup is open that no surviving task is about to close, or another drive that
ran its hook survives. -/
def Attentive {Event : Type} (id : OrderId) (pool : Pool Shared Thread)
    (choice : Schedule Request Answer Event) : Prop :=
  Cuts pool choice → Untracked id pool.shared →
    (pool.shared.store.eventLog.rows.Any fun key _ => OpenCleanup pool.shared.store id key ∧
      ¬ pool.threads.Any fun task thread => Survives task choice ∧ Finishes key thread.phase) ∨
    pool.threads.Any fun task thread => Survives task choice ∧ Hooked thread.phase

section Accounted

variable {id : OrderId} {pool : Pool Shared Thread} {task : ℕ} {thread : Thread} {shared : Shared}
  {next : Option Thread}

/-- A task without a hook behind it moves, and closes at most its own entry. -/
theorem Accounted.passive (accounted : Accounted id pool)
    (found : pool.threads.row task = some thread) (idle : ¬ Hooked thread.phase)
    (untracked : Untracked id shared → Untracked id pool.shared)
    (opened : ∀ key, OpenCleanup pool.shared.store id key →
      OpenCleanup shared.store id key ∨ Finishes key thread.phase)
    (quiet : ∀ after, next = some after → ∀ key, ¬ Finishes key after.phase) :
    Accounted id ⟨shared, pool.threads.assign task next, pool.spawned⟩ := by
  intro untracked' closing
  obtain ⟨other, sibling, here, hooked⟩ := accounted (untracked untracked') fun key isOpen => by
    obtain still | own := opened key isOpen
    · obtain ⟨other, sibling, here, finishes⟩ := closing key still
      by_cases same : other = task
      · subst same
        rw [Table.assign_row_self] at here
        exact absurd finishes (quiet sibling here key)
      · rw [Table.assign_row_other _ _ same] at here
        exact ⟨other, sibling, here, finishes⟩
    · exact ⟨task, thread, found, own⟩
  have different : other ≠ task := by
    rintro rfl
    cases found.symm.trans here
    exact idle hooked
  exact ⟨other, sibling, (Table.assign_row_other _ _ different).trans here, hooked⟩

/-- A drive that was cut off was not the last to know of the resource. -/
theorem Accounted.cut {Event : Type} {choice : Schedule Request Answer Event}
    (attentive : Attentive id pool choice) (cuts : Cuts pool choice)
    (survives : ∀ other sibling, Survives other choice → pool.threads.row other = some sibling →
      (pool.threads.assign task next).row other = some sibling)
    (survived : ∀ other sibling, (pool.threads.assign task next).row other = some sibling →
      (Survives other choice ∧ pool.threads.row other = some sibling) ∨
        ∀ key, ¬ Finishes key sibling.phase) :
    Accounted id ⟨pool.shared, pool.threads.assign task next, pool.spawned⟩ := by
  intro untracked closing
  obtain ⟨key, entry, -, isOpen, unclosed⟩ | ⟨other, sibling, here, survives', hooked⟩ :=
    attentive cuts untracked
  · obtain ⟨other, sibling, here, finishes⟩ := closing key isOpen
    obtain ⟨survives', here'⟩ | quiet := survived other sibling here
    · exact absurd ⟨other, sibling, here', survives', finishes⟩ unclosed
    · exact absurd finishes (quiet key)
  · exact ⟨other, sibling, survives other sibling survives' here, hooked⟩

/-- The task itself is on its way. -/
theorem Accounted.hooked (id : OrderId) (pool : Pool Shared Thread) (task : ℕ) (shared : Shared)
    (after : Thread) (hooked : Hooked after.phase) :
    Accounted id ⟨shared, pool.threads.assign task (some after), pool.spawned⟩ :=
  fun _ _ => ⟨task, after, pool.threads.assign_row_self task (some after), hooked⟩

/-- A new entry is nobody's to close. -/
theorem Accounted.opened
    (asserted : Asserted (fun _ shared => Steady id shared.store) (Knows id) pool) {key : ℕ}
    (isOpen : OpenCleanup shared.store id key) (fresh : pool.shared.store.eventLog.last < key)
    (quiet : ∀ after, next = some after → ∀ key, ¬ Finishes key after.phase) :
    Accounted id ⟨shared, pool.threads.assign task next, pool.spawned⟩ := by
  intro _ closing
  obtain ⟨other, sibling, here, finishes⟩ := closing key isOpen
  by_cases same : other = task
  · subst same
    rw [Table.assign_row_self] at here
    exact absurd finishes (quiet sibling here key)
  · rw [Table.assign_row_other _ _ same] at here
    have names : Names key sibling.phase := by
      cases phase : sibling.phase with
      | finishing event pass =>
          rw [phase] at finishes
          exact .inl finishes.symm
      | _ =>
          rw [phase] at finishes
          exact finishes.elim
    obtain ⟨event, found, -⟩ := asserted.thread other sibling here key names
    exact absurd (pool.shared.store.eventLog.le_last found) (Nat.not_le_of_lt fresh)

/-- **The step of a task.** -/
theorem accounted_advance {answer : Answer} {after : Option Phase}
    (attentive : Attentive id pool (.advance task answer : Schedule Request Answer (Bystander id)))
    (asserted : Asserted (fun _ shared => Steady id shared.store) (Knows id) pool)
    (found : pool.threads.row task = some thread)
    (moved : Moved id pool.shared answer thread.phase shared after) (accounted : Accounted id pool) :
    Accounted id ⟨shared, pool.threads.assign task (after.map fun phase => ⟨phase, thread.recovering⟩),
      pool.spawned⟩ := by
  have steady : Steady id pool.shared.store := asserted.invariant
  have quietly : Quiet thread.phase after → ∀ next : Thread,
      (after.map fun phase => ⟨phase, thread.recovering⟩) = some next →
        ∀ key, ¬ Finishes key next.phase := by
    intro quiet next is
    obtain ⟨phase, isNext, rfl⟩ := Option.map_eq_some_iff.mp is
    exact quiet.finishes phase isNext
  generalize was : thread.phase = phase at moved quietly
  cases moved with
  | read idle open_ quiet =>
      exact accounted.passive found (was ▸ idle) (fun untracked => untracked) (fun _ => .inl)
        (quietly quiet)
  | @listed next hooked finishes names =>
      refine accounted.passive found ?_ (fun untracked => untracked) (fun _ => .inl) ?_
      · rw [was]
        exact not_false
      · rintro _ ⟨⟩
        exact finishes
  | made loaded failed =>
      exact .hooked _ _ _ _ ⟨.provisioned loaded failed, thread.recovering⟩ trivial
  | @on _ next was' stays => exact .hooked _ _ _ _ ⟨next, thread.recovering⟩ stays
  | cut deciding failed quiet =>
      refine .cut attentive ⟨failed, thread, found, was ▸ deciding⟩ (fun other sibling survives here => ?_)
        fun other sibling here => ?_
      · exact (Table.assign_row_other _ _ survives).trans here
      · by_cases same : other = task
        · subst same
          rw [Table.assign_row_self] at here
          exact .inr (quietly quiet sibling here)
        · rw [Table.assign_row_other _ _ same] at here
          exact .inl ⟨same, here⟩
  | owned deciding tracked quiet => exact fun untracked => absurd untracked.left tracked
  | activated deciding waited left live entries quiet => exact fun untracked => absurd live untracked.left.live
  | claimed now deciding left =>
      obtain ⟨-, -, isOpen, -⟩ := cleanupPending_spec steady left now
      refine .opened asserted isOpen (Nat.lt_succ_self _) ?_
      rintro _ ⟨⟩
      exact fun _ => not_false
  | refunded target now deciding waited =>
      obtain ⟨-, isOpen, -⟩ := @refundDueWrite_spec pool.shared.store id now target steady waited
      refine .opened asserted isOpen (Nat.lt_succ_self _) ?_
      rintro _ ⟨⟩
      exact fun _ => not_false
  | purged event pass => exact fun untracked => absurd untracked.resource Bool.false_ne_true
  | unpurged less quiet =>
      refine accounted.passive found ?_ (fun untracked => ⟨less untracked.resource, untracked.left⟩)
        (fun _ => .inl) (quietly quiet)
      rw [was]
      exact not_false
  | unfinished quiet =>
      refine accounted.passive found ?_ (fun untracked => untracked) (fun _ => .inl) (quietly quiet)
      rw [was]
      exact not_false
  | @finished event pass next now quiet =>
      obtain ⟨-, left, -, others⟩ := @finishFailedCleanup_spec pool.shared.store id event steady now
      refine accounted.passive found ?_ (fun untracked => ⟨untracked.resource, left.mp untracked.left⟩)
        (fun key isOpen => ?_) (quietly quiet)
      · rw [was]
        exact not_false
      · by_cases same : key = event
        · subst same
          rw [was]
          exact .inr rfl
        · exact .inl (others key same isOpen)

/-- **Every attentive step keeps the resource accounted for.** -/
theorem accounted_step {recipe : Recipe} {store : Store}
    (choice : Schedule Request Answer (Bystander id)) (attentive : Attentive id pool choice)
    (asserted : Asserted (fun _ shared => Steady id shared.store) (Knows id) pool)
    (accounted : Accounted id pool) :
    Accounted id ((provisioner recipe id store).step pool choice) := by
  cases choice with
  | spawn request =>
      intro untracked closing
      have fresh : ∀ other sibling, pool.threads.row other = some sibling → other ≠ pool.spawned :=
        fun other sibling here => (asserted.known other sibling here).ne
      obtain ⟨other, sibling, here, hooked⟩ := accounted untracked fun key isOpen => by
        obtain ⟨other, sibling, here, finishes⟩ := closing key isOpen
        simp only [Program.step, provisioner, Table.put_row] at here
        split_ifs at here
        · cases here
          cases request <;> exact finishes.elim
        · exact ⟨other, sibling, here, finishes⟩
      exact ⟨other, sibling, (Table.put_row_other _ _ (fresh other sibling here)).trans here, hooked⟩
  | advance task answer =>
      cases found : pool.threads.row task with
      | none => simpa only [Program.step, found] using accounted
      | some thread =>
          simp only [Program.step, found]
          exact accounted_advance attentive asserted found
            (advance_moved recipe id pool.shared thread.recovering answer thread.phase) accounted
  | drop task =>
      cases found : pool.threads.row task with
      | none => simpa only [Program.step, found] using accounted
      | some thread =>
          simp only [Program.step, found]
          by_cases hooked : Hooked thread.phase
          · refine .cut attentive ⟨thread, found, hooked⟩ (fun other sibling survives here => ?_)
              fun other sibling here => ?_
            · exact (Table.assign_row_other _ _ survives).trans here
            · by_cases same : other = task
              · subst same
                rw [Table.assign_row_self] at here
                cases here
              · rw [Table.assign_row_other _ _ same] at here
                exact .inl ⟨same, here⟩
          · exact accounted.passive found hooked (fun untracked => untracked) (fun _ => .inl)
              fun _ is => by cases is
  | environment other =>
      have elsewhere := other.elsewhere pool.shared.store
      have entries := Elsewhere.sameEntries elsewhere
      intro untracked closing
      refine accounted ⟨untracked.resource, mt elsewhere.provisioning.mpr untracked.left.provisioning,
        mt elsewhere.live.mpr untracked.left.live⟩ fun key isOpen => closing key ?_
      exact (entries.openCleanup key).mpr isOpen
  | crash =>
      intro untracked closing
      have closed : ∀ key, ¬ OpenCleanup pool.shared.store id key := by
        intro key isOpen
        obtain ⟨task, thread, found, -⟩ := closing key isOpen
        cases found
      obtain ⟨task, thread, found, hooked⟩ :=
        accounted untracked fun key isOpen => absurd isOpen (closed key)
      obtain ⟨key, -, -, isOpen, -⟩ | ⟨other, sibling, here, survives, -⟩ :=
        attentive ⟨task, thread, found, hooked⟩ untracked
      · exact absurd isOpen (closed key)
      · exact False.elim survives

end Accounted

/-! ### The result -/

/-- **The resource is tracked** whenever no drive is between its hook and its transaction, and none that
a live instance row tracks is about to be destroyed. -/
structure Tracked (id : OrderId) (pool : Pool Shared Thread) : Prop where
  tracked : (∀ task thread, pool.threads.row task = some thread → ¬ Hooked thread.phase) →
    pool.shared.resource = true →
      HasLiveInstance pool.shared.store id ∨ Provisioning pool.shared.store id ∨
        ∃ key, OpenCleanup pool.shared.store id key
  destroys : ∀ task thread event pass, pool.threads.row task = some thread →
    thread.phase = .cleaning event pass → ¬ HasLiveInstance pool.shared.store id

/-- **No provisioned resource is leaked**, in any interleaving that cuts off no drive that is the last to
know of the resource. -/
theorem resource_tracked (recipe : Recipe) (id : OrderId) (store : Store) (uncleaned : Uncleaned store id)
    (choices : List (Schedule Request Answer (Bystander id)))
    (attentive : (provisioner recipe id store).machine.Meets (Attentive id) choices) :
    Tracked id ((provisioner recipe id store).machine.run choices) := by
  let holds (pool : Pool Shared Thread) : Prop :=
    Asserted (fun _ shared => Steady id shared.store) (Knows id) pool ∧ Accounted id pool
  have outline := provisioner_outline recipe uncleaned
  obtain ⟨asserted, accounted⟩ : holds ((provisioner recipe id store).machine.run choices) :=
    (provisioner recipe id store).machine.invariant_of_meets
      ⟨outline.always [], fun untracked => absurd untracked.resource Bool.false_ne_true⟩
      (fun pool choice attentive both =>
        ⟨outline.step pool choice trivial both.1, accounted_step choice attentive both.1 both.2⟩)
      choices attentive
  generalize (provisioner recipe id store).machine.run choices = pool at asserted accounted
  refine ⟨fun idle exists_ => ?_, fun task thread event pass found phase => ?_⟩
  · by_contra leaked
    simp only [not_or, not_exists] at leaked
    obtain ⟨live, waits, closed⟩ := leaked
    obtain ⟨task, thread, found, hooked⟩ :=
      accounted ⟨exists_, waits, live⟩ fun key isOpen => absurd isOpen (closed key)
    exact idle task thread found hooked
  · have names : Names event thread.phase := by
      rw [phase]
      exact .inl rfl
    exact (asserted.invariant.left event (asserted.thread task thread found event names)).live

/-! ### A run -/

instance (store : Store) (id : OrderId) : Decidable (Left store id) :=
  decidable_of_iff (¬ Provisioning store id ∧ ¬ HasLiveInstance store id)
    ⟨fun both => ⟨both.1, both.2⟩, fun left => ⟨left.provisioning, left.live⟩⟩

instance (id : OrderId) (shared : Shared) : Decidable (Untracked id shared) :=
  decidable_of_iff (shared.resource = true ∧ Left shared.store id)
    ⟨fun both => ⟨both.1, both.2⟩, fun untracked => ⟨untracked.resource, untracked.left⟩⟩

instance (pool : Pool Shared Thread) (task : ℕ) (holds : Phase → Prop) [DecidablePred holds] :
    Decidable (∃ thread, pool.threads.row task = some thread ∧ holds thread.phase) :=
  decidable_of_iff (((pool.threads.row task).any fun thread => decide (holds thread.phase)) = true)
    (by simp [Option.any_eq_true])

instance {Event : Type} (pool : Pool Shared Thread) (choice : Schedule Request Answer Event) :
    Decidable (Cuts pool choice) :=
  match choice with
  | .crash => inferInstanceAs (Decidable (pool.threads.Any _))
  | .drop task => inferInstanceAs (Decidable (∃ thread, pool.threads.row task = some thread ∧ _))
  | .advance _ _ => inferInstanceAs (Decidable (_ ∧ _))
  | .spawn _ | .environment _ => .isFalse not_false

instance {Event : Type} (id : OrderId) (pool : Pool Shared Thread)
    (choice : Schedule Request Answer Event) : Decidable (Attentive id pool choice) :=
  inferInstanceAs (Decidable (_ → _ → _))

/-- The store of an order that was just paid. -/
def paidOrder (key : RequestKey) : Store :=
  ((daemon plainIntake (World.fresh 0)).run ([.boot, .list 0 plainListing] ++
    ordering key (plainIssued 1 3600) ++ [.capture ⟨.order key, 21, 21000, 0⟩])).store

theorem uncleaned_paidOrder : Uncleaned (paidOrder ⟨1, 1⟩) ⟨1, 1⟩ where
  entries key event found cleanup := by
    have none_ : ¬ (paidOrder ⟨1, 1⟩).eventLog.rows.Any fun _ event =>
        event.kind = .provisionCleanupPending ∨ event.kind = .provisionCleanupDone := by
      decide
    exact none_ ⟨key, event, found, cleanup.2⟩
  waiting := by decide

/-- A step that goes well, and one whose `provision` hook fails. -/
def well (key : RequestKey) : Answer := { order := .order key }

def fails (key : RequestKey) : Answer := { order := .order key, provisioned := false }

/-- Two drives run their hooks; the first one activates the order, and the second one leaves it. -/
def racing (key : RequestKey) : List (Schedule Request Answer (Bystander key)) :=
  [.spawn .drive, .spawn .recover, .advance 0 (well key), .advance 1 (well key), .advance 1 (well key),
    .advance 0 (well key), .advance 0 (well key), .advance 1 (fails key), .advance 0 (well key),
    .advance 1 (well key), .advance 1 (well key), .advance 1 (well key), .advance 1 (well key), .crash]

theorem resource_tracked_racing :
    (provisioner plainIntake.recipe ⟨1, 1⟩ (paidOrder ⟨1, 1⟩)).machine.Meets (Attentive ⟨1, 1⟩)
        (racing ⟨1, 1⟩) ∧
      Tracked ⟨1, 1⟩ ((provisioner plainIntake.recipe ⟨1, 1⟩ (paidOrder ⟨1, 1⟩)).machine.run
        (racing ⟨1, 1⟩)) :=
  have attentive : (provisioner plainIntake.recipe ⟨1, 1⟩ (paidOrder ⟨1, 1⟩)).machine.Meets
      (Attentive ⟨1, 1⟩) (racing ⟨1, 1⟩) := by
    decide +kernel
  ⟨attentive, resource_tracked _ _ _ uncleaned_paidOrder _ attentive⟩

/-- The first drive fails for good and cleans up; the second one runs its hook again, and the process
crashes before its transaction. -/
def leaking (key : RequestKey) : List (Schedule Request Answer (Bystander key)) :=
  ([.spawn .drive, .spawn .drive, .advance 0 (well key), .advance 1 (well key)] :
      List (Schedule Request Answer (Bystander key))) ++
    List.replicate 6 (Schedule.advance 0 (fails key)) ++
    [Schedule.advance 0 (well key), .advance 0 (well key), .advance 0 (well key),
      .advance 1 (well key), .crash]

/-- **A crash leaks the resource**: nothing is in progress, and nothing tracks it. -/
theorem crash_leaks :
    ¬ Tracked ⟨1, 1⟩ ((provisioner plainIntake.recipe ⟨1, 1⟩ (paidOrder ⟨1, 1⟩)).machine.run
        (leaking ⟨1, 1⟩)) := by
  have idle : ((provisioner plainIntake.recipe ⟨1, 1⟩ (paidOrder ⟨1, 1⟩)).machine.run
      (leaking ⟨1, 1⟩)).threads = Table.empty := rfl
  have leaked : ((provisioner plainIntake.recipe ⟨1, 1⟩ (paidOrder ⟨1, 1⟩)).machine.run
        (leaking ⟨1, 1⟩)).shared.resource = true ∧
      ¬ HasLiveInstance ((provisioner plainIntake.recipe ⟨1, 1⟩ (paidOrder ⟨1, 1⟩)).machine.run
        (leaking ⟨1, 1⟩)).shared.store ⟨1, 1⟩ ∧
      ¬ Provisioning ((provisioner plainIntake.recipe ⟨1, 1⟩ (paidOrder ⟨1, 1⟩)).machine.run
        (leaking ⟨1, 1⟩)).shared.store ⟨1, 1⟩ ∧
      ¬ ((provisioner plainIntake.recipe ⟨1, 1⟩ (paidOrder ⟨1, 1⟩)).machine.run
        (leaking ⟨1, 1⟩)).shared.store.eventLog.rows.Any fun key _ =>
          OpenCleanup ((provisioner plainIntake.recipe ⟨1, 1⟩ (paidOrder ⟨1, 1⟩)).machine.run
            (leaking ⟨1, 1⟩)).shared.store ⟨1, 1⟩ key := by
    decide +kernel
  generalize (provisioner plainIntake.recipe ⟨1, 1⟩ (paidOrder ⟨1, 1⟩)).machine.run
    (leaking ⟨1, 1⟩) = pool at idle leaked
  obtain ⟨exists_, live, waits, closed⟩ := leaked
  intro tracked
  obtain here | here | ⟨key, isOpen⟩ := tracked.tracked (fun task thread found => by
    rw [idle] at found
    cases found) exists_
  · exact live here
  · exact waits here
  · have entry := isOpen
    obtain ⟨event, found, -⟩ := entry
    exact closed ⟨key, event, found, isOpen⟩

end Lnrent.Cleanup
